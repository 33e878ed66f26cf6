import TaskBrowser.Proofs.Effect
import TaskBrowser.Proofs.Variable
import TaskBrowser.Session.Setting

/-!
# Setting variables

What comes of setting a variable, by what is behind it.  A setting that is the text of a template
takes effect if all three texts compile; otherwise the setting is changed and the templates may be
left in part.  Showing a variable changes nothing and never crashes.
-/

namespace TaskBrowser

/-! ## The templates -/

/-- The templates of the title, of a task's line and of the title of a task's details. -/
def Config.templates (c : Config) : Except Crash (Template × Template × Template) := do
  let title ← Template.compile variableNames c.titleFormat
  let task ← Template.compile variableNames c.taskFormat
  let view ← Template.compile variableNames c.viewFormat
  return (title, task, view)

namespace Session

/-- The session with other templates. -/
def withTemplates (s : Session) (ts : Template × Template × Template) : Session :=
  { s with titleTemplate := ts.1, taskTemplate := ts.2.1, viewTemplate := ts.2.2 }

/-- The formats that compile become the templates. -/
theorem effect_compileFormats_ok {w : World} {ts : Template × Template × Template}
    (h : w.session.config.templates = .ok ts) :
    effect compileFormats w = (.ok (), { w with session := w.session.withTemplates ts }) := by
  rw [Config.templates] at h
  cases htitle : Template.compile variableNames w.session.config.titleFormat with
  | error c => rw [htitle] at h; cases h
  | ok title =>
      cases htask : Template.compile variableNames w.session.config.taskFormat with
      | error c => rw [htitle, htask] at h; cases h
      | ok task =>
          cases hview : Template.compile variableNames w.session.config.viewFormat with
          | error c => rw [htitle, htask, hview] at h; cases h
          | ok view =>
              rw [htitle, htask, hview] at h
              cases h
              simp [compileFormats, effect_bind, htitle, htask, hview, Except.mapError,
                withTemplates]

/-- Formats of which one does not compile end in its crash, with the templates as far as they were
compiled. -/
theorem effect_compileFormats_error {w : World} {c : Crash}
    (h : w.session.config.templates = .error c) :
    ∃ ts, effect compileFormats w =
      (.error (.crash c), { w with session := w.session.withTemplates ts }) := by
  rw [Config.templates] at h
  cases htitle : Template.compile variableNames w.session.config.titleFormat with
  | error d =>
      rw [htitle] at h
      cases h
      refine ⟨(w.session.titleTemplate, w.session.taskTemplate, w.session.viewTemplate), ?_⟩
      simp [compileFormats, effect_bind, htitle, Except.mapError, withTemplates]
  | ok title =>
      cases htask : Template.compile variableNames w.session.config.taskFormat with
      | error d =>
          rw [htitle, htask] at h
          cases h
          refine ⟨(title, w.session.taskTemplate, w.session.viewTemplate), ?_⟩
          simp [compileFormats, effect_bind, htitle, htask, Except.mapError, withTemplates]
      | ok task =>
          cases hview : Template.compile variableNames w.session.config.viewFormat with
          | error d =>
              rw [htitle, htask, hview] at h
              cases h
              refine ⟨(title, task, w.session.viewTemplate), ?_⟩
              simp [compileFormats, effect_bind, htitle, htask, hview, Except.mapError,
                withTemplates]
          | ok view => rw [htitle, htask, hview] at h; cases h

end Session

/-! ## The settings -/

namespace Config

variable {c d : Config} {x y : Setting} {v : Json}

/-- The settings with a text for one of those that variables of texts stand for. -/
def withText (c : Config) (x : Setting) (t : Text) : Config :=
  match x with
  | .filter => { c with filter := t }
  | .sortMode => { c with sortMode := t }
  | .titleFormat => { c with titleFormat := t }
  | .taskFormat => { c with taskFormat := t }
  | .viewFormat => { c with viewFormat := t }
  | _ => c

/-- A variable of texts stands for the setting. -/
def IsText (x : Setting) : Prop :=
  x = .filter ∨ x = .sortMode ∨ x = .titleFormat ∨ x = .taskFormat ∨ x = .viewFormat

theorem value_withText (c : Config) (hx : IsText x) (t : Text) :
    (c.withText x t).value x = .text t := by
  rcases hx with rfl | rfl | rfl | rfl | rfl <;> rfl

theorem isText_of_isFormat (hformat : Session.isFormat x = true) : IsText x := by
  cases x with
  | titleFormat => exact .inr (.inr (.inl rfl))
  | taskFormat => exact .inr (.inr (.inr (.inl rfl)))
  | viewFormat => exact .inr (.inr (.inr (.inr rfl)))
  | _ => exact absurd hformat (by decide)

variable [Validator]

/-- A value for one setting leaves the others as they are. -/
theorem value_set_other (h : c.set x v = .ok d) (hy : y ≠ x) : d.value y = c.value y := by
  have hmap {α : Type} {r : Except Text α} {f : α → Config} (h : r.map f = .ok d) :
      ∃ a, d = f a := by
    cases r with
    | error e => cases h
    | ok a => exact ⟨a, (Except.ok.inj h).symm⟩
  cases x <;> obtain ⟨a, rfl⟩ := hmap h <;> cases y <;> first | rfl | exact absurd rfl hy

/-- Any text is taken for such a setting. -/
theorem set_text (c : Config) (hx : IsText x) (t : Text) :
    c.set x (.text t) = .ok (c.withText x t) := by
  rw [set.eq_def, Validator.text_text]
  rcases hx with rfl | rfl | rfl | rfl | rfl <;> rfl

theorem value_set_format (hformat : Session.isFormat x = true) {t : Text}
    (h : c.set x (.text t) = .ok d) : d.value x = .text t := by
  rw [set_text c (isText_of_isFormat hformat)] at h
  cases h
  exact value_withText c (isText_of_isFormat hformat) t

end Config

/-! ## What a variable accepts -/

namespace Entry

/-- The value that a variable takes when the user sets it to a text. -/
def accept (e : Entry) (text : Text) (fromFile : Bool) : Except Failure Json :=
  if e.permission = .never then .error (.readOnly e.name)
  else if e.permission = .fromFile && !fromFile then .error (.configOnly e.name)
  else
    match Variable.parse? e.kind text with
    | none => .error (.unparsable e.name text)
    | some x => .ok x

/-- The variable may be set, from a command file or from elsewhere. -/
def MaySet (e : Entry) (fromFile : Bool) : Prop :=
  e.permission ≠ .never ∧ (e.permission = .fromFile → fromFile = true)

/-- A variable accepts a text if it may be set and the text is a value of its kind. -/
theorem accept_eq_ok_iff {e : Entry} {text : Text} {fromFile : Bool} {v : Json} :
    e.accept text fromFile = .ok v ↔ e.MaySet fromFile ∧ Variable.parse? e.kind text = some v := by
  rw [accept, MaySet]
  cases e.permission with
  | always => cases Variable.parse? e.kind text <;> simp
  | fromFile => cases fromFile <;> cases Variable.parse? e.kind text <;> simp
  | never => simp

/-- What may be set from elsewhere may be set from a command file. -/
theorem MaySet.inFile {e : Entry} {fromFile : Bool} (h : e.MaySet fromFile) : e.MaySet true :=
  ⟨h.1, fun _ => rfl⟩

end Entry

/-- No two variables have the same name, so each is found by its name. -/
theorem variableEntries_find? {e : Entry} (he : e ∈ variableEntries) :
    variableEntries.find? (·.name == e.name) = some e := by
  have hnames : (variableEntries.map Entry.name).Nodup := by decide
  exact find?_of_mem hnames he

/-- No two variables have the same thing behind them. -/
theorem variableEntries_source_inj {e e' : Entry} (he : e ∈ variableEntries)
    (he' : e' ∈ variableEntries) (h : e.source = e'.source) : e = e' := by
  have hsources : (variableEntries.map Entry.source).Nodup := by decide
  exact List.inj_on_of_nodup_map hsources he he' h

namespace Session

/-- The variable of a name, as a session shows it. -/
theorem variableTable_find? (s : Session) (name : Text) :
    s.variableTable.find? name =
      (variableEntries.find? (·.name == name)).map fun e =>
        ⟨e.name, e.kind, s.value e.source, e.permission, true⟩ := by
  rw [VariableTable.find?, variableTable, List.find?_map]
  rfl

theorem variableTable_accept (s : Session) (name text : Text) (fromFile : Bool) :
    s.variableTable.accept name text fromFile =
      match variableEntries.find? (·.name == name) with
      | none => .error (.variableNotFound name)
      | some e => e.accept text fromFile := by
  rw [VariableTable.accept, variableTable_find?]
  cases hfind : variableEntries.find? (·.name == name) with
  | none => rfl
  | some e =>
      obtain rfl : e.name = name := by simpa using List.find?_some hfind
      simp only [Option.map_some, Bool.not_true, Bool.false_or, decide_eq_true_eq]
      rfl

/-! ## Setting and showing -/

/-- A text that a variable accepts is given to what is behind it, and any other is refused. -/
theorem effect_setVariable [Validator] (name text : Text) (fromFile : Bool) (w : World) :
    effect (setVariable name text fromFile) w =
      match variableEntries.find? (·.name == name) with
      | none => (.error (.failure (.variableNotFound name)), w)
      | some e =>
          match e.accept text fromFile with
          | .error f => (.error (.failure f), w)
          | .ok v => effect (assign e.source v) w := by
  rw [setVariable, effect_bind, Action.effect_session]
  dsimp only
  rw [variableTable_accept]
  cases hfind : variableEntries.find? (·.name == name) with
  | none => rfl
  | some e =>
      dsimp only
      cases e.accept text fromFile with
      | error f => rfl
      | ok v => rfl

/-- A value that a setting takes is in the settings, and the templates are compiled again if it is
one of their texts. -/
theorem effect_assignSetting [Validator] (x : Setting) (v : Json) (w : World) :
    effect (assignSetting x v) w =
      match w.session.config.set x v with
      | .error _ => (.error (.failure (.invalidValue x.name v.plain)), w)
      | .ok c =>
          if isFormat x then
            effect compileFormats { w with session := { w.session with config := c } }
          else (.ok (), { w with session := { w.session with config := c } }) := by
  rw [assignSetting, effect_bind, Action.effect_session]
  dsimp only
  cases w.session.config.set x v with
  | error e => rfl
  | ok c =>
      rw [effect_bind, Action.effect_change]
      dsimp only
      cases isFormat x <;> rfl

/-- A level of notes is kept as it was given, even if it has no rank. -/
theorem effect_assignLogLevel (v : Json) (w : World) :
    effect (assignLogLevel v) w =
      let s := { w.session with config := { w.session.config with logLevel := Text.upper v.plain } }
      match thresholdOf (Text.upper v.plain) with
      | .error c => (.error (.crash c), { w with session := s })
      | .ok n => (.ok (), ⟨s, { w.host with threshold := n }⟩) := by
  rw [assignLogLevel, effect_bind, Action.effect_change]
  dsimp only
  rw [effect_bind, Action.effect_orCrash]
  cases thresholdOf (Text.upper v.plain) <;> rfl

/-- The value behind a variable of whole numbers is one, or a truth value. -/
theorem value_integer {e : Entry} (he : e ∈ variableEntries) (hkind : e.kind = .int) (s : Session) :
    ∃ n, (s.value e.source).integer = .ok n := by
  simp only [variableEntries, List.mem_cons, List.not_mem_nil, or_false] at he
  rcases he with rfl | rfl | rfl | rfl | rfl | rfl | rfl | rfl | rfl | rfl | rfl | rfl | rfl | rfl |
    rfl | rfl <;> first | exact ⟨_, rfl⟩ | cases hkind

/-- The value of a variable that there is can be shown. -/
theorem valueText_of_mem {e : Entry} (he : e ∈ variableEntries) (s : Session) :
    ∃ t, Variable.valueText ⟨e.name, e.kind, s.value e.source, e.permission, true⟩ = .ok t := by
  rw [Variable.valueText]
  split
  · exact ⟨_, rfl⟩
  next hkind _ =>
    obtain ⟨n, hn⟩ := value_integer he hkind s
    exact ⟨Text.ofInt n, by rw [hn]; rfl⟩
  · exact ⟨_, rfl⟩
  · exact ⟨_, rfl⟩

/-- The variable as a session shows it. -/
def shown (s : Session) (e : Entry) : Variable :=
  ⟨e.name, e.kind, s.value e.source, e.permission, true⟩

/-- Showing a variable that there is gives its name and its value. -/
theorem effect_variableMessage_of_valueText {e : Entry} (he : e ∈ variableEntries) {t : Text}
    {w : World} (ht : (w.session.shown e).valueText = .ok t) :
    effect (variableMessage e.name) w = (.ok (e.name ++ ": " ++ t), w) := by
  rw [variableMessage, effect_bind, Action.effect_session]
  dsimp only
  rw [VariableTable.message, variableTable_find?, variableEntries_find? he]
  rw [shown] at ht
  simp only [Option.map_some, ht, effect_pure]

/-- Showing a variable that there is gives a message. -/
theorem effect_variableMessage_of_find? {name : Text} {e : Entry}
    (hfind : variableEntries.find? (·.name == name) = some e) (w : World) :
    ∃ m, effect (variableMessage name) w = (.ok m, w) := by
  have he : e ∈ variableEntries := List.mem_of_find?_eq_some hfind
  obtain rfl : e.name = name := by simpa using List.find?_some hfind
  obtain ⟨t, ht⟩ := valueText_of_mem he w.session
  exact ⟨_, effect_variableMessage_of_valueText he ht⟩

/-- Showing a variable gives its value, or fails because there is no such variable. -/
theorem effect_variableMessage (name : Text) (w : World) :
    (∃ m, effect (variableMessage name) w = (.ok m, w)) ∨
      effect (variableMessage name) w = (.error (.failure (.variableNotFound name)), w) := by
  cases hfind : variableEntries.find? (·.name == name) with
  | some e => exact .inl (effect_variableMessage_of_find? hfind w)
  | none =>
      right
      rw [variableMessage, effect_bind, Action.effect_session]
      dsimp only
      rw [VariableTable.message, variableTable_find?, hfind]
      rfl

end Session

end TaskBrowser
