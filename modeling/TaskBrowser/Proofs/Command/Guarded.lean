import TaskBrowser.Platform
import TaskBrowser.Proofs.Session.Compiled

/-!
# What typed lines leave alone

Some variables can be set from a command file only and some cannot be set at all.  What is behind
them, the templates that are compiled from it, and the settings that are behind no variable are
what a session guards (`Session.guarded`).

A line that the user types leaves all of it as it is, however the line ends, unless its word is
`source`: a command file may do more.  The frame is proved construct by construct
(`Action.Keeps`), and the one operation that could break it is setting a variable, where the
permission of the variable is what it comes down to (`Session.setVariable_keeps`).
-/

namespace TaskBrowser

/-! ## Actions that keep a part of the session -/

namespace Action

variable {α β γ : Type} {part : Session → γ}

/-- The action leaves a part of the session as it is, however it ends. -/
def Keeps (part : Session → γ) (x : Action α) : Prop :=
  ∀ w, part (effect x w).2.session = part w.session

namespace Keeps

/-- What the action leaves, however it ended. -/
theorem left {x : Action α} (hx : Keeps part x) {w w' : World} {r : Except Fault α}
    (h : effect x w = (r, w')) : part w'.session = part w.session := by
  have hpart := hx w
  rwa [h] at hpart

theorem pure (a : α) : Keeps part (Pure.pure a : Action α) := fun _ => rfl

theorem throw (e : Fault) : Keeps part (MonadExcept.throw e : Action α) := fun _ => rfl

theorem fail (f : Failure) : Keeps part (Action.fail f : Action α) := fun _ => rfl

theorem session : Keeps part Action.session := fun _ => rfl

theorem note (n : Note) : Keeps part (Action.note n) := fun _ => rfl

theorem onHost (x : HostAction α) : Keeps part (Action.onHost x) := fun w => by
  rw [effect_onHost]

theorem ask (f : Client → HostAction α) : Keeps part (Session.ask f) := fun w => by
  rw [Session.effect_ask]

theorem orCrash (x : Except Crash α) : Keeps part (Action.orCrash x) := fun w => by
  rw [effect_orCrash]

/-- A change of the session that leaves the part as it is. -/
theorem change {f : Session → Session} (h : ∀ s, part (f s) = part s) :
    Keeps part (Action.change f) := fun w => h w.session

theorem bind {x : Action α} {f : α → Action β} (hx : Keeps part x) (hf : ∀ a, Keeps part (f a)) :
    Keeps part (x >>= f) := by
  intro w
  have hfirst := hx w
  rw [effect_bind]
  generalize effect x w = ended at hfirst ⊢
  rcases ended with ⟨e | a, w'⟩
  · exact hfirst
  · exact (hf a w').trans hfirst

theorem rescue {x : Action α} {f : Failure → Action α} (hx : Keeps part x)
    (hf : ∀ e, Keeps part (f e)) : Keeps part (Action.rescue x f) := by
  intro w
  have hfirst := hx w
  rw [effect_rescue]
  generalize effect x w = ended at hfirst ⊢
  rcases ended with ⟨(e | c) | a, w'⟩
  · exact (hf e w').trans hfirst
  · exact hfirst
  · exact hfirst

end Keeps

end Action

/-! ## What is guarded -/

/-- What the lines that the user types do not change. -/
structure Guarded where
  /-- The length of the history. -/
  historyMax : Int
  /-- The text of the title. -/
  titleFormat : Text
  /-- The text of a task's line. -/
  taskFormat : Text
  /-- The text of the title of a task's details. -/
  viewFormat : Text
  /-- What these texts are compiled to, in their order. -/
  templates : Template × Template × Template
  /-- The name of the task program. -/
  taskProgram : Text
  /-- The command file. -/
  commandFile : FilePath
  /-- The number of colour pairs. -/
  colorPairs : Int
  /-- The version of the task program. -/
  taskVersion : Text

/-- What is behind variables that anyone may set. -/
def Source.isOpen : Source → Bool
  | .setting .filter | .setting .followTask | .setting .sortMode | .setting .statusbarTimeout
  | .logLevel | .search | .selectedLine => true
  | _ => false

/-- What is behind variables that not everyone may set, and is no count of what is shown. -/
def Source.isGuarded : Source → Bool
  | .setting .historyMax | .setting .titleFormat | .setting .taskFormat | .setting .viewFormat
  | .programAuthor | .programName | .programVersion | .taskVersion => true
  | _ => false

theorem isOpen_of_always :
    ∀ e ∈ variableEntries, e.permission = .always → e.source.isOpen = true := by
  decide

theorem isGuarded_of_ne_always :
    ∀ e ∈ variableEntries, e.permission ≠ .always → e.source ≠ .taskCount →
      e.source.isGuarded = true := by
  decide

namespace Session

open TaskBrowser.Action

/-- What a session guards. -/
def guarded (s : Session) : Guarded where
  historyMax := s.config.historyMax
  titleFormat := s.config.titleFormat
  taskFormat := s.config.taskFormat
  viewFormat := s.config.viewFormat
  templates := (s.titleTemplate, s.taskTemplate, s.viewTemplate)
  taskProgram := s.config.taskProgram
  commandFile := s.config.commandFile
  colorPairs := s.config.colorPairs
  taskVersion := s.taskVersion

variable {s t : Session}

theorem value_of_guarded {source : Source} (hguarded : source.isGuarded = true)
    (h : t.guarded = s.guarded) : t.value source = s.value source := by
  cases source with
  | setting x =>
      cases x with
      | historyMax => exact congrArg (Json.int ·.historyMax) h
      | titleFormat => exact congrArg (Json.text ·.titleFormat) h
      | taskFormat => exact congrArg (Json.text ·.taskFormat) h
      | viewFormat => exact congrArg (Json.text ·.viewFormat) h
      | _ => cases hguarded
  | programAuthor => rfl
  | programName => rfl
  | programVersion => rfl
  | taskVersion => exact congrArg (Json.text ·.taskVersion) h
  | _ => cases hguarded

/-! ## The selection, sorting and loading -/

theorem restore_guarded (s : Session) (current : Option Record) :
    (s.restore current).guarded = s.guarded := by
  obtain ⟨n, hn⟩ := restore_eq s current
  rw [hn]
  rfl

theorem notify_keeps (message : Text) (isError : Bool) : Keeps guarded (notify message isError) :=
  fun _ => rfl

theorem sortStore_keeps : Keeps guarded sortStore :=
  .bind .session fun _ => .bind (.orCrash _) fun _ => .change fun _ => rfl

theorem sort_keeps (mode : Option Text) : Keeps guarded (sort mode) := by
  have hsort : Keeps guarded (do
      let before ← Action.session
      sortStore
      Action.change (·.restore before.selectedRecord)) :=
    .bind .session fun _ => .bind sortStore_keeps fun _ => .change fun s => restore_guarded s _
  rcases mode with _ | _ | ⟨c, t⟩
  · exact hsort
  · exact hsort
  · exact .bind (.change fun _ => rfl) fun _ => hsort

theorem variableMessage_keeps (name : Text) : Keeps guarded (variableMessage name) := by
  refine .bind .session fun s => ?_
  split
  · exact .pure _
  · exact .throw _

section Loading

variable [Interpreter]

theorem reload_keeps : Keeps guarded reload := by
  refine .bind .session fun _ => .bind (.ask _) fun _ => .bind (.change fun _ => rfl) fun _ => ?_
  exact .bind sortStore_keeps fun _ => .bind (.note _) fun _ =>
    .change fun s => restore_guarded s _

theorem setFilter_keeps (filter : Text) : Keeps guarded (setFilter filter) := by
  refine .bind (.change fun _ => rfl) fun _ => .bind reload_keeps fun _ => ?_
  exact .bind .session fun _ => .bind (notify_keeps _ _) fun _ => .pure _

/-- Something that is asked, a load, and a message. -/
theorem loadAfter_keeps {α : Type} (f : Client → HostAction α) (message : Text) :
    Keeps guarded (do let _ ← ask f; reload; notify message false) :=
  .bind (.ask f) fun _ => .bind reload_keeps fun _ => notify_keeps _ _

theorem searchNext_keeps : Keeps guarded searchNext := by
  refine .bind .session fun s => ?_
  split
  · refine .bind (.orCrash _) fun found => ?_
    split
    · exact .bind (notify_keeps _ _) fun _ => .pure _
    · split
      · exact .bind (notify_keeps _ _) fun _ => .bind (.change fun _ => rfl) fun _ => .pure _
      · exact .bind (.change fun _ => rfl) fun _ => .pure _
  · exact .bind (notify_keeps _ _) fun _ => .pure _

theorem searchFor_keeps (pattern : Text) : Keeps guarded (searchFor pattern) :=
  .bind (.change fun _ => rfl) fun _ => searchNext_keeps

end Loading

/-! ## Setting a variable -/

section Assigning

variable [Validator]

/-- A value for a setting that anyone may set changes nothing that is guarded. -/
theorem set_guarded {x : Setting} {v : Json} {c : Config}
    (hopen : (Source.setting x).isOpen = true) (h : s.config.set x v = .ok c) :
    ({ s with config := c } : Session).guarded = s.guarded := by
  have hmap {α : Type} {r : Except Text α} {f : α → Config} (h : r.map f = .ok c) :
      ∃ a, c = f a := by
    cases r with
    | error e => cases h
    | ok a => exact ⟨a, (Except.ok.inj h).symm⟩
  cases x with
  | filter => obtain ⟨a, rfl⟩ := hmap h; rfl
  | followTask => obtain ⟨a, rfl⟩ := hmap h; rfl
  | sortMode => obtain ⟨a, rfl⟩ := hmap h; rfl
  | statusbarTimeout => obtain ⟨a, rfl⟩ := hmap h; rfl
  | _ => cases hopen

theorem assignSetting_keeps {x : Setting} (hopen : (Source.setting x).isOpen = true) (v : Json) :
    Keeps guarded (assignSetting x v) := by
  have hplain : isFormat x = false := by
    cases x with
    | titleFormat => cases hopen
    | taskFormat => cases hopen
    | viewFormat => cases hopen
    | _ => rfl
  intro w
  rw [effect_assignSetting]
  cases h : w.session.config.set x v with
  | error _ => rfl
  | ok c =>
      rw [hplain]
      exact set_guarded hopen h

theorem assign_keeps {source : Source} (hopen : source.isOpen = true) (v : Json) :
    Keeps guarded (assign source v) := by
  cases source with
  | setting x => exact assignSetting_keeps hopen v
  | logLevel =>
      exact .bind (.change fun _ => rfl) fun _ => .bind (.orCrash _) fun _ => fun _ => rfl
  | search => exact .change fun _ => rfl
  | selectedLine => exact .bind (.orCrash _) fun _ => .change fun _ => rfl
  | _ => cases hopen

/-- Not from a command file, only a variable that anyone may set is given a value. -/
theorem setVariable_keeps (name text : Text) : Keeps guarded (setVariable name text false) := by
  intro w
  rw [effect_setVariable]
  cases hfind : variableEntries.find? (·.name == name) with
  | none => rfl
  | some e =>
      dsimp only
      cases haccept : e.accept text false with
      | error f => rfl
      | ok v =>
          obtain ⟨⟨hnever, hfile⟩, -⟩ := Entry.accept_eq_ok_iff.1 haccept
          have halways : e.permission = .always := by
            cases hperm : e.permission with
            | always => rfl
            | fromFile => exact absurd (hfile hperm) Bool.false_ne_true
            | never => exact absurd hperm hnever
          exact assign_keeps (isOpen_of_always e (List.mem_of_find?_eq_some hfind) halways) v w

/-- A variable that cannot be set fails to be set, also from a command file. -/
theorem effect_setVariable_never {e : Entry} (he : e ∈ variableEntries)
    (hnever : e.permission = .never) (text : Text) (fromFile : Bool) (w : World) :
    effect (setVariable e.name text fromFile) w = (.error (.failure (.readOnly e.name)), w) := by
  rw [effect_setVariable, variableEntries_find? he]
  dsimp only
  rw [Entry.accept, if_pos hnever]

end Assigning

end Session

/-! ## The commands -/

namespace Command

open TaskBrowser.Action Session

theorem runShow_keeps (args : Text) : Keeps guarded (runShow args) := by
  rw [runShow]
  split
  · exact .fail _
  · exact variableMessage_keeps _

theorem addRule_keeps (object : ColorObject) (predicate : Option Text) (c : ColorPair) :
    Keeps guarded (addRule object predicate c) := by
  refine .bind .session fun s => ?_
  split
  · exact .fail _
  · exact .bind (.change fun _ => rfl) fun _ => .bind (.onHost _) fun _ => .pure _

theorem runColor_keeps (args : Text) : Keeps guarded (runColor args) := by
  rw [runColor]
  split
  · split
    · exact .fail _
    · refine .bind .session fun _ => .bind (.orCrash _) fun _ => .bind (.orCrash _) fun _ => ?_
      split
      · exact .fail _
      · exact .fail _
      · exact addRule_keeps _ _ _
  · exact .fail _

theorem searchResult_keeps (found : Bool) : Keeps guarded (searchResult found) := by
  refine .bind .session fun s => ?_
  split
  · exact .pure _
  · exact .fail _

theorem runSet_keeps [Validator] (args : Text) : Keeps guarded (runSet args false) := by
  rw [runSet]
  split
  split
  · exact .fail _
  · exact .bind (setVariable_keeps _ _) fun _ => variableMessage_keeps _

theorem runSearch_keeps [Interpreter] (args : Text) : Keeps guarded (runSearch args) := by
  rw [runSearch]
  split
  · exact .fail _
  · exact .bind (searchFor_keeps args) searchResult_keeps

/-- The word of a line. -/
def word (line : Text) : Text := (splitSpace (Text.trim line)).1

variable [Interpreter] [Validator]

theorem perform_keeps {sourceFile : Text → Action Text} {c : Command} (hc : c ≠ .source)
    (args : Text) : Keeps guarded (perform sourceFile c args false) := by
  cases c with
  | set => exact runSet_keeps args
  | «show» => exact runShow_keeps args
  | color => exact runColor_keeps args
  | source => exact absurd rfl hc
  | reload => exact .bind reload_keeps fun _ => .pure _
  | sync => exact loadAfter_keeps _ _
  | undo => exact loadAfter_keeps _ _
  | sort => exact .bind (sort_keeps _) fun _ => .bind .session fun _ => .pure _
  | filter => exact .bind (setFilter_keeps args) fun _ => .bind .session fun _ => .pure _
  | search => exact runSearch_keeps args
  | searchNext => exact .bind searchNext_keeps searchResult_keeps
  | version => exact .pure _
  | dump => exact .bind .session fun _ => .bind (.onHost _) fun _ => .pure _

theorem runLine_keeps {line : Text} (h : word line ≠ "source") :
    Keeps guarded (runLine line false) := by
  rw [runLine]
  cases hline : ofLine? line with
  | none =>
      have hnone : ∃ f, runLineWith runFile line false = Action.fail f :=
        runLineWith_of_none hline false
      obtain ⟨f, hfail⟩ := hnone
      rw [hfail]
      exact .fail f
  | some found =>
      obtain ⟨c, args⟩ := found
      obtain ⟨c', hword, hpair⟩ := Option.map_eq_some_iff.1 hline
      obtain ⟨rfl, -⟩ := Prod.mk.inj hpair
      have hname : c'.name = word line := by
        rw [ofName?] at hword
        have hfound := List.find?_some hword
        simpa [word] using hfound
      have hc : c' ≠ .source := by
        rintro rfl
        exact h hname.symm
      rw [runLineWith_of_command hline]
      exact .bind (.note _) fun _ => perform_keeps hc args

end Command

/-! ## Lines one after another -/

namespace Session

open TaskBrowser.Action

variable [Interpreter] [Validator] {s t : Session}

theorem runCommand_keeps {line : Text} (h : Command.word line ≠ "source") :
    Keeps guarded (runCommand line) :=
  .rescue (.bind (Command.runLine_keeps h) fun _ => notify_keeps _ _) fun _ =>
    .bind (.note _) fun _ => notify_keeps _ _

/-- Lines that do not run a command file lead from a session to another one, however each of them
ends.  Every line may find other files, another clock and other answers of the task program, and
its message may be left for the status line or not. -/
inductive Typed : Session → Session → Prop where
  | nothing {s : Session} : Typed s s
  | line {s t u : Session} {line : Text} {h h' : Host} {r : Except Fault Text} (hs : Typed s t)
      (hword : Command.word line ≠ "source")
      (hline : effect (Command.runLine line false) ⟨t, h⟩ = (r, ⟨u, h'⟩)) : Typed s u
  | prompt {s t u : Session} {line : Text} {h h' : Host} {r : Except Fault Text} (hs : Typed s t)
      (hword : Command.word line ≠ "source")
      (hline : effect (runCommand line) ⟨t, h⟩ = (r, ⟨u, h'⟩)) : Typed s u

theorem Typed.guarded (h : Typed s t) : t.guarded = s.guarded := by
  induction h with
  | nothing => rfl
  | line _ hword hline ih => exact ((Command.runLine_keeps hword).left hline).trans ih
  | prompt _ hword hline ih => exact ((runCommand_keeps hword).left hline).trans ih

/-- Only the note of the line is left of it. -/
theorem effect_runLine_set_never {e : Entry} (he : e ∈ variableEntries)
    (hnever : e.permission = .never) {line args : Text} {w : World} {fromFile : Bool}
    (hline : Command.ofLine? line = some (.set, args))
    (hname : (Command.splitSpace args).1 = e.name) :
    effect (Command.runLine line fromFile) w =
      (.error (.failure (.readOnly e.name)),
        { w with host := w.host.withNote (Command.noteOf line) }) := by
  have hnames : ∀ e ∈ variableEntries, e.name.isEmpty = false := by decide
  rw [effect_runLine_set hline, Command.runSet]
  dsimp only
  rw [hname, hnames e he, if_neg Bool.false_ne_true, effect_bind,
    effect_setVariable_never he hnever]

/-- However many lines are typed and however they end, what the session guards is as it was, and so
are the values of the variables that not everyone may set, apart from the number of tasks.  And a
variable that cannot be set at all fails to be set from anywhere, which changes nothing. -/
theorem typed_guarded (h : Typed s t) :
    t.guarded = s.guarded ∧
      (∀ e ∈ variableEntries, e.permission ≠ .always → e.source ≠ .taskCount →
        t.value e.source = s.value e.source) ∧
      ∀ e ∈ variableEntries, e.permission = .never →
        (Failure.readOnly e.name).category = .command ∧
          ∀ fromFile w,
            (∀ text, effect (setVariable e.name text fromFile) w =
              (.error (.failure (.readOnly e.name)), w)) ∧
            ∀ line args, Command.ofLine? line = some (.set, args) →
              (Command.splitSpace args).1 = e.name →
                effect (Command.runLine line fromFile) w =
                  (.error (.failure (.readOnly e.name)),
                    { w with host := w.host.withNote (Command.noteOf line) }) := by
  refine ⟨h.guarded, ?_, ?_⟩
  · intro e he hperm hcount
    exact value_of_guarded (isGuarded_of_ne_always e he hperm hcount) h.guarded
  intro e he hnever
  refine ⟨rfl, fun fromFile w => ?_⟩
  refine ⟨fun text => effect_setVariable_never he hnever text fromFile w, ?_⟩
  intro line args hline hname
  exact effect_runLine_set_never he hnever hline hname

end Session

namespace Session

/-- A session with the settings as they are by default. -/
def untouched : Session := bare { commandFile := .ofText "rc" }

/-- A world in which a line was typed that fails, and then one that sets the sort mode. -/
def typedTwice : World :=
  let failed := (effect (Command.runLine "set title_format $task_count" false)
    ⟨untouched, nestedHost⟩).2
  (effect (runCommand " set sort_mode n") failed).2

/-- The title is the one before, and what cannot be set says so. -/
theorem typed_guarded_twice :
    Typed untouched typedTwice.session ∧ typedTwice.session.config.sortMode = "n" ∧
      typedTwice.session.guarded = untouched.guarded ∧
      effect (Command.runLine "set program_name x" true) typedTwice =
        (.error (.failure (.readOnly "program_name")),
          { typedTwice with
            host := typedTwice.host.withNote (Command.noteOf "set program_name x") }) := by
  have hfirst : Command.word "set title_format $task_count" ≠ "source" := by decide
  have hsecond : Command.word " set sort_mode n" ≠ "source" := by decide
  have htyped : Typed untouched typedTwice.session :=
    .prompt (.line .nothing hfirst rfl) hsecond rfl
  obtain ⟨hguarded, -, hnever⟩ := typed_guarded htyped
  obtain ⟨-, hname⟩ := hnever ⟨"program_name", .text, .programName, .never⟩
    (List.mem_of_getElem? (i := 5) rfl) rfl
  obtain ⟨-, hline⟩ := hname true typedTwice
  exact ⟨htyped, by decide +kernel, hguarded, hline _ "program_name x" (by decide) (by decide)⟩

end Session

end TaskBrowser
