import TaskBrowser.Files.Tree
import TaskBrowser.Platform
import TaskBrowser.Proofs.Session.Reachable

/-!
# Templates of the current formats

The templates of a session are what its formats compile to.  They are compiled when the session is
new and by every step that changes a format, and no other step touches a format or a template.

A crash in the middle of such a step leaves a format without its template, so the sessions here
are those that are reached without crashes.
-/

namespace TaskBrowser

/-! ## Formats among the settings -/

namespace Config

variable {c d : Config} {x : Setting} {v : Json}

theorem templates_eq_ok_iff {title task view : Template} :
    c.templates = .ok (title, task, view) ↔
      Template.compile variableNames c.titleFormat = .ok title ∧
        Template.compile variableNames c.taskFormat = .ok task ∧
        Template.compile variableNames c.viewFormat = .ok view := by
  rw [templates]
  rcases Template.compile variableNames c.titleFormat with e | title'
  · simp [bind, Except.bind]
  rcases Template.compile variableNames c.taskFormat with e | task'
  · simp [bind, Except.bind]
  rcases Template.compile variableNames c.viewFormat with e | view'
  · simp [bind, Except.bind]
  · simp [bind, Except.bind, pure, Except.pure]

/-- A setting that is no format leaves the formats as they are. -/
theorem set_formats [Validator] (hplain : Session.isFormat x = false) (h : c.set x v = .ok d) :
    d.titleFormat = c.titleFormat ∧ d.taskFormat = c.taskFormat ∧ d.viewFormat = c.viewFormat := by
  have hne {y : Setting} (hy : Session.isFormat y = true) : y ≠ x := by
    rintro rfl
    exact absurd (hy.symm.trans hplain) (by decide)
  refine ⟨?_, ?_, ?_⟩
  · exact Json.text.inj (value_set_other h (hne (y := .titleFormat) rfl))
  · exact Json.text.inj (value_set_other h (hne (y := .taskFormat) rfl))
  · exact Json.text.inj (value_set_other h (hne (y := .viewFormat) rfl))

end Config

namespace Session

variable {s t : Session}

/-- Every template is what its format compiles to. -/
structure Compiled (s : Session) : Prop where
  title : Template.compile variableNames s.config.titleFormat = .ok s.titleTemplate
  task : Template.compile variableNames s.config.taskFormat = .ok s.taskTemplate
  view : Template.compile variableNames s.config.viewFormat = .ok s.viewTemplate

/-! ## Compiling and keeping -/

theorem Compiled.of_templates {ts : Template × Template × Template}
    (h : s.config.templates = .ok ts) : (s.withTemplates ts).Compiled := by
  obtain ⟨title, task, view⟩ := ts
  obtain ⟨htitle, htask, hview⟩ := Config.templates_eq_ok_iff.1 h
  exact ⟨htitle, htask, hview⟩

theorem Compiled.set_plain [Validator] {x : Setting} {v : Json} {c : Config} (h : s.Compiled)
    (hplain : isFormat x = false) (hset : s.config.set x v = .ok c) :
    Compiled { s with config := c } := by
  obtain ⟨htitle, htask, hview⟩ := Config.set_formats hplain hset
  constructor
  · rw [htitle]
    exact h.title
  · rw [htask]
    exact h.task
  · rw [hview]
    exact h.view

theorem Compiled.selectUuid (h : s.Compiled) (uuid : Text) : (s.selectUuid uuid).Compiled := by
  rw [Session.selectUuid]
  cases s.store.position? uuid with
  | none => exact h
  | some n => exact ⟨h.title, h.task, h.view⟩

theorem Compiled.withStore (h : s.Compiled) (rs : List Record) :
    Compiled { s with store := rs } :=
  ⟨h.title, h.task, h.view⟩

theorem Compiled.withMode (h : s.Compiled) (mode : Option Text) : (s.withMode mode).Compiled := by
  rcases mode with _ | _ | ⟨c, t⟩
  · exact h
  · exact h
  · exact ⟨h.title, h.task, h.view⟩

theorem Compiled.settled (h : s.Compiled) {current : Option Record}
    (ht : s.settled current = .ok t) : t.Compiled := by
  obtain ⟨sorted, n, -, rfl⟩ := settled_eq_ok ht
  exact ⟨h.title, h.task, h.view⟩

theorem create_compiled {c : Config} {h : Host} {w : World} (hw : create c h = (.ok (), w)) :
    w.session.Compiled := by
  obtain ⟨b, ts, -, hts, hs⟩ := create_eq_ok hw
  rw [hs]
  exact .of_templates hts

/-! ## Steps and runs -/

variable [Interpreter] [Validator]

theorem Change.compiled {may : Entry → Prop} (hchange : Change may s t) (h : s.Compiled) :
    t.Compiled := by
  cases hchange with
  | notified message isError => exact ⟨h.title, h.task, h.view⟩
  | versioned version => exact ⟨h.title, h.task, h.view⟩
  | moved position => exact ⟨h.title, h.task, h.view⟩
  | movedTo uuid => exact h.selectUuid uuid
  | found hn => exact ⟨h.title, h.task, h.view⟩
  | searching text => exact ⟨h.title, h.task, h.view⟩
  | filtered filter => exact ⟨h.title, h.task, h.view⟩
  | loaded hfresh hsettled => exact (h.withStore _).settled hsettled
  | sorted mode hsettled => exact (h.withMode mode).settled hsettled
  | refreshed uuid hfresh hu hsettled =>
      subst hu
      exact (h.withStore _).settled hsettled
  | assigned he hsource hmay hplain hset => exact h.set_plain hplain hset
  | reformatted he hsource hmay hformat hset hts => exact .of_templates hts
  | levelled level => exact ⟨h.title, h.task, h.view⟩
  | ruled hrule => exact ⟨h.title, h.task, h.view⟩
  | unruled object predicate => exact ⟨h.title, h.task, h.view⟩
  | colored hr hpair => exact ⟨h.title, h.task, h.view⟩

theorem Reachable.compiled (hs : Reachable Foreseen s) : s.Compiled := by
  refine hs.invariant (fun _ _ _ => create_compiled) (fun _ _ => Change.compiled) ?_
  rintro ⟨c, hc⟩
  exact absurd rfl (hc c)

/-! ## Setting a format -/

variable {line args : Text} {fromFile : Bool} {w w' : World}

/-- A line notes itself before it sets the variable. -/
theorem effect_runLine_set (hline : Command.ofLine? line = some (.set, args)) :
    effect (Command.runLine line fromFile) w =
      effect (Command.runSet args fromFile)
        { w with host := w.host.withNote (Command.noteOf line) } := by
  rw [Command.runLine, Command.runLineWith_of_command hline, effect_bind, Action.effect_note]
  rfl

theorem runLine_set_failed {f : Failure} (hline : Command.ofLine? line = some (.set, args))
    (h : effect (Command.runLine line fromFile) w = (.error (.failure f), w')) :
    w'.session = w.session := by
  rw [effect_runLine_set hline] at h
  rw [Command.runSet_failed h]

theorem runLine_set_format {x : Setting} {m : Text}
    (hline : Command.ofLine? line = some (.set, args)) (hformat : isFormat x = true)
    (hname : (Command.splitSpace args).1 = x.name)
    (h : effect (Command.runLine line fromFile) w = (.ok m, w')) :
    w'.session.config.value x = .text (stripQuotes (Command.splitSpace args).2) := by
  rw [effect_runLine_set hline] at h
  exact Command.runSet_format hformat hname h

theorem Reachable.runLine {m : Text} (hs : Reachable Foreseen w.session)
    (h : effect (Command.runLine line fromFile) w = (.ok m, w')) :
    Reachable Foreseen w'.session := by
  have hstep : effect (Operation.command line fromFile).action w = (.ok (), w') := by
    rw [Operation.action, effect_bind_ok h]
    rfl
  exact .step (.command line fromFile) hs hstep nofun

/-- In every session that is reached by operations that return or fail, every template is what its
format compiles to.  A line that sets a variable and fails leaves the session as it was, and one
that sets a format and returns leaves the text, without its quotes, and all templates of the
formats as they are then. -/
theorem reachable_compiled (hs : Reachable Foreseen s) :
    s.Compiled ∧
      ∀ line args fromFile h, Command.ofLine? line = some (.set, args) →
        match effect (Command.runLine line fromFile) ⟨s, h⟩ with
        | (.error (.failure _), w) => w.session = s
        | (.error (.crash _), _) => True
        | (.ok _, w) => w.session.Compiled ∧
            ∀ x, isFormat x = true → (Command.splitSpace args).1 = x.name →
              w.session.config.value x = .text (stripQuotes (Command.splitSpace args).2) := by
  refine ⟨hs.compiled, ?_⟩
  intro line args fromFile h hline
  rcases hrun : effect (Command.runLine line fromFile) ⟨s, h⟩ with ⟨(f | c) | m, w⟩
  · exact runLine_set_failed hline hrun
  · trivial
  · refine ⟨(Reachable.runLine hs hrun).compiled, ?_⟩
    intro x hformat hname
    exact runLine_set_format hline hformat hname hrun

end Session

namespace Session

/-- A host with a command file that runs another one. -/
def nestedHost : Host where
  files := fun _ _ => FileTree.system [⟨["rc"], "source more\nset view_format $task_count"⟩,
    ⟨["more"], "set task_format '$description'\n"⟩]
  now := .universal 2024 6 1 9 30
  answers := []

/-- The command file is run, and then a format is set where only a command file may set it. -/
def reformatted : World :=
  runAll [.source "rc", .command "set view_format x" false]
    (create { commandFile := .ofText "rc" } nestedHost).2

/-- The formats are those of the command files. -/
theorem reachable_compiled_nested :
    Reachable Foreseen reformatted.session ∧
      Template.compile variableNames "$description" = .ok reformatted.session.taskTemplate ∧
      Template.compile variableNames "$task_count" = .ok reformatted.session.viewTemplate := by
  have hnew : create { commandFile := .ofText "rc" } nestedHost =
      (.ok (), (create { commandFile := .ofText "rc" } nestedHost).2) := Prod.ext (by rfl) rfl
  have hs : Reachable Foreseen reformatted.session :=
    .runAll_of_allEnd _ (.created hnew) (by decide +kernel)
  obtain ⟨htask, hview⟩ : reformatted.session.config.taskFormat = "$description" ∧
      reformatted.session.config.viewFormat = "$task_count" := by
    decide +kernel
  obtain ⟨hcompiled, -⟩ := reachable_compiled hs
  refine ⟨hs, ?_, ?_⟩
  · rw [← htask]
    exact hcompiled.task
  · rw [← hview]
    exact hcompiled.view

end Session

end TaskBrowser
