import TaskBrowser.Proofs.Command.Line
import TaskBrowser.Proofs.Session.Crash
import TaskBrowser.Proofs.Session.Reachable

/-!
# What is asked of the task program

The host keeps the commands that the task program was run with, one after another.  What an action
runs is what it adds to them (`Action.Runs`).

Most operations run nothing (`Action.Silent`), and most of the others run exports only, a number of
them at most (`Action.ExportsAtMost`).  What changes a task runs one command that does so, of the
task that is selected when the operation begins, and then exports (`Action.ChangesFirst`).  If that
command fails there is no export after it.

The two first are properties of an action from every world, so they are proved by a rule for each
way of building actions.
-/

namespace TaskBrowser

/-! ## Runs -/

@[simp] theorem Host.withNote_ran (h : Host) (n : Note) : (h.withNote n).ran = h.ran := by
  rw [Host.withNote]
  split <;> rfl

@[simp] theorem Host.withNotes_ran (h : Host) (ns : List Note) : (h.withNotes ns).ran = h.ran := by
  obtain ⟨kept, hkept⟩ := Host.withNotes_eq ns h
  rw [hkept]

@[simp] theorem Host.runTask_ran (h : Host) (argv : List Text) :
    (h.runTask argv).2.ran = h.ran ++ [argv] := by
  rw [Host.runTask]
  cases h.answers <;> rfl

namespace Client

/-- A run is kept. -/
theorem run_ran (c : Client) (args : List Text) (overrides : Bool) (h : Host) :
    (effect (c.run args overrides) h).2.ran = h.ran ++ [c.argv overrides args] := by
  rw [effect_run]
  simp

end Client

/-- A command that exports tasks. -/
def IsExport (argv : List Text) : Prop := argv.getLast? = some "export"

/-- Commands that all export tasks, a number of them at most. -/
structure FewExports (most : Nat) (argvs : List (List Text)) : Prop where
  exports : ∀ argv ∈ argvs, IsExport argv
  few : argvs.length ≤ most

theorem FewExports.nil (most : Nat) : FewExports most [] := ⟨nofun, Nat.zero_le _⟩

theorem FewExports.append {m n : Nat} {as bs : List (List Text)} (ha : FewExports m as)
    (hb : FewExports n bs) : FewExports (m + n) (as ++ bs) where
  exports argv h := (List.mem_append.1 h).elim (ha.exports argv) (hb.exports argv)
  few := by
    rw [List.length_append]
    exact Nat.add_le_add ha.few hb.few

theorem Client.argv_isExport (c : Client) (overrides : Bool) (args : List Text) :
    IsExport (c.argv overrides (args ++ [("export" : Text)])) := by
  cases overrides with
  | true => exact List.getLast?_concat (l := c.program :: (quiet ++ args))
  | false => exact List.getLast?_concat (l := c.program :: args)

section Exporting

variable [Interpreter]

namespace Client

/-- An export runs one command at most. -/
theorem exportAll_ran (c : Client) (filter : Option Text) (h : Host) :
    ∃ argvs, (effect (c.exportAll filter) h).2.ran = h.ran ++ argvs ∧ FewExports 1 argvs := by
  rw [effect_exportAll]
  cases splitArguments (filter.getD []) with
  | error f => exact ⟨[], by simp, .nil 1⟩
  | ok args =>
      have hran := c.run_ran (args ++ [("export" : Text)]) true (h.withNote (exportNote filter))
      refine ⟨[c.argv true (args ++ [("export" : Text)])], ?_, ?_, by simp⟩
      · dsimp only
        generalize effect (c.run (args ++ [("export" : Text)]) true) _ = ended at hran ⊢
        rcases ended with ⟨e | out, h'⟩
        · simpa using hran
        · simpa using hran
      · simpa using c.argv_isExport true args

theorem exportOne_ran (c : Client) (uuid : Text) (h : Host) :
    ∃ argvs, (effect (c.exportOne uuid) h).2.ran = h.ran ++ argvs ∧ FewExports 1 argvs := by
  have hran := c.run_ran [uuid, "export"] true h
  rw [effect_exportOne]
  refine ⟨[c.argv true [uuid, "export"]], ?_, ?_, by simp⟩
  · generalize effect (c.run [uuid, "export"] true) h = ended at hran ⊢
    rcases ended with ⟨e | out, h'⟩
    · exact hran
    · simpa using hran
  · simpa using c.argv_isExport true [uuid]

end Client

end Exporting

namespace Action

variable {α β : Type}

/-- The commands that an action runs, one after another. -/
def Runs (x : Action α) (w : World) (argvs : List (List Text)) : Prop :=
  (effect x w).2.host.ran = w.host.ran ++ argvs

/-! ## Actions that run nothing -/

/-- The action runs no command. -/
def Silent (x : Action α) : Prop := ∀ w, Runs x w []

namespace Silent

/-- An action that leaves the commands that were run as they are. -/
theorem keep {x : Action α} (h : ∀ w, (effect x w).2.host.ran = w.host.ran) : Silent x := by
  intro w
  rw [Runs, List.append_nil]
  exact h w

theorem pure (a : α) : Silent (Pure.pure a : Action α) := keep fun _ => rfl

theorem throw (e : Fault) : Silent (MonadExcept.throw e : Action α) := keep fun _ => rfl

theorem fail (f : Failure) : Silent (Action.fail f : Action α) := keep fun _ => rfl

theorem session : Silent Action.session := keep fun _ => rfl

theorem get : Silent (MonadState.get : Action World) := keep fun _ => rfl

theorem change (f : Session → Session) : Silent (Action.change f) := keep fun _ => rfl

theorem note (n : Note) : Silent (Action.note n) := keep fun w => by simp

theorem orCrash (x : Except Crash α) : Silent (Action.orCrash x) := keep fun w => by simp

theorem attempt (x : Attempt α) : Silent (Action.attempt x) := keep fun w => by simp

theorem notes (ns : List Note) : Silent (Action.onHost (modify (·.withNotes ns))) :=
  keep fun w => by simp

theorem notify (message : Text) (isError : Bool) : Silent (Session.notify message isError) :=
  keep fun w => by simp

theorem bind {x : Action α} {f : α → Action β} (hx : Silent x) (hf : ∀ a, Silent (f a)) :
    Silent (x >>= f) := by
  refine keep fun w => ?_
  have hran : (effect x w).2.host.ran = w.host.ran := (hx w).trans (List.append_nil _)
  rw [effect_bind]
  generalize effect x w = ended at hran ⊢
  rcases ended with ⟨e | a, w'⟩
  · exact hran
  · exact ((hf a w').trans (List.append_nil _)).trans hran

theorem rescue {x : Action α} {f : Failure → Action α} (hx : Silent x)
    (hf : ∀ e, Silent (f e)) : Silent (Action.rescue x f) := by
  refine keep fun w => ?_
  have hran : (effect x w).2.host.ran = w.host.ran := (hx w).trans (List.append_nil _)
  rw [effect_rescue]
  generalize effect x w = ended at hran ⊢
  rcases ended with ⟨(e | c) | a, w'⟩
  · exact ((hf e w').trans (List.append_nil _)).trans hran
  · exact hran
  · exact hran

end Silent

/-! ## Actions that run exports -/

/-- The action runs exports only, a number of them at most. -/
def ExportsAtMost (most : Nat) (x : Action α) : Prop :=
  ∀ w, ∃ argvs, Runs x w argvs ∧ FewExports most argvs

namespace ExportsAtMost

theorem bind {m n : Nat} {x : Action α} {f : α → Action β} (hx : ExportsAtMost m x)
    (hf : ∀ a, ExportsAtMost n (f a)) : ExportsAtMost (m + n) (x >>= f) := by
  intro w
  obtain ⟨first, hran, hfirst⟩ := hx w
  rw [Runs] at hran
  simp only [Runs, effect_bind]
  generalize effect x w = ended at hran ⊢
  rcases ended with ⟨e | a, w'⟩
  · exact ⟨first, hran, hfirst.exports, hfirst.few.trans (Nat.le_add_right m n)⟩
  · obtain ⟨more, hmore, hfew⟩ := hf a w'
    refine ⟨first ++ more, ?_, hfirst.append hfew⟩
    rw [← List.append_assoc, ← hran]
    exact hmore

theorem silent {most : Nat} {x : Action α} (hx : Silent x) : ExportsAtMost most x :=
  fun w => ⟨[], hx w, .nil most⟩

/-- Something silent comes first. -/
theorem after {n : Nat} {x : Action α} {f : α → Action β} (hx : Silent x)
    (hf : ∀ a, ExportsAtMost n (f a)) : ExportsAtMost n (x >>= f) := by
  have h := bind (m := 0) (silent hx) hf
  rwa [Nat.zero_add] at h

/-- Something silent comes last. -/
theorem before {n : Nat} {x : Action α} {f : α → Action β} (hx : ExportsAtMost n x)
    (hf : ∀ a, Silent (f a)) : ExportsAtMost n (x >>= f) :=
  bind (n := 0) hx fun a => silent (hf a)

/-- What a question to the task program runs, the client does. -/
theorem ask {most : Nat} {f : Client → HostAction α}
    (hf : ∀ c h, ∃ argvs, (effect (f c) h).2.ran = h.ran ++ argvs ∧ FewExports most argvs) :
    ExportsAtMost most (Session.ask f) := by
  intro w
  obtain ⟨argvs, hran, hfew⟩ := hf w.session.asked w.host
  refine ⟨argvs, ?_, hfew⟩
  rw [Runs, Session.effect_ask]
  exact hran

end ExportsAtMost

/-! ## Actions that change a task -/

/-- The action runs one command first, and then exports, a number of them at most.  If the command
does not give an output there is no export, and if it fails so does the action. -/
def ChangesFirst (x : Action α) (args : List Text) (most : Nat) (w : World) : Prop :=
  ∃ exports, Runs x w (w.session.asked.argv true args :: exports) ∧ FewExports most exports ∧
    (w.host.pending.output? = none → exports = [] ∧ ∃ e, (effect x w).1 = .error e) ∧
    (w.host.pending.result? = none → ∃ f, (effect x w).1 = .error (.failure f))

/-- A command, and what comes after it. -/
theorem changesFirst_ask {f : Client → HostAction Text} {args : List Text} {y : Action β}
    {most : Nat} (w : World) (hf : ∀ c, f c = c.run args true) (hy : ExportsAtMost most y) :
    ChangesFirst (do let _ ← Session.ask f; y) args most w := by
  have hran := w.session.asked.run_ran args true w.host
  simp only [ChangesFirst, Runs, Session.effect_ask_bind, hf]
  cases hresult : w.host.pending.result? with
  | none =>
      obtain ⟨e, h', hrun⟩ := Client.run_of_noResult (c := w.session.asked) hresult
      rw [hrun] at hran ⊢
      exact ⟨[], hran, .nil most, fun _ => ⟨rfl, _, rfl⟩, fun _ => ⟨e, rfl⟩⟩
  | some printed =>
      obtain ⟨h', hrun, -⟩ := Client.run_of_result (c := w.session.asked) hresult
      rw [hrun] at hran ⊢
      cases printed with
      | error x => exact ⟨[], hran, .nil most, fun _ => ⟨rfl, _, rfl⟩, nofun⟩
      | ok out =>
          have hout : w.host.pending.output? = some out := by rw [Pending.output?, hresult]; rfl
          obtain ⟨exports, hexports, hfew⟩ := hy { w with host := h' }
          refine ⟨exports, ?_, hfew, ?_, nofun⟩
          · rw [List.append_cons, ← hran]
            exact hexports
          · intro hnone
            cases hout.symm.trans hnone

end Action

namespace Session

open TaskBrowser.Action

/-! ## Operations that run nothing -/

theorem context_silent : Silent context :=
  .bind .get fun _ => .bind (.orCrash _) fun _ => .pure _

theorem renderTitle_silent : Silent renderTitle :=
  .bind .session fun _ => .bind context_silent fun _ => .bind (.orCrash _) fun _ => .pure _

theorem renderViewTitle_silent : Silent renderViewTitle :=
  .bind .session fun _ => .bind context_silent fun _ => .bind (.orCrash _) fun _ => .pure _

theorem sortStore_silent : Silent sortStore :=
  .bind .session fun _ => .bind (.orCrash _) fun _ => .change _

theorem sort_silent (mode : Option Text) : Silent (sort mode) := by
  have hsort : Silent (do
      let before ← Action.session
      sortStore
      Action.change (·.restore before.selectedRecord)) :=
    .bind .session fun _ => .bind sortStore_silent fun _ => .change _
  rcases mode with _ | _ | ⟨c, t⟩
  · exact hsort
  · exact hsort
  · exact .bind (.change _) fun _ => hsort

theorem moveToUuid_silent (uuid : Text) : Silent (moveToUuid uuid) :=
  .bind .session fun _ => .bind (.change _) fun _ => .pure _

theorem stats_silent : Silent stats :=
  .bind .session fun _ => .bind (.orCrash _) fun _ => .pure _

theorem compileFormats_silent : Silent compileFormats := by
  refine .bind .session fun _ => .bind (.orCrash _) fun _ => .bind (.change _) fun _ => ?_
  refine .bind .session fun _ => .bind (.orCrash _) fun _ => .bind (.change _) fun _ => ?_
  exact .bind .session fun _ => .bind (.orCrash _) fun _ => .change _

theorem assignLogLevel_silent (v : Json) : Silent (assignLogLevel v) :=
  .bind (.change _) fun _ => .bind (.orCrash _) fun _ => .keep fun _ => rfl

theorem variableMessage_silent (name : Text) : Silent (variableMessage name) := by
  refine .bind .session fun s => ?_
  split
  · exact .pure _
  · exact .throw _

section Interpreting

variable [Interpreter]

theorem taskPair_silent (position : Nat) (r : Record) (selected : Bool) :
    Silent (taskPair position r selected) :=
  .bind .session fun _ => .bind (.attempt _) fun _ => .bind (.change _) fun _ => .pure _

theorem renderTask_silent (position : Nat) (r : Record) (selected : Bool) (c : RenderContext) :
    Silent (renderTask position r selected c) :=
  .bind (taskPair_silent position r selected) fun _ =>
    .bind .session fun _ => .bind (.orCrash _) fun _ => .pure _

theorem renderFrom_silent (c : RenderContext) (rs : List Record) :
    ∀ position, Silent (renderFrom c position rs) := by
  induction rs with
  | nil => intro position; exact .pure _
  | cons r rs ih =>
      intro position
      refine .bind .session fun s => .bind (renderTask_silent position r _ c) fun _ => ?_
      exact .bind (ih (position + 1)) fun _ => .pure _

theorem renderAll_silent : Silent renderAll :=
  .bind context_silent fun _ => .bind .session fun _ => renderFrom_silent _ _ _

theorem renderAt_silent (position : Nat) (selected : Bool) (c : RenderContext) :
    Silent (renderAt position selected c) := by
  refine .bind .session fun s => ?_
  split
  · exact .pure _
  · exact .bind (renderTask_silent _ _ _ c) fun _ => .pure _

theorem searchNext_silent : Silent searchNext := by
  refine .bind .session fun s => ?_
  split
  · refine .bind (.orCrash _) fun found => ?_
    split
    · exact .bind (.notify _ _) fun _ => .pure _
    · split
      · exact .bind (.notify _ _) fun _ => .bind (.change _) fun _ => .pure _
      · exact .bind (.change _) fun _ => .pure _
  · exact .bind (.notify _ _) fun _ => .pure _

theorem searchFor_silent (pattern : Text) : Silent (searchFor pattern) :=
  .bind (.change _) fun _ => searchNext_silent

end Interpreting

section Assigning

variable [Validator]

theorem assignSetting_silent (x : Setting) (v : Json) : Silent (assignSetting x v) := by
  refine .bind .session fun s => ?_
  split
  · exact .fail _
  · refine .bind (.change _) fun _ => ?_
    split
    · exact compileFormats_silent
    · exact .pure _

theorem assign_silent (source : Source) (v : Json) : Silent (assign source v) := by
  cases source with
  | setting x => exact assignSetting_silent x v
  | logLevel => exact assignLogLevel_silent v
  | search => exact .change _
  | selectedLine => exact .bind (.orCrash _) fun _ => .change _
  | programAuthor => exact .pure _
  | programName => exact .pure _
  | programVersion => exact .pure _
  | taskCount => exact .pure _
  | taskVersion => exact .pure _

theorem setVariable_silent (name text : Text) (fromFile : Bool) :
    Silent (setVariable name text fromFile) := by
  refine .bind .session fun s => ?_
  split
  · exact .fail _
  · split
    · exact .pure _
    · exact assign_silent _ _

end Assigning

end Session

namespace Command

open TaskBrowser.Action Session

/-! ## Commands that run nothing -/

/-- The command does without the task program. -/
def isQuiet : Command → Bool
  | .set | .show | .color | .sort | .search | .searchNext | .version | .dump => true
  | .source | .reload | .sync | .undo | .filter => false

theorem addRule_silent (object : ColorObject) (predicate : Option Text) (c : ColorPair) :
    Silent (addRule object predicate c) := by
  refine .bind .session fun s => ?_
  split
  · exact .fail _
  · exact .bind (.change _) fun _ => .bind (.notes _) fun _ => .pure _

theorem runColor_silent (args : Text) : Silent (runColor args) := by
  rw [runColor]
  split
  · split
    · exact .fail _
    · refine .bind .session fun _ => .bind (.orCrash _) fun _ => .bind (.orCrash _) fun _ => ?_
      split
      · exact .fail _
      · exact .fail _
      · exact addRule_silent _ _ _
  · exact .fail _

theorem runSet_silent [Validator] (args : Text) (fromFile : Bool) :
    Silent (runSet args fromFile) := by
  rw [runSet]
  split
  split
  · exact .fail _
  · exact .bind (setVariable_silent _ _ fromFile) fun _ => variableMessage_silent _

theorem runShow_silent (args : Text) : Silent (runShow args) := by
  rw [runShow]
  split
  · exact .fail _
  · exact variableMessage_silent _

theorem searchResult_silent (found : Bool) : Silent (searchResult found) := by
  refine .bind .session fun s => ?_
  split
  · exact .pure _
  · exact .fail _

theorem runSearch_silent [Interpreter] (args : Text) : Silent (runSearch args) := by
  rw [runSearch]
  split
  · exact .fail _
  · exact .bind (searchFor_silent args) searchResult_silent

/-- The line has a command that does without the task program, or none. -/
def isQuietLine (line : Text) : Bool := (ofLine? line).all (·.1.isQuiet)

variable [Interpreter] [Validator]

theorem perform_silent {sourceFile : Text → Action Text} {c : Command} (hc : c.isQuiet = true)
    (args : Text) (fromFile : Bool) : Silent (perform sourceFile c args fromFile) := by
  cases c with
  | set => exact runSet_silent args fromFile
  | «show» => exact runShow_silent args
  | color => exact runColor_silent args
  | sort => exact .bind (sort_silent _) fun _ => .bind .session fun _ => .pure _
  | search => exact runSearch_silent args
  | searchNext => exact .bind searchNext_silent searchResult_silent
  | version => exact .pure _
  | dump => exact .bind .session fun _ => .bind (.notes _) fun _ => .pure _
  | source => cases hc
  | reload => cases hc
  | sync => cases hc
  | undo => cases hc
  | filter => cases hc

theorem runLine_silent {line : Text} (h : isQuietLine line = true) (fromFile : Bool) :
    Silent (runLine line fromFile) := by
  rw [runLine]
  cases hline : ofLine? line with
  | none =>
      have hnone : ∃ f, runLineWith runFile line fromFile = Action.fail f :=
        runLineWith_of_none hline fromFile
      obtain ⟨f, hfail⟩ := hnone
      rw [hfail]
      exact .fail f
  | some found =>
      obtain ⟨c, args⟩ := found
      have hc : c.isQuiet = true := by simpa [isQuietLine, hline] using h
      rw [runLineWith_of_command hline]
      exact .bind (.note _) fun _ => perform_silent hc args fromFile

end Command

namespace Session

open TaskBrowser.Action

/-! ## Questions -/

/-- What needs the selected task goes on with it, and fails without one. -/
theorem effect_requireSelected_bind {β : Type} (f : Record → Action β) (w : World) :
    effect (requireSelected >>= f) w =
      match w.session.selectedRecord with
      | some r => effect (f r) w
      | none => (.error (.failure .noTaskSelected), w) := by
  rw [requireSelected, effect_bind, effect_bind, Action.effect_session]
  dsimp only
  cases w.session.selectedRecord <;> rfl

/-- What needs the selected task changes it if it changes that task. -/
theorem changesFirst_requireSelected {β : Type} {f : Record → Action β} {args : List Text}
    {most : Nat} {r : Record} {w : World} (hr : w.session.selectedRecord = some r)
    (h : ChangesFirst (f r) args most w) : ChangesFirst (requireSelected >>= f) args most w := by
  simp only [ChangesFirst, Runs, effect_requireSelected_bind, hr]
  exact h

/-- What is asked with words that cannot be told apart is not asked, and nothing changes. -/
theorem effect_ask_unparsable {β : Type} {f : Client → HostAction Text} {y : Text → Action β}
    {line : Text} {e : Failure} {g : List Text → List Text}
    (hf : ∀ c : Client, f c = (do let args ← Client.arguments line; c.run (g args) true))
    (he : Client.splitArguments line = .error e) (w : World) :
    effect (ask f >>= y) w = (.error (.failure e), w) := by
  rw [effect_ask_bind, hf, effect_bind, Client.effect_arguments, he]
  rfl

/-! ## Runs that run nothing -/

variable [Interpreter]

theorem runCommand_silent [Validator] {line : Text} (h : Command.isQuietLine line = true) :
    Silent (runCommand line) :=
  .rescue (.bind (Command.runLine_silent h false) fun _ => .notify _ _) fun _ =>
    .bind (.note _) fun _ => .notify _ _

/-- The operation does without the task program. -/
def Operation.isQuiet : Operation → Bool
  | .sort _ | .select _ | .selectUuid _ | .scrollUp | .scrollDown | .scrollHome | .scrollEnd
  | .search _ | .searchNext | .stats | .notify _ _ | .renderTask _ _ _ | .renderAll | .renderTitle
  | .renderViewTitle | .addRule _ _ _ | .removeRule _ _ | .setVariable _ _ _ => true
  | .runCommand line | .command line _ => Command.isQuietLine line
  | .startup | .mount | .loadCommandFile _ | .reload | .reloadRecord _ | .setFilter _
  | .toggleStarted | .complete | .delete | .add _ | .modify _ | .undo | .sync | .taskInfo
  | .source _ => false

theorem Operation.action_silent [Validator] {o : Operation} (h : o.isQuiet = true) :
    Silent o.action := by
  have discard {α : Type} {x : Action α} (hx : Silent x) : Silent (do let _ ← x) :=
    .bind hx fun _ => .pure _
  cases o with
  | sort mode => exact sort_silent mode
  | select position => exact .change _
  | selectUuid uuid => exact discard (moveToUuid_silent uuid)
  | scrollUp => exact .change _
  | scrollDown => exact .change _
  | scrollHome => exact .change _
  | scrollEnd => exact .change _
  | search pattern => exact discard (searchFor_silent pattern)
  | searchNext => exact discard searchNext_silent
  | stats => exact discard stats_silent
  | notify message isError => exact discard (.notify message isError)
  | renderTask position selected c => exact renderAt_silent position selected c
  | renderAll => exact discard renderAll_silent
  | renderTitle => exact discard renderTitle_silent
  | renderViewTitle => exact discard renderViewTitle_silent
  | addRule object predicate c => exact discard (Command.addRule_silent object predicate c)
  | removeRule object predicate => exact .change _
  | setVariable name text fromFile => exact setVariable_silent name text fromFile
  | runCommand line => exact discard (runCommand_silent h)
  | command line fromFile => exact discard (Command.runLine_silent h fromFile)
  | startup => cases h
  | mount => cases h
  | loadCommandFile path => cases h
  | reload => cases h
  | reloadRecord uuid => cases h
  | setFilter filter => cases h
  | toggleStarted => cases h
  | complete => cases h
  | delete => cases h
  | add line => cases h
  | modify line => cases h
  | undo => cases h
  | sync => cases h
  | taskInfo => cases h
  | source path => cases h

/-- Whatever is done without the task program, one after another, runs no command. -/
theorem runAll_silent [Validator] {os : List Operation} :
    ∀ {w : World}, (∀ o ∈ os, o.isQuiet = true) → (runAll os w).host.ran = w.host.ran := by
  induction os with
  | nil => intro w _; rfl
  | cons o os ih =>
      intro w h
      have hfirst := Operation.action_silent (h o List.mem_cons_self) w
      rw [Runs, List.append_nil] at hfirst
      exact (ih fun o' ho' => h o' (List.mem_cons_of_mem o ho')).trans hfirst

/-! ## Operations that run exports -/

theorem reload_exports : ExportsAtMost 1 reload := by
  refine .after .session fun before => ?_
  refine .before (.ask fun c => c.exportAll_ran _) fun rs => ?_
  exact .bind (.change _) fun _ => .bind sortStore_silent fun _ => .bind (.note _) fun _ =>
    .change _

theorem setFilter_exports (filter : Text) : ExportsAtMost 1 (setFilter filter) :=
  .after (.change _) fun _ => .before reload_exports fun _ =>
    .bind .session fun _ => .bind (.notify _ _) fun _ => .pure _

theorem reloadRecord_exports (uuid : Text) : ExportsAtMost 2 (reloadRecord uuid) := by
  have hreplace (kept : Option Record) : Silent (do
      Action.change fun s => { s with store := s.store.replace uuid kept }
      sort none) :=
    .bind (.change _) fun _ => sort_silent none
  refine .bind (m := 1) (n := 1) (.ask fun c => c.exportOne_ran uuid) fun found => ?_
  refine .after .session fun s => ?_
  cases found with
  | none => exact .after (.pure none) fun kept => .silent (hreplace kept)
  | some r =>
      dsimp only
      split
      · exact .after (.pure (some r)) fun kept => .silent (hreplace kept)
      · refine .before (.ask fun c => c.exportAll_ran _) fun shown => ?_
        exact .bind (.pure _) hreplace

/-! ## Operations that change a task -/

theorem changesFirst_reload {f : Client → HostAction Text} {args : List Text} (w : World)
    (hf : ∀ c, f c = c.run args true) (message : Text) :
    ChangesFirst (do let _ ← ask f; reload; notify message false) args 1 w :=
  changesFirst_ask w hf (.before reload_exports fun _ => .notify message false)

theorem changesFirst_reloadRecord {f : Client → HostAction Text} {args : List Text} (w : World)
    (hf : ∀ c, f c = c.run args true) (uuid message : Text) :
    ChangesFirst (do let _ ← ask f; reloadRecord uuid; notify message false) args 2 w :=
  changesFirst_ask w hf (.before (reloadRecord_exports uuid) fun _ => .notify message false)

variable {w : World} {r : Record}

theorem complete_changesFirst (hr : w.session.selectedRecord = some r) :
    ChangesFirst complete [r.uuid, "done"] 1 w :=
  changesFirst_requireSelected hr (changesFirst_reload w (fun _ => rfl) _)

theorem delete_changesFirst (hr : w.session.selectedRecord = some r) :
    ChangesFirst delete [r.uuid, "delete"] 1 w :=
  changesFirst_requireSelected hr (changesFirst_reload w (fun _ => rfl) _)

/-- A task is started unless it has a start after zero. -/
theorem toggleStarted_changesFirst (hr : w.session.selectedRecord = some r) :
    ChangesFirst toggleStarted [r.uuid, if r.start ≤ 0 then "start" else "stop"] 2 w := by
  refine changesFirst_requireSelected hr ?_
  by_cases hstart : r.start ≤ 0
  · have hstarted : r.started = false := by simpa [Record.started] using hstart
    rw [if_pos hstart]
    simpa [hstarted] using changesFirst_reloadRecord w (f := (·.start r.uuid)) (fun _ => rfl) _ _
  · have hstarted : r.started = true := by simpa [Record.started] using hstart
    rw [if_neg hstart]
    simpa [hstarted] using changesFirst_reloadRecord w (f := (·.stop r.uuid)) (fun _ => rfl) _ _

/-- A change in words of the user names the selected task, and is not made if the words cannot be
told apart. -/
theorem modifyTask_changesFirst (hr : w.session.selectedRecord = some r) (line : Text) :
    match Client.splitArguments line with
    | .error e => effect (modifyTask line) w = (.error (.failure e), w)
    | .ok args => ChangesFirst (modifyTask line) (r.uuid :: "modify" :: args) 2 w := by
  cases hargs : Client.splitArguments line with
  | error e =>
      rw [modifyTask, effect_requireSelected_bind, hr]
      exact effect_ask_unparsable (fun _ => rfl) hargs w
  | ok args =>
      have hmodify (c : Client) :
          c.modify r.uuid line = c.run (r.uuid :: "modify" :: args) true := by
        rw [Client.modify, Client.arguments, hargs]
        rfl
      exact changesFirst_requireSelected hr (changesFirst_reloadRecord w hmodify _ _)

theorem addTask_changesFirst (w : World) (line : Text) :
    match Client.splitArguments line with
    | .error e => effect (addTask line) w = (.error (.failure e), w)
    | .ok args => ChangesFirst (addTask line) ("add" :: args) 1 w := by
  cases hargs : Client.splitArguments line with
  | error e => exact effect_ask_unparsable (fun _ => rfl) hargs w
  | ok args =>
      have hadd (c : Client) : c.add line = c.run ("add" :: args) true := by
        rw [Client.add, Client.arguments, hargs]
        rfl
      exact changesFirst_reload w hadd _

/-- What operations run: most of them nothing, a load and a filter an export at most, and what
changes a task one command first, which names the task that is selected, and then exports. -/
theorem asked_for [Validator] (w : World) :
    (∀ o : Operation, o.isQuiet = true → Runs o.action w []) ∧
      (∃ argvs, Runs reload w argvs ∧ FewExports 1 argvs) ∧
      (∀ filter, ∃ argvs, Runs (setFilter filter) w argvs ∧ FewExports 1 argvs) ∧
      (match w.session.selectedRecord with
        | none =>
            (∀ x ∈ [complete, delete, toggleStarted],
              effect x w = (.error (.failure .noTaskSelected), w)) ∧
            ∀ line, effect (modifyTask line) w = (.error (.failure .noTaskSelected), w)
        | some r =>
            ChangesFirst complete [r.uuid, "done"] 1 w ∧
            ChangesFirst delete [r.uuid, "delete"] 1 w ∧
            ChangesFirst toggleStarted [r.uuid, if r.start ≤ 0 then "start" else "stop"] 2 w ∧
            ∀ line,
              match Client.splitArguments line with
              | .error e => effect (modifyTask line) w = (.error (.failure e), w)
              | .ok args => ChangesFirst (modifyTask line) (r.uuid :: "modify" :: args) 2 w) ∧
      (∀ line,
        match Client.splitArguments line with
        | .error e => effect (addTask line) w = (.error (.failure e), w)
        | .ok args => ChangesFirst (addTask line) ("add" :: args) 1 w) ∧
      ChangesFirst undo ["undo"] 1 w ∧ ChangesFirst sync ["sync"] 1 w := by
  refine ⟨?quiet, reload_exports w, fun filter => setFilter_exports filter w, ?selected,
    addTask_changesFirst w, changesFirst_reload w (fun _ => rfl) _,
    changesFirst_reload w (fun _ => rfl) _⟩
  case quiet =>
    intro o ho
    exact Operation.action_silent ho w
  case selected =>
    cases hr : w.session.selectedRecord with
    | none =>
        have hfail {β : Type} (f : Record → Action β) :
            effect (requireSelected >>= f) w = (.error (.failure .noTaskSelected), w) := by
          rw [effect_requireSelected_bind, hr]
        refine ⟨?_, fun line => hfail _⟩
        intro x hx
        simp only [List.mem_cons, List.not_mem_nil, or_false] at hx
        rcases hx with rfl | rfl | rfl
        · exact hfail _
        · exact hfail _
        · exact hfail _
    | some r =>
        exact ⟨complete_changesFirst hr, delete_changesFirst hr, toggleStarted_changesFirst hr,
          modifyTask_changesFirst hr⟩

end Session

end TaskBrowser
