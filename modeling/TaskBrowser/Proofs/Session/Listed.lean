import TaskBrowser.Files.Tree
import TaskBrowser.Platform
import TaskBrowser.Proofs.Session.Ordering

/-!
# Sessions whose list is in order

The list is in the order of the sort mode from the first load on, as long as no variable is set that
changes the mode, and again from the next load, sort or refresh on.  Sessions of which this can be
said are `Session.Listed`.

A command file sorts if one of its lines does and none after it sets the mode
(`Command.SourceSorts`).  As with what files set, the lines are followed through the worlds that
those before them leave.
-/

namespace TaskBrowser

open TaskBrowser.Action Session

/-! ## The variable of the sort mode -/

/-- Without `sort_mode` being set only settings behind other variables change. -/
theorem Command.permits_of_not_sets {sets : Text → Prop} (h : ¬ sets "sort_mode") :
    Permits (fun e => e.source ≠ .setting .sortMode) sets := by
  intro e he _ hsets hsource
  have hentry : (⟨"sort_mode", .text, .setting .sortMode, .always⟩ : Entry) ∈ variableEntries := by
    simp [variableEntries]
  obtain rfl := variableEntries_source_inj he hentry hsource
  exact h hsets

/-- Any text is taken for the sort mode, and the list stays as it is. -/
theorem Session.effect_setVariable_sortMode [Validator] (text : Text) (fromFile : Bool)
    (w : World) :
    effect (setVariable "sort_mode" text fromFile) w =
      (.ok (), { w with session := { w.session with
        config := { w.session.config with sortMode := stripQuotes text } } }) := by
  rw [effect_setVariable]
  show effect (assignSetting .sortMode (.text (stripQuotes text))) w = _
  rw [effect_assignSetting, Config.set_text _ (.inr (.inl rfl))]
  rfl

section General

variable [Interpreter] [Validator]

/-! ## Command lines that sort -/

namespace Command

/-- The command loads or sorts the tasks. -/
def sorts : Command → Bool
  | .reload | .sync | .undo | .sort | .filter => true
  | _ => false

/-- The line loads or sorts the tasks, or runs a command file that does. -/
def LineSorts (fileSorts : Text → World → Prop) (line : Text) (w : World) : Prop :=
  match ofLine? line with
  | some (.source, path) => fileSorts path { w with host := w.host.withNote (noteOf line) }
  | some (c, _) => c.sorts = true
  | none => False

/-- One of the lines sorts the tasks and returns, and none after it sets the mode. -/
inductive LinesSort (lineSorts lineSets : Text → World → Prop) (runLine : Text → Action Text)
    (file : Text) : Nat → List Text → World → Prop where
  | here {number : Nat} {line m : Text} {lines : List Text} {w w' : World}
      (hline : isPassedOver line = false) (h : lineSorts (Text.trim line) w)
      (hend : effect (runLine (Text.trim line)) w = (.ok m, w'))
      (hrest : ¬ LinesSet lineSets runLine file (number + 1) lines w') :
      LinesSort lineSorts lineSets runLine file number (line :: lines) w
  | passed (hline : isPassedOver line = true)
      (h : LinesSort lineSorts lineSets runLine file (number + 1) lines w) :
      LinesSort lineSorts lineSets runLine file number (line :: lines) w
  | later (hline : isPassedOver line = false)
      (hend : effect (tryLine runLine file number line) w = (.ok failed, w'))
      (h : LinesSort lineSorts lineSets runLine file (number + 1) lines w') :
      LinesSort lineSorts lineSets runLine file number (line :: lines) w

/-- A command file that is run from files up to a depth sorts the tasks. -/
def SourceSorts : (depth : Nat) → Text → World → Prop
  | 0, _, _ => False
  | depth + 1, path, w =>
      ∃ file text, (FilePath.ofText path).expand w.host.homes = .ok file ∧
        w.host.fileSystem.read file = .ok (.ok text) ∧
        LinesSort (LineSorts (SourceSorts depth))
          (LineSets (SourceSets "sort_mode" depth) "sort_mode")
          (fun line => runLineWith (sourceWithin depth) line true) file.toText 1
          (Text.lines text) w

theorem perform_orders {sourceFile : Text → Action Text} {c : Command} (hc : c.sorts = true)
    (args : Text) (fromFile : Bool) (w : World) :
    Orders (perform sourceFile c args fromFile) w := by
  have hmessage (message : Session → Text) :
      Tells (do return message (← Action.session) : Action Text) :=
    .bind .session fun _ => .pure _
  cases c with
  | reload => exact (reload_orders w).andTells fun _ => .pure _
  | sync => exact .of_settles (loadAfter_settles _ _ w)
  | undo => exact .of_settles (loadAfter_settles _ _ w)
  | sort => exact (Orders.of_settles (sort_settles _ w)).andTells fun _ => hmessage _
  | filter => exact (Orders.of_settles (setFilter_settles _ w)).andTells fun _ => hmessage _
  | _ => cases hc

theorem runLineWith_orders {sourceFile : Text → Action Text} {fileSorts : Text → World → Prop}
    (hfile : ∀ path w, fileSorts path w → Orders (sourceFile path) w) (line : Text)
    (fromFile : Bool) (w : World) (h : LineSorts fileSorts line w) :
    Orders (runLineWith sourceFile line fromFile) w := by
  rw [LineSorts] at h
  split at h
  next path hline =>
    rw [runLineWith_of_command hline]
    refine .after fun _ w' hnote => ?_
    rw [effect_note] at hnote
    obtain ⟨-, rfl⟩ := Prod.mk.inj hnote
    exact hfile path _ h
  next c args _ hline =>
    rw [runLineWith_of_command hline]
    exact .after fun _ w' _ => perform_orders h args fromFile w'
  next => exact h.elim

/-- A line that sorts leaves the list in order, and those after it keep it so. -/
theorem runLines_orders {runLine : Text → Action Text} {lineSorts : Text → World → Prop}
    {lineSets : Text → Text → World → Prop}
    (horders : ∀ line w, lineSorts line w → Orders (runLine line) w)
    (hproceeds : ∀ {may : Entry → Prop} line w, Permits may (lineSets · line w) →
      Proceeds may (runLine line) w) (file : Text) {number : Nat} {lines : List Text} {w : World}
    (h : LinesSort lineSorts (lineSets "sort_mode") runLine file number lines w) :
    ∀ failures, Orders (runLines runLine file number failures lines) w := by
  induction h with
  | @here number line m lines w w' hline h hend hrest =>
      intro failures
      rw [runLines, hline, if_neg Bool.false_ne_true]
      have htry : effect (tryLine runLine file number line) w = (Except.ok false, w') := by
        rw [tryLine, effect_rescue, effect_bind_ok hend]
        rfl
      refine .after fun failed w'' htried => ?_
      cases htry.symm.trans htried
      refine Orders.of_ordered (fun _ he => he) ?_ (horders _ _ h m _ hend)
      refine runLines_proceeds hproceeds file lines _ _ _ ?_
      exact permits_of_not_sets hrest
  | passed hline _ ih =>
      intro failures
      rw [runLines, hline, if_pos rfl]
      exact ih failures
  | later hline hend _ ih =>
      intro failures
      rw [runLines, hline, if_neg Bool.false_ne_true]
      refine .after fun failed w' htried => ?_
      cases hend.symm.trans htried
      exact ih _

theorem sourceWithin_orders (depth : Nat) :
    ∀ path w, SourceSorts depth path w → Orders (sourceWithin depth path) w := by
  induction depth with
  | zero => intro path w h; exact h.elim
  | succ depth ih =>
      rintro path w ⟨file, text, hexpand, hread, hlines⟩
      rw [sourceWithin, sourceWith]
      split
      · intro a w' hend
        cases hend
      refine .after fun _ w' hget => ?_
      cases hget
      refine .after fun file' w' hfile => ?_
      rw [effect_orCrash, hexpand] at hfile
      cases hfile
      refine .after fun text' w' htext => ?_
      obtain ⟨hread', rfl⟩ := read_of_readFile htext
      cases hread.symm.trans hread'
      have hproceeds {may : Entry → Prop} (line : Text) (w : World)
          (hmay : Permits may fun name => LineSets (SourceSets name depth) name line w) :
          Proceeds may (runLineWith (sourceWithin depth) line true) w :=
        runLineWith_proceeds (sourceWithin_proceeds depth) line true w hmay
      have hlines := runLines_orders (runLineWith_orders ih · true) hproceeds _ hlines 0
      refine hlines.andTells fun failures => ?_
      split <;> exact .pure _

end Command

namespace Session

variable {s t : Session} {w w' : World}

/-- The operation loads, sorts or refreshes tasks if it returns.  One that hides failures does so
only if there was none. -/
def Operation.Sorts : Operation → World → Prop
  | .startup, _ | .reload, _ | .reloadRecord _, _ | .sort _, _ | .setFilter _, _ => True
  | .toggleStarted, _ | .complete, _ | .delete, _ | .add _, _ | .modify _, _ => True
  | .undo, _ | .sync, _ => True
  | .mount, w => ∃ w', effect Session.startup w = (.ok (), w')
  | .source path, w => Command.SourceSorts (Interpreter.sourceDepth + 1) path w
  | .command line _, w =>
      Command.LineSorts (Command.SourceSorts (Interpreter.sourceDepth + 1)) line w
  | .runCommand line, w =>
      Command.LineSorts (Command.SourceSorts (Interpreter.sourceDepth + 1)) line w ∧
        ∃ m w', effect (Command.runLine line false) w = (.ok m, w')
  | _, _ => False

theorem Operation.action_orders {o : Operation} (ho : o.Sorts w) : Orders o.action w := by
  cases o with
  | startup => exact startup_orders w
  | mount =>
      obtain ⟨w₁, hstart⟩ := ho
      intro _ w' h
      rw [Operation.action, Session.mount, effect_rescue, hstart] at h
      exact startup_orders w () w' (hstart.trans h)
  | reload => exact reload_orders w
  | reloadRecord uuid => exact .of_settles (reloadRecord_settles uuid w)
  | sort mode => exact .of_settles (sort_settles mode w)
  | setFilter filter => exact .of_settles (setFilter_settles filter w)
  | toggleStarted => exact .discard (toggleStarted_orders w)
  | complete => exact .discard (Orders.of_settles (loadAfterSelected_settles _ _ w))
  | delete => exact .discard (Orders.of_settles (loadAfterSelected_settles _ _ w))
  | add line => exact .discard (Orders.of_settles (loadAfter_settles _ _ w))
  | modify line => exact .discard (.after fun _ w' _ => refreshAfter_orders _ _ _ w')
  | undo => exact .discard (Orders.of_settles (loadAfter_settles _ _ w))
  | sync => exact .discard (Orders.of_settles (loadAfter_settles _ _ w))
  | source path => exact .discard (Command.sourceWithin_orders _ path w ho)
  | command line fromFile =>
      exact .discard (Command.runLineWith_orders (Command.sourceWithin_orders _) line fromFile w ho)
  | runCommand line =>
      obtain ⟨hline, m, w₁, hrun⟩ := ho
      have horders : Orders (do let m ← Command.runLine line false; Session.notify m false) w :=
        Orders.andTells
          (Command.runLineWith_orders (Command.sourceWithin_orders _) line false w hline)
          fun m => .notify m false
      refine .discard fun m' w' h => ?_
      rw [Session.runCommand, effect_rescue, effect_bind_ok hrun] at h
      exact horders m' w' ((effect_bind_ok hrun _).trans h)
  | _ => exact ho.elim

/-! ## Runs -/

/-- Sessions from an operation that sorts the tasks on, until one sets the mode. -/
inductive Listed : Session → Prop where
  | sorted {w w' : World} (o : Operation) (ho : o.Sorts w)
      (h : effect o.action w = (.ok (), w')) : Listed w'.session
  | step {w w' : World} {r : Except Fault Unit} (o : Operation) (hw : Listed w.session)
      (hsets : ¬ o.Sets "sort_mode" w) (h : effect o.action w = (r, w')) (hr : Foreseen r) :
      Listed w'.session

theorem Listed.ordered (hs : Listed s) : s.Ordered := by
  induction hs with
  | sorted o ho h =>
      exact o.action_orders ho () _ h
  | @step w r w' o _ hsets h hr ih =>
      exact Operation.preserves (Command.permits_of_not_sets hsets)
        (fun _ _ => Change.ordered fun _ he => he) h hr ih

/-- Once an operation has loaded, sorted or refreshed tasks the list is in the order of the sort
mode, if the mode ranks it, and it stays so whatever else is done and whether that returns or fails,
as long as the variable `sort_mode` is not set.  The variable takes any text, and then the list is
still in the order of the mode before. -/
theorem listed_inOrder (hs : Listed s) :
    ((∀ r ∈ s.store, r.hasNamedProject = true) ∨
        Ranks (compareRecords s.config.sortMode) (· ∈ s.store) →
      InOrder s.config.sortMode s.store) ∧
    ∀ text fromFile host, effect (setVariable "sort_mode" text fromFile) ⟨s, host⟩ =
      (.ok (), ⟨{ s with config := { s.config with sortMode := stripQuotes text } }, host⟩) :=
  ⟨hs.ordered, fun text fromFile host => effect_setVariable_sortMode text fromFile ⟨s, host⟩⟩

end Session

end General

namespace Session

/-- A session by number whose task program exports the second of two tasks first. -/
def unsorted : World where
  session := bare { commandFile := .ofText "rc", sortMode := "n", filter := "" }
  host := {
    files := fun _ _ => FileTree.system []
    now := .universal 2024 6 1 9 30
    answers := [
      .ended ("\x7b\"uuid\":\"a\",\"description\":\"x\",\"id\":2\x7d\n" ++
        "\x7b\"uuid\":\"b\",\"description\":\"y\",\"id\":1\x7d" : String) "" 0] }

/-- The tasks are loaded. -/
def loaded : World := (effect Operation.reload.action unsorted).2

/-- Another variable is set. -/
def followOff : World := (effect (Operation.command "set follow_task 0" false).action loaded).2

/-- The tasks are still by number, and they stay as they are when the mode is set to the other
way. -/
theorem listed_inOrder_followOff :
    Listed followOff.session ∧ followOff.session.store.map Record.uuid = ["b", "a"] ∧
      InOrder "n" followOff.session.store ∧
      (effect (setVariable "sort_mode" "N" false) followOff).2.session.store =
        followOff.session.store := by
  have hloaded : effect Operation.reload.action unsorted = (.ok (), loaded) :=
    effect_eq_of_fst (by decide +kernel)
  have hfollow : effect (Operation.command "set follow_task 0" false).action loaded =
      (.ok (), followOff) := effect_eq_of_fst (by decide +kernel)
  have hline : Command.ofLine? "set follow_task 0" =
      some (Command.set, ("follow_task 0" : Text)) := by
    decide +kernel
  have hsets : ¬ (Operation.command "set follow_task 0" false).Sets "sort_mode" loaded := by
    rw [Operation.Sets, Command.RunSets, Command.LineSets, hline]
    show (Command.splitSpace "follow_task 0").1 ≠ "sort_mode"
    decide
  have hs : Listed followOff.session :=
    .step _ (.sorted .reload trivial hloaded) hsets hfollow (by decide)
  obtain ⟨hnamed, hmode, hstore⟩ : (∀ r ∈ followOff.session.store, r.hasNamedProject = true) ∧
      followOff.session.config.sortMode = "n" ∧
      followOff.session.store.map Record.uuid = ["b", "a"] := by
    decide +kernel
  have hkeeps (w : World) (hw : Listed w.session) :
      (effect (setVariable "sort_mode" "N" false) w).2.session.store = w.session.store :=
    congrArg (·.2.session.store) ((listed_inOrder hw).2 "N" false w.host)
  refine ⟨hs, hstore, ?_, hkeeps followOff hs⟩
  rw [← hmode]
  exact (listed_inOrder hs).1 (.inl hnamed)

end Session

end TaskBrowser
