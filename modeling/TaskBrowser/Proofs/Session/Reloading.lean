import TaskBrowser.Files.Tree
import TaskBrowser.Platform
import TaskBrowser.Proofs.Record.StableSort
import TaskBrowser.Proofs.Session.Failing

/-!
# Loading is all or nothing

A load that returns has put the tasks of the export, and no others, into the list.  They are in the
order of the sort mode if the mode ranks them, which it does if all projects are names.  A load that
fails has changed nothing.

A load may also crash.  If the task program is not run or its export cannot be read nothing has
changed either.  But the tasks are put into the list before they are sorted, so if two of them turn
out to have no order the new tasks are there, in the order of the export, with the selection of the
old ones.  This takes a project that is no name, and it is sure to happen if no two of the tasks
have an order.
-/

namespace TaskBrowser

namespace Session

/-- Records whose sort crashes do not all have a project that is a name. -/
theorem exists_unnamed_of_sortRecords {mode : Text} {rs : List Record} {c : Crash}
    (h : sortRecords mode rs = .error c) : ∃ r ∈ rs, r.hasNamedProject = false :=
  (Unsortable.unordered ⟨c, h⟩).exists_unnamed

/-- Sorting what the mode ranks puts it in order. -/
theorem sortRecords_inOrder {mode : Text} {rs sorted : List Record}
    (h : sortRecords mode rs = .ok sorted)
    (hranks : (∀ r ∈ rs, r.hasNamedProject = true) ∨ Ranks (compareRecords mode) (· ∈ rs)) :
    InOrder mode sorted := by
  have hranks : Ranks (compareRecords mode) (· ∈ rs) := hranks.elim .of_named id
  obtain ⟨sorted', hsorted', hstable⟩ := sortRecords_stablySorted hranks fun _ hr => hr
  obtain rfl : sorted = sorted' := Except.ok.inj (h.symm.trans hsorted')
  exact hstable.inOrder

section General

variable [Interpreter]

/-- A load that returns has the tasks that were exported in the list, in order, and one that fails,
which it does exactly if the tasks cannot be had, has changed nothing.  It crashes if the export
does, and then nothing has changed either.  Otherwise it crashes only if two of the tasks have no
order, which are in the list then as they were exported, and surely if no two of them have one. -/
theorem reload_ends (w : World) :
    ((∃ f, (effect reload w).1 = .error (.failure f)) ↔ w.session.Unanswered w.host.pending) ∧
      (LoadCrashes Incomparable w.session w.host.pending →
        ∃ c, (effect reload w).1 = .error (.crash c)) ∧
      match effect reload w with
      | (.ok (), w') =>
          ∃ rs, w.session.Exports w.host.pending (.ok rs) ∧ w'.session.store.Perm rs ∧
            w'.session.config = w.session.config ∧
            ((∀ r ∈ rs, r.hasNamedProject = true) ∨
                Ranks (compareRecords w.session.config.sortMode) (· ∈ rs) →
              InOrder w.session.config.sortMode w'.session.store)
      | (.error (.failure _), w') => w'.session = w.session
      | (.error (.crash c), w') =>
          (w.session.Exports w.host.pending (.error (.crash c)) ∧ w'.session = w.session) ∨
            ∃ rs, w.session.Exports w.host.pending (.ok rs) ∧
              Unordered w.session.config.sortMode rs ∧ (∃ r ∈ rs, r.hasNamedProject = false) ∧
              w'.session = { w.session with store := rs } := by
  refine ⟨reload_fails_iff w, fun hcrashes => ?_, ?_⟩
  · exact (reload_crashes_iff w).2 (hcrashes.mono fun _ _ => Incomparable.unsortable)
  rw [effect_reload]
  have hok (rs : List Record) := exports_iff w (r := .ok rs) nofun
  have hcrash (c : Crash) := exports_iff w (r := .error (.crash c)) nofun
  generalize effect (w.session.asked.exportAll (some w.session.config.filter)) w.host = loaded
    at hok hcrash ⊢
  rcases loaded with ⟨(f | c) | rs, h⟩
  · rfl
  · exact .inl ⟨(hcrash c).1 rfl, rfl⟩
  · have hexports := (hok rs).1 rfl
    dsimp only
    cases hsettled : ({ w.session with store := rs }).settled w.session.selectedRecord with
    | ok s =>
        obtain ⟨sorted, n, hsorted, rfl⟩ := settled_eq_ok hsettled
        exact ⟨rs, hexports, sortRecords_perm hsorted, rfl, sortRecords_inOrder hsorted⟩
    | error c =>
        have hunordered := Unsortable.unordered ⟨c, settled_eq_error_iff.1 hsettled⟩
        exact .inr ⟨rs, hexports, hunordered, hunordered.exists_unnamed, rfl⟩

end General

/-- A host whose task program exports a project that is a name and one that is a number. -/
def mixedHost : Host where
  files := fun _ _ => FileTree.system []
  now := .universal 2024 6 1 9 30
  answers := [
    .ended ("\x7b\"uuid\":\"a\",\"description\":\"b\",\"project\":\"x\"\x7d\n" ++
      "\x7b\"uuid\":\"c\",\"description\":\"d\",\"project\":5\x7d" : String) "" 0]

/-- A new session on that host. -/
def mixed : World := (create { commandFile := .ofText "rc" } mixedHost).2

example :
    (effect reload mixed).1 = .error (.crash (.noOrder .int .text)) ∧
      (effect reload mixed).2.session.store.map Record.uuid = ["a", "c"] := by
  decide +kernel

end Session

end TaskBrowser
