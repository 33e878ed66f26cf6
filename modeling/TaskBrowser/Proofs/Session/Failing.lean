import TaskBrowser.Proofs.Session.Crash

/-!
# When loads fail

Reading an export never fails: it gives records, or it crashes.  So what asks the task program for
its tasks fails for two reasons only: the words of the filter cannot be told apart, or the program
does not answer (`Session.Unanswered`).
-/

namespace TaskBrowser

/-! ## Reading an export -/

namespace Attempt

variable {α β : Type}

/-- The attempt does not end in a failure, though it may crash. -/
def NeverFails (x : Attempt α) : Prop := ∀ f, x.outcome ≠ .error (.failure f)

namespace NeverFails

theorem pure (a : α) : NeverFails (Pure.pure a : Attempt α) := nofun

theorem crash (c : Crash) : NeverFails (Attempt.crash c : Attempt α) := nofun

theorem note (n : Note) : NeverFails (Attempt.note n) := nofun

theorem orCrash (x : Except Crash α) : NeverFails (Attempt.orCrash x) := by
  intro f h
  rw [outcome_orCrash] at h
  cases x <;> cases h

theorem bind {x : Attempt α} {f : α → Attempt β} (hx : NeverFails x)
    (hf : ∀ a, NeverFails (f a)) : NeverFails (x >>= f) := by
  intro e h
  rw [outcome_bind] at h
  cases hout : x.outcome with
  | error d =>
      rw [hout] at h
      cases h
      exact hx e hout
  | ok a =>
      rw [hout] at h
      exact hf a e h

end NeverFails

end Attempt

namespace Export

open Attempt

theorem moment_neverFails (v : Json) : NeverFails (moment v) := by
  rw [moment.eq_def]
  split
  · exact .pure _
  · exact .pure _
  · exact .orCrash _
  · exact .orCrash _
  · exact .orCrash _
  · split
    · exact .pure _
    · exact .bind (.note _) fun _ => .pure _

theorem record?_neverFails (ms : List (Text × Json)) : NeverFails (record? ms) := by
  rw [record?]
  split
  · exact .bind (.note _) fun _ => .pure _
  · exact .bind (.note _) fun _ => .pure _
  · refine .bind (.orCrash _) fun _ => .bind (.orCrash _) fun _ => ?_
    exact .bind (moment_neverFails _) fun _ => .bind (moment_neverFails _) fun _ => .pure _

theorem recordsOf_neverFails (objects : List (List (Text × Json))) :
    NeverFails (recordsOf objects) := by
  induction objects with
  | nil => exact .pure _
  | cons ms rest ih => exact .bind (record?_neverFails ms) fun _ => .bind ih fun _ => .pure _

variable {nesting : Nat}

theorem read?_neverFails (t : Text) : NeverFails (read? nesting t) := by
  rw [read?]
  split
  · exact .pure _
  · split
    · exact .crash _
    · exact .pure _

theorem lineObjects_neverFails (lines : List Text) : NeverFails (lineObjects nesting lines) := by
  induction lines with
  | nil => exact .pure _
  | cons line lines ih =>
      rw [lineObjects]
      split
      · exact ih
      · refine .bind (read?_neverFails _) fun v => ?_
        split
        · exact .bind ih fun _ => .pure _
        · exact ih
        · exact .bind (.note _) fun _ => ih

theorem objects_neverFails (t : Text) : NeverFails (objects nesting t) := by
  rw [objects]
  split
  · exact .pure _
  · refine .bind (read?_neverFails _) fun v => ?_
    split
    · exact .pure _
    · exact .pure _
    · exact lineObjects_neverFails _

theorem records_neverFails (t : Text) : NeverFails (records nesting t) :=
  .bind (objects_neverFails t) recordsOf_neverFails

end Export

/-! ## Asking for the tasks -/

variable [Interpreter]

/-- What is exported is no failure. -/
theorem Pending.records?_ne_failure {p : Pending} {f : Failure} :
    p.records? ≠ some (.error (.failure f)) := by
  rw [records?]
  rcases p.result? with _ | c | out
  · intro h
    cases h
  · intro h
    cases h
  · intro h
    exact Export.records_neverFails out f (Option.some.inj h)

theorem Pending.records?_eq_none_iff {p : Pending} : p.records? = none ↔ p.result? = none :=
  Option.map_eq_none_iff

namespace Client

/-- An export fails if the words of the filter cannot be told apart, or if the task program does
not answer. -/
theorem exportAll_fails_iff {c : Client} {f : Option Text} {h : Host} :
    (∃ e, (effect (c.exportAll f) h).1 = .error (.failure e)) ↔
      (∃ e, splitArguments (f.getD []) = .error e) ∨ h.pending.result? = none := by
  cases hargs : splitArguments (f.getD []) with
  | error e =>
      rw [effect_exportAll, hargs]
      exact iff_of_true ⟨e, rfl⟩ (.inl ⟨e, rfl⟩)
  | ok args =>
      cases hresult : h.pending.result? with
      | none =>
          rw [← Host.withNote_pending h (exportNote f)] at hresult
          obtain ⟨e, h', hrun⟩ := run_of_noResult (c := c) hresult
          rw [effect_exportAll, hargs]
          dsimp only
          rw [hrun]
          exact iff_of_true ⟨e, rfl⟩ (.inr rfl)
      | some printed =>
          refine iff_of_false ?_ (by simp)
          rintro ⟨e, he⟩
          cases hread : h.pending.records? with
          | none => cases hresult.symm.trans (Pending.records?_eq_none_iff.1 hread)
          | some r =>
              have hne : ∀ g, r ≠ .error (.failure g) := by
                rintro g rfl
                exact Pending.records?_ne_failure hread
              have hended := (exportAll_outcome_iff (c := c) hne).2 ⟨args, hargs, hread⟩
              exact hne e (hended.symm.trans he)

end Client

namespace Session

open TaskBrowser.Action

/-! ## Loads that fail -/

/-- The tasks that pass the filter cannot be had: its words cannot be told apart, or the task
program does not answer. -/
def Unanswered (s : Session) (p : Pending) : Prop :=
  (∃ f, Client.splitArguments s.config.filter = .error f) ∨ p.result? = none

theorem reload_fails_iff (w : World) :
    (∃ f, (effect reload w).1 = .error (.failure f)) ↔ w.session.Unanswered w.host.pending := by
  have hload := Client.exportAll_fails_iff (c := w.session.asked) (h := w.host)
    (f := some w.session.config.filter)
  refine Iff.trans ?_ hload
  rw [effect_reload]
  rcases effect (w.session.asked.exportAll (some w.session.config.filter)) w.host with ⟨e | rs, h⟩
  · simp
  · dsimp only
    cases ({ w.session with store := rs }).settled w.session.selectedRecord <;> simp

/-- While the words of the filter cannot be told apart every load fails, and changes nothing. -/
theorem effect_reload_unparsable {w : World} {f : Failure}
    (h : Client.splitArguments w.session.config.filter = .error f) :
    effect reload w = (.error (.failure f), w) := by
  have hsplit : Client.splitArguments ((some w.session.config.filter).getD []) = .error f := h
  rw [effect_reload, Client.effect_exportAll, hsplit]

end Session

end TaskBrowser
