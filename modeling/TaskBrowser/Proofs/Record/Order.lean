import TaskBrowser.Record.Store

/-!
# Sorting rearranges

Whatever comes of comparing records, sorting them gives the same records in another order.  When
all projects are names this is insertion; otherwise the first run and the records inserted into it
make up the records again.
-/

namespace TaskBrowser

variable {mode : Text}

/-! ## Insertion -/

theorem insertRecord_perm (r : Record) (rs : List Record) :
    (insertRecord mode r rs).Perm (r :: rs) := by
  induction rs with
  | nil => exact .refl _
  | cons s rs ih =>
      rw [insertRecord]
      split
      · exact (ih.cons s).trans (.swap r s rs)
      · exact .refl _

theorem insertionSort_perm (rs : List Record) : (insertionSort mode rs).Perm rs := by
  induction rs with
  | nil => exact .refl _
  | cons r rs ih => exact (insertRecord_perm r _).trans (ih.cons r)

/-! ## Comparisons that may crash -/

/-- A run and what is left are the records it was found in. -/
theorem runFrom_append {falling : Bool} {rs : List Record} :
    ∀ {last : Record} {run rest : List Record},
      runFrom mode falling last rs = .ok (run, rest) → run ++ rest = rs := by
  induction rs with
  | nil =>
      intro last run rest h
      cases h
      rfl
  | cons r rs ih =>
      intro last run rest h
      rw [runFrom] at h
      split at h
      · cases h
      · split at h
        · cases hrun : runFrom mode falling r rs with
          | error e =>
              rw [hrun] at h
              cases h
          | ok found =>
              obtain ⟨run', rest'⟩ := found
              rw [hrun] at h
              cases h
              rw [List.cons_append, ih hrun]
        · cases h
          rfl

theorem insertAll_perm {rs : List Record} :
    ∀ {sorted out : List Record}, insertAll mode sorted rs = .ok out → out.Perm (sorted ++ rs) := by
  induction rs with
  | nil =>
      intro sorted out h
      cases h
      rw [List.append_nil]
  | cons r rs ih =>
      intro sorted out h
      rw [insertAll] at h
      split at h
      · cases h
      next n _ =>
        have hplace : (sorted.take n ++ r :: sorted.drop n).Perm (r :: sorted) := by
          have hmiddle : (sorted.take n ++ r :: sorted.drop n).Perm
              (r :: (sorted.take n ++ sorted.drop n)) := List.perm_middle
          rwa [List.take_append_drop] at hmiddle
        calc
          List.Perm out ((sorted.take n ++ r :: sorted.drop n) ++ rs) := ih h
          List.Perm _ ((r :: sorted) ++ rs) := hplace.append_right rs
          List.Perm _ (sorted ++ r :: rs) := List.perm_middle.symm

theorem sortByRuns_perm {rs sorted : List Record} (h : sortByRuns mode rs = .ok sorted) :
    sorted.Perm rs := by
  rw [sortByRuns.eq_def] at h
  split at h
  next a b rest =>
    split at h
    · cases h
    next falling _ =>
      split at h
      · cases h
      next run rest' hrun =>
        have happend := runFrom_append hrun
        have hsorted := insertAll_perm h
        cases falling with
        | true =>
            have hfront : (a :: b :: run).reverse.Perm (a :: b :: run) := List.reverse_perm _
            have := hsorted.trans (hfront.append_right rest')
            rwa [List.cons_append, List.cons_append, happend] at this
        | false =>
            rwa [if_neg Bool.false_ne_true, List.cons_append, List.cons_append, happend] at hsorted
  next =>
    cases h
    exact .refl _

/-- Sorted records are the records in another order. -/
theorem sortRecords_perm {rs sorted : List Record} (h : sortRecords mode rs = .ok sorted) :
    sorted.Perm rs := by
  rw [sortRecords] at h
  split at h
  · cases h
    exact insertionSort_perm rs
  · exact sortByRuns_perm h

/-! ## Replacing -/

/-- What is in a store after a replacement was there before, or was put there. -/
theorem Store.mem_replace {s : Store} {uuid : Text} {kept : Option Record} {r : Record}
    (h : r ∈ s.replace uuid kept) : r ∈ s ∨ kept = some r := by
  induction s with
  | nil => cases h
  | cons a rest ih =>
      rw [Store.replace.eq_def] at h
      dsimp only at h
      split at h
      · cases kept with
        | none => exact .inl (List.mem_cons_of_mem a h)
        | some b =>
            rcases List.mem_cons.1 h with rfl | hr
            · exact .inr rfl
            · exact .inl (List.mem_cons_of_mem a hr)
      · rcases List.mem_cons.1 h with rfl | hr
        · exact .inl List.mem_cons_self
        · rcases ih hr with hmem | hkept
          · exact .inl (List.mem_cons_of_mem a hmem)
          · exact .inr hkept

end TaskBrowser
