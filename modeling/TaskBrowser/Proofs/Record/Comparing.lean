import TaskBrowser.Proofs.Record.Order
import TaskBrowser.Proofs.Record.Ranking

/-!
# Records that cannot be compared

A sort that crashes has met two records that have no order, so there are two such records among
those it was given (`Unordered`).  Which records a sort compares is its own affair, and records of
which some have no order may be sorted all the same.  But every sort of two records or more compares
some, so it crashes if no two of them have an order (`Incomparable`).

What holds of any sort lies between the two.
-/

namespace TaskBrowser

variable {mode : Text} {a b r : Record} {rs sorted : List Record} {c : Crash}

/-- Two of the records have no order. -/
def Unordered (mode : Text) (rs : List Record) : Prop :=
  ∃ a ∈ rs, ∃ b ∈ rs, ∃ c, compareRecords mode a b = .error c

/-- There are two records or more, and no two of them have an order. -/
def Incomparable (mode : Text) (rs : List Record) : Prop :=
  2 ≤ rs.length ∧ rs.Pairwise fun a b =>
    (∃ c, compareRecords mode a b = .error c) ∧ ∃ c, compareRecords mode b a = .error c

/-- Records are found to have no order when they are sorted. -/
def Unsortable (mode : Text) (rs : List Record) : Prop := ∃ c, sortRecords mode rs = .error c

/-- Records whose projects are names have an order. -/
theorem compareRecords_of_named (mode : Text) (ha : a.hasNamedProject = true)
    (hb : b.hasNamedProject = true) :
    ∃ n, compareRecords mode a b = .ok n := by
  obtain ⟨n, hn, -⟩ := (compareRecords_ranks mode).opposed ha hb
  exact ⟨n, hn⟩

/-- Of two records that have no order, one has a project that is no name. -/
theorem Unordered.exists_unnamed (h : Unordered mode rs) : ∃ r ∈ rs, r.hasNamedProject = false := by
  obtain ⟨a, ha, b, hb, c, hc⟩ := h
  cases hna : a.hasNamedProject with
  | false => exact ⟨a, ha, hna⟩
  | true =>
      cases hnb : b.hasNamedProject with
      | false => exact ⟨b, hb, hnb⟩
      | true =>
          obtain ⟨n, hn⟩ := compareRecords_of_named mode hna hnb
          cases hc.symm.trans hn

theorem Unordered.mono (h : Unordered mode rs) (hsub : rs ⊆ sorted) : Unordered mode sorted := by
  obtain ⟨a, ha, b, hb, hc⟩ := h
  exact ⟨a, hsub ha, b, hsub hb, hc⟩

/-! ## A sort that crashes -/

theorem unordered_of_isBefore (ha : a ∈ rs) (hb : b ∈ rs) (h : isBefore mode a b = .error c) :
    Unordered mode rs := by
  rw [isBefore] at h
  cases hc : compareRecords mode a b with
  | error d => exact ⟨a, ha, b, hb, d, hc⟩
  | ok n =>
      rw [hc] at h
      cases h

theorem unordered_of_runFrom {falling : Bool} {last : Record}
    (h : runFrom mode falling last rs = .error c) : Unordered mode (last :: rs) := by
  induction rs generalizing last with
  | nil => cases h
  | cons r rs ih =>
      rw [runFrom] at h
      split at h
      next d hd =>
        exact unordered_of_isBefore (List.mem_cons_of_mem last List.mem_cons_self)
          List.mem_cons_self hd
      next =>
        split at h
        · cases hrun : runFrom mode falling r rs with
          | error d =>
              rw [hrun] at h
              obtain rfl := Except.error.inj h
              exact (ih hrun).mono (List.subset_cons_self last _)
          | ok found =>
              rw [hrun] at h
              cases h
        · cases h

theorem unordered_of_placeOf {bound low high : Nat}
    (h : placeOf mode r sorted bound low high = .error c) : Unordered mode (r :: sorted) := by
  induction bound generalizing low high with
  | zero => cases h
  | succ bound ih =>
      rw [placeOf] at h
      split at h
      · cases h
      · dsimp only at h
        split at h
        · cases h
        next s hs =>
          have hmem : s ∈ r :: sorted := List.mem_cons_of_mem r (List.mem_of_getElem? hs)
          split at h
          next d hd => exact unordered_of_isBefore List.mem_cons_self hmem hd
          next => exact ih h
          next => exact ih h

theorem unordered_of_insertAll (h : insertAll mode sorted rs = .error c) :
    Unordered mode (sorted ++ rs) := by
  induction rs generalizing sorted with
  | nil => cases h
  | cons r rs ih =>
      have hfront : ∀ s ∈ r :: sorted, s ∈ sorted ++ r :: rs := by
        intro s hs
        rcases List.mem_cons.1 hs with rfl | hs
        · exact List.mem_append_right _ List.mem_cons_self
        · exact List.mem_append_left _ hs
      rw [insertAll] at h
      split at h
      next d hd => exact (unordered_of_placeOf hd).mono hfront
      next n _ =>
        refine (ih h).mono fun s hs => ?_
        rcases List.mem_append.1 hs with hs | hs
        · refine hfront s ?_
          rcases List.mem_append.1 hs with hs | hs
          · exact List.mem_cons_of_mem r (List.mem_of_mem_take hs)
          · rcases List.mem_cons.1 hs with rfl | hs
            · exact List.mem_cons_self
            · exact List.mem_cons_of_mem r (List.mem_of_mem_drop hs)
        · exact List.mem_append_right _ (List.mem_cons_of_mem r hs)

theorem unordered_of_sortByRuns (h : sortByRuns mode rs = .error c) : Unordered mode rs := by
  rw [sortByRuns.eq_def] at h
  split at h
  next a b rest =>
    split at h
    next d hd =>
      exact unordered_of_isBefore (List.mem_cons_of_mem a List.mem_cons_self) List.mem_cons_self hd
    next falling _ =>
      split at h
      next d hd => exact (unordered_of_runFrom hd).mono (List.subset_cons_self a _)
      next run rest' hrun =>
        -- the first run, turned around or not, and the records after it are all that there are
        have hall : (a :: b :: run) ++ rest' = a :: b :: rest :=
          congrArg (a :: b :: ·) (runFrom_append hrun)
        refine (unordered_of_insertAll h).mono fun s hs => hall ▸ ?_
        rcases List.mem_append.1 hs with hs | hs
        · refine List.mem_append_left _ ?_
          cases falling with
          | true => exact List.mem_reverse.1 hs
          | false => exact hs
        · exact List.mem_append_right _ hs
  next => cases h

/-- A sort crashes only if two of the records have no order. -/
theorem Unsortable.unordered (h : Unsortable mode rs) : Unordered mode rs := by
  obtain ⟨c, hc⟩ := h
  rw [sortRecords] at hc
  split at hc
  · cases hc
  · exact unordered_of_sortByRuns hc

/-! ## A sort that must crash -/

/-- A sort crashes if no two of the records have an order. -/
theorem Incomparable.unsortable (h : Incomparable mode rs) : Unsortable mode rs := by
  obtain ⟨hlength, hpairs⟩ := h
  match rs, hlength, hpairs with
  | a :: b :: rest, _, hpairs =>
      obtain ⟨⟨c, hc⟩, d, hd⟩ := List.rel_of_pairwise_cons hpairs List.mem_cons_self
      have hunnamed : ¬ (a :: b :: rest).all Record.hasNamedProject = true := by
        intro hnamed
        have hnamed := List.all_eq_true.1 hnamed
        obtain ⟨n, hn⟩ := compareRecords_of_named mode (hnamed a List.mem_cons_self)
          (hnamed b (List.mem_cons_of_mem a List.mem_cons_self))
        cases hc.symm.trans hn
      have hbefore : isBefore mode b a = .error d := by rw [isBefore, hd]; rfl
      refine ⟨d, ?_⟩
      rw [sortRecords, if_neg hunnamed, sortByRuns, hbefore]

end TaskBrowser
