import TaskBrowser.Proofs.Record.StableSort
import TaskBrowser.Proofs.Text.Case

/-!
# Sort modes

A sort mode that is two modes one after the other compares by the first and, between those it
leaves equal, by the second (`compareRecords_append`).  So it sorts as sorting by the second and
then by the first does: the later sort keeps the order of the earlier one wherever its own keys do
not decide (`StablySorted.append`).  What is in order already stays as it is.

Records tie exactly if every key of the mode leaves them equal (`compareRecords_eq_zero_iff`).  With
a key for the identifier no two records of different identifiers tie, and then the order in which
the records came no longer shows.
-/

namespace TaskBrowser

/-! ## One mode after another -/

section Comparisons

variable {α : Type} {f g : α → α → Except Crash Int} {a b : α}

theorem andThen_assoc (f g h : α → α → Except Crash Int) :
    andThen (andThen f g) h = andThen f (andThen g h) := by
  funext a b
  rw [andThen, andThen, andThen]
  cases f a b with
  | error e => rfl
  | ok n =>
      by_cases hn : n = 0
      · simp only [if_pos hn, andThen]
      · simp only [if_neg hn]

/-- Two things are equal by one comparison and then another if they are equal by both. -/
theorem andThen_eq_zero_iff : andThen f g a b = .ok 0 ↔ f a b = .ok 0 ∧ g a b = .ok 0 := by
  rw [andThen]
  cases f a b with
  | error e => simp
  | ok n =>
      by_cases hn : n = 0
      · simp [hn]
      · simp [hn]

theorem turned_eq_zero_iff {inverted : Bool} : turned inverted f a b = .ok 0 ↔ f a b = .ok 0 := by
  rw [turned]
  cases f a b with
  | error e => simp [Except.map]
  | ok n => cases inverted <;> simp [Except.map]

end Comparisons

variable {m₁ m₂ mode : Text} {a b : Record} {rs : List Record}

/-- The letters of a mode after those of another count only where those leave records equal. -/
theorem compareRecords_append (m₁ m₂ : Text) :
    compareRecords (m₁ ++ m₂) = andThen (compareRecords m₁) (compareRecords m₂) := by
  induction m₁ with
  | nil => rfl
  | cons c m₁ ih =>
      rw [List.cons_append, compareRecords_cons, compareRecords_cons, ih]
      cases SortKey.ofChar? c with
      | none => rfl
      | some key => exact (andThen_assoc _ _ _).symm

/-- Records compare as equal if all keys of the mode leave them equal. -/
theorem compareRecords_eq_zero_iff :
    compareRecords mode a b = .ok 0 ↔
      ∀ c ∈ mode, ∀ key, SortKey.ofChar? c = some key → key.compare a b = .ok 0 := by
  induction mode with
  | nil => exact iff_of_true rfl nofun
  | cons c mode ih =>
      rw [compareRecords_cons, List.forall_mem_cons, ← ih]
      cases SortKey.ofChar? c with
      | none => simp
      | some key => simp [andThen_eq_zero_iff, turned_eq_zero_iff]

/-! ## Sorting by one mode after another -/

/-- Records tie by two modes if they tie by each. -/
theorem tied_append (a b : Record) : tied (m₁ ++ m₂) a b = (tied m₁ a b && tied m₂ a b) := by
  rw [Bool.eq_iff_iff, Bool.and_eq_true, tied_iff, tied_iff, tied_iff, compareRecords_append,
    andThen_eq_zero_iff]

/-- Of two records that tie, the one that is before the other was before it already. -/
theorem StablySorted.pairwise_ties {P : Record → Prop} {out : List Record}
    (h : Ranks (compareRecords mode) P) (hP : ∀ r ∈ rs, P r) (hout : StablySorted mode P rs out)
    {R : Record → Record → Prop} (hR : rs.Pairwise R) :
    out.Pairwise fun earlier later => tied mode earlier later = true → R earlier later := by
  rw [List.pairwise_iff_forall_sublist]
  intro a b hab htied
  have ha : P a := hP a (hout.perm.mem_iff.1 (hab.subset List.mem_cons_self))
  have hself : tied mode a a = true := tied_iff.2 (h.refl ha)
  have hboth : List.Sublist [a, b] (rs.filter (tied mode a)) := by
    have hfilter := hab.filter (tied mode a)
    rw [hout.ties a ha] at hfilter
    simpa [List.filter_cons, hself, htied] using hfilter
  exact List.pairwise_iff_forall_sublist.1 hR (hboth.trans List.filter_sublist)

/-- Sorting by a mode what is sorted by another sorts by the two of them, the later one first. -/
theorem StablySorted.append {P : Record → Prop} {mid out : List Record}
    (h : Ranks (compareRecords m₁) P) (hP : ∀ r ∈ rs, P r) (hmid : StablySorted m₂ P rs mid)
    (hout : StablySorted m₁ P mid out) :
    StablySorted (m₁ ++ m₂) P rs out where
  perm := hout.perm.trans hmid.perm
  inOrder := by
    have hPmid : ∀ r ∈ mid, P r := fun r hr => hP r (hmid.perm.mem_iff.1 hr)
    have hties := hout.pairwise_ties h hPmid hmid.inOrder
    refine (hout.inOrder.and hties).imp_of_mem fun {a b} ha hb hab => ?_
    obtain ⟨⟨n, hn, hle⟩, hsecond⟩ := hab
    have hPa : P a := hPmid a (hout.perm.mem_iff.1 ha)
    have hPb : P b := hPmid b (hout.perm.mem_iff.1 hb)
    rw [compareRecords_append, andThen, hn]
    by_cases hzero : n = 0
    · subst hzero
      simpa using hsecond (tied_iff.2 (h.swap hPb hPa hn))
    · exact ⟨n, if_neg hzero, hle⟩
  ties := by
    intro r hr
    have hfirst (rs : List Record) : rs.filter (tied (m₁ ++ m₂) r) =
        (rs.filter (tied m₁ r)).filter (tied m₂ r) := by
      rw [List.filter_filter]
      exact List.filter_congr fun s _ => (tied_append r s).trans (Bool.and_comm _ _)
    have hsecond (rs : List Record) : rs.filter (tied (m₁ ++ m₂) r) =
        (rs.filter (tied m₂ r)).filter (tied m₁ r) := by
      rw [List.filter_filter]
      exact List.filter_congr fun s _ => tied_append r s
    calc
      out.filter (tied (m₁ ++ m₂) r) = mid.filter (tied (m₁ ++ m₂) r) := by
        rw [hfirst out, hout.ties r hr, hfirst mid]
      _ = rs.filter (tied (m₁ ++ m₂) r) := by rw [hsecond mid, hmid.ties r hr, hsecond rs]

/-- Records that are in order are sorted already. -/
theorem sortRecords_of_inOrder (h : Ranks (compareRecords mode) (· ∈ rs)) {sorted : List Record}
    (hmem : ∀ r ∈ sorted, r ∈ rs) (horder : InOrder mode sorted) :
    sortRecords mode sorted = .ok sorted := by
  obtain ⟨again, hagain, hstable⟩ := sortRecords_stablySorted h hmem
  rw [hagain, hstable.unique h hmem ⟨.refl sorted, horder, fun _ _ => rfl⟩]

/-- Sorting by two modes in one is sorting by the second and then by the first, and sorting again
by the same mode changes nothing, for records whose projects are names or which both modes rank. -/
theorem sortRecords_append (m₁ m₂ : Text) {rs : List Record}
    (h : (∀ r ∈ rs, r.hasNamedProject = true) ∨
      Ranks (compareRecords m₁) (· ∈ rs) ∧ Ranks (compareRecords m₂) (· ∈ rs)) :
    ∃ first both once, sortRecords m₂ rs = .ok first ∧ sortRecords m₁ first = .ok both ∧
      sortRecords (m₁ ++ m₂) rs = .ok both ∧
      sortRecords m₁ rs = .ok once ∧ sortRecords m₁ once = .ok once := by
  obtain ⟨h₁, h₂⟩ : Ranks (compareRecords m₁) (· ∈ rs) ∧ Ranks (compareRecords m₂) (· ∈ rs) := by
    rcases h with hnamed | hranks
    · exact ⟨.of_named hnamed, .of_named hnamed⟩
    · exact hranks
  have h₁₂ : Ranks (compareRecords (m₁ ++ m₂)) (· ∈ rs) := by
    rw [compareRecords_append]
    exact h₁.andThen h₂
  obtain ⟨first, hfirst, hstable₂⟩ := sortRecords_stablySorted h₂ fun _ hr => hr
  have hmem : ∀ r ∈ first, r ∈ rs := fun r hr => hstable₂.perm.mem_iff.1 hr
  obtain ⟨both, hboth, hstable₁⟩ := sortRecords_stablySorted h₁ hmem
  obtain ⟨joint, hjoint, hstable₁₂⟩ := sortRecords_stablySorted h₁₂ fun _ hr => hr
  obtain ⟨once, honce, hstable⟩ := sortRecords_stablySorted h₁ fun _ hr => hr
  obtain rfl : joint = both :=
    hstable₁₂.unique h₁₂ (fun _ hr => hr) (hstable₂.append h₁ (fun _ hr => hr) hstable₁)
  have hagain := sortRecords_of_inOrder h₁ (fun r hr => hstable.perm.mem_iff.1 hr) hstable.inOrder
  exact ⟨first, joint, once, hfirst, hboth, hjoint, honce, hagain⟩

/-- By project and then by falling due date, the last two keep the order that they had. -/
theorem sortRecords_append_fourTasks :
    (∀ r ∈ fourTasks, r.hasNamedProject = true) ∧
      ∃ first both, sortRecords "p" fourTasks = .ok first ∧ sortRecords "D" first = .ok both ∧
        sortRecords ("D" ++ "p" : Text) fourTasks = .ok both ∧
        first.map Record.uuid = ["b", "c", "a", "d"] ∧
        both.map Record.uuid = ["c", "a", "d", "b"] := by
  have hnamed : ∀ r ∈ fourTasks, r.hasNamedProject = true := by decide
  obtain ⟨first, both, -, hfirst, hboth, hjoint, -⟩ := sortRecords_append "D" "p" (.inl hnamed)
  refine ⟨hnamed, first, both, hfirst, hboth, hjoint, ?_, ?_⟩
  · obtain rfl : insertionSort "p" fourTasks = first := Except.ok.inj hfirst
    decide
  · obtain rfl : insertionSort ("D" ++ "p" : Text) fourTasks = both := Except.ok.inj hjoint
    decide

/-! ## Modes with a key for the identifier -/

/-- Either letter of the identifier is its key. -/
theorem ofChar?_uuid {c : Char} (hc : c = 'u' ∨ c = 'U') : SortKey.ofChar? c = some .uuid := by
  rcases hc with rfl | rfl
  · decide
  · decide

/-- Records that tie by a mode with a key for the identifier have the same one. -/
theorem uuid_eq_of_tied (hmode : 'u' ∈ mode ∨ 'U' ∈ mode)
    (htied : compareRecords mode a b = .ok 0) : a.uuid = b.uuid := by
  have hkey : SortKey.uuid.compare a b = .ok 0 := by
    rcases hmode with hu | hu
    · exact compareRecords_eq_zero_iff.1 htied _ hu _ (ofChar?_uuid (.inl rfl))
    · exact compareRecords_eq_zero_iff.1 htied _ hu _ (ofChar?_uuid (.inr rfl))
  have hsign : signOf (Text.compare a.uuid b.uuid) = 0 := Except.ok.inj hkey
  have hcompares := Text.compare_compares a.uuid b.uuid
  cases horder : Text.compare a.uuid b.uuid with
  | lt =>
      rw [horder] at hsign
      cases hsign
  | eq =>
      rw [horder] at hcompares
      exact hcompares
  | gt =>
      rw [horder] at hsign
      cases hsign

/-- Sorting by a mode with a key for the identifier gives the same list in whatever order records
of different identifiers come, if their projects are names or the mode ranks them. -/
theorem sortRecords_eq_of_perm (hmode : 'u' ∈ mode ∨ 'U' ∈ mode) {rs' : List Record}
    (hperm : rs.Perm rs') (hdistinct : (rs.map Record.uuid).Nodup)
    (h : (∀ r ∈ rs, r.hasNamedProject = true) ∨ Ranks (compareRecords mode) (· ∈ rs)) :
    ∃ sorted, sortRecords mode rs = .ok sorted ∧ sortRecords mode rs' = .ok sorted := by
  have hranks : Ranks (compareRecords mode) (· ∈ rs) := h.elim .of_named id
  have hmem' : ∀ r ∈ rs', r ∈ rs := fun r hr => hperm.mem_iff.2 hr
  obtain ⟨sorted, hsorted, hstable⟩ := sortRecords_stablySorted hranks fun _ hr => hr
  obtain ⟨sorted', hsorted', hstable'⟩ := sortRecords_stablySorted hranks hmem'
  have hin : ∀ r ∈ sorted, r ∈ rs := fun r hr => hstable.perm.mem_iff.1 hr
  have hin' : ∀ r ∈ sorted', r ∈ rs := fun r hr => hmem' r (hstable'.perm.mem_iff.1 hr)
  have hsame : sorted = sorted' := by
    refine List.Perm.eq_of_pairwise ?_ ((hranks.inOrder_iff hin).1 hstable.inOrder)
      ((hranks.inOrder_iff hin').1 hstable'.inOrder)
      ((hstable.perm.trans hperm).trans hstable'.perm.symm)
    intro a b ha hb hab hba
    obtain ⟨n, hn, hle⟩ := hab
    have hback := (AtMost.iff_of_eq (hranks.swap (hin a ha) (hin' b hb) hn)).1 hba
    obtain rfl : n = 0 := by omega
    exact List.inj_on_of_nodup_map hdistinct (hin a ha) (hin' b hb) (uuid_eq_of_tied hmode hn)
  exact ⟨sorted, hsorted, hsame ▸ hsorted'⟩

/-- The two that tie by due date and project are told apart by falling identifier. -/
theorem sortRecords_eq_of_perm_fourTasks :
    ∃ sorted, sortRecords "dpU" fourTasks = .ok sorted ∧
      sortRecords "dpU" fourTasks.reverse = .ok sorted ∧
      sorted.map Record.uuid = ["b", "c", "d", "a"] := by
  have hmode : 'u' ∈ ("dpU" : Text) ∨ 'U' ∈ ("dpU" : Text) := by decide
  obtain ⟨sorted, hsorted, hreversed⟩ := sortRecords_eq_of_perm hmode
    (List.reverse_perm fourTasks).symm (by decide) (.inl (by decide))
  refine ⟨sorted, hsorted, hreversed, ?_⟩
  obtain rfl : insertionSort "dpU" fourTasks = sorted := Except.ok.inj hsorted
  decide

end TaskBrowser
