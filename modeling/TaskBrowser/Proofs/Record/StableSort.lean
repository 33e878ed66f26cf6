import TaskBrowser.Proofs.Record.Order
import TaskBrowser.Proofs.Record.Ranking

/-!
# Sorting is stable

Sorted records are the records in another order in which none compares below one before it and
those that tie stay as they were (`StablySorted`).  There is only one such list
(`StablySorted.unique`), so every way to sort stably gives the same.

Both ways of `sortRecords` insert one record after another: from the last to the first, each before
those it ties with, or after a first run, each behind those it ties with.  The place is found by
halving in the second way, and a first run that falls is turned around, which keeps ties because it
falls strictly.  Whatever the sort mode ranks, both ways give the stable sort and never crash
(`sortRecords_stablySorted`, `sortByRuns_stablySorted`).
-/

namespace TaskBrowser

variable {mode : Text} {P : Record → Prop} {a b r : Record} {rs out : List Record}

/-! ## What a stable sort is -/

/-- No record compares below one before it. -/
def InOrder (mode : Text) (rs : List Record) : Prop :=
  rs.Pairwise fun earlier later => ∃ n, compareRecords mode later earlier = .ok n ∧ 0 ≤ n

/-- Two records compare as equal. -/
def tied (mode : Text) (a b : Record) : Bool :=
  match compareRecords mode a b with
  | .ok n => n = 0
  | .error _ => false

/-- The records in order, with those that tie with any of the kind as they were. -/
structure StablySorted (mode : Text) (P : Record → Prop) (rs out : List Record) : Prop where
  perm : out.Perm rs
  inOrder : InOrder mode out
  ties : ∀ r, P r → out.filter (tied mode r) = rs.filter (tied mode r)

theorem tied_iff : tied mode a b = true ↔ compareRecords mode a b = .ok 0 := by
  rw [tied]
  cases compareRecords mode a b with
  | error e => simp
  | ok n => simp

theorem comesBefore_iff :
    comesBefore mode a b = true ↔ ∃ n, compareRecords mode a b = .ok n ∧ n < 0 := by
  rw [comesBefore]
  cases compareRecords mode a b with
  | error e => simp
  | ok n => simp

theorem AtMost.of_comesBefore (hab : comesBefore mode a b = true) :
    AtMost (compareRecords mode) a b := by
  obtain ⟨n, hn, hlt⟩ := comesBefore_iff.1 hab
  exact .of_eq hn (by omega)

namespace Ranks

variable (h : Ranks (compareRecords mode) P)

include h

theorem isBefore_eq (ha : P a) (hb : P b) : isBefore mode a b = .ok (comesBefore mode a b) := by
  obtain ⟨n, hn, -⟩ := h.opposed ha hb
  rw [isBefore, comesBefore, hn]
  rfl

theorem not_comesBefore_iff (ha : P a) (hb : P b) :
    comesBefore mode b a = false ↔ AtMost (compareRecords mode) a b := by
  obtain ⟨n, hn, hopposed⟩ := h.opposed ha hb
  rw [AtMost.iff_of_eq hn, comesBefore, hopposed, decide_eq_false_iff_not]
  omega

/-- Records are in order if each is at most those after it. -/
theorem inOrder_iff (hP : ∀ r ∈ rs, P r) :
    InOrder mode rs ↔ rs.Pairwise (AtMost (compareRecords mode)) := by
  refine List.Pairwise.iff_of_mem fun {a b} ha hb => ?_
  obtain ⟨n, hn, hopposed⟩ := h.opposed (hP a ha) (hP b hb)
  rw [AtMost.iff_of_eq hn, hopposed]
  constructor
  · rintro ⟨m, hm, hle⟩
    obtain rfl : -n = m := Except.ok.inj hm
    omega
  · intro hle
    exact ⟨-n, rfl, by omega⟩

theorem comesBefore_of_comesBefore_of_atMost (ha : P a) (hb : P b) (hr : P r)
    (hab : comesBefore mode a b = true) (hbr : AtMost (compareRecords mode) b r) :
    comesBefore mode a r = true := by
  obtain ⟨n, hn, hlt⟩ := comesBefore_iff.1 hab
  exact comesBefore_iff.2 (h.lt_of_lt_of_le ha hb hr hn hlt hbr)

theorem comesBefore_of_atMost_of_comesBefore (ha : P a) (hb : P b) (hr : P r)
    (hab : AtMost (compareRecords mode) a b) (hbr : comesBefore mode b r = true) :
    comesBefore mode a r = true := by
  obtain ⟨n, hn, hlt⟩ := comesBefore_iff.1 hbr
  exact comesBefore_iff.2 (h.lt_of_le_of_lt ha hb hr hab hn hlt)

/-- What ties with one of two records of which one comes before the other does not tie with both. -/
theorem not_tied_of_comesBefore (hr : P r) (ha : P a) (hb : P b) (hab : comesBefore mode a b = true)
    (hra : tied mode r a = true) : tied mode r b = false := by
  obtain ⟨n, hn, hlt⟩ := comesBefore_iff.1 hab
  have hle : AtMost (compareRecords mode) r a := .of_eq (tied_iff.1 hra) (by omega)
  obtain ⟨m, hm, hneg⟩ := h.lt_of_le_of_lt hr ha hb hle hn hlt
  rw [tied, hm, decide_eq_false_iff_not]
  omega

end Ranks

/-! ## There is only one -/

/-- Two stable sorts of the same records are the same. -/
theorem StablySorted.unique (h : Ranks (compareRecords mode) P) {out' : List Record}
    (hP : ∀ r ∈ rs, P r) (hout : StablySorted mode P rs out) (hout' : StablySorted mode P rs out') :
    out = out' := by
  have hperm : out.Perm out' := hout.perm.trans hout'.perm.symm
  have hties : ∀ r, P r → out.filter (tied mode r) = out'.filter (tied mode r) :=
    fun r hr => (hout.ties r hr).trans (hout'.ties r hr).symm
  have hP' : ∀ r ∈ out, P r := fun r hr => hP r (hout.perm.mem_iff.1 hr)
  have horder := (h.inOrder_iff hP').1 hout.inOrder
  have horder' := (h.inOrder_iff fun r hr => hP' r (hperm.mem_iff.2 hr)).1 hout'.inOrder
  clear hout hout' hP
  -- the first record of each list is at most the first of the other, so they tie, and what ties
  -- with them comes in the same order
  induction out generalizing out' with
  | nil => exact hperm.nil_eq
  | cons a out ih =>
      cases out' with
      | nil => exact absurd hperm.symm (List.not_perm_nil_cons a out)
      | cons b out' =>
          have ha : P a := hP' a List.mem_cons_self
          have hb : P b := hP' b (hperm.mem_iff.2 List.mem_cons_self)
          have hhead {r : Record} {rs : List Record} (hr : P r)
              (hrs : (r :: rs).Pairwise (AtMost (compareRecords mode))) {s : Record}
              (hs : s ∈ r :: rs) : AtMost (compareRecords mode) r s := by
            rcases List.mem_cons.1 hs with rfl | hs
            · exact .of_eq (h.refl hr) (by omega)
            · exact (List.pairwise_cons.1 hrs).1 s hs
          have hab := hhead ha horder (hperm.mem_iff.2 List.mem_cons_self)
          have hba := hhead hb horder' (hperm.mem_iff.1 List.mem_cons_self)
          have htied : tied mode a b = true := by
            obtain ⟨n, hn, hle⟩ := hab
            have hback := (AtMost.iff_of_eq (h.swap ha hb hn)).1 hba
            obtain rfl : n = 0 := by omega
            exact tied_iff.2 hn
          have hself : tied mode a a = true := tied_iff.2 (h.refl ha)
          have hfilter := hties a ha
          rw [List.filter_cons_of_pos hself, List.filter_cons_of_pos htied] at hfilter
          obtain ⟨rfl, -⟩ := List.cons.inj hfilter
          have hrest : out = out' := by
            refine ih hperm.cons_inv ?_ ?_ (List.pairwise_cons.1 horder).2
              (List.pairwise_cons.1 horder').2
            · intro r hr
              have hr' := hties r hr
              cases hra : tied mode r a with
              | true =>
                  rw [List.filter_cons_of_pos hra, List.filter_cons_of_pos hra] at hr'
                  exact (List.cons.inj hr').2
              | false =>
                  rwa [List.filter_cons_of_neg (by simp [hra]),
                    List.filter_cons_of_neg (by simp [hra])] at hr'
            · intro r hr
              exact hP' r (List.mem_cons_of_mem a hr)
          rw [hrest]

/-! ## One more record -/

section Insertion

variable (h : Ranks (compareRecords mode) P) {before after : List Record}

include h

/-- A record stands between those it is at least and those it is at most. -/
theorem inOrder_insert (hr : P r) (hP : ∀ s ∈ before ++ after, P s)
    (horder : InOrder mode (before ++ after))
    (hbefore : ∀ s ∈ before, AtMost (compareRecords mode) s r)
    (hafter : ∀ s ∈ after, AtMost (compareRecords mode) r s) :
    InOrder mode (before ++ r :: after) := by
  have hP' : ∀ s ∈ before ++ r :: after, P s := by
    intro s hs
    rcases List.mem_append.1 hs with hs | hs
    · exact hP s (List.mem_append_left after hs)
    · rcases List.mem_cons.1 hs with rfl | hs
      · exact hr
      · exact hP s (List.mem_append_right before hs)
  rw [h.inOrder_iff hP, List.pairwise_append] at horder
  obtain ⟨hfront, hback, hacross⟩ := horder
  rw [h.inOrder_iff hP', List.pairwise_append, List.pairwise_cons]
  refine ⟨hfront, ⟨hafter, hback⟩, ?_⟩
  intro s hs t ht
  rcases List.mem_cons.1 ht with rfl | ht
  · exact hbefore s hs
  · exact hacross s hs t ht

/-- A record is put before those it ties with. -/
theorem StablySorted.insertBefore (hr : P r) (hP : ∀ s ∈ before ++ after, P s)
    (hout : StablySorted mode P rs (before ++ after))
    (hbefore : ∀ s ∈ before, comesBefore mode s r = true)
    (hafter : ∀ s ∈ after, comesBefore mode s r = false) :
    StablySorted mode P (r :: rs) (before ++ r :: after) where
  perm := List.perm_middle.trans (hout.perm.cons r)
  inOrder := by
    refine inOrder_insert h hr hP hout.inOrder ?_ ?_
    · intro s hs
      exact AtMost.of_comesBefore (hbefore s hs)
    · intro s hs
      exact (h.not_comesBefore_iff hr (hP s (List.mem_append_right before hs))).1 (hafter s hs)
  ties := by
    intro x hx
    have hrs := hout.ties x hx
    rw [List.filter_append] at hrs ⊢
    cases hxr : tied mode x r with
    | false =>
        rw [List.filter_cons_of_neg (by simp [hxr]), List.filter_cons_of_neg (by simp [hxr])]
        exact hrs
    | true =>
        have hnone : before.filter (tied mode x) = [] := by
          refine List.filter_eq_nil_iff.2 fun s hs hxs => ?_
          have hPs := hP s (List.mem_append_left after hs)
          have hfalse := h.not_tied_of_comesBefore hx hPs hr (hbefore s hs) hxs
          rw [hxr] at hfalse
          cases hfalse
        rw [List.filter_cons_of_pos hxr, List.filter_cons_of_pos hxr, ← hrs, hnone]
        rfl

/-- A record is put behind those it ties with. -/
theorem StablySorted.insertBehind (hr : P r) (hP : ∀ s ∈ before ++ after, P s)
    (hout : StablySorted mode P rs (before ++ after))
    (hbefore : ∀ s ∈ before, comesBefore mode r s = false)
    (hafter : ∀ s ∈ after, comesBefore mode r s = true) :
    StablySorted mode P (rs ++ [r]) (before ++ r :: after) where
  perm := (List.perm_middle.trans (hout.perm.cons r)).trans (List.perm_append_singleton r rs).symm
  inOrder := by
    refine inOrder_insert h hr hP hout.inOrder ?_ ?_
    · intro s hs
      exact (h.not_comesBefore_iff (hP s (List.mem_append_left after hs)) hr).1 (hbefore s hs)
    · intro s hs
      exact AtMost.of_comesBefore (hafter s hs)
  ties := by
    intro x hx
    have hrs := hout.ties x hx
    rw [List.filter_append] at hrs ⊢
    rw [List.filter_append]
    cases hxr : tied mode x r with
    | false =>
        rw [List.filter_cons_of_neg (by simp [hxr]), List.filter_cons_of_neg (by simp [hxr]), hrs]
        simp
    | true =>
        have hnone : after.filter (tied mode x) = [] := by
          refine List.filter_eq_nil_iff.2 fun s hs hxs => ?_
          have hPs := hP s (List.mem_append_right before hs)
          have hfalse := h.not_tied_of_comesBefore hx hr hPs (hafter s hs) hxr
          rw [hxs] at hfalse
          cases hfalse
        rw [hnone, List.append_nil] at hrs
        rw [List.filter_cons_of_pos hxr, List.filter_cons_of_pos hxr, hnone, hrs]
        rfl

end Insertion

/-! ## Insertion from the last to the first -/

/-- A record is inserted between those that come before it and those that do not. -/
theorem insertRecord_eq (h : Ranks (compareRecords mode) P) (hr : P r) (hP : ∀ s ∈ rs, P s)
    (horder : rs.Pairwise (AtMost (compareRecords mode))) :
    ∃ before after, rs = before ++ after ∧ insertRecord mode r rs = before ++ r :: after ∧
      (∀ s ∈ before, comesBefore mode s r = true) ∧
        ∀ s ∈ after, comesBefore mode s r = false := by
  induction rs with
  | nil => exact ⟨[], [], rfl, rfl, nofun, nofun⟩
  | cons s rs ih =>
      have hs : P s := hP s List.mem_cons_self
      have hrs : ∀ t ∈ rs, P t := fun t ht => hP t (List.mem_cons_of_mem s ht)
      obtain ⟨hfirst, horder⟩ := List.pairwise_cons.1 horder
      rw [insertRecord]
      cases hsr : comesBefore mode s r with
      | true =>
          obtain ⟨before, after, rfl, hinsert, hbefore, hafter⟩ := ih hrs horder
          refine ⟨s :: before, after, rfl, ?_, ?_, hafter⟩
          · rw [if_pos rfl, hinsert, List.cons_append]
          · intro t ht
            rcases List.mem_cons.1 ht with rfl | ht
            · exact hsr
            · exact hbefore t ht
      | false =>
          refine ⟨[], s :: rs, rfl, by rw [if_neg Bool.false_ne_true]; rfl, nofun, ?_⟩
          intro t ht
          rcases List.mem_cons.1 ht with rfl | ht
          · exact hsr
          · by_contra htr
            have hsr' := h.comesBefore_of_atMost_of_comesBefore hs (hrs t ht) hr (hfirst t ht)
              (by simpa using htr)
            rw [hsr] at hsr'
            cases hsr'

theorem insertionSort_stablySorted (h : Ranks (compareRecords mode) P) (hP : ∀ r ∈ rs, P r) :
    StablySorted mode P rs (insertionSort mode rs) := by
  induction rs with
  | nil => exact ⟨.refl _, .nil, fun _ _ => rfl⟩
  | cons r rs ih =>
      have hr : P r := hP r List.mem_cons_self
      have hsorted := ih fun s hs => hP s (List.mem_cons_of_mem r hs)
      have hPs : ∀ s ∈ insertionSort mode rs, P s :=
        fun s hs => hP s (List.mem_cons_of_mem r (hsorted.perm.mem_iff.1 hs))
      rw [insertionSort]
      obtain ⟨before, after, hsplit, hinsert, hbefore, hafter⟩ :=
        insertRecord_eq h hr hPs ((h.inOrder_iff hPs).1 hsorted.inOrder)
      rw [hsplit] at hsorted hPs
      rw [hinsert]
      exact .insertBefore h hr hPs hsorted hbefore hafter

/-! ## Insertion behind a first run -/

/-- Halving finds the place behind the records that a record does not come before. -/
theorem placeOf_eq_ok (h : Ranks (compareRecords mode) P) (hr : P r) (hP : ∀ s ∈ rs, P s)
    (horder : rs.Pairwise (AtMost (compareRecords mode))) (bound : Nat) :
    ∀ {low high : Nat}, high ≤ rs.length → low ≤ high → high - low < bound →
      (∀ i s, i < low → rs[i]? = some s → comesBefore mode r s = false) →
      (∀ i s, high ≤ i → rs[i]? = some s → comesBefore mode r s = true) →
      ∃ n, placeOf mode r rs bound low high = .ok n ∧
        (∀ i s, i < n → rs[i]? = some s → comesBefore mode r s = false) ∧
        ∀ i s, n ≤ i → rs[i]? = some s → comesBefore mode r s = true := by
  have hle {i j : Nat} {s t : Record} (hij : i < j) (hs : rs[i]? = some s) (ht : rs[j]? = some t) :
      AtMost (compareRecords mode) s t := by
    obtain ⟨hi, rfl⟩ := List.getElem?_eq_some_iff.1 hs
    obtain ⟨hj, rfl⟩ := List.getElem?_eq_some_iff.1 ht
    exact List.pairwise_iff_getElem.1 horder i j hi hj hij
  induction bound with
  | zero =>
      intro low high _ _ hbound
      omega
  | succ bound ih =>
      intro low high hhigh hlow hbound hbefore hafter
      rw [placeOf]
      split
      next hdone =>
        obtain rfl : low = high := by omega
        exact ⟨low, rfl, hbefore, hafter⟩
      next hopen =>
        have hmiddle : low + (high - low) / 2 < rs.length := by omega
        have hsome : rs[low + (high - low) / 2]? = some rs[low + (high - low) / 2] :=
          List.getElem?_eq_getElem hmiddle
        have hm : P rs[low + (high - low) / 2] := hP _ (List.getElem_mem hmiddle)
        dsimp only
        rw [hsome]
        dsimp only
        rw [h.isBefore_eq hr hm]
        cases hrm : comesBefore mode r rs[low + (high - low) / 2] with
        | true =>
            refine ih (by omega) (by omega) (by omega) hbefore ?_
            intro i s hi hs
            rcases Nat.eq_or_lt_of_le hi with rfl | hlt
            · obtain rfl := Option.some.inj (hsome.symm.trans hs)
              exact hrm
            · exact h.comesBefore_of_comesBefore_of_atMost hr hm (hP s (List.mem_of_getElem? hs))
                hrm (hle hlt hsome hs)
        | false =>
            refine ih hhigh (by omega) (by omega) ?_ hafter
            intro i s hi hs
            rcases Nat.eq_or_lt_of_le (Nat.le_of_lt_succ hi) with rfl | hlt
            · obtain rfl := Option.some.inj (hsome.symm.trans hs)
              exact hrm
            · have hPs := hP s (List.mem_of_getElem? hs)
              rw [h.not_comesBefore_iff hm hr] at hrm
              rw [h.not_comesBefore_iff hPs hr]
              exact h.trans hPs hm hr (hle hlt hs hsome) hrm

/-- Records are inserted one after another, each behind those it ties with. -/
theorem insertAll_stablySorted (h : Ranks (compareRecords mode) P) {more : List Record} :
    ∀ {rs out : List Record}, (∀ r ∈ rs, P r) → (∀ r ∈ more, P r) → StablySorted mode P rs out →
      ∃ sorted, insertAll mode out more = .ok sorted ∧ StablySorted mode P (rs ++ more) sorted := by
  induction more with
  | nil =>
      intro rs out _ _ hout
      rw [List.append_nil]
      exact ⟨out, rfl, hout⟩
  | cons r more ih =>
      intro rs out hrs hmore hout
      have hr : P r := hmore r List.mem_cons_self
      have hPout : ∀ s ∈ out, P s := fun s hs => hrs s (hout.perm.mem_iff.1 hs)
      obtain ⟨n, hplace, hbefore, hafter⟩ := placeOf_eq_ok h hr hPout
        ((h.inOrder_iff hPout).1 hout.inOrder) (out.length + 1) (le_refl out.length)
        (Nat.zero_le _) (by omega) (fun i _ hi _ => absurd hi (Nat.not_lt_zero i))
        (fun i s hi hs => by
          rw [List.getElem?_eq_none hi] at hs
          cases hs)
      rw [← List.take_append_drop n out] at hout hPout
      have hinserted : StablySorted mode P (rs ++ [r]) (out.take n ++ r :: out.drop n) := by
        refine .insertBehind h hr hPout hout ?_ ?_
        · intro s hs
          obtain ⟨i, hi, rfl⟩ := List.mem_take_iff_getElem.1 hs
          exact hbefore i _ (by omega) (List.getElem?_eq_getElem _)
        · intro s hs
          obtain ⟨i, hi, rfl⟩ := List.mem_drop_iff_getElem.1 hs
          exact hafter (n + i) _ (by omega) (List.getElem?_eq_getElem _)
      rw [insertAll, hplace]
      dsimp only
      have hrs' : ∀ s ∈ rs ++ [r], P s := by
        intro s hs
        rcases List.mem_append.1 hs with hs | hs
        · exact hrs s hs
        · obtain rfl := List.mem_singleton.1 hs
          exact hr
      have hsorted := ih hrs' (fun s hs => hmore s (List.mem_cons_of_mem r hs)) hinserted
      rwa [List.append_assoc] at hsorted

/-- What rises and goes on rising rises, and so does what falls. -/
theorem comesBefore_run_trans (h : Ranks (compareRecords mode) P) (ha : P a) (hb : P b) (hr : P r)
    {falling : Bool} (hab : comesBefore mode b a = falling) (hbr : comesBefore mode r b = falling) :
    comesBefore mode r a = falling := by
  cases falling with
  | true => exact h.comesBefore_of_comesBefore_of_atMost hr hb ha hbr (.of_comesBefore hab)
  | false =>
      rw [h.not_comesBefore_iff ha hb] at hab
      rw [h.not_comesBefore_iff hb hr] at hbr
      rw [h.not_comesBefore_iff ha hr]
      exact h.trans ha hb hr hab hbr

/-- A run goes on as far as it rises or falls all the way. -/
theorem runFrom_eq_ok (h : Ranks (compareRecords mode) P) (falling : Bool) :
    ∀ {last : Record} {rs : List Record}, P last → (∀ r ∈ rs, P r) →
      ∃ run rest, runFrom mode falling last rs = .ok (run, rest) ∧ run ++ rest = rs ∧
        (last :: run).Pairwise fun earlier later => comesBefore mode later earlier = falling := by
  intro last rs
  induction rs generalizing last with
  | nil => exact fun _ _ => ⟨[], [], rfl, rfl, List.pairwise_singleton _ _⟩
  | cons r rs ih =>
      intro hlast hP
      have hr : P r := hP r List.mem_cons_self
      rw [runFrom, h.isBefore_eq hr hlast]
      dsimp only
      split
      next hgoes =>
        obtain ⟨run, rest, hrun, happend, hpairwise⟩ :=
          ih hr fun s hs => hP s (List.mem_cons_of_mem r hs)
        refine ⟨r :: run, rest, by rw [hrun]; rfl, by rw [List.cons_append, happend], ?_⟩
        refine List.pairwise_cons.2 ⟨?_, hpairwise⟩
        intro s hs
        rcases List.mem_cons.1 hs with rfl | hs
        · exact hgoes
        · have hPs : P s := hP s (List.mem_cons_of_mem r (happend ▸ List.mem_append_left rest hs))
          exact comesBefore_run_trans h hlast hr hPs hgoes ((List.pairwise_cons.1 hpairwise).1 s hs)
      next hends => exact ⟨[], r :: rs, rfl, rfl, List.pairwise_singleton _ _⟩

/-- Of records that fall strictly no two tie. -/
theorem filter_tied_reverse (h : Ranks (compareRecords mode) P) (hr : P r) (hP : ∀ s ∈ rs, P s)
    (hfalls : rs.Pairwise fun earlier later => comesBefore mode later earlier = true) :
    rs.reverse.filter (tied mode r) = rs.filter (tied mode r) := by
  rw [List.filter_reverse]
  have hfalls' := hfalls.sublist (List.filter_sublist (p := tied mode r))
  cases htied : rs.filter (tied mode r) with
  | nil => rfl
  | cons a more =>
      cases more with
      | nil => rfl
      | cons b more =>
          rw [htied] at hfalls'
          have hmem {s : Record} (hs : s ∈ a :: b :: more) : P s ∧ tied mode r s = true := by
            rw [← htied, List.mem_filter] at hs
            exact ⟨hP s hs.1, hs.2⟩
          obtain ⟨ha, hra⟩ := hmem List.mem_cons_self
          obtain ⟨hb, hrb⟩ := hmem (List.mem_cons_of_mem a List.mem_cons_self)
          have hba := (List.pairwise_cons.1 hfalls').1 b List.mem_cons_self
          rw [h.not_tied_of_comesBefore hr hb ha hba hrb] at hra
          cases hra

/-- A run is sorted stably by turning it around if it falls. -/
theorem run_stablySorted (h : Ranks (compareRecords mode) P) (falling : Bool) (hP : ∀ r ∈ rs, P r)
    (hrun : rs.Pairwise fun earlier later => comesBefore mode later earlier = falling) :
    StablySorted mode P rs (if falling then rs.reverse else rs) := by
  cases falling with
  | true =>
      refine ⟨List.reverse_perm rs, ?_, fun r hr => filter_tied_reverse h hr hP hrun⟩
      rw [if_pos rfl, h.inOrder_iff fun r hr => hP r (List.mem_reverse.1 hr), List.pairwise_reverse]
      exact hrun.imp .of_comesBefore
  | false =>
      refine ⟨.refl rs, ?_, fun _ _ => rfl⟩
      rw [if_neg Bool.false_ne_true, h.inOrder_iff hP]
      exact hrun.imp_of_mem fun ha hb => (h.not_comesBefore_iff (hP _ ha) (hP _ hb)).1

theorem sortByRuns_stablySorted (h : Ranks (compareRecords mode) P) (hP : ∀ r ∈ rs, P r) :
    ∃ sorted, sortByRuns mode rs = .ok sorted ∧ StablySorted mode P rs sorted := by
  rcases rs with _ | ⟨a, _ | ⟨b, rest⟩⟩
  · exact ⟨[], rfl, .refl _, .nil, fun _ _ => rfl⟩
  · exact ⟨[a], rfl, .refl _, List.pairwise_singleton _ _, fun _ _ => rfl⟩
  · have ha : P a := hP a List.mem_cons_self
    have hb : P b := hP b (List.mem_cons_of_mem a List.mem_cons_self)
    have hrest : ∀ s ∈ rest, P s :=
      fun s hs => hP s (List.mem_cons_of_mem a (List.mem_cons_of_mem b hs))
    obtain ⟨run, more, hrun, rfl, hpairwise⟩ :=
      runFrom_eq_ok h (comesBefore mode b a) hb hrest
    have hfront : ∀ s ∈ a :: b :: run, P s :=
      fun s hs => hP s (List.mem_append_left more hs)
    have hpairwise' : (a :: b :: run).Pairwise
        fun earlier later => comesBefore mode later earlier = comesBefore mode b a := by
      refine List.pairwise_cons.2 ⟨?_, hpairwise⟩
      intro s hs
      rcases List.mem_cons.1 hs with rfl | hs
      · rfl
      · have hPs : P s := hfront s (List.mem_cons_of_mem a (List.mem_cons_of_mem b hs))
        exact comesBefore_run_trans h ha hb hPs rfl ((List.pairwise_cons.1 hpairwise).1 s hs)
    rw [sortByRuns, h.isBefore_eq hb ha]
    dsimp only
    rw [hrun]
    dsimp only
    exact insertAll_stablySorted h hfront (fun s hs => hrest s (List.mem_append_right run hs))
      (run_stablySorted h _ hfront hpairwise')

/-! ## Sorting -/

/-- Records that the sort mode ranks are sorted stably. -/
theorem sortRecords_stablySorted (h : Ranks (compareRecords mode) P) (hP : ∀ r ∈ rs, P r) :
    ∃ sorted, sortRecords mode rs = .ok sorted ∧ StablySorted mode P rs sorted := by
  rw [sortRecords]
  split
  · exact ⟨_, rfl, insertionSort_stablySorted h hP⟩
  · exact sortByRuns_stablySorted h hP

/-- Inserting from the last to the first gives the same as inserting behind a first run. -/
theorem sortByRuns_eq (h : Ranks (compareRecords mode) P) (hP : ∀ r ∈ rs, P r) :
    sortByRuns mode rs = .ok (insertionSort mode rs) := by
  obtain ⟨sorted, hsorted, hstable⟩ := sortByRuns_stablySorted h hP
  rw [hsorted, hstable.unique h hP (insertionSort_stablySorted h hP)]

/-- Comparing by a sort mode, whatever its characters, is a total preorder of the records whose
projects, if there are any, are names.  Sorting such records, either way, gives the same records in
an order in which none compares below one before it and those that tie stay as they were. -/
theorem sortRecords_stable (mode : Text) :
    (∀ a b c : Record, a.hasNamedProject = true → b.hasNamedProject = true →
      c.hasNamedProject = true →
        compareRecords mode a a = .ok 0 ∧
          (∃ n, compareRecords mode a b = .ok n ∧ compareRecords mode b a = .ok (-n)) ∧
          (AtMost (compareRecords mode) a b → AtMost (compareRecords mode) b c →
            AtMost (compareRecords mode) a c)) ∧
      ∀ rs : List Record, (∀ r ∈ rs, r.hasNamedProject = true) →
        ∃ sorted, sortRecords mode rs = .ok sorted ∧ sortByRuns mode rs = .ok sorted ∧
          sorted.Perm rs ∧ InOrder mode sorted ∧
            ∀ r ∈ rs, sorted.filter (tied mode r) = rs.filter (tied mode r) := by
  have h := compareRecords_ranks mode
  refine ⟨fun a b c ha hb hc => ⟨h.refl ha, h.opposed ha hb, h.trans ha hb hc⟩, ?_⟩
  intro rs hP
  have hstable := insertionSort_stablySorted h hP
  have hsort : sortRecords mode rs = .ok (insertionSort mode rs) := by
    rw [sortRecords, if_pos (List.all_eq_true.2 hP)]
  exact ⟨_, hsort, sortByRuns_eq h hP, hstable.perm, hstable.inOrder,
    fun r hr => hstable.ties r (hP r hr)⟩

/-- Four tasks, of which two have no project and are due at once. -/
def fourTasks : List Record := [
  { uuid := "a", description := "roof", due := 9 },
  { uuid := "b", description := "cat", project := some (.name "home"), due := 7 },
  { uuid := "c", description := "tax", project := some (.name "office"), due := 9 },
  { uuid := "d", description := "walls", due := 9 }]

/-- By falling due date and then by project, the two that tie come last, as they were. -/
theorem sortRecords_stable_fourTasks :
    (∀ r ∈ fourTasks, r.hasNamedProject = true) ∧
      ∃ sorted, sortRecords "D?p" fourTasks = .ok sorted ∧ InOrder "D?p" sorted ∧
        sorted.map Record.uuid = ["c", "a", "d", "b"] := by
  have hnamed : ∀ r ∈ fourTasks, r.hasNamedProject = true := by decide
  obtain ⟨sorted, hsort, -, -, horder, -⟩ := (sortRecords_stable "D?p").2 fourTasks hnamed
  refine ⟨hnamed, sorted, hsort, horder, ?_⟩
  obtain rfl : insertionSort "D?p" fourTasks = sorted := Except.ok.inj hsort
  decide

end TaskBrowser
