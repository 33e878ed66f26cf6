import Mathlib
import TaskBrowser.Record.Order

/-!
# Comparing ranks the records

A comparison gives a number, or finds that two things have no order.  It *ranks* the things of a
kind if it is a total preorder of them: any two of them have an order, which is turned around with
them (`Ranks.opposed`), and what is at most something is at most whatever that is at most
(`Ranks.trans`).

Comparing by one key and then, between those it leaves equal, by another ranks what both of them
rank (`Ranks.andThen`), and so does turning a comparison around (`Ranks.turned`).  So a sort mode
ranks the records that all its keys rank, by induction on the mode.  The one key that does not rank
all records is the project: it needs projects that are names (`compareRecords_ranks`).
-/

namespace TaskBrowser

/-! ## Comparisons that rank -/

section Ranks

variable {α β : Type} {f g : α → α → Except Crash Int} {P Q : α → Prop} {a b c : α}

/-- The first of two things compares as at most the second. -/
def AtMost (f : α → α → Except Crash Int) (a b : α) : Prop := ∃ n, f a b = .ok n ∧ n ≤ 0

/-- A comparison is a total preorder of the things for which `P` holds. -/
structure Ranks (f : α → α → Except Crash Int) (P : α → Prop) : Prop where
  opposed {a b : α} (ha : P a) (hb : P b) : ∃ n, f a b = .ok n ∧ f b a = .ok (-n)
  trans {a b c : α} (ha : P a) (hb : P b) (hc : P c) (hab : AtMost f a b) (hbc : AtMost f b c) :
    AtMost f a c

/-- One comparison, and another between what the first leaves equal. -/
def andThen (f g : α → α → Except Crash Int) (a b : α) : Except Crash Int :=
  match f a b with
  | .error e => .error e
  | .ok n => if n = 0 then g a b else .ok n

/-- A comparison the other way, if it is inverted. -/
def turned (inverted : Bool) (f : α → α → Except Crash Int) (a b : α) : Except Crash Int :=
  (f a b).map fun n => if inverted then -n else n

theorem AtMost.of_eq {n : Int} (h : f a b = .ok n) (hn : n ≤ 0) : AtMost f a b := ⟨n, h, hn⟩

/-- An answer that is known decides. -/
theorem AtMost.iff_of_eq {n : Int} (h : f a b = .ok n) : AtMost f a b ↔ n ≤ 0 := by
  constructor
  · rintro ⟨m, hm, hle⟩
    obtain rfl : n = m := Except.ok.inj (h.symm.trans hm)
    exact hle
  · exact .of_eq h

namespace Ranks

theorem swap (h : Ranks f P) (ha : P a) (hb : P b) {n : Int} (hab : f a b = .ok n) :
    f b a = .ok (-n) := by
  obtain ⟨m, hm, hopposed⟩ := h.opposed ha hb
  obtain rfl : n = m := Except.ok.inj (hab.symm.trans hm)
  exact hopposed

theorem refl (h : Ranks f P) (ha : P a) : f a a = .ok 0 := by
  obtain ⟨n, hn, hopposed⟩ := h.opposed ha ha
  have hzero : n = -n := Except.ok.inj (hn.symm.trans hopposed)
  obtain rfl : n = 0 := by omega
  exact hn

theorem mono (h : Ranks f P) (hsub : ∀ a, Q a → P a) : Ranks f Q where
  opposed ha hb := h.opposed (hsub _ ha) (hsub _ hb)
  trans ha hb hc := h.trans (hsub _ ha) (hsub _ hb) (hsub _ hc)

/-- Things that are compared by a rank are ranked. -/
theorem of_rank [LinearOrder β] (rank : α → β)
    (h : ∀ a b, P a → P b → ∃ n, f a b = .ok n ∧ f b a = .ok (-n) ∧ (n ≤ 0 ↔ rank a ≤ rank b)) :
    Ranks f P := by
  have hle {a b : α} (ha : P a) (hb : P b) : AtMost f a b ↔ rank a ≤ rank b := by
    obtain ⟨n, hn, -, hrank⟩ := h a b ha hb
    rw [AtMost.iff_of_eq hn, hrank]
  constructor
  · intro a b ha hb
    obtain ⟨n, hn, hopposed, -⟩ := h a b ha hb
    exact ⟨n, hn, hopposed⟩
  · intro a b c ha hb hc hab hbc
    rw [hle ha hb] at hab
    rw [hle hb hc] at hbc
    rw [hle ha hc]
    exact hab.trans hbc

theorem turned (h : Ranks f P) (inverted : Bool) : Ranks (turned inverted f) P := by
  have hanswer {a b : α} {n : Int} (hn : f a b = .ok n) :
      TaskBrowser.turned inverted f a b = .ok (if inverted then -n else n) := by
    rw [TaskBrowser.turned, hn]
    rfl
  cases inverted with
  | false =>
      have hsame : TaskBrowser.turned false f = f := by
        funext a b
        rw [TaskBrowser.turned]
        cases f a b <;> rfl
      rw [hsame]
      exact h
  | true =>
      have hback {a b : α} (ha : P a) (hb : P b) :
          AtMost (TaskBrowser.turned true f) a b ↔ AtMost f b a := by
        obtain ⟨n, hn, hopposed⟩ := h.opposed ha hb
        rw [AtMost.iff_of_eq (hanswer hn), AtMost.iff_of_eq hopposed]
        rfl
      constructor
      · intro a b ha hb
        obtain ⟨n, hn, hopposed⟩ := h.opposed ha hb
        exact ⟨-n, hanswer hn, hanswer hopposed⟩
      · intro a b c ha hb hc hab hbc
        rw [hback ha hb] at hab
        rw [hback hb hc] at hbc
        rw [hback ha hc]
        exact h.trans hc hb ha hbc hab

/-- What is strictly below something is strictly below whatever that is at most. -/
theorem lt_of_lt_of_le (h : Ranks f P) (ha : P a) (hb : P b) (hc : P c) {m : Int}
    (hab : f a b = .ok m) (hm : m < 0) (hbc : AtMost f b c) : ∃ n, f a c = .ok n ∧ n < 0 := by
  obtain ⟨n, hn, hle⟩ := h.trans ha hb hc (.of_eq hab (by omega)) hbc
  refine ⟨n, hn, ?_⟩
  by_contra hzero
  have hca : AtMost f c a := .of_eq (h.swap ha hc hn) (by omega)
  have hback := (AtMost.iff_of_eq (h.swap ha hb hab)).1 (h.trans hb hc ha hbc hca)
  omega

/-- What is at most something is strictly below whatever that is strictly below. -/
theorem lt_of_le_of_lt (h : Ranks f P) (ha : P a) (hb : P b) (hc : P c) (hab : AtMost f a b)
    {m : Int} (hbc : f b c = .ok m) (hm : m < 0) : ∃ n, f a c = .ok n ∧ n < 0 := by
  obtain ⟨n, hn, hle⟩ := h.trans ha hb hc hab (.of_eq hbc (by omega))
  refine ⟨n, hn, ?_⟩
  by_contra hzero
  have hca : AtMost f c a := .of_eq (h.swap ha hc hn) (by omega)
  have hback := (AtMost.iff_of_eq (h.swap hb hc hbc)).1 (h.trans hc ha hb hca hab)
  omega

theorem andThen (hf : Ranks f P) (hg : Ranks g P) : Ranks (andThen f g) P := by
  have hfirst {a b : α} {n : Int} (hn : f a b = .ok n) (hne : n ≠ 0) :
      TaskBrowser.andThen f g a b = .ok n := by
    simp only [TaskBrowser.andThen, hn, if_neg hne]
  have hsecond {a b : α} (hn : f a b = .ok 0) : TaskBrowser.andThen f g a b = g a b := by
    simp only [TaskBrowser.andThen, hn, if_true]
  -- the first comparison decides, or it leaves the two equal and the second one decides
  have hcases {a b : α} (ha : P a) (hb : P b) (h : AtMost (TaskBrowser.andThen f g) a b) :
      (∃ m, f a b = .ok m ∧ m < 0) ∨ (f a b = .ok 0 ∧ AtMost g a b) := by
    obtain ⟨m, hm, -⟩ := hf.opposed ha hb
    by_cases hzero : m = 0
    · subst hzero
      rw [AtMost, hsecond hm] at h
      exact .inr ⟨hm, h⟩
    · have hle := (AtMost.iff_of_eq (hfirst hm hzero)).1 h
      exact .inl ⟨m, hm, by omega⟩
  constructor
  · intro a b ha hb
    obtain ⟨n, hn, hopposed⟩ := hf.opposed ha hb
    by_cases hzero : n = 0
    · subst hzero
      rw [hsecond hn, hsecond hopposed]
      exact hg.opposed ha hb
    · exact ⟨n, hfirst hn hzero, hfirst hopposed (by omega)⟩
  · intro a b c ha hb hc hab hbc
    have hbelow (h : ∃ n, f a c = .ok n ∧ n < 0) : AtMost (TaskBrowser.andThen f g) a c := by
      obtain ⟨n, hn, hlt⟩ := h
      exact .of_eq (hfirst hn (by omega)) (by omega)
    obtain ⟨m, hm, hlt⟩ | ⟨hm, hgab⟩ := hcases ha hb hab
    · have hbc' : AtMost f b c := by
        obtain ⟨k, hk, hklt⟩ | ⟨hk, -⟩ := hcases hb hc hbc
        · exact .of_eq hk (by omega)
        · exact .of_eq hk (by omega)
      exact hbelow (hf.lt_of_lt_of_le ha hb hc hm hlt hbc')
    · obtain ⟨k, hk, hklt⟩ | ⟨hk, hgbc⟩ := hcases hb hc hbc
      · exact hbelow (hf.lt_of_le_of_lt ha hb hc (.of_eq hm (by omega)) hk hklt)
      · obtain ⟨n, hn, hopposed⟩ := hf.opposed ha hc
        have hle := (AtMost.iff_of_eq hn).1
          (hf.trans ha hb hc (.of_eq hm (by omega)) (.of_eq hk (by omega)))
        by_cases hzero : n = 0
        · subst hzero
          rw [AtMost, hsecond hn]
          exact hg.trans ha hb hc hgab hgbc
        · exact hbelow ⟨n, hn, by omega⟩

end Ranks

end Ranks

/-! ## The keys -/

/-- Code-point order of texts is the order of lists of characters. -/
theorem Text.compare_compares (t u : Text) : (Text.compare t u).Compares t u := by
  induction t generalizing u with
  | nil =>
      cases u with
      | nil => rfl
      | cons b u => exact List.nil_lt_cons b u
  | cons a t ih =>
      cases u with
      | nil => exact List.nil_lt_cons a t
      | cons b u =>
          rw [Text.compare]
          split
          next hlt => exact List.cons_lt_cons_iff.2 (.inl hlt)
          next hnot =>
            split
            next hgt => exact List.cons_lt_cons_iff.2 (.inl hgt)
            next hnot' =>
              obtain rfl : a = b := Char.toNat_inj.1 (by omega)
              have hrest := ih u
              cases hcompare : Text.compare t u with
              | lt =>
                  rw [hcompare] at hrest
                  exact List.cons_lt_cons_iff.2 (.inr ⟨rfl, hrest⟩)
              | eq =>
                  rw [hcompare] at hrest
                  exact congrArg (a :: ·) hrest
              | gt =>
                  rw [hcompare] at hrest
                  exact List.cons_lt_cons_iff.2 (.inr ⟨rfl, hrest⟩)

/-- Things whose comparison is the order of their ranks. -/
theorem Ranks.of_order {α β : Type} {f : α → α → Except Crash Int} {P : α → Prop} [LinearOrder β]
    (rank : α → β) (order : α → α → Ordering)
    (hf : ∀ a b, P a → P b → f a b = .ok (signOf (order a b)))
    (horder : ∀ a b, P a → P b → (order a b).Compares (rank a) (rank b)) : Ranks f P := by
  refine .of_rank rank fun a b ha hb => ⟨_, hf a b ha hb, ?_, ?_⟩
  · have hswap : order b a = (order a b).swap :=
      (horder b a hb ha).inj (horder a b ha hb).swap
    rw [hf b a hb ha, hswap]
    cases order a b <;> rfl
  · have hcompares := horder a b ha hb
    cases horder' : order a b with
    | lt =>
        rw [horder'] at hcompares
        simpa [signOf] using le_of_lt hcompares
    | eq =>
        rw [horder'] at hcompares
        simpa [signOf] using le_of_eq hcompares
    | gt =>
        rw [horder'] at hcompares
        simpa [signOf] using hcompares

/-- Things whose comparison is the difference of their ranks. -/
theorem Ranks.of_difference {α : Type} {f : α → α → Except Crash Int} {P : α → Prop}
    (rank : α → Int) (h : ∀ a b, f a b = .ok (rank a - rank b)) : Ranks f P := by
  refine .of_rank rank fun a b _ _ => ⟨_, h a b, ?_, by omega⟩
  rw [h b a, neg_sub]

/-- The rank of a project among names; none comes after all of them. -/
def Project.rank : Option Project → WithTop Text
  | some (.name t) => (t : WithTop Text)
  | _ => ⊤

/-- The order of two projects that are names, of which either may be missing. -/
def Project.order : Option Project → Option Project → Ordering
  | some (.name t), some (.name u) => Text.compare t u
  | some _, none => .lt
  | none, some _ => .gt
  | _, _ => .eq

theorem compareProjects_eq {p q : Option Project} (hp : p.all Project.isName = true)
    (hq : q.all Project.isName = true) :
    compareProjects p q = .ok (signOf (Project.order p q)) := by
  rcases p with _ | t | v
  · cases q <;> rfl
  · rcases q with _ | u | w
    · rfl
    · rfl
    · cases hq
  · cases hp

theorem Project.order_compares {p q : Option Project} (hp : p.all Project.isName = true)
    (hq : q.all Project.isName = true) :
    (Project.order p q).Compares (Project.rank p) (Project.rank q) := by
  rcases p with _ | t | v
  · rcases q with _ | u | w
    · rfl
    · exact WithTop.coe_lt_top u
    · cases hq
  · rcases q with _ | u | w
    · exact WithTop.coe_lt_top t
    · exact WithTop.coe_strictMono.compares.2 (Text.compare_compares t u)
    · cases hq
  · cases hp

/-- Every key ranks the records whose projects are names. -/
theorem SortKey.ranks (key : SortKey) : Ranks key.compare (·.hasNamedProject = true) := by
  cases key with
  | index => exact .of_difference (·.index) fun _ _ => rfl
  | project =>
      refine .of_order (Project.rank ·.project) (fun a b => Project.order a.project b.project) ?_ ?_
      · intro a b ha hb
        exact compareProjects_eq ha hb
      · intro a b ha hb
        exact Project.order_compares ha hb
  | due => exact .of_difference (·.due) fun _ _ => rfl
  | priority => exact .of_difference (priorityRank ·.priority) fun _ _ => rfl
  | uuid =>
      refine .of_order (·.uuid) (fun a b => Text.compare a.uuid b.uuid) (fun _ _ _ _ => rfl) ?_
      intro a b _ _
      exact Text.compare_compares a.uuid b.uuid

/-! ## Sort modes -/

/-- A letter of a sort mode compares by its key, if it has one, and then by the letters after it. -/
theorem compareRecords_cons (c : Char) (mode : Text) :
    compareRecords (c :: mode) =
      match SortKey.ofChar? c with
      | none => compareRecords mode
      | some key => andThen (turned (Text.isUpper c) key.compare) (compareRecords mode) := by
  funext a b
  rw [compareRecords]
  cases SortKey.ofChar? c with
  | none => rfl
  | some key =>
      dsimp only
      rw [andThen, turned]
      cases key.compare a b <;> rfl

/-- Every sort mode ranks what its keys rank. -/
theorem compareRecords_ranks_of {P : Record → Prop} (hkeys : ∀ key : SortKey, Ranks key.compare P)
    (mode : Text) : Ranks (compareRecords mode) P := by
  induction mode with
  | nil => exact .of_difference (fun _ => 0) fun _ _ => rfl
  | cons c mode ih =>
      rw [compareRecords_cons]
      cases SortKey.ofChar? c with
      | none => exact ih
      | some key => exact ((hkeys key).turned _).andThen ih

theorem compareRecords_ranks (mode : Text) :
    Ranks (compareRecords mode) (·.hasNamedProject = true) :=
  compareRecords_ranks_of SortKey.ranks mode

theorem Ranks.of_named {mode : Text} {rs : List Record}
    (hnamed : ∀ r ∈ rs, r.hasNamedProject = true) : Ranks (compareRecords mode) (· ∈ rs) :=
  (compareRecords_ranks mode).mono hnamed

end TaskBrowser
