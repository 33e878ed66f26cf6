import Mathlib
import TaskBrowser.Proofs.Color.History

/-!
# The numbers of pairs

A palette keeps its pairs in a list, and the number of a pair is its place there.  Said without the
list, a palette is a *table*: the numbers in use with their colours, in the order in which they were
handed out, of which the first is zero with the terminal's own pair.  The table answers a request
for colours by looking for them at every number but zero, and by looking for the least number from
one on, below the capacity, that is not in use.

The two answer every request alike (`request_table`): the numbers in use are always those up to the
length of the list, so that the least free one is the next.  What a run of requests leaves
(`afterAll_numbers`) is an invariant with one lemma for a request, `Numbered.after`, and one for
runs.
-/

namespace TaskBrowser

namespace Palette

/-! ## Tables -/

/-- Numbers with their colours, in the order in which they were handed out. -/
abbrev Table := List (Nat × ColorPair)

namespace Table

/-- The table before any request. -/
def new : Table := [(terminalPair, .terminal)]

/-- The numbers in use. -/
def numbers (t : Table) : List Nat := t.map Prod.fst

/-- The first number apart from zero that has the colours. -/
def numberOf? (t : Table) (c : ColorPair) : Option Nat :=
  (t.find? fun e => e.1 != terminalPair && e.2 == c).map Prod.fst

/-- The least number from one on, below the capacity, that is not in use. -/
def free? (t : Table) (capacity : Int) : Option Nat :=
  (List.range' 1 (capacity - 1).toNat).find? fun n => n ∉ t.numbers

/-- The number for colours, and the table after it is handed out. -/
def request (capacity : Int) (t : Table) (c : ColorPair) : Except Exhausted (Nat × Table) :=
  match t.numberOf? c with
  | some n => .ok (n, t)
  | none =>
      match t.free? capacity with
      | some n => .ok (n, t ++ [(n, c)])
      | none => .error ⟨c.fg, c.bg, capacity⟩

/-- The table after a request; one that is refused changes nothing. -/
def after (capacity : Int) (t : Table) (c : ColorPair) : Table :=
  match t.request capacity c with
  | .ok (_, t) => t
  | .error _ => t

end Table

/-- The table of a palette. -/
def table (p : Palette) : Table := Table.new ++ (p.pairs.zipIdx 1).map Prod.swap

variable {p q : Palette} {c : ColorPair} {n : Nat}

/-- The numbers in use are those up to the number of pairs. -/
theorem numbers_table (p : Palette) : p.table.numbers = List.range (p.pairs.length + 1) := by
  rw [table, Table.new, Table.numbers, List.map_append, List.map_map, List.range_eq_range',
    List.range'_succ]
  simp [terminalPair, Function.comp_def]

theorem mem_table_succ : (n + 1, c) ∈ p.table ↔ p.pairs[n]? = some c := by
  simp [table, Table.new, terminalPair, List.mk_mem_zipIdx_iff_le_and_getElem?_sub]

/-- The number has the colours, and is not that of the terminal's own pair. -/
def Holds (p : Palette) (c : ColorPair) (n : Nat) : Prop := n ≠ terminalPair ∧ (n, c) ∈ p.table

theorem holds_iff : p.Holds c n ↔ ∃ m, n = m + 1 ∧ p.pairs[m]? = some c := by
  constructor
  · rintro ⟨hn, hmem⟩
    obtain ⟨m, rfl⟩ := Nat.exists_eq_succ_of_ne_zero hn
    exact ⟨m, rfl, mem_table_succ.1 hmem⟩
  · rintro ⟨m, rfl, hm⟩
    exact ⟨Nat.succ_ne_zero m, mem_table_succ.2 hm⟩

theorem forall_not_holds_iff : (∀ n, ¬p.Holds c n) ↔ c ∉ p.pairs := by
  rw [List.mem_iff_getElem?, ← not_exists, not_iff_not]
  constructor
  · rintro ⟨n, hn⟩
    obtain ⟨m, -, hm⟩ := holds_iff.1 hn
    exact ⟨m, hm⟩
  · rintro ⟨m, hm⟩
    exact ⟨m + 1, holds_iff.2 ⟨m, rfl, hm⟩⟩

theorem lookup_zipIdx (cs : List ColorPair) (first n : Nat) :
    ((cs.zipIdx first).map Prod.swap).lookup (first + n) = cs[n]? := by
  induction cs generalizing first n with
  | nil => rfl
  | cons a cs ih =>
      cases n with
      | zero => simp
      | succ n =>
          have hlater : first + (n + 1) = first + 1 + n := by omega
          have hne : (first + (n + 1) == first) = false := by simp
          rw [List.zipIdx_cons, List.map_cons, Prod.swap_prod_mk, List.lookup_cons, hne, hlater,
            ih, List.getElem?_cons_succ]

/-- The colours of a number are those in the table, and the terminal's own if it is not there. -/
theorem content_eq_lookup (p : Palette) (n : Nat) :
    p.content n = (p.table.lookup n).getD .terminal := by
  cases n with
  | zero => rfl
  | succ n =>
      rw [content_succ, List.getD_eq_getElem?_getD, ← lookup_zipIdx p.pairs 1 n]
      simp [table, Table.new, terminalPair, List.lookup_cons, Nat.add_comm 1]

/-! ## One request -/

theorem find?_zipIdx (cs : List ColorPair) {first : Nat} (hfirst : first ≠ terminalPair) :
    ((((cs.zipIdx first).map Prod.swap).find? fun e => e.1 != terminalPair && e.2 == c).map
      Prod.fst) = (cs.findIdx? (· == c)).map (· + first) := by
  induction cs generalizing first with
  | nil => rfl
  | cons a cs ih =>
      rw [List.zipIdx_cons, List.map_cons, List.findIdx?_cons]
      by_cases ha : a = c
      · subst ha
        simp [hfirst]
      · rw [List.find?_cons_of_neg (by simp [ha]), ih (Nat.succ_ne_zero first),
          if_neg (by simpa using ha), Option.map_map]
        congr 1
        funext n
        exact (Nat.succ_add_eq_add_succ n first).symm

/-- The colours found first in the table are those found first in the list. -/
theorem numberOf?_table (p : Palette) (c : ColorPair) :
    p.table.numberOf? c = (p.pairs.findIdx? (· == c)).map (· + 1) :=
  find?_zipIdx p.pairs Nat.one_ne_zero

/-- The least free number is the next one, if there is room for it. -/
theorem free?_table (p : Palette) (capacity : Int) :
    p.table.free? capacity =
      if (p.pairs.length + 1 : Int) < capacity then some (p.pairs.length + 1) else none := by
  have hused : ∀ n, n ∈ p.table.numbers ↔ n < p.pairs.length + 1 := by
    intro n
    rw [numbers_table, List.mem_range]
  rw [Table.free?]
  split
  next hroom =>
    rw [List.find?_range'_eq_some, List.mem_range'_1]
    simp only [hused, decide_eq_true_eq, Bool.not_eq_true', decide_eq_false_iff_not, not_not]
    exact ⟨lt_irrefl _, by omega, fun j _ hj => hj⟩
  next hfull =>
    rw [List.find?_range'_eq_none]
    simp only [hused, Bool.not_eq_true', decide_eq_false_iff_not, not_not]
    intro n _ hn
    omega

/-- The palette answers a request as its table does. -/
theorem request_table (p : Palette) (c : ColorPair) :
    p.table.request p.capacity c = (p.allocate c).map fun r => (r.1, r.2.table) := by
  rw [Table.request, numberOf?_table, free?_table, allocate]
  cases p.pairs.findIdx? (· == c) with
  | some n => rfl
  | none =>
      dsimp only [Option.map_none]
      by_cases hroom : (p.pairs.length + 1 : Int) < p.capacity
      · rw [if_pos hroom, if_pos hroom]
        simp [Except.map, table, List.zipIdx_append, Nat.add_comm]
      · rw [if_neg hroom, if_neg hroom]
        rfl

/-! ## Runs of requests -/

/-- The palette after a request; one that is refused changes nothing. -/
def after (p : Palette) (c : ColorPair) : Palette :=
  match p.allocate c with
  | .ok (_, q) => q
  | .error _ => p

/-- The palette after requests. -/
def afterAll (p : Palette) (cs : List ColorPair) : Palette := cs.foldl after p

theorem after_of_error {e : Exhausted} (h : p.allocate c = .error e) : p.after c = p := by
  rw [after, h]

theorem after_of_ok (h : p.allocate c = .ok (n, q)) : p.after c = q := by
  rw [after, h]

theorem table_after (p : Palette) (c : ColorPair) :
    (p.after c).table = p.table.after p.capacity c := by
  rw [Table.after, request_table, after]
  cases p.allocate c <;> rfl

/-- The pairs are pairwise different and not more than there are numbers for. -/
structure Numbered (capacity : Int) (p : Palette) : Prop where
  capacity_eq : p.capacity = capacity
  length_le : (p.pairs.length : Int) ≤ max (capacity - 1) 0
  nodup : p.pairs.Nodup

namespace Numbered

variable {capacity : Int}

theorem new (capacity colors : Int) :
    Numbered capacity { capacity := capacity, colors := colors } where
  capacity_eq := rfl
  length_le := le_max_right _ _
  nodup := .nil

/-- A request adds one new pair at most, and only while there is a number for it. -/
theorem after (h : Numbered capacity p) (c : ColorPair) : Numbered capacity (p.after c) := by
  cases hallocate : p.allocate c with
  | error e => rwa [after_of_error hallocate]
  | ok r =>
      obtain ⟨n, q⟩ := r
      rw [after_of_ok hallocate]
      rcases allocate_eq_ok hallocate with ⟨rfl, -⟩ | ⟨hnew, -, rfl⟩
      · exact h
      · have hroom : ¬p.capacity ≤ p.pairs.length + 1 := fun hfull => by
          obtain ⟨e, he⟩ := allocate_error_iff.2 ⟨hnew, hfull⟩
          cases hallocate.symm.trans he
        have hcapacity := h.capacity_eq
        refine ⟨hcapacity, ?_, List.concat_eq_append ▸ h.nodup.concat hnew⟩
        simp only [List.length_append, List.length_singleton]
        push_cast
        omega

theorem afterAll (h : Numbered capacity p) (cs : List ColorPair) :
    Numbered capacity (p.afterAll cs) := by
  induction cs generalizing p with
  | nil => exact h
  | cons c cs ih => exact ih (h.after c)

end Numbered

/-- The tables of a run are those of its palettes. -/
theorem table_afterAll (p : Palette) (cs : List ColorPair) :
    (p.afterAll cs).table = cs.foldl (Table.after p.capacity) p.table := by
  induction cs generalizing p with
  | nil => rfl
  | cons c cs ih =>
      have hcapacity : (p.after c).capacity = p.capacity := by
        cases hallocate : p.allocate c with
        | error e => rw [after_of_error hallocate]
        | ok r =>
            obtain ⟨n, q⟩ := r
            rw [after_of_ok hallocate, capacity_of_allocate hallocate]
      rw [List.foldl_cons, ← table_after, ← hcapacity]
      exact ih (p.after c)

/-- Pairs in use keep their colours whatever is asked for later. -/
theorem content_afterAll {m : Nat} (hm : m ≤ p.pairs.length) (cs : List ColorPair) :
    (p.afterAll cs).content m = p.content m := by
  induction cs generalizing p with
  | nil => rfl
  | cons c cs ih =>
      show ((p.after c).afterAll cs).content m = p.content m
      cases hallocate : p.allocate c with
      | error e => rw [after_of_error hallocate, ih hm]
      | ok r =>
          obtain ⟨n, q⟩ := r
          rw [after_of_ok hallocate, ih (hm.trans (length_le_of_allocate hallocate)),
            content_of_allocate hallocate hm]

/-- Colours that are in use get the number that they have. -/
theorem Numbered.allocate_of_holds {capacity : Int} (h : Numbered capacity p) (hn : p.Holds c n) :
    p.allocate c = .ok (n, p) := by
  obtain ⟨m, rfl, hm⟩ := holds_iff.1 hn
  have hmem : c ∈ p.pairs := List.mem_of_getElem? hm
  cases hallocate : p.allocate c with
  | error e => exact absurd hmem (allocate_error_iff.1 ⟨e, hallocate⟩).1
  | ok r =>
      obtain ⟨n, q⟩ := r
      rcases allocate_eq_ok hallocate with ⟨rfl, m', rfl, hm'⟩ | ⟨hnew, -, -⟩
      · obtain ⟨hlt, -⟩ := List.getElem?_eq_some_iff.1 hm
        rw [(List.getElem?_inj hlt h.nodup).1 (hm.trans hm'.symm)]
      · exact absurd hmem hnew

/-- Colours that are not in use get the next number. -/
theorem allocate_of_new (hnew : ∀ n, ¬p.Holds c n)
    (hroom : (p.pairs.length + 1 : Int) < p.capacity) :
    p.allocate c = .ok (p.pairs.length + 1, { p with pairs := p.pairs ++ [c] }) := by
  rw [forall_not_holds_iff] at hnew
  cases hallocate : p.allocate c with
  | error e => exact absurd (allocate_error_iff.1 ⟨e, hallocate⟩).2 (not_le.2 hroom)
  | ok r =>
      obtain ⟨n, q⟩ := r
      rcases allocate_eq_ok hallocate with ⟨-, m, -, hm⟩ | ⟨-, rfl, rfl⟩
      · exact absurd (List.mem_of_getElem? hm) hnew
      · rfl

/-- A request is refused if its colours are not in use and no number is left. -/
theorem allocate_eq_error_iff {e : Exhausted} :
    p.allocate c = .error e ↔
      (∀ n, ¬p.Holds c n) ∧ p.capacity ≤ p.pairs.length + 1 ∧ e = ⟨c.fg, c.bg, p.capacity⟩ := by
  have hexhausted {e : Exhausted} (h : p.allocate c = .error e) : e = ⟨c.fg, c.bg, p.capacity⟩ := by
    rw [allocate] at h
    split at h
    next => cases h
    next =>
      split at h
      next => cases h
      next => exact (Except.error.inj h).symm
  rw [forall_not_holds_iff]
  constructor
  · intro h
    obtain ⟨hnew, hfull⟩ := allocate_error_iff.1 ⟨e, h⟩
    exact ⟨hnew, hfull, hexhausted h⟩
  · rintro ⟨hnew, hfull, rfl⟩
    obtain ⟨e, he⟩ := allocate_error_iff.2 ⟨hnew, hfull⟩
    rw [he, hexhausted he]

/-- Whatever is asked of a new palette, of any capacity, and whatever is refused: the palette has
the table that comes of answering from the table alone.  The numbers in use are zero, with the
terminal's own pair, and those from one on up to some number below the capacity, no two of them
with the same colours.  Whichever colours are asked for next, they get the number that has them; if
there is none, the next number, while it is below the capacity; and otherwise they are refused and
nothing changes.  The number is not zero, also for the terminal's own colours, and it has the
colours from then on, whatever is asked for later. -/
theorem afterAll_numbers (capacity colors : Int) (cs : List ColorPair) :
    let p := afterAll { capacity := capacity, colors := colors } cs
    p.table = cs.foldl (Table.after capacity) Table.new ∧
      (∀ n : Nat, p.content n = (p.table.lookup n).getD .terminal) ∧
      p.content terminalPair = .terminal ∧
      (∀ c m n, p.Holds c m → p.Holds c n → m = n) ∧
      ∃ k : Nat, (k : Int) ≤ max (capacity - 1) 0 ∧ p.table.numbers = List.range (k + 1) ∧
        ∀ c,
          (∀ n, p.Holds c n → p.allocate c = .ok (n, p)) ∧
          ((∀ n, ¬p.Holds c n) → (k + 1 : Int) < capacity →
            ∃ q, p.allocate c = .ok (k + 1, q) ∧ q.table = p.table ++ [(k + 1, c)]) ∧
          (∀ e, p.allocate c = .error e ↔
            (∀ n, ¬p.Holds c n) ∧ capacity ≤ k + 1 ∧ e = ⟨c.fg, c.bg, capacity⟩) ∧
          (∀ e, p.allocate c = .error e → p.after c = p) ∧
          ∀ n q, p.allocate c = .ok (n, q) →
            n ≠ terminalPair ∧ ∀ later, (q.afterAll later).content n = c := by
  have htable := table_afterAll { capacity := capacity, colors := colors } cs
  have h := (Numbered.new capacity colors).afterAll cs
  generalize afterAll { capacity := capacity, colors := colors } cs = p at h htable
  have hcapacity := h.capacity_eq
  dsimp only
  refine ⟨htable, content_eq_lookup p, rfl, ?_, p.pairs.length, h.length_le, numbers_table p, ?_⟩
  · intro c m n hm hn
    have hsame := (h.allocate_of_holds hm).symm.trans (h.allocate_of_holds hn)
    exact congrArg Prod.fst (Except.ok.inj hsame)
  intro c
  refine ⟨fun n => h.allocate_of_holds, ?_, ?_, fun e => after_of_error, ?_⟩
  · intro hnew hroom
    refine ⟨_, allocate_of_new hnew (hcapacity ▸ hroom), ?_⟩
    simp [table, List.zipIdx_append, Nat.add_comm]
  · intro e
    rw [allocate_eq_error_iff, hcapacity]
  · intro n q hallocate
    obtain ⟨hcontent, hle⟩ := content_allocate hallocate
    refine ⟨?_, fun later => (content_afterAll hle later).trans hcontent⟩
    rcases allocate_eq_ok hallocate with ⟨-, m, rfl, -⟩ | ⟨-, rfl, -⟩
    · exact Nat.succ_ne_zero m
    · exact Nat.succ_ne_zero _

example : (afterAll { capacity := 3 } [⟨1, -1⟩, ⟨2, -1⟩, ⟨3, -1⟩]).table =
    [(0, ⟨-1, -1⟩), (1, ⟨1, -1⟩), (2, ⟨2, -1⟩)] := by decide

end Palette

end TaskBrowser
