import TaskBrowser.Proofs.Effect
import TaskBrowser.Command

/-!
# Colour rules as a table of colours

A rule holds the number of a pair, and the palette holds the colours of that number.  Together they
are a table: each *key*, which is an object and a predicate, has the colours that it was last given,
and the keys stand in the order in which they came.

A *history* lists the calls made to a new board and how each was answered, the latest call first.
It says when a key came (`Event.addedAt?`) and which colours it has (`Event.colors?`).  The rules of
a board are those that its history says (`Board.Follows`).  Every call preserves that, whether it is
answered or refused, and so does a run of calls (`Board.Follows.run`).

Rules share pairs, and pairs are never given back.  So giving a rule other colours gives it another
pair, and no pair that is in use ever has other colours (`Palette.content_of_allocate`).
-/

namespace TaskBrowser

/-! ## Pairs in use -/

namespace Palette

variable {p q : Palette} {c : ColorPair} {n : Nat}

/-- The colours of the pairs in use are those of the list, from one on. -/
theorem content_succ (p : Palette) (n : Nat) :
    p.content ((n + 1 : Nat) : Int) = p.pairs.getD n .terminal := rfl

/-- A pair is one that has the colours already, or else the next number. -/
theorem allocate_eq_ok (h : p.allocate c = .ok (n, q)) :
    (q = p ∧ ∃ m, n = m + 1 ∧ p.pairs[m]? = some c) ∨
      (c ∉ p.pairs ∧ n = p.pairs.length + 1 ∧ q = { p with pairs := p.pairs ++ [c] }) := by
  rw [allocate] at h
  cases hfind : p.pairs.findIdx? (· == c) with
  | some m =>
      rw [hfind] at h
      cases h
      obtain ⟨hm, hc, -⟩ := List.findIdx?_eq_some_iff_getElem.1 hfind
      have hsame : p.pairs[m] = c := by simpa using hc
      exact .inl ⟨rfl, m, rfl, by rw [List.getElem?_eq_getElem hm, hsame]⟩
  | none =>
      have hnew : c ∉ p.pairs := by
        intro hc
        simpa using List.findIdx?_eq_none_iff.1 hfind c hc
      rw [hfind] at h
      dsimp only at h
      split at h
      · cases h
        exact .inr ⟨hnew, rfl, rfl⟩
      · cases h

/-- There is no pair for colours that have none yet if all numbers are in use. -/
theorem allocate_error_iff :
    (∃ e, p.allocate c = .error e) ↔ c ∉ p.pairs ∧ p.capacity ≤ p.pairs.length + 1 := by
  rw [allocate]
  cases hfind : p.pairs.findIdx? (· == c) with
  | some m =>
      obtain ⟨hm, hc, -⟩ := List.findIdx?_eq_some_iff_getElem.1 hfind
      have hsame : p.pairs[m] = c := by simpa using hc
      have hmem : c ∈ p.pairs := hsame ▸ List.getElem_mem hm
      simp [hmem]
  | none =>
      have hnew : c ∉ p.pairs := by
        intro hc
        simpa using List.findIdx?_eq_none_iff.1 hfind c hc
      by_cases hroom : (p.pairs.length + 1 : Int) < p.capacity
      · simp [hroom]
      · simp [hnew, hroom, Int.not_lt.1 hroom]

/-- A pair has the colours it was allocated for, and is in use from then on. -/
theorem content_allocate (h : p.allocate c = .ok (n, q)) :
    q.content n = c ∧ n ≤ q.pairs.length := by
  rcases allocate_eq_ok h with ⟨rfl, m, rfl, hm⟩ | ⟨-, rfl, rfl⟩
  · refine ⟨?_, (List.getElem?_eq_some_iff.1 hm).1⟩
    rw [content_succ, List.getD_eq_getElem?_getD, hm]
    rfl
  · refine ⟨?_, by simp⟩
    rw [content_succ, List.getD_eq_getElem?_getD]
    simp

/-- Pairs in use stay in use. -/
theorem length_le_of_allocate (h : p.allocate c = .ok (n, q)) :
    p.pairs.length ≤ q.pairs.length := by
  rcases allocate_eq_ok h with ⟨rfl, -⟩ | ⟨-, -, rfl⟩
  · exact le_rfl
  · simp

theorem capacity_of_allocate (h : p.allocate c = .ok (n, q)) : q.capacity = p.capacity := by
  rcases allocate_eq_ok h with ⟨rfl, -⟩ | ⟨-, -, rfl⟩
  · rfl
  · rfl

/-- Pairs in use keep their colours. -/
theorem content_of_allocate (h : p.allocate c = .ok (n, q)) {m : Nat} (hm : m ≤ p.pairs.length) :
    q.content m = p.content m := by
  rcases allocate_eq_ok h with ⟨rfl, -⟩ | ⟨-, -, rfl⟩
  · rfl
  · cases m with
    | zero => rfl
    | succ m =>
        rw [content_succ, content_succ, List.getD_eq_getElem?_getD, List.getD_eq_getElem?_getD,
          List.getElem?_append_left hm]

end Palette

/-! ## Keys -/

/-- What a colour rule is for. -/
structure ColorRule.Key where
  /-- What it colours. -/
  object : ColorObject
  /-- When it applies. -/
  predicate : Option Text
deriving DecidableEq

/-- What the rule is for. -/
def ColorRule.key (r : ColorRule) : Key := ⟨r.object, r.predicate⟩

open ColorRule (Key)

namespace Scheme

variable {k : Key} {n : Nat} {rules : List ColorRule}

theorem isFor_iff {r : ColorRule} : isFor k.object k.predicate r = true ↔ r.key = k := by
  obtain ⟨object, predicate⟩ := k
  simp [isFor, ColorRule.key]

/-- The keys in order, with a new one at the end. -/
theorem put_keys :
    (put k.object k.predicate n rules).map ColorRule.key =
      if k ∈ rules.map ColorRule.key then rules.map ColorRule.key
      else rules.map ColorRule.key ++ [k] := by
  induction rules with
  | nil => rfl
  | cons r rules ih =>
      rw [put]
      by_cases hr : r.key = k
      · rw [if_pos (isFor_iff.2 hr), if_pos (List.mem_map.2 ⟨r, List.mem_cons_self, hr⟩)]
        rfl
      · rw [if_neg (mt isFor_iff.1 hr), List.map_cons, ih, List.map_cons]
        by_cases hk : k ∈ rules.map ColorRule.key
        · rw [if_pos hk, if_pos (List.mem_cons_of_mem r.key hk)]
        · rw [if_neg hk, if_neg (List.not_mem_cons_of_ne_of_not_mem (Ne.symm hr) hk)]
          rfl

/-- The rule of the key is the one put there, and the others are as they were. -/
theorem mem_put (h : (rules.map ColorRule.key).Nodup) {r : ColorRule}
    (hr : r ∈ put k.object k.predicate n rules) :
    r = ⟨k.object, k.predicate, n⟩ ∨ r ∈ rules ∧ r.key ≠ k := by
  induction rules with
  | nil => exact .inl (List.mem_singleton.1 hr)
  | cons a rules ih =>
      obtain ⟨hnew, hrules⟩ := List.nodup_cons.1 h
      rw [put] at hr
      by_cases ha : a.key = k
      · rw [if_pos (isFor_iff.2 ha)] at hr
        rcases List.mem_cons.1 hr with rfl | hr
        · subst ha
          exact .inl rfl
        · refine .inr ⟨List.mem_cons_of_mem a hr, ?_⟩
          rintro rfl
          exact hnew (ha ▸ List.mem_map_of_mem hr)
      · rw [if_neg (mt isFor_iff.1 ha)] at hr
        rcases List.mem_cons.1 hr with rfl | hr
        · exact .inr ⟨List.mem_cons_self, ha⟩
        · rcases ih hrules hr with rfl | ⟨hmem, hne⟩
          · exact .inl rfl
          · exact .inr ⟨List.mem_cons_of_mem a hmem, hne⟩

/-- Taking a rule away takes its key away. -/
theorem erase_keys :
    (rules.eraseP (isFor k.object k.predicate)).map ColorRule.key =
      (rules.map ColorRule.key).erase k := by
  induction rules with
  | nil => rfl
  | cons r rules ih =>
      rw [List.map_cons, List.erase_cons]
      by_cases hr : r.key = k
      · rw [List.eraseP_cons_of_pos (isFor_iff.2 hr), if_pos (beq_iff_eq.2 hr)]
      · rw [List.eraseP_cons_of_neg (mt isFor_iff.1 hr), if_neg (mt beq_iff_eq.1 hr),
          List.map_cons, ih]

theorem any_isFor_iff :
    rules.any (isFor k.object k.predicate) = true ↔ k ∈ rules.map ColorRule.key := by
  rw [List.any_eq_true, List.mem_map]
  simp only [isFor_iff]

end Scheme

/-! ## Calls and histories -/

namespace Board

/-- A call that changes the rules. -/
inductive Call where
  /-- Gives a key colours. -/
  | add (k : Key) (c : ColorPair)
  /-- Takes a key away. -/
  | remove (k : Key)

/-- A call and how it was answered. -/
inductive Event where
  /-- The key got the colours, by a pair of this number. -/
  | added (k : Key) (c : ColorPair) (pair : Nat)
  /-- There was no pair for the colours. -/
  | refused (k : Key) (c : ColorPair) (e : Exhausted)
  /-- The key is gone, and whether it had been there. -/
  | removed (k : Key) (found : Bool)

namespace Event

/-- How many calls came before the one that first added a key since it was last removed. -/
def addedAt? (k : Key) : List Event → Option Nat
  | [] => none
  | .added k' _ _ :: es => (addedAt? k es).or (if k' = k then some es.length else none)
  | .refused .. :: es => addedAt? k es
  | .removed k' _ :: es => if k' = k then none else addedAt? k es

/-- The colours of the last call that added a key. -/
def colors? (k : Key) : List Event → Option ColorPair
  | [] => none
  | .added k' c _ :: es => if k' = k then some c else colors? k es
  | _ :: es => colors? k es

/-- A key came before now. -/
theorem addedAt?_lt {k : Key} {es : List Event} {n : Nat} (h : addedAt? k es = some n) :
    n < es.length := by
  induction es with
  | nil => cases h
  | cons e es ih =>
      have hlater (h : addedAt? k es = some n) : n < es.length + 1 := Nat.lt_succ_of_lt (ih h)
      cases e with
      | added k' c pair =>
          rw [addedAt?, Option.or_eq_some_iff] at h
          rcases h with h | ⟨-, h⟩
          · exact hlater h
          · split at h
            · cases h
              exact Nat.lt_succ_self es.length
            · cases h
      | refused k' c e => exact hlater h
      | removed k' found =>
          rw [addedAt?] at h
          split at h
          · cases h
          · exact hlater h

end Event

open Event

/-- Makes a call and tells how it was answered. -/
def call (b : Board) : Call → Event × Board
  | .add k c =>
      match b.addRule k.object k.predicate c with
      | .error e => (.refused k c e, b)
      | .ok (pair, b) => (.added k c pair, b)
  | .remove k => (.removed k (b.removeRule k.object k.predicate).1,
      (b.removeRule k.object k.predicate).2)

/-- Makes one more call after those of a history. -/
def next (made : List Event × Board) (c : Call) : List Event × Board :=
  ((made.2.call c).1 :: made.1, (made.2.call c).2)

/-- The history of calls one after another, and the board that they leave. -/
def run (b : Board) (calls : List Call) : List Event × Board := calls.foldl next ([], b)

/-- The keys of the rules, in order. -/
def keys (b : Board) : List Key := b.scheme.rules.map ColorRule.key

/-- A rule is taken away if its key is there, and then all tasks forget their pairs. -/
theorem removeRule_eq (b : Board) (k : Key) :
    b.removeRule k.object k.predicate =
      if k ∈ b.keys then
        (true,
          ⟨{ b.scheme with rules := b.scheme.rules.eraseP (Scheme.isFor k.object k.predicate) },
            b.store.forgetPairs⟩)
      else (false, b) := by
  rw [removeRule, Scheme.remove?]
  by_cases hk : k ∈ b.keys
  · rw [if_pos (Scheme.any_isFor_iff.2 hk), if_pos hk]
  · rw [if_neg (mt Scheme.any_isFor_iff.1 hk), if_neg hk]

/-! ## The places of keys -/

/-- The keys are those that a history has added and not removed since, in the order in which they
came. -/
structure Placed (es : List Event) (ks : List Key) : Prop where
  mem_iff (k : Key) : k ∈ ks ↔ ∃ n, addedAt? k es = some n
  ordered : ks.Pairwise fun k k' =>
    ∀ m n, addedAt? k es = some m → addedAt? k' es = some n → m < n

namespace Placed

variable {es es' : List Event} {ks : List Key} {k : Key} {c : ColorPair} {n : Nat}

/-- No key stands twice, since no call comes before itself. -/
theorem nodup (h : Placed es ks) : ks.Nodup := by
  refine h.ordered.imp_of_mem ?_
  rintro k k' hk - hlt rfl
  obtain ⟨m, hm⟩ := (h.mem_iff k).1 hk
  exact lt_irrefl m (hlt m m hm hm)

theorem addedAt?_eq_none (h : Placed es ks) (hk : k ∉ ks) : addedAt? k es = none := by
  rw [Option.eq_none_iff_forall_ne_some]
  exact fun m hm => hk ((h.mem_iff k).2 ⟨m, hm⟩)

theorem congr (h : Placed es ks) (hsame : ∀ k, addedAt? k es' = addedAt? k es) :
    Placed es' ks where
  mem_iff k := by rw [hsame, h.mem_iff]
  ordered := by simpa only [hsame] using h.ordered

/-- A key that is there keeps its place. -/
theorem again (h : Placed es ks) (hk : k ∈ ks) : Placed (.added k c n :: es) ks := by
  refine h.congr fun k' => ?_
  obtain ⟨m, hm⟩ := (h.mem_iff k).1 hk
  rw [addedAt?]
  split
  next hsame =>
    subst hsame
    rw [hm]
    rfl
  next => exact Option.or_none

/-- A new key goes to the end. -/
theorem append (h : Placed es ks) (hk : k ∉ ks) : Placed (.added k c n :: es) (ks ++ [k]) := by
  have hnew : addedAt? k (.added k c n :: es) = some es.length := by
    rw [addedAt?, h.addedAt?_eq_none hk, if_pos rfl]
    rfl
  have hother {k' : Key} (hne : k' ≠ k) :
      addedAt? k' (.added k c n :: es) = addedAt? k' es := by
    rw [addedAt?, if_neg (Ne.symm hne), Option.or_none]
  constructor
  case mem_iff =>
    intro k'
    rw [List.mem_append, List.mem_singleton]
    by_cases hne : k' = k
    · subst hne
      simp [hnew]
    · rw [hother hne, ← h.mem_iff, or_iff_left hne]
  case ordered =>
    have hold : ∀ k' ∈ ks, addedAt? k' (.added k c n :: es) = addedAt? k' es :=
      fun k' hk' => hother (ne_of_mem_of_not_mem hk' hk)
    refine List.pairwise_append.2 ⟨?_, List.pairwise_singleton _ _, ?_⟩
    · refine h.ordered.imp_of_mem ?_
      intro k₁ k₂ h₁ h₂ hlt
      rw [hold k₁ h₁, hold k₂ h₂]
      exact hlt
    · intro k₁ h₁ k₂ h₂ m₁ m₂ hm₁ hm₂
      obtain rfl := List.mem_singleton.1 h₂
      rw [hold k₁ h₁] at hm₁
      obtain rfl : es.length = m₂ := Option.some.inj (hnew.symm.trans hm₂)
      exact addedAt?_lt hm₁

/-- The other keys stay in order when one is taken away. -/
theorem erase (h : Placed es ks) (found : Bool) :
    Placed (.removed k found :: es) (ks.erase k) := by
  have hgone : addedAt? k (.removed k found :: es) = none := if_pos rfl
  have hother {k' : Key} (hne : k' ≠ k) :
      addedAt? k' (.removed k found :: es) = addedAt? k' es := if_neg (Ne.symm hne)
  constructor
  case mem_iff =>
    intro k'
    rw [h.nodup.mem_erase_iff]
    by_cases hne : k' = k
    · subst hne
      simp [hgone]
    · rw [hother hne, ← h.mem_iff, and_iff_right hne]
  case ordered =>
    refine (h.ordered.sublist List.erase_sublist).imp_of_mem ?_
    intro k₁ k₂ h₁ h₂ hlt
    rw [hother (h.nodup.mem_erase_iff.1 h₁).1, hother (h.nodup.mem_erase_iff.1 h₂).1]
    exact hlt

end Placed

/-! ## The rules of a history -/

/-- The rules of a board are those that a history says, with as many pairs as it began with. -/
structure Follows (capacity : Int) (es : List Event) (b : Board) : Prop where
  placed : Placed es b.keys
  capacity_eq : b.scheme.palette.capacity = capacity
  inUse {r : ColorRule} (hr : r ∈ b.scheme.rules) : r.pair ≤ b.scheme.palette.pairs.length
  content {r : ColorRule} (hr : r ∈ b.scheme.rules) :
    colors? r.key es = some (b.scheme.palette.content r.pair)

namespace Follows

variable {capacity : Int} {es : List Event} {b b' : Board} {k : Key} {c : ColorPair} {n : Nat}

/-- A new board has no rules and no history. -/
theorem new (p : Palette) (store : Store) : Follows p.capacity [] ⟨{ palette := p }, store⟩ where
  placed := ⟨fun k => by simp [keys, addedAt?], .nil⟩
  capacity_eq := rfl
  inUse hr := by cases hr
  content hr := by cases hr

/-- The rule that is added has its colours, and the other rules keep theirs. -/
theorem added (h : Follows capacity es b) (hadd : b.addRule k.object k.predicate c = .ok (n, b')) :
    Follows capacity (.added k c n :: es) b' := by
  rw [addRule, Scheme.add] at hadd
  cases hallocate : b.scheme.palette.allocate c with
  | error e =>
      rw [hallocate] at hadd
      cases hadd
  | ok found =>
      obtain ⟨pair, q⟩ := found
      rw [hallocate] at hadd
      cases hadd
      obtain ⟨hcontent, hpair⟩ := Palette.content_allocate hallocate
      constructor
      case placed =>
        rw [keys, Scheme.put_keys]
        split
        next hk => exact h.placed.again hk
        next hk => exact h.placed.append hk
      case capacity_eq => exact (Palette.capacity_of_allocate hallocate).trans h.capacity_eq
      case inUse =>
        intro r hr
        rcases Scheme.mem_put h.placed.nodup hr with rfl | ⟨hmem, -⟩
        · exact hpair
        · exact (h.inUse hmem).trans (Palette.length_le_of_allocate hallocate)
      case content =>
        intro r hr
        rcases Scheme.mem_put h.placed.nodup hr with rfl | ⟨hmem, hne⟩
        · exact (if_pos rfl).trans (congrArg some hcontent.symm)
        · rw [colors?, if_neg (Ne.symm hne), h.content hmem,
            Palette.content_of_allocate hallocate (h.inUse hmem)]

theorem refused (h : Follows capacity es b) (e : Exhausted) :
    Follows capacity (.refused k c e :: es) b where
  placed := h.placed.congr fun _ => rfl
  capacity_eq := h.capacity_eq
  inUse := h.inUse
  content := h.content

/-- A key that is taken away is gone, whether it was there or not. -/
theorem removed (h : Follows capacity es b) (k : Key) :
    Follows capacity (.removed k (b.removeRule k.object k.predicate).1 :: es)
      (b.removeRule k.object k.predicate).2 := by
  rw [removeRule_eq]
  split
  next =>
    constructor
    case placed =>
      rw [keys, Scheme.erase_keys]
      exact h.placed.erase true
    case capacity_eq => exact h.capacity_eq
    case inUse => exact fun hr => h.inUse (List.mem_of_mem_eraseP hr)
    case content => exact fun hr => h.content (List.mem_of_mem_eraseP hr)
  next hk =>
    have hplaced := h.placed.erase (k := k) false
    rw [List.erase_of_not_mem hk] at hplaced
    exact ⟨hplaced, h.capacity_eq, h.inUse, h.content⟩

/-- Every call preserves what the rules are. -/
theorem call (h : Follows capacity es b) (c : Call) :
    Follows capacity ((b.call c).1 :: es) (b.call c).2 := by
  cases c with
  | add k c =>
      rw [Board.call]
      cases hadd : b.addRule k.object k.predicate c with
      | error e => exact h.refused e
      | ok found => exact h.added hadd
  | remove k => exact h.removed k

theorem run (p : Palette) (store : Store) (calls : List Call) :
    let made := Board.run ⟨{ palette := p }, store⟩ calls
    Follows p.capacity made.1 made.2 := by
  have hmore (calls : List Call) :
      ∀ {made : List Event × Board}, Follows p.capacity made.1 made.2 →
        Follows p.capacity (calls.foldl next made).1 (calls.foldl next made).2 := by
    induction calls with
    | nil => exact id
    | cons c calls ih => exact fun h => ih (h.call c)
  exact hmore calls (new p store)

end Follows

theorem addRule_error_iff {b : Board} {k : Key} {c : ColorPair} :
    (∃ e, b.addRule k.object k.predicate c = .error e) ↔
      c ∉ b.scheme.palette.pairs ∧
        b.scheme.palette.capacity ≤ b.scheme.palette.pairs.length + 1 := by
  rw [← Palette.allocate_error_iff, addRule, Scheme.add]
  cases b.scheme.palette.allocate c <;> simp

/-- A rule that is refused has changed nothing, neither the session nor what is around it. -/
theorem effect_addRule_of_error {k : Key} {c : ColorPair} {e : Exhausted} {w : World}
    (h : w.session.board.addRule k.object k.predicate c = .error e) :
    effect (Command.addRule k.object k.predicate c) w =
      (.error (.failure (.ruleNotApplied e)), w) := by
  rw [Command.addRule, effect_bind, Action.effect_session]
  dsimp only
  rw [h]
  rfl

/-- Whatever rules are added to a new board and taken away again, each key has one rule; the keys
stand in the order in which they were first added since they were last removed; and the pair of each
rule has the colours of the last call that added it.  A rule is taken away if its key is there.  A
rule is refused if its colours have no pair and all pairs are in use, and then nothing has changed:
neither the rules, nor the palette, nor what the tasks remember. -/
theorem run_rules (capacity colors : Int) (store : Store) (calls : List Call) :
    match run ⟨{ palette := { capacity := capacity, colors := colors } }, store⟩ calls with
    | (es, b) =>
        b.keys.Nodup ∧
          (∀ k, k ∈ b.keys ↔ (addedAt? k es).isSome = true) ∧
          b.keys.Pairwise (fun k k' =>
            ∃ m n, addedAt? k es = some m ∧ addedAt? k' es = some n ∧ m < n) ∧
          (∀ r ∈ b.scheme.rules, colors? r.key es = some (b.scheme.palette.content r.pair)) ∧
          (∀ k, (b.removeRule k.object k.predicate).1 = true ↔ k ∈ b.keys) ∧
          ∀ k c,
            ((∃ e, b.addRule k.object k.predicate c = .error e) ↔
              c ∉ b.scheme.palette.pairs ∧ capacity ≤ b.scheme.palette.pairs.length + 1) ∧
            ∀ e, b.addRule k.object k.predicate c = .error e →
              (b.call (.add k c)).2 = b ∧
                ∀ w : World, w.session.board = b →
                  effect (Command.addRule k.object k.predicate c) w =
                    (.error (.failure (.ruleNotApplied e)), w) := by
  have h := Follows.run { capacity := capacity, colors := colors } store calls
  generalize run ⟨{ palette := { capacity := capacity, colors := colors } }, store⟩
    calls = made at h
  obtain ⟨es, b⟩ := made
  dsimp only at h ⊢
  refine ⟨h.placed.nodup, ?_, ?_, fun r hr => h.content hr, ?_, ?_⟩
  · intro k
    rw [h.placed.mem_iff, Option.isSome_iff_exists]
  · refine h.placed.ordered.imp_of_mem ?_
    intro k k' hk hk' hlt
    obtain ⟨m, hm⟩ := (h.placed.mem_iff k).1 hk
    obtain ⟨n, hn⟩ := (h.placed.mem_iff k').1 hk'
    exact ⟨m, n, hm, hn, hlt m n hm hn⟩
  · intro k
    rw [removeRule_eq]
    split
    next hk => exact iff_of_true rfl hk
    next hk => exact iff_of_false Bool.false_ne_true hk
  · intro k c
    refine ⟨by rw [addRule_error_iff, h.capacity_eq], ?_⟩
    rintro e he
    refine ⟨by rw [call, he], ?_⟩
    rintro w rfl
    exact effect_addRule_of_error he

end Board

end TaskBrowser
