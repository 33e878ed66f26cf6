import TaskBrowser.Proofs.Text.Separator
import TaskBrowser.Template.Compile

/-!
# The parts of a format text

The scanner of format texts asks small readers what stands at a place: a word, a width, a slot, or
the three parts of a conditional.  Each reader is described here once, and nothing later opens its
definition.

*Words.*  A word that is found is one of the words that were tried, and the text starts with it
(`firstWord_eq_some`).  Where no two of the words are prefixes of each other the order in which
they are tried does not matter (`firstWord_append`).

*Conditionals.*  The three parts are the texts between the next four question marks, the first of
which is already read (`conditional?_eq_some_iff`).

*Slots.*  A width is read up to the first character that is no digit, and a number that is written
in decimal is read back (`readWidth_ofNat`).  A text that starts neither with a dash nor with a
digit has the empty slot (`readSlot_startsWord`).
-/

namespace TaskBrowser

namespace Template

/-! ## Words -/

/-- A word that is found is one of those tried and stands at the start of the text. -/
theorem firstWord_eq_some {ws : List Word} {t rest : Text} {w : Word}
    (h : firstWord ws t = some (w, rest)) : w ∈ ws ∧ t = w.text ++ rest := by
  induction ws with
  | nil => simp [firstWord] at h
  | cons v ws ih =>
      rw [firstWord] at h
      split at h
      next u hu =>
        obtain ⟨rfl, rfl⟩ : v = w ∧ u = rest := by simpa using h
        exact ⟨.head _, Text.dropLead?_eq_some hu⟩
      next =>
        obtain ⟨hw, ht⟩ := ih h
        exact ⟨.tail _ hw, ht⟩

/-- Neither of two words is the start of the other. -/
def Word.Apart (v w : Word) : Prop := ¬ v.text <+: w.text ∧ ¬ w.text <+: v.text

/-- Among words of which none is the start of another, a word is found wherever it stands. -/
theorem firstWord_append {ws : List Word} (h : ws.Pairwise Word.Apart) {w : Word} (hw : w ∈ ws)
    (t : Text) : firstWord ws (w.text ++ t) = some (w, t) := by
  induction ws with
  | nil => cases hw
  | cons v ws ih =>
      rw [List.pairwise_cons] at h
      rw [firstWord]
      rcases List.mem_cons.1 hw with rfl | hw
      · rw [Text.dropLead?_append]
      · split
        next u hu =>
          -- both words start the text, so the shorter one starts the longer one
          have hv : v.text <+: w.text ++ t := ⟨u, (Text.dropLead?_eq_some hu).symm⟩
          obtain ⟨h₁, h₂⟩ := h.1 w hw
          rcases List.prefix_or_prefix_of_prefix hv (List.prefix_append w.text t) with h' | h'
          · exact absurd h' h₁
          · exact absurd h' h₂
        next => exact ih h.2 hw

/-- The words are the date, the time, the attributes, and the variables whose names are not
empty. -/
theorem mem_words {names : Names} {w : Word} :
    w ∈ words names ↔ w = .date ∨ w = .time ∨ (∃ a, w = .ofTask a) ∨
      ∃ name kind, w = .named name kind ∧ name ≠ [] ∧ (name, kind) ∈ names := by
  have hall : ∀ a : Attribute, a ∈ Attribute.all := by intro a; cases a <;> decide
  simp only [words, List.mem_cons, List.mem_append, List.mem_map, List.mem_filter]
  constructor
  · rintro ((rfl | rfl | ⟨a, -, rfl⟩) | ⟨⟨n, k⟩, ⟨hm, hn⟩, rfl⟩)
    · exact .inl rfl
    · exact .inr (.inl rfl)
    · exact .inr (.inr (.inl ⟨a, rfl⟩))
    · exact .inr (.inr (.inr ⟨n, k, rfl, by simpa using hn, hm⟩))
  · rintro (rfl | rfl | ⟨a, rfl⟩ | ⟨n, k, rfl, hn, hm⟩)
    · exact .inl (.inl rfl)
    · exact .inl (.inr (.inl rfl))
    · exact .inl (.inr (.inr ⟨a, hall a, rfl⟩))
    · exact .inr ⟨(n, k), ⟨hm, by simpa using hn⟩, rfl⟩

/-! ## Conditionals -/

/-- A segment is what stands before the first question mark. -/
theorem segment_eq_some_iff {t u rest : Text} :
    segment t = some (u, rest) ↔ t = u ++ '?' :: rest ∧ '?' ∉ u := by
  rw [segment]
  constructor
  · intro h
    split at h
    next => simp at h
    next c v hv =>
      obtain ⟨rfl, rfl⟩ : t.takeWhile (· != '?') = u ∧ v = rest := by simpa using h
      obtain rfl : c = '?' := by
        have hhead := List.head?_dropWhile_not (· != '?') t
        rw [hv] at hhead
        simpa using hhead
      refine ⟨?_, ?_⟩
      · rw [← hv, List.takeWhile_append_dropWhile]
      · intro hm
        have hne := List.mem_takeWhile_imp hm
        simp at hne
  · rintro ⟨rfl, hu⟩
    have hall : ∀ c ∈ u, (c != '?') = true := by
      intro c hc
      simp only [bne_iff_ne, ne_eq]
      rintro rfl
      exact hu hc
    rw [List.dropWhile_append_of_pos hall, List.takeWhile_append_of_pos hall]
    simp

/-- The parts of a conditional hold no question mark, the condition is not empty, and one of the
other two parts is not empty either. -/
structure AreParts (c p n : Text) : Prop where
  /-- The condition is one segment. -/
  condition : '?' ∉ c
  /-- The positive part is one segment. -/
  positive : '?' ∉ p
  /-- The negative part is one segment. -/
  negative : '?' ∉ n
  /-- There is a condition. -/
  asks : c ≠ []
  /-- There is something to show. -/
  shows : p ≠ [] ∨ n ≠ []

/-- A conditional is read exactly where its parts stand between question marks. -/
theorem conditional?_eq_some_iff {t c p n rest : Text} :
    conditional? t = some (c, p, n, rest) ↔
      t = c ++ '?' :: (p ++ '?' :: (n ++ '?' :: rest)) ∧ AreParts c p n := by
  constructor
  · intro h
    simp only [conditional?, Option.bind_eq_bind, Option.bind_eq_some_iff] at h
    obtain ⟨⟨c', t₁⟩, h₁, ⟨p', t₂⟩, h₂, ⟨n', t₃⟩, h₃, h⟩ := h
    split at h
    next => simp at h
    next hne =>
      simp only [Option.some.injEq, Prod.mk.injEq] at h
      obtain ⟨rfl, rfl, rfl, rfl⟩ := h
      obtain ⟨rfl, hc⟩ := segment_eq_some_iff.1 h₁
      obtain ⟨rfl, hp⟩ := segment_eq_some_iff.1 h₂
      obtain ⟨rfl, hn⟩ := segment_eq_some_iff.1 h₃
      simp only [Bool.or_eq_true, Bool.and_eq_true, List.isEmpty_iff, not_or, not_and_or] at hne
      exact ⟨rfl, hc, hp, hn, hne.1, hne.2⟩
  · rintro ⟨rfl, hc, hp, hn, hasks, hshows⟩
    have hsegment : ∀ {u v : Text}, '?' ∉ u → segment (u ++ '?' :: v) = some (u, v) :=
      fun hu => segment_eq_some_iff.2 ⟨rfl, hu⟩
    simp only [conditional?, Option.bind_eq_bind, hsegment hc, hsegment hp, hsegment hn,
      Option.bind_some]
    rcases hshows with hs | hs <;> simp [hasks, hs]

/-! ## Slots -/

/-- A digit that is written in decimal is a digit and has its value. -/
theorem digitChar_spec (d : Nat) : Text.isDigit (Text.digitChar d) = true ∧
    Text.decimalValue? (Text.digitChar d) = some (d % 10) := by
  have h : ∀ k < 10, Text.isDigit (Char.ofNat ('0'.toNat + k)) = true ∧
      Text.decimalValue? (Char.ofNat ('0'.toNat + k)) = some k := by decide
  exact h (d % 10) (Nat.mod_lt d (by decide))

/-- The digits of a number stand before what they are written in front of. -/
theorem digitsUpTo_append (bound n : Nat) (acc rest : Text) :
    Text.digitsUpTo bound n acc ++ rest = Text.digitsUpTo bound n (acc ++ rest) := by
  induction bound generalizing n acc with
  | zero => rfl
  | succ bound ih =>
      simp only [Text.digitsUpTo]
      split
      next => rfl
      next => rw [ih, List.cons_append]

/-- A number is written in digits. -/
theorem mem_digitsUpTo {bound n : Nat} {acc : Text} {c : Char}
    (h : c ∈ Text.digitsUpTo bound n acc) : Text.isDigit c = true ∨ c ∈ acc := by
  induction bound generalizing n acc with
  | zero => exact .inr h
  | succ bound ih =>
      have hcons : c ∈ Text.digitChar n :: acc → Text.isDigit c = true ∨ c ∈ acc := by
        intro hc
        rcases List.mem_cons.1 hc with rfl | hc
        · exact .inl (digitChar_spec n).1
        · exact .inr hc
      rw [Text.digitsUpTo] at h
      split at h
      next => exact hcons h
      next =>
        rcases ih h with hc | hc
        · exact .inl hc
        · exact hcons hc

/-- Reading a width goes on after a number in decimal as if that number had been read. -/
theorem readWidth_digitsUpTo (bound n : Nat) (rest : Text) (h : n < 2 ^ bound) :
    readWidth 0 (Text.digitsUpTo bound n rest) = readWidth n rest := by
  induction bound generalizing n rest with
  | zero =>
      obtain rfl : n = 0 := by simpa using h
      rfl
  | succ bound ih =>
      obtain ⟨hd, hv⟩ := digitChar_spec n
      rw [Text.digitsUpTo]
      split
      next hn =>
        rw [readWidth, if_pos hd, hv, Nat.mod_eq_of_lt hn]
        simp
      next hn =>
        rw [ih (n / 10) _ (by rw [Nat.pow_succ] at h; omega), readWidth, if_pos hd, hv]
        simp only [Nat.div_add_mod]

/-- A number that is written in decimal is read back as a width. -/
theorem readWidth_ofNat (n : Nat) (rest : Text) :
    readWidth 0 (Text.ofNat n ++ rest) = readWidth n rest := by
  rw [Text.ofNat, digitsUpTo_append]
  exact readWidth_digitsUpTo _ n rest Nat.lt_log2_self

/-- A text that neither starts with a dash nor with a digit, as a word does. -/
def StartsWord (t : Text) : Prop := ∀ c ∈ t.head?, c ≠ '-' ∧ Text.isDigit c = false

instance : DecidablePred StartsWord
  | [] => isTrue (by intro c hc; cases hc)
  | c :: t => decidable_of_iff (c ≠ '-' ∧ Text.isDigit c = false) (by simp [StartsWord])

/-- A width ends where a word starts. -/
theorem readWidth_startsWord (acc : Nat) {t : Text} (h : StartsWord t) :
    readWidth acc t = .ok (acc, t) := by
  cases t with
  | nil => rfl
  | cons c t => simp [readWidth, (h c rfl).2]

/-- After a dash the field is aligned to the right. -/
theorem readSlot_dash (t : Text) :
    readSlot ('-' :: t) = (readWidth 0 t).map fun (n, rest) => (⟨n, true⟩, rest) := rfl

/-- Without a dash the field is aligned to the left. -/
theorem readSlot_noDash {t : Text} (h : t.head? ≠ some '-') :
    readSlot t = (readWidth 0 t).map fun (n, rest) => (⟨n, false⟩, rest) := by
  have hdash : (t.head? == some '-') = false := by simpa using h
  simp [readSlot, hdash]

end Template

namespace Slot

/-- A width as it is written: in decimal, or not at all if there is none. -/
def widthText (width : Int) : Text := if 0 < width then Text.ofInt width else []

/-- A slot as it is written: a dash for alignment to the right, and the width. -/
def text (s : Slot) : Text := (if s.right then ['-'] else []) ++ widthText s.width

end Slot

namespace Template

/-- A width that is written before a word is read back. -/
theorem readWidth_text (n : Nat) {t : Text} (h : StartsWord t) :
    readWidth 0 (Slot.widthText n ++ t) = .ok (n, t) := by
  rw [Slot.widthText]
  split
  next =>
    rw [show Text.ofInt n = Text.ofNat n from rfl, readWidth_ofNat, readWidth_startsWord n h]
  next hn =>
    obtain rfl : n = 0 := by omega
    exact readWidth_startsWord 0 h

/-- A width is written in digits. -/
theorem mem_widthText {width : Int} {c : Char} (h : c ∈ Slot.widthText width) :
    Text.isDigit c = true := by
  rw [Slot.widthText] at h
  split at h
  next hw =>
    obtain ⟨n, rfl⟩ : ∃ n : Nat, width = n := ⟨_, (Int.toNat_of_nonneg (Int.le_of_lt hw)).symm⟩
    rcases mem_digitsUpTo h with hc | hc
    · exact hc
    · cases hc
  next => cases h

/-- Neither a width nor the word after it starts with a dash. -/
theorem head?_widthText_ne_dash (width : Int) {t : Text} (h : StartsWord t) :
    (Slot.widthText width ++ t).head? ≠ some '-' := by
  intro hdash
  cases hw : Slot.widthText width with
  | nil => exact (h '-' (by simpa [hw] using hdash)).1 rfl
  | cons c u =>
      have hc := mem_widthText (show c ∈ Slot.widthText width by simp [hw])
      obtain rfl : c = '-' := by simpa [hw] using hdash
      exact absurd hc (by decide)

/-- A slot that is written before a word is read back. -/
theorem readSlot_text {s : Slot} (hs : 0 ≤ s.width) {t : Text} (h : StartsWord t) :
    readSlot (s.text ++ t) = .ok (s, t) := by
  obtain ⟨width, right⟩ := s
  obtain ⟨n, rfl⟩ : ∃ n : Nat, width = n := ⟨_, (Int.toNat_of_nonneg hs).symm⟩
  cases right with
  | true =>
      show readSlot ('-' :: (Slot.widthText n ++ t)) = _
      rw [readSlot_dash, readWidth_text n h]
      rfl
  | false =>
      show readSlot (Slot.widthText n ++ t) = _
      rw [readSlot_noDash (head?_widthText_ne_dash n h), readWidth_text n h]
      rfl

/-- A word without a slot before it has the empty slot. -/
theorem readSlot_startsWord {t : Text} (h : StartsWord t) : readSlot t = .ok ({}, t) :=
  readSlot_text (Int.le_refl 0) h (s := {})

/-! ## The steps of the scanner -/

section Steps

variable {names : Names} {measure : Nat} {buffer t u rest : Text} {more : List Field}

/-- At the end of the text the literal ends. -/
theorem compileFrom_nil (names : Names) (measure : Nat) (buffer : Text) :
    compileFrom names measure buffer [] = .ok (flush buffer) := by
  cases measure <;> rfl

/-- A character that is neither `$` nor `?` goes on with the literal. -/
theorem compileFrom_plain {c : Char} (hq : c ≠ '?') (hd : c ≠ '$') :
    compileFrom names (measure + 1) buffer (c :: t) =
      compileFrom names measure (c :: buffer) t := by
  rw [compileFrom, if_neg hq, if_neg hd]

/-- A question mark that starts no conditional starts a literal. -/
theorem compileFrom_question (h : conditional? t = none)
    (hmore : compileFrom names measure ['?'] t = .ok more) :
    compileFrom names (measure + 1) buffer ('?' :: t) = .ok (flush buffer ++ more) := by
  rw [compileFrom, if_pos rfl, h]
  simp only [hmore, Except.map]

/-- The parts of a conditional are compiled by themselves. -/
theorem compileFrom_conditional {c p n : Text} {cs ps ns : List Field}
    (h : conditional? t = some (c, p, n, rest))
    (hc : compileFrom names measure [] c = .ok cs) (hp : compileFrom names measure [] p = .ok ps)
    (hn : compileFrom names measure [] n = .ok ns)
    (hmore : compileFrom names measure [] rest = .ok more) :
    compileFrom names (measure + 1) buffer ('?' :: t) =
      .ok (flush buffer ++ .conditional cs ps ns {} :: more) := by
  rw [compileFrom, if_pos rfl, h]
  simp only [hc, hp, hn, hmore]
  rfl

/-- A word after `$` and a slot is a field. -/
theorem compileFrom_word {slot : Slot} {w : Word} (hslot : readSlot t = .ok (slot, u))
    (hw : firstWord (words names) u = some (w, rest))
    (hmore : compileFrom names measure [] rest = .ok more) :
    compileFrom names (measure + 1) buffer ('$' :: t) =
      .ok (flush buffer ++ w.field slot :: more) := by
  rw [compileFrom, if_neg (by decide), if_pos rfl]
  simp only [hslot, bind, Except.bind, hw, hmore]
  rfl

/-- A `$` without a word starts a literal with the next character. -/
theorem compileFrom_noWord {slot : Slot} (hslot : readSlot t = .ok (slot, u))
    (hw : firstWord (words names) u = none)
    (hmore : compileFrom names measure (u.take 1 ++ ['$']) (u.drop 1) = .ok more) :
    compileFrom names (measure + 1) buffer ('$' :: t) = .ok (flush buffer ++ more) := by
  rw [compileFrom, if_neg (by decide), if_pos rfl]
  simp only [hslot, bind, Except.bind, hw, hmore]
  rfl

end Steps

end Template

end TaskBrowser
