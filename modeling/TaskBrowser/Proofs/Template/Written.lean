import TaskBrowser.Proofs.Template.Parts

/-!
# Templates as format texts

A field can be written as a format text again: a literal as it is, any other field as `$`, its
slot and its word, and a conditional as its three parts between question marks.  `Field.written`
does so, given how a slot is written.

Compiling loses no text (`compile_keeps_text`).  A format text in which no `$` stands before a dash
or a digit compiles, and its fields, written without their slots, are the text again.  What is not
a word that is known, or a complete conditional, therefore stays in its place as literal text: the
fields that are not literal are `Recognized`.

The scanner keeps the literal that it is reading in reverse.  The statement about the scanner says
that its fields, written, are that literal followed by the text that is left; it is proved by
induction on the measure, which pays for every character and for the parts of a conditional.
-/

namespace TaskBrowser

/-- A slot that is not written. -/
def Slot.hidden (_ : Slot) : Text := []

namespace Field

mutual

/-- A field as a format text, given how its slot is written. -/
def written (slot : Slot → Text) : Field → Text
  | .literal t => t
  | .date s => '$' :: (slot s ++ "date".toList)
  | .time s => '$' :: (slot s ++ "time".toList)
  | .ofTask a s => '$' :: (slot s ++ a.word)
  | .named name _ s => '$' :: (slot s ++ name)
  | .conditional c p n _ =>
      '?' :: (writtenAll slot c ++ '?' :: (writtenAll slot p ++ '?' ::
        (writtenAll slot n ++ ['?'])))

/-- Fields as a format text, one after another. -/
def writtenAll (slot : Slot → Text) : List Field → Text
  | [] => []
  | f :: fs => written slot f ++ writtenAll slot fs

end

@[simp] theorem writtenAll_nil (slot : Slot → Text) : writtenAll slot [] = [] := rfl

@[simp] theorem writtenAll_cons (slot : Slot → Text) (f : Field) (fs : List Field) :
    writtenAll slot (f :: fs) = written slot f ++ writtenAll slot fs := rfl

@[simp] theorem writtenAll_append (slot : Slot → Text) (fs gs : List Field) :
    writtenAll slot (fs ++ gs) = writtenAll slot fs ++ writtenAll slot gs := by
  induction fs with
  | nil => rfl
  | cons f fs ih => simp [ih]

/-- The field of a word is written as the word after its slot. -/
@[simp] theorem written_word (slot : Slot → Text) (w : Template.Word) (s : Slot) :
    written slot (w.field s) = '$' :: (slot s ++ w.text) := by
  cases w <;> rfl

end Field

namespace Template

/-- The literal that ends somewhere is written as the characters read. -/
@[simp] theorem writtenAll_flush (slot : Slot → Text) (buffer : Text) :
    Field.writtenAll slot (flush buffer) = buffer.reverse := by
  rw [flush]
  split
  next h => simp [List.isEmpty_iff.1 h]
  next => simp [Field.written]

/-! ## What a field may be -/

mutual

/-- A field that is not literal is a word that is known, in the empty slot, or a conditional with
a condition and something to show. -/
def Recognized (names : Names) : Field → Prop
  | .literal _ => True
  | .conditional c p n s =>
      AreParts (Field.writtenAll Slot.hidden c) (Field.writtenAll Slot.hidden p)
          (Field.writtenAll Slot.hidden n) ∧
        s = {} ∧ AllRecognized names c ∧ AllRecognized names p ∧ AllRecognized names n
  | f => ∃ w ∈ words names, f = w.field {}

/-- Every field is recognized. -/
def AllRecognized (names : Names) : List Field → Prop
  | [] => True
  | f :: fs => Recognized names f ∧ AllRecognized names fs

end

@[simp] theorem allRecognized_append {names : Names} {fs gs : List Field} :
    AllRecognized names (fs ++ gs) ↔ AllRecognized names fs ∧ AllRecognized names gs := by
  induction fs with
  | nil => simp [AllRecognized]
  | cons f fs ih => simp [AllRecognized, ih, and_assoc]

/-- Fields that are recognized and, written without their slots, are a text. -/
structure Spell (names : Names) (fs : List Field) (t : Text) : Prop where
  /-- The text. -/
  text : Field.writtenAll Slot.hidden fs = t
  /-- What the fields are. -/
  recognized : AllRecognized names fs

namespace Spell

variable {names : Names}

theorem append {fs gs : List Field} {t u : Text} (hf : Spell names fs t) (hg : Spell names gs u) :
    Spell names (fs ++ gs) (t ++ u) := by
  refine ⟨?_, allRecognized_append.2 ⟨hf.recognized, hg.recognized⟩⟩
  rw [← hf.text, ← hg.text]
  exact Field.writtenAll_append _ fs gs

/-- The literal that ends somewhere spells the characters read. -/
theorem flush (buffer : Text) : Spell names (flush buffer) buffer.reverse := by
  refine ⟨writtenAll_flush _ buffer, ?_⟩
  rw [Template.flush]
  split
  next => trivial
  next => exact ⟨trivial, trivial⟩

/-- A word that was tried spells itself after `$`. -/
theorem word {w : Word} (hw : w ∈ words names) {fs : List Field} {t : Text}
    (h : Spell names fs t) : Spell names (w.field {} :: fs) ('$' :: (w.text ++ t)) := by
  refine ⟨?_, ?_, h.recognized⟩
  · simp [Slot.hidden, h.text]
  · cases w <;> exact ⟨_, hw, rfl⟩

/-- A conditional spells its parts between question marks. -/
theorem conditional {cs ps ns fs : List Field} {c p n t : Text} (hparts : AreParts c p n)
    (hc : Spell names cs c) (hp : Spell names ps p) (hn : Spell names ns n)
    (h : Spell names fs t) :
    Spell names (.conditional cs ps ns {} :: fs)
      ('?' :: (c ++ '?' :: (p ++ '?' :: (n ++ '?' :: t)))) := by
  refine ⟨?_, ⟨?_, rfl, hc.recognized, hp.recognized, hn.recognized⟩, h.recognized⟩
  · simp [Field.written, hc.text, hp.text, hn.text, h.text]
  · rwa [hc.text, hp.text, hn.text]

end Spell

/-! ## Texts without slots -/

/-- No `$` stands right before a dash or a digit. -/
def Unslotted (t : Text) : Prop :=
  ∀ c, ['$', c] <:+: t → c ≠ '-' ∧ Text.isDigit c = false

/-- Two characters stand next to each other where the text and its tail have them in one place. -/
theorem pair_isInfix_iff {a b : Char} {t : Text} : [a, b] <:+: t ↔ (a, b) ∈ t.zip t.tail := by
  induction t with
  | nil => simp
  | cons c t ih =>
      rw [List.infix_cons_iff, ih]
      cases t with
      | nil => simp
      | cons d t => simp [List.cons_prefix_cons]

instance : DecidablePred Unslotted := fun t =>
  decidable_of_iff (∀ p ∈ t.zip t.tail, p.1 = '$' → p.2 ≠ '-' ∧ Text.isDigit p.2 = false) <| by
    constructor
    · intro h c hc
      exact h ('$', c) (pair_isInfix_iff.1 hc) rfl
    · rintro h ⟨a, c⟩ hp rfl
      exact h c (pair_isInfix_iff.2 hp)

theorem Unslotted.mono {t u : Text} (h : Unslotted t) (hu : u <:+: t) : Unslotted u :=
  fun c hc => h c (hc.trans hu)

/-- What follows any part of a text has no slots if the text has none. -/
theorem Unslotted.of_append {t u : Text} (h : Unslotted (t ++ u)) : Unslotted u :=
  h.mono (List.suffix_append t u).isInfix

theorem Unslotted.tail {c : Char} {t : Text} (h : Unslotted (c :: t)) : Unslotted t :=
  h.of_append (t := [c])

/-- After a `$` there is neither a dash nor a digit. -/
theorem Unslotted.startsWord {t : Text} (h : Unslotted ('$' :: t)) : StartsWord t := by
  intro c hc
  cases t with
  | nil => cases hc
  | cons d t =>
      obtain rfl : d = c := by simpa using hc
      exact h d ⟨[], t, rfl⟩

/-! ## Compiling loses no text -/

/-- The fields of a text without slots spell the literal read before it and the text. -/
theorem compileFrom_spell (names : Names) (measure : Nat) :
    ∀ (buffer t : Text), t.length < measure → Unslotted t →
      ∃ fs, compileFrom names measure buffer t = .ok fs ∧ Spell names fs (buffer.reverse ++ t) := by
  induction measure with
  | zero => intro buffer t h; exact absurd h (Nat.not_lt_zero _)
  | succ measure ih =>
      intro buffer t hlen hun
      cases t with
      | nil =>
          refine ⟨_, compileFrom_nil names _ buffer, ?_⟩
          simpa using Spell.flush buffer
      | cons c t =>
          have hlt : t.length < measure := by simpa using hlen
          by_cases hq : c = '?'
          · subst hq
            cases hcond : conditional? t with
            | none =>
                obtain ⟨fs, hfs, hspell⟩ := ih ['?'] t hlt hun.tail
                exact ⟨_, compileFrom_question hcond hfs, (Spell.flush buffer).append hspell⟩
            | some parts =>
                obtain ⟨c, p, n, rest⟩ := parts
                obtain ⟨rfl, hparts⟩ := conditional?_eq_some_iff.1 hcond
                simp only [List.length_append, List.length_cons] at hlt
                have hun := hun.tail
                obtain ⟨cs, hcs, hc⟩ := ih [] c (by omega) (hun.mono ⟨[], _, rfl⟩)
                have hun := hun.of_append.tail
                obtain ⟨ps, hps, hp⟩ := ih [] p (by omega) (hun.mono ⟨[], _, rfl⟩)
                have hun := hun.of_append.tail
                obtain ⟨ns, hns, hn⟩ := ih [] n (by omega) (hun.mono ⟨[], _, rfl⟩)
                obtain ⟨fs, hfs, h⟩ := ih [] rest (by omega) hun.of_append.tail
                exact ⟨_, compileFrom_conditional hcond hcs hps hns hfs,
                  (Spell.flush buffer).append (Spell.conditional hparts hc hp hn h)⟩
          · by_cases hd : c = '$'
            · subst hd
              have hslot := readSlot_startsWord hun.startsWord
              cases hword : firstWord (words names) t with
              | none =>
                  obtain ⟨fs, hfs, hspell⟩ := ih (t.take 1 ++ ['$']) (t.drop 1)
                    (by rw [List.length_drop]; omega)
                    (hun.tail.mono (List.drop_suffix 1 t).isInfix)
                  refine ⟨_, compileFrom_noWord hslot hword hfs, ?_⟩
                  have hback : (t.take 1 ++ ['$']).reverse ++ t.drop 1 = '$' :: t := by
                    cases t <;> rfl
                  rw [hback] at hspell
                  exact (Spell.flush buffer).append hspell
              | some found =>
                  obtain ⟨w, rest⟩ := found
                  obtain ⟨hw, rfl⟩ := firstWord_eq_some hword
                  rw [List.length_append] at hlt
                  obtain ⟨fs, hfs, hspell⟩ := ih [] rest (by omega) hun.tail.of_append
                  exact ⟨_, compileFrom_word hslot hword hfs,
                    (Spell.flush buffer).append (Spell.word hw hspell)⟩
            · obtain ⟨fs, hfs, hspell⟩ := ih (c :: buffer) t hlt hun.tail
              rw [compileFrom_plain hq hd]
              exact ⟨fs, hfs, by simpa using hspell⟩

/-- Compiling loses no text.  A format text without slots compiles, and its fields, written one
after another, are the text again.  All but the literals are words that are known or complete
conditionals, so whatever is neither stays in its place as literal text. -/
theorem compile_keeps_text (table : VariableTable) (source : Text) (h : Unslotted source) :
    ∃ fs, compile table.names source = .ok ⟨source, fs⟩ ∧ Field.writtenAll Slot.hidden fs = source ∧
      AllRecognized table.names fs := by
  obtain ⟨fs, hfs, hspell⟩ :=
    compileFrom_spell table.names (source.length + 1) [] source (Nat.lt_succ_self _) h
  refine ⟨fs, ?_, hspell.text, hspell.recognized⟩
  rw [compile, compileFields, hfs]
  rfl

/-- A variable that is known and one that is not, a conditional, and three marks that start
nothing. -/
theorem compile_keeps_text_mixed :
    Unslotted "$who $nope?$due?$due??$$ ?" ∧
      ∃ fs, compile (VariableTable.names [⟨"who", .text, .null, .always, true⟩])
          "$who $nope?$due?$due??$$ ?" = .ok ⟨"$who $nope?$due?$due??$$ ?", fs⟩ ∧
        Field.writtenAll Slot.hidden fs = "$who $nope?$due?$due??$$ ?" ∧
        AllRecognized (VariableTable.names [⟨"who", .text, .null, .always, true⟩]) fs :=
  ⟨by decide, compile_keeps_text _ _ (by decide)⟩

end Template

end TaskBrowser
