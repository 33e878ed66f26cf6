import TaskBrowser.Proofs.Template.Parts

/-!
# Formats that compile

The compiler of format texts has a single step that can fail: a width is made of all characters
that are digits by property, and some of those, such as superscripts, have no decimal value.  So a
format compiles unless the compiler reads a field whose width breaks off at such a character
(`Template.compile_ends`), whatever the variables are and whatever else the text holds.

Not every `$` is a field: after one without a word the next character is literal, even if it is a
`$` itself.  Which ones are is the relation `Template.FieldAt`.  A field that breaks off is found
in the text as it stands, a dash and digits at most between the `$` and the character, so a text
without such a place compiles in any case.
-/

namespace TaskBrowser

namespace Template

/-! ## Steps that fail -/

section Steps

variable {α β : Type} {x : Except Crash α} {f : α → Except Crash β} {e : Crash}

theorem map_eq_error {g : α → β} : x.map g = .error e ↔ x = .error e := by
  cases x with
  | error d => simp [Except.map]
  | ok a => simp [Except.map]

/-- One of two steps fails, the second one on what the first has given. -/
theorem bind_eq_error (h : x >>= f = .error e) : x = .error e ∨ ∃ a, f a = .error e := by
  cases x with
  | error d =>
      cases h
      exact .inl rfl
  | ok a => exact .inr ⟨a, h⟩

theorem exists_map {g : α → β} (h : ∃ e, x = .error e) : ∃ e, x.map g = .error e := by
  obtain ⟨e, he⟩ := h
  exact ⟨e, map_eq_error.2 he⟩

theorem exists_bind_left (h : ∃ e, x = .error e) : ∃ e, x >>= f = .error e := by
  obtain ⟨e, rfl⟩ := h
  exact ⟨e, rfl⟩

/-- Two steps fail if the second one does whatever it is given. -/
theorem exists_bind_right (h : ∀ a, ∃ e, f a = .error e) : ∃ e, x >>= f = .error e := by
  cases x with
  | error d => exact ⟨d, rfl⟩
  | ok a => exact h a

end Steps

/-! ## Widths that break off -/

/-- A character that is a digit by property and has no decimal value. -/
def IsValueless (c : Char) : Prop := Text.isDigit c = true ∧ Text.decimalValue? c = none

/-- After a dash, if there is one, and any number of decimal digits, the text has the character
`c`, which has no decimal value. -/
def BreaksAt (t : Text) (c : Char) : Prop :=
  IsValueless c ∧ ∃ dash digits rest, (dash = [] ∨ dash = ['-']) ∧
    (∀ d ∈ digits, Text.isDigit d = true ∧ Text.isDecimal d = true) ∧
    t = dash ++ digits ++ c :: rest

/-- A width cannot be read exactly if it breaks off after decimal digits. -/
theorem readWidth_error_iff {t : Text} {e : Crash} :
    ∀ {acc : Nat}, readWidth acc t = .error e ↔
      ∃ digits c rest, (∀ d ∈ digits, Text.isDigit d = true ∧ Text.isDecimal d = true) ∧
        IsValueless c ∧ t = digits ++ c :: rest ∧ e = .badInteger [c] := by
  induction t with
  | nil => simp [readWidth]
  | cons b t ih =>
      intro acc
      rw [readWidth]
      split
      next hdigit =>
        split
        next v hv =>
          rw [ih]
          constructor
          · rintro ⟨digits, c, rest, hdigits, hc, rfl, he⟩
            refine ⟨b :: digits, c, rest, ?_, hc, rfl, he⟩
            simp only [List.forall_mem_cons]
            exact ⟨⟨hdigit, by rw [Text.isDecimal, hv]; rfl⟩, hdigits⟩
          · rintro ⟨_ | ⟨d, digits⟩, c, rest, hdigits, hc, ht, he⟩
            · obtain ⟨rfl, -⟩ := List.cons.inj ht
              cases hv.symm.trans hc.2
            · obtain ⟨rfl, rfl⟩ := List.cons.inj ht
              exact ⟨digits, c, rest, (List.forall_mem_cons.1 hdigits).2, hc, rfl, he⟩
        next hv =>
          constructor
          · rintro h
            cases h
            exact ⟨[], b, t, by simp, ⟨hdigit, hv⟩, rfl, rfl⟩
          · rintro ⟨_ | ⟨d, digits⟩, c, rest, hdigits, hc, ht, he⟩
            · obtain ⟨rfl, -⟩ := List.cons.inj ht
              rw [he]
            · obtain ⟨rfl, -⟩ := List.cons.inj ht
              have hdecimal := (List.forall_mem_cons.1 hdigits).1.2
              rw [Text.isDecimal, hv] at hdecimal
              cases hdecimal
      next hdigit =>
        constructor
        · intro h
          cases h
        · rintro ⟨_ | ⟨d, digits⟩, c, rest, hdigits, hc, ht, -⟩
          · obtain ⟨rfl, -⟩ := List.cons.inj ht
            exact absurd hc.1 hdigit
          · obtain ⟨rfl, -⟩ := List.cons.inj ht
            exact absurd (List.forall_mem_cons.1 hdigits).1.1 hdigit

/-- A slot cannot be read exactly if its width breaks off. -/
theorem readSlot_error_iff {t : Text} {e : Crash} :
    readSlot t = .error e ↔ ∃ c, BreaksAt t c ∧ e = .badInteger [c] := by
  by_cases hdash : t.head? = some '-'
  · obtain ⟨u, rfl⟩ : ∃ u, t = '-' :: u := by
      cases t with
      | nil => cases hdash
      | cons b u => exact ⟨u, by rw [Option.some.inj hdash]⟩
    rw [readSlot_dash, map_eq_error, readWidth_error_iff]
    constructor
    · rintro ⟨digits, c, rest, hdigits, hc, rfl, he⟩
      exact ⟨c, ⟨hc, ['-'], digits, rest, .inr rfl, hdigits, rfl⟩, he⟩
    · rintro ⟨c, ⟨hc, dash, digits, rest, rfl | rfl, hdigits, ht⟩, he⟩
      · -- the dash is neither a digit nor the character at which the width breaks off
        have hnot : Text.isDigit '-' = false := by decide
        cases digits with
        | nil =>
            obtain ⟨rfl, -⟩ := List.cons.inj ht
            exact absurd (hc.1.symm.trans hnot) nofun
        | cons d digits =>
            obtain ⟨rfl, -⟩ := List.cons.inj ht
            exact absurd ((List.forall_mem_cons.1 hdigits).1.1.symm.trans hnot) nofun
      · obtain ⟨-, rfl⟩ := List.cons.inj ht
        exact ⟨digits, c, rest, hdigits, hc, rfl, he⟩
  · rw [readSlot_noDash hdash, map_eq_error, readWidth_error_iff]
    constructor
    · rintro ⟨digits, c, rest, hdigits, hc, rfl, he⟩
      exact ⟨c, ⟨hc, [], digits, rest, .inl rfl, hdigits, rfl⟩, he⟩
    · rintro ⟨c, ⟨hc, dash, digits, rest, rfl | rfl, hdigits, rfl⟩, he⟩
      · exact ⟨digits, c, rest, hdigits, hc, rfl, he⟩
      · exact absurd rfl hdash

/-! ## The fields of a text -/

/-- The compiler reads a field in the first text whose `$` the second one follows.  It gets there
from the start of the text, or of a part of a conditional, past literal characters and past
fields. -/
inductive FieldAt (names : Names) : Text → Text → Prop
  | here (t : Text) : FieldAt names ('$' :: t) t
  | afterPlain {b : Char} {t u : Text} (hq : b ≠ '?') (hd : b ≠ '$') (h : FieldAt names t u) :
      FieldAt names (b :: t) u
  | afterField {t rest more u : Text} {slot : Slot} {w : Word}
      (hslot : readSlot t = .ok (slot, rest))
      (hw : firstWord (words names) rest = some (w, more)) (h : FieldAt names more u) :
      FieldAt names ('$' :: t) u
  | afterNoWord {t rest u : Text} {slot : Slot} (hslot : readSlot t = .ok (slot, rest))
      (hw : firstWord (words names) rest = none) (h : FieldAt names (rest.drop 1) u) :
      FieldAt names ('$' :: t) u
  | afterQuestion {t u : Text} (hparts : conditional? t = none) (h : FieldAt names t u) :
      FieldAt names ('?' :: t) u
  | ofCondition {t c p n rest u : Text} (hparts : conditional? t = some (c, p, n, rest))
      (h : FieldAt names c u) : FieldAt names ('?' :: t) u
  | ofPositive {t c p n rest u : Text} (hparts : conditional? t = some (c, p, n, rest))
      (h : FieldAt names p u) : FieldAt names ('?' :: t) u
  | ofNegative {t c p n rest u : Text} (hparts : conditional? t = some (c, p, n, rest))
      (h : FieldAt names n u) : FieldAt names ('?' :: t) u
  | afterConditional {t c p n rest u : Text} (hparts : conditional? t = some (c, p, n, rest))
      (h : FieldAt names rest u) : FieldAt names ('?' :: t) u

variable {names : Names} {measure : Nat} {buffer t u : Text} {e : Crash} {c : Char}

/-- What is left after a width stands at the end of the text. -/
theorem readWidth_suffix {rest : Text} {n : Nat} :
    ∀ {acc : Nat}, readWidth acc t = .ok (n, rest) → rest <:+ t := by
  induction t with
  | nil =>
      intro acc h
      cases h
      exact List.suffix_rfl
  | cons b t ih =>
      intro acc h
      rw [readWidth] at h
      split at h
      · split at h
        · exact (ih h).trans (List.suffix_cons b t)
        · cases h
      · cases h
        exact List.suffix_rfl

theorem readSlot_suffix {rest : Text} {slot : Slot} (h : readSlot t = .ok (slot, rest)) :
    rest <:+ t := by
  have hmap {x : Except Crash (Nat × Text)} {right : Bool}
      (h : (x.map fun found => ((⟨found.1, right⟩, found.2) : Slot × Text)) = .ok (slot, rest)) :
      ∃ n, x = .ok (n, rest) := by
    cases x with
    | error d => cases h
    | ok found =>
        cases h
        exact ⟨found.1, rfl⟩
  by_cases hdash : t.head? = some '-'
  · cases t with
    | nil => cases hdash
    | cons b t =>
        obtain rfl := Option.some.inj hdash
        obtain ⟨n, hn⟩ := hmap h
        exact (readWidth_suffix hn).trans (List.suffix_cons _ t)
  · rw [readSlot_noDash hdash] at h
    obtain ⟨n, hn⟩ := hmap h
    exact readWidth_suffix hn

/-- A field that is read stands in the text. -/
theorem FieldAt.isInfix (h : FieldAt names t u) : '$' :: u <:+: t := by
  have hparts {t c p n rest : Text} (h : conditional? t = some (c, p, n, rest)) :
      c <:+: t ∧ p <:+: t ∧ n <:+: t ∧ rest <:+: t := by
    obtain ⟨rfl, -⟩ := conditional?_eq_some_iff.1 h
    refine ⟨⟨[], _, rfl⟩, ⟨c ++ ['?'], '?' :: (n ++ '?' :: rest), by simp⟩,
      ⟨c ++ '?' :: p ++ ['?'], '?' :: rest, by simp⟩,
      ⟨c ++ '?' :: p ++ '?' :: n ++ ['?'], [], by simp⟩⟩
  induction h with
  | here t => exact List.infix_rfl
  | afterPlain _ _ _ ih => exact ih.trans (List.suffix_cons _ _).isInfix
  | @afterField t rest more u slot w hslot hw _ ih =>
      obtain ⟨-, rfl⟩ := firstWord_eq_some hw
      have hmore : more <:+ t := (List.suffix_append w.text more).trans (readSlot_suffix hslot)
      exact ih.trans (hmore.trans (List.suffix_cons _ _)).isInfix
  | afterNoWord hslot _ _ ih =>
      have hdrop := (List.drop_suffix 1 _).trans (readSlot_suffix hslot)
      exact ih.trans (hdrop.trans (List.suffix_cons _ _)).isInfix
  | afterQuestion _ _ ih => exact ih.trans (List.suffix_cons _ _).isInfix
  | ofCondition h _ ih => exact (ih.trans (hparts h).1).trans (List.suffix_cons _ _).isInfix
  | ofPositive h _ ih => exact (ih.trans (hparts h).2.1).trans (List.suffix_cons _ _).isInfix
  | ofNegative h _ ih => exact (ih.trans (hparts h).2.2.1).trans (List.suffix_cons _ _).isInfix
  | afterConditional h _ ih =>
      exact (ih.trans (hparts h).2.2.2).trans (List.suffix_cons _ _).isInfix

/-! ## Compiling -/

/-- Past a slot that can be read, the compiler looks for a word and goes on. -/
theorem compileFrom_field {rest : Text} {slot : Slot} (hslot : readSlot t = .ok (slot, rest)) :
    compileFrom names (measure + 1) buffer ('$' :: t) =
      match firstWord (words names) rest with
      | some (w, more) =>
          (compileFrom names measure [] more).map (flush buffer ++ w.field slot :: ·)
      | none =>
          (compileFrom names measure (rest.take 1 ++ ['$']) (rest.drop 1)).map
            (flush buffer ++ ·) := by
  rw [compileFrom, if_neg (by decide), if_pos rfl, hslot]
  rfl

/-- A text that does not compile has a field whose width breaks off. -/
theorem compileFrom_error :
    ∀ {buffer t : Text}, compileFrom names measure buffer t = .error e →
      ∃ u c, FieldAt names t u ∧ BreaksAt u c ∧ e = .badInteger [c] := by
  induction measure with
  | zero => nofun
  | succ measure ih =>
      intro buffer t h
      -- a part that fails has such a field by the induction, and the text has those of its parts
      have hpart {buffer part : Text} (h : compileFrom names measure buffer part = .error e)
          (hfields : ∀ {u}, FieldAt names part u → FieldAt names t u) :
          ∃ u c, FieldAt names t u ∧ BreaksAt u c ∧ e = .badInteger [c] := by
        obtain ⟨u, c, hu, hc⟩ := ih h
        exact ⟨u, c, hfields hu, hc⟩
      cases t with
      | nil => cases h
      | cons b t =>
          by_cases hq : b = '?'
          · subst hq
            rw [compileFrom, if_pos rfl] at h
            split at h
            next hparts => exact hpart (map_eq_error.1 h) (.afterQuestion hparts)
            next condition positive negative rest hparts =>
              rcases bind_eq_error h with h | ⟨_, h⟩
              · exact hpart h (.ofCondition hparts)
              rcases bind_eq_error h with h | ⟨_, h⟩
              · exact hpart h (.ofPositive hparts)
              rcases bind_eq_error h with h | ⟨_, h⟩
              · exact hpart h (.ofNegative hparts)
              rcases bind_eq_error h with h | ⟨_, h⟩
              · exact hpart h (.afterConditional hparts)
              cases h
          by_cases hd : b = '$'
          · subst hd
            cases hslot : readSlot t with
            | error d =>
                rw [compileFrom, if_neg hq, if_pos rfl, hslot] at h
                cases h
                obtain ⟨c, hc⟩ := readSlot_error_iff.1 hslot
                exact ⟨t, c, .here t, hc⟩
            | ok found =>
                obtain ⟨slot, rest⟩ := found
                rw [compileFrom_field hslot] at h
                split at h
                next w more hw => exact hpart (map_eq_error.1 h) (.afterField hslot hw)
                next hw => exact hpart (map_eq_error.1 h) (.afterNoWord hslot hw)
          · rw [compileFrom_plain hq hd] at h
            exact hpart h (.afterPlain hq hd)

/-- A text with a field whose width breaks off does not compile. -/
theorem FieldAt.compileFrom_error (h : FieldAt names t u) (hc : BreaksAt u c) :
    ∀ {measure : Nat} {buffer : Text}, t.length < measure →
      ∃ e, compileFrom names measure buffer t = .error e := by
  -- the parts of a conditional are shorter than the text, and so is what follows it
  have hparts {t c p n rest : Text} (h : conditional? t = some (c, p, n, rest)) :
      c.length < t.length ∧ p.length < t.length ∧ n.length < t.length ∧ rest.length < t.length := by
    obtain ⟨rfl, -⟩ := conditional?_eq_some_iff.1 h
    simp only [List.length_append, List.length_cons]
    omega
  have hpos {n m : Nat} (h : n < m) : ∃ k, m = k + 1 :=
    Nat.exists_eq_add_one_of_ne_zero (Nat.ne_zero_of_lt h)
  intro measure buffer hlength
  induction h generalizing measure buffer with
  | here t =>
      obtain ⟨measure, rfl⟩ := hpos hlength
      rw [compileFrom, if_neg (by decide), if_pos rfl]
      exact exists_bind_left ⟨_, readSlot_error_iff.2 ⟨c, hc, rfl⟩⟩
  | afterPlain hq hd _ ih =>
      obtain ⟨measure, rfl⟩ := hpos hlength
      rw [compileFrom_plain hq hd]
      exact ih hc (Nat.lt_of_succ_lt_succ hlength)
  | afterField hslot hw _ ih =>
      obtain ⟨measure, rfl⟩ := hpos hlength
      rw [compileFrom_field hslot, hw]
      have hrest := (readSlot_suffix hslot).length_le
      have hword := congrArg List.length (firstWord_eq_some hw).2
      rw [List.length_append] at hword
      rw [List.length_cons] at hlength
      exact exists_map (ih hc (by omega))
  | afterNoWord hslot hw _ ih =>
      obtain ⟨measure, rfl⟩ := hpos hlength
      rw [compileFrom_field hslot, hw]
      have hrest := (readSlot_suffix hslot).length_le
      rw [List.length_cons] at hlength
      exact exists_map (ih hc (by rw [List.length_drop]; omega))
  | afterQuestion hnone _ ih =>
      obtain ⟨measure, rfl⟩ := hpos hlength
      rw [compileFrom, if_pos rfl, hnone]
      exact exists_map (ih hc (Nat.lt_of_succ_lt_succ hlength))
  | ofCondition h _ ih =>
      obtain ⟨measure, rfl⟩ := hpos hlength
      have hshort := (hparts h).1
      rw [List.length_cons] at hlength
      rw [compileFrom, if_pos rfl, h]
      exact exists_bind_left (ih hc (by omega))
  | ofPositive h _ ih =>
      obtain ⟨measure, rfl⟩ := hpos hlength
      have hshort := (hparts h).2.1
      rw [List.length_cons] at hlength
      rw [compileFrom, if_pos rfl, h]
      refine exists_bind_right fun _ => ?_
      exact exists_bind_left (ih hc (by omega))
  | ofNegative h _ ih =>
      obtain ⟨measure, rfl⟩ := hpos hlength
      have hshort := (hparts h).2.2.1
      rw [List.length_cons] at hlength
      rw [compileFrom, if_pos rfl, h]
      refine exists_bind_right fun _ => exists_bind_right fun _ => ?_
      exact exists_bind_left (ih hc (by omega))
  | afterConditional h _ ih =>
      obtain ⟨measure, rfl⟩ := hpos hlength
      have hshort := (hparts h).2.2.2
      rw [List.length_cons] at hlength
      rw [compileFrom, if_pos rfl, h]
      refine exists_bind_right fun _ => exists_bind_right fun _ => exists_bind_right fun _ => ?_
      exact exists_bind_left (ih hc (by omega))

theorem compile_eq_error {source : Text} (h : compile names source = .error e) :
    ∃ u c, FieldAt names source u ∧ BreaksAt u c ∧ e = .badInteger [c] :=
  compileFrom_error (map_eq_error.1 h)

theorem FieldAt.compile_error (h : FieldAt names t u) (hc : BreaksAt u c) :
    ∃ e, compile names t = .error e :=
  exists_map (h.compileFrom_error hc (Nat.lt_succ_self t.length))

/-- A format compiles to a template of its text, or the compiler reads a field in it whose width
breaks off, and then the crash tells the character. -/
theorem compile_ends (names : Names) (source : Text) :
    match compile names source with
    | .ok t => t.source = source ∧ ∀ u c, FieldAt names source u → ¬ BreaksAt u c
    | .error e => ∃ u c, FieldAt names source u ∧ BreaksAt u c ∧ '$' :: u <:+: source ∧
        e = .badInteger [c] := by
  cases hcompile : compile names source with
  | error e =>
      obtain ⟨u, c, hu, hc, he⟩ := compile_eq_error hcompile
      exact ⟨u, c, hu, hc, hu.isInfix, he⟩
  | ok t =>
      refine ⟨?_, ?_⟩
      · cases hfields : compileFields names source with
        | error e =>
            rw [compile, hfields] at hcompile
            cases hcompile
        | ok fields =>
            rw [compile, hfields] at hcompile
            cases hcompile
            rfl
      · intro u c hu hc
        obtain ⟨e, he⟩ := hu.compile_error hc
        rw [he] at hcompile
        cases hcompile

example : compile [] "$²date" = .error (.badInteger "²") := rfl
example : (compile [] "$$²date").toOption.map Template.source = some ("$$²date" : Text) := rfl

end Template

end TaskBrowser
