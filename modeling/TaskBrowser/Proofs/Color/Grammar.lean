import Mathlib
import TaskBrowser.Color.Rule
import TaskBrowser.Proofs.Effect
import TaskBrowser.Proofs.Text.Case

/-!
# The grammar of predicates

A predicate is well-formed if it is *spelled*: a text without a tilde, and then clauses, each
followed by a text without a tilde.  A clause is a tilde and a letter, then possibly blanks and a
pattern between single quotes.  The letters `s` and `t` stand without a pattern, in which case no
quote may follow, not even after blanks; `p`, `d`, `t` and `r` stand with one.

`Clause.read` reads exactly the predicates that are spelled, as the clauses they are spelled with,
and there is one way only to spell a predicate (`decides_grammar`).  The reader is measured against
the grammar one clause at a time: `readPattern` finds the one pattern that fits, and `questionOf`
takes the letters that the grammar allows (`readClause_eq_ok_iff`).  That the pattern is the only
one that fits needs no argument of its own, because the reader finds every pattern that does.
-/

namespace TaskBrowser

namespace Clause

/-! ## Spelling -/

/-- The letters of clauses without a pattern. -/
def bareLetters : Text := ['s', 'S', 't', 'T']

/-- The letters of clauses with a pattern. -/
def patternLetters : Text := ['p', 'P', 'd', 'D', 't', 'T', 'r', 'R']

/-- A clause as it stands in a text, with the text from there to the next clause. -/
structure Written where
  /-- The letter after the tilde. -/
  letter : Char
  /-- The blanks before the pattern, and the pattern. -/
  pattern : Option (Text × Text)
  /-- What is passed over after the clause. -/
  after : Text
deriving DecidableEq, Repr

/-- A pattern with its quotes and the blanks before it. -/
def patternText : Option (Text × Text) → Text
  | none => []
  | some (blanks, body) => blanks ++ '\'' :: body ++ ['\'']

/-- The text of written clauses. -/
def spell : List Written → Text
  | [] => []
  | w :: ws => '~' :: w.letter :: (patternText w.pattern ++ (w.after ++ spell ws))

/-- A text starts with a single quote, apart from blanks. -/
def OpensQuote (t : Text) : Prop :=
  ∃ blanks rest, (∀ b ∈ blanks, Text.isBlank b = true) ∧ t = blanks ++ '\'' :: rest

/-- A pattern, or none, can stand before a text. -/
def PatternFits (rest : Text) : Option (Text × Text) → Prop
  | none => ¬OpensQuote rest
  | some (blanks, body) => (∀ b ∈ blanks, Text.isBlank b = true) ∧ body ≠ [] ∧ '\'' ∉ body

/-- The letters that stand with a pattern, or without one. -/
def lettersFor {α : Type} : Option α → Text
  | none => bareLetters
  | some _ => patternLetters

/-- Written clauses follow the grammar. -/
def WellFormed : List Written → Prop
  | [] => True
  | w :: ws =>
      w.letter ∈ lettersFor w.pattern ∧ PatternFits (w.after ++ spell ws) w.pattern ∧
        '~' ∉ w.after ∧ WellFormed ws

/-- A predicate is a text without a tilde, and then clauses that follow the grammar. -/
structure Spelled (t junk : Text) (ws : List Written) : Prop where
  text : t = junk ++ spell ws
  junk : '~' ∉ junk
  wellFormed : WellFormed ws

/-- What a clause says: its letter in lower case, whether it is turned around, and its pattern. -/
def content (c : Clause) : Char × Bool × Option Text := (c.letter, c.inverted, c.pattern?)

/-- What a written clause says. -/
def Written.content (w : Written) : Char × Bool × Option Text :=
  (w.letter.toLower, w.letter.isUpper, w.pattern.map Prod.snd)

theorem content_injective : Function.Injective content := by
  rintro ⟨q, i⟩ ⟨q', i'⟩ h
  obtain ⟨hletter, hinverted, hpattern⟩ := by simpa only [content, Prod.mk.injEq] using h
  cases q with
  | selected => cases q' with
    | selected => rw [hinverted]
    | started => cases hletter
    | isLike s p => cases hpattern
  | started => cases q' with
    | selected => cases hletter
    | started => rw [hinverted]
    | isLike s p => cases hpattern
  | isLike s p => cases q' with
    | selected => cases hpattern
    | started => cases hpattern
    | isLike s' p' =>
        have hp : p = p' := Option.some.inj hpattern
        have hs : s = s' := by
          cases s <;> cases s' <;> first | rfl | cases hletter
        rw [hp, hs, hinverted]

/-! ## Patterns -/

theorem trimLeft_quote {blanks : Text} (h : ∀ b ∈ blanks, Text.isBlank b = true) (rest : Text) :
    Text.trimLeft (blanks ++ '\'' :: rest) = '\'' :: rest := by
  rw [Text.trimLeft, List.dropWhile_append_of_pos h, List.dropWhile_cons_of_neg (by decide)]

/-- What is left without blanks starts with a quote if the text does so apart from blanks. -/
theorem opensQuote_iff {t : Text} : OpensQuote t ↔ ∃ rest, Text.trimLeft t = '\'' :: rest := by
  constructor
  · rintro ⟨blanks, rest, hblanks, rfl⟩
    exact ⟨rest, trimLeft_quote hblanks rest⟩
  · rintro ⟨rest, h⟩
    refine ⟨t.takeWhile Text.isBlank, rest, fun b hb => ?_, ?_⟩
    · exact List.mem_takeWhile_imp hb
    · rw [← h, Text.trimLeft, List.takeWhile_append_dropWhile]

theorem forall_bne {d : Char} {t : Text} (h : d ∉ t) : ∀ c ∈ t, (c != d) = true := by
  intro c hc
  rw [bne_iff_ne]
  rintro rfl
  exact h hc

/-- The reader finds the pattern that fits. -/
theorem readPattern_patternText {m : Option (Text × Text)} {rest : Text} (h : PatternFits rest m)
    (letter : Text) :
    readPattern letter (patternText m ++ rest) = .ok (m.map Prod.snd, rest) := by
  cases m with
  | none =>
      have hquote : ∀ u, Text.trimLeft rest ≠ '\'' :: u := fun u hu =>
        h (opensQuote_iff.2 ⟨u, hu⟩)
      rw [patternText, List.nil_append, readPattern]
      split
      next u hu => exact absurd hu (hquote u)
      next => rfl
  | some m =>
      obtain ⟨blanks, body⟩ := m
      obtain ⟨hblanks, hne, hbody⟩ := h
      have hbefore := forall_bne hbody
      have htext : patternText (some (blanks, body)) ++ rest =
          blanks ++ '\'' :: (body ++ '\'' :: rest) := by
        simp only [patternText, List.append_assoc, List.cons_append, List.nil_append]
      have htake : (body ++ '\'' :: rest).takeWhile (· != '\'') = body := by
        rw [List.takeWhile_append_of_pos hbefore]
        simp
      have hdrop : (body ++ '\'' :: rest).dropWhile (· != '\'') = '\'' :: rest := by
        rw [List.dropWhile_append_of_pos hbefore]
        simp
      rw [htext, readPattern, trimLeft_quote hblanks]
      simp only [hdrop, htake]
      cases body with
      | nil => exact absurd rfl hne
      | cons c body => rfl

/-- What the reader finds is a pattern that fits. -/
theorem exists_of_readPattern {letter t rest : Text} {p : Option Text}
    (h : readPattern letter t = .ok (p, rest)) :
    ∃ m, PatternFits rest m ∧ t = patternText m ++ rest ∧ m.map Prod.snd = p := by
  rw [readPattern] at h
  split at h
  next u hu =>
    split at h
    next => cases h
    next c rest' hdrop =>
      split at h
      next => cases h
      next hne =>
        obtain ⟨rfl, rfl⟩ : some (u.takeWhile (· != '\'')) = p ∧ rest' = rest := by
          simpa using h
        have hc : c = '\'' := by
          have hstop : u.dropWhile (· != '\'') ≠ [] := by simp [hdrop]
          simpa [hdrop] using List.head_dropWhile_not (· != '\'') hstop
        have hquote : '\'' ∉ u.takeWhile (· != '\'') := fun hmem =>
          absurd (List.mem_takeWhile_imp hmem) (by decide)
        refine ⟨some (t.takeWhile Text.isBlank, u.takeWhile (· != '\'')),
          ⟨fun b hb => List.mem_takeWhile_imp hb, hne, hquote⟩, ?_, rfl⟩
        calc t = t.takeWhile Text.isBlank ++ Text.trimLeft t := by
              rw [Text.trimLeft, List.takeWhile_append_dropWhile]
          _ = t.takeWhile Text.isBlank ++ '\'' ::
                (u.takeWhile (· != '\'') ++ u.dropWhile (· != '\'')) := by
              rw [hu, List.takeWhile_append_dropWhile]
          _ = _ := by
              rw [hdrop, hc]
              simp only [patternText, List.append_assoc, List.cons_append, List.nil_append]
  next hnone =>
    obtain ⟨rfl, rfl⟩ : none = p ∧ t = rest := by
      simpa using h
    refine ⟨none, fun hopen => ?_, rfl, rfl⟩
    obtain ⟨u, hu⟩ := opensQuote_iff.1 hopen
    exact hnone u hu

/-- Two patterns that fit are one, because the reader finds both. -/
theorem patternText_unique {m m' : Option (Text × Text)} {rest rest' : Text}
    (h : PatternFits rest m) (h' : PatternFits rest' m')
    (htext : patternText m ++ rest = patternText m' ++ rest') : m = m' ∧ rest = rest' := by
  have hread := readPattern_patternText h []
  rw [htext, readPattern_patternText h' []] at hread
  obtain ⟨hbody, hrest⟩ := by
    simpa only [Except.ok.injEq, Prod.mk.injEq] using hread
  subst hrest
  refine ⟨?_, rfl⟩
  have hpattern := List.append_cancel_right htext
  rcases m with _ | ⟨blanks, body⟩
  · exact (Option.map_eq_none_iff.1 hbody).symm
  · rcases m' with _ | ⟨blanks', body'⟩
    · cases hbody
    · obtain rfl : body' = body := Option.some.inj hbody
      have hblanks := List.append_cancel_right (List.append_cancel_right hpattern)
      rw [hblanks]

/-! ## One clause -/

/-- The clause that a letter starts, and the text after it. -/
def readClause (l : Char) (t : Text) : Except ClauseFault (Clause × Text) :=
  match readPattern (Text.lowered l) t with
  | .error e => .error e
  | .ok (p, rest) => (questionOf (Text.lowered l) p).map fun q => (⟨q, Text.isUpper l⟩, rest)

/-- A question is asked by its own letter and with its own pattern. -/
theorem questionOf_eq_ok_iff {letter : Text} {p : Option Text} (c : Clause) :
    questionOf letter p = .ok c.question ↔ letter = [c.letter] ∧ c.pattern? = p := by
  obtain ⟨q, i⟩ := c
  constructor
  · intro h
    cases p with
    | none =>
        rw [questionOf] at h
        split_ifs at h with hs ht
        · cases h
          exact ⟨hs, rfl⟩
        · cases h
          exact ⟨ht, rfl⟩
    | some p =>
        rw [questionOf] at h
        split_ifs at h with hp hd ht hr
        · cases h
          exact ⟨hp, rfl⟩
        · cases h
          exact ⟨hd, rfl⟩
        · cases h
          exact ⟨ht, rfl⟩
        · cases h
          exact ⟨hr, rfl⟩
  · rintro ⟨rfl, rfl⟩
    cases q with
    | selected => rfl
    | started => rfl
    | isLike s p => cases s <;> rfl

theorem letter_plain (c : Clause) : c.letter ∈ Text.plainLetters := by
  obtain ⟨q, i⟩ := c
  cases q with
  | selected => simp [letter, Text.plainLetters]
  | started => simp [letter, Text.plainLetters]
  | isLike s p => cases s <;> simp [letter, subjectLetter, Text.plainLetters]

/-- The letter of a clause is allowed in both cases. -/
theorem letter_allowed (c : Clause) :
    ∀ l ∈ [c.letter, c.letter.toUpper], l ∈ lettersFor c.pattern? ∧ l.toLower = c.letter := by
  obtain ⟨q, i⟩ := c
  cases q with
  | selected => simp [letter, pattern?, lettersFor, bareLetters]
  | started => simp [letter, pattern?, lettersFor, bareLetters]
  | isLike s p =>
      cases s <;> simp [letter, subjectLetter, pattern?, lettersFor, patternLetters]

/-- Every letter that is allowed is that of a clause, in one of the two cases. -/
theorem exists_clause {l : Char} {p : Option Text} (h : l ∈ lettersFor p) :
    ∃ c : Clause, content c = (l.toLower, l.isUpper, p) ∧
      (l = c.letter ∨ l = c.letter.toUpper) := by
  cases p with
  | none =>
      simp only [lettersFor, bareLetters, List.mem_cons, List.not_mem_nil, or_false] at h
      obtain rfl | rfl | rfl | rfl := h
      · exact ⟨⟨.selected, false⟩, by simp [content, letter, pattern?]⟩
      · exact ⟨⟨.selected, true⟩, by simp [content, letter, pattern?]⟩
      · exact ⟨⟨.started, false⟩, by simp [content, letter, pattern?]⟩
      · exact ⟨⟨.started, true⟩, by simp [content, letter, pattern?]⟩
  | some p =>
      simp only [lettersFor, patternLetters, List.mem_cons, List.not_mem_nil, or_false] at h
      obtain rfl | rfl | rfl | rfl | rfl | rfl | rfl | rfl := h
      · exact ⟨⟨.isLike .project p, false⟩, by simp [content, letter, subjectLetter, pattern?]⟩
      · exact ⟨⟨.isLike .project p, true⟩, by simp [content, letter, subjectLetter, pattern?]⟩
      · exact ⟨⟨.isLike .description p, false⟩, by simp [content, letter, subjectLetter, pattern?]⟩
      · exact ⟨⟨.isLike .description p, true⟩, by simp [content, letter, subjectLetter, pattern?]⟩
      · exact ⟨⟨.isLike .tags p, false⟩, by simp [content, letter, subjectLetter, pattern?]⟩
      · exact ⟨⟨.isLike .tags p, true⟩, by simp [content, letter, subjectLetter, pattern?]⟩
      · exact ⟨⟨.isLike .priority p, false⟩, by simp [content, letter, subjectLetter, pattern?]⟩
      · exact ⟨⟨.isLike .priority p, true⟩, by simp [content, letter, subjectLetter, pattern?]⟩

/-- The letters that are read as that of a clause are those the grammar gives it. -/
theorem lowered_eq_letter_iff (c : Clause) {l : Char} :
    Text.lowered l = [c.letter] ↔ l ∈ lettersFor c.pattern? ∧ l.toLower = c.letter := by
  rw [Text.lowered_eq_iff (letter_plain c)]
  constructor
  · intro h
    exact letter_allowed c l (by simpa using h)
  · rintro ⟨hl, hlower⟩
    obtain ⟨c', hcontent, hcase⟩ := exists_clause hl
    have hletter : c'.letter = c.letter := (congrArg Prod.fst hcontent).trans hlower
    rwa [hletter] at hcase

/-- A letter that is allowed is one of the first twenty-six, for which the two tests for upper case
are the same. -/
theorem isUpper_eq {α : Type} {p : Option α} {l : Char} (h : l ∈ lettersFor p) :
    Text.isUpper l = l.isUpper := by
  have hall : ((bareLetters ++ patternLetters).all fun l =>
      Text.isUpper l == l.isUpper) = true := by decide +kernel
  have hmem : l ∈ bareLetters ++ patternLetters := by
    cases p with
    | none => exact List.mem_append_left _ h
    | some a => exact List.mem_append_right _ h
  exact beq_iff_eq.1 (List.all_eq_true.1 hall l hmem)

theorem lettersFor_map {α β : Type} (f : α → β) (p : Option α) :
    lettersFor (p.map f) = lettersFor p := by
  cases p <;> rfl

/-- A letter starts a clause if the grammar has it with the pattern that follows. -/
theorem readClause_eq_ok_iff {l : Char} {t rest : Text} {c : Clause} :
    readClause l t = .ok (c, rest) ↔
      ∃ m, l ∈ lettersFor m ∧ PatternFits rest m ∧ t = patternText m ++ rest ∧
        content c = (l.toLower, l.isUpper, m.map Prod.snd) := by
  constructor
  · intro h
    rw [readClause] at h
    split at h
    next => cases h
    next p rest' hread =>
      obtain ⟨q, hq, hc⟩ : ∃ q, questionOf (Text.lowered l) p = .ok q ∧
          (⟨q, Text.isUpper l⟩, rest') = (c, rest) := by
        cases hq : questionOf (Text.lowered l) p with
        | error e => rw [hq] at h; cases h
        | ok q => rw [hq] at h; exact ⟨q, rfl, Except.ok.inj h⟩
      obtain ⟨rfl, rfl⟩ := Prod.mk.inj hc
      obtain ⟨m, hfits, htext, hbody⟩ := exists_of_readPattern hread
      obtain ⟨hletter, hpattern⟩ := (questionOf_eq_ok_iff ⟨q, Text.isUpper l⟩).1 hq
      obtain ⟨hmem, hlower⟩ := (lowered_eq_letter_iff _).1 hletter
      rw [hpattern, ← hbody, lettersFor_map] at hmem
      refine ⟨m, hmem, hfits, htext, ?_⟩
      rw [content, ← hlower, hpattern, hbody, isUpper_eq hmem]
  · rintro ⟨m, hmem, hfits, rfl, hcontent⟩
    obtain ⟨hletter, hinverted, hpattern⟩ := by simpa [content] using hcontent
    have hlowered : Text.lowered l = [c.letter] := by
      refine (lowered_eq_letter_iff c).2 ⟨?_, hletter.symm⟩
      rwa [hpattern, lettersFor_map]
    have hq := (questionOf_eq_ok_iff c).2 ⟨hlowered, hpattern⟩
    have hc : (⟨c.question, Text.isUpper l⟩ : Clause) = c := by
      rw [isUpper_eq hmem, ← hinverted]
    rw [readClause, readPattern_patternText hfits]
    simp only [hq, Except.map, hc]

theorem readClause_length {l : Char} {t rest : Text} {c : Clause}
    (h : readClause l t = .ok (c, rest)) : rest.length ≤ t.length := by
  obtain ⟨m, -, -, rfl, -⟩ := readClause_eq_ok_iff.1 h
  simp

/-! ## All clauses -/

theorem readFrom_plain {c : Char} (h : c ≠ '~') (measure : Nat) (t : Text) :
    readFrom (measure + 1) (c :: t) = readFrom measure t := by
  cases t <;> rw [readFrom, if_pos h]

theorem readFrom_tilde (measure : Nat) (l : Char) (t : Text) :
    readFrom (measure + 1) ('~' :: l :: t) =
      match readClause l t with
      | .error e => .error e
      | .ok (c, rest) => (readFrom measure rest).map (c :: ·) := by
  rw [readFrom, if_neg (not_not.2 rfl), readClause]
  dsimp only
  rcases readPattern (Text.lowered l) t with e | ⟨p, rest⟩
  · rfl
  · dsimp only
    cases questionOf (Text.lowered l) p <;> rfl

/-- Any measure that is not less than the length gives the same clauses. -/
theorem readFrom_eq_read {measure : Nat} {t : Text} (h : t.length ≤ measure) :
    readFrom measure t = read t := by
  -- Two measures run down together, neither before the text does.
  suffices hany : ∀ m n (t : Text), t.length ≤ m → t.length ≤ n → readFrom m t = readFrom n t from
    hany measure t.length t h le_rfl
  intro m
  induction m with
  | zero =>
      intro n t hm _
      obtain rfl := List.length_eq_zero_iff.1 (Nat.le_zero.1 hm)
      cases n <;> rfl
  | succ m ih =>
      intro n t hm hn
      cases n with
      | zero =>
          obtain rfl := List.length_eq_zero_iff.1 (Nat.le_zero.1 hn)
          rfl
      | succ n =>
          cases t with
          | nil => rfl
          | cons c t =>
              have hm' : t.length ≤ m := Nat.le_of_succ_le_succ hm
              have hn' : t.length ≤ n := Nat.le_of_succ_le_succ hn
              by_cases hc : c = '~'
              · subst hc
                cases t with
                | nil => rfl
                | cons l t =>
                    rw [readFrom_tilde, readFrom_tilde]
                    split
                    next => rfl
                    next c rest hclause =>
                      have hrest := readClause_length hclause
                      simp only [List.length_cons] at hm' hn'
                      rw [ih n rest (by omega) (by omega)]
              · rw [readFrom_plain hc, readFrom_plain hc, ih n t hm' hn']

theorem read_plain {c : Char} (h : c ≠ '~') (t : Text) : read (c :: t) = read t :=
  readFrom_plain h t.length t

/-- A text without a tilde is passed over. -/
theorem read_junk {junk : Text} (h : '~' ∉ junk) (t : Text) : read (junk ++ t) = read t := by
  induction junk with
  | nil => rfl
  | cons c junk ih =>
      obtain ⟨hc, hjunk⟩ := not_or.1 (List.mem_cons.not.1 h)
      rw [List.cons_append, read_plain (Ne.symm hc), ih hjunk]

/-- A tilde with a letter starts a clause. -/
theorem read_tilde_eq_ok_iff {l : Char} {t : Text} {cs : List Clause} :
    read ('~' :: l :: t) = .ok cs ↔
      ∃ c rest cs', readClause l t = .ok (c, rest) ∧ read rest = .ok cs' ∧ cs = c :: cs' := by
  rw [read, List.length_cons, readFrom_tilde]
  cases hclause : readClause l t with
  | error e => simp
  | ok r =>
      obtain ⟨c, rest⟩ := r
      have hrest : rest.length ≤ t.length + 1 := Nat.le_succ_of_le (readClause_length hclause)
      simp only [List.length_cons, readFrom_eq_read hrest]
      cases hread : read rest with
      | error e => simp [Except.map, hread]
      | ok cs' => simp [Except.map, hread, eq_comm]

/-- What follows the grammar is read as what is written. -/
theorem read_spell {ws : List Written} (h : WellFormed ws) :
    ∃ cs, read (spell ws) = .ok cs ∧ cs.map content = ws.map Written.content := by
  induction ws with
  | nil => exact ⟨[], rfl, rfl⟩
  | cons w ws ih =>
      obtain ⟨hletter, hpattern, hafter, hws⟩ := h
      obtain ⟨cs, hcs, hcontent⟩ := ih hws
      have hrest : read (w.after ++ spell ws) = .ok cs := by rw [read_junk hafter, hcs]
      obtain ⟨c, hc, -⟩ := exists_clause (p := w.pattern.map Prod.snd) (by rwa [lettersFor_map])
      have hclause := readClause_eq_ok_iff.2 ⟨w.pattern, hletter, hpattern, rfl, hc⟩
      refine ⟨c :: cs, read_tilde_eq_ok_iff.2 ⟨c, _, cs, hclause, hrest, rfl⟩, ?_⟩
      rw [List.map_cons, List.map_cons, hc, hcontent, Written.content]

/-- What is read follows the grammar. -/
theorem spelled_of_read {t : Text} {cs : List Clause} (h : read t = .ok cs) :
    ∃ junk ws, Spelled t junk ws ∧ cs.map content = ws.map Written.content := by
  -- What follows a clause is any number of characters shorter, so the induction is on the length.
  induction hn : t.length using Nat.strong_induction_on generalizing t cs with
  | _ n ih =>
    subst hn
    cases t with
    | nil =>
        cases h
        exact ⟨[], [], ⟨rfl, by simp, trivial⟩, rfl⟩
    | cons c t =>
        by_cases hc : c = '~'
        · subst hc
          cases t with
          | nil => cases h
          | cons l t =>
              obtain ⟨c, rest, cs', hclause, hread, rfl⟩ := read_tilde_eq_ok_iff.1 h
              have hrest := readClause_length hclause
              obtain ⟨after, ws, hspelled, hcontent⟩ := ih rest.length (by simp; omega) hread rfl
              obtain ⟨m, hmem, hfits, rfl, hc⟩ := readClause_eq_ok_iff.1 hclause
              obtain ⟨rfl, hafter, hws⟩ := hspelled
              refine ⟨[], ⟨l, m, after⟩ :: ws, ⟨rfl, by simp, hmem, hfits, hafter, hws⟩, ?_⟩
              rw [List.map_cons, List.map_cons, hc, hcontent, Written.content]
        · rw [read_plain hc] at h
          obtain ⟨junk, ws, ⟨rfl, hjunk, hws⟩, hcontent⟩ := ih t.length (by simp) h rfl
          refine ⟨c :: junk, ws, ⟨rfl, ?_, hws⟩, hcontent⟩
          simpa [eq_comm] using ⟨hc, hjunk⟩

/-- The text before the first tilde is where the clauses start. -/
theorem takeWhile_spell {junk : Text} (h : '~' ∉ junk) (ws : List Written) :
    (junk ++ spell ws).takeWhile (· != '~') = junk := by
  rw [List.takeWhile_append_of_pos (forall_bne h)]
  cases ws with
  | nil => simp [spell]
  | cons w ws => simp [spell]

theorem junk_unique {junk junk' : Text} {ws ws' : List Written} (h : '~' ∉ junk) (h' : '~' ∉ junk')
    (htext : junk ++ spell ws = junk' ++ spell ws') : junk = junk' ∧ spell ws = spell ws' := by
  have hjunk : junk = junk' := by
    rw [← takeWhile_spell h ws, htext, takeWhile_spell h' ws']
  subst hjunk
  exact ⟨rfl, List.append_cancel_left htext⟩

/-- Clauses are written in one way. -/
theorem spell_unique {ws ws' : List Written} (h : WellFormed ws) (h' : WellFormed ws')
    (htext : spell ws = spell ws') : ws = ws' := by
  induction ws generalizing ws' with
  | nil => cases ws' with
    | nil => rfl
    | cons w' ws' => cases htext
  | cons w ws ih => cases ws' with
    | nil => cases htext
    | cons w' ws' =>
        obtain ⟨l, m, after⟩ := w
        obtain ⟨l', m', after'⟩ := w'
        obtain ⟨-, hfits, hafter, hws⟩ := h
        obtain ⟨-, hfits', hafter', hws'⟩ := h'
        obtain ⟨-, hclause⟩ := List.cons.inj htext
        obtain ⟨rfl, hpattern⟩ := List.cons.inj hclause
        obtain ⟨rfl, hrest⟩ := patternText_unique hfits hfits' hpattern
        obtain ⟨rfl, hspell⟩ := junk_unique hafter hafter' hrest
        rw [ih hws hws' hspell]

theorem Spelled.unique {t junk junk' : Text} {ws ws' : List Written} (h : Spelled t junk ws)
    (h' : Spelled t junk' ws') : junk = junk' ∧ ws = ws' := by
  obtain ⟨hjunk, hspell⟩ := junk_unique h.junk h'.junk (h.text.symm.trans h'.text)
  exact ⟨hjunk, spell_unique h.wellFormed h'.wellFormed hspell⟩

/-- A predicate is read as the clauses that it is spelled with. -/
theorem read_eq_ok_iff {t : Text} {cs : List Clause} :
    read t = .ok cs ↔
      ∃ junk ws, Spelled t junk ws ∧ cs.map content = ws.map Written.content := by
  constructor
  · exact spelled_of_read
  · rintro ⟨junk, ws, ⟨rfl, hjunk, hws⟩, hcontent⟩
    obtain ⟨cs', hread, hcontent'⟩ := read_spell hws
    have hsame : cs'.map content = cs.map content := hcontent'.trans hcontent.symm
    rw [read_junk hjunk, hread, List.map_injective_iff.2 content_injective hsame]

example : (read "it's ~d 'a~b' or~S").toOption =
    some [⟨.isLike .description "a~b", false⟩, ⟨.selected, true⟩] := by decide

end Clause

namespace Predicate

open Clause

variable [Interpreter]

/-- All clauses hold if each one's answer is not the one that it turns around. -/
theorem allHold_eq_true_iff {record : Option Record} {selected : Bool} {cs : List Clause} :
    (allHold record selected cs).outcome = .ok true ↔
      ∀ c ∈ cs, (answer record selected c.question).outcome = .ok (!c.inverted) := by
  induction cs with
  | nil => simp [allHold]
  | cons c cs ih =>
      rw [allHold, Attempt.outcome_bind_eq_ok, List.forall_mem_cons]
      constructor
      · rintro ⟨b, hb, hall⟩
        split at hall
        next => cases hall
        next hne =>
          have hb' : b = !c.inverted := Bool.eq_not_of_ne (by simpa using hne)
          exact ⟨hb' ▸ hb, ih.1 hall⟩
      · rintro ⟨hb, hall⟩
        refine ⟨!c.inverted, hb, ?_⟩
        rw [if_neg (by simp)]
        exact ih.2 hall

theorem holds_of_read {t : Text} {cs : List Clause} (h : read t = .ok cs)
    (record : Option Record) (selected : Bool) :
    holds (some t) record selected = allHold record selected cs := by
  cases t with
  | nil => cases h; rfl
  | cons c t => simp only [holds, h]

theorem holds_of_read_error {t : Text} {e : ClauseFault} (h : read t = .error e)
    (record : Option Record) (selected : Bool) :
    (holds (some t) record selected).outcome = .ok false := by
  cases t with
  | nil => cases h
  | cons c t =>
      simp only [holds, h]
      rfl

/-- A predicate is read as the clauses that it is spelled with, and refused if it cannot be
spelled; it can be spelled in one way at most.  It holds for a task if it is read and all its
clauses hold, each turned around if its letter is in upper case.  If it is refused, it holds for
no task. -/
theorem decides_grammar (t : Text) :
    (∀ cs, read t = .ok cs ↔
        ∃ junk ws, Spelled t junk ws ∧ cs.map content = ws.map Written.content) ∧
      (∀ junk ws junk' ws', Spelled t junk ws → Spelled t junk' ws' → junk = junk' ∧ ws = ws') ∧
      ((¬∃ junk ws, Spelled t junk ws) → ∃ e, read t = .error e) ∧
      ∀ record selected,
        ((holds (some t) record selected).outcome = .ok true ↔
          ∃ cs, read t = .ok cs ∧
            ∀ c ∈ cs, (answer record selected c.question).outcome = .ok (!c.inverted)) ∧
        ((¬∃ junk ws, Spelled t junk ws) →
          (holds (some t) record selected).outcome = .ok false) := by
  have hrefused : (¬∃ junk ws, Spelled t junk ws) → ∃ e, read t = .error e := fun h => by
    cases hread : read t with
    | error e => exact ⟨e, rfl⟩
    | ok cs =>
        obtain ⟨junk, ws, hspelled, -⟩ := read_eq_ok_iff.1 hread
        exact absurd ⟨junk, ws, hspelled⟩ h
  refine ⟨fun cs => read_eq_ok_iff, fun _ _ _ _ h h' => h.unique h', hrefused, ?_⟩
  intro record selected
  constructor
  · cases hread : read t with
    | error e => simp [holds_of_read_error hread]
    | ok cs => simp [holds_of_read hread, allHold_eq_true_iff]
  · intro h
    obtain ⟨e, hread⟩ := hrefused h
    exact holds_of_read_error hread record selected

end Predicate

end TaskBrowser
