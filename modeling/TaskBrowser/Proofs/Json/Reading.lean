import TaskBrowser.Json.Reader
import TaskBrowser.Proofs.Template.Parts

/-!
# What follows a value

The reader of values answers what comes after the value.  So a text that is read as a value is read
as the same value when more text follows it, and the text that comes after is longer by that
(`Json.readValue_append`).  The same holds for a text that is given up for a number with too many
digits, which the reader sees before it sees anything else.

More text could go on with a number at the end of the first text, so it has to stop there
(`Json.Stops`).  Nothing here depends on how deep values may nest or on the reader's measure, as
long as there is no less of them.
-/

namespace TaskBrowser

namespace Json

/-! ## Texts that stop -/

/-- A text that does not go on with a number: it is empty, or starts with a blank or with one of the
signs that come after values. -/
def Stops (u : Text) : Prop :=
  ∀ c ∈ u.head?, isGap c = true ∨ c = ',' ∨ c = ']' ∨ c = '\x7d'

theorem Stops.nil : Stops [] := nofun

theorem Stops.cons {c : Char} (u : Text) (h : isGap c = true ∨ c = ',' ∨ c = ']' ∨ c = '\x7d') :
    Stops (c :: u) := by
  intro d hd
  cases hd
  exact h

theorem Stops.gaps {g u : Text} (hg : ∀ c ∈ g, isGap c = true) (hu : Stops u) : Stops (g ++ u) := by
  cases g with
  | nil => exact hu
  | cons c g => exact .cons _ (.inl (hg c List.mem_cons_self))

/-- The first character of a text that stops is no part of a number. -/
theorem Stops.head {c : Char} {u : Text} (h : Stops (c :: u)) :
    Text.isAsciiDigit c = false ∧ c ≠ '.' ∧ c ≠ 'e' ∧ c ≠ 'E' ∧ c ≠ '+' ∧ c ≠ '-' := by
  have hc := h c rfl
  simp only [isGap, Bool.or_eq_true, beq_iff_eq] at hc
  rcases hc with (((rfl | rfl) | rfl) | rfl) | rfl | rfl | rfl <;> decide

/-- Gaps that are skipped end before the text that follows them. -/
theorem skipGaps_append {t : Text} (h : skipGaps t ≠ []) (u : Text) :
    skipGaps (t ++ u) = skipGaps t ++ u := by
  rw [skipGaps, List.dropWhile_append]
  simp [show List.dropWhile isGap t ≠ [] from h, skipGaps]

theorem skipGaps_eq_cons_append {t rest : Text} {c : Char} (h : skipGaps t = c :: rest) (u : Text) :
    skipGaps (t ++ u) = c :: (rest ++ u) := by
  rw [skipGaps_append (by rw [h]; nofun), h, List.cons_append]

theorem skipGaps_gaps_append {g : Text} (hg : ∀ c ∈ g, isGap c = true) (t : Text) :
    skipGaps (g ++ t) = skipGaps t := List.dropWhile_append_of_pos hg

/-! ## Numbers -/

section Numbers

variable {u : Text}

/-- The digits end where they ended. -/
theorem digits_append (hu : Stops u) (t : Text) :
    (t ++ u).takeWhile Text.isAsciiDigit = t.takeWhile Text.isAsciiDigit ∧
      (t ++ u).dropWhile Text.isAsciiDigit = t.dropWhile Text.isAsciiDigit ++ u := by
  induction t with
  | nil =>
      cases u with
      | nil => exact ⟨rfl, rfl⟩
      | cons c u =>
          obtain ⟨hc, -⟩ := hu.head
          constructor
          · simp [hc]
          · simp [hc]
  | cons c t ih =>
      obtain ⟨htake, hdrop⟩ := ih
      cases hc : Text.isAsciiDigit c with
      | true => simp [hc, htake, hdrop]
      | false => simp [hc]

theorem wholeDigits_append (hu : Stops u) {t ds rest : Text}
    (h : wholeDigits t = some (ds, rest)) : wholeDigits (t ++ u) = some (ds, rest ++ u) := by
  cases t with
  | nil => cases h
  | cons c t =>
      by_cases hc : c = '0'
      · subst hc
        cases h
        rfl
      · have hdigits (v : Text) : wholeDigits (c :: v) =
            if (c :: v).takeWhile Text.isAsciiDigit = [] then none
            else some ((c :: v).takeWhile Text.isAsciiDigit,
              (c :: v).dropWhile Text.isAsciiDigit) := by
          unfold wholeDigits
          split
          next _ _ hzero => exact absurd (List.cons.inj hzero).1 hc
          next => cases (c :: v).takeWhile Text.isAsciiDigit <;> rfl
        obtain ⟨htake, hdrop⟩ := digits_append hu (c :: t)
        rw [hdigits] at h
        rw [List.cons_append, hdigits, ← List.cons_append, htake, hdrop]
        split at h
        · cases h
        next hne =>
          cases h
          rw [if_neg hne]

/-- Digits after a point, and what more text leaves of them. -/
theorem fractionDigits_append (hu : Stops u) (t : Text) :
    fractionDigits (t ++ u) = (fractionDigits t).map fun (ds, rest) => (ds, rest ++ u) := by
  cases t with
  | nil =>
      cases u with
      | nil => rfl
      | cons c u =>
          have hc : c ≠ '.' := hu.head.2.1
          rw [List.nil_append, fractionDigits.eq_def]
          simp [hc, fractionDigits]
  | cons c t =>
      obtain ⟨htake, hdrop⟩ := digits_append hu t
      by_cases hc : c = '.'
      · subst hc
        rw [List.cons_append, fractionDigits, fractionDigits, htake, hdrop]
        split <;> rfl
      · rw [List.cons_append, fractionDigits.eq_def, fractionDigits.eq_def]
        simp [hc]

theorem exponentSign_append (hu : Stops u) (t : Text) :
    exponentSign (t ++ u) = ((exponentSign t).1, (exponentSign t).2 ++ u) := by
  cases t with
  | nil =>
      cases u with
      | nil => rfl
      | cons c u =>
          obtain ⟨-, -, -, -, hplus, hminus⟩ := hu.head
          rw [List.nil_append, exponentSign.eq_def]
          simp [hplus, hminus, exponentSign]
  | cons c t =>
      by_cases hminus : c = '-'
      · subst hminus
        rfl
      by_cases hplus : c = '+'
      · subst hplus
        rfl
      rw [List.cons_append, exponentSign.eq_def, exponentSign.eq_def]
      simp [hplus, hminus]

theorem exponent?_append (hu : Stops u) (t : Text) :
    exponent? (t ++ u) = (exponent? t).map fun (x, rest) => (x, rest ++ u) := by
  cases t with
  | nil =>
      cases u with
      | nil => rfl
      | cons c u =>
          obtain ⟨-, -, he, hE, -⟩ := hu.head
          simp [exponent?, he, hE]
  | cons c t =>
      rw [List.cons_append, exponent?, exponent?, exponentSign_append hu]
      obtain ⟨htake, hdrop⟩ := digits_append hu (exponentSign t).2
      dsimp only
      rw [htake, hdrop]
      split
      · split <;> rfl
      · rfl

end Numbers

/-! ## What settles a reading -/

/-- What was read, with more text after it. -/
def withMore (u : Text) (r : Except ReadFault (Json × Text)) : Except ReadFault (Json × Text) :=
  r.map fun (v, rest) => (v, rest ++ u)

/-- A value was read, or a number that has too many digits. -/
def Settled : Except ReadFault (Json × Text) → Prop
  | .ok _ => True
  | .error (.tooManyDigits _) => True
  | .error _ => False

theorem readMagnitude_append {u : Text} (hu : Stops u) {negative : Bool} {t : Text}
    (h : Settled (readMagnitude negative t)) :
    readMagnitude negative (t ++ u) = withMore u (readMagnitude negative t) := by
  rw [readMagnitude] at h
  cases hwhole : wholeDigits t with
  | none =>
      rw [hwhole] at h
      cases h
  | some found =>
      obtain ⟨ds, rest⟩ := found
      simp only [readMagnitude, hwhole, wholeDigits_append hu hwhole, fractionDigits_append hu]
      rcases fractionDigits rest with _ | ⟨places, rest⟩
      · simp only [Option.map_none, Option.getD_none, exponent?_append hu]
        rcases exponent? rest with _ | ⟨x, rest⟩
        · simp only [Option.map_none, Option.isNone_none, Bool.and_self, if_true]
          split <;> rfl
        · rfl
      · simp only [Option.map_some, Option.getD_some, exponent?_append hu]
        rcases exponent? rest with _ | ⟨x, rest⟩ <;> rfl

/-- A number starts with a digit. -/
theorem head_of_readMagnitude {negative : Bool} {t : Text}
    (h : Settled (readMagnitude negative t)) :
    ∃ c rest, t = c :: rest ∧ Text.isAsciiDigit c = true := by
  rw [readMagnitude] at h
  cases t with
  | nil => cases h
  | cons c rest =>
      refine ⟨c, rest, rfl, ?_⟩
      by_contra hc
      have hzero : c ≠ '0' := by
        rintro rfl
        exact hc rfl
      have hnone : wholeDigits (c :: rest) = none := by
        rw [wholeDigits]
        · simp [hc]
        · simpa using hzero
      rw [hnone] at h
      cases h

/-! ## Words and texts -/

section Words

variable {v : Json} {t rest : Text} {words : List (Text × Json)}

theorem head_of_readKeyword (hwords : ∀ k ∈ words, k.1 ≠ [])
    (h : readKeyword t words = some (v, rest)) : ∃ k ∈ words, t.head? = k.1.head? := by
  induction words with
  | nil => cases h
  | cons k words ih =>
      obtain ⟨word, x⟩ := k
      rw [readKeyword] at h
      cases hword : Text.dropLead? word t with
      | some u =>
          refine ⟨(word, x), List.mem_cons_self, ?_⟩
          rw [Text.dropLead?_eq_some hword]
          exact List.head?_append_of_ne_nil _ (hwords (word, x) List.mem_cons_self)
      | none =>
          rw [hword] at h
          obtain ⟨k, hk, hhead⟩ := ih (fun k hk => hwords k (List.mem_cons_of_mem _ hk)) h
          exact ⟨k, List.mem_cons_of_mem _ hk, hhead⟩

/-- A word that starts with another letter than a text does is not at its start. -/
theorem dropLead?_of_head_ne {word : Text} (hword : word ≠ []) (h : t.head? ≠ word.head?) :
    Text.dropLead? word t = none := by
  cases hdrop : Text.dropLead? word t with
  | none => rfl
  | some u =>
      rw [Text.dropLead?_eq_some hdrop] at h
      exact absurd (List.head?_append_of_ne_nil _ hword) h

/-- No two words start with the same letter, so the word that is there stays the one. -/
theorem readKeyword_append (hwords : ∀ k ∈ words, k.1 ≠ [])
    (hheads : (words.map (·.1.head?)).Nodup) (h : readKeyword t words = some (v, rest)) (u : Text) :
    readKeyword (t ++ u) words = some (v, rest ++ u) := by
  induction words with
  | nil => cases h
  | cons k words ih =>
      obtain ⟨word, x⟩ := k
      have hmore : ∀ k ∈ words, k.1 ≠ [] := fun k hk => hwords k (List.mem_cons_of_mem _ hk)
      obtain ⟨hfirst, hheads⟩ := List.nodup_cons.1 hheads
      rw [readKeyword] at h
      cases hword : Text.dropLead? word t with
      | some left =>
          rw [hword] at h
          cases h
          rw [Text.dropLead?_eq_some hword, List.append_assoc, readKeyword, Text.dropLead?_append]
      | none =>
          rw [hword] at h
          obtain ⟨k, hk, hhead⟩ := head_of_readKeyword hmore h
          have hne : t ≠ [] := by
            rintro rfl
            cases hk' : k.1 with
            | nil => exact hmore k hk hk'
            | cons c w => rw [hk'] at hhead; cases hhead
          have hother : (t ++ u).head? ≠ word.head? := by
            rw [List.head?_append_of_ne_nil _ hne, hhead]
            intro heq
            exact hfirst (List.mem_map.2 ⟨k, hk, heq⟩)
          rw [readKeyword, dropLead?_of_head_ne (hwords (word, x) List.mem_cons_self) hother]
          exact ih hmore hheads h

theorem readUnits_append {us : List Nat} (h : readUnits t = some (us, rest)) (u : Text) :
    readUnits (t ++ u) = some (us, rest ++ u) := by
  have hcons {v : Text} {n : Nat} {us : List Nat} {rest : Text}
      (ih : ∀ {rest : Text} {us : List Nat}, readUnits v = some (us, rest) →
        readUnits (v ++ u) = some (us, rest ++ u))
      (h : (readUnits v).map (fun found => (n :: found.1, found.2)) = some (us, rest)) :
      (readUnits (v ++ u)).map (fun found => (n :: found.1, found.2)) = some (us, rest ++ u) := by
    obtain ⟨⟨ns, left⟩, hv, hpair⟩ := Option.map_eq_some_iff.1 h
    cases hpair
    rw [ih hv]
    rfl
  fun_induction readUnits t generalizing us rest with
  | case2 =>
      cases h
      rw [List.cons_append, readUnits.eq_def]
      rfl
  | case5 w x y z t unit hunit _ ih => simpa [readUnits, hunit] using hcons ih h
  | case8 c t hc d hd _ ih =>
      rw [List.cons_append, List.cons_append, readUnits.eq_def]
      simpa [hc, hd] using hcons ih h
  | case10 c t hquote hslash hcontrol ih =>
      rw [List.cons_append, readUnits.eq_def]
      simpa [hquote, hslash, hcontrol] using hcons ih h
  | _ => cases h

theorem readText_append {s : Text} (h : readText t = some (s, rest)) (u : Text) :
    readText (t ++ u) = some (s, rest ++ u) := by
  obtain ⟨⟨us, left⟩, hunits, hpair⟩ := Option.map_eq_some_iff.1 h
  cases hpair
  rw [readText, readUnits_append hunits]
  rfl

end Words

theorem readScalar_of_word {t : Text} {r : Json × Text} (h : readKeyword t keywords = some r) :
    readScalar t = .ok r := by
  rw [readScalar.eq_def, h]

theorem readScalar_negative {t : Text} (h : readKeyword ('-' :: t) keywords = none) :
    readScalar ('-' :: t) = readMagnitude true t := by
  rw [readScalar.eq_def, h]
  rfl

theorem readScalar_positive {t : Text} (h : readKeyword t keywords = none)
    (hminus : t.head? ≠ some '-') : readScalar t = readMagnitude false t := by
  rw [readScalar.eq_def, h]
  dsimp only
  split
  · exact absurd rfl hminus
  · rfl

/-- No word starts with a digit, or with a digit after a minus sign. -/
theorem readKeyword_of_digit {c : Char} (hc : Text.isAsciiDigit c = true) (t : Text) :
    readKeyword (c :: t) keywords = none ∧ readKeyword ('-' :: c :: t) keywords = none := by
  have hne {d : Char} (hd : Text.isAsciiDigit d = false) : d ≠ c := by
    rintro rfl
    exact absurd (hd.symm.trans hc) Bool.false_ne_true
  constructor
  · simp [readKeyword, keywords, Text.dropLead?, hne (d := 'n') rfl, hne (d := 't') rfl,
      hne (d := 'f') rfl, hne (d := 'N') rfl, hne (d := 'I') rfl, hne (d := '-') rfl]
  · simp [readKeyword, keywords, Text.dropLead?, hne (d := 'I') rfl]

theorem readScalar_append {t u : Text} (hu : Stops u) (h : Settled (readScalar t)) :
    readScalar (t ++ u) = withMore u (readScalar t) := by
  cases hword : readKeyword t keywords with
  | some found =>
      obtain ⟨v, rest⟩ := found
      rw [readScalar_of_word hword,
        readScalar_of_word (readKeyword_append (by decide) (by decide) hword u)]
      rfl
  | none =>
      by_cases hminus : t.head? = some '-'
      · obtain ⟨w, rfl⟩ := List.head?_eq_some_iff.1 hminus
        rw [readScalar_negative hword] at h ⊢
        obtain ⟨c, w', rfl, hc⟩ := head_of_readMagnitude h
        obtain ⟨-, hnone⟩ := readKeyword_of_digit hc (w' ++ u)
        exact (readScalar_negative hnone).trans (readMagnitude_append hu h)
      · rw [readScalar_positive hword hminus] at h ⊢
        obtain ⟨c, w, rfl, hc⟩ := head_of_readMagnitude h
        obtain ⟨hnone, -⟩ := readKeyword_of_digit hc (w ++ u)
        exact (readScalar_positive hnone hminus).trans (readMagnitude_append hu h)

/-! ## Values -/

/-- What a reader has read it reads again when more text follows, with no less of its measure and
of the depth. -/
def Extends (u : Text) (measure : Nat)
    (reader : Nat → Nat → Text → Except ReadFault (Json × Text)) : Prop :=
  ∀ depth measure' depth' t, measure ≤ measure' → depth ≤ depth' →
    Settled (reader measure depth t) →
      reader measure' depth' (t ++ u) = withMore u (reader measure depth t)

section Values

variable {u : Text} {measure depth : Nat} {c : Char} {t : Text}

theorem readValue_nil (measure depth : Nat) : ¬Settled (readValue measure depth []) := by
  cases measure with
  | zero => exact id
  | succ measure => exact id

theorem readValue_text (measure depth : Nat) (t : Text) :
    readValue (measure + 1) depth ('"' :: t) =
      match readText t with
      | some (s, rest) => .ok (.text s, rest)
      | none => .error .malformed := rfl

/-- A list begins with its end or with an item. -/
theorem readValue_list (measure depth : Nat) {t rest : Text} (h : skipGaps t = c :: rest) :
    readValue (measure + 1) (depth + 1) ('[' :: t) =
      if c = ']' then .ok (.list [], rest) else readItems measure depth [] (c :: rest) := by
  rw [readValue, h]
  split
  next heq =>
    cases heq
    rfl
  next hne => rw [if_neg (fun hc => hne rest (by rw [hc]))]

/-- An object begins with its end or with a member. -/
theorem readValue_object (measure depth : Nat) {t rest : Text} (h : skipGaps t = c :: rest) :
    readValue (measure + 1) (depth + 1) ('\x7b' :: t) =
      if c = '\x7d' then .ok (.object [], rest) else readMembers measure depth [] (c :: rest) := by
  rw [readValue, h]
  split
  next heq =>
    cases heq
    rfl
  next hne => rw [if_neg (fun hc => hne rest (by rw [hc]))]

theorem readValue_scalar (measure depth : Nat) (hquote : c ≠ '"') (hlist : c ≠ '[')
    (hobject : c ≠ '\x7b') (t : Text) :
    readValue (measure + 1) depth (c :: t) = readScalar (c :: t) := by
  rw [readValue]
  · simpa using hquote
  · simpa using hlist
  · simpa using hobject

/-- After an item a list ends or goes on with another one. -/
theorem readItems_of_value (measure depth : Nat) (items : List Json) {v : Json} {t left rest : Text}
    (h : readValue measure depth t = .ok (v, left)) (hc : skipGaps left = c :: rest) :
    readItems (measure + 1) depth items t =
      if c = ']' then .ok (.list (items ++ [v]), rest)
      else if c = ',' then readItems measure depth (items ++ [v]) (skipGaps rest)
      else .error .malformed := by
  rw [readItems, h]
  dsimp only
  rw [hc]
  split
  next heq =>
    cases heq
    rfl
  next heq =>
    cases heq
    rfl
  next hend hmore =>
    rw [if_neg (fun hc => hend rest (by rw [hc])), if_neg (fun hc => hmore rest (by rw [hc]))]

/-- A reading that settles reads a value first, with something after it, or gives up there. -/
theorem readItems_settled {items : List Json}
    (h : Settled (readItems (measure + 1) depth items t)) :
    (∃ v left c rest, readValue measure depth t = .ok (v, left) ∧ skipGaps left = c :: rest) ∨
      ∃ n, readValue measure depth t = .error (.tooManyDigits n) ∧
        readItems (measure + 1) depth items t = .error (.tooManyDigits n) := by
  rw [readItems] at h ⊢
  rcases hvalue : readValue measure depth t with e | ⟨v, left⟩
  · rw [hvalue] at h
    cases e with
    | tooManyDigits n => exact .inr ⟨n, rfl, rfl⟩
    | _ => cases h
  · rw [hvalue] at h
    cases hgaps : skipGaps left with
    | nil =>
        dsimp only at h
        rw [hgaps] at h
        cases h
    | cons c rest => exact .inl ⟨v, left, c, rest, rfl, hgaps⟩

theorem readItems_nil (measure depth : Nat) (items : List Json) :
    ¬Settled (readItems measure depth items []) := by
  cases measure with
  | zero => exact id
  | succ measure =>
      intro h
      rcases readItems_settled h with ⟨v, left, c, rest, hvalue, -⟩ | ⟨n, hvalue, -⟩
      · exact readValue_nil measure depth (hvalue ▸ trivial)
      · exact readValue_nil measure depth (hvalue ▸ trivial)

/-- After a name and a colon stands the value of a member, and after it the object ends or goes on
with another one. -/
theorem readMembers_of_value (measure depth : Nat) (members : List (Text × Json)) {name : Text}
    {v : Json} {afterName t left rest : Text} (hname : readText t = some (name, afterName))
    {afterColon : Text} (hcolon : skipGaps afterName = ':' :: afterColon)
    (h : readValue measure depth (skipGaps afterColon) = .ok (v, left))
    (hc : skipGaps left = c :: rest) :
    readMembers (measure + 1) depth members ('"' :: t) =
      if c = '\x7d' then .ok (.object (put members name v), rest)
      else if c = ',' then readMembers measure depth (put members name v) (skipGaps rest)
      else .error .malformed := by
  simp only [readMembers, hname, hcolon, h, hc]
  split
  next heq =>
    cases heq
    rfl
  next heq =>
    cases heq
    rfl
  next hend hmore =>
    rw [if_neg (fun hc => hend rest (by rw [hc])), if_neg (fun hc => hmore rest (by rw [hc]))]

theorem readMembers_of_fault (measure depth : Nat) (members : List (Text × Json)) {name : Text}
    {afterName t : Text} (hname : readText t = some (name, afterName)) {afterColon : Text}
    (hcolon : skipGaps afterName = ':' :: afterColon) {e : ReadFault}
    (h : readValue measure depth (skipGaps afterColon) = .error e) :
    readMembers (measure + 1) depth members ('"' :: t) = .error e := by
  simp only [readMembers, hname, hcolon, h]

theorem readMembers_settled {members : List (Text × Json)}
    (h : Settled (readMembers (measure + 1) depth members t)) :
    ∃ t' name afterName afterColon, t = '"' :: t' ∧ readText t' = some (name, afterName) ∧
      skipGaps afterName = ':' :: afterColon ∧
      ((∃ v left c rest, readValue measure depth (skipGaps afterColon) = .ok (v, left) ∧
          skipGaps left = c :: rest) ∨
        ∃ n, readValue measure depth (skipGaps afterColon) = .error (.tooManyDigits n)) := by
  rw [readMembers.eq_def] at h
  dsimp only at h
  split at h
  next t' =>
    cases hname : readText t' with
    | none =>
        rw [hname] at h
        cases h
    | some found =>
        obtain ⟨name, afterName⟩ := found
        rw [hname] at h
        dsimp only at h
        split at h
        next afterColon hcolon =>
          refine ⟨t', name, afterName, afterColon, rfl, hname, hcolon, ?_⟩
          rcases hvalue : readValue measure depth (skipGaps afterColon) with e | ⟨v, left⟩
          · rw [hvalue] at h
            cases e with
            | tooManyDigits n => exact .inr ⟨n, rfl⟩
            | _ => cases h
          · rw [hvalue] at h
            cases hgaps : skipGaps left with
            | nil =>
                dsimp only at h
                rw [hgaps] at h
                cases h
            | cons c rest => exact .inl ⟨v, left, c, rest, rfl, hgaps⟩
        next => cases h
  next => cases h

theorem readMembers_nil (measure depth : Nat) (members : List (Text × Json)) :
    ¬Settled (readMembers measure depth members []) := by
  cases measure with
  | zero => exact id
  | succ measure =>
      intro h
      obtain ⟨t', -, -, -, ht, -⟩ := readMembers_settled h
      cases ht

end Values

section Extending

variable {u : Text} {measure : Nat}

/-- A text that is read as a value has something after its gaps. -/
theorem skipGaps_ne_nil {read : Text → Except ReadFault (Json × Text)} (hnil : ¬Settled (read []))
    {t : Text} (h : Settled (read (skipGaps t))) : skipGaps t ≠ [] := by
  intro hempty
  rw [hempty] at h
  exact hnil h

theorem readValue_extends (hu : Stops u)
    (hitems : ∀ items, Extends u measure (readItems · · items ·))
    (hmembers : ∀ members, Extends u measure (readMembers · · members ·)) :
    Extends u (measure + 1) readValue := by
  intro depth measure' depth' t hmeasure hdepth h
  obtain ⟨measure', rfl⟩ : ∃ k, measure' = k + 1 := ⟨measure' - 1, by omega⟩
  have hmeasure : measure ≤ measure' := by omega
  cases t with
  | nil => exact absurd h (readValue_nil _ _)
  | cons c t =>
      by_cases hquote : c = '"'
      · subst hquote
        rw [List.cons_append, readValue_text, readValue_text] at *
        cases htext : readText t with
        | none =>
            rw [htext] at h
            cases h
        | some found =>
            rw [readText_append htext]
            rfl
      by_cases hlist : c = '['
      · subst hlist
        cases depth with
        | zero => cases h
        | succ depth =>
            obtain ⟨depth', rfl⟩ : ∃ k, depth' = k + 1 := ⟨depth' - 1, by omega⟩
            cases hgaps : skipGaps t with
            | nil =>
                rw [readValue, hgaps] at h
                exact absurd h (readItems_nil measure depth [])
            | cons c rest =>
                rw [readValue_list _ _ hgaps] at h ⊢
                rw [List.cons_append, readValue_list _ _ (skipGaps_eq_cons_append hgaps u)]
                by_cases hend : c = ']'
                · rw [if_pos hend, if_pos hend]
                  rfl
                · rw [if_neg hend] at h ⊢
                  rw [if_neg hend]
                  exact hitems [] depth measure' depth' _ hmeasure (by omega) h
      by_cases hobject : c = '\x7b'
      · subst hobject
        cases depth with
        | zero => cases h
        | succ depth =>
            obtain ⟨depth', rfl⟩ : ∃ k, depth' = k + 1 := ⟨depth' - 1, by omega⟩
            cases hgaps : skipGaps t with
            | nil =>
                rw [readValue, hgaps] at h
                exact absurd h (readMembers_nil measure depth [])
            | cons c rest =>
                rw [readValue_object _ _ hgaps] at h ⊢
                rw [List.cons_append, readValue_object _ _ (skipGaps_eq_cons_append hgaps u)]
                by_cases hend : c = '\x7d'
                · rw [if_pos hend, if_pos hend]
                  rfl
                · rw [if_neg hend] at h ⊢
                  rw [if_neg hend]
                  exact hmembers [] depth measure' depth' _ hmeasure (by omega) h
      rw [readValue_scalar _ _ hquote hlist hobject] at h
      rw [List.cons_append, readValue_scalar _ _ hquote hlist hobject,
        readValue_scalar _ _ hquote hlist hobject]
      exact readScalar_append hu h

theorem readItems_extends (hvalue : Extends u measure readValue)
    (hitems : ∀ items, Extends u measure (readItems · · items ·)) (items : List Json) :
    Extends u (measure + 1) (readItems · · items ·) := by
  intro depth measure' depth' t hmeasure hdepth h
  obtain ⟨measure', rfl⟩ : ∃ k, measure' = k + 1 := ⟨measure' - 1, by omega⟩
  have hmeasure : measure ≤ measure' := by omega
  dsimp only at h ⊢
  rcases readItems_settled h with ⟨v, left, c, rest, hv, hc⟩ | ⟨n, hn, hitem⟩
  · have hv' := hvalue depth measure' depth' t hmeasure hdepth (hv ▸ trivial)
    rw [hv] at hv'
    have hc' := skipGaps_eq_cons_append hc u
    rw [readItems_of_value _ _ _ hv hc] at h ⊢
    rw [readItems_of_value _ _ _ hv' hc']
    by_cases hend : c = ']'
    · rw [if_pos hend, if_pos hend]
      rfl
    by_cases hmore : c = ','
    · rw [if_neg hend, if_pos hmore] at h ⊢
      rw [if_neg hend, if_pos hmore]
      have hrest := skipGaps_ne_nil (readItems_nil measure depth _) h
      rw [skipGaps_append hrest]
      exact hitems _ depth measure' depth' _ hmeasure hdepth h
    · rw [if_neg hend, if_neg hmore] at h
      cases h
  · have hn' := hvalue depth measure' depth' t hmeasure hdepth (hn ▸ trivial)
    rw [hn] at hn'
    rw [hitem, readItems, hn']
    rfl

theorem readMembers_extends (hvalue : Extends u measure readValue)
    (hmembers : ∀ members, Extends u measure (readMembers · · members ·))
    (members : List (Text × Json)) : Extends u (measure + 1) (readMembers · · members ·) := by
  intro depth measure' depth' t hmeasure hdepth h
  obtain ⟨measure', rfl⟩ : ∃ k, measure' = k + 1 := ⟨measure' - 1, by omega⟩
  have hmeasure : measure ≤ measure' := by omega
  dsimp only at h ⊢
  obtain ⟨t, name, afterName, afterColon, rfl, hname, hcolon, hread⟩ := readMembers_settled h
  have hname' := readText_append hname u
  have hcolon' := skipGaps_eq_cons_append hcolon u
  have hsettled : Settled (readValue measure depth (skipGaps afterColon)) := by
    rcases hread with ⟨v, left, c, rest, hv, -⟩ | ⟨n, hn⟩
    · exact hv ▸ trivial
    · exact hn ▸ trivial
  have hafter := skipGaps_append (skipGaps_ne_nil (readValue_nil measure depth) hsettled) u
  have hvalue' := hvalue depth measure' depth' _ hmeasure hdepth hsettled
  rw [← hafter] at hvalue'
  rw [List.cons_append]
  rcases hread with ⟨v, left, c, rest, hv, hc⟩ | ⟨n, hn⟩
  · rw [hv] at hvalue'
    have hc' := skipGaps_eq_cons_append hc u
    rw [readMembers_of_value _ _ _ hname hcolon hv hc] at h ⊢
    rw [readMembers_of_value _ _ _ hname' hcolon' hvalue' hc']
    by_cases hend : c = '\x7d'
    · rw [if_pos hend, if_pos hend]
      rfl
    by_cases hmore : c = ','
    · rw [if_neg hend, if_pos hmore] at h ⊢
      rw [if_neg hend, if_pos hmore]
      have hrest := skipGaps_ne_nil (readMembers_nil measure depth _) h
      rw [skipGaps_append hrest]
      exact hmembers _ depth measure' depth' _ hmeasure hdepth h
    · rw [if_neg hend, if_neg hmore] at h
      cases h
  · rw [hn] at hvalue'
    rw [readMembers_of_fault _ _ _ hname hcolon hn,
      readMembers_of_fault _ _ _ hname' hcolon' hvalue']
    rfl

/-- The readers of values, of items and of members go on as they did when more text follows. -/
theorem readers_extend (hu : Stops u) (measure : Nat) :
    Extends u measure readValue ∧ (∀ items, Extends u measure (readItems · · items ·)) ∧
      ∀ members, Extends u measure (readMembers · · members ·) := by
  induction measure with
  | zero =>
      refine ⟨?_, fun items => ?_, fun members => ?_⟩ <;>
        exact fun _ _ _ _ _ _ h => absurd h id
  | succ measure ih =>
      obtain ⟨hvalue, hitems, hmembers⟩ := ih
      exact ⟨readValue_extends hu hitems hmembers, readItems_extends hvalue hitems,
        readMembers_extends hvalue hmembers⟩

end Extending

/-- A text that is read as a value, or is given up for the digits of a number in it, is so read
when more text follows, which is then what comes after the value. -/
theorem readValue_append {u : Text} (hu : Stops u) {measure measure' depth depth' : Nat} {t : Text}
    (hmeasure : measure ≤ measure') (hdepth : depth ≤ depth')
    (h : Settled (readValue measure depth t)) :
    readValue measure' depth' (t ++ u) = withMore u (readValue measure depth t) :=
  (readers_extend hu measure).1 depth measure' depth' t hmeasure hdepth h

end Json

end TaskBrowser
