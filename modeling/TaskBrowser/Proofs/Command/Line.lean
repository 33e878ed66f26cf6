import TaskBrowser.Proofs.Effect
import TaskBrowser.Proofs.Text.Separator
import TaskBrowser.Screen.UserAction

/-!
# The command of a line

A command line is a command with its arguments (`Command.ofLine?`), and then it notes itself and
does what the command does, or it is none, and then it fails.  The word of a command and its trimmed
arguments after a space are a line of that command (`Command.ofLine?_name_append`).

What is typed at the filter prompt is the argument of the command `filter`, apart from blanks around
it (`Command.ofLine?_filter`).
-/

namespace TaskBrowser

/-! ## Trimming -/

namespace Text

theorem trimRight_append_blank {c : Char} (hc : isBlank c = true) (t : Text) :
    trimRight (t ++ [c]) = trimRight t := by
  simp [trimRight, dropRightWhile, hc]

theorem trimRight_append_char {c : Char} (hc : isBlank c = false) (t : Text) :
    trimRight (t ++ [c]) = t ++ [c] := by
  simp [trimRight, dropRightWhile, hc]

theorem trimLeft_append_blank {c : Char} (hc : isBlank c = true) (t : Text) :
    trimLeft (t ++ [c]) = trimLeft t ∨ trimLeft (t ++ [c]) = trimLeft t ++ [c] := by
  rw [trimLeft, List.dropWhile_append]
  split
  next hall => exact .inl (by simp_all [trimLeft])
  next => exact .inr rfl

/-- A blank at the end does not count. -/
theorem trim_append_blank {c : Char} (hc : isBlank c = true) (t : Text) :
    trim (t ++ [c]) = trim t := by
  rw [trim]
  rcases trimLeft_append_blank hc t with h | h
  · rw [h, trim]
  · rw [h, trimRight_append_blank hc, trim]

theorem trim_append_blanks {u : Text} (hu : ∀ c ∈ u, isBlank c = true) (t : Text) :
    trim (t ++ u) = trim t := by
  induction u generalizing t with
  | nil => rw [List.append_nil]
  | cons c u ih =>
      rw [List.append_cons, ih (fun d hd => hu d (List.mem_cons_of_mem c hd)),
        trim_append_blank (hu c List.mem_cons_self)]

/-- Blanks around a text do not count. -/
theorem trim_between {u v : Text} (hu : ∀ c ∈ u, isBlank c = true)
    (hv : ∀ c ∈ v, isBlank c = true) (t : Text) : trim (u ++ t ++ v) = trim t := by
  rw [trim_append_blanks hv, trim, trimLeft, List.dropWhile_append_of_pos hu]
  rfl

/-- A text whose ends are no blanks is trimmed. -/
theorem trim_append_char {c d : Char} (hc : isBlank c = false) (hd : isBlank d = false)
    (t : Text) : trim (c :: t ++ [d]) = c :: t ++ [d] := by
  have hleft : trimLeft (c :: t ++ [d]) = c :: t ++ [d] := by simp [trimLeft, hc]
  rw [trim, hleft, trimRight_append_char hd]

theorem trim_eq_self {t : Text} (ht : ∀ c ∈ t, isBlank c = false) : trim t = t := by
  have hleft : trimLeft t = t := by
    rw [trimLeft, List.dropWhile_eq_self_iff]
    intro hlength
    simp [ht]
  have hright : trimRight t = t := by
    rw [trimRight, dropRightWhile, ← List.rdropWhile, List.rdropWhile_eq_self_iff]
    intro hne
    simp [ht]
  rw [trim, hleft, hright]

theorem length_trim_le (t : Text) : (trim t).length ≤ t.length :=
  (List.rdropWhile_prefix isBlank (trimLeft t)).length_le.trans (List.dropWhile_suffix _).length_le

/-- A trimmed text stays as it is after a text that starts with no blank. -/
theorem trim_append_of_trim {c : Char} {u : Text} (hc : isBlank c = false) (hu : trim u = u)
    (hne : u ≠ []) (t : Text) : trim (c :: t ++ u) = c :: t ++ u := by
  obtain ⟨v, d, rfl⟩ := (List.eq_nil_or_concat' u).resolve_left hne
  have hd : isBlank d = false := by
    by_contra hblank
    rw [trim_append_blank (by simpa using hblank)] at hu
    have hlength := length_trim_le v
    rw [hu, List.length_append, List.length_singleton] at hlength
    omega
  rw [← List.append_assoc]
  exact trim_append_char hc hd (t ++ v)

/-- The first character that is no blank is the first of what is left. -/
theorem head?_trim {c : Char} {u : Text} (hu : ∀ c ∈ u, isBlank c = true)
    (hc : isBlank c = false) (t : Text) : (trim (u ++ c :: t)).head? = some c := by
  have hleft : trimLeft (u ++ c :: t) = c :: t := by
    rw [trimLeft, List.dropWhile_append_of_pos hu, List.dropWhile_cons_of_neg (by simp [hc])]
  have hprefix : trimRight (c :: t) <+: c :: t := List.rdropWhile_prefix isBlank (c :: t)
  have hne : trimRight (c :: t) ≠ [] := by
    intro hempty
    have hall := List.rdropWhile_eq_nil_iff.1 hempty c List.mem_cons_self
    exact absurd (hc.symm.trans hall) (by decide)
  obtain ⟨d, s, hcons⟩ := List.exists_cons_of_ne_nil hne
  rw [hcons, List.cons_prefix_cons] at hprefix
  rw [trim, hleft, hcons, hprefix.1]
  rfl

theorem words_eq_cons {t : Text} (ht : ∀ c ∈ t, isBlank c = false) (hne : t ≠ []) :
    ∃ ts, words t = t :: ts := by
  obtain ⟨c, u, rfl⟩ := List.exists_cons_of_ne_nil hne
  have hleft : trimLeft (c :: u) = c :: u := by
    rw [trimLeft, List.dropWhile_cons_of_neg (by simp [ht])]
  have hword : (c :: u).takeWhile (!isBlank ·) = c :: u := by
    rw [List.takeWhile_eq_self_iff]
    simpa using ht
  rw [words, wordsAtMost, List.length_cons, wordsWithin.eq_def]
  dsimp only
  rw [hleft]
  dsimp only
  rw [hword]
  exact ⟨_, rfl⟩

/-- Nothing more is dropped from the start of a text once blanks are dropped from its end. -/
theorem trimLeft_trimRight {t : Text} (h : trimLeft t = t) :
    trimLeft (trimRight t) = trimRight t := by
  have hprefix : trimRight t <+: t := List.rdropWhile_prefix isBlank t
  rw [trimLeft, List.dropWhile_eq_self_iff] at h ⊢
  intro hlength
  have hsame := hprefix.getElem hlength
  simpa only [List.get_eq_getElem, hsame] using h (hlength.trans_le hprefix.length_le)

/-- A trimmed text stays as it is when it is trimmed again. -/
theorem trim_trim (t : Text) : trim (trim t) = trim t := by
  have hleft : trimLeft (trimLeft t) = trimLeft t := List.dropWhile_idempotent _ t
  have hright : trimRight (trimRight (trimLeft t)) = trimRight (trimLeft t) :=
    List.rdropWhile_idempotent isBlank _
  rw [trim, trim, trimLeft_trimRight hleft, hright]

end Text

namespace Command

/-! ## Command lines -/

/-- The command of a line, with its arguments. -/
def ofLine? (line : Text) : Option (Command × Text) :=
  (ofName? (splitSpace (Text.trim line)).1).map (·, Text.trim (splitSpace (Text.trim line)).2)

/-- The note that a line takes of itself. -/
def noteOf (line : Text) : Note := lineNote (Text.trim line) (splitSpace (Text.trim line)).1

/-- A line that has a command notes itself and does what the command does. -/
theorem runLineWith_of_command [Interpreter] [Validator] {sourceFile : Text → Action Text}
    {line args : Text} {c : Command}
    (h : ofLine? line = some (c, args)) (fromFile : Bool) :
    runLineWith sourceFile line fromFile = (do
      Action.note (noteOf line)
      perform sourceFile c args fromFile) := by
  obtain ⟨c', hname, hpair⟩ := Option.map_eq_some_iff.1 h
  obtain ⟨rfl, rfl⟩ := Prod.mk.inj hpair
  have hline : (Text.trim line).isEmpty = false := by
    cases htrim : Text.trim line with
    | nil => rw [htrim] at hname; cases hname
    | cons _ _ => rfl
  rw [runLineWith]
  dsimp only
  rw [hline, if_neg Bool.false_ne_true, hname]
  rfl

/-- A line that has none fails. -/
theorem runLineWith_of_none [Interpreter] [Validator] {sourceFile : Text → Action Text}
    {line : Text}
    (h : ofLine? line = none) (fromFile : Bool) :
    ∃ f, runLineWith sourceFile line fromFile = Action.fail f := by
  rw [runLineWith]
  dsimp only
  split
  · exact ⟨_, rfl⟩
  · rw [Option.map_eq_none_iff.1 h]
    exact ⟨_, rfl⟩

/-- The word of a line ends where the first space stands. -/
theorem fst_splitSpace (t : Text) : (splitSpace t).1 = t.takeWhile (· != ' ') := by
  induction t with
  | nil => rfl
  | cons c t ih =>
      by_cases hc : c = ' '
      · subst hc
        rfl
      · have hlead : Text.dropLead? " " (c :: t) = none := if_neg (Ne.symm hc)
        rw [List.takeWhile_cons_of_pos (by simpa using hc), ← ih, splitSpace, splitSpace,
          Text.splitAt?, hlead]
        cases Text.splitAt? " " t <;> rfl

/-- A word without a space is cut off at the space after it. -/
theorem splitSpace_append {t : Text} (ht : ' ' ∉ t) (u : Text) :
    splitSpace (t ++ ' ' :: u) = (t, u) := by
  have hsplit : Text.splitAt? " " (t ++ ' ' :: u) = some (t, u) := Text.splitAt?_singleton ht u
  rw [splitSpace, hsplit]
  rfl

theorem name_spaceless (c : Command) : c.name.all (· != ' ') = true := by
  cases c <;> rfl

theorem ofName?_name (c : Command) : ofName? c.name = some c := by
  cases c <;> rfl

/-- The word of a command and trimmed arguments are a trimmed line. -/
theorem trim_name_append (c : Command) {args : Text} (hargs : Text.trim args = args)
    (hne : args ≠ []) : Text.trim (c.name ++ ' ' :: args) = c.name ++ ' ' :: args := by
  obtain ⟨d, t, hname, hd⟩ : ∃ d t, c.name = d :: t ∧ Text.isBlank d = false := by
    cases c <;> exact ⟨_, _, rfl, by decide⟩
  rw [List.append_cons, hname]
  exact Text.trim_append_of_trim hd hargs hne (t ++ [' '])

theorem ofLine?_name_append (c : Command) {args : Text} (hargs : Text.trim args = args)
    (hne : args ≠ []) : ofLine? (c.name ++ ' ' :: args) = some (c, args) := by
  have hspace : ' ' ∉ c.name := fun h => by simpa using List.all_eq_true.1 c.name_spaceless ' ' h
  rw [ofLine?, trim_name_append c hargs hne, splitSpace_append hspace, ofName?_name, hargs]
  rfl

/-- A text at the filter prompt is the argument of the command `filter`. -/
theorem ofLine?_filter (value : Text) :
    ofLine? ("filter " ++ value) = some (.filter, Text.trim value) := by
  induction value using List.reverseRecOn with
  | nil => decide
  | append_singleton t c ih =>
      cases hc : Text.isBlank c with
      | true =>
          rw [ofLine?, ← List.append_assoc, Text.trim_append_blank hc, Text.trim_append_blank hc]
          exact ih
      | false =>
          have hf : Text.isBlank 'f' = false := by decide
          have htrim : Text.trim ("filter " ++ (t ++ [c])) = "filter " ++ (t ++ [c]) :=
            Text.trim_append_char hf hc ("ilter " ++ t)
          have hsplit : splitSpace ("filter " ++ (t ++ [c])) = (("filter" : Text), t ++ [c]) := by
            rfl
          rw [ofLine?, htrim, hsplit]
          rfl

end Command

end TaskBrowser
