import Mathlib
import TaskBrowser.Text.Blank

/-!
# Lines and ends of texts

Texts in which no line ends are the lines of the text that has a line feed between each two of them
(`Text.lines_join`), and of every text in which each of them is followed by what ends a line
(`Text.lines_eq_iff`).  What is dropped at the end of a text does not depend on what comes before
the last character that stays (`Text.trimRight_append`).
-/

namespace TaskBrowser

namespace Text

/-! ## Ends -/

variable {p : Char → Bool} {c : Char} {t u : Text}

theorem dropRightWhile_append_of_pos (hu : ∀ c ∈ u, p c = true) (t : Text) :
    dropRightWhile p (t ++ u) = dropRightWhile p t := by
  rw [dropRightWhile, List.reverse_append, List.dropWhile_append_of_pos]
  · rfl
  · simpa using hu

theorem dropRightWhile_append_char (hc : p c = false) (t : Text) :
    dropRightWhile p (t ++ [c]) = t ++ [c] :=
  List.rdropWhile_concat_neg p t c (by simp [hc])

/-- A text keeps all that comes before what it keeps of its end. -/
theorem trimRight_append (hu : trimRight u ≠ []) (t : Text) :
    trimRight (t ++ u) = t ++ trimRight u := by
  have hdrop : u.reverse.dropWhile isBlank ≠ [] := by
    intro hempty
    rw [trimRight, dropRightWhile, hempty] at hu
    exact hu rfl
  simp [trimRight, dropRightWhile, List.dropWhile_append, hdrop]

/-! ## Lines -/

/-- A character ends its line or is part of it, apart from a carriage return before a line feed. -/
theorem linesFrom_cons (hc : c = '\r' → t.head? ≠ some '\n') (acc : Text) :
    linesFrom acc (c :: t) =
      if endsLine c then acc.reverse :: linesFrom [] t else linesFrom (c :: acc) t := by
  rw [linesFrom.eq_def]
  split
  next heq => cases heq
  next heq =>
    obtain ⟨hreturn, hfeed⟩ := List.cons.inj heq
    exact absurd (congrArg List.head? hfeed) (hc hreturn)
  next heq =>
    cases heq
    rfl

theorem linesFrom_append (ht : ∀ c ∈ t, endsLine c = false) (acc u : Text) :
    linesFrom acc (t ++ u) = linesFrom (t.reverse ++ acc) u := by
  induction t generalizing acc with
  | nil => rfl
  | cons c t ih =>
      have hc : endsLine c = false := ht c List.mem_cons_self
      have hreturn : c = '\r' → (t ++ u).head? ≠ some '\n' := by
        rintro rfl
        exact absurd hc (by decide)
      rw [List.cons_append, linesFrom_cons hreturn, if_neg (hc ▸ Bool.false_ne_true),
        ih (fun d hd => ht d (List.mem_cons_of_mem c hd)), List.reverse_cons, List.append_assoc]
      rfl

/-- What ends a line: a character that does so by itself, or a carriage return and a line feed. -/
inductive EndsLine : Text → Prop where
  | single {c : Char} (hc : endsLine c = true) : EndsLine [c]
  | returnFeed : EndsLine ['\r', '\n']

/-- A line is cut off with its end, unless the end is a carriage return before a line feed. -/
theorem lines_end {e : Text} (ht : ∀ c ∈ t, endsLine c = false) (he : EndsLine e)
    (hapart : e = ['\r'] → u.head? ≠ some '\n') : lines (t ++ e ++ u) = t :: lines u := by
  have hcut : linesFrom t.reverse (e ++ u) = t :: lines u := by
    cases he with
    | single hc =>
        rw [List.singleton_append, linesFrom_cons fun h => hapart (by rw [h]), if_pos hc,
          List.reverse_reverse, lines]
    | returnFeed =>
        show t.reverse.reverse :: linesFrom [] u = t :: lines u
        rw [List.reverse_reverse, lines]
  rw [lines, List.append_assoc, linesFrom_append ht, List.append_nil, hcut]

theorem lines_feed (ht : ∀ c ∈ t, endsLine c = false) (u : Text) :
    lines (t ++ '\n' :: u) = t :: lines u := by
  have hfeed : EndsLine ['\n'] := .single (by decide)
  rw [List.append_cons]
  exact lines_end ht hfeed fun h => absurd h (by decide)

theorem lines_last (ht : ∀ c ∈ t, endsLine c = false) (hne : t ≠ []) : lines t = [t] := by
  have h := linesFrom_append ht [] []
  rw [List.append_nil, List.append_nil] at h
  rw [lines, h, linesFrom.eq_def]
  simp [hne]

/-- Texts in which no line ends are read back line by line. -/
theorem lines_join {ts : List Text} (hts : ∀ t ∈ ts, t ≠ [] ∧ ∀ c ∈ t, endsLine c = false) :
    lines (join ['\n'] ts) = ts := by
  induction ts with
  | nil => rfl
  | cons t ts ih =>
      obtain ⟨hne, ht⟩ := hts t List.mem_cons_self
      have hmore := ih fun u hu => hts u (List.mem_cons_of_mem t hu)
      cases ts with
      | nil => exact lines_last ht hne
      | cons u us =>
          rw [join, List.append_assoc, List.singleton_append, lines_feed ht, hmore]

/-- A text is made of lines, each with its end after it; the last one may have none, unless it is
empty.  A carriage return that ends a line by itself has no line feed after it, for the two would
end the line together. -/
inductive MadeOf : Text → List Text → Prop where
  | nothing : MadeOf [] []
  | last {t : Text} (ht : ∀ c ∈ t, endsLine c = false) (hne : t ≠ []) : MadeOf t [t]
  | line {t e u : Text} {ls : List Text} (ht : ∀ c ∈ t, endsLine c = false) (he : EndsLine e)
      (hapart : e = ['\r'] → u.head? ≠ some '\n') (hu : MadeOf u ls) :
      MadeOf (t ++ e ++ u) (t :: ls)

theorem lines_of_madeOf {ls : List Text} (h : MadeOf t ls) : lines t = ls := by
  induction h with
  | nothing => rfl
  | last ht hne => exact lines_last ht hne
  | line ht he hapart _ ih => rw [lines_end ht he hapart, ih]

/-- A text is made of its lines, where its first line starts with what has been read of it. -/
theorem madeOf_linesFrom (acc t : Text) (hacc : ∀ c ∈ acc, endsLine c = false) :
    MadeOf (acc.reverse ++ t) (linesFrom acc t) := by
  have hread {acc : Text} (h : ∀ c ∈ acc, endsLine c = false) :
      ∀ c ∈ acc.reverse, endsLine c = false := fun c hc => h c (List.mem_reverse.1 hc)
  fun_induction linesFrom acc t with
  | case1 acc hempty =>
      obtain rfl : acc = [] := by simpa using hempty
      exact .nothing
  | case2 acc hsome =>
      rw [List.append_nil]
      exact .last (hread hacc) (by simpa using hsome)
  | case3 acc t ih =>
      rw [List.append_cons, List.append_cons, List.append_assoc acc.reverse]
      exact .line (hread hacc) .returnFeed (fun h => absurd h (by decide))
        (ih (List.forall_mem_nil _))
  | case4 acc c t hapart hc ih =>
      rw [List.append_cons]
      refine .line (hread hacc) (.single hc) ?_ (ih (List.forall_mem_nil _))
      intro hreturn hfeed
      obtain ⟨u, rfl⟩ := List.head?_eq_some_iff.1 hfeed
      exact hapart u (List.singleton_inj.1 hreturn) rfl
  | case5 acc c t _ hc ih =>
      have hmore : ∀ d ∈ c :: acc, endsLine d = false :=
        List.forall_mem_cons.2 ⟨by simpa using hc, hacc⟩
      rw [List.append_cons, ← List.reverse_cons]
      exact ih hmore

/-- A text is made of its lines, and of no others. -/
theorem lines_eq_iff {ls : List Text} : lines t = ls ↔ MadeOf t ls := by
  refine ⟨?_, lines_of_madeOf⟩
  rintro rfl
  exact madeOf_linesFrom [] t (List.forall_mem_nil _)

end Text

end TaskBrowser
