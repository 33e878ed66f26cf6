import Mathlib
import TaskBrowser.Screen.Toolkit

/-!
# Rows below each other

A styled text is put together from rows, each on a line of its own, by whatever toolkit.  A row that
is no more than one line, of characters that the toolkit does not drop, is `OneLine`.

A line feed in a row begins another line, characters that are dropped make its line shorter, and a
row of which nothing is left has no line at all as long as there is none before it (`text_rows`).
So the lines of the text are the rows if each of them is one line, and not otherwise
(`splitOn_text_rows_iff`); then each style stands where its row does (`spans_rows`).
-/

namespace TaskBrowser

namespace Text

variable {sep : Text}

theorem join_eq_intercalate (sep : Text) : ∀ ts : List Text, join sep ts = sep.intercalate ts
  | [] => List.intercalate_nil.symm
  | [_] => List.intercalate_singleton.symm
  | t :: u :: ts => by
      rw [join, join_eq_intercalate sep (u :: ts), List.intercalate_cons_cons]

/-- Two texts with the separator between them can be joined before the others. -/
theorem join_append_cons (t u : Text) (ts : List Text) :
    join sep ((t ++ sep ++ u) :: ts) = join sep (t :: u :: ts) := by
  cases ts with
  | nil => rfl
  | cons v vs => simp only [join, List.append_assoc]

/-- What stands between the occurrences of a character is without it, and found in the text. -/
theorem of_mem_splitOn {c : Char} {t u : Text} (h : u ∈ t.splitOn c) : c ∉ u ∧ u ⊆ t := by
  induction t generalizing u with
  | nil =>
      rw [List.splitOn_nil, List.mem_singleton] at h
      subst h
      exact ⟨List.not_mem_nil, List.nil_subset _⟩
  | cons d t ih =>
      rw [List.splitOn_cons_eq_if_modifyHead] at h
      split at h
      next =>
        rcases List.mem_cons.1 h with rfl | h
        · exact ⟨List.not_mem_nil, List.nil_subset _⟩
        · exact ⟨(ih h).1, List.subset_cons_of_subset d (ih h).2⟩
      next hne =>
        obtain ⟨v, vs, hsplit⟩ := List.exists_cons_of_ne_nil (List.splitOn_ne_nil c t)
        rw [hsplit] at h ih
        rw [List.modifyHead_cons] at h
        rcases List.mem_cons.1 h with rfl | h
        · obtain ⟨hv, hsubset⟩ := ih List.mem_cons_self
          have hcd : c ≠ d := fun hcd => hne (beq_iff_eq.2 hcd.symm)
          exact ⟨List.not_mem_cons_of_ne_of_not_mem hcd hv, List.cons_subset_cons d hsubset⟩
        · obtain ⟨hu, hsubset⟩ := ih (List.mem_cons_of_mem v h)
          exact ⟨hu, List.subset_cons_of_subset d hsubset⟩

end Text

namespace StyledText

/-- A text in a style. -/
structure Row where
  /-- The text. -/
  line : Text
  /-- The style. -/
  style : Style
deriving DecidableEq

/-- The span of a row of a width, given how many rows of this width there are before it. -/
def Row.span? (row : Row) (width before : Nat) : Option StyledSpan :=
  if row.style.isPlain then none
  else some ⟨before * (width + 1), before * (width + 1) + width, row.style⟩

variable [Toolkit]

/-- The characters of a text that are not dropped. -/
def visible (t : Text) : Text := t.filter (!Toolkit.drops ·)

/-- A text of one line, of which nothing is dropped. -/
def OneLine (t : Text) : Prop := ∀ c ∈ t, c ≠ '\n' ∧ Toolkit.drops c = false

/-- The text followed by rows, each on a line of its own. -/
def appendRows (s : StyledText) (rows : List Row) : StyledText :=
  rows.foldl (fun s row => s.appendLine row.line row.style) s

/-- Rows below each other. -/
def ofRows (rows : List Row) : StyledText := appendRows (Toolkit.ofText [] {}) rows

variable {s : StyledText} {t : Text} {style : Style} {row : Row} {rows : List Row} {width : Nat}

theorem OneLine.visible_eq (h : OneLine t) : visible t = t := by
  refine List.filter_eq_self.2 fun c hc => ?_
  rw [(h c hc).2]
  rfl

/-! ## The characters -/

theorem visible_lineFeed : visible ['\n'] = ['\n'] := by simp [visible, Toolkit.drops_lineFeed]

theorem text_ofText_nil (style : Style) : (Toolkit.ofText [] style).text = [] :=
  Toolkit.ofText_text [] style

/-- The text with a line begun below it, unless it is empty. -/
def nextLine (s : StyledText) : StyledText :=
  if Toolkit.holds s then Toolkit.append s ['\n'] {} else s

theorem nextLine_of_ne_nil (h : s.text ≠ []) : s.nextLine = Toolkit.append s ['\n'] {} := by
  rw [nextLine, Toolkit.holds_eq, if_pos (by simpa using h)]

theorem nextLine_of_eq_nil (h : s.text = []) : s.nextLine = s := by
  rw [nextLine, Toolkit.holds_eq, h]
  rfl

theorem text_nextLine (s : StyledText) :
    s.nextLine.text = if s.text.isEmpty then [] else s.text ++ ['\n'] := by
  by_cases h : s.text = []
  · rw [nextLine_of_eq_nil h, h]
    rfl
  · rw [nextLine_of_ne_nil h, Toolkit.append_text, ← visible, visible_lineFeed,
      if_neg (by simpa using h)]

theorem text_appendLine (s : StyledText) (t : Text) (style : Style) :
    (s.appendLine t style).text =
      if s.text.isEmpty then visible t else s.text ++ ['\n'] ++ visible t := by
  have happend : (s.appendLine t style).text = s.nextLine.text ++ visible t :=
    Toolkit.append_text s.nextLine t style
  rw [happend, text_nextLine]
  split <;> rfl

/-- Below a text that is not empty there is a line for each row. -/
theorem text_appendRows_of_ne_nil (hs : s.text ≠ []) (rows : List Row) :
    (s.appendRows rows).text = Text.join ['\n'] (s.text :: rows.map (visible ·.line)) := by
  induction rows generalizing s with
  | nil => rfl
  | cons row rows ih =>
      have htext : (s.appendLine row.line row.style).text =
          s.text ++ ['\n'] ++ visible row.line := by
        rw [text_appendLine, if_neg (by simpa using hs)]
      rw [appendRows, List.foldl_cons, ← appendRows, ih (by simp [htext]), htext,
        Text.join_append_cons, List.map_cons]

/-- Rows below each other are lines, but for those at the start of which nothing is shown. -/
theorem text_rows (rows : List Row) :
    (ofRows rows).text = Text.join ['\n'] ((rows.map (visible ·.line)).dropWhile List.isEmpty) := by
  have hempty {s : StyledText} (hs : s.text = []) :
      (s.appendRows rows).text =
        Text.join ['\n'] ((rows.map (visible ·.line)).dropWhile List.isEmpty) := by
    induction rows generalizing s with
    | nil => exact hs
    | cons row rows ih =>
        have htext : (s.appendLine row.line row.style).text = visible row.line := by
          rw [text_appendLine, hs]
          rfl
        rw [appendRows, List.foldl_cons, ← appendRows, List.map_cons, List.dropWhile_cons]
        by_cases hrow : visible row.line = []
        · rw [ih (htext.trans hrow), hrow]
          rfl
        · rw [text_appendRows_of_ne_nil (htext ▸ hrow), htext, if_neg (by simpa using hrow)]
  exact hempty (text_ofText_nil {})

/-- Nothing that is in the text is dropped. -/
theorem drops_of_mem_text {c : Char} (h : c ∈ (ofRows rows).text) : Toolkit.drops c = false := by
  have hvisible {c : Char} {t : Text} (h : c ∈ visible t) : Toolkit.drops c = false := by
    simpa using (List.mem_filter.1 h).2
  have hrows {s : StyledText} (hs : ∀ c ∈ s.text, Toolkit.drops c = false) :
      ∀ c ∈ (s.appendRows rows).text, Toolkit.drops c = false := by
    clear h
    induction rows generalizing s with
    | nil => exact hs
    | cons row rows ih =>
        refine ih ?_
        rw [text_appendLine]
        split
        · exact fun c => hvisible
        · refine List.forall_mem_append.2 ⟨List.forall_mem_append.2 ⟨hs, ?_⟩, fun c => hvisible⟩
          exact List.forall_mem_singleton.2 Toolkit.drops_lineFeed
  refine hrows ?_ c h
  rw [text_ofText_nil]
  exact List.forall_mem_nil _

/-- The lines of the text are the rows if each of them is one line, and not otherwise. -/
theorem splitOn_text_rows_iff (hrows : rows ≠ []) (hlines : ∀ row ∈ rows, row.line ≠ []) :
    (ofRows rows).text.splitOn '\n' = rows.map (·.line) ↔ ∀ row ∈ rows, OneLine row.line := by
  constructor
  · intro h row hrow c hc
    obtain ⟨hfeed, hsubset⟩ :=
      Text.of_mem_splitOn (h ▸ List.mem_map_of_mem hrow : row.line ∈ _)
    exact ⟨fun hcfeed => hfeed (hcfeed ▸ hc), drops_of_mem_text (hsubset hc)⟩
  · intro h
    have hvisible : rows.map (visible ·.line) = rows.map (·.line) :=
      List.map_congr_left fun row hrow => (h row hrow).visible_eq
    have hfirst : (rows.map (·.line)).dropWhile List.isEmpty = rows.map (·.line) := by
      cases rows with
      | nil => rfl
      | cons row rows =>
          refine List.dropWhile_cons_of_neg ?_
          simpa using hlines row List.mem_cons_self
    rw [text_rows, hvisible, hfirst, Text.join_eq_intercalate]
    refine List.splitOn_intercalate '\n' ?_ (by simpa using hrows)
    intro line hline hfeed
    obtain ⟨row, hrow, rfl⟩ := List.mem_map.1 hline
    exact (h row hrow '\n' hfeed).1 rfl

/-! ## The styles -/

theorem spans_append (s : StyledText) (ht : t ≠ []) (style : Style) :
    (Toolkit.append s t style).spans =
      s.spans ++ if style.isPlain then []
        else [⟨s.text.length, s.text.length + (visible t).length, style⟩] :=
  Toolkit.append_spans s ht style

theorem spans_nextLine (s : StyledText) : s.nextLine.spans = s.spans := by
  rw [nextLine]
  split
  · exact (spans_append s (List.cons_ne_nil _ _) {}).trans (List.append_nil _)
  · rfl

theorem length_nextLine (h : s.text ≠ []) : s.nextLine.text.length = s.text.length + 1 := by
  rw [text_nextLine, if_neg (by simpa using h)]
  exact List.length_append

section Lines

variable {before : Nat} (hline : OneLine row.line) (hlength : row.line.length = width)
  (hwidth : 0 < width) (hbefore : s.nextLine.text.length = before * (width + 1))

include hline hlength hwidth hbefore

/-- The span of a row begins after the rows before it and their line feeds. -/
theorem spans_appendLine :
    (s.appendLine row.line row.style).spans = s.spans ++ (row.span? width before).toList := by
  have hne : row.line ≠ [] := List.ne_nil_of_length_pos (hlength ▸ hwidth)
  have happend : (s.appendLine row.line row.style).spans = _ :=
    spans_append s.nextLine hne row.style
  rw [happend, spans_nextLine, hline.visible_eq, hlength, hbefore, Row.span?]
  cases row.style.isPlain <;> rfl

/-- There is one row more before the next. -/
theorem length_nextLine_appendLine :
    (s.appendLine row.line row.style).nextLine.text.length = (before + 1) * (width + 1) := by
  have htext : (s.appendLine row.line row.style).text = s.nextLine.text ++ row.line :=
    (Toolkit.append_text s.nextLine _ _).trans (congrArg (s.nextLine.text ++ ·) hline.visible_eq)
  have hne : row.line ≠ [] := List.ne_nil_of_length_pos (hlength ▸ hwidth)
  rw [length_nextLine (by simp [htext, hne]), htext, List.length_append, hbefore, hlength,
    Nat.add_assoc, ← Nat.succ_mul]

end Lines

/-- The style of a row stands at the characters of the row. -/
theorem spans_rows (hlines : ∀ row ∈ rows, OneLine row.line)
    (hlength : ∀ row ∈ rows, row.line.length = width) (hwidth : 0 < width) :
    (ofRows rows).spans = rows.zipIdx.filterMap fun (row, before) => row.span? width before := by
  have happend {s : StyledText} {before : Nat}
      (hbefore : s.nextLine.text.length = before * (width + 1)) :
      (s.appendRows rows).spans =
        s.spans ++ (rows.zipIdx before).filterMap fun (row, n) => row.span? width n := by
    induction rows generalizing s before with
    | nil => exact (List.append_nil _).symm
    | cons row rows ih =>
        obtain ⟨hline, hlines⟩ := List.forall_mem_cons.1 hlines
        obtain ⟨hlength, hlengths⟩ := List.forall_mem_cons.1 hlength
        rw [appendRows, List.foldl_cons, ← appendRows,
          ih hlines hlengths (length_nextLine_appendLine hline hlength hwidth hbefore),
          spans_appendLine hline hlength hwidth hbefore, List.append_assoc, List.zipIdx_cons,
          List.filterMap_cons]
        dsimp only
        cases row.span? width before <;> rfl
  have hstart : (Toolkit.ofText [] {}).nextLine.text.length = 0 * (width + 1) := by
    rw [nextLine_of_eq_nil (text_ofText_nil {}), text_ofText_nil, Nat.zero_mul]
    rfl
  rw [ofRows, happend hstart, Toolkit.ofText_spans, List.nil_append]

end StyledText

end TaskBrowser
