import TaskBrowser.Text.Class

/-!
# Blanks, words and lines

A *blank* is a character that the standard counts as white space.  Trimming drops blanks at the
ends of a text; words are the runs between blanks.  A text ends a line at a line feed, a carriage
return, the two together, and at eight further characters that separate lines, sections or pages.

`Text.words` is `Text.wordsAtMost` without a bound: the bounded form keeps what follows the last
word it may cut as one piece.
-/

namespace TaskBrowser

namespace Text

/-! ## Blanks -/

/-- Where white space begins and ends. -/
def blankRuns : List Nat := [
  0x9, 0xe, 0x1c, 0x21, 0x85, 0x86, 0xa0, 0xa1, 0x1680, 0x1681, 0x2000, 0x200b, 0x2028, 0x202a,
  0x202f, 0x2030, 0x205f, 0x2060, 0x3000, 0x3001]

/-- Whether a character is white space. -/
def isBlank (c : Char) : Bool := inRuns blankRuns c.toNat

/-- The text without blanks at its start. -/
def trimLeft (t : Text) : Text := t.dropWhile isBlank

/-- The text without blanks at its end. -/
def trimRight (t : Text) : Text := dropRightWhile isBlank t

/-- The text without blanks at its ends. -/
def trim (t : Text) : Text := trimRight (trimLeft t)

/-! ## Words -/

/-- The words of a text, the last piece running to the end once `n` words are cut.  The measure
bounds the words by the characters left. -/
def wordsWithin : (measure : Nat) → (n : Nat) → Text → List Text
  | 0, _, _ => []
  | measure + 1, n, t =>
      match trimLeft t, n with
      | [], _ => []
      | u, 0 => [u]
      | u, n + 1 =>
          u.takeWhile (!isBlank ·) :: wordsWithin measure n (u.dropWhile (!isBlank ·))

/-- The words of a text; after `n` words, what is left is one last piece. -/
def wordsAtMost (n : Nat) (t : Text) : List Text := wordsWithin (t.length + 1) n t

/-- The words of a text. -/
def words (t : Text) : List Text := wordsAtMost t.length t

/-! ## Lines -/

/-- Whether a character ends a line by itself. -/
def endsLine (c : Char) : Bool :=
  c == '\n' || c == '\r' || c == '\x0b' || c == '\x0c' || c == '\x1c' || c == '\x1d' ||
    c == '\x1e' || c == '\u0085' || c == '\u2028' || c == '\u2029'

/-- The lines of a text whose first line starts with the reverse of `acc`. -/
def linesFrom (acc : Text) : Text → List Text
  | [] => if acc.isEmpty then [] else [acc.reverse]
  | '\r' :: '\n' :: t => acc.reverse :: linesFrom [] t
  | c :: t => if endsLine c then acc.reverse :: linesFrom [] t else linesFrom (c :: acc) t

/-- The lines of a text, without the characters that end them. -/
def lines (t : Text) : List Text := linesFrom [] t

example : trim " \t a b\n" = "a b" := by decide
example : words " a  bc\td " = (["a", "bc", "d"] : List Text) := by decide
example : wordsAtMost 1 " a  bc\td " = (["a", "bc\td "] : List Text) := by decide
example : lines "a\r\nb\n\nc\x0cd\n" = (["a", "b", "", "c", "d"] : List Text) := by decide

end Text

end TaskBrowser
