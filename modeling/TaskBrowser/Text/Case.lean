import TaskBrowser.Text.CaseTable

/-!
# Letter case

The lower-case and upper-case forms of characters and texts.  A form is a text and not a
character, because a few letters have a form of several characters: the upper-case form of the
German sharp s is two letters, and the lower-case form of the dotted capital I carries its dot as
a combining mark.

`Text.lowerChar` and `Text.upperChar` are the forms of one character as one character, the first
of the full form, which is what case-insensitive comparison works with.
-/

namespace TaskBrowser

namespace Text

/-- A code point after the first shift that applies to it, if any. -/
def shifted : List CaseShift → Nat → Nat
  | [], n => n
  | s :: rest, n =>
      if n < s.first then n
      else if (Stride.mk s.first s.last s.step).contains n then (Int.ofNat n + s.shift).toNat
      else shifted rest n

/-- The lower-case form of a character, as one character. -/
def lowerChar (c : Char) : Char := Char.ofNat (shifted lowerShifts c.toNat)

/-- The upper-case form of a character, as one character. -/
def upperChar (c : Char) : Char := Char.ofNat (shifted upperShifts c.toNat)

/-- The lower-case form of a character. -/
def lowered (c : Char) : Text := if c = '\u0130' then ['i', '\u0307'] else [lowerChar c]

/-- The upper-case form of a character. -/
def uppered (c : Char) : Text :=
  match longUppers.lookup c.toNat with
  | some codes => codes.map Char.ofNat
  | none => [upperChar c]

/-- The lower-case form of a text, letter by letter. -/
def lower (t : Text) : Text := t.flatMap lowered

/-- The upper-case form of a text, letter by letter. -/
def upper (t : Text) : Text := t.flatMap uppered

/-- Whether a character is an upper-case letter. -/
def isUpper (c : Char) : Bool := upperStrides.any (·.contains c.toNat)

example : lower "Blue" = "blue" := by decide
example : lower ['\u212a'] = "k" := by decide
example : upper "stra\u00dfe" = "STRASSE" := by decide
example : isUpper 'S' = true := by decide
example : isUpper 's' = false := by decide

end Text

end TaskBrowser
