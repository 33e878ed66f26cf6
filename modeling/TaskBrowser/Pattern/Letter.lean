import TaskBrowser.Text.Case
import TaskBrowser.Text.Blank
import TaskBrowser.Text.Digit
import TaskBrowser.Text.Word

/-!
# Letters in patterns

A pattern that ignores case takes a character for any of its *variants*: the characters with the
same lower-case form, and those of its *family*, the few lower-case letters that share an
upper-case form, such as the two small sigmas.  The tables of cases answer for all characters; for
the first 128, which make up most patterns, the variants are listed beside them, and the example
at the end compares the two lists where the letters begin and end.

A character also belongs to *kinds*: digits, blanks and word characters, each in the whole
standard or among the first 128 characters only.
-/

namespace TaskBrowser

namespace Pattern

/-- The lower-case letters that share an upper-case form, family by family. -/
def letterFamilies : List (List Nat) := [
  [0x69, 0x131], [0x73, 0x17f], [0xb5, 0x3bc], [0x345, 0x3b9, 0x1fbe], [0x390, 0x1fd3],
  [0x3b0, 0x1fe3], [0x3b2, 0x3d0], [0x3b5, 0x3f5], [0x3b8, 0x3d1], [0x3ba, 0x3f0],
  [0x3c0, 0x3d6], [0x3c1, 0x3f1], [0x3c2, 0x3c3], [0x3c6, 0x3d5], [0x432, 0x1c80],
  [0x434, 0x1c81], [0x43e, 0x1c82], [0x441, 0x1c83], [0x442, 0x1c84, 0x1c85], [0x44a, 0x1c86],
  [0x463, 0x1c87], [0x1c88, 0xa64b], [0x1e61, 0x1e9b], [0xfb05, 0xfb06]]

/-- The lower-case letters that count as one with the given one. -/
def family (n : Nat) : List Nat := (letterFamilies.find? (·.contains n)).getD [n]

/-- The code points whose lower-case form is the given one. -/
def raised (n : Nat) : List Nat :=
  n :: Text.lowerShifts.filterMap fun s =>
    let i := Int.ofNat n - s.shift
    if 0 ≤ i && (Text.Stride.mk s.first s.last s.step).contains i.toNat then some i.toNat else none

/-- The other case of one of the letters A to Z, and any other code point itself. -/
def asciiSwapped (n : Nat) : Nat :=
  if 0x41 ≤ n && n ≤ 0x5a then n + 32 else if 0x61 ≤ n && n ≤ 0x7a then n - 32 else n

/-- The code points that count as one with one of the letters i, k and s, apart from its two
cases. -/
def strayVariants (n : Nat) : List Nat :=
  if n = 0x69 then [0x130, 0x131] else if n = 0x6b then [0x212a] else if n = 0x73 then [0x17f]
  else []

/-- The code points that count as one with one of the first 128 when case is ignored. -/
def asciiVariants (n : Nat) : List Nat :=
  if asciiSwapped n = n then [n]
  else n :: asciiSwapped n :: strayVariants (max n (asciiSwapped n))

/-- The code points that count as one with a code point when case is ignored, by the tables. -/
def tableVariants (c : Char) : List Nat := (family (Text.lowerChar c).toNat).flatMap raised

/-- The code points that count as one with a character when case is ignored. -/
def variants (c : Char) : List Nat :=
  if c.toNat < 0x80 then asciiVariants c.toNat else tableVariants c

/-- How a pattern treats case. -/
inductive Case where
  /-- Every character stands for itself. -/
  | exact
  /-- The case of the letters A to Z is ignored. -/
  | ascii
  /-- Case is ignored. -/
  | folded
deriving DecidableEq, Repr

/-- The code points that a character counts as. -/
def Case.codes (k : Case) (c : Char) : List Nat :=
  match k with
  | .exact => [c.toNat]
  | .ascii => [c.toNat, asciiSwapped c.toNat]
  | .folded => variants c

/-- Whether two characters count as one when a pattern repeats what it has already found. -/
def Case.same (k : Case) (c d : Char) : Bool :=
  match k with
  | .exact => c == d
  | .ascii => c == d || asciiSwapped c.toNat == d.toNat
  | .folded => Text.lowerChar c == Text.lowerChar d

/-- A kind of characters. -/
inductive Kind where
  /-- Decimal digits. -/
  | digit
  /-- Blanks. -/
  | blank
  /-- Letters, digits and the underscore. -/
  | word
deriving DecidableEq, Repr

/-- Whether a character is of a kind, among the first 128 characters only if `ascii`. -/
def Kind.holds (k : Kind) (ascii : Bool) (c : Char) : Bool :=
  if ascii && 0x80 ≤ c.toNat then false
  else
    match k with
    | .digit => Text.isDecimal c
    | .blank => if ascii then c == ' ' || ('\t' ≤ c && c ≤ '\r') else Text.isBlank c
    | .word => Text.isWordChar c

example : (variants 'k').contains 0x212a = true := by decide
example : ("@AIKSZ[aiksz\x7b" : String).toList.all (fun c =>
    (tableVariants c).all (asciiVariants c.toNat).contains &&
      (asciiVariants c.toNat).all (tableVariants c).contains) = true := by
  decide +kernel
example : Case.folded.same 'S' 's' = true := by decide
example : Kind.blank.holds true '\x1c' = false := by decide

end Pattern

end TaskBrowser
