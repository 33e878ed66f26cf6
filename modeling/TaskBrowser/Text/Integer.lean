import TaskBrowser.Text.Blank
import TaskBrowser.Text.Digit

/-!
# Reading whole numbers

A whole number is a run of decimal digits of any script, with single underscores allowed between
two digits, after an optional sign; blanks around it are ignored.  A number of more than
`Text.digitLimit` digits is refused, because turning such a text into a number takes time
quadratic in its length.
-/

namespace TaskBrowser

namespace Text

/-- Why a text is not read as a whole number. -/
inductive IntegerFault where
  /-- The text is not a whole number. -/
  | malformed
  /-- The number has too many digits. -/
  | tooLong (digits : Nat)
deriving DecidableEq, Repr

/-- The greatest number of digits that is read. -/
def digitLimit : Nat := 4300

/-- Whether a character may stand around a whole number. -/
def isNumberBlank (c : Char) : Bool :=
  if c.toNat < 0x80 then c == ' ' || ('\t' ≤ c && c ≤ '\r') else isBlank c

/-- The value of a run of decimal digits read after `acc`. -/
def digitsValue (acc : Nat) : Text → Nat
  | [] => acc
  | c :: t => digitsValue (10 * acc + (decimalValue? c).getD 0) t

/-- The digits of a run, without the underscores, and the text after the run.  `none` if an
underscore does not stand between two digits. -/
def digitSpan : Text → Option (Text × Text)
  | [] => some ([], [])
  | '_' :: c :: t =>
      if isDecimal c then (digitSpan (c :: t)) else none
  | c :: t =>
      if isDecimal c then (digitSpan t).map fun (ds, rest) => (c :: ds, rest)
      else if c = '_' then none
      else some ([], c :: t)

/-- The whole number that a text without a sign starts with. -/
def readUnsigned (t : Text) : Except IntegerFault Nat :=
  match t with
  | [] => .error .malformed
  | '_' :: _ => .error .malformed
  | t =>
      match digitSpan t with
      | none => .error .malformed
      | some ([], _) => .error .malformed
      | some (ds, rest) =>
          if digitLimit < ds.length then .error (.tooLong ds.length)
          else if rest.all isNumberBlank then .ok (digitsValue 0 ds)
          else .error .malformed

/-- The whole number that a text stands for. -/
def readInteger (t : Text) : Except IntegerFault Int :=
  match t.dropWhile isNumberBlank with
  | '-' :: t => (readUnsigned t).map fun n => -Int.ofNat n
  | '+' :: t => (readUnsigned t).map Int.ofNat
  | t => (readUnsigned t).map Int.ofNat

example : (readInteger " -1_234\n").toOption = some (-1234) := by decide
example : (readInteger "\u0663").toOption = some 3 := by decide
example : (readInteger "1__2").toOption = none := by decide
example : (readInteger "12_").toOption = none := by decide
example : (readInteger "+ 5").toOption = none := by decide
example : (readInteger "").toOption = none := by decide

end Text

end TaskBrowser
