import TaskBrowser.Text.Basic

/-!
# Binary numbers

A number with a point is kept in the 64-bit binary format: a sign and a magnitude `m · 2 ^ e` with
`m` below `2 ^ 53` and `e` between `-1074` and `971`, or an infinity, or the value that is no
number.  Magnitudes are exact natural numbers, so rounding is plain arithmetic: a ratio of two
natural numbers goes to the nearest magnitude, and half-way to the one with an even `m`.

`Binary.ofRatio` rounds a ratio, `Binary.ofDecimal` a number in decimal notation, and
`Binary.truncated?` drops the fraction again.
-/

namespace TaskBrowser

/-- A number of the 64-bit binary format. -/
inductive Binary where
  /-- The number `± m · 2 ^ e`. -/
  | finite (negative : Bool) (m : Nat) (e : Int)
  /-- An infinity. -/
  | infinite (negative : Bool)
  /-- The value that is no number. -/
  | notANumber
deriving DecidableEq, Repr

namespace Binary

/-- The least exponent of a magnitude. -/
def minExponent : Int := -1074

/-- The greatest exponent of a magnitude. -/
def maxExponent : Int := 971

/-- The quotient of two natural numbers, half-way cases going to the even neighbour. -/
def roundedQuotient (num den : Nat) : Nat :=
  let q := num / den
  let r := num % den
  if 2 * r < den then q else if den < 2 * r then q + 1 else q + q % 2

/-- The ratio `num / den` in units of `2 ^ e`, rounded. -/
def mantissaAt (num den : Nat) (e : Int) : Nat :=
  if 0 ≤ e then roundedQuotient num (den * Nat.pow 2 e.toNat)
  else roundedQuotient (num * Nat.pow 2 (-e).toNat) den

/-- The exponent at which a positive ratio has 53 binary digits, or one more than that when the
estimate from the lengths of its parts is one too low. -/
def exponentFor (num den : Nat) : Int :=
  let e := (num.log2 : Int) - den.log2 - 52
  let whole := if 0 ≤ e then num / (den * Nat.pow 2 e.toNat) else num * Nat.pow 2 (-e).toNat / den
  max minExponent (if whole < Nat.pow 2 52 then e - 1 else e)

/-- The number nearest to `± num / den`, for a positive `den`. -/
def ofRatio (negative : Bool) (num den : Nat) : Binary :=
  if num = 0 then .finite negative 0 minExponent
  else
    let e := exponentFor num den
    let m := mantissaAt num den e
    let (m, e) := if m = Nat.pow 2 53 then (Nat.pow 2 52, e + 1) else (m, e)
    if maxExponent < e then .infinite negative else .finite negative m e

/-- The number nearest to `± n · 10 ^ x`.  A power of ten beyond the range of the format is not
computed. -/
def ofDecimal (negative : Bool) (n : Nat) (x : Int) : Binary :=
  let size := x + (n.log2 * 3 / 10 : Nat)
  if n = 0 then .finite negative 0 minExponent
  else if 400 < size then .infinite negative
  else if size < -400 - (n.log2 : Int) then .finite negative 0 minExponent
  else if 0 ≤ x then ofRatio negative (n * Nat.pow 10 x.toNat) 1
  else ofRatio negative n (Nat.pow 10 (-x).toNat)

/-- The whole part of `m · 2 ^ e`. -/
def wholePart (m : Nat) (e : Int) : Nat :=
  if 0 ≤ e then m * Nat.pow 2 e.toNat else m / Nat.pow 2 (-e).toNat

/-- The number without its fraction, if it is finite. -/
def truncated? : Binary → Option Int
  | .finite true m e => some (-Int.ofNat (wholePart m e))
  | .finite false m e => some (Int.ofNat (wholePart m e))
  | _ => none

/-- Whether a number is zero, of either sign. -/
def isZero : Binary → Bool
  | .finite _ m _ => m == 0
  | _ => false

/-- Whether a finite number is whole. -/
def isWhole : Binary → Bool
  | .finite _ m e => 0 ≤ e || m % Nat.pow 2 (-e).toNat == 0
  | _ => false

/-- The number nearest to an integer. -/
def ofInt : Int → Binary
  | .ofNat n => ofRatio false n 1
  | .negSucc n => ofRatio true (n + 1) 1

example : ofRatio false 1 10 = .finite false 7205759403792794 (-56) := by decide +kernel
example : (ofDecimal true 19995 (-1)).truncated? = some (-1999) := by decide +kernel
example : ofDecimal false 1 400 = .infinite false := by decide +kernel

end Binary

end TaskBrowser
