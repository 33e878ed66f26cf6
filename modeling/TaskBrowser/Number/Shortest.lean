import TaskBrowser.Number.Binary

/-!
# The shortest decimal form of a number

A number is written with the fewest decimal digits that read back as the number, and of those
digit strings the one nearest to it.  The numbers that read back as `m · 2 ^ e` form an interval
around it, its ends included when `m` is even.  A grid of decimals meets the interval only if one
of the value's two neighbours on the grid lies in it, so for each count of digits two candidates
are tried.

Numbers from one ten-thousandth up to below ten to the sixteenth are written with a point and at
least one digit after it, others with one digit before the point and an exponent of at least two
digits.
-/

namespace TaskBrowser

namespace Binary

/-- The interval of the decimals that read back as a magnitude, in a common unit: its ends, the
magnitude and the unit as the ratio of two natural numbers. -/
structure Interval where
  /-- The lower end. -/
  low : Nat
  /-- The magnitude. -/
  value : Nat
  /-- The upper end. -/
  high : Nat
  /-- The numerator of the unit. -/
  num : Nat
  /-- The denominator of the unit. -/
  den : Nat
  /-- Whether the ends belong to the interval. -/
  closed : Bool

/-- The interval of a positive magnitude.  Below a power of two the numbers lie twice as close. -/
def intervalOf (m : Nat) (e : Int) : Interval :=
  let down := if m = Nat.pow 2 52 && minExponent < e then 1 else 2
  let e := e - 2
  ⟨4 * m - down, 4 * m, 4 * m + 2, if 0 ≤ e then Nat.pow 2 e.toNat else 1,
    if 0 ≤ e then 1 else Nat.pow 2 (-e).toNat, m % 2 == 0⟩

/-- Whether `n · 10 ^ x` lies in the interval. -/
def Interval.meets (i : Interval) (n : Nat) (x : Int) : Bool :=
  let d := if 0 ≤ x then n * Nat.pow 10 x.toNat * i.den else n * i.den
  let unit := if 0 ≤ x then i.num else i.num * Nat.pow 10 (-x).toNat
  if i.closed then i.low * unit ≤ d && d ≤ i.high * unit
  else i.low * unit < d && d < i.high * unit

/-- The greatest whole number of units `10 ^ x` not above the magnitude, and twice what remains
compared with the unit. -/
def Interval.floorAt (i : Interval) (x : Int) : Nat × Ordering :=
  let num := i.value * i.num * (if 0 ≤ x then 1 else Nat.pow 10 (-x).toNat)
  let den := i.den * (if 0 ≤ x then Nat.pow 10 x.toNat else 1)
  (num / den, compare (2 * (num % den)) den)

/-- The decimal `n · 10 ^ x` on the grid of units `10 ^ x` that lies in the interval, the nearer
one if there are two and the even one if they are equally near. -/
def Interval.onGrid? (i : Interval) (x : Int) : Option Nat :=
  let (n, half) := i.floorAt x
  match 0 < n && i.meets n x, i.meets (n + 1) x with
  | true, true =>
      some (match half with
        | .lt => n
        | .gt => n + 1
        | .eq => n + n % 2)
  | true, false => some n
  | false, true => some (n + 1)
  | false, false => none

/-- The number of decimal digits of a positive number. -/
def decimalLength (n : Nat) : Nat := (Text.ofNat n).length

/-- The power of ten of the leading digit of the magnitude: `10 ^ x ≤ value < 10 ^ (x + 1)`. -/
def Interval.leadingPower (i : Interval) : Int :=
  let num := i.value * i.num
  if i.den ≤ num then (decimalLength (num / i.den) : Int) - 1
  else -(decimalLength ((i.den + num - 1) / num - 1) : Int)

/-- The first grid, from `10 ^ x` down, that holds a decimal of the interval. -/
def Interval.search (i : Interval) : (grids : Nat) → (x : Int) → Nat × Int
  | 0, x => ((i.floorAt x).1, x)
  | grids + 1, x =>
      match i.onGrid? x with
      | some n => (n, x)
      | none => i.search grids (x - 1)

/-- The fewest digits that read back as a positive magnitude, as `n · 10 ^ x`. -/
def shortest (m : Nat) (e : Int) : Nat × Int :=
  let i := intervalOf m e
  i.search 20 i.leadingPower

/-- The digits of a positive number without the zeros at its end. -/
def significantDigits (n : Nat) : Text := Text.dropRightWhile (· == '0') (Text.ofNat n)

/-- An exponent with its sign and at least two digits. -/
def exponentText (x : Int) : Text :=
  (if x < 0 then '-' else '+') :: Text.zeroFilled 2 x.natAbs

/-- The text of `digits` with the point after the first `point` of them. -/
def positional (digits : Text) (point : Int) : Text :=
  if point ≤ 0 then ("0." : Text) ++ List.replicate (-point).toNat '0' ++ digits
  else
    let k := point.toNat
    if digits.length ≤ k then digits ++ List.replicate (k - digits.length) '0' ++ ".0"
    else digits.take k ++ "." ++ digits.drop k

/-- The text of `digits` with the point after the first of them, and an exponent. -/
def scientific (digits : Text) (exponent : Int) : Text :=
  digits.take 1 ++ (if digits.length ≤ 1 then [] else '.' :: digits.drop 1) ++ "e" ++
    exponentText exponent

/-- The text of a positive magnitude. -/
def magnitudeText (m : Nat) (e : Int) : Text :=
  let (n, x) := shortest m e
  let digits := significantDigits n
  let point := (decimalLength n : Int) + x
  if -4 < point && point ≤ 16 then positional digits point else scientific digits (point - 1)

/-- The shortest text of a number. -/
def toText : Binary → Text
  | .finite negative m e =>
      (if negative then ['-'] else []) ++ (if m = 0 then ("0.0" : Text) else magnitudeText m e)
  | .infinite negative => (if negative then ['-'] else []) ++ "inf"
  | .notANumber => "nan"

example : toText (ofDecimal false 1 (-1)) = "0.1" := by decide +kernel
example : toText (ofDecimal false 1 16) = "1e+16" := by decide +kernel
example : toText (ofDecimal true 5 (-324)) = "-5e-324" := by decide +kernel
example : toText (ofDecimal false 1718450000 0) = "1718450000.0" := by decide +kernel

end Binary

end TaskBrowser
