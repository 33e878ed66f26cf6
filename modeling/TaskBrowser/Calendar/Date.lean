import TaskBrowser.Text.Basic

/-!
# Dates

Dates of the Gregorian calendar, carried on without end before its introduction.  A *day number*
counts days from the first of January 1970.  Every fourth year is a leap year, except for those
of every hundredth that are not those of every four-hundredth, so the calendar repeats itself
after 400 years or 146097 days.

`Date.toDays` numbers the days and `Date.ofDays` is its inverse.
-/

namespace TaskBrowser

/-- A date. -/
structure Date where
  /-- The year. -/
  year : Int
  /-- The month, from 1 to 12. -/
  month : Nat
  /-- The day of the month, from 1. -/
  day : Nat
deriving DecidableEq, Repr

namespace Date

/-- Whether a year is a leap year. -/
def isLeap (y : Int) : Bool := y % 4 == 0 && (y % 100 != 0 || y % 400 == 0)

/-- The lengths of the months of a year. -/
def monthLengths (leap : Bool) : List Nat :=
  [31, if leap then 29 else 28, 31, 30, 31, 30, 31, 31, 30, 31, 30, 31]

/-- The length of a month of a year, zero for no month. -/
def monthLength (leap : Bool) (m : Nat) : Nat :=
  match m with
  | 0 => 0
  | m + 1 => (monthLengths leap).getD m 0

/-- The days of a year before a month. -/
def daysBeforeMonth (leap : Bool) (m : Nat) : Nat :=
  ((monthLengths leap).take (m - 1)).foldr (· + ·) 0

/-- The days from the first of January of the year 1 to that of another year. -/
def daysBeforeYear (y : Int) : Int :=
  365 * (y - 1) + (y - 1) / 4 - (y - 1) / 100 + (y - 1) / 400

/-- The days from the first of January of the year 1 to that of 1970. -/
def epoch : Int := 719162

/-- Whether a date has a year from 1 to 9999, a month and a day of it. -/
def isValid (d : Date) : Bool :=
  1 ≤ d.year && d.year ≤ 9999 && 1 ≤ d.day && d.day ≤ monthLength (isLeap d.year) d.month

/-- The number of a day. -/
def toDays (d : Date) : Int :=
  daysBeforeYear d.year + daysBeforeMonth (isLeap d.year) d.month + d.day - 1 - epoch

/-- The month and the day of a day of the year, both from 1, given the lengths of the months from
the given one on. -/
def inMonths : (lengths : List Nat) → (month n : Nat) → Nat × Nat
  | [], month, n => (month, n + 1)
  | l :: ls, month, n => if n < l then (month, n + 1) else inMonths ls (month + 1) (n - l)

/-- The year and the day of it, from 0, of a day counted from the first of January of the
year 1. -/
def inYears (n : Int) : Int × Nat :=
  let cycles := n / 146097
  let r := (n % 146097).toNat
  let centuries := min 3 (r / 36524)
  let r := r - centuries * 36524
  let fours := r / 1461
  let r := r % 1461
  let years := min 3 (r / 365)
  (400 * cycles + 100 * centuries + 4 * fours + years + 1, r - 365 * years)

/-- The day of a number. -/
def ofDays (n : Int) : Date :=
  let (y, k) := inYears (n + epoch)
  let (m, d) := inMonths (monthLengths (isLeap y)) 1 k
  ⟨y, m, d⟩

/-- The day of the week of a day number, Monday being 0. -/
def weekday (n : Int) : Nat := ((n + 3) % 7).toNat

/-- The names of the months. -/
def monthNames : List Text :=
  ["Jan", "Feb", "Mar", "Apr", "May", "Jun", "Jul", "Aug", "Sep", "Oct", "Nov", "Dec"]

/-- The name of a month. -/
def monthName (m : Nat) : Text := monthNames.getD (m - 1) []

example : toDays ⟨1970, 1, 1⟩ = 0 := by decide
example : ofDays 19783 = ⟨2024, 3, 1⟩ := by decide
example : ofDays (toDays ⟨2000, 12, 31⟩) = ⟨2000, 12, 31⟩ := by decide
example : ofDays (-719163) = ⟨0, 12, 31⟩ := by decide
example : weekday (toDays ⟨2024, 6, 1⟩) = 5 := by decide

end Date

end TaskBrowser
