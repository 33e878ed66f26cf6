import TaskBrowser.Text.Basic

/-!
# Character classes

A class of characters is given by the code points at which membership changes, in rising order:
the first begins the first run of members, the second ends it, and so on.  A code point is in the
class when an odd number of them are not above it.  Classes that alternate between neighbours are
given instead by *strides*: a first and a last code point and the step between members.

The lists of the other modules are the character properties of version 14 of the Unicode standard.
-/

namespace TaskBrowser

namespace Text

/-- Membership of a code point in the class whose changes are listed in rising order. -/
def inRuns : List Nat → Nat → Bool
  | [], _ => false
  | x :: xs, n => if n < x then false else !inRuns xs n

/-- The code points from `first` to `last` in steps of `step`. -/
structure Stride where
  /-- The least member. -/
  first : Nat
  /-- The greatest member. -/
  last : Nat
  /-- The distance between neighbours. -/
  step : Nat
deriving DecidableEq

/-- Whether a code point is one of a stride. -/
def Stride.contains (s : Stride) (n : Nat) : Bool :=
  s.first ≤ n && n ≤ s.last && (n - s.first) % s.step == 0

example : inRuns [3, 5, 9, 10] 4 = true := by decide
example : inRuns [3, 5, 9, 10] 5 = false := by decide
example : (Stride.mk 10 20 2).contains 14 = true := by decide
example : (Stride.mk 10 20 2).contains 15 = false := by decide

end Text

end TaskBrowser
