import TaskBrowser.Fault
import TaskBrowser.Text.Integer

/-!
# Whole numbers from JSON values

A number loses its fraction, a truth value counts as one or zero, and a text is read as a whole
number.  Everything else has no whole number, and so have the infinities and the value that is no
number.
-/

namespace TaskBrowser

namespace Json

/-- The crash for a text that is read as a whole number in vain. -/
def integerCrash (t : Text) : Text.IntegerFault → Crash
  | .malformed => .badInteger t
  | .tooLong n => .tooManyDigits n

/-- The whole number of a text. -/
def textInteger (t : Text) : Except Crash Int := (Text.readInteger t).mapError (integerCrash t)

/-- The whole number of a value. -/
def integer (v : Json) : Except Crash Int :=
  match v with
  | .bool b => .ok (if b then 1 else 0)
  | .int n => .ok n
  | .real .notANumber => .error .notANumber
  | .real (.infinite _) => .error .infinite
  | .real x => .ok (x.truncated?.getD 0)
  | .text t => textInteger t
  | v => .error (.noInteger v.kind)

end Json

end TaskBrowser
