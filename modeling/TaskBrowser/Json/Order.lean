import TaskBrowser.Fault

/-!
# The order of JSON values

Numbers are ordered by size, whatever their form; truth values count as one and zero.  Texts are
ordered by code points, and lists by the first items in which they differ, a list before its
extensions.  Values of other kinds, or of different kinds, have no order.

The value that is no number is neither above nor below a number.
-/

namespace TaskBrowser

namespace Json

/-- A number as `n · 2 ^ e`, or an infinity with its sign, or nothing for the value that is no
number. -/
inductive Size where
  /-- A finite number. -/
  | finite (n e : Int)
  /-- An infinity. -/
  | infinite (negative : Bool)
  /-- No number. -/
  | none

/-- The size of a value that is a number. -/
def size? : Json → Option Size
  | .bool b => some (.finite (if b then 1 else 0) 0)
  | .int n => some (.finite n 0)
  | .real (.finite negative m e) => some (.finite (if negative then -Int.ofNat m else m) e)
  | .real (.infinite negative) => some (.infinite negative)
  | .real .notANumber => some .none
  | _ => none

/-- Whether a size is above another. -/
def Size.above : Size → Size → Bool
  | .finite n e, .finite m f =>
      m * Nat.pow 2 (f - min e f).toNat < n * Nat.pow 2 (e - min e f).toNat
  | .infinite a, .infinite b => !a && b
  | .infinite negative, .finite .. => !negative
  | .finite .., .infinite negative => negative
  | _, _ => false

/-- Whether two sizes are the same; the value that is no number is the same as itself. -/
def Size.same : Size → Size → Bool
  | .none, .none => true
  | .none, _ | _, .none => false
  | a, b => !a.above b && !b.above a

mutual

/-- Whether two values are the same; numbers of different forms may be. -/
def same : Json → Json → Bool
  | .null, .null => true
  | .text t, .text u => t == u
  | .list xs, .list ys => sameItems xs ys
  | .object xs, .object ys => xs.length == ys.length && sameMembers xs ys
  | v, w =>
      match size? v, size? w with
      | some a, some b => a.same b
      | _, _ => false

/-- Whether two lists have the same items. -/
def sameItems : List Json → List Json → Bool
  | [], [] => true
  | v :: vs, w :: ws => same v w && sameItems vs ws
  | _, _ => false

/-- Whether the members of one object are members of the other. -/
def sameMembers : List (Text × Json) → List (Text × Json) → Bool
  | [], _ => true
  | (k, v) :: ms, ns =>
      (match lookup? k ns with
        | some w => same v w
        | none => false) && sameMembers ms ns

end

mutual

/-- Whether a value is above another. -/
def above : Json → Json → Except Crash Bool
  | .text t, .text u => .ok (Text.compare t u == .gt)
  | .list vs, .list ws => aboveItems vs ws
  | v, w =>
      match size? v, size? w with
      | some a, some b => .ok (a.above b)
      | _, _ => .error (.noOrder v.kind w.kind)

/-- Whether a list is above another. -/
def aboveItems : List Json → List Json → Except Crash Bool
  | [], _ => .ok false
  | _ :: _, [] => .ok true
  | v :: vs, w :: ws => if same v w then aboveItems vs ws else above v w

end

/-- One if a value is above another, minus one if it is below, and zero otherwise. -/
def compare (v w : Json) : Except Crash Int :=
  match above v w with
  | .error c => .error c
  | .ok up =>
      match above w v with
      | .error c => .error c
      | .ok down => .ok ((if up then 1 else 0) - (if down then 1 else 0))

/-- The number of items of a value that has any. -/
def length? : Json → Except Crash Nat
  | .text t => .ok t.length
  | .list items => .ok items.length
  | .object ms => .ok ms.length
  | v => .error (.noLength v.kind)

end Json

end TaskBrowser
