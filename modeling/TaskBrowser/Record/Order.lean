import TaskBrowser.Json.Order
import TaskBrowser.Record.Basic
import TaskBrowser.Text.Case

/-!
# The order of tasks

A *sort mode* is a text whose letters are the keys of the order: `n` for the number, `p` for the
project, `d` for the due date, `r` for the priority and `u` for the identifier.  A later key
counts only between tasks that all earlier keys leave equal; an upper-case letter turns its own
key around; any other character is passed over.  Tasks without a project come after those with
one.

`sortRecords` is stable.  When all projects are names it inserts the records one after another
from the last to the first.  Otherwise two projects may have no order, and whether that is found
out depends on which records are compared, so the records are sorted by binary insertion after the
first run, one comparison after another.
-/

namespace TaskBrowser

/-- The rank of a priority. -/
def priorityRank (p : Option Text) : Int :=
  match p with
  | some ['H'] => 3
  | some ['M'] => 2
  | some ['L'] => 1
  | _ => 0

/-- One, zero or minus one for an order. -/
def signOf : Ordering → Int
  | .lt => -1
  | .eq => 0
  | .gt => 1

/-- The order of two projects, by their names. -/
def compareProjects : Option Project → Option Project → Except Crash Int
  | none, none => .ok 0
  | none, some _ => .ok 1
  | some _, none => .ok (-1)
  | some (.name t), some (.name u) => .ok (signOf (Text.compare t u))
  | some p, some q => Json.compare p.value q.value

/-- A key of the order. -/
inductive SortKey where
  /-- The number. -/
  | index
  /-- The project. -/
  | project
  /-- The due date. -/
  | due
  /-- The priority. -/
  | priority
  /-- The identifier. -/
  | uuid
deriving DecidableEq, Repr

/-- The key of a letter of a sort mode. -/
def SortKey.ofChar? (c : Char) : Option SortKey :=
  if Text.lowered c = ['n'] then some .index
  else if Text.lowered c = ['p'] then some .project
  else if Text.lowered c = ['d'] then some .due
  else if Text.lowered c = ['r'] then some .priority
  else if Text.lowered c = ['u'] then some .uuid
  else none

/-- The order of two records by one key. -/
def SortKey.compare : SortKey → Record → Record → Except Crash Int
  | .index, a, b => .ok (a.index - b.index)
  | .project, a, b => compareProjects a.project b.project
  | .due, a, b => .ok (a.due - b.due)
  | .priority, a, b => .ok (priorityRank a.priority - priorityRank b.priority)
  | .uuid, a, b => .ok (signOf (Text.compare a.uuid b.uuid))

/-- The order of two records by a sort mode: negative, zero or positive. -/
def compareRecords (mode : Text) (a b : Record) : Except Crash Int :=
  match mode with
  | [] => .ok 0
  | c :: mode =>
      match SortKey.ofChar? c with
      | none => compareRecords mode a b
      | some key =>
          match key.compare a b with
          | .error e => .error e
          | .ok n =>
              let n := if Text.isUpper c then -n else n
              if n = 0 then compareRecords mode a b else .ok n

/-! ## Sorting by insertion -/

/-- Whether a record comes before another, if the two can be compared. -/
def comesBefore (mode : Text) (a b : Record) : Bool :=
  match compareRecords mode a b with
  | .ok n => n < 0
  | .error _ => false

/-- A record inserted into records in order, before those it is equal to. -/
def insertRecord (mode : Text) (r : Record) : List Record → List Record
  | [] => [r]
  | s :: rs => if comesBefore mode s r then s :: insertRecord mode r rs else r :: s :: rs

/-- Records in order, equal ones as they were. -/
def insertionSort (mode : Text) : List Record → List Record
  | [] => []
  | r :: rs => insertRecord mode r (insertionSort mode rs)

/-! ## Sorting by comparisons that may crash -/

/-- Whether a record comes before another. -/
def isBefore (mode : Text) (a b : Record) : Except Crash Bool :=
  (compareRecords mode a b).map (· < 0)

/-- The records that continue a run whose last record is `last`, falling or not, and the rest. -/
def runFrom (mode : Text) (falling : Bool) (last : Record) :
    List Record → Except Crash (List Record × List Record)
  | [] => .ok ([], [])
  | r :: rs =>
      match isBefore mode r last with
      | .error e => .error e
      | .ok b =>
          if b = falling then (runFrom mode falling r rs).map fun (run, rest) => (r :: run, rest)
          else .ok ([], r :: rs)

/-- The place of a record among records in order, between `low` and `high`. -/
def placeOf (mode : Text) (r : Record) (sorted : List Record) :
    (bound : Nat) → (low high : Nat) → Except Crash Nat
  | 0, low, _ => .ok low
  | bound + 1, low, high =>
      if high ≤ low then .ok low
      else
        let middle := low + (high - low) / 2
        match sorted[middle]? with
        | none => .ok low
        | some s =>
            match isBefore mode r s with
            | .error e => .error e
            | .ok true => placeOf mode r sorted bound low middle
            | .ok false => placeOf mode r sorted bound (middle + 1) high

/-- Records inserted one after another into records in order. -/
def insertAll (mode : Text) (sorted : List Record) : List Record → Except Crash (List Record)
  | [] => .ok sorted
  | r :: rs =>
      match placeOf mode r sorted (sorted.length + 1) 0 sorted.length with
      | .error e => .error e
      | .ok n => insertAll mode (sorted.take n ++ r :: sorted.drop n) rs

/-- Records in order, found by comparisons that may crash. -/
def sortByRuns (mode : Text) (rs : List Record) : Except Crash (List Record) :=
  match rs with
  | a :: b :: rest =>
      match isBefore mode b a with
      | .error e => .error e
      | .ok falling =>
          match runFrom mode falling b rest with
          | .error e => .error e
          | .ok (run, rest) =>
              insertAll mode (if falling then (a :: b :: run).reverse else a :: b :: run) rest
  | rs => .ok rs

/-- Records in the order of a sort mode, equal ones as they were. -/
def sortRecords (mode : Text) (rs : List Record) : Except Crash (List Record) :=
  if rs.all Record.hasNamedProject then .ok (insertionSort mode rs) else sortByRuns mode rs

end TaskBrowser
