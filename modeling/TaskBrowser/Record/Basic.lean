import TaskBrowser.Json.Basic

/-!
# Task records

A record holds what the task program exports about one task: its identifier, its description, its
number in the list, and optionally a project, tags, a priority, a due date and the time it was
started.  Moments are seconds since the start of 1970, and zero stands for none.

A record also keeps the colour pairs that were last found for it, one for when it is selected and
one for when it is not, until they are cleared.

A project is a text.  The task program may export another value in its place, which is kept as it
is and refused where a text is needed.
-/

namespace TaskBrowser

/-- The project of a task. -/
inductive Project where
  /-- A project by its name. -/
  | name (t : Text)
  /-- A value that is no name. -/
  | raw (v : Json)

/-- The value of a project. -/
def Project.value : Project → Json
  | .name t => .text t
  | .raw v => v

/-- Whether a project is a name. -/
def Project.isName : Project → Bool
  | .name _ => true
  | .raw _ => false

/-- One task. -/
structure Record where
  /-- The identifier. -/
  uuid : Text
  /-- What is to be done. -/
  description : Text
  /-- The number in the task program's list, zero for none. -/
  index : Int := 0
  /-- The project. -/
  project : Option Project := none
  /-- The tags. -/
  tags : List Text := []
  /-- The priority, `H`, `M` or `L`. -/
  priority : Option Text := none
  /-- The moment when it is due. -/
  due : Int := 0
  /-- The moment when it was started. -/
  start : Int := 0
  /-- The colour pair found for the record when it is selected. -/
  pairSelected : Option Nat := none
  /-- The colour pair found for the record when it is not selected. -/
  pairUnselected : Option Nat := none

namespace Record

/-- Whether a task is being worked on. -/
def started (r : Record) : Bool := 0 < r.start

/-- The tags with commas between them, if there are any. -/
def tagsText (r : Record) : Option Text :=
  if r.tags.isEmpty then none else some (Text.join "," r.tags)

/-- Whether the project, if there is one, is a name. -/
def hasNamedProject (r : Record) : Bool := r.project.all Project.isName

/-- The record without the colour pairs found for it. -/
def forgetPairs (r : Record) : Record := { r with pairSelected := none, pairUnselected := none }

/-- The colour pair found for a record, by whether it is selected. -/
def pair (r : Record) (selected : Bool) : Option Nat :=
  if selected then r.pairSelected else r.pairUnselected

/-- The record with the colour pair found for it, by whether it is selected. -/
def withPair (r : Record) (selected : Bool) (pair : Nat) : Record :=
  if selected then { r with pairSelected := some pair } else { r with pairUnselected := some pair }

end Record

end TaskBrowser
