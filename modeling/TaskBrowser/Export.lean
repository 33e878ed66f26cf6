import TaskBrowser.Calendar.Stamp
import TaskBrowser.Json.Reader
import TaskBrowser.Json.Whole
import TaskBrowser.Note
import TaskBrowser.Record.Basic
import TaskBrowser.Text.Blank

/-!
# Exports

The task program exports tasks as JSON objects, either in one list or, in its older versions, one
object a line with a comma after it.  A text that is no list and no object is read line by line,
and lines that do not start with a brace are passed over.

An object becomes a record if it has an identifier and a description.  The other members may be
missing, and values of unexpected kinds are made to fit as far as possible: tags may be one text
with commas, the number may be a text, and a date may be a number.  A date that cannot be read
counts as none, which is noted.
-/

namespace TaskBrowser

namespace Export

/-! ## One task -/

/-- The note of a date that cannot be read. -/
def dateNote (t : Text) : Note where
  level := .warning
  source := .client
  message := "unparseable date " ++ Text.quoted t

/-- The moment that a value stands for, zero if there is none. -/
def moment (v : Json) : Attempt Int :=
  match v with
  | .null | .text [] => pure 0
  | .bool _ | .int _ | .real _ => Attempt.orCrash v.integer
  | v =>
      match Stamp.read v.plain with
      | some t => pure t
      | none => do
          Attempt.note (dateNote v.plain)
          return 0

/-- The tags that a value stands for. -/
def tags (v : Json) : Except Crash (List Text) :=
  if !v.holds then .ok []
  else
    match v with
    | .text t => .ok ((Text.pieces ',' t).filter (!·.isEmpty))
    | .list items => .ok (items.map Json.plain)
    | .object ms => .ok (ms.map (·.1))
    | v => .error (.noItems v.kind)

/-- The project that a value stands for. -/
def project (v : Json) : Option Project :=
  if !v.holds then none
  else
    match v with
    | .text t => some (.name t)
    | v => some (.raw v)

/-- The priority that a value stands for. -/
def priority (v : Json) : Option Text := if v.holds then some (v.plain.take 1) else none

/-- The number that a value stands for. -/
def index (v : Json) : Except Crash Int := if v.holds then v.integer else .ok 0

/-- The note of a task without an identifier or a description. -/
def skippedNote (ms : List (Text × Json)) : Note where
  level := .warning
  source := .client
  message := "skipping exported task without uuid/description: " ++ (Json.object ms).shown

/-- The record of an object, if it has an identifier and a description. -/
def record? (ms : List (Text × Json)) : Attempt (Option Record) := do
  let get := Json.member ms
  match (get "uuid").holds, get "description" with
  | false, _ | true, .null =>
      Attempt.note (skippedNote ms)
      return none
  | true, description =>
      let index ← Attempt.orCrash (index (get "id"))
      let tags ← Attempt.orCrash (tags (get "tags"))
      let due ← moment (get "due")
      let start ← moment (get "start")
      return some {
        uuid := (get "uuid").plain
        description := description.plain
        index := index
        project := project (get "project")
        tags := tags
        priority := priority (get "priority")
        due := due
        start := start }

/-! ## Whole exports -/

/-- The crash of a text that cannot be read for its size. -/
def readCrash? : Json.ReadFault → Option Crash
  | .malformed => none
  | .tooManyDigits n => some (.tooManyDigits n)
  | .listTooDeep => some .listTooDeep
  | .objectTooDeep => some .objectTooDeep

/-- The value of a text, or nothing if it is malformed. -/
def read? (nesting : Nat) (t : Text) : Attempt (Option Json) :=
  match Json.read nesting t with
  | .ok v => pure (some v)
  | .error e =>
      match readCrash? e with
      | some c => Attempt.crash c
      | none => pure none

/-- The objects of a list. -/
def objectsOf : List Json → List (List (Text × Json))
  | [] => []
  | .object ms :: vs => ms :: objectsOf vs
  | _ :: vs => objectsOf vs

/-- The note of a line that cannot be read. -/
def lineNote (line : Text) : Note where
  level := .error
  source := .client
  message := "error parsing task @ " ++ line

/-- A line without the blanks around it and the commas at its end. -/
def trimLine (line : Text) : Text := Text.dropRightWhile (· == ',') (Text.trim line)

/-- The objects of lines. -/
def lineObjects (nesting : Nat) : List Text → Attempt (List (List (Text × Json)))
  | [] => pure []
  | line :: lines => do
      let line := trimLine line
      if line.head? != some '\x7b' then lineObjects nesting lines
      else
        match ← read? nesting line with
        | some (.object ms) =>
            let more ← lineObjects nesting lines
            return ms :: more
        | some _ => lineObjects nesting lines
        | none =>
            Attempt.note (lineNote line)
            lineObjects nesting lines

/-- The objects of an export. -/
def objects (nesting : Nat) (t : Text) : Attempt (List (List (Text × Json))) := do
  let t := Text.trim t
  if t.isEmpty then return []
  else
    match ← read? nesting t with
    | some (.list items) => return objectsOf items
    | some (.object ms) => return [ms]
    | _ => lineObjects nesting (Text.lines t)

/-- The records of objects. -/
def recordsOf : List (List (Text × Json)) → Attempt (List Record)
  | [] => pure []
  | ms :: rest => do
      let r ← record? ms
      let more ← recordsOf rest
      return r.toList ++ more

/-- The records of an export, in which lists and objects nest up to a depth. -/
def records (nesting : Nat) (t : Text) : Attempt (List Record) := do
  let found ← objects nesting t
  recordsOf found

end Export

end TaskBrowser
