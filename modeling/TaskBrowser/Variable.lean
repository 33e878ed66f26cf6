import TaskBrowser.Json.Whole
import TaskBrowser.Text.Blank

/-!
# Variables

The user sees and sets the program's settings as *variables*.  A variable has a kind, which says
how a text becomes its value and how its value is shown, and a permission, which says who may set
it.  The order of a table of variables matters: the template compiler tries the names in that
order.

A value given as a text may stand between quotes, which are dropped once; blanks outside the
quotes are dropped, those inside are kept.
-/

namespace TaskBrowser

/-- What the values of a variable are. -/
inductive VariableKind where
  /-- Whole numbers. -/
  | int
  /-- Characters. -/
  | char
  /-- Texts. -/
  | text
deriving DecidableEq, Repr

/-- Who may set a variable. -/
inductive Permission where
  /-- Anyone at any time. -/
  | always
  /-- The command file. -/
  | fromFile
  /-- No one. -/
  | never
deriving DecidableEq, Repr

/-- A variable with its current value. -/
structure Variable where
  /-- The name. -/
  name : Text
  /-- What its values are. -/
  kind : VariableKind
  /-- The current value. -/
  value : Json
  /-- Who may set it. -/
  permission : Permission := .always
  /-- Whether there is a way to set it at all. -/
  settable : Bool := true

/-- A text without the blanks around it and without one pair of quotes around the rest. -/
def stripQuotes (t : Text) : Text :=
  let t := Text.trim t
  match t with
  | q :: rest =>
      if (q = '\'' || q = '"') && rest.getLast? = some q then rest.dropLast else t
  | [] => []

namespace Variable

/-- The current value as a text. -/
def valueText (v : Variable) : Except Crash Text :=
  match v.value, v.kind with
  | .null, _ => .ok []
  | x, .int => x.integer.map Text.ofInt
  | x, .char => .ok (x.plain.take 1)
  | x, .text => .ok x.plain

/-- The value of a kind that a text given by the user stands for. -/
def parse? (kind : VariableKind) (t : Text) : Option Json :=
  match kind with
  | .int => (Text.readInteger (Text.trim t)).toOption.map Json.int
  | .char =>
      match Text.trim t with
      | [] => none
      | c :: _ => some (.text [c])
  | .text => some (.text (stripQuotes t))

end Variable

/-- Variables in order. -/
abbrev VariableTable := List Variable

namespace VariableTable

/-- The table with a variable, in the place of the one of its name if there is one. -/
def register (table : VariableTable) (v : Variable) : VariableTable :=
  match table with
  | [] => [v]
  | w :: rest => if w.name = v.name then v :: rest else w :: register rest v

/-- The table of variables registered one after another. -/
def ofList (vs : List Variable) : VariableTable := vs.foldl register []

/-- The variable of a name. -/
def find? (table : VariableTable) (name : Text) : Option Variable :=
  List.find? (·.name == name) table

/-- The names and kinds, in order. -/
def names (table : VariableTable) : List (Text × VariableKind) :=
  table.map fun v => (v.name, v.kind)

/-- The current value of a variable as a text; a name of none has the empty text. -/
def valueText (table : VariableTable) (name : Text) : Except Crash Text :=
  match table.find? name with
  | none => .ok []
  | some v => v.valueText

/-- A variable and its value as a message. -/
def message (table : VariableTable) (name : Text) : Except Fault Text :=
  match table.find? name with
  | none => .error (.failure (.variableNotFound name))
  | some v =>
      match v.valueText with
      | .error c => .error (.crash c)
      | .ok t => .ok (v.name ++ ": " ++ t)

/-- The value that a variable takes when the user sets it to a text. -/
def accept (table : VariableTable) (name text : Text) (fromFile : Bool) : Except Failure Json :=
  match table.find? name with
  | none => .error (.variableNotFound name)
  | some v =>
      if !v.settable || v.permission = .never then .error (.readOnly name)
      else if v.permission = .fromFile && !fromFile then .error (.configOnly name)
      else
        match Variable.parse? v.kind text with
        | none => .error (.unparsable name text)
        | some x => .ok x

/-- The table with a variable set to a value. -/
def assign (table : VariableTable) (name : Text) (value : Json) : VariableTable :=
  table.map fun v => if v.name = name then { v with value := value } else v

end VariableTable

example : stripQuotes " ' a\"b' " = " a\"b" := by decide
example : stripQuotes "'" = "'" := by decide
example : stripQuotes "''" = "" := by decide

end TaskBrowser
