import TaskBrowser.Variable

/-!
# Templates

A *template* says what a line shows.  It is a list of *fields*: literal texts, the current date
and time, attributes of a task, variables, and conditionals, which show one of two lists of fields
depending on what a third one renders to.  Every field but a literal has a *slot*: a width that it
is filled or cut to, and the side that it is aligned to.
-/

namespace TaskBrowser

/-- An attribute of a task that a line can show. -/
inductive Attribute where
  /-- The project. -/
  | project
  /-- The description. -/
  | description
  /-- The due date. -/
  | due
  /-- The priority. -/
  | priority
  /-- The identifier. -/
  | uuid
  /-- The number. -/
  | index
deriving DecidableEq, Repr

/-- The word for an attribute. -/
def Attribute.word : Attribute → Text
  | .project => "project"
  | .description => "description"
  | .due => "due"
  | .priority => "priority"
  | .uuid => "uuid"
  | .index => "index"

/-- The attributes in the order in which their words are tried. -/
def Attribute.all : List Attribute := [.project, .description, .due, .priority, .uuid, .index]

/-- The room that a field takes. -/
structure Slot where
  /-- The width; the field's own width if it is not positive. -/
  width : Int := 0
  /-- Whether the field is aligned to the right. -/
  right : Bool := false
deriving DecidableEq, Repr

/-- A part of a template. -/
inductive Field where
  /-- A text that is shown as it is. -/
  | literal (text : Text)
  /-- The current date. -/
  | date (slot : Slot)
  /-- The current time. -/
  | time (slot : Slot)
  /-- An attribute of the task. -/
  | ofTask (a : Attribute) (slot : Slot)
  /-- The value of a variable. -/
  | named (name : Text) (kind : VariableKind) (slot : Slot)
  /-- Either of two lists of fields. -/
  | conditional (condition positive negative : List Field) (slot : Slot)

/-- A compiled format text. -/
structure Template where
  /-- The format text. -/
  source : Text
  /-- The fields. -/
  fields : List Field

end TaskBrowser
