import TaskBrowser.Calendar.Moment
import TaskBrowser.Record.Store
import TaskBrowser.Template.Basic

/-!
# Rendering templates

Each field of a template has a text for a task, which is cut to the width of its slot and filled
up with spaces on the side away from its alignment.  A slot without a width is as wide as the
text, except that a project then takes the width of the longest project of the list.

A conditional shows its positive part if its condition *holds*: the condition's text is not empty
and starts neither with `0`, nor with a space, nor with `(null)`.

`align` makes a line as wide as the screen: what follows the first `$>` goes to the right end.
-/

namespace TaskBrowser

/-- What rendering depends on apart from the task. -/
structure RenderContext where
  /-- The variables. -/
  table : VariableTable
  /-- The width of a project without a slot. -/
  projectWidth : Int
  /-- The clock. -/
  now : Clock

namespace Template

/-- Whether the text of a condition counts as true. -/
def holds (t : Text) : Bool :=
  !t.isEmpty && !Text.startsWith t "(null)" && t.head? != some '0' && t.head? != some ' '

/-- A text filled up to a width. -/
def fill (right : Bool) (width : Int) (t : Text) : Except Crash Text :=
  if width < -Int.pow 2 63 || Int.pow 2 63 ≤ width then .error .slotTooWide
  else .ok (if right then Text.padLeft width.toNat t else Text.padRight width.toNat t)

/-- A text in a slot of a width. -/
def fit (right : Bool) (width : Int) (t : Text) : Except Crash Text :=
  fill right width (Text.upTo width t)

/-- A text in a slot, which is as wide as the text unless it has a width. -/
def inSlot (slot : Slot) (t : Text) : Except Crash Text :=
  fit slot.right (if 0 < slot.width then slot.width else t.length) t

/-- The crash when a project that is no name is put in a slot. -/
def rawProjectCrash (slot : Slot) (v : Json) : Crash :=
  match v with
  | .list _ => .noFill .list slot.right
  | .object _ => .noCut .object
  | v => if slot.width < 0 then .noLength v.kind else .noCut v.kind

/-- A project in a slot. -/
def projectText (context : RenderContext) (slot : Slot) (p : Option Project) : Except Crash Text :=
  let put (t : Text) : Except Crash Text :=
    if slot.width = 0 then fit slot.right context.projectWidth t else inSlot slot t
  match p with
  | none => put []
  | some (.name t) => put t
  | some (.raw v) => if v.holds then .error (rawProjectCrash slot v) else put []

/-- The text of an attribute other than the project. -/
def attributeText (context : RenderContext) (a : Attribute) (r : Record) : Except Crash Text :=
  match a with
  | .description => .ok r.description
  | .due => if r.due = 0 then .ok " " else Moment.shown r.due context.now
  | .priority => .ok (r.priority.getD [])
  | .uuid => .ok r.uuid
  | .index => .ok (Text.ofInt r.index)
  | .project => .ok []

mutual

/-- The text of a field for a task, or for none. -/
def renderField (context : RenderContext) (record : Option Record) : Field → Except Crash Text
  | .literal t => .ok t
  | .date slot => inSlot slot (Moment.shortDate context.now.date)
  | .time slot => inSlot slot context.now.time
  | .named name _ slot =>
      match context.table.valueText name with
      | .error c => .error c
      | .ok t => inSlot slot t
  | .ofTask .project slot => projectText context slot (record.bind Record.project)
  | .ofTask a slot =>
      match record with
      | none => inSlot slot []
      | some r =>
          match attributeText context a r with
          | .error c => .error c
          | .ok t => inSlot slot t
  | .conditional condition positive negative slot =>
      match renderFields context record condition with
      | .error c => .error c
      | .ok t =>
          match
            (if holds t then renderFields context record positive
              else renderFields context record negative) with
          | .error c => .error c
          | .ok u => inSlot slot u

/-- The text of fields for a task, or for none. -/
def renderFields (context : RenderContext) (record : Option Record) :
    List Field → Except Crash Text
  | [] => .ok []
  | f :: fs =>
      match renderField context record f with
      | .error c => .error c
      | .ok t =>
          match renderFields context record fs with
          | .error c => .error c
          | .ok u => .ok (t ++ u)

end

/-- The line of a template for a task, or for none. -/
def render (t : Template) (context : RenderContext) (record : Option Record) : Except Crash Text :=
  renderFields context record t.fields

/-- A line of a width: what follows the first `$>` at its right end, the rest at its left end.  No
text has `2 ^ 63` characters, be it that the left end cannot be filled up to that many or that the
two ends have as many together. -/
def align (line : Text) (width : Int) : Except Crash Text :=
  match Text.splitAt? "$>" line with
  | none => fit false width line
  | some (left, right) =>
      let room := width - right.length
      if Int.pow 2 63 ≤ width then
        .error (if Int.pow 2 63 ≤ room then .slotTooWide else .textTooLong)
      else if room ≤ 0 then .ok (right.drop (-room).toNat)
      else (fit false room left).map (· ++ right)

example : (align "a$>b" 5).toOption = some ("a   b" : Text) := by decide
example : (align "abc$>def" 4).toOption = some ("adef" : Text) := by decide
example : (align "abc$>def" 2).toOption = some ("ef" : Text) := by decide
example : holds "(null)" = false := by decide

end Template

end TaskBrowser
