import TaskBrowser.Number.Shortest
import TaskBrowser.Text.Quoted

/-!
# JSON values

The values that the task program exports: null, truth values, whole numbers of any size, numbers
with a point, texts, lists, and objects whose members keep the order in which their names first
came.

`Json.shown` is the form of a value in messages, with texts between quotes; `Json.plain` is the
same except that a text by itself stands without quotes.  A value *holds* unless it is null,
false, zero or empty.
-/

namespace TaskBrowser

/-- A JSON value. -/
inductive Json where
  /-- The null value. -/
  | null
  /-- A truth value. -/
  | bool (b : Bool)
  /-- A whole number. -/
  | int (n : Int)
  /-- A number with a point or an exponent. -/
  | real (x : Binary)
  /-- A text. -/
  | text (t : Text)
  /-- A list of values. -/
  | list (items : List Json)
  /-- An object, as its members in order. -/
  | object (members : List (Text × Json))

namespace Json

/-- The value of a member, if there is one of that name. -/
def lookup? (name : Text) : List (Text × Json) → Option Json
  | [] => none
  | (k, v) :: ms => if k = name then some v else lookup? name ms

/-- The value of a member, null if there is none of that name. -/
def member (ms : List (Text × Json)) (name : Text) : Json := (lookup? name ms).getD .null

/-- The members with one more: a name that is already there keeps its place and takes the new
value. -/
def put (ms : List (Text × Json)) (name : Text) (v : Json) : List (Text × Json) :=
  match ms with
  | [] => [(name, v)]
  | (k, w) :: ms => if k = name then (k, v) :: ms else (k, w) :: put ms name v

/-- Whether a value is anything but null, false, zero or empty. -/
def holds : Json → Bool
  | .null => false
  | .bool b => b
  | .int n => n != 0
  | .real x => !x.isZero
  | .text t => !t.isEmpty
  | .list items => !items.isEmpty
  | .object ms => !ms.isEmpty

/-! ## Values in messages -/

mutual

/-- The form of a value in messages. -/
def shown : Json → Text
  | .null => "None"
  | .bool true => "True"
  | .bool false => "False"
  | .int n => Text.ofInt n
  | .real x => x.toText
  | .text t => Text.quoted t
  | .list items => "[" ++ shownItems items ++ "]"
  | .object ms => "\x7b" ++ shownMembers ms ++ "\x7d"

/-- The items of a list, with commas between them. -/
def shownItems : List Json → Text
  | [] => []
  | v :: vs =>
      match vs with
      | [] => shown v
      | _ :: _ => shown v ++ ", " ++ shownItems vs

/-- The members of an object, with commas between them. -/
def shownMembers : List (Text × Json) → Text
  | [] => []
  | (k, v) :: ms =>
      let here := Text.quoted k ++ ": " ++ shown v
      match ms with
      | [] => here
      | _ :: _ => here ++ ", " ++ shownMembers ms

end

/-- The form of a value by itself: a text as it is, any other value as in messages. -/
def plain : Json → Text
  | .text t => t
  | v => v.shown

example : shown (.list [.int 1, .text "a'b", .null]) = "[1, \"a'b\", None]" := by decide
example : shown (.object [("id", .bool true), ("n", .int (-2))]) =
    "\x7b'id': True, 'n': -2\x7d" := by decide
example : plain (.text "it") = "it" := by decide

end Json

end TaskBrowser
