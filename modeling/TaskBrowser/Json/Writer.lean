import TaskBrowser.Json.Basic

/-!
# Writing JSON

A value is written without blanks.  In a text the quote and the backslash are escaped, and every
character outside of the printable ASCII range is written by its code in UTF-16, so what is
written is ASCII throughout.
-/

namespace TaskBrowser

namespace Json

/-- A unit of UTF-16 as an escape. -/
def unitEscape (n : Nat) : Text := '\\' :: 'u' :: Text.hexDigits 4 n

/-- A character inside a written text. -/
def writtenChar (c : Char) : Text :=
  if c = '"' then ['\\', '"']
  else if c = '\\' then ['\\', '\\']
  else if c = '\n' then ['\\', 'n']
  else if c = '\r' then ['\\', 'r']
  else if c = '\t' then ['\\', 't']
  else if ' ' ≤ c && c ≤ '~' then [c]
  else if c.toNat < 0x10000 then unitEscape c.toNat
  else
    let n := c.toNat - 0x10000
    unitEscape (0xd800 + n / 0x400) ++ unitEscape (0xdc00 + n % 0x400)

/-- A text as it is written. -/
def writtenText (t : Text) : Text := '"' :: t.flatMap writtenChar ++ ['"']

mutual

/-- A value as it is written. -/
def written : Json → Text
  | .null => "null"
  | .bool true => "true"
  | .bool false => "false"
  | .int n => Text.ofInt n
  | .real x => x.toText
  | .text t => writtenText t
  | .list items => "[" ++ writtenItems items ++ "]"
  | .object ms => "\x7b" ++ writtenMembers ms ++ "\x7d"

/-- The items of a list, with commas between them. -/
def writtenItems : List Json → Text
  | [] => []
  | v :: vs =>
      match vs with
      | [] => written v
      | _ :: _ => written v ++ "," ++ writtenItems vs

/-- The members of an object, with commas between them. -/
def writtenMembers : List (Text × Json) → Text
  | [] => []
  | (k, v) :: ms =>
      let here := writtenText k ++ ":" ++ written v
      match ms with
      | [] => here
      | _ :: _ => here ++ "," ++ writtenMembers ms

end

example : written (.list [.int 1, .text "a\"\u00e9", .null]) = "[1,\"a\\\"\\u00e9\",null]" := by
  decide

end Json

end TaskBrowser
