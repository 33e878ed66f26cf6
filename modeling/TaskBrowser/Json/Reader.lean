import TaskBrowser.Json.Basic
import TaskBrowser.Text.Integer

/-!
# Reading JSON

A reader for the JSON grammar over texts.  Each step takes a text and answers a value together
with the text after it; the blanks of the grammar are the space, the tab, the line feed and the
carriage return.  Beyond the grammar, `NaN`, `Infinity` and `-Infinity` are read as numbers, and a
repeated member name keeps the place of its first and the value of its last occurrence.

Whole numbers are exact and may have up to `Text.digitLimit` digits; numbers with a point or an
exponent are rounded to the binary format, so one that is too large becomes an infinity.  A
character outside the basic plane may be written as two escapes; half of such a pair by itself is
read as the replacement character.

How deep lists and objects may nest is up to the caller.  The readers of values, items and members
recurse on a measure that `Json.read` takes from the length of the text.
-/

namespace TaskBrowser

namespace Json

/-- Why a text is not read as a value. -/
inductive ReadFault where
  /-- The text does not follow the grammar. -/
  | malformed
  /-- A whole number has too many digits. -/
  | tooManyDigits (digits : Nat)
  /-- Lists nest too deep. -/
  | listTooDeep
  /-- Objects nest too deep. -/
  | objectTooDeep
deriving DecidableEq, Repr

/-- Whether a character is a blank of the grammar. -/
def isGap (c : Char) : Bool := c == ' ' || c == '\t' || c == '\n' || c == '\r'

/-- The text without blanks at its start. -/
def skipGaps (t : Text) : Text := t.dropWhile isGap

/-! ## Texts -/

/-- The value of a hexadecimal digit. -/
def hexValue? (c : Char) : Option Nat :=
  if '0' ≤ c && c ≤ '9' then some (c.toNat - '0'.toNat)
  else if 'a' ≤ c && c ≤ 'f' then some (c.toNat - 'a'.toNat + 10)
  else if 'A' ≤ c && c ≤ 'F' then some (c.toNat - 'A'.toNat + 10)
  else none

/-- The value of four hexadecimal digits. -/
def hexUnit? (a b c d : Char) : Option Nat := do
  return 4096 * (← hexValue? a) + 256 * (← hexValue? b) + 16 * (← hexValue? c) + (← hexValue? d)

/-- The character that an escape of one letter stands for. -/
def escaped? : Char → Option Char
  | '"' => some '"'
  | '\\' => some '\\'
  | '/' => some '/'
  | 'b' => some '\x08'
  | 'f' => some '\x0c'
  | 'n' => some '\n'
  | 'r' => some '\r'
  | 't' => some '\t'
  | _ => none

/-- The code units up to the closing quote, and the text after it. -/
def readUnits : Text → Option (List Nat × Text)
  | [] => none
  | c :: t =>
      if c = '"' then some ([], t)
      else if c = '\\' then
        match t with
        | [] => none
        | e :: t =>
            if e = 'u' then
              match t with
              | w :: x :: y :: z :: t =>
                  match hexUnit? w x y z with
                  | none => none
                  | some u => (readUnits t).map fun (us, rest) => (u :: us, rest)
              | _ => none
            else
              match escaped? e with
              | none => none
              | some d => (readUnits t).map fun (us, rest) => (d.toNat :: us, rest)
      else if c.toNat < 0x20 then none
      else (readUnits t).map fun (us, rest) => (c.toNat :: us, rest)

/-- Whether a code unit opens a pair. -/
def opensPair (u : Nat) : Bool := 0xd800 ≤ u && u < 0xdc00

/-- Whether a code unit closes a pair. -/
def closesPair (u : Nat) : Bool := 0xdc00 ≤ u && u < 0xe000

/-- The character of a code unit by itself. -/
def unitChar (u : Nat) : Char :=
  if opensPair u || closesPair u then '\ufffd' else Char.ofNat u

/-- The characters of code units, each pair one character, after a unit that may open a pair. -/
def joinUnits : Option Nat → List Nat → Text
  | none, [] => []
  | some h, [] => [unitChar h]
  | none, u :: us =>
      if opensPair u then joinUnits (some u) us else unitChar u :: joinUnits none us
  | some h, u :: us =>
      if closesPair u then
        Char.ofNat (0x10000 + (h - 0xd800) * 0x400 + (u - 0xdc00)) :: joinUnits none us
      else if opensPair u then unitChar h :: joinUnits (some u) us
      else unitChar h :: unitChar u :: joinUnits none us

/-- A text up to its closing quote, and what comes after it. -/
def readText (t : Text) : Option (Text × Text) :=
  (readUnits t).map fun (us, rest) => (joinUnits none us, rest)

/-! ## Numbers -/

/-- The value of a run of the digits 0 to 9. -/
def asciiValue (ds : Text) : Nat := ds.foldl (fun n c => 10 * n + (c.toNat - '0'.toNat)) 0

/-- The digits of a whole number, which has no leading zero, and the text after them. -/
def wholeDigits : Text → Option (Text × Text)
  | '0' :: t => some (['0'], t)
  | t =>
      match t.takeWhile Text.isAsciiDigit with
      | [] => none
      | ds => some (ds, t.dropWhile Text.isAsciiDigit)

/-- The digits after a point, if a point with a digit follows, and the text after them. -/
def fractionDigits (t : Text) : Option (Text × Text) :=
  match t with
  | '.' :: u =>
      match u.takeWhile Text.isAsciiDigit with
      | [] => none
      | ds => some (ds, u.dropWhile Text.isAsciiDigit)
  | _ => none

/-- Whether an exponent is negative, and its digits and sign removed. -/
def exponentSign : Text → Bool × Text
  | '-' :: t => (true, t)
  | '+' :: t => (false, t)
  | t => (false, t)

/-- An exponent, if one follows, and the text after it. -/
def exponent? (t : Text) : Option (Int × Text) :=
  match t with
  | c :: u =>
      if c = 'e' || c = 'E' then
        let (negative, v) := exponentSign u
        match v.takeWhile Text.isAsciiDigit with
        | [] => none
        | ds =>
            let x : Int := Int.ofNat (asciiValue ds)
            some (if negative then -x else x, v.dropWhile Text.isAsciiDigit)
      else none
  | [] => none

/-- A number whose sign is already read, and the text after it. -/
def readMagnitude (negative : Bool) (t : Text) : Except ReadFault (Json × Text) :=
  match wholeDigits t with
  | none => .error .malformed
  | some (whole, t) =>
      let fraction := fractionDigits t
      let t := (fraction.map (·.2)).getD t
      let power := exponent? t
      let rest := (power.map (·.2)).getD t
      if fraction.isNone && power.isNone then
        if Text.digitLimit < whole.length then .error (.tooManyDigits whole.length)
        else
          let n : Int := Int.ofNat (asciiValue whole)
          .ok (.int (if negative then -n else n), rest)
      else
        let places := (fraction.map (·.1)).getD []
        let x := (power.map (·.1)).getD 0
        .ok (.real (Binary.ofDecimal negative (asciiValue (whole ++ places)) (x - places.length)),
          rest)

/-! ## Values -/

/-- The words that stand for values, with the values. -/
def keywords : List (Text × Json) :=
  [("null", .null), ("true", .bool true), ("false", .bool false),
   ("NaN", .real .notANumber), ("Infinity", .real (.infinite false)),
   ("-Infinity", .real (.infinite true))]

/-- The value of the word that a text starts with, and the text after it. -/
def readKeyword (t : Text) : List (Text × Json) → Option (Json × Text)
  | [] => none
  | (word, v) :: more =>
      match Text.dropLead? word t with
      | some rest => some (v, rest)
      | none => readKeyword t more

/-- A value that is a word or a number, and the text after it. -/
def readScalar (t : Text) : Except ReadFault (Json × Text) :=
  match readKeyword t keywords with
  | some r => .ok r
  | none =>
      match t with
      | '-' :: u => readMagnitude true u
      | t => readMagnitude false t

mutual

/-- The value that a text starts with, and the text after it.  Containers nest `depth` deep. -/
def readValue (measure depth : Nat) (t : Text) : Except ReadFault (Json × Text) :=
  match measure with
  | 0 => .error .malformed
  | measure + 1 =>
      match t with
      | '"' :: t =>
          match readText t with
          | some (s, rest) => .ok (.text s, rest)
          | none => .error .malformed
      | '[' :: t =>
          match depth with
          | 0 => .error .listTooDeep
          | depth + 1 =>
              match skipGaps t with
              | ']' :: rest => .ok (.list [], rest)
              | u => readItems measure depth [] u
      | '\x7b' :: t =>
          match depth with
          | 0 => .error .objectTooDeep
          | depth + 1 =>
              match skipGaps t with
              | '\x7d' :: rest => .ok (.object [], rest)
              | u => readMembers measure depth [] u
      | t => readScalar t

/-- The list whose items so far are `items`, from its next item on. -/
def readItems (measure depth : Nat) (items : List Json) (t : Text) :
    Except ReadFault (Json × Text) :=
  match measure with
  | 0 => .error .malformed
  | measure + 1 =>
      match readValue measure depth t with
      | .error e => .error e
      | .ok (v, rest) =>
          match skipGaps rest with
          | ']' :: rest => .ok (.list (items ++ [v]), rest)
          | ',' :: rest => readItems measure depth (items ++ [v]) (skipGaps rest)
          | _ => .error .malformed

/-- The object whose members so far are `members`, from its next member on. -/
def readMembers (measure depth : Nat) (members : List (Text × Json)) (t : Text) :
    Except ReadFault (Json × Text) :=
  match measure with
  | 0 => .error .malformed
  | measure + 1 =>
      match t with
      | '"' :: t =>
          match readText t with
          | none => .error .malformed
          | some (name, rest) =>
              match skipGaps rest with
              | ':' :: rest =>
                  match readValue measure depth (skipGaps rest) with
                  | .error e => .error e
                  | .ok (v, rest) =>
                      match skipGaps rest with
                      | '\x7d' :: rest => .ok (.object (put members name v), rest)
                      | ',' :: rest =>
                          readMembers measure depth (put members name v) (skipGaps rest)
                      | _ => .error .malformed
              | _ => .error .malformed
      | _ => .error .malformed

end

/-- The value that a whole text stands for, in which lists and objects nest up to a depth. -/
def read (nesting : Nat) (t : Text) : Except ReadFault Json :=
  match readValue (2 * t.length + 2) nesting (skipGaps t) with
  | .error e => .error e
  | .ok (v, rest) => if (skipGaps rest).isEmpty then .ok v else .error .malformed

/-- The form in messages of the value that a text stands for, for the tests below. -/
def readShown (t : Text) : Option Text := (read 3 t).toOption.map shown

example : readShown " [1, -2.50, \"a\\u00e9\\ud83d\\ude42\"] " = some "[1, -2.5, 'aé🙂']" := by
  decide +kernel
example : readShown "\x7b\"a\": \x7b\x7d, \"b\": [], \"a\": null\x7d" =
    some "\x7b'a': None, 'b': []\x7d" := by decide +kernel
example : readShown "[1,]" = none := by decide +kernel
example : readShown "01" = none := by decide +kernel
example : readShown "1e400" = some "inf" := by decide +kernel
example : readShown "\"a\nb\"" = none := by decide +kernel

end Json

end TaskBrowser
