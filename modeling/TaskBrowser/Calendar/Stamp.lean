import TaskBrowser.Calendar.Moment
import TaskBrowser.Number.Binary
import TaskBrowser.Text.Digit

/-!
# Time stamps

The task program writes moments as texts in one of two forms.

* The *compact* form `YYYYMMDDThhmmssZ`.  A month, a day or a part of the time may lack its
  leading zero, and of the ways to read such a text the one that takes the most digits first
  counts.  Digits may be of any script.
* The *calendar* form: a date, one character, and a time with an optional offset.  The date is
  `YYYY-MM-DD`, `YYYYMMDD`, or a year, a week after the letter `W` and a day of the week.  The time
  is `hh`, `hh:mm` or `hh:mm:ss` with or without its colons and with a fraction; what comes right
  before the sign of an offset is taken generously.  Without an offset the time is that of the
  moment itself.

`Stamp.read` answers the seconds of the moment without their fraction.
-/

namespace TaskBrowser

namespace Stamp

/-! ## The compact form -/

/-- A number that a text starts with, and the text after it. -/
abbrev Reading := Nat × Text

/-- Two digits, if the text starts with two whose values pass a test.  A digit that must be one of
several is one of the digits 0 to 9. -/
def twoDigits (first : Char → Bool) (second : Char → Bool) : Text → List Reading
  | a :: b :: t =>
      match first a && second b, Text.decimalValue? a, Text.decimalValue? b with
      | true, some x, some y => [(10 * x + y, t)]
      | _, _, _ => []
  | _ => []

/-- One digit, if the text starts with one that passes a test. -/
def oneDigit (p : Char → Bool) : Text → List Reading
  | a :: t =>
      match p a, Text.decimalValue? a with
      | true, some x => [(x, t)]
      | _, _ => []
  | _ => []

/-- Whether a character is one of the digits from `a` to `b`. -/
def between (a b c : Char) : Bool := a ≤ c && c ≤ b

/-- The ways to read a month. -/
def months (t : Text) : List Reading :=
  twoDigits (· == '1') (between '0' '2') t ++ twoDigits (· == '0') (between '1' '9') t ++
    oneDigit (between '1' '9') t

/-- The ways to read a day; a space may stand for its leading zero. -/
def days (t : Text) : List Reading :=
  twoDigits (· == '3') (between '0' '1') t ++ twoDigits (between '1' '2') Text.isDecimal t ++
    twoDigits (· == '0') (between '1' '9') t ++ oneDigit (between '1' '9') t ++
    match t with
    | ' ' :: u => oneDigit (between '1' '9') u
    | _ => []

/-- The ways to read an hour. -/
def hours (t : Text) : List Reading :=
  twoDigits (· == '2') (between '0' '3') t ++ twoDigits (between '0' '1') Text.isDecimal t ++
    oneDigit Text.isDecimal t

/-- The ways to read a minute. -/
def minutes (t : Text) : List Reading :=
  twoDigits (between '0' '5') Text.isDecimal t ++ oneDigit Text.isDecimal t

/-- The ways to read a second, of which there may be 62. -/
def seconds (t : Text) : List Reading :=
  twoDigits (· == '6') (between '0' '1') t ++ twoDigits (between '0' '5') Text.isDecimal t ++
    oneDigit Text.isDecimal t

/-- The text after a letter of either case. -/
def letter (upper lower : Char) : Text → List Text
  | c :: t => if c = upper || c = lower then [t] else []
  | [] => []

/-- The year that a text starts with. -/
def years : Text → List Reading
  | a :: b :: t =>
      match Text.decimalValue? a, Text.decimalValue? b,
          twoDigits Text.isDecimal Text.isDecimal t with
      | some x, some y, [(z, rest)] => [(1000 * x + 100 * y + z, rest)]
      | _, _, _ => []
  | _ => []

/-- A date and a time of day. -/
structure Fields where
  /-- The date. -/
  date : Date
  /-- The hour. -/
  hour : Nat
  /-- The minute. -/
  minute : Nat
  /-- The second. -/
  second : Nat
deriving DecidableEq

/-- The ways to read a text in the compact form, with what comes after it. -/
def compactReadings (t : Text) : List (Fields × Text) :=
  (years t).flatMap fun (y, t) =>
  (months t).flatMap fun (m, t) =>
  (days t).flatMap fun (d, t) =>
  (letter 'T' 't' t).flatMap fun t =>
  (hours t).flatMap fun (h, t) =>
  (minutes t).flatMap fun (i, t) =>
  (seconds t).flatMap fun (s, t) =>
  (letter 'Z' 'z' t).map fun t => (⟨⟨Int.ofNat y, m, d⟩, h, i, s⟩, t)

/-- The moment of a text in the compact form. -/
def compact (t : Text) : Option Int :=
  match compactReadings t with
  | (f, []) :: _ =>
      if f.date.isValid && f.second < 60 then
        some (Moment.ofDate f.date f.hour f.minute f.second)
      else none
  | _ => none

/-! ## The calendar form -/

/-- The number of `n` digits from 0 to 9 that a text starts with, after `acc`, and the text after
them. -/
def digits : (n acc : Nat) → Text → Option Reading
  | 0, acc, t => some (acc, t)
  | n + 1, acc, c :: t =>
      if Text.isAsciiDigit c then digits n (10 * acc + (c.toNat - '0'.toNat)) t else none
  | _ + 1, _, [] => none

/-- How many digits a text starts with. -/
def digitCount (t : Text) : Nat := (t.takeWhile Text.isAsciiDigit).length

/-- Where the date ends in the calendar form. -/
def dateLength (t : Text) : Option Nat :=
  if t.length = 7 then some 7
  else
    match t.drop 4 with
    | '-' :: 'W' :: rest =>
        match rest.drop 2 with
        | '-' :: [] => none
        | '-' :: _ :: c :: _ => if Text.isAsciiDigit c then some 8 else some 10
        | '-' :: _ => some 10
        | _ => some 8
    | '-' :: _ => some 10
    | 'W' :: rest =>
        let n := digitCount (rest.drop 2)
        if n < 2 then some (7 + n) else if n % 2 = 1 then some 7 else some 8
    | _ => some 8

/-- The date of a day of a week of a year.  A year has 53 weeks if it starts on a Thursday, or on
a Wednesday and is a leap year. -/
def weekDate (y : Int) (week day : Nat) : Option Date :=
  let newYear := Date.toDays ⟨y, 1, 1⟩
  let first := Date.weekday newYear
  let weeks := if first = 3 || (first = 2 && Date.isLeap y) then 53 else 52
  let monday := newYear - first + (if 3 < first then 7 else 0)
  if 1 ≤ week && week ≤ weeks && 1 ≤ day && day ≤ 7 then
    some (Date.ofDays (monday + ((week - 1) * 7 + (day - 1) : Nat)))
  else none

/-- The text after a dash, if one has to be there. -/
def dash (needed : Bool) (t : Text) : Option Text :=
  if needed then
    match t with
    | '-' :: rest => some rest
    | _ => none
  else some t

/-- The date that a whole text stands for in the calendar form. -/
def calendarDate (t : Text) : Option Date := do
  let (y, t) ← digits 4 0 t
  let dashed := t.head? == some '-'
  match if dashed then t.drop 1 else t with
  | 'W' :: t =>
      let (week, t) ← digits 2 0 t
      if t.isEmpty then weekDate y week 1
      else
        let (day, _) ← digits 1 0 (← dash dashed t)
        weekDate y week day
  | t =>
      let (m, t) ← digits 2 0 t
      let (d, t) ← digits 2 0 (← dash dashed t)
      if t.isEmpty then some ⟨y, m, d⟩ else none

/-- A time of day, or an offset, with a fraction of a second in millionths.  `rest` says that
something is left over. -/
structure Span where
  /-- The hours. -/
  hour : Nat
  /-- The minutes. -/
  minute : Nat
  /-- The seconds. -/
  second : Nat
  /-- The millionths of a second. -/
  micro : Nat
  /-- Whether something is left over. -/
  rest : Bool
deriving DecidableEq

/-- The number from the parts of a time that are read so far. -/
def Span.ofParts (parts : List Nat) (micro : Nat) (rest : Bool) : Span :=
  ⟨parts.getD 0 0, parts.getD 1 0, parts.getD 2 0, micro, rest⟩

/-- A fraction, of which six digits count. -/
def fraction (parts : List Nat) (t : Text) : Option Span := do
  let n := min 6 t.length
  let (x, rest) ← digits n 0 t
  return .ofParts parts (x * Nat.pow 10 (6 - n)) !(rest.dropWhile Text.isAsciiDigit).isEmpty

/-- The parts of a time from the next one on, `more` of them at most, given those so far.  The
parts are separated by colons if the first two are. -/
def spanFrom : (more : Nat) → (colons : Bool) → (parts : List Nat) → Text → Option Span
  | 0, _, parts, t => fraction parts t
  | more + 1, colons, parts, t =>
      match digits 2 0 t with
      | none => none
      | some (x, t) =>
          let parts := parts ++ [x]
          match t with
          | [] => some (.ofParts parts 0 false)
          | [c] => if c.toNat < 0x80 then some (.ofParts parts 0 true) else none
          | c :: rest =>
              let colons := if parts.length = 1 then c == ':' else colons
              if colons && c = ':' then spanFrom more colons parts rest
              else if c = '.' || c = ',' then fraction parts rest
              else if colons then none
              else spanFrom more colons parts t

/-- A time of day or an offset. -/
def span (t : Text) : Option Span := spanFrom 3 true [] t

/-- Whether a character is the sign of an offset. -/
def isSign (c : Char) : Bool := c == '+' || c == '-'

/-- An offset after its sign, in millionths of a second.  It is less than a day; one of less than
a second is none. -/
def offset (sign : Char) (t : Text) : Option Int := do
  let s ← span t
  let seconds : Int := (s.hour * 3600 + s.minute * 60 + s.second : Nat)
  let micros : Int := if seconds = 0 then 0 else seconds * 1000000 + s.micro
  if s.rest || 86400 * 1000000 ≤ micros then none
  else return if sign = '-' then -micros else micros

/-- The millionths of a second from midnight, less the offset. -/
def calendarTime (t : Text) : Option Int := do
  let s ← span (t.takeWhile (!isSign ·))
  let shift ←
    match t.dropWhile (!isSign ·) with
    | [] => if s.rest then none else some 0
    | sign :: zone => offset sign zone
  if s.hour < 24 && s.minute < 60 && s.second < 60 then
    return (s.hour * 3600 + s.minute * 60 + s.second : Nat) * 1000000 + (s.micro : Int) - shift
  else none

/-- The seconds of a number of millionths, without their fraction.  The quotient is rounded to
the binary format first. -/
def wholeSeconds (micros : Int) : Int :=
  ((Binary.ofRatio (micros < 0) micros.natAbs 1000000).truncated?).getD 0

/-- The moment of a text in the calendar form. -/
def calendar (t : Text) : Option Int := do
  if t.length < 7 then none
  else
    let n ← dateLength t
    let date ← calendarDate (t.take n)
    let micros ←
      match t.drop n with
      | [] => some 0
      | _ :: time => calendarTime time
    if date.isValid then return wholeSeconds (date.toDays * (86400 * 1000000) + micros) else none

/-- The moment of a text in either form.  In the calendar form the letter `Z` stands for no
offset. -/
def read (t : Text) : Option Int :=
  (compact t).orElse fun _ => calendar (Text.replaceChar 'Z' "+00:00" t)

example : read "20240615T093000Z" = some 1718443800 := by decide +kernel
example : read "2024-06-15T09:30:00+02:00" = some 1718436600 := by decide +kernel
example : read "2024-W01-1" = some 1704067200 := by decide +kernel
example : read "20240230T000000Z" = none := by decide +kernel

end Stamp

end TaskBrowser
