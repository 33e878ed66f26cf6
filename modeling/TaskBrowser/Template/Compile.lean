import TaskBrowser.Template.Basic
import TaskBrowser.Text.Digit

/-!
# Compiling templates

A format text is compiled from left to right.

* `$`, an optional `-` for alignment to the right, an optional width, and a word make a field.
  The words are `date` and `time`, the attributes of a task, and the names of the variables, tried
  in that order.  Without a word, the `$` and the character where the word would start are literal
  text, and the dash and the width are dropped.
* `?`, a condition that is not empty, `?`, a positive part, `?`, a negative part and `?` make a
  conditional, unless both parts are empty.  A question mark that starts none is literal text.
* Everything else is literal text.

The parts of a conditional hold no question mark, so conditionals do not nest.  A width is made of
all characters that are digits by property, and one that has no decimal value is a crash.
-/

namespace TaskBrowser

namespace Template

/-- A word of a field. -/
inductive Word where
  /-- The current date. -/
  | date
  /-- The current time. -/
  | time
  /-- An attribute of the task. -/
  | ofTask (a : Attribute)
  /-- A variable. -/
  | named (name : Text) (kind : VariableKind)
deriving DecidableEq

/-- The word as it is written. -/
def Word.text : Word → Text
  | .date => "date"
  | .time => "time"
  | .ofTask a => a.word
  | .named name _ => name

/-- The field of a word in a slot. -/
def Word.field (w : Word) (slot : Slot) : Field :=
  match w with
  | .date => .date slot
  | .time => .time slot
  | .ofTask a => .ofTask a slot
  | .named name kind => .named name kind slot

/-- The names of variables with their kinds. -/
abbrev Names := List (Text × VariableKind)

/-- The words in the order in which they are tried. -/
def words (names : Names) : List Word :=
  .date :: .time :: Attribute.all.map .ofTask ++
    (names.filter fun (n, _) => !n.isEmpty).map fun (n, k) => .named n k

/-- The first of the words that a text starts with, and the text after it. -/
def firstWord (ws : List Word) (t : Text) : Option (Word × Text) :=
  match ws with
  | [] => none
  | w :: ws =>
      match Text.dropLead? w.text t with
      | some rest => some (w, rest)
      | none => firstWord ws t

/-- The width that a text starts with, after the digits of `acc`, and the text after it. -/
def readWidth (acc : Nat) : Text → Except Crash (Nat × Text)
  | [] => .ok (acc, [])
  | c :: t =>
      if Text.isDigit c then
        match Text.decimalValue? c with
        | some d => readWidth (10 * acc + d) t
        | none => .error (.badInteger [c])
      else .ok (acc, c :: t)

/-- The slot that a text starts with, and the text after it. -/
def readSlot (t : Text) : Except Crash (Slot × Text) :=
  let right := t.head? == some '-'
  (readWidth 0 (if right then t.drop 1 else t)).map fun (width, rest) =>
    (⟨Int.ofNat width, right⟩, rest)

/-- A text up to the next question mark and the text after it. -/
def segment (t : Text) : Option (Text × Text) :=
  match t.dropWhile (· != '?') with
  | [] => none
  | _ :: rest => some (t.takeWhile (· != '?'), rest)

/-- The three parts of a conditional whose first question mark is read, and the text after it. -/
def conditional? (t : Text) : Option (Text × Text × Text × Text) := do
  let (condition, t) ← segment t
  let (positive, t) ← segment t
  let (negative, t) ← segment t
  if condition.isEmpty || (positive.isEmpty && negative.isEmpty) then none
  else some (condition, positive, negative, t)

/-- The literal of the characters read so far, which are in reverse. -/
def flush (buffer : Text) : List Field :=
  if buffer.isEmpty then [] else [.literal buffer.reverse]

/-- The fields of a text, given the characters of a literal read so far in reverse.  The measure
is at least the number of characters left and the literal's start. -/
def compileFrom (names : Names) :
    (measure : Nat) → (buffer : Text) → Text → Except Crash (List Field)
  | 0, buffer, _ => .ok (flush buffer)
  | _ + 1, buffer, [] => .ok (flush buffer)
  | measure + 1, buffer, c :: t =>
      if c = '?' then
        match conditional? t with
        | none => (compileFrom names measure ['?'] t).map (flush buffer ++ ·)
        | some (condition, positive, negative, rest) => do
            let condition ← compileFrom names measure [] condition
            let positive ← compileFrom names measure [] positive
            let negative ← compileFrom names measure [] negative
            let more ← compileFrom names measure [] rest
            return flush buffer ++ .conditional condition positive negative {} :: more
      else if c = '$' then do
        let (slot, rest) ← readSlot t
        match firstWord (words names) rest with
        | some (w, rest) =>
            let more ← compileFrom names measure [] rest
            return flush buffer ++ w.field slot :: more
        | none =>
            let more ← compileFrom names measure (rest.take 1 ++ ['$']) (rest.drop 1)
            return flush buffer ++ more
      else compileFrom names measure (c :: buffer) t

/-- The fields of a text. -/
def compileFields (names : Names) (t : Text) : Except Crash (List Field) :=
  compileFrom names (t.length + 1) [] t

/-- The template of a format text. -/
def compile (names : Names) (source : Text) : Except Crash Template :=
  (compileFields names source).map (⟨source, ·⟩)

/-- The template that shows nothing. -/
def blank : Template := ⟨[], []⟩

end Template

end TaskBrowser
