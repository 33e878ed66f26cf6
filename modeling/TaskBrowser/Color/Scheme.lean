import TaskBrowser.Color.Palette
import TaskBrowser.Color.Rule
import TaskBrowser.Record.Store

/-!
# Colour schemes

A colour rule gives a pair of colours to a kind of object: the header, the tasks that a predicate
holds for, or errors.  A *scheme* holds the rules in the order in which they were first added, no
two for the same object and predicate, and the palette that their pairs come from.

The header and errors take the pair of their first rule.  A task takes the pair of the last rule
whose predicate holds for it, and the record remembers it.  A *board* is a scheme together with
the tasks it colours: when the rules change, the records forget the pairs found for them.
-/

namespace TaskBrowser

/-- A kind of object that has colours. -/
inductive ColorObject where
  /-- The line at the top. -/
  | header
  /-- A task. -/
  | task
  /-- An error message. -/
  | error
deriving DecidableEq, Repr

/-- The word for a kind of object. -/
def ColorObject.name : ColorObject → Text
  | .header => "header"
  | .task => "task"
  | .error => "error"

/-- The kind of object that a text names, blanks around it and case aside. -/
def ColorObject.parse? (t : Text) : Option ColorObject :=
  let t := Text.lower (Text.trim t)
  if t = ColorObject.header.name then some .header
  else if t = ColorObject.task.name then some .task
  else if t = ColorObject.error.name then some .error
  else none

/-- A colour rule. -/
structure ColorRule where
  /-- What it colours. -/
  object : ColorObject
  /-- When it applies. -/
  predicate : Option Text
  /-- The number of its pair. -/
  pair : Nat
deriving DecidableEq, Repr

/-- The rules and the palette. -/
structure Scheme where
  /-- The palette. -/
  palette : Palette := {}
  /-- The rules in order. -/
  rules : List ColorRule := []
deriving DecidableEq, Repr

namespace Scheme

/-- Whether a rule is for an object and a predicate. -/
def isFor (object : ColorObject) (predicate : Option Text) (r : ColorRule) : Bool :=
  r.object == object && r.predicate == predicate

/-- The rules with the pair of the one for an object and a predicate, which is added at the end
if there is none. -/
def put (object : ColorObject) (predicate : Option Text) (pair : Nat) :
    List ColorRule → List ColorRule
  | [] => [⟨object, predicate, pair⟩]
  | r :: rs =>
      if isFor object predicate r then { r with pair := pair } :: rs
      else r :: put object predicate pair rs

/-- The scheme with a rule, and the number of its pair. -/
def add (s : Scheme) (object : ColorObject) (predicate : Option Text) (c : ColorPair) :
    Except Exhausted (Nat × Scheme) :=
  match s.palette.allocate c with
  | .error e => .error e
  | .ok (pair, palette) => .ok (pair, ⟨palette, put object predicate pair s.rules⟩)

/-- The scheme without the rule for an object and a predicate, if it has one. -/
def remove? (s : Scheme) (object : ColorObject) (predicate : Option Text) : Option Scheme :=
  if s.rules.any (isFor object predicate) then
    some { s with rules := s.rules.eraseP (isFor object predicate) }
  else none

/-- A rule to be added. -/
structure Entry where
  /-- What it colours. -/
  object : ColorObject
  /-- When it applies. -/
  predicate : Option Text
  /-- The colours. -/
  colors : ColorPair

/-- The rules that every scheme starts with. -/
def defaults : List Entry :=
  [⟨.header, none, ⟨4, 0⟩⟩, ⟨.task, none, ⟨-1, -1⟩⟩, ⟨.task, some "~s", ⟨6, 0⟩⟩,
   ⟨.error, none, ⟨1, -1⟩⟩]

/-- The scheme with rules added one after another, up to the first that gets no pair. -/
def addAll (s : Scheme) : List Entry → Scheme × Option Exhausted
  | [] => (s, none)
  | e :: es =>
      match s.add e.object e.predicate e.colors with
      | .error x => (s, some x)
      | .ok (_, s) => addAll s es

/-- The rules for an object. -/
def rulesFor (s : Scheme) (object : ColorObject) : List ColorRule :=
  s.rules.filter (·.object == object)

/-- The pair of the header or of errors. -/
def pairFor (s : Scheme) (object : ColorObject) : Nat :=
  match s.rulesFor object with
  | [] => Palette.terminalPair
  | r :: _ => r.pair

variable [Interpreter]

/-- The pair of the last rule whose predicate holds for a task, or for none, starting from the
pair found so far. -/
def lastPair (record : Option Record) (selected : Bool) (pair : Nat) :
    List ColorRule → Attempt Nat
  | [] => pure pair
  | r :: rs => do
      let b ← Predicate.holds r.predicate record selected
      lastPair record selected (if b then r.pair else pair) rs

/-- The pair that the rules give to a task, or to none, whatever was found before. -/
def freshPair (s : Scheme) (record : Option Record) (selected : Bool) : Attempt Nat :=
  lastPair record selected Palette.terminalPair (s.rulesFor .task)

/-- The pair of a task, and the record that remembers it.  Without rules for tasks there is
nothing to remember. -/
def taskPair (s : Scheme) (r : Record) (selected : Bool) : Attempt (Nat × Record) :=
  match r.pair selected with
  | some pair => pure (pair, r)
  | none =>
      if (s.rulesFor .task).isEmpty then pure (Palette.terminalPair, r)
      else do
        let pair ← s.freshPair (some r) selected
        return (pair, r.withPair selected pair)

end Scheme

/-- A scheme and the tasks that it colours. -/
structure Board where
  /-- The scheme. -/
  scheme : Scheme := {}
  /-- The tasks. -/
  store : Store := []

namespace Board

/-- The board with a rule, and the number of its pair. -/
def addRule (b : Board) (object : ColorObject) (predicate : Option Text) (c : ColorPair) :
    Except Exhausted (Nat × Board) :=
  match b.scheme.add object predicate c with
  | .error e => .error e
  | .ok (pair, scheme) => .ok (pair, ⟨scheme, b.store.forgetPairs⟩)

/-- The board without a rule, and whether it had the rule. -/
def removeRule (b : Board) (object : ColorObject) (predicate : Option Text) : Bool × Board :=
  match b.scheme.remove? object predicate with
  | none => (false, b)
  | some scheme => (true, ⟨scheme, b.store.forgetPairs⟩)

/-- The board with rules added one after another, up to the first that gets no pair. -/
def addAll (b : Board) : List Scheme.Entry → Board × Option Exhausted
  | [] => (b, none)
  | e :: es =>
      match b.addRule e.object e.predicate e.colors with
      | .error x => (b, some x)
      | .ok (_, b) => addAll b es

end Board

end TaskBrowser
