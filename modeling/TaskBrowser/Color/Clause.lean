import TaskBrowser.Fault
import TaskBrowser.Text.Blank
import TaskBrowser.Text.Case

/-!
# Clauses of predicates

The predicate of a colour rule is a text.  Its *clauses* start with a tilde and a letter, and all
of them must hold.  `~s` asks whether the task is selected and `~t` whether it is started.  `~p`,
`~d`, `~t` and `~r` followed by a pattern between single quotes ask whether the project, the
description, the tags or the priority match the pattern; blanks may stand before the first quote.
An upper-case letter turns its clause around.  What stands between clauses is passed over.
-/

namespace TaskBrowser

/-- A part of a task that a pattern is matched with. -/
inductive Subject where
  /-- The project. -/
  | project
  /-- The description. -/
  | description
  /-- The tags. -/
  | tags
  /-- The priority. -/
  | priority
deriving DecidableEq, Repr

/-- What a clause asks. -/
inductive Question where
  /-- Whether the task is selected. -/
  | selected
  /-- Whether the task is started. -/
  | started
  /-- Whether a part of the task matches a pattern. -/
  | isLike (subject : Subject) (pattern : Text)
deriving DecidableEq, Repr

/-- One condition of a predicate. -/
structure Clause where
  /-- What is asked. -/
  question : Question
  /-- Whether the answer is turned around. -/
  inverted : Bool
deriving DecidableEq, Repr

namespace Clause

/-- The letter of a part of a task. -/
def subjectLetter : Subject → Char
  | .project => 'p'
  | .description => 'd'
  | .tags => 't'
  | .priority => 'r'

/-- The letter of a clause, in lower case. -/
def letter (c : Clause) : Char :=
  match c.question with
  | .selected => 's'
  | .started => 't'
  | .isLike s _ => subjectLetter s

/-- The pattern of a clause. -/
def pattern? (c : Clause) : Option Text :=
  match c.question with
  | .isLike _ p => some p
  | _ => none

/-- The pattern between single quotes that a text starts with, apart from blanks, and the text
after it.  Without a quote there is no pattern and the text stays as it is. -/
def readPattern (letter t : Text) : Except ClauseFault (Option Text × Text) :=
  match Text.trimLeft t with
  | '\'' :: u =>
      match u.dropWhile (· != '\'') with
      | [] => .error (.noClosingQuote letter)
      | _ :: rest =>
          match u.takeWhile (· != '\'') with
          | [] => .error (.emptyPattern letter)
          | p => .ok (some p, rest)
  | _ => .ok (none, t)

/-- What a letter in lower case asks, with a pattern or without one. -/
def questionOf (letter : Text) (p : Option Text) : Except ClauseFault Question :=
  match p with
  | none =>
      if letter = ['s'] then .ok .selected
      else if letter = ['t'] then .ok .started
      else .error (.needsPattern letter)
  | some p =>
      if letter = ['p'] then .ok (.isLike .project p)
      else if letter = ['d'] then .ok (.isLike .description p)
      else if letter = ['t'] then .ok (.isLike .tags p)
      else if letter = ['r'] then .ok (.isLike .priority p)
      else .error (.takesNoPattern letter)

/-- The clauses of a text that is at most `measure` long. -/
def readFrom : (measure : Nat) → Text → Except ClauseFault (List Clause)
  | 0, _ => .ok []
  | _ + 1, [] => .ok []
  | measure + 1, c :: t =>
      if c ≠ '~' then readFrom measure t
      else
        match t with
        | [] => .error .noLetter
        | l :: t =>
            let letter := Text.lowered l
            match readPattern letter t with
            | .error e => .error e
            | .ok (p, rest) =>
                match questionOf letter p with
                | .error e => .error e
                | .ok q => (readFrom measure rest).map (⟨q, Text.isUpper l⟩ :: ·)

/-- The clauses of a predicate, in order. -/
def read (t : Text) : Except ClauseFault (List Clause) := readFrom t.length t

example : (read "~s and ~P 'home'").toOption =
    some [⟨.selected, false⟩, ⟨.isLike .project "home", true⟩] := by decide
example : (read "~t'a'~T").toOption = some [⟨.isLike .tags "a", false⟩, ⟨.started, true⟩] := by
  decide
example : (read "~p").toOption = none := by decide
example : (read "~s 'x'").toOption = none := by decide

end Clause

end TaskBrowser
