import TaskBrowser.Color.Clause
import TaskBrowser.Interpreter
import TaskBrowser.Note
import TaskBrowser.Record.Basic

/-!
# Predicates of colour rules

A predicate holds for a task if all its clauses do, each turned around if its letter is in upper
case.  Clauses are asked in order, up to the first that does not hold.  A predicate that is absent
or empty always holds, and one that is malformed never does, which is noted.

A part of the task that is not set matches no pattern.  Neither does anything match a malformed
pattern, which is noted too.
-/

namespace TaskBrowser

namespace Predicate

variable [Interpreter]

/-- The note of a malformed pattern. -/
def patternNote (pattern : Text) : Note where
  level := .warning
  source := .colors
  message := "invalid regex in color rule: " ++ Text.quoted pattern

/-- The note of a malformed predicate. -/
def predicateNote (rule : Text) (e : ClauseFault) : Note where
  level := .error
  source := .colors
  message := "malformed rules - " ++ Text.quoted rule ++ ": " ++ e.message
  detail := .rule rule

/-- Whether a value passes the test of a pattern. -/
def search (p : Text → Bool) (v : Json) : Except Crash Bool :=
  match v with
  | .text t => .ok (p t)
  | v => .error (.noSearch v.kind)

/-- Whether a value, if there is one, matches a pattern. -/
def isLike (v : Option Json) (pattern : Text) : Attempt Bool :=
  match v with
  | none => pure false
  | some v =>
      match Interpreter.compile pattern with
      | .error .malformed => do
          Attempt.note (patternNote pattern)
          return false
      | .error (.crash c) => Attempt.crash (.pattern c)
      | .ok p => Attempt.orCrash (search p v)

/-- The part of a task that a pattern is matched with, if it is set.  A task without a priority
has an empty one. -/
def subjectOf (r : Record) : Subject → Option Json
  | .project => r.project.map Project.value
  | .description => some (.text r.description)
  | .tags => r.tagsText.map Json.text
  | .priority => some (.text (r.priority.getD []))

/-- The answer to a question about a task, or about none. -/
def answer (record : Option Record) (selected : Bool) (q : Question) : Attempt Bool :=
  match q, record with
  | .selected, _ => pure selected
  | _, none => pure false
  | .started, some r => pure r.started
  | .isLike s pattern, some r => isLike (subjectOf r s) pattern

/-- Whether all clauses hold for a task, or for none. -/
def allHold (record : Option Record) (selected : Bool) : List Clause → Attempt Bool
  | [] => pure true
  | c :: cs => do
      let b ← answer record selected c.question
      if b == c.inverted then return false else allHold record selected cs

/-- Whether a predicate holds for a task, or for none. -/
def holds (rule : Option Text) (record : Option Record) (selected : Bool) : Attempt Bool :=
  match rule with
  | none | some [] => pure true
  | some t =>
      match Clause.read t with
      | .error e => do
          Attempt.note (predicateNote t e)
          return false
      | .ok cs => allHold record selected cs

end Predicate

end TaskBrowser
