import TaskBrowser.Calendar.Moment
import TaskBrowser.Files.System
import TaskBrowser.Note
import TaskBrowser.Text.Case

/-!
# The host

What surrounds the program: the files that it can read, the clock, the task program, and the
notes.  The task program is a list of answers, of which every run takes the next one; when there
are no more, a run succeeds and prints nothing.  All runs are kept with their arguments.  A note
is kept if its level is not below the threshold.

The files may change while the program runs, by what the task program does and by the notes that
go into a file, so they are given by both.

A run of the task program may also be *raised*: the system does not take its arguments, as when
one of them holds the character of code zero, or what it prints is no text.

A `HostAction` changes the host and may end in a fault; what it changed before stays changed.
-/

namespace TaskBrowser

/-- What comes of running the task program. -/
inductive Answer where
  /-- It cannot be run. -/
  | notRunnable
  /-- Its arguments are not taken, or what it prints is not. -/
  | raised (c : Crash)
  /-- It ends, with what it printed and its status. -/
  | ended (out err : Text) (status : Int)
deriving DecidableEq

/-- The answer of a program that does nothing. -/
def Answer.silent : Answer := .ended [] [] 0

/-- The files by the runs of the task program and the notes so far. -/
abbrev Files := (ran : List (List Text)) → (notes : List Note) → FileSystem

/-- What surrounds the program. -/
structure Host where
  /-- The home directories. -/
  homes : Homes := {}
  /-- The files. -/
  files : Files
  /-- The clock. -/
  now : Clock
  /-- The answers of the task program that are still to come. -/
  answers : List Answer := []
  /-- The argument lists that the task program was run with. -/
  ran : List (List Text) := []
  /-- The least rank of notes that are kept. -/
  threshold : Nat := 30
  /-- The notes that were kept. -/
  notes : List Note := []

/-- An action that changes the host. -/
abbrev HostAction (α : Type) := ExceptT Fault (StateM Host) α

namespace Host

/-- The files as they are now. -/
def fileSystem (h : Host) : FileSystem := h.files h.ran h.notes

/-- The host with a note, if it is kept. -/
def withNote (h : Host) (n : Note) : Host :=
  if h.threshold ≤ n.level.rank then { h with notes := h.notes ++ [n] } else h

/-- The host with notes, as far as they are kept. -/
def withNotes (h : Host) (ns : List Note) : Host := ns.foldl withNote h

/-- The next answer of the task program and the host after a run with an argument list. -/
def runTask (h : Host) (argv : List Text) : Answer × Host :=
  match h.answers with
  | [] => (.silent, { h with ran := h.ran ++ [argv] })
  | a :: rest => (a, { h with ran := h.ran ++ [argv], answers := rest })

end Host

namespace HostAction

/-- The end of an action in a failure. -/
def fail {α : Type} (f : Failure) : HostAction α := throw (.failure f)

/-- The end of an action in a crash. -/
def crash {α : Type} (c : Crash) : HostAction α := throw (.crash c)

/-- Takes a note. -/
def note (n : Note) : HostAction Unit := modify (·.withNote n)

/-- Does what only takes notes. -/
def attempt {α : Type} (x : Attempt α) : HostAction α := do
  modify (·.withNotes x.notes)
  match x.outcome with
  | .ok a => return a
  | .error e => throw e

/-- Runs the task program with an argument list. -/
def runTask (argv : List Text) : HostAction Answer := do
  let h ← get
  let (a, h) := h.runTask argv
  set h
  return a

end HostAction

/-! ## Thresholds -/

/-- The words for thresholds with their ranks. -/
def thresholds : List (Text × Nat) :=
  [("CRITICAL", 50), ("FATAL", 50), ("ERROR", 40), ("WARNING", 30), ("WARN", 30), ("INFO", 20),
   ("DEBUG", 10), ("NOTSET", 0)]

/-- The threshold that a word in upper case names.  Other words count as a warning's, except for
the names of the log's default layout and of its table of layouts, which are no thresholds. -/
def thresholdOf (t : Text) : Except Crash Nat :=
  match thresholds.lookup t with
  | some n => .ok n
  | none =>
      if t = "BASIC_FORMAT" then .error (.levelWithoutNumber "%(levelname)s:%(name)s:%(message)s")
      else if t = "_STYLES" then .error .levelIsTable
      else .ok 30

end TaskBrowser
