import TaskBrowser.Fault

/-!
# Notes

The program writes notes of what it does.  A note has a level, the part of the program that wrote
it, a message, and at most one detail that a reader of the log may filter by.

A computation that takes notes is `Noted`: its value and the notes in the order they were taken.
`Attempt` adds that the computation may end in a fault, which keeps the notes taken before it.
-/

namespace TaskBrowser

/-- How much a note matters. -/
inductive Level where
  /-- A trace of what happens. -/
  | debug
  /-- An ordinary event. -/
  | info
  /-- Something odd that was passed over. -/
  | warning
  /-- Something that went wrong. -/
  | error
deriving DecidableEq, Repr

/-- The rank of a level among thresholds. -/
def Level.rank : Level → Nat
  | .debug => 10
  | .info => 20
  | .warning => 30
  | .error => 40

/-- The word for a level in the log. -/
def Level.name : Level → Text
  | .debug => "DEBUG"
  | .info => "INFO"
  | .warning => "WARNING"
  | .error => "ERROR"

/-- A part of the program that takes notes. -/
inductive Part where
  /-- Colour rules and pairs. -/
  | colors
  /-- The command language. -/
  | commands
  /-- The session. -/
  | session
  /-- The client of the task program. -/
  | client
  /-- The task list on the screen. -/
  | taskList
  /-- The application around the screens. -/
  | app
  /-- The command line. -/
  | commandLine
deriving DecidableEq, Repr

/-- The name of a part in the log. -/
def Part.name : Part → Text
  | .colors => "tasknc.colors"
  | .commands => "tasknc.commands"
  | .session => "tasknc.session"
  | .client => "tasknc.taskwarrior"
  | .taskList => "tasknc.views.tasklist"
  | .app => "tasknc.app"
  | .commandLine => "tasknc.cli"

/-- A detail of a note. -/
inductive Detail where
  /-- There is none. -/
  | nothing
  /-- The name of the command that ran. -/
  | command (name : Text)
  /-- The argument list of the program that ran. -/
  | argv (words : List Text)
  /-- The predicate that was evaluated. -/
  | rule (text : Text)
  /-- The category of the failure. -/
  | category (c : Category)
deriving DecidableEq

/-- A note. -/
structure Note where
  /-- How much it matters. -/
  level : Level
  /-- Who wrote it. -/
  source : Part
  /-- What it says. -/
  message : Text
  /-- What it can be filtered by. -/
  detail : Detail := .nothing
deriving DecidableEq

/-! ## Computations that take notes -/

/-- A value and the notes taken on the way to it. -/
structure Noted (α : Type) where
  /-- The value. -/
  value : α
  /-- The notes, oldest first. -/
  notes : List Note := []

namespace Noted

instance : Monad Noted where
  pure a := ⟨a, []⟩
  bind x f := ⟨(f x.value).value, x.notes ++ (f x.value).notes⟩

@[simp] theorem value_pure {α : Type} (a : α) : (pure a : Noted α).value = a := rfl

@[simp] theorem notes_pure {α : Type} (a : α) : (pure a : Noted α).notes = [] := rfl

@[simp] theorem value_bind {α β : Type} (x : Noted α) (f : α → Noted β) :
    (x >>= f).value = (f x.value).value := rfl

@[simp] theorem notes_bind {α β : Type} (x : Noted α) (f : α → Noted β) :
    (x >>= f).notes = x.notes ++ (f x.value).notes := rfl

instance : LawfulMonad Noted :=
  LawfulMonad.mk' Noted (fun _ => by simp [Functor.map]) (fun _ _ => by simp [bind, pure])
    (fun _ _ _ => by simp [bind])

/-- Takes one note. -/
def note (n : Note) : Noted Unit := ⟨(), [n]⟩

end Noted

/-- A computation that takes notes and may end in a fault. -/
abbrev Attempt (α : Type) := ExceptT Fault Noted α

namespace Attempt

/-- The end of an attempt in a failure. -/
def fail {α : Type} (f : Failure) : Attempt α := throw (.failure f)

/-- The end of an attempt in a crash. -/
def crash {α : Type} (c : Crash) : Attempt α := throw (.crash c)

/-- Takes one note. -/
def note (n : Note) : Attempt Unit := ExceptT.lift (Noted.note n)

/-- The value of something that may crash. -/
def orCrash {α : Type} : Except Crash α → Attempt α
  | .ok a => pure a
  | .error c => crash c

/-- How an attempt ends. -/
def outcome {α : Type} (x : Attempt α) : Except Fault α := x.run.value

/-- The notes taken by an attempt. -/
def notes {α : Type} (x : Attempt α) : List Note := x.run.notes

end Attempt

end TaskBrowser
