import TaskBrowser.Environment
import TaskBrowser.Files.Tree
import TaskBrowser.Host

/-!
# The surroundings of a run

A run of the program depends on the environment and the accounts of the system, the files, the
programs that can be found, the answers of the task program, the clock, and the terminal.  Opening
the log may add to the files, and what is written to the terminal may be refused, as a character
is that its encoding lacks.

All that the program can tell for itself is the environment.  The rest can be described by a JSON
object, by which the files are a tree and nothing is refused:

    files: an object with the text of each file by its path
    programs: a list of names
    answers: a list of objects with `out`, `err` and `status`, or of `false` for a program that
      cannot be run
    now: a list of the year, the month, the day, the hour and the minute

What is missing is empty, and the clock starts with the year 1970.
-/

namespace TaskBrowser

namespace CommandLine

/-- Why a text cannot be written after another, if it cannot. -/
abbrev Refusal := (written t : Text) → Option Crash

/-- What surrounds a run. -/
structure Surroundings where
  /-- The environment. -/
  env : Environment
  /-- The home directories of the accounts. -/
  accounts : Homes := {}
  /-- The files without the log. -/
  files : Files := fun _ _ => FileTree.system []
  /-- The files once the log at a path is open, if it can be. -/
  opened : FilePath → Option Files := fun _ => none
  /-- The names of the programs that can be found. -/
  programs : List Text := []
  /-- The answers of the task program. -/
  answers : List Answer := []
  /-- The clock. -/
  now : Clock := .universal 1970 1 1 0 0
  /-- The width of the terminal. -/
  terminal : Nat := 80
  /-- What the output refuses. -/
  outRefusal : Refusal := fun _ _ => none
  /-- What the error output refuses. -/
  errRefusal : Refusal := fun _ _ => none

namespace Surroundings

/-- The width to print for. -/
def columns (s : Surroundings) : Int := s.env.columns s.terminal

/-- A text, empty for any other value. -/
def readText : Json → Text
  | .text t => t
  | _ => []

/-- A whole number, zero for any other value. -/
def readNumber : Json → Int
  | .int n => n
  | _ => 0

/-- The items of a list, none for any other value. -/
def readItems : Json → List Json
  | .list items => items
  | _ => []

/-- The members of an object, none for any other value. -/
def readMembers : Json → List (Text × Json)
  | .object ms => ms
  | _ => []

/-- An answer of the task program. -/
def readAnswer : Json → Answer
  | .bool false => .notRunnable
  | v =>
      let get := Json.member (readMembers v)
      .ended (readText (get "out")) (readText (get "err")) (readNumber (get "status"))

/-- A clock, if it is given by five numbers. -/
def readClock? (v : Json) : Option Clock :=
  match (readItems v).map readNumber with
  | [year, month, day, hour, minute] =>
      some (.universal year month.toNat day.toNat hour.toNat minute.toNat)
  | _ => none

/-- The surroundings that an environment and a description give. -/
def ofJson (env : Environment) (v : Json) : Surroundings :=
  let get := Json.member (readMembers v)
  let plain : Surroundings := { env := env }
  let tree : FileTree := (readMembers (get "files")).map fun (path, t) =>
    ⟨(FilePath.ofText path).names, readText t⟩
  { plain with
    files := fun _ _ => tree.system
    opened := fun p => (tree.opened? p).map fun tree _ _ => tree.system
    programs := (readItems (get "programs")).map readText
    answers := (readItems (get "answers")).map readAnswer
    now := (readClock? (get "now")).getD plain.now }

end Surroundings

end CommandLine

end TaskBrowser
