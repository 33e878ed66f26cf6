import TaskBrowser.Files.Path

/-!
# File systems

A file system is known by how it answers: whether there is something at a path, and what is in the
file there.  An answer may be an error, and the bytes of a file need not be a text.

The program asks whether there is a command file before it reads it.  The errors that say that
there is none are told apart from those that leave it open, and a path that no file system takes
leads nowhere.
-/

namespace TaskBrowser

namespace SystemError

/-- There is no such name. -/
def noSuchFile : SystemError := ⟨2, "No such file or directory"⟩

/-- A file is used as a directory. -/
def notDirectory : SystemError := ⟨20, "Not a directory"⟩

/-- A directory is used as a file. -/
def isDirectory : SystemError := ⟨21, "Is a directory"⟩

/-- A name or the path is too long. -/
def nameTooLong : SystemError := ⟨36, "File name too long"⟩

/-- The numbers of the errors that say that there is nothing at a path: no such name, no open file,
a file as a directory, and links that go round. -/
def absences : List Nat := [2, 9, 20, 40]

/-- Whether an error says that there is nothing at a path. -/
def isAbsence (e : SystemError) : Bool := absences.contains e.number

end SystemError

/-- What is in a file. -/
inductive Contents where
  /-- A text. -/
  | text (t : Text)
  /-- Bytes that are no text. -/
  | undecodable
deriving DecidableEq, Repr

/-- A file system. -/
structure FileSystem where
  /-- Why a path is not reached, if it is not. -/
  refusal : FilePath → Option SystemError
  /-- What is in the file at a path, or why it cannot be read. -/
  contents : FilePath → Except SystemError Contents
  /-- The working directory is not a file. -/
  here_ne_file : ∀ c, contents ⟨.here, []⟩ ≠ .ok c

namespace FileSystem

/-- Whether a path leads anywhere. -/
def leadsSomewhere (files : FileSystem) (p : FilePath) : Except Crash Bool :=
  if p.toText.contains '\x00' then .ok false
  else
    match files.refusal p with
    | none => .ok true
    | some e => if e.isAbsence then .ok false else .error (.unreachable p.toText e)

/-- The text of a file, or why it cannot be read. -/
def read (files : FileSystem) (p : FilePath) : Except Crash (Except Text Text) :=
  if p.toText.contains '\x00' then .error .nullInPath
  else
    match files.contents p with
    | .error e => .ok (.error e.message)
    | .ok .undecodable => .error .undecodable
    | .ok (.text t) => .ok (.ok t)

end FileSystem

end TaskBrowser
