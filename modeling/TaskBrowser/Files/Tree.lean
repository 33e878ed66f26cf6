import TaskBrowser.Files.System

/-!
# Trees of files

A file system with nothing but the files below the working directory, each with its path from
there and its text.  The directories are those on the way to a file.

Following a path, each name is looked up in the directory reached so far: a file has no names
below it, and a name longer than a file system allows is refused.
-/

namespace TaskBrowser

/-- A file. -/
structure FileEntry where
  /-- The names on the way to it. -/
  names : List Text
  /-- Its text. -/
  text : Text

/-- The files below the working directory. -/
abbrev FileTree := List FileEntry

namespace FileTree

/-- Where a walk through directories stands. -/
inductive Spot where
  /-- In a directory below the working directory, by the names on the way to it. -/
  | inside (names : List Text)
  /-- At a file. -/
  | atFile (text : Text)
  /-- In a directory outside. -/
  | outside
deriving DecidableEq, Repr

/-- The length of a text in bytes. -/
def byteLength (t : Text) : Nat :=
  (t.map fun c =>
    if c.toNat < 0x80 then 1 else if c.toNat < 0x800 then 2 else if c.toNat < 0x10000 then 3
    else 4).foldr (· + ·) 0

/-- What a name is in a directory below the working directory. -/
def child (tree : FileTree) (names : List Text) (name : Text) : Except SystemError Spot :=
  let path := names ++ [name]
  match tree.find? (·.names == path) with
  | some f => .ok (.atFile f.text)
  | none =>
      if tree.any fun f => path.isPrefixOf f.names then .ok (.inside path)
      else .error .noSuchFile

/-- The walk one name further. -/
def step (tree : FileTree) (spot : Spot) (name : Text) : Except SystemError Spot :=
  match spot with
  | .atFile _ => .error .notDirectory
  | .outside =>
      if name = ".." then .ok .outside
      else if 255 < byteLength name then .error .nameTooLong
      else .error .noSuchFile
  | .inside names =>
      if name = ".." then .ok (if names.isEmpty then .outside else .inside names.dropLast)
      else if 255 < byteLength name then .error .nameTooLong
      else tree.child names name

/-- The walk along names. -/
def walk (tree : FileTree) (spot : Spot) : List Text → Except SystemError Spot
  | [] => .ok spot
  | n :: ns =>
      match tree.step spot n with
      | .error e => .error e
      | .ok spot => walk tree spot ns

/-- Where a path leads. -/
def find (tree : FileTree) (p : FilePath) : Except SystemError Spot :=
  if 4096 ≤ byteLength p.toText then .error .nameTooLong
  else tree.walk (if p.root = .here then .inside [] else .outside) p.names

/-- The tree as a file system. -/
def system (tree : FileTree) : FileSystem where
  refusal p :=
    match tree.find p with
    | .error e => some e
    | .ok _ => none
  contents p :=
    match tree.find p with
    | .error e => .error e
    | .ok (.atFile t) => .ok (.text t)
    | .ok _ => .error .isDirectory
  here_ne_file := nofun

/-! ## Writing -/

/-- The names on the way to a path, with `..` taken as one name back, if the path does not lead
outside of the working directory. -/
def namesInside? (p : FilePath) : Option (List Text) :=
  if p.root = .here then
    p.names.foldlM
      (fun (names : List Text) (n : Text) =>
        if n = ".." then (if names.isEmpty then none else some names.dropLast)
        else some (names ++ [n]))
      []
  else none

/-- Whether a file can be put where names lead to, below directories that are there. -/
def takesFile (tree : FileTree) (names : List Text) : Bool :=
  match names.getLast?, tree.walk (.inside []) names.dropLast with
  | some n, .ok (.inside dir) =>
      match tree.child dir n with
      | .ok (.inside _) => false
      | _ => byteLength n ≤ 255
  | _, _ => false

/-- The files with one at the end of names, empty if it is new. -/
def withFile (tree : FileTree) (names : List Text) : FileTree :=
  if tree.any (·.names == names) then tree else tree ++ [⟨names, []⟩]

/-- The files once the one at a path is open for writing, if it can be and is below the working
directory. -/
def opened? (tree : FileTree) (p : FilePath) : Option FileTree :=
  ((namesInside? p).filter tree.takesFile).map tree.withFile

end FileTree

end TaskBrowser
