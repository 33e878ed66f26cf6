import TaskBrowser.Fault

/-!
# Paths

A path is a list of names after a root.  Names that are empty or `.` are dropped when a path is
read, and `..` is kept.  Two slashes at the start, and no more than two, are a root of their own.

A first name that is `~` stands for the home directory of the program's own account, and one that
goes on after it for the home of the user of that name.  `Homes` are the home directories that are
known.
-/

namespace TaskBrowser

/-- Where a path starts. -/
inductive PathRoot where
  /-- The working directory. -/
  | here
  /-- The root directory. -/
  | root
  /-- The root directory, with two slashes. -/
  | doubleRoot
deriving DecidableEq, Repr

/-- A path. -/
structure FilePath where
  /-- Where it starts. -/
  root : PathRoot
  /-- The names after that. -/
  names : List Text
deriving DecidableEq, Repr

/-- The home directories of the accounts of a system. -/
structure Homes where
  /-- The home directory of the program's own account. -/
  own : Option Text := none
  /-- The home directories of users by their names. -/
  ofUser : Text → Option Text := fun _ => none

/-- The home directory of a user, or without a name of the program's own account. -/
def Homes.of (homes : Homes) (user : Text) : Option Text :=
  if user.isEmpty then homes.own else homes.ofUser user

namespace FilePath

/-- Where a text starts as a path. -/
def rootOf : Text → PathRoot
  | '/' :: '/' :: '/' :: _ => .root
  | '/' :: '/' :: _ => .doubleRoot
  | '/' :: _ => .root
  | _ => .here

/-- The path that a text stands for. -/
def ofText (t : Text) : FilePath :=
  ⟨rootOf t, (Text.pieces '/' t).filter fun n => !n.isEmpty && n != ['.']⟩

/-- The text of a root. -/
def rootText : PathRoot → Text
  | .here => []
  | .root => "/"
  | .doubleRoot => "//"

/-- The text of a path. -/
def toText (p : FilePath) : Text :=
  match rootText p.root ++ Text.join "/" p.names with
  | [] => "."
  | t => t

/-- The path of names below another. -/
def below (p : FilePath) (names : List Text) : FilePath := { p with names := p.names ++ names }

/-- The text of a home directory without the slashes at its end. -/
def homeText (home : Text) : Text :=
  match Text.dropRightWhile (· == '/') home with
  | [] => "/"
  | t => t

/-- The home directory of a user, or without a name of the program's own account. -/
def home (homes : Homes) (user : Text) : Except Crash FilePath :=
  if user.contains '\x00' then .error .nullInPath
  else
    match homes.of user with
    | none => .error .noHome
    | some t =>
        if (homeText t).head? = some '~' then .error .noHome else .ok (ofText (homeText t))

/-- The path with the home directory in place of a first name after a tilde. -/
def expand (homes : Homes) (p : FilePath) : Except Crash FilePath :=
  match p.root, p.names with
  | .here, ('~' :: user) :: names => (home homes user).map (·.below names)
  | _, _ => .ok p

example : (ofText "./a//b/../c/").toText = "a/b/../c" := by decide
example : (ofText "").toText = "." := by decide
example : ((ofText "~/rc").expand { own := some "/home/u/" }).toOption.map toText =
    some ("/home/u/rc" : Text) := by
  decide

end FilePath

end TaskBrowser
