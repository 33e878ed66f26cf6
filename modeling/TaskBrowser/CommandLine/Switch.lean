import TaskBrowser.Files.Path
import TaskBrowser.Text.Digit
import TaskBrowser.Text.Quoted

/-!
# Switches of the command line

A *switch* is written with one hyphen and a letter or with two hyphens and a word.  Some switches
take a value: the argument that follows, or what follows the letter or an equals sign in the same
argument.  A long word may be cut short as long as only one switch starts that way.

Every argument is first read for itself, as a `Word`.  An argument that starts with a hyphen and
is no switch counts as plain if it is a hyphen alone, a negative number, or holds a space.  After
two hyphens alone every argument is plain.
-/

namespace TaskBrowser

namespace CommandLine

/-- A switch. -/
inductive Switch where
  /-- Prints the help text. -/
  | help
  /-- Sets the level of the log. -/
  | logLevel
  /-- Sets the filter. -/
  | filter
  /-- Sets the command file. -/
  | config
  /-- Sets the sort mode. -/
  | sort
  /-- Sets the line of a task. -/
  | taskFormat
  /-- Sets the file of the log. -/
  | logFile
  /-- Prints the tasks. -/
  | print
  /-- Prints the variables. -/
  | dump
  /-- Prints the version. -/
  | version
deriving DecidableEq, Repr

namespace Switch

/-- The switches in order. -/
def all : List Switch :=
  [.help, .logLevel, .filter, .config, .sort, .taskFormat, .logFile, .print, .dump, .version]

/-- The letter of a switch. -/
def letter? : Switch → Option Char
  | .help => some 'h'
  | .logLevel => some 'l'
  | .filter => some 'f'
  | .config => some 'c'
  | .sort => some 's'
  | .taskFormat => some 't'
  | .logFile => none
  | .print => some 'p'
  | .dump => some 'd'
  | .version => some 'v'

/-- The long spelling of a switch. -/
def long : Switch → Text
  | .help => "--help"
  | .logLevel => "--loglevel"
  | .filter => "--filter"
  | .config => "--config"
  | .sort => "--sort"
  | .taskFormat => "--task-format"
  | .logFile => "--log-file"
  | .print => "--print"
  | .dump => "--cfgdump"
  | .version => "--version"

/-- The spellings of a switch, the short one first. -/
def spellings (s : Switch) : List Text := (s.letter?.map fun c => ['-', c]).toList ++ [s.long]

/-- What the value of a switch is called, if it takes one. -/
def valueName? : Switch → Option Text
  | .logLevel => some "LOGLEVEL"
  | .filter => some "FILTER"
  | .config => some "CONFIG"
  | .sort => some "SORT"
  | .taskFormat => some "TASK_FORMAT"
  | .logFile => some "LOG_FILE"
  | .help | .print | .dump | .version => none

/-- Whether a switch takes a value. -/
def takesValue (s : Switch) : Bool := s.valueName?.isSome

/-- What the help text says about a switch. -/
def explanation : Switch → Text
  | .help => "show this help message and exit"
  | .logLevel => "Log level (DEBUG, INFO, WARNING, ERROR)"
  | .filter => "Initial task filter (default: status:pending)"
  | .config => "Command file to source at startup"
  | .sort => "Initial sort mode (default: drpu)"
  | .taskFormat => "Task line format string"
  | .logFile => "Run log location (default: /tmp/.tasknc_runlog)"
  | .print => "Print the task list to stdout and exit (no TUI)"
  | .dump => "Print the configuration variables and exit"
  | .version => "Print the version and exit"

/-- The switch of a letter. -/
def ofLetter? (c : Char) : Option Switch := all.find? (·.letter? == some c)

/-- The switch of a spelling. -/
def ofSpelling? (t : Text) : Option Switch := all.find? (·.spellings.contains t)

/-- The switches whose long spelling starts in a given way. -/
def startingWith (t : Text) : List Switch := all.filter fun s => Text.startsWith s.long t

/-- The spellings of a switch, as an error message names it. -/
def title (s : Switch) : Text := Text.join "/" s.spellings

end Switch

/-! ## Faults -/

/-- Why a command line cannot be read. -/
inductive UsageFault where
  /-- A word that is cut short could be one of several switches. -/
  | ambiguous (word : Text) (switches : List Switch)
  /-- A switch that takes no value got one. -/
  | needlessValue (s : Switch) (value : Text)
  /-- A switch that takes a value got none. -/
  | missingValue (s : Switch)
  /-- Arguments are left over. -/
  | leftOver (words : List Text)
deriving DecidableEq, Repr

/-- The wording of a fault. -/
def UsageFault.message : UsageFault → Text
  | .ambiguous word switches =>
      "ambiguous option: " ++ word ++ " could match " ++ Text.join ", " (switches.map Switch.long)
  | .needlessValue s value =>
      "argument " ++ s.title ++ ": ignored explicit argument " ++ Text.quoted value
  | .missingValue s => "argument " ++ s.title ++ ": expected one argument"
  | .leftOver words => "unrecognized arguments: " ++ Text.join " " words

/-! ## Words -/

/-- What an argument is, read for itself. -/
inductive Word where
  /-- A text that is no switch. -/
  | plain (t : Text)
  /-- The two hyphens after which all arguments are plain. -/
  | divider
  /-- A switch, whether it was given by its letter, and what is attached to it. -/
  | switch (s : Switch) (short : Bool) (attached : Option Text)
  /-- A text that looks like a switch and is none. -/
  | unknown (t : Text)
deriving DecidableEq, Repr

namespace Word

/-- Whether a text is a negative number, which may end in a line feed. -/
def isNegativeNumber : Text → Bool
  | '-' :: t =>
      let rest := t.dropWhile Text.isDecimal
      let whole := rest.length < t.length
      match rest with
      | [] => whole
      | ['\n'] => whole
      | '.' :: ds =>
          ds.head?.any Text.isDecimal &&
            (ds.dropWhile Text.isDecimal == [] || ds.dropWhile Text.isDecimal == ['\n'])
      | _ => false
  | _ => false

/-- The word of an argument that starts like a switch and is none. -/
def unmatched (t : Text) : Word :=
  if isNegativeNumber t || t.contains ' ' then .plain t else .unknown t

/-- The parts before and after the first equals sign. -/
def splitValue (t : Text) : Text × Option Text :=
  match Text.splitAt? "=" t with
  | some (name, value) => (name, some value)
  | none => (t, none)

/-- The word of an argument that starts with two hyphens and is cut short, or no switch. -/
def readLong (t : Text) : Except UsageFault Word :=
  let (name, value) := splitValue t
  match Switch.startingWith name with
  | [] => .ok (unmatched t)
  | [s] => .ok (.switch s false value)
  | ss => .error (.ambiguous t ss)

/-- The word of an argument that starts with a hyphen and a letter. -/
def readShort (t : Text) (letter : Char) (rest : Text) : Word :=
  match Switch.ofLetter? letter with
  | some s => .switch s true (some rest)
  | none => unmatched t

/-- The word of a spelling with something after an equals sign. -/
def readEqual? (t : Text) : Option Word := do
  let (name, value) ← Text.splitAt? "=" t
  let s ← Switch.ofSpelling? name
  return .switch s (name != s.long) (some value)

/-- The word of an argument. -/
def read (t : Text) : Except UsageFault Word :=
  match Switch.ofSpelling? t, readEqual? t with
  | some s, _ => .ok (.switch s (t != s.long) none)
  | none, some w => .ok w
  | none, none =>
      match t with
      | '-' :: '-' :: _ => readLong t
      | '-' :: c :: rest => .ok (readShort t c rest)
      | _ => .ok (.plain t)

/-- The words of arguments. -/
def readAll : List Text → Except UsageFault (List Word)
  | [] => .ok []
  | t :: ts =>
      if t = "--" then .ok (.divider :: ts.map .plain)
      else
        match read t with
        | .error e => .error e
        | .ok w => (readAll ts).map (w :: ·)

end Word

end CommandLine

end TaskBrowser
