import TaskBrowser.Session.Setting
import TaskBrowser.Text.Blank

/-!
# The command language

A command line is a word and, after a space, its arguments.  Command lines come from the prompt
and from command files, and some variables can be set from a file only.

    set <variable> <value>
    show <variable>
    color <object> <fg> <bg> [rule]
    source <path>
    reload, sync, undo, sort [mode], filter <text>, search <pattern>, search_next
    version, dump

Every command answers with a message.  A command file runs its lines one after another, apart from
blank lines and those that start with `#`; a line that fails is noted and the next one runs.
Command files may run other command files, as deep as the interpreter allows.
-/

namespace TaskBrowser

/-- A command. -/
inductive Command where
  /-- Sets a variable. -/
  | set
  /-- Shows a variable. -/
  | show
  /-- Adds a colour rule. -/
  | color
  /-- Runs a command file. -/
  | source
  /-- Loads the tasks. -/
  | reload
  /-- Synchronises with the task server. -/
  | sync
  /-- Takes the last change back. -/
  | undo
  /-- Sorts the tasks. -/
  | sort
  /-- Filters the tasks. -/
  | filter
  /-- Searches for a task. -/
  | search
  /-- Searches for the next task. -/
  | searchNext
  /-- Tells the version. -/
  | version
  /-- Notes all tasks. -/
  | dump
deriving DecidableEq, Repr

namespace Command

variable [Interpreter] [Validator]

/-- The commands in order. -/
def all : List Command :=
  [.set, .show, .color, .source, .reload, .sync, .undo, .sort, .filter, .search, .searchNext,
   .version, .dump]

/-- The word for a command. -/
def name : Command → Text
  | .set => "set"
  | .show => "show"
  | .color => "color"
  | .source => "source"
  | .reload => "reload"
  | .sync => "sync"
  | .undo => "undo"
  | .sort => "sort"
  | .filter => "filter"
  | .search => "search"
  | .searchNext => "search_next"
  | .version => "version"
  | .dump => "dump"

/-- The command of a word. -/
def ofName? (t : Text) : Option Command := all.find? (·.name == t)

/-- A text up to the first space and the text after it. -/
def splitSpace (t : Text) : Text × Text := (Text.splitAt? " " t).getD (t, [])

/-! ## The commands -/

/-- Sets a variable and shows it. -/
def runSet (args : Text) (fromFile : Bool) : Action Text := do
  let (name, value) := splitSpace args
  if name.isEmpty then Action.fail .setUsage
  else
    Session.setVariable name value fromFile
    Session.variableMessage name

/-- Shows a variable. -/
def runShow (args : Text) : Action Text :=
  match Text.words args with
  | [] => Action.fail .showUsage
  | name :: _ => Session.variableMessage name

/-- Adds a rule to the colour scheme. -/
def addRule (object : ColorObject) (predicate : Option Text) (c : ColorPair) : Action Text := do
  let s ← Action.session
  match s.board.addRule object predicate c with
  | .error e => Action.fail (.ruleNotApplied e)
  | .ok (_, board) =>
      Action.change (·.withBoard board)
      Action.onHost
        (modify (·.withNotes (Palette.notesSince s.scheme.palette board.scheme.palette)))
      return "applied color rule for " ++ object.name

/-- Adds the colour rule of four words, or of three if it has no predicate. -/
def runColor (args : Text) : Action Text := do
  match Text.wordsAtMost 3 args with
  | object :: fg :: bg :: predicate =>
      match ColorObject.parse? object with
      | none => Action.fail (.invalidObject object)
      | some o =>
          let palette := (← Action.session).scheme.palette
          let foreground ← Action.orCrash (palette.parseColor fg)
          let background ← Action.orCrash (palette.parseColor bg)
          match foreground, background with
          | none, _ => Action.fail (.invalidColor fg)
          | some _, none => Action.fail (.invalidColor bg)
          | some f, some b => addRule o predicate.head? ⟨f, b⟩
  | _ => Action.fail .colorUsage

/-- Sorts the tasks by a sort mode, if one is given. -/
def runSort (args : Text) : Action Text := do
  Session.sort (Text.words args).head?
  return "sorted by " ++ (← Action.session).config.sortMode

/-- Shows the tasks that pass a filter. -/
def runFilter (args : Text) : Action Text := do
  Session.setFilter args
  return "filter applied: " ++ Session.shownFilter (← Action.session).config.filter

/-- The message of a search. -/
def searchResult (found : Bool) : Action Text := do
  let s ← Action.session
  if found then return "found: " ++ s.search.getD "None"
  else Action.fail (.searchFailed (s.message.getD "no matches"))

/-- Searches for a pattern. -/
def runSearch (args : Text) : Action Text := do
  if args.isEmpty then Action.fail .searchUsage else searchResult (← Session.searchFor args)

/-- The note of a task in a dump. -/
def dumpNote (r : Record) : Note where
  level := .info
  source := .commands
  message := "uuid: " ++ r.uuid ++ " description: " ++ r.description ++ " project: " ++
    ((r.project.map Project.value).getD .null).plain ++ " tags: " ++ r.tagsText.getD "None"

/-- Notes all tasks. -/
def runDump : Action Text := do
  let s ← Action.session
  Action.onHost (modify (·.withNotes (s.store.map dumpNote)))
  return "dumped " ++ Text.ofNat s.store.length ++ " tasks to the log"

/-! ## Command lines -/

/-- The note of a command line. -/
def lineNote (line name : Text) : Note where
  level := .debug
  source := .commands
  message := "running command " ++ Text.quoted line
  detail := .command name

/-- Runs a command with its arguments, given how to run a command file. -/
def perform (sourceFile : Text → Action Text) (c : Command) (args : Text) (fromFile : Bool) :
    Action Text := do
  match c with
  | .set => runSet args fromFile
  | .show => runShow args
  | .color => runColor args
  | .source => sourceFile args
  | .reload =>
      Session.reload
      return "task list reloaded"
  | .sync => Session.sync
  | .undo => Session.undo
  | .sort => runSort args
  | .filter => runFilter args
  | .search => runSearch args
  | .searchNext => searchResult (← Session.searchNext)
  | .version => return Program.signature
  | .dump => runDump

/-- Runs a command line, given how to run a command file. -/
def runLineWith (sourceFile : Text → Action Text) (line : Text) (fromFile : Bool) :
    Action Text := do
  let line := Text.trim line
  let (name, args) := splitSpace line
  if line.isEmpty then Action.fail .emptyCommand
  else
    match ofName? name with
    | none => Action.fail (.unknownCommand name)
    | some c =>
        Action.note (lineNote line name)
        perform sourceFile c (Text.trim args) fromFile

/-- The note of a line that failed in a command file. -/
def failedLineNote (file : Text) (number : Nat) (f : Failure) : Note where
  level := .error
  source := .commands
  message := file ++ ":" ++ Text.ofNat number ++ ": " ++ f.message
  detail := .category f.category

/-- Whether a line of a command file is passed over. -/
def isPassedOver (line : Text) : Bool :=
  (Text.trim line).isEmpty || (Text.trim line).head? == some '#'

/-- Runs the lines of a command file, numbered from `number` on, and counts those that fail. -/
def runLines (runLine : Text → Action Text) (file : Text) (number failures : Nat) :
    List Text → Action Nat
  | [] => pure failures
  | line :: lines => do
      if isPassedOver line then runLines runLine file (number + 1) failures lines
      else
        let failed ← Action.rescue (do let _ ← runLine (Text.trim line); return false) fun f => do
          Action.note (failedLineNote file number f)
          return true
        runLines runLine file (number + 1) (if failed then failures + 1 else failures) lines

/-- The text of a command file. -/
def readFile (p : FilePath) : Action Text := do
  match ← Action.orCrash ((← get).host.fileSystem.read p) with
  | .ok t => return t
  | .error reason => Action.fail (.unreadableFile p.toText reason)

/-- Runs a command file, given how to run its lines. -/
def sourceWith (runLine : Text → Action Text) (path : Text) : Action Text := do
  if path.isEmpty then Action.fail .noFileGiven
  else
    let file ← Action.orCrash ((FilePath.ofText path).expand (← get).host.homes)
    let text ← readFile file
    let failures ← runLines runLine file.toText 1 0 (Text.lines text)
    if failures = 0 then return "sourced " ++ file.toText
    else return "sourced " ++ file.toText ++ " (" ++ Text.ofNat failures ++ " errors)"

/-- Runs a command file that is itself run from files, up to a depth. -/
def sourceWithin : (depth : Nat) → Text → Action Text
  | 0, _ => Action.crash .sourceTooDeep
  | depth + 1, path =>
      sourceWith (fun line => runLineWith (sourceWithin depth) line true) path

/-- Runs a command file. -/
def runFile (path : Text) : Action Text := sourceWithin (Interpreter.sourceDepth + 1) path

/-- Runs a command line and gives its message. -/
def runLine (line : Text) (fromFile : Bool) : Action Text := runLineWith runFile line fromFile

end Command

end TaskBrowser
