import TaskBrowser.Color.Scheme
import TaskBrowser.Config
import TaskBrowser.Host
import TaskBrowser.Program
import TaskBrowser.Template.Compile

/-!
# The session

A session holds everything that one run of the program changes: the settings, the tasks that are
shown and which of them is selected, the colour scheme, the search text, the last message, and the
compiled templates.  A *world* is a session and the host around it, and an `Action` changes a
world and may end in a fault; what it changed before stays changed.

The variables that the user sees are read off the session by `Session.variableTable`.
-/

namespace TaskBrowser

/-- What one run of the program changes. -/
structure Session where
  /-- The settings. -/
  config : Config
  /-- The tasks that are shown. -/
  store : Store := []
  /-- The colour scheme. -/
  scheme : Scheme
  /-- The position of the selected task. -/
  selected : Nat := 0
  /-- The text that is searched for. -/
  search : Option Text := none
  /-- The version of the task program. -/
  taskVersion : Text := []
  /-- The last message, until it is shown. -/
  message : Option Text := none
  /-- Whether the last message tells an error. -/
  messageIsError : Bool := false
  /-- The template of the title. -/
  titleTemplate : Template := Template.blank
  /-- The template of a task's line. -/
  taskTemplate : Template := Template.blank
  /-- The template of the title of a task's details. -/
  viewTemplate : Template := Template.blank

/-- A session and what surrounds it. -/
structure World where
  /-- The session. -/
  session : Session
  /-- What surrounds it. -/
  host : Host

/-- An action that changes a world. -/
abbrev Action (α : Type) := ExceptT Fault (StateM World) α

namespace Action

/-- The end of an action in a failure. -/
def fail {α : Type} (f : Failure) : Action α := throw (.failure f)

/-- The end of an action in a crash. -/
def crash {α : Type} (c : Crash) : Action α := throw (.crash c)

/-- The session. -/
def session : Action Session := do return (← get).session

/-- Changes the session. -/
def change (f : Session → Session) : Action Unit :=
  modify fun w => { w with session := f w.session }

/-- Does what changes the host only. -/
def onHost {α : Type} (x : HostAction α) : Action α := do
  let w ← get
  let (r, h) := x.run.run w.host
  set { w with host := h }
  match r with
  | .ok a => return a
  | .error e => throw e

/-- Takes a note. -/
def note (n : Note) : Action Unit := modify fun w => { w with host := w.host.withNote n }

/-- Does what only takes notes. -/
def attempt {α : Type} (x : Attempt α) : Action α := onHost (HostAction.attempt x)

/-- The value of something that may crash. -/
def orCrash {α : Type} : Except Crash α → Action α
  | .ok a => pure a
  | .error c => crash c

/-- An action whose failures, but not its crashes, are passed to another. -/
def rescue {α : Type} (x : Action α) (f : Failure → Action α) : Action α :=
  tryCatch x fun
    | .failure e => f e
    | .crash c => crash c

end Action

/-! ## Variables -/

/-- Something behind a variable. -/
inductive Source where
  /-- A setting. -/
  | setting (s : Setting)
  /-- The level of notes, which takes effect at once. -/
  | logLevel
  /-- The author of the program. -/
  | programAuthor
  /-- The name of the program. -/
  | programName
  /-- The version of the program. -/
  | programVersion
  /-- The text that is searched for. -/
  | search
  /-- The number of the selected line, from one. -/
  | selectedLine
  /-- The number of tasks that are shown. -/
  | taskCount
  /-- The version of the task program. -/
  | taskVersion
deriving DecidableEq, Repr

/-- A variable of the session. -/
structure Entry where
  /-- The name. -/
  name : Text
  /-- What its values are. -/
  kind : VariableKind
  /-- What is behind it. -/
  source : Source
  /-- Who may set it. -/
  permission : Permission := .always

/-- The variables of a session in order. -/
def variableEntries : List Entry :=
  [⟨"filter_string", .text, .setting .filter, .always⟩,
   ⟨"follow_task", .int, .setting .followTask, .always⟩,
   ⟨"history_max", .int, .setting .historyMax, .fromFile⟩,
   ⟨"log_level", .text, .logLevel, .always⟩,
   ⟨"program_author", .text, .programAuthor, .never⟩,
   ⟨"program_name", .text, .programName, .never⟩,
   ⟨"program_version", .text, .programVersion, .never⟩,
   ⟨"search_string", .text, .search, .always⟩,
   ⟨"selected_line", .int, .selectedLine, .always⟩,
   ⟨"sort_mode", .text, .setting .sortMode, .always⟩,
   ⟨"statusbar_timeout", .int, .setting .statusbarTimeout, .always⟩,
   ⟨"task_count", .int, .taskCount, .never⟩,
   ⟨"task_format", .text, .setting .taskFormat, .fromFile⟩,
   ⟨"task_version", .text, .taskVersion, .never⟩,
   ⟨"title_format", .text, .setting .titleFormat, .fromFile⟩,
   ⟨"view_format", .text, .setting .viewFormat, .fromFile⟩]

/-- The names of the variables of a session with their kinds. -/
def variableNames : Template.Names := variableEntries.map fun e => (e.name, e.kind)

namespace Config

/-- The value of a setting. -/
def value (c : Config) : Setting → Json
  | .taskProgram => .text c.taskProgram
  | .commandFile => .text c.commandFile.toText
  | .logLevel => .text c.logLevel
  | .logFile => .text c.logFile.toText
  | .logJson => .bool c.logJson
  | .filter => .text c.filter
  | .sortMode => .text c.sortMode
  | .titleFormat => .text c.titleFormat
  | .taskFormat => .text c.taskFormat
  | .viewFormat => .text c.viewFormat
  | .statusbarTimeout => .int c.statusbarTimeout
  | .followTask => .bool c.followTask
  | .historyMax => .int c.historyMax
  | .colorPairs => .int c.colorPairs

end Config

namespace Session

/-- The current value of what is behind a variable. -/
def value (s : Session) : Source → Json
  | .setting x => s.config.value x
  | .logLevel => .text s.config.logLevel
  | .programAuthor => .text Program.author
  | .programName => .text Program.name
  | .programVersion => .text Program.version
  | .search => (s.search.map Json.text).getD .null
  | .selectedLine => .int (s.selected + 1)
  | .taskCount => .int s.store.length
  | .taskVersion => .text s.taskVersion

/-- The variables with their current values. -/
def variableTable (s : Session) : VariableTable :=
  variableEntries.map fun e =>
    { name := e.name, kind := e.kind, value := s.value e.source, permission := e.permission }

/-- The position nearest to a given one in a list of a length, zero in an empty list. -/
def clamp (count : Nat) (position : Int) : Nat := (min position (count - 1)).toNat

/-- The session with the task nearest to a position selected. -/
def select (s : Session) (position : Int) : Session :=
  { s with selected := clamp s.store.length position }

/-- The session with the first task of an identifier selected, if there is one. -/
def selectUuid (s : Session) (uuid : Text) : Session :=
  match s.store.position? uuid with
  | none => s
  | some n => { s with selected := n }

/-- The selected task. -/
def selectedRecord (s : Session) : Option Record := s.store[s.selected]?

/-- The scheme and the tasks it colours. -/
def board (s : Session) : Board := ⟨s.scheme, s.store⟩

/-- The session with another board. -/
def withBoard (s : Session) (b : Board) : Session := { s with scheme := b.scheme, store := b.store }

/-- Compiles the templates again, one after another. -/
def compileFormats : Action Unit := do
  let title ← Action.orCrash (Template.compile variableNames (← Action.session).config.titleFormat)
  Action.change fun s => { s with titleTemplate := title }
  let task ← Action.orCrash (Template.compile variableNames (← Action.session).config.taskFormat)
  Action.change fun s => { s with taskTemplate := task }
  let view ← Action.orCrash (Template.compile variableNames (← Action.session).config.viewFormat)
  Action.change fun s => { s with viewTemplate := view }

/-- The session before its colour rules are set up. -/
def bare (c : Config) : Session :=
  { config := c, scheme := { palette := { capacity := c.colorPairs } } }

/-- Sets up the colour rules. -/
def addDefaultRules : Action Unit := do
  let s ← Action.session
  let (board, fault) := s.board.addAll Scheme.defaults
  Action.change (·.withBoard board)
  Action.onHost
    (modify (·.withNotes (Palette.notesSince s.scheme.palette board.scheme.palette)))
  match fault with
  | some e => Action.fail (.pairsExhausted e)
  | none => return

/-- Sets up a new session. -/
def setUp : Action Unit := do
  addDefaultRules
  compileFormats

/-- A new session with its settings, on a host. -/
def create (c : Config) (h : Host) : Except Fault Unit × World := setUp.run.run ⟨bare c, h⟩

end Session

end TaskBrowser
