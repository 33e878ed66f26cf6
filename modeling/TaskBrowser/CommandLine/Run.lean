import TaskBrowser.CommandLine.Options
import TaskBrowser.CommandLine.Surroundings
import TaskBrowser.CommandLine.Usage
import TaskBrowser.Log
import TaskBrowser.Screen.UserAction

/-!
# Running the program

A run reads its command line, takes the settings from the environment and from the options, opens
the log, and looks for the task program.  Then it prints the variables, prints the tasks, or
starts the task screen.

What a run writes is kept in a `Console`: its output, its error output, and the settings with
which the task screen was started.  A line that is refused crashes the run.  The screen itself is
given to the run as an action, so that everything around it is the same whether or not there is a
terminal.
-/

namespace TaskBrowser

namespace CommandLine

variable [Interpreter] [Validator] [Toolkit]

/-- How the program ends. -/
inductive ExitStatus where
  /-- Well. -/
  | success
  /-- The session could not be started. -/
  | notStarted
  /-- The command line or the settings are wrong. -/
  | misconfigured
  /-- The task program is missing. -/
  | noTaskProgram
deriving DecidableEq, Repr

/-- The number of a status. -/
def ExitStatus.code : ExitStatus → Nat
  | .success => 0
  | .notStarted => 1
  | .misconfigured => 2
  | .noTaskProgram => 3

/-- What a run has written, and the world it is in. -/
structure Console where
  /-- The output. -/
  out : Text := []
  /-- The error output. -/
  err : Text := []
  /-- The settings with which the task screen was started. -/
  screens : List Config := []
  /-- What the output refuses. -/
  outRefusal : Refusal := fun _ _ => none
  /-- What the error output refuses. -/
  errRefusal : Refusal := fun _ _ => none
  /-- The world. -/
  world : World

/-- An action that writes. -/
abbrev ConsoleAction (α : Type) := ExceptT Fault (StateM Console) α

namespace ConsoleAction

/-- Does what changes the world only. -/
def onWorld {α : Type} (x : Action α) : ConsoleAction α := do
  let c ← get
  let (r, w) := x.run.run c.world
  set { c with world := w }
  match r with
  | .ok a => return a
  | .error e => throw e

/-- The value of something that may crash. -/
def orCrash {α : Type} : Except Crash α → ConsoleAction α
  | .ok a => pure a
  | .error c => throw (.crash c)

/-- Writes a line, unless it is refused. -/
def print (t : Text) : ConsoleAction Unit := do
  let c ← get
  match c.outRefusal c.out (t ++ ['\n']) with
  | some x => throw (.crash x)
  | none => set { c with out := c.out ++ (t ++ ['\n']) }

end ConsoleAction

/-- A line of error output. -/
def errorLine (t : Text) : Text := Program.name ++ ": " ++ t ++ "\n"

/-- Writes a line of error output, unless it is refused. -/
def complain (t : Text) : ConsoleAction Unit := do
  let c ← get
  match c.errRefusal c.err (errorLine t) with
  | some x => throw (.crash x)
  | none => set { c with err := c.err ++ errorLine t }

/-! ## Output -/

/-- Prints the lines of tasks from a position on. -/
def printRecords (context : RenderContext) (width : Int) (position : Nat) :
    List Record → ConsoleAction Unit
  | [] => pure ()
  | r :: rs => do
      let (_, line) ← ConsoleAction.onWorld (Session.renderTask position r false context)
      let line ← ConsoleAction.orCrash (Template.align line width)
      ConsoleAction.print (Text.trimRight line)
      printRecords context width (position + 1) rs

/-- Prints the lines of all tasks. -/
def printTasks (width : Int) : ConsoleAction Unit := do
  let context ← ConsoleAction.onWorld Session.context
  printRecords context width 0 (← get).world.session.store

/-- Prints the messages of variables. -/
def printVariables : List Text → ConsoleAction Unit
  | [] => pure ()
  | name :: names => do
      ConsoleAction.print (← ConsoleAction.onWorld (Session.variableMessage name))
      printVariables names

/-- Starts the session, draws the task screen of a size once, and prints what it shows. -/
def printScreen (width height : Nat) : ConsoleAction Unit := do
  ConsoleAction.onWorld Session.mount
  let c ← get
  let (r, d) := (TaskScreen.drawAt width height).run.run ⟨{}, c.world⟩
  set { c with world := d.world }
  match r with
  | .error e => throw e
  | .ok () =>
      ConsoleAction.print d.screen.title.text
      ConsoleAction.print d.screen.tasks.text
      ConsoleAction.print d.screen.status.text

/-! ## Runs -/

/-- A note of the command line. -/
def traceNote (t : Text) : Note := ⟨.debug, .commandLine, t, .nothing⟩

/-- Runs the command file and prints the variables. -/
def dump : ConsoleAction ExitStatus := do
  let file := (← get).world.session.config.commandFile
  let failure ← ConsoleAction.onWorld
    (Action.rescue (do Session.loadCommandFile file; return none) fun f => return some f)
  match failure with
  | some f =>
      complain f.message
      return .misconfigured
  | none =>
      printVariables (variableEntries.map (·.name))
      return .success

/-- Starts the session and prints the tasks. -/
def printAll (width : Int) : ConsoleAction ExitStatus := do
  let failure ← ConsoleAction.onWorld
    (Action.rescue (do Session.startup; return none) fun f => return some f)
  match failure with
  | some f =>
      ConsoleAction.onWorld (Action.note (Session.startupNote .commandLine f))
      complain f.message
      return .notStarted
  | none =>
      printTasks width
      return .success

/-- Starts the task screen. -/
def runScreen (screen : ConsoleAction Unit) : ConsoleAction ExitStatus := do
  modify fun c => { c with screens := c.screens ++ [c.world.session.config] }
  screen
  ConsoleAction.onWorld (Action.note (traceNote (Program.name ++ " exiting")))
  return .success

/-- Does what the options ask for, once the log is open. -/
def runOptions (screen : ConsoleAction Unit) (s : Surroundings) (o : Options) :
    ConsoleAction ExitStatus := do
  ConsoleAction.onWorld (Action.note (traceNote (Program.name ++ " started")))
  let program := (← get).world.session.config.taskProgram
  if !s.programs.contains program then
    complain ("task binary not found: " ++ program)
    return .noTaskProgram
  else
    ConsoleAction.onWorld Session.setUp
    if o.dump then dump
    else if o.print then printAll s.columns
    else runScreen screen

/-- The settings with those that the options give. -/
def Options.apply (o : Options) (c : Config) : Config :=
  { c with
    logLevel := o.logLevel.getD c.logLevel
    filter := o.filter.getD c.filter
    commandFile := o.config.getD c.commandFile
    sortMode := o.sort.getD c.sortMode
    taskFormat := o.taskFormat.getD c.taskFormat
    logFile := o.logFile.getD c.logFile }

/-- The log of a run. -/
structure Log where
  /-- Its file, if the file can be written. -/
  file : Option FilePath
  /-- Whether notes are written as JSON. -/
  json : Bool
  /-- The least rank of notes that are kept. -/
  threshold : Nat

/-- Opens the log. -/
def openLog (s : Surroundings) (c : Config) : Except Crash Log :=
  let level :=
    if c.logLevel.isEmpty then (s.env.nonempty? "TASKNC_LOG_LEVEL").getD "WARNING" else c.logLevel
  if c.logFile.toText.contains '\x00' then .error .nullInPath
  else
    (thresholdOf (Text.upper level)).map fun t =>
      ⟨(s.opened c.logFile).map fun _ => c.logFile, c.logJson || s.env.jsonLogging, t⟩

/-- The host of a run. -/
def host (s : Surroundings) (l : Log) : Host where
  homes := s.env.homes s.accounts
  files := (l.file.bind s.opened).getD s.files
  now := s.now
  answers := s.answers
  threshold := l.threshold

/-- What a run of the program comes to. -/
structure Report where
  /-- How it ends. -/
  ending : Except Fault ExitStatus
  /-- The output. -/
  out : Text := []
  /-- The error output. -/
  err : Text := []
  /-- The settings with which the task screen was started. -/
  screens : List Config := []
  /-- The argument lists that the task program was run with. -/
  ran : List (List Text) := []
  /-- The log, if it was opened. -/
  log : Option Log := none
  /-- The notes for the log. -/
  notes : List Note := []

/-- Runs the program with options and settings. -/
def runWith (screen : ConsoleAction Unit) (s : Surroundings) (o : Options) (c : Config) : Report :=
  match openLog s c with
  | .error e => { ending := .error (.crash e) }
  | .ok log =>
      let (ending, console) :=
        (runOptions screen s o).run.run
          { outRefusal := s.outRefusal, errRefusal := s.errRefusal
            world := ⟨Session.bare c, host s log⟩ }
      { ending := ending
        out := console.out
        err := console.err
        screens := console.screens
        ran := console.world.host.ran
        log := some log
        notes := console.world.host.notes }

/-- What comes of a run that only writes something. -/
def printed (s : Surroundings) (status : ExitStatus) (t : Text) : Report :=
  match s.outRefusal [] t with
  | some c => { ending := .error (.crash c) }
  | none => { ending := .ok status, out := t }

/-- What comes of a run that only writes something to the error output. -/
def complained (s : Surroundings) (t : Text) : Report :=
  match s.errRefusal [] t with
  | some c => { ending := .error (.crash c) }
  | none => { ending := .ok .misconfigured, err := t }

/-- Runs the program with arguments. -/
def run (screen : ConsoleAction Unit) (s : Surroundings) (args : List Text) : Report :=
  match Request.read args with
  | .error f => complained s (usageFaultText s.columns f)
  | .ok .help => printed s .success (help s.columns)
  | .ok (.run o) =>
      if o.version then printed s .success (Program.signature ++ "\n")
      else
        match s.env.config s.accounts with
        | .error (.failure f) => complained s (errorLine f.message)
        | .error (.crash .nullInPath) => complained s (errorLine "embedded null byte")
        | .error (.crash c) => { ending := .error (.crash c) }
        | .ok c => runWith screen s o (o.apply c)

end CommandLine

end TaskBrowser
