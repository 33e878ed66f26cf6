import TaskBrowser.Config
import TaskBrowser.Text.Case
import TaskBrowser.Text.Integer

/-!
# The environment

The variables of the environment that the settings start from.  `TASKNC_COLOR_PAIRS` must be a
whole number; the command file and the log file may start with `~`; the command file is otherwise
looked for below `XDG_CONFIG_HOME`, or below `.config` in the home directory.

The accounts of the system have home directories; the one of the program's own account gives way
to the variable `HOME`.

`Environment.columns` is the width to print for, which is the width of the terminal unless
`COLUMNS` is a positive number.
-/

namespace TaskBrowser

/-- Names with their values. -/
abbrev Environment := List (Text × Text)

namespace Environment

/-- The value of a variable. -/
def get? (e : Environment) (name : Text) : Option Text := e.lookup name

/-- The value of a variable, if it is set and not empty. -/
def nonempty? (e : Environment) (name : Text) : Option Text := (e.get? name).filter (!·.isEmpty)

/-- The home directories, of which a variable may name the program's own. -/
def homes (e : Environment) (accounts : Homes) : Homes :=
  { accounts with own := (e.get? "HOME").or accounts.own }

/-- The command file unless another is named. -/
def defaultCommandFile (e : Environment) (accounts : Homes) : Except Crash FilePath :=
  match e.nonempty? "XDG_CONFIG_HOME" with
  | some dir => .ok ((FilePath.ofText dir).below ["tasknc", "config"])
  | none => (FilePath.home (e.homes accounts) []).map (·.below [".config", "tasknc", "config"])

/-- The settings before the environment is asked. -/
def defaults (e : Environment) (accounts : Homes) : Except Crash Config :=
  (e.defaultCommandFile accounts).map fun p => { commandFile := p }

/-- Whether a variable says yes, by one of the given words. -/
def saysYes (e : Environment) (name : Text) (words : List Text) : Bool :=
  words.contains (Text.lower ((e.get? name).getD []))

/-- Whether notes are to be written as JSON, whatever the settings say. -/
def jsonLogging (e : Environment) : Bool := e.saysYes "TASKNC_LOG_JSON" ["1", "true", "yes"]

/-- The number of colour pairs. -/
def colorPairs (e : Environment) : Except Failure Int :=
  match e.get? "TASKNC_COLOR_PAIRS" with
  | none => .ok 256
  | some t => (Text.readInteger t).mapError fun _ => .pairsNotInteger

/-- The settings that the environment gives. -/
def config (e : Environment) (accounts : Homes) : Except Fault Config :=
  match e.colorPairs with
  | .error f => .error (.failure f)
  | .ok pairs =>
      let commandFile :=
        match e.nonempty? "TASKNC_CONFIG" with
        | some t => (FilePath.ofText t).expand (e.homes accounts)
        | none => e.defaultCommandFile accounts
      match commandFile with
      | .error c => .error (.crash c)
      | .ok commandFile =>
          let start : Config := { commandFile := commandFile }
          let logFile :=
            match e.nonempty? "TASKNC_LOG_FILE" with
            | some t => (FilePath.ofText t).expand (e.homes accounts)
            | none => .ok start.logFile
          match logFile with
          | .error c => .error (.crash c)
          | .ok logFile =>
              .ok { start with
                taskProgram := (e.get? "TASKNC_TASK_BIN").getD start.taskProgram
                logLevel := (e.get? "TASKNC_LOG_LEVEL").getD start.logLevel
                logFile := logFile
                logJson := e.saysYes "TASKNC_LOG_JSON" ["1", "true", "yes", "on"]
                filter := (e.get? "TASKNC_FILTER").getD start.filter
                sortMode := (e.get? "TASKNC_SORT_MODE").getD start.sortMode
                colorPairs := pairs }

/-- The width to print for, given the width of the terminal. -/
def columns (e : Environment) (terminal : Nat) : Int :=
  match (e.get? "COLUMNS").map Text.readInteger with
  | some (.ok n) => if 0 < n then n else terminal
  | _ => terminal

end Environment

end TaskBrowser
