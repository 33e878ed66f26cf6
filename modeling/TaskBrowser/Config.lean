import TaskBrowser.Files.Path

/-!
# Settings

The settings of a run.  They start from the defaults and the environment, and are changed by the
command line and by variables.

`Config.set` puts a value given as JSON in the place of a setting, if it can be made a value of the
setting's kind: a text, a path, a whole number, or a truth value.  What can be made of what is up to
a `Validator`, which the settings only rely on to take every text for a text as it is.
-/

namespace TaskBrowser

/-- The settings of a run. -/
structure Config where
  /-- The name of the task program. -/
  taskProgram : Text := "task"
  /-- The command file that is run at the start. -/
  commandFile : FilePath
  /-- The least level of the notes that are kept. -/
  logLevel : Text := "WARNING"
  /-- The file that notes are written to. -/
  logFile : FilePath := .ofText "/tmp/.tasknc_runlog"
  /-- Whether notes are written as JSON. -/
  logJson : Bool := false
  /-- Which tasks are shown. -/
  filter : Text := "status:pending"
  /-- The order in which tasks are shown. -/
  sortMode : Text := "drpu"
  /-- What the title shows. -/
  titleFormat : Text := " $program_name ($selected_line/$task_count) $> $date"
  /-- What the line of a task shows. -/
  taskFormat : Text := " $project $description $> ?$due?$due?$-6priority?"
  /-- What the title of a task's details shows. -/
  viewFormat : Text := " task info"
  /-- For how many seconds a message is shown. -/
  statusbarTimeout : Int := 3
  /-- Whether the selection stays with its task. -/
  followTask : Bool := true
  /-- How many command lines are remembered. -/
  historyMax : Int := 50
  /-- The number of colour pairs. -/
  colorPairs : Int := 256
deriving DecidableEq, Repr

/-- A setting. -/
inductive Setting where
  /-- The name of the task program. -/
  | taskProgram
  /-- The command file. -/
  | commandFile
  /-- The level of notes. -/
  | logLevel
  /-- The file of notes. -/
  | logFile
  /-- Whether notes are JSON. -/
  | logJson
  /-- The filter. -/
  | filter
  /-- The order. -/
  | sortMode
  /-- The title. -/
  | titleFormat
  /-- The line of a task. -/
  | taskFormat
  /-- The title of details. -/
  | viewFormat
  /-- The time of messages. -/
  | statusbarTimeout
  /-- Whether the selection follows. -/
  | followTask
  /-- The length of the history. -/
  | historyMax
  /-- The number of pairs. -/
  | colorPairs
deriving DecidableEq, Repr

/-- The name of a setting. -/
def Setting.name : Setting → Text
  | .taskProgram => "task_bin"
  | .commandFile => "config_file"
  | .logLevel => "log_level"
  | .logFile => "log_file"
  | .logJson => "log_json"
  | .filter => "filter_string"
  | .sortMode => "sort_mode"
  | .titleFormat => "title_format"
  | .taskFormat => "task_format"
  | .viewFormat => "view_format"
  | .statusbarTimeout => "statusbar_timeout"
  | .followTask => "follow_task"
  | .historyMax => "history_max"
  | .colorPairs => "color_pairs"

/-- What can be made of a value, or the name of the reason why it is refused. -/
class Validator where
  /-- A text. -/
  text : Json → Except Text Text
  /-- A path. -/
  path : Json → Except Text FilePath
  /-- A whole number. -/
  integer : Json → Except Text Int
  /-- A truth value. -/
  truth : Json → Except Text Bool
  /-- A text stays as it is. -/
  text_text (t : Text) : text (.text t) = .ok t

namespace Config

variable [Validator]

/-- The settings with a value in the place of one of them. -/
def set (c : Config) (s : Setting) (v : Json) : Except Text Config :=
  match s with
  | .taskProgram => (Validator.text v).map fun x => { c with taskProgram := x }
  | .commandFile => (Validator.path v).map fun x => { c with commandFile := x }
  | .logLevel => (Validator.text v).map fun x => { c with logLevel := x }
  | .logFile => (Validator.path v).map fun x => { c with logFile := x }
  | .logJson => (Validator.truth v).map fun x => { c with logJson := x }
  | .filter => (Validator.text v).map fun x => { c with filter := x }
  | .sortMode => (Validator.text v).map fun x => { c with sortMode := x }
  | .titleFormat => (Validator.text v).map fun x => { c with titleFormat := x }
  | .taskFormat => (Validator.text v).map fun x => { c with taskFormat := x }
  | .viewFormat => (Validator.text v).map fun x => { c with viewFormat := x }
  | .statusbarTimeout => (Validator.integer v).map fun x => { c with statusbarTimeout := x }
  | .followTask => (Validator.truth v).map fun x => { c with followTask := x }
  | .historyMax => (Validator.integer v).map fun x => { c with historyMax := x }
  | .colorPairs => (Validator.integer v).map fun x => { c with colorPairs := x }

end Config

end TaskBrowser
