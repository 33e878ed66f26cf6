import TaskBrowser.Export
import TaskBrowser.Host
import TaskBrowser.Interpreter
import TaskBrowser.ShellWords

/-!
# The client of the task program

Every operation is a run of the task program with an argument list.  Apart from asking for its
version and from the editor, the program is told not to ask for confirmation and not to print
more than it has to.  A run that ends with a status other than zero is a failure, which tells
what the program printed.
-/

namespace TaskBrowser

/-- The client of a task program of a given name. -/
structure Client where
  /-- The name of the task program. -/
  program : Text

namespace Client

/-- The arguments that keep the task program quiet. -/
def quiet : List Text := ["rc.confirmation:no", "rc.verbose:nothing"]

/-- The argument list of a run. -/
def argv (c : Client) (overrides : Bool) (args : List Text) : List Text :=
  c.program :: (if overrides then quiet ++ args else args)

/-- What a failed run told. -/
def told (out err : Text) (status : Int) : Text :=
  match Text.trim (if err.isEmpty then out else err) with
  | [] => "exit status " ++ Text.ofInt status
  | t => t

/-- The note of a run. -/
def runNote (argv : List Text) : Note where
  level := .debug
  source := .client
  message := "running " ++ Text.join " " argv
  detail := .argv argv

/-- Runs the task program and gives what it printed. -/
def run (c : Client) (args : List Text) (overrides : Bool) : HostAction Text := do
  let argv := c.argv overrides args
  HostAction.note (runNote argv)
  match ← HostAction.runTask argv with
  | .notRunnable => HostAction.fail (.notRunnable argv)
  | .raised c => HostAction.crash c
  | .ended out err status =>
      if status = 0 then return out
      else HostAction.fail (.taskFailed args (told out err status) argv status)

/-- The number that a version text holds, or the whole text if it holds none. -/
def versionIn (t : Text) : Text :=
  match t.dropWhile (!Text.isAsciiDigit ·) with
  | [] => t
  | c :: u => c :: u.takeWhile fun d => Text.isAsciiDigit d || d == '.' || d == '-'

/-- The version of the task program. -/
def version (c : Client) : HostAction Text := do
  let out ← c.run ["--version"] false
  return versionIn (Text.trim out)

/-- The words of an argument line. -/
def splitArguments (line : Text) : Except Failure (List Text) :=
  match ShellWords.split line with
  | some ws => .ok ws
  | none => .error (.unparsableArguments line)

/-- The words of an argument line, or a failure. -/
def arguments (line : Text) : HostAction (List Text) :=
  match splitArguments line with
  | .ok ws => pure ws
  | .error f => HostAction.fail f

/-- The note of an export. -/
def exportNote (filter : Option Text) : Note where
  level := .debug
  source := .client
  message := "reloading tasks (" ++ filter.getD "None" ++ ")"

variable [Interpreter]

/-- The records of what the last run has printed on a host. -/
def exported (h : Host) (out : Text) : Attempt (List Record) :=
  Export.records (Interpreter.nesting h.ran.length) out

/-- Reads the records of what the last run has printed. -/
def readExport (out : Text) : HostAction (List Record) := do
  HostAction.attempt (exported (← get) out)

/-- The records of the tasks that pass a filter. -/
def exportAll (c : Client) (filter : Option Text) : HostAction (List Record) := do
  let args ← arguments (filter.getD [])
  HostAction.note (exportNote filter)
  let out ← c.run (args ++ [("export" : Text)]) true
  readExport out

/-- The record of one task. -/
def exportOne (c : Client) (uuid : Text) : HostAction (Option Record) := do
  let out ← c.run [uuid, "export"] true
  let rs ← readExport out
  return rs.head?

/-- Marks a task as done. -/
def complete (c : Client) (uuid : Text) : HostAction Text := c.run [uuid, "done"] true

/-- Deletes a task. -/
def delete (c : Client) (uuid : Text) : HostAction Text := c.run [uuid, "delete"] true

/-- Starts working on a task. -/
def start (c : Client) (uuid : Text) : HostAction Text := c.run [uuid, "start"] true

/-- Stops working on a task. -/
def stop (c : Client) (uuid : Text) : HostAction Text := c.run [uuid, "stop"] true

/-- Adds a task. -/
def add (c : Client) (line : Text) : HostAction Text := do
  let args ← arguments line
  c.run ("add" :: args) true

/-- Changes a task. -/
def modify (c : Client) (uuid line : Text) : HostAction Text := do
  let args ← arguments line
  c.run (uuid :: "modify" :: args) true

/-- Takes the last change back. -/
def undo (c : Client) : HostAction Text := c.run ["undo"] true

/-- Synchronises with the task server. -/
def sync (c : Client) : HostAction Text := c.run ["sync"] true

/-- The details of a task. -/
def info (c : Client) (uuid : Text) : HostAction Text := c.run [uuid, "info"] true

/-- Runs the editor on a task and gives its status. -/
def edit (c : Client) (uuid : Text) : HostAction Int := do
  let argv := [c.program, uuid, "edit"]
  match ← HostAction.runTask argv with
  | .notRunnable => HostAction.fail (.notRunnable argv)
  | .raised c => HostAction.crash c
  | .ended _ _ status => return status

end Client

end TaskBrowser
