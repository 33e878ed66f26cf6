import TaskBrowser.Command

/-!
# The start of a session

A session that starts asks for the version of the task program, runs its command file if there is
one, and loads the tasks.  A version that cannot be found out is only noted; behind a screen a
start that fails becomes an error message.

`Session.runCommand` runs a command line of the user, whose failures become messages too.
-/

namespace TaskBrowser

namespace Session

variable [Interpreter] [Validator]

/-- The note of a command line that failed at the prompt. -/
def failedCommandNote (line : Text) (f : Failure) : Note where
  level := .error
  source := .session
  message := "command failed: " ++ line
  detail := .category f.category

/-- Runs a command line and leaves its message, or that of its failure. -/
def runCommand (line : Text) : Action Text :=
  Action.rescue
    (do
      let message ← Command.runLine line false
      notify message false)
    fun f => do
      Action.note (failedCommandNote line f)
      notify f.message true

/-- Runs a command file if there is one. -/
def loadCommandFile (p : FilePath) : Action Unit := do
  let w ← get
  let expanded ← Action.orCrash (p.expand w.host.homes)
  if ← Action.orCrash (w.host.fileSystem.leadsSomewhere expanded) then
    let _ ← Command.runFile p.toText
  else Action.note ⟨.info, .session, "no config file at " ++ p.toText, .nothing⟩

/-- Asks the task program for its version. -/
def askVersion : Action Unit :=
  Action.rescue
    (do
      let version ← ask (·.version)
      Action.change fun s => { s with taskVersion := version }
      Action.note ⟨.debug, .session, "task version: " ++ version, .nothing⟩)
    fun f => Action.note ⟨.error, .session, "could not determine task version: " ++ f.message,
      .nothing⟩

/-- Starts a session: asks for the version, runs the command file and loads the tasks. -/
def startup : Action Unit := do
  askVersion
  loadCommandFile (← Action.session).config.commandFile
  reload

/-- The note of a start that failed. -/
def startupNote (source : Part) (f : Failure) : Note where
  level := .error
  source := source
  message := "startup failed: " ++ f.message
  detail := .category f.category

/-- Starts the session behind the screen; a failure becomes an error message. -/
def mount : Action Unit :=
  Action.rescue startup fun f => do
    Action.note (startupNote .app f)
    let _ ← notify f.message true

end Session

end TaskBrowser
