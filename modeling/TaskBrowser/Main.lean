import TaskBrowser.CommandLine.Run
import TaskBrowser.Platform

/-!
# The program

The program takes its arguments and the variables of the environment from the system, and the
description of everything else from its standard input.  It prints what the run has written, adds
the notes of the run to its log, and ends with the status of the run.
-/

namespace TaskBrowser

/-- The variables that the program asks for. -/
def askedVariables : List String :=
  ["HOME", "COLUMNS", "XDG_CONFIG_HOME", "TASKNC_CONFIG", "TASKNC_TASK_BIN", "TASKNC_LOG_LEVEL",
   "TASKNC_LOG_FILE", "TASKNC_LOG_JSON", "TASKNC_FILTER", "TASKNC_SORT_MODE",
   "TASKNC_COLOR_PAIRS"]

/-- The values of variables. -/
def readEnvironment : List String → IO Environment
  | [] => return []
  | name :: names => do
      let value ← IO.getEnv name
      let more ← readEnvironment names
      match value with
      | none => return more
      | some v => return (name.toList, v.toList) :: more

/-- The surroundings that the environment and the description on the standard input give. -/
def readSurroundings : IO CommandLine.Surroundings := do
  let env ← readEnvironment askedVariables
  let text ← (← IO.getStdin).readToEnd
  return .ofJson env ((Json.read (Interpreter.nesting 0) text.toList).toOption.getD .null)

/-- Adds the notes of a run to its log. -/
def writeLog (now : Clock) (r : CommandLine.Report) : IO Unit := do
  match r.log with
  | some ⟨some file, json, _⟩ =>
      IO.FS.withFile (String.ofList file.toText) .append fun h =>
        r.notes.forM fun n => h.putStrLn (String.ofList (n.logged now json))
  | _ => return

end TaskBrowser

open TaskBrowser in
/-- Runs the program. -/
def main (args : List String) : IO UInt32 := do
  let s ← readSurroundings
  let screen := CommandLine.printScreen s.columns.toNat 24
  let r := CommandLine.run screen s (args.map String.toList)
  IO.print (String.ofList r.out)
  IO.eprint (String.ofList r.err)
  writeLog s.now r
  match r.ending with
  | .ok status => return status.code.toUInt32
  | .error (.failure f) =>
      IO.eprintln (String.ofList f.message)
      return 1
  | .error (.crash _) =>
      IO.eprintln "the run could not be finished"
      return 1
