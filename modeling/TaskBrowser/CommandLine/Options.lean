import TaskBrowser.CommandLine.Switch

/-!
# Options

The options of a run are what the switches of its command line say, the last one of a kind
winning.  Letters of switches that take no value may share one hyphen, and the last letter after
it may take the value.

Arguments that are no switches are left over.  They are told at the end, after every fault of the
switches; but a switch that asks for help ends the reading as soon as it is reached.
-/

namespace TaskBrowser

namespace CommandLine

/-- What a command line asks for. -/
structure Options where
  /-- The level of the log. -/
  logLevel : Option Text := none
  /-- The filter. -/
  filter : Option Text := none
  /-- The command file. -/
  config : Option FilePath := none
  /-- The sort mode. -/
  sort : Option Text := none
  /-- The line of a task. -/
  taskFormat : Option Text := none
  /-- The file of the log. -/
  logFile : Option FilePath := none
  /-- Whether the tasks are to be printed. -/
  print : Bool := false
  /-- Whether the variables are to be printed. -/
  dump : Bool := false
  /-- Whether the version is to be printed. -/
  version : Bool := false
deriving DecidableEq, Repr

namespace Options

/-- The options with a switch that takes no value. -/
def turnOn (o : Options) : Switch → Options
  | .print => { o with print := true }
  | .dump => { o with dump := true }
  | .version => { o with version := true }
  | _ => o

/-- The options with a switch and its value. -/
def give (o : Options) (value : Text) : Switch → Options
  | .logLevel => { o with logLevel := some value }
  | .filter => { o with filter := some value }
  | .config => { o with config := some (.ofText value) }
  | .sort => { o with sort := some value }
  | .taskFormat => { o with taskFormat := some value }
  | .logFile => { o with logFile := some (.ofText value) }
  | _ => o

end Options

/-- The switches of one argument: those without a value, and the last one with its value. -/
structure Bundle where
  /-- The switches that take no value, in order. -/
  flags : List Switch := []
  /-- The switch that takes a value, with the value if it is attached. -/
  last : Option (Switch × Option Text) := none
deriving DecidableEq, Repr

namespace Bundle

/-- The bundle of a switch to which nothing is attached. -/
def ofSwitch (s : Switch) : Bundle :=
  if s.takesValue then { last := some (s, none) } else { flags := [s] }

/-- The bundle with a flag in front. -/
def withFlag (s : Switch) (b : Bundle) : Bundle := { b with flags := s :: b.flags }

/-- The bundle of a switch and what is attached to it. -/
def read (s : Switch) (short : Bool) : (attached : Text) → Except UsageFault Bundle
  | [] =>
      if s.takesValue then .ok { last := some (s, some []) } else .error (.needlessValue s [])
  | c :: t =>
      if s.takesValue then .ok { last := some (s, some (c :: t)) }
      else
        match short, Switch.ofLetter? c with
        | true, some next =>
            if t.isEmpty then .ok ((ofSwitch next).withFlag s)
            else (read next true t).map (·.withFlag s)
        | _, _ => .error (.needlessValue s (c :: t))

/-- The bundle of a switch and what may be attached to it. -/
def ofWord (s : Switch) (short : Bool) : Option Text → Except UsageFault Bundle
  | none => .ok (ofSwitch s)
  | some attached => read s short attached

end Bundle

/-- What a command line comes to. -/
inductive Request where
  /-- It asks for help. -/
  | help
  /-- It asks for a run with options. -/
  | run (o : Options)
deriving DecidableEq, Repr

namespace Request

/-- Reads words, given the options so far and the arguments left over, newest first. -/
def readFrom (o : Options) (left : List Text) : List Word → Except UsageFault Request
  | [] => if left.isEmpty then .ok (.run o) else .error (.leftOver left.reverse)
  | .plain t :: ws => readFrom o (t :: left) ws
  | .unknown t :: ws => readFrom o (t :: left) ws
  | .divider :: ws => readFrom o ("--" :: left) ws
  | .switch s short attached :: ws =>
      match Bundle.ofWord s short attached with
      | .error e => .error e
      | .ok b =>
          let o := b.flags.foldl Options.turnOn o
          match b.last, ws with
          | none, ws => if b.flags.contains .help then .ok .help else readFrom o left ws
          | some (s, some v), ws =>
              if b.flags.contains .help then .ok .help else readFrom (o.give v s) left ws
          | some (s, none), .plain v :: ws =>
              if b.flags.contains .help then .ok .help else readFrom (o.give v s) left ws
          | some (s, none), _ => .error (.missingValue s)

/-- What arguments come to. -/
def read (args : List Text) : Except UsageFault Request :=
  match Word.readAll args with
  | .error e => .error e
  | .ok ws => readFrom {} [] ws

example : read [("-pv" : Text)] = .ok (.run { print := true, version := true }) := rfl
example : read [("-fx" : Text), "--s", "d"] =
    .ok (.run { filter := some "x", sort := some "d" }) := rfl
example : read [("--lo" : Text)] = .error (.ambiguous "--lo" [.logLevel, .logFile]) := rfl
example : read [("x" : Text), "-t"] = .error (.missingValue .taskFormat) := rfl
example : read [("x" : Text), "-h", "-t"] = .ok .help := rfl
example : read [("-p" : Text), "-1", "--", "-p"] =
    .error (.leftOver [("-1" : Text), "--", "-p"]) := rfl

end Request

end CommandLine

end TaskBrowser
