import TaskBrowser.Session.Operations

/-!
# Setting variables

A variable that the user sets takes effect through what is behind it.  A setting is checked
against its kind, and one of the formats compiles the templates again; the level of notes changes
what is kept from then on; an empty search text is none; the number of the selected line selects
the task nearest to it.
-/

namespace TaskBrowser

namespace Session

/-- Whether a setting is the text of a template. -/
def isFormat (s : Setting) : Bool :=
  s == .titleFormat || s == .taskFormat || s == .viewFormat

variable [Validator]

/-- Gives a setting a value, which is refused if it is not of the setting's kind. -/
def assignSetting (s : Setting) (v : Json) : Action Unit := do
  match (← Action.session).config.set s v with
  | .error _ => Action.fail (.invalidValue s.name v.plain)
  | .ok c =>
      Action.change fun session => { session with config := c }
      if isFormat s then compileFormats

/-- Keeps the notes from a level on. -/
def assignLogLevel (v : Json) : Action Unit := do
  let level := Text.upper v.plain
  Action.change fun s => { s with config := { s.config with logLevel := level } }
  let threshold ← Action.orCrash (thresholdOf level)
  modify fun w => { w with host := { w.host with threshold := threshold } }

/-- Gives what is behind a variable a value. -/
def assign (source : Source) (v : Json) : Action Unit := do
  match source with
  | .setting s => assignSetting s v
  | .logLevel => assignLogLevel v
  | .search =>
      Action.change fun s => { s with search := if v.plain.isEmpty then none else some v.plain }
  | .selectedLine =>
      let n ← Action.orCrash v.integer
      moveTo (n - 1)
  | _ => return

/-- The variable and its value as a message. -/
def variableMessage (name : Text) : Action Text := do
  match (← Action.session).variableTable.message name with
  | .ok t => return t
  | .error e => throw e

/-- Sets a variable to what a text stands for. -/
def setVariable (name text : Text) (fromFile : Bool) : Action Unit := do
  match (← Action.session).variableTable.accept name text fromFile with
  | .error f => Action.fail f
  | .ok v =>
      match variableEntries.find? (·.name == name) with
      | none => return
      | some e => assign e.source v

end Session

end TaskBrowser
