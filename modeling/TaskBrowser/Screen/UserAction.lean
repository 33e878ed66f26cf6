import TaskBrowser.Screen.Drawing

/-!
# What the user does

A key stands for a `UserAction`.  Most actions do something with the session, and the screen is
drawn again afterwards; a failure becomes an error message, and the screen is drawn all the same.
The others open and close the prompt, open a page, or end the program.

What the user types at the prompt is a command line, or the rest of one, or the arguments of the
task program, as the kind of the prompt says.
-/

namespace TaskBrowser

namespace TaskScreen

variable [Interpreter] [Validator] [Toolkit]

/-! ## The prompt -/

/-- What the prompts show while nothing is typed. -/
def placeholders : List (Text × Text) :=
  [("command", ":"), ("filter", "filter: "), ("search", "search: "), ("add", "add: "),
   ("modify", "modify: "), ("sort", "sort mode: ")]

/-- Opens the prompt for a kind of text. -/
def openPrompt (kind : Text) : ScreenAction Unit :=
  ScreenAction.change fun s =>
    { s with prompt := ⟨true, true, (placeholders.lookup kind).getD [], some kind⟩ }

/-- Closes the prompt. -/
def closePrompt : ScreenAction Unit :=
  ScreenAction.change fun s =>
    { s with prompt := { s.prompt with active := false, focused := false, kind := none } }

/-- Ends the program. -/
def exit : ScreenAction Unit := ScreenAction.change fun s => { s with exited := s.exited + 1 }

/-! ## Actions -/

/-- The note of an action that failed. -/
def failedActionNote (f : Failure) : Note where
  level := .error
  source := .taskList
  message := "action failed: " ++ f.message
  detail := .category f.category

/-- Does something, turns a failure into a message, and draws everything. -/
def perform {α : Type} (x : ScreenAction α) : ScreenAction Unit := do
  tryCatch (do let _ ← x; return ()) fun
    | .failure f => do
        ScreenAction.onWorld (Action.note (failedActionNote f))
        let _ ← ScreenAction.onWorld (Session.notify f.message true)
    | .crash c => throw (.crash c)
  draw

/-- Runs the editor on a task, and loads the task again. -/
def edit (r : Record) : ScreenAction Unit := do
  ScreenAction.change fun s => { s with suspended := s.suspended + 1 }
  let _ ← ScreenAction.onWorld (Session.ask (·.edit r.uuid))
  ScreenAction.onWorld (Session.reloadRecord r.uuid)
  let _ ← ScreenAction.onWorld (Session.notify (Session.about "task " r " edited") false)

/-- Runs the editor on the selected task. -/
def editSelected : ScreenAction Unit := do
  match (← ScreenAction.session).selectedRecord with
  | none =>
      let _ ← ScreenAction.onWorld (Session.notify "no task selected" true)
      draw
  | some r => perform (edit r)

/-- The details of the selected task, or nothing and a message. -/
def details : ScreenAction (Option Text) :=
  tryCatch (do return some (← ScreenAction.onWorld Session.taskInfo)) fun
    | .failure f => do
        let _ ← ScreenAction.onWorld (Session.notify f.message true)
        return none
    | .crash c => throw (.crash c)

/-- Opens the details of the selected task. -/
def viewSelected : ScreenAction Unit := do
  if (← ScreenAction.session).selectedRecord.isSome then
    match ← details with
    | none => draw
    | some info =>
        let (_, title) ← ScreenAction.onWorld Session.renderViewTitle
        openPage title (Text.lines info)

/-- Opens the statistics. -/
def viewStats : ScreenAction Unit := do
  let lines ← ScreenAction.onWorld Session.stats
  openPage " statistics" lines

/-- What the user can do with a key. -/
inductive UserAction where
  /-- Ends the program. -/
  | quit
  /-- Selects the task below. -/
  | scrollDown
  /-- Selects the task above. -/
  | scrollUp
  /-- Selects the first task. -/
  | scrollHome
  /-- Selects the last task. -/
  | scrollEnd
  /-- Loads the tasks. -/
  | reload
  /-- Synchronises with the task server. -/
  | sync
  /-- Takes the last change back. -/
  | undo
  /-- Marks the selected task as done. -/
  | complete
  /-- Deletes the selected task. -/
  | delete
  /-- Starts or stops the selected task. -/
  | toggleStarted
  /-- Opens the prompt for a kind of text. -/
  | prompt (kind : Text)
  /-- Runs the editor on the selected task. -/
  | edit
  /-- Opens the details of the selected task. -/
  | view
  /-- Selects the next task that matches the search text. -/
  | searchNext
  /-- Opens the statistics. -/
  | stats
  /-- Closes the prompt. -/
  | cancelPrompt
deriving DecidableEq, Repr

/-- The actions that need no more than their name. -/
def simpleActions : List (Text × UserAction) :=
  [("quit", .quit), ("scroll_down", .scrollDown), ("scroll_up", .scrollUp),
   ("scroll_home", .scrollHome), ("scroll_end", .scrollEnd), ("reload", .reload), ("sync", .sync),
   ("undo", .undo), ("complete", .complete), ("delete", .delete),
   ("toggle_started", .toggleStarted), ("edit", .edit), ("view", .view),
   ("search_next", .searchNext), ("stats", .stats), ("cancel_prompt", .cancelPrompt)]

/-- The action of a name and, for a prompt, its kind. -/
def UserAction.ofName? (name : Text) (args : List Text) : Option UserAction :=
  match args with
  | [] => simpleActions.lookup name
  | kind :: _ => if name = "prompt" then some (.prompt kind) else none

/-- An action as it is written. -/
def UserAction.text (a : UserAction) : Text :=
  match a with
  | .prompt kind => "prompt('" ++ kind ++ "')"
  | a => ((simpleActions.find? (·.2 == a)).map (·.1)).getD []

/-- Does what the user asks for. -/
def act : UserAction → ScreenAction Unit
  | .quit => exit
  | .scrollDown => perform (ScreenAction.onWorld Session.scrollDown)
  | .scrollUp => perform (ScreenAction.onWorld Session.scrollUp)
  | .scrollHome => perform (ScreenAction.onWorld Session.scrollHome)
  | .scrollEnd => perform (ScreenAction.onWorld Session.scrollEnd)
  | .reload => perform (ScreenAction.onWorld (Session.runCommand "reload"))
  | .sync => perform (ScreenAction.onWorld Session.sync)
  | .undo => perform (ScreenAction.onWorld Session.undo)
  | .complete => perform (ScreenAction.onWorld Session.complete)
  | .delete => perform (ScreenAction.onWorld Session.delete)
  | .toggleStarted => perform (ScreenAction.onWorld Session.toggleStarted)
  | .prompt kind => openPrompt kind
  | .edit => editSelected
  | .view => viewSelected
  | .searchNext => perform (ScreenAction.onWorld Session.searchNext)
  | .stats => viewStats
  | .cancelPrompt => closePrompt

/-! ## Submitting the prompt -/

/-- What a text is for at a prompt of a kind. -/
def promptAction (kind value : Text) : Option (Action Text) :=
  if kind = "command" then some (Session.runCommand value)
  else if kind = "filter" then some (Session.runCommand ("filter " ++ value))
  else if kind = "search" then some (Session.runCommand ("search " ++ value))
  else if kind = "sort" then some (Session.runCommand ("sort " ++ value))
  else if kind = "add" then some (Session.addTask value)
  else if kind = "modify" then some (Session.modifyTask value)
  else none

/-- Whether a text at a prompt of a kind ends the program. -/
def endsProgram (kind value : Text) : Bool :=
  kind == "command".toList && (value == "quit".toList || value == "exit".toList)

/-- Takes the text that the user typed at the prompt. -/
def submit (text : Text) : ScreenAction Unit := do
  let value := Text.trim text
  let kind := (← ScreenAction.screen).prompt.kind
  closePrompt
  match kind with
  | none => return
  | some kind =>
      if endsProgram kind value then exit
      else if value.isEmpty && kind != "filter".toList then draw
      else
        match promptAction kind value with
        | none => throw (.crash (.unknownPrompt kind))
        | some x => perform (ScreenAction.onWorld x)

/-! ## Keys -/

/-- What keys do. -/
structure KeyBinding where
  /-- The keys, with commas between them. -/
  keys : Text
  /-- What the user does with them. -/
  action : UserAction
  /-- What that is called. -/
  description : Text
  /-- Whether it is shown at the bottom of the screen. -/
  shown : Bool := true

/-- The keys of the task screen. -/
def keyBindings : List KeyBinding :=
  [⟨"q", .quit, "Quit", true⟩,
   ⟨"j,down", .scrollDown, "Down", false⟩,
   ⟨"k,up", .scrollUp, "Up", false⟩,
   ⟨"g,home", .scrollHome, "Top", false⟩,
   ⟨"G,end", .scrollEnd, "Bottom", false⟩,
   ⟨"r", .reload, "Reload", true⟩,
   ⟨"y", .sync, "Sync", true⟩,
   ⟨"u", .undo, "Undo", true⟩,
   ⟨"c", .complete, "Complete", true⟩,
   ⟨"d", .delete, "Delete", true⟩,
   ⟨"t", .toggleStarted, "Start/Stop", true⟩,
   ⟨"a", .prompt "add", "Add", true⟩,
   ⟨"m", .prompt "modify", "Modify", true⟩,
   ⟨"e", .edit, "Edit", true⟩,
   ⟨"v,enter", .view, "View", true⟩,
   ⟨"s", .prompt "sort", "Sort", true⟩,
   ⟨"slash", .prompt "search", "Search", true⟩,
   ⟨"n", .searchNext, "Next", false⟩,
   ⟨"f", .prompt "filter", "Filter", true⟩,
   ⟨"colon", .prompt "command", "Command", false⟩,
   ⟨"S", .stats, "Stats", false⟩,
   ⟨"escape", .cancelPrompt, "Cancel", false⟩]

end TaskScreen

end TaskBrowser
