import TaskBrowser.Session.Startup
import TaskBrowser.Screen.Toolkit
import TaskBrowser.Screen.Window

/-!
# The task screen

The screen shows a title, the window of the task list and a status line, and below them a prompt
while the user types.  Details and statistics open as pages of lines above it.

A `TaskScreen` is what was drawn last, with the window, the timer and the prompt.  An action of
the screen changes it together with the world that it shows.
-/

namespace TaskBrowser

/-- A page of lines with a title. -/
structure Page where
  /-- The title. -/
  title : StyledText
  /-- The lines. -/
  lines : List Text

/-- The prompt. -/
structure Prompt where
  /-- Whether it is shown. -/
  active : Bool := false
  /-- Whether the keys go to it. -/
  focused : Bool := false
  /-- What is shown while nothing is typed. -/
  placeholder : Text := []
  /-- What the text is for. -/
  kind : Option Text := none

/-- The task screen. -/
structure TaskScreen where
  /-- The width of the screen. -/
  width : Nat := 80
  /-- The height of the task list. -/
  height : Nat := 24
  /-- The title as last drawn. -/
  title : StyledText := {}
  /-- The task list as last drawn. -/
  tasks : StyledText := {}
  /-- The status line as last drawn. -/
  status : StyledText := {}
  /-- The offset of the window of the task list. -/
  offset : Int := 0
  /-- Whether the status line has a timer. -/
  hasTimer : Bool := false
  /-- The seconds that the last timer was set to. -/
  timer : Option Int := none
  /-- How many timers were stopped. -/
  stopped : Nat := 0
  /-- The prompt. -/
  prompt : Prompt := {}
  /-- The pages that were opened. -/
  pages : List Page := []
  /-- How often the program was asked to end. -/
  exited : Nat := 0
  /-- How often the screen was given away. -/
  suspended : Nat := 0

/-- A screen and the world it shows. -/
structure Display where
  /-- The screen. -/
  screen : TaskScreen
  /-- The world. -/
  world : World

/-- An action that changes a screen and its world. -/
abbrev ScreenAction (α : Type) := ExceptT Fault (StateM Display) α

namespace ScreenAction

/-- The screen. -/
def screen : ScreenAction TaskScreen := do return (← get).screen

/-- The session. -/
def session : ScreenAction Session := do return (← get).world.session

/-- Changes the screen. -/
def change (f : TaskScreen → TaskScreen) : ScreenAction Unit :=
  modify fun d => { d with screen := f d.screen }

/-- Does what changes the world only. -/
def onWorld {α : Type} (x : Action α) : ScreenAction α := do
  let d ← get
  let (r, w) := x.run.run d.world
  set { d with world := w }
  match r with
  | .ok a => return a
  | .error e => throw e

/-- The value of something that may crash. -/
def orCrash {α : Type} : Except Crash α → ScreenAction α
  | .ok a => pure a
  | .error c => throw (.crash c)

end ScreenAction

end TaskBrowser
