import TaskBrowser.Screen.TaskScreen

/-!
# Drawing the task screen

The screen draws from the session: the title and the tasks every time, and the status line when
there is a message, which is then taken away.  The message is cleared again when its timer runs
out.

The window of the task list moves no further than it must to show the selected task, which is what
`Window.move` says.  A page has at least one line.
-/

namespace TaskBrowser

namespace TaskScreen

variable [Interpreter] [Toolkit]

/-! ## Drawing -/

/-- A size, or another one where it is zero. -/
def orElse (size other : Nat) : Nat := if size = 0 then other else size

/-- The style of a colour pair. -/
def pairStyle (pair : Nat) : ScreenAction Style := do
  ScreenAction.orCrash (Style.ofPair ((← ScreenAction.session).scheme.palette.content pair))

/-- Draws the title. -/
def drawTitle : ScreenAction Unit := do
  let width := orElse (← ScreenAction.screen).width 80
  let (pair, line) ← ScreenAction.onWorld Session.renderTitle
  let line ← ScreenAction.orCrash (Template.align line width)
  let style ← pairStyle pair
  ScreenAction.change fun s => { s with title := Toolkit.ofText line style }

/-- The lines of the tasks at positions, below those drawn so far. -/
def drawRows (c : RenderContext) (width : Nat) (drawn : StyledText) :
    List Nat → ScreenAction StyledText
  | [] => pure drawn
  | n :: ns => do
      let s ← ScreenAction.session
      match s.store[n]? with
      | none => drawRows c width drawn ns
      | some r =>
          let (pair, line) ← ScreenAction.onWorld (Session.renderTask n r (n == s.selected) c)
          let line ← ScreenAction.orCrash (Template.align line width)
          let style ← pairStyle pair
          drawRows c width (drawn.appendLine line style) ns

/-- Draws the task list. -/
def drawTasks : ScreenAction Unit := do
  let screen ← ScreenAction.screen
  let session ← ScreenAction.session
  if session.store.isEmpty then
    ScreenAction.change fun s =>
      { s with tasks := Toolkit.ofText "no tasks found" { dim := true } }
  else
    let c ← ScreenAction.onWorld Session.context
    let height := orElse screen.height 24
    let count := session.store.length
    let offset := Window.move screen.offset session.selected count height
    ScreenAction.change fun s => { s with offset := offset }
    let drawn ←
      drawRows c (orElse screen.width 80) (Toolkit.ofText [] {})
        (Window.positions offset count height)
    ScreenAction.change fun s => { s with tasks := drawn }

/-- The screen with a new timer of some seconds; of no seconds there is none. -/
def withTimer (s : TaskScreen) (seconds : Int) : TaskScreen :=
  let s := if s.hasTimer then { s with stopped := s.stopped + 1 } else s
  if 0 < seconds then { s with hasTimer := true, timer := some seconds } else s

/-- Draws the status line if there is a message, and takes the message away. -/
def drawStatus : ScreenAction Unit := do
  let session ← ScreenAction.session
  match session.message with
  | none | some [] => return
  | some message =>
      let style ← if session.messageIsError then pairStyle (session.scheme.pairFor .error)
        else pure {}
      ScreenAction.change fun s => { s with status := Toolkit.ofText message style }
      ScreenAction.onWorld (Action.change fun s => { s with message := none })
      ScreenAction.change (·.withTimer session.config.statusbarTimeout)

/-- Draws everything. -/
def draw : ScreenAction Unit := do
  drawTitle
  drawTasks
  drawStatus

/-- Draws everything on a screen of a size. -/
def drawAt (width height : Nat) : ScreenAction Unit := do
  ScreenAction.change fun s => { s with width := width, height := height }
  draw

/-- Clears the status line. -/
def clearStatus : ScreenAction Unit :=
  ScreenAction.change fun s => { s with hasTimer := false, status := {} }

/-! ## Pages -/

/-- The lines of a page, of which there is always one. -/
def pageLines (lines : List Text) : List Text :=
  if lines.isEmpty then ["(no output)"] else lines.map fun t => (Toolkit.ofText t {}).text

/-- Opens a page. -/
def openPage (title : Text) (lines : List Text) : ScreenAction Unit := do
  let session ← ScreenAction.session
  let style ← pairStyle (session.scheme.pairFor .header)
  let title ← ScreenAction.orCrash (Template.align title (← ScreenAction.screen).width)
  ScreenAction.change fun s =>
    { s with pages := s.pages ++ [⟨Toolkit.ofText title style, pageLines lines⟩] }

end TaskScreen

end TaskBrowser
