import TaskBrowser.Client
import TaskBrowser.Session.State
import TaskBrowser.Template.Render

/-!
# Operations of a session

What the user does with the tasks that are shown: loading and sorting them, moving the selection,
searching, and acting on the selected task through the task program.

Loading replaces the tasks and keeps the order of the sort mode.  When the selection follows its
task it moves to wherever the task with the same identifier is now; otherwise, or if the task is
gone, it stays at its position as far as the list reaches.  After an action on one task only that
task is loaded again, and it is dropped if it no longer passes the filter.
-/

namespace TaskBrowser

namespace Session

/-! ## Messages -/

/-- Leaves a message for the status line, and notes it. -/
def notify (message : Text) (isError : Bool) : Action Text := do
  Action.change fun s => { s with message := some message, messageIsError := isError }
  Action.note ⟨if isError then .error else .info, .session, message, .nothing⟩
  return message

/-- The client of the task program. -/
def client : Action Client := do return ⟨(← Action.session).config.taskProgram⟩

/-- Does something through the client of the task program. -/
def ask {α : Type} (f : Client → HostAction α) : Action α := do
  let c ← client
  Action.onHost (f c)

variable [Interpreter]

/-! ## Rendering -/

/-- What rendering depends on apart from the task. -/
def context : Action RenderContext := do
  let w ← get
  let width ← Action.orCrash w.session.store.projectWidth
  return ⟨w.session.variableTable, width, w.host.now⟩

/-- The colour pair of the task at a position, which the record remembers. -/
def taskPair (position : Nat) (r : Record) (selected : Bool) : Action Nat := do
  let s ← Action.session
  let (pair, r) ← Action.attempt (s.scheme.taskPair r selected)
  Action.change fun s => { s with store := s.store.set position r }
  return pair

/-- The colour pair and the line of the task at a position. -/
def renderTask (position : Nat) (r : Record) (selected : Bool) (c : RenderContext) :
    Action (Nat × Text) := do
  let pair ← taskPair position r selected
  let s ← Action.session
  let line ← Action.orCrash (s.taskTemplate.render c (some r))
  return (pair, line)

/-- The colour pairs and the lines of tasks from a position on. -/
def renderFrom (c : RenderContext) (position : Nat) : List Record → Action (List (Nat × Text))
  | [] => pure []
  | r :: rs => do
      let s ← Action.session
      let line ← renderTask position r (position == s.selected) c
      let more ← renderFrom c (position + 1) rs
      return line :: more

/-- The colour pairs and the lines of all tasks. -/
def renderAll : Action (List (Nat × Text)) := do
  let c ← context
  renderFrom c 0 (← Action.session).store

/-- The colour pair and the text of the title. -/
def renderTitle : Action (Nat × Text) := do
  let s ← Action.session
  let c ← context
  let line ← Action.orCrash (s.titleTemplate.render c none)
  return (s.scheme.pairFor .header, line)

/-- The colour pair and the text of the title of the selected task's details. -/
def renderViewTitle : Action (Nat × Text) := do
  let s ← Action.session
  let c ← context
  let line ← Action.orCrash (s.viewTemplate.render c s.selectedRecord)
  return (s.scheme.pairFor .header, line)

/-! ## Loading and sorting -/

/-- Puts the tasks in the order of the sort mode. -/
def sortStore : Action Unit := do
  let s ← Action.session
  let sorted ← Action.orCrash (sortRecords s.config.sortMode s.store)
  Action.change fun s => { s with store := sorted }

/-- The session with the selection back at a task, if it follows, and in the list in any case. -/
def restore (s : Session) (current : Option Record) : Session :=
  let followed :=
    match current, s.config.followTask with
    | some r, true => s.selectUuid r.uuid
    | _, _ => s
  followed.select followed.selected

/-- The note of a reload. -/
def loadedNote (count : Nat) : Note where
  level := .debug
  source := .session
  message := Text.ofNat count ++ " tasks loaded"

/-- Loads the tasks that pass the filter. -/
def reload : Action Unit := do
  let before ← Action.session
  let records ← ask (·.exportAll (some before.config.filter))
  Action.change fun s => { s with store := records }
  sortStore
  Action.note (loadedNote records.length)
  Action.change (·.restore before.selectedRecord)

/-- Sorts the tasks, by another sort mode if one is given. -/
def sort (mode : Option Text) : Action Unit := do
  match mode with
  | some (c :: t) =>
      Action.change fun s => { s with config := { s.config with sortMode := c :: t } }
  | _ => pure ()
  let before ← Action.session
  sortStore
  Action.change (·.restore before.selectedRecord)

/-- Loads one task again. -/
def reloadRecord (uuid : Text) : Action Unit := do
  let found ← ask (·.exportOne uuid)
  let filter := (← Action.session).config.filter
  let kept ←
    match found with
    | none => pure none
    | some r =>
        if filter.isEmpty then pure (some r)
        else do
          let shown ← ask (·.exportAll (some filter))
          pure (if shown.any (·.uuid == uuid) then some r else none)
  Action.change fun s => { s with store := s.store.replace uuid kept }
  sort none

/-! ## The selection -/

/-- Selects the task nearest to a position. -/
def moveTo (position : Int) : Action Unit := Action.change (·.select position)

/-- Selects the first task of an identifier, and tells whether there is one. -/
def moveToUuid (uuid : Text) : Action Bool := do
  let s ← Action.session
  Action.change (·.selectUuid uuid)
  return (s.store.position? uuid).isSome

/-- Selects the task above. -/
def scrollUp : Action Unit := Action.change fun s => s.select ((s.selected : Int) - 1)

/-- Selects the task below. -/
def scrollDown : Action Unit := Action.change fun s => s.select ((s.selected : Int) + 1)

/-- Selects the first task. -/
def scrollHome : Action Unit := Action.change (·.select 0)

/-- Selects the last task. -/
def scrollEnd : Action Unit := Action.change fun s => s.select ((s.store.length : Int) - 1)

/-! ## Searching and filtering -/

/-- Whether one of the values that are set passes the test of a pattern. -/
def anyLike (p : Text → Bool) : List (Option Json) → Except Crash Bool
  | [] => .ok false
  | none :: vs => anyLike p vs
  | some v :: vs =>
      match Predicate.search p v with
      | .error c => .error c
      | .ok true => .ok true
      | .ok false => anyLike p vs

/-- Whether a task matches a pattern by its project, its description or its tags.  Nothing matches
a malformed pattern. -/
def taskMatch (r : Record) (pattern : Text) : Except Crash Bool :=
  match Interpreter.compile pattern with
  | .error .malformed => .ok false
  | .error (.crash c) => .error (.pattern c)
  | .ok p => anyLike p [Predicate.subjectOf r .project, Predicate.subjectOf r .description,
      Predicate.subjectOf r .tags]

/-- The first of the positions whose task matches a pattern. -/
def firstMatch (s : Session) (pattern : Text) : List Nat → Except Crash (Option Nat)
  | [] => .ok none
  | n :: ns =>
      match s.store[n]? with
      | none => firstMatch s pattern ns
      | some r =>
          match taskMatch r pattern with
          | .error c => .error c
          | .ok true => .ok (some n)
          | .ok false => firstMatch s pattern ns

/-- The positions after the selection and from the top on down to the selection. -/
def searchOrder (count selected : Nat) : List Nat :=
  (List.range count).map fun step => (selected + (step + 1)) % count

/-- Selects the next task that matches the search text, and tells whether there is one. -/
def searchNext : Action Bool := do
  let s ← Action.session
  match s.search, s.store with
  | some (c :: t), _ :: _ =>
      let found ← Action.orCrash (s.firstMatch (c :: t) (searchOrder s.store.length s.selected))
      match found with
      | none =>
          let _ ← notify ("no matches: " ++ (c :: t)) true
          return false
      | some n =>
          if n < s.selected then
            let _ ← notify "search wrapped to top" false
          Action.change fun s => { s with selected := n }
          return true
  | _, _ =>
      let _ ← notify "no search string" true
      return false

/-- Searches for a text. -/
def searchFor (pattern : Text) : Action Bool := do
  Action.change fun s => { s with search := if pattern.isEmpty then none else some pattern }
  searchNext

/-- A filter as it is shown. -/
def shownFilter (filter : Text) : Text := if filter.isEmpty then "(none)" else filter

/-- Shows the tasks that pass another filter. -/
def setFilter (filter : Text) : Action Unit := do
  Action.change fun s => { s with config := { s.config with filter := Text.trim filter } }
  reload
  let s ← Action.session
  let _ ← notify ("filter applied: " ++ shownFilter s.config.filter) false

/-! ## Actions on tasks -/

/-- The selected task, or a failure. -/
def requireSelected : Action Record := do
  match (← Action.session).selectedRecord with
  | some r => return r
  | none => Action.fail .noTaskSelected

/-- A message about a task by its number. -/
def about (before : Text) (r : Record) (after : Text) : Text :=
  before ++ Text.ofInt r.index ++ after

/-- Starts or stops working on the selected task. -/
def toggleStarted : Action Text := do
  let r ← requireSelected
  if r.started then
    let _ ← ask (·.stop r.uuid)
  else
    let _ ← ask (·.start r.uuid)
  reloadRecord r.uuid
  notify (about (if r.started then "stopped task " else "started task ") r []) false

/-- Marks the selected task as done. -/
def complete : Action Text := do
  let r ← requireSelected
  let _ ← ask (·.complete r.uuid)
  reload
  notify (about "task " r " completed") false

/-- Deletes the selected task. -/
def delete : Action Text := do
  let r ← requireSelected
  let _ ← ask (·.delete r.uuid)
  reload
  notify (about "task " r " deleted") false

/-- Adds a task. -/
def addTask (line : Text) : Action Text := do
  let _ ← ask (·.add line)
  reload
  notify "task added" false

/-- Changes the selected task. -/
def modifyTask (line : Text) : Action Text := do
  let r ← requireSelected
  let _ ← ask (·.modify r.uuid line)
  reloadRecord r.uuid
  notify (about "task " r " modified") false

/-- Takes the last change back. -/
def undo : Action Text := do
  let _ ← ask (·.undo)
  reload
  notify "undo executed" false

/-- Synchronises with the task server. -/
def sync : Action Text := do
  let _ ← ask (·.sync)
  reload
  notify "tasks synchronized" false

/-- The details of the selected task. -/
def taskInfo : Action Text := do
  let r ← requireSelected
  ask (·.info r.uuid)

/-! ## Statistics -/

/-- Whether two projects are the same. -/
def sameProject (p q : Json) : Bool := Json.same p q

/-- The number of different projects; a project that is a list or an object cannot be counted. -/
def countProjects : List Json → List Record → Except Crash Nat
  | seen, [] => .ok seen.length
  | seen, r :: rs =>
      match r.project with
      | none => countProjects seen rs
      | some p =>
          match p.value with
          | .list _ => .error (.noCount .list)
          | .object _ => .error (.noCount .object)
          | v =>
              if !v.holds || seen.any (sameProject v) then countProjects seen rs
              else countProjects (v :: seen) rs

/-- The priority of a task as it is counted. -/
def priorityName (r : Record) : Text :=
  match r.priority with
  | none | some [] => "none"
  | some p => p

/-- Counts with one more for a name, ordered by name. -/
def countIn (name : Text) : List (Text × Nat) → List (Text × Nat)
  | [] => [(name, 1)]
  | (n, k) :: rest =>
      match Text.compare name n with
      | .lt => (name, 1) :: (n, k) :: rest
      | .eq => (n, k + 1) :: rest
      | .gt => (n, k) :: countIn name rest

/-- How often each priority occurs, ordered by name. -/
def priorityCounts (store : Store) : List (Text × Nat) :=
  store.foldl (fun counts r => countIn (priorityName r) counts) []

/-- The lines of the statistics. -/
def stats : Action (List Text) := do
  let s ← Action.session
  let projects ← Action.orCrash (countProjects [] s.store)
  let priorities := (priorityCounts s.store).map fun (p, n) => p ++ "=" ++ Text.ofNat n
  return [
    Program.name ++ " version: " ++ Program.version,
    "task version: " ++ (if s.taskVersion.isEmpty then ("unknown" : Text) else s.taskVersion),
    "tasks: " ++ Text.ofNat s.store.length,
    "started: " ++ Text.ofNat (s.store.countP Record.started),
    "with due date: " ++ Text.ofNat (s.store.countP (·.due != 0)),
    "projects: " ++ Text.ofNat projects,
    "priorities: " ++ Text.join ", " priorities,
    "filter: " ++ shownFilter s.config.filter,
    "sort mode: " ++ s.config.sortMode]

end Session

end TaskBrowser
