import TaskBrowser.CommandLine.Run
import TaskBrowser.Proofs.Session.Crash
import TaskBrowser.Proofs.Session.Operations
import TaskBrowser.Proofs.Session.Setting

/-!
# Printing tasks and variables

Nothing is caught while tasks are printed.  The line of a task takes a colour pair, which it does
not show, the text of the template, and the width of the terminal, and any of the three may fail
(`CommandLine.taskLine`).  Printing a line changes nothing that the lines after it depend on but
what was written before them, by which the output may refuse them.  So whether printing fails is a
condition on the session at its start and on the output (`CommandLine.PrintFaults`).

The variables always have lines, and those may be refused as well.
-/

namespace TaskBrowser

/-! ## Rendering -/

namespace Session

open TaskBrowser.Action

section Rendering

variable [Interpreter]

/-- The line of a task is that of its template, once its colour pair is found. -/
theorem effect_renderTask (position : Nat) (r : Record) (selected : Bool) (c : RenderContext)
    (w : World) :
    effect (renderTask position r selected c) w =
      (match (w.session.scheme.taskPair r selected).outcome with
        | .error e => .error e
        | .ok (pair, _) =>
            match w.session.taskTemplate.render c (some r) with
            | .error x => .error (.crash x)
            | .ok line => .ok (pair, line),
        (effect (taskPair position r selected) w).2) := by
  rw [renderTask, effect_bind, effect_taskPair]
  rcases (w.session.scheme.taskPair r selected).outcome with e | ⟨pair, r'⟩
  · rfl
  · dsimp only
    rw [effect_bind, effect_session]
    dsimp only
    rw [effect_bind, effect_orCrash]
    cases w.session.taskTemplate.render c (some r) <;> rfl

/-- Finding a colour pair leaves the rules and the templates as they are. -/
theorem taskPair_keeps (position : Nat) (r : Record) (selected : Bool) (w : World) :
    let s := (effect (taskPair position r selected) w).2.session
    s.scheme = w.session.scheme ∧ s.taskTemplate = w.session.taskTemplate := by
  rw [effect_taskPair]
  rcases (w.session.scheme.taskPair r selected).outcome with e | ⟨pair, r'⟩ <;> exact ⟨rfl, rfl⟩

end Rendering

/-- Showing a variable changes nothing. -/
theorem effect_variableMessage_eq (name : Text) (w : World) :
    effect (variableMessage name) w = (w.session.variableTable.message name, w) := by
  rw [variableMessage, effect_bind, effect_session]
  dsimp only
  cases w.session.variableTable.message name <;> rfl

end Session

namespace CommandLine

/-! ## Actions that write -/

namespace ConsoleAction

/-- What is done in the world leaves what was written as it is. -/
@[simp] theorem effect_onWorld {α : Type} (x : Action α) (c : Console) :
    effect (onWorld x) c = ((effect x c.world).1, { c with world := (effect x c.world).2 }) :=
  effect_inPart Console.world (fun c w => { c with world := w }) x c

@[simp] theorem effect_orCrash {α : Type} (x : Except Crash α) (c : Console) :
    effect (orCrash x) c = (x.mapError .crash, c) := by
  cases x <;> rfl

theorem effect_print (t : Text) (c : Console) :
    effect (print t) c =
      match c.outRefusal c.out (t ++ ['\n']) with
      | some x => (.error (.crash x), c)
      | none => (.ok (), { c with out := c.out ++ (t ++ ['\n']) }) := by
  rw [print, effect_bind, effect_get]
  dsimp only
  cases c.outRefusal c.out (t ++ ['\n']) <;> rfl

/-- An action that ends well is followed by a value. -/
theorem return_outcome {α : Type} (x : ConsoleAction Unit) (c : Console) (a : α) :
    (effect (do x; return a) c).1 = (effect x c).1.map fun _ => a := by
  rw [effect_bind]
  rcases effect x c with ⟨_ | _, d⟩ <;> rfl

end ConsoleAction

theorem effect_complain (t : Text) (c : Console) :
    effect (complain t) c =
      match c.errRefusal c.err (errorLine t) with
      | some x => (.error (.crash x), c)
      | none => (.ok (), { c with err := c.err ++ errorLine t }) := by
  rw [complain, effect_bind, effect_get]
  dsimp only
  cases c.errRefusal c.err (errorLine t) <;> rfl

open ConsoleAction

/-! ## Lines -/

/-- Printing lines after something that was written fails: a line is not there, or it is refused. -/
inductive LinesFault (refusal : Refusal) : (written : Text) → List (Except Fault Text) → Prop where
  | missing {written : Text} {e : Fault} {lines : List (Except Fault Text)} :
      LinesFault refusal written (.error e :: lines)
  | refused {written t : Text} {x : Crash} {lines : List (Except Fault Text)}
      (h : refusal written (t ++ ['\n']) = some x) : LinesFault refusal written (.ok t :: lines)
  | later {written t : Text} {lines : List (Except Fault Text)}
      (hwritten : refusal written (t ++ ['\n']) = none)
      (h : LinesFault refusal (written ++ (t ++ ['\n'])) lines) :
      LinesFault refusal written (.ok t :: lines)

/-- A line that is there is printed before the others. -/
theorem linesFault_cons_iff {refusal : Refusal} {written t : Text}
    {lines : List (Except Fault Text)} :
    LinesFault refusal written (.ok t :: lines) ↔
      match refusal written (t ++ ['\n']) with
      | some _ => True
      | none => LinesFault refusal (written ++ (t ++ ['\n'])) lines := by
  cases hrefusal : refusal written (t ++ ['\n']) with
  | some x => exact iff_of_true (.refused hrefusal) trivial
  | none =>
      constructor
      · rintro (_ | h | ⟨_, h⟩)
        · cases hrefusal.symm.trans h
        · exact h
      · exact .later hrefusal

/-- Lines that an action prints one after the other, where none but the output is changed. -/
theorem print_bind_error_iff {α : Type} {t : Text} {f : Unit → ConsoleAction α} {c : Console}
    {lines : List (Except Fault Text)}
    (hrest : (∃ e, (effect (f ()) { c with out := c.out ++ (t ++ ['\n']) }).1 = .error e) ↔
      LinesFault c.outRefusal (c.out ++ (t ++ ['\n'])) lines) :
    (∃ e, (effect (print t >>= f) c).1 = .error e) ↔
      LinesFault c.outRefusal c.out (.ok t :: lines) := by
  rw [effect_bind, effect_print, linesFault_cons_iff]
  cases c.outRefusal c.out (t ++ ['\n']) with
  | some x => exact iff_of_true ⟨_, rfl⟩ trivial
  | none => exact hrest

/-! ## Tasks -/

section Tasks

variable [Interpreter]

/-- The line of a task, if it has a colour pair and a text that can be given the width. -/
def taskLine (s : Session) (context : RenderContext) (width : Int) (r : Record) :
    Except Fault Text := do
  let _ ← (s.scheme.taskPair r false).outcome
  let line ← (s.taskTemplate.render context (some r)).mapError .crash
  let aligned ← (Template.align line width).mapError .crash
  return Text.trimRight aligned

theorem taskLine_of_text {s : Session} {context : RenderContext} {r : Record}
    {pair : Nat × Record} {line : Text} (hpair : (s.scheme.taskPair r false).outcome = .ok pair)
    (hline : s.taskTemplate.render context (some r) = .ok line) (width : Int) :
    taskLine s context width r =
      ((Template.align line width).mapError .crash).map Text.trimRight := by
  rw [taskLine, hpair, hline]
  simp only [Except.mapError, Bind.bind, Except.bind]
  cases Template.align line width <;> rfl

/-- Only the rules and the template of a session matter for a line. -/
theorem taskLine_congr {s t : Session} (hscheme : s.scheme = t.scheme)
    (htemplate : s.taskTemplate = t.taskTemplate) (context : RenderContext) (width : Int) :
    taskLine s context width = taskLine t context width := by
  funext r
  rw [taskLine, taskLine, hscheme, htemplate]

theorem effect_printRecords_cons (context : RenderContext) (width : Int) (position : Nat)
    (r : Record) (rs : List Record) (c : Console) :
    effect (printRecords context width position (r :: rs)) c =
      let c' := { c with world := (effect (Session.taskPair position r false) c.world).2 }
      match taskLine c.world.session context width r with
      | .error e => (.error e, c')
      | .ok t => effect (do print t; printRecords context width (position + 1) rs) c' := by
  rw [printRecords, effect_bind, effect_onWorld, Session.effect_renderTask]
  rcases hpair : (c.world.session.scheme.taskPair r false).outcome with e | ⟨pair, r'⟩
  · rw [taskLine, hpair]
    rfl
  cases hline : c.world.session.taskTemplate.render context (some r) with
  | error x =>
      rw [taskLine, hpair, hline]
      rfl
  | ok line =>
      rw [taskLine_of_text hpair hline]
      dsimp only
      rw [effect_bind, effect_orCrash]
      cases Template.align line width <;> rfl

theorem printRecords_error_iff (context : RenderContext) (width : Int) (rs : List Record) :
    ∀ (position : Nat) (c : Console),
      (∃ e, (effect (printRecords context width position rs) c).1 = .error e) ↔
        LinesFault c.outRefusal c.out (rs.map (taskLine c.world.session context width)) := by
  induction rs with
  | nil => exact fun position c => iff_of_false nofun nofun
  | cons r rs ih =>
      intro position c
      obtain ⟨hscheme, htemplate⟩ := Session.taskPair_keeps position r false c.world
      rw [effect_printRecords_cons, List.map_cons]
      cases hline : taskLine c.world.session context width r with
      | error e => exact iff_of_true ⟨e, rfl⟩ .missing
      | ok t =>
          refine print_bind_error_iff ?_
          rw [ih, ← taskLine_congr hscheme htemplate]

/-- Printing the tasks after something that was written fails: their projects cannot be measured, or
one of their lines fails. -/
inductive PrintFaults (refusal : Refusal) (written : Text) (width : Int) (w : World) : Prop where
  | projects {x : Crash} (h : w.session.store.projectWidth = .error x) :
      PrintFaults refusal written width w
  | lines {n : Nat} (hwidth : w.session.store.projectWidth = .ok n)
      (h : LinesFault refusal written
        (w.session.store.map (taskLine w.session ⟨w.session.variableTable, n, w.host.now⟩ width))) :
      PrintFaults refusal written width w

theorem printTasks_error_iff (width : Int) (c : Console) :
    (∃ e, (effect (printTasks width) c).1 = .error e) ↔
      PrintFaults c.outRefusal c.out width c.world := by
  rw [printTasks, effect_bind, effect_onWorld, Session.effect_context]
  cases hwidth : c.world.session.store.projectWidth with
  | error x => exact iff_of_true ⟨_, rfl⟩ (.projects hwidth)
  | ok n =>
      dsimp only
      rw [effect_bind, effect_get]
      dsimp only
      rw [printRecords_error_iff]
      constructor
      · exact .lines hwidth
      · rintro (h | ⟨hwidth', h⟩)
        · cases hwidth.symm.trans h
        · cases hwidth.symm.trans hwidth'
          exact h

end Tasks

/-! ## Variables -/

/-- The lines of the variables of a session. -/
def variableLines (s : Session) : List (Except Fault Text) :=
  (variableEntries.map (·.name)).map s.variableTable.message

/-- Every variable has a line. -/
theorem variableLines_ok (w : World) : ∃ ts : List Text, variableLines w.session = ts.map .ok := by
  have hlines (es : List Entry) (hes : ∀ e ∈ es, e ∈ variableEntries) :
      ∃ ts : List Text, (es.map (·.name)).map w.session.variableTable.message = ts.map .ok := by
    induction es with
    | nil => exact ⟨[], rfl⟩
    | cons e es ih =>
        obtain ⟨ts, hts⟩ := ih fun e he => hes e (List.mem_cons_of_mem _ he)
        have he := variableEntries_find? (hes e List.mem_cons_self)
        obtain ⟨m, hm⟩ := Session.effect_variableMessage_of_find? he w
        rw [Session.effect_variableMessage_eq] at hm
        have hm : w.session.variableTable.message e.name = .ok m := congrArg Prod.fst hm
        exact ⟨m :: ts, by rw [List.map_cons, List.map_cons, hts, hm, List.map_cons]⟩
  exact hlines variableEntries fun _ he => he

theorem printVariables_error_iff (names : List Text) :
    ∀ c : Console, (∃ e, (effect (printVariables names) c).1 = .error e) ↔
      LinesFault c.outRefusal c.out (names.map c.world.session.variableTable.message) := by
  induction names with
  | nil => exact fun c => iff_of_false nofun nofun
  | cons name names ih =>
      intro c
      rw [printVariables, effect_bind, effect_onWorld, Session.effect_variableMessage_eq,
        List.map_cons]
      cases hline : c.world.session.variableTable.message name with
      | error e => exact iff_of_true ⟨e, rfl⟩ .missing
      | ok t => exact print_bind_error_iff (ih _)

end CommandLine

end TaskBrowser
