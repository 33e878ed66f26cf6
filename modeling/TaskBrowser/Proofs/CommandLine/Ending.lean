import TaskBrowser.Platform
import TaskBrowser.Proofs.CommandLine.Printing
import TaskBrowser.Proofs.CommandLine.Settings
import TaskBrowser.Proofs.Session.Starting

/-!
# How runs end

A run that prints tasks or variables passes through six stages: it reads its settings, opens the
log, looks for the task program, sets up a session, starts it, and prints.  It ends in an exit
status or in a fault that nothing catches, and this is where each comes from
(`CommandLine.run_ends`).

Failures are caught at three of the stages only: when settings are read, when the command file is
run, and when the session starts.  A run that catches one complains and ends in an exit status, as
it does when the task program is missing (`CommandLine.Complains`).  A session whose colour rules
get no pairs fails at another stage, so too few colour pairs end a run in a fault, as every crash
does.
-/

namespace TaskBrowser

namespace CommandLine

open ConsoleAction

/-! ## Complaints -/

/-- What a run has written when it has written nothing. -/
def emptyConsole (s : Surroundings) (w : World) : Console :=
  { outRefusal := s.outRefusal, errRefusal := s.errRefusal, world := w }

/-- How a run ends that complains. -/
def complaintEnding (s : Surroundings) (t : Text) (status : ExitStatus) : Except Fault ExitStatus :=
  match s.errRefusal [] (errorLine t) with
  | some x => .error (.crash x)
  | none => .ok status

theorem complain_outcome (s : Surroundings) (w : World) (t : Text) (status : ExitStatus) :
    (effect (do complain t; return status) (emptyConsole s w)).1 = complaintEnding s t status := by
  have hcomplain : effect (complain t) (emptyConsole s w) =
      match s.errRefusal [] (errorLine t) with
      | some x => (.error (.crash x), emptyConsole s w)
      | none => (.ok (), { emptyConsole s w with err := errorLine t }) :=
    effect_complain t (emptyConsole s w)
  rw [effect_bind, hcomplain, complaintEnding]
  cases s.errRefusal [] (errorLine t) <;> rfl

theorem complained_ending (s : Surroundings) (t : Text) :
    (complained s (errorLine t)).ending = complaintEnding s t .misconfigured := by
  rw [complained, complaintEnding]
  cases s.errRefusal [] (errorLine t) <;> rfl

/-- What is not dumped is printed. -/
theorem prints {o : Options} (hasked : o.print = true ∨ o.dump = true) (hdump : o.dump = false) :
    o.print = true :=
  hasked.resolve_right (hdump ▸ Bool.false_ne_true)

section General

variable [Interpreter] [Validator]

/-! ## Stages -/

/-- A run that has read its settings and opened its log. -/
structure Opened (s : Surroundings) (o : Options) (c : Config) (log : Log) : Prop where
  running : o.version = false
  settings : ∃ base, s.env.config s.accounts = .ok base ∧ c = o.apply base
  opened : openLog s c = .ok log

/-- The world before the session is set up. -/
def bareWorld (s : Surroundings) (c : Config) (log : Log) : World :=
  ⟨Session.bare c, (host s log).withNote (traceNote (Program.name ++ " started"))⟩

/-- A run that has set up its session. -/
structure SetUp (s : Surroundings) (o : Options) (w : World) : Prop where
  stages : ∃ c log, Opened s o c log ∧ c.taskProgram ∈ s.programs ∧
    effect Session.setUp (bareWorld s c log) = (.ok (), w)

/-- The command file of a world's settings. -/
def commandFile (w : World) : FilePath := w.session.config.commandFile

/-- A run that prints tasks or variables complains, before it ends in an exit status. -/
inductive Complains (s : Surroundings) (o : Options) : (complaint : Text) → ExitStatus → Prop where
  | pairs (hrun : o.version = false) (h : s.env.BadPairs) :
      Complains s o (Failure.message .pairsNotInteger) .misconfigured
  | path (hrun : o.version = false) (hpairs : ¬ s.env.BadPairs)
      (h : s.env.PathFault s.accounts .nullInPath) :
      Complains s o "embedded null byte" .misconfigured
  | program {c : Config} {log : Log} (hopened : Opened s o c log) (h : c.taskProgram ∉ s.programs) :
      Complains s o ("task binary not found: " ++ c.taskProgram) .noTaskProgram
  | commandFile {w w' : World} {f : Failure} (hw : SetUp s o w) (hdump : o.dump = true)
      (h : effect (Session.loadCommandFile (commandFile w)) w = (.error (.failure f), w')) :
      Complains s o f.message .misconfigured
  | start {w w' : World} {f : Failure} (hw : SetUp s o w) (hdump : o.dump = false)
      (h : effect Session.startup w = (.error (.failure f), w')) :
      Complains s o f.message .notStarted

/-- A run that prints tasks or variables ends in a fault, at one of its stages. -/
inductive Escapes (noOrder : Text → List Record → Prop) (s : Surroundings) (o : Options) :
    Prop where
  | version {x : Crash} (h : o.version = true)
      (hrefused : s.outRefusal [] (Program.signature ++ "\n") = some x) : Escapes noOrder s o
  | complaint {t : Text} {status : ExitStatus} {x : Crash} (h : Complains s o t status)
      (hrefused : s.errRefusal [] (errorLine t) = some x) : Escapes noOrder s o
  | settings (hrun : o.version = false) (hpairs : ¬ s.env.BadPairs)
      (h : s.env.PathFault s.accounts .noHome) : Escapes noOrder s o
  | log {base : Config} (hrun : o.version = false) (hbase : s.env.config s.accounts = .ok base)
      (h : LogCrashes s (o.apply base)) : Escapes noOrder s o
  | session {c : Config} {log : Log} (hopened : Opened s o c log)
      (hprogram : c.taskProgram ∈ s.programs) (h : c.Unusable) : Escapes noOrder s o
  | commandFile {w : World} (hw : SetUp s o w) (hdump : o.dump = true)
      (h : Session.CommandFileCrashes noOrder (commandFile w) w) : Escapes noOrder s o
  | start {w : World} (hw : SetUp s o w) (hdump : o.dump = false)
      (h : Session.StartCrashes noOrder w) : Escapes noOrder s o
  | dumping {w w' : World} {ts : List Text} (hw : SetUp s o w) (hdump : o.dump = true)
      (hfile : effect (Session.loadCommandFile (commandFile w)) w = (.ok (), w'))
      (hlines : variableLines w'.session = ts.map .ok)
      (h : LinesFault s.outRefusal [] (ts.map .ok)) : Escapes noOrder s o
  | printing {w w' : World} (hw : SetUp s o w) (hdump : o.dump = false)
      (hstart : effect Session.startup w = (.ok (), w'))
      (h : PrintFaults s.outRefusal [] s.columns w') : Escapes noOrder s o

/-- A run that prints tasks or variables ends in an exit status. -/
inductive EndsWith (s : Surroundings) (o : Options) : ExitStatus → Prop where
  | version (h : o.version = true)
      (hwritten : s.outRefusal [] (Program.signature ++ "\n") = none) : EndsWith s o .success
  | complained {t : Text} {status : ExitStatus} (h : Complains s o t status)
      (hwritten : s.errRefusal [] (errorLine t) = none) : EndsWith s o status
  | dumped {w w' : World} {ts : List Text} (hw : SetUp s o w) (hdump : o.dump = true)
      (hfile : effect (Session.loadCommandFile (commandFile w)) w = (.ok (), w'))
      (hlines : variableLines w'.session = ts.map .ok)
      (h : ¬ LinesFault s.outRefusal [] (ts.map .ok)) : EndsWith s o .success
  | printed {w w' : World} (hw : SetUp s o w) (hdump : o.dump = false)
      (hstart : effect Session.startup w = (.ok (), w'))
      (h : ¬ PrintFaults s.outRefusal [] s.columns w') : EndsWith s o .success

variable {s : Surroundings} {o : Options} {screen : ConsoleAction Unit}

/-- The more tasks have no order, the more runs escape. -/
theorem Escapes.mono {noOrder noOrder' : Text → List Record → Prop}
    (hmono : ∀ mode rs, noOrder mode rs → noOrder' mode rs) (h : Escapes noOrder s o) :
    Escapes noOrder' s o := by
  cases h with
  | version h hrefused => exact .version h hrefused
  | complaint h hrefused => exact .complaint h hrefused
  | settings hrun hpairs h => exact .settings hrun hpairs h
  | log hrun hbase h => exact .log hrun hbase h
  | session hopened hprogram h => exact .session hopened hprogram h
  | commandFile hw hdump h => exact .commandFile hw hdump (h.mono hmono)
  | start hw hdump h => exact .start hw hdump (h.mono hmono)
  | dumping hw hdump hfile hlines h => exact .dumping hw hdump hfile hlines h
  | printing hw hdump hstart h => exact .printing hw hdump hstart h

/-! ## Runs with options -/

theorem dump_outcome (s : Surroundings) (w : World) :
    (effect dump (emptyConsole s w)).1 =
      match effect (Session.loadCommandFile (commandFile w)) w with
      | (.ok (), w') =>
          (effect (printVariables (variableEntries.map (·.name))) (emptyConsole s w')).1.map
            fun _ => ExitStatus.success
      | (.error (.failure f), _) => complaintEnding s f.message .misconfigured
      | (.error (.crash x), _) => .error (.crash x) := by
  have hfile : (emptyConsole s w).world.session.config.commandFile = commandFile w := rfl
  have hworld : (emptyConsole s w).world = w := rfl
  rw [dump, effect_bind, effect_get]
  dsimp only
  rw [effect_bind, effect_onWorld, Action.effect_rescue, effect_bind, hfile, hworld]
  rcases effect (Session.loadCommandFile (commandFile w)) w with ⟨(f | x) | _, w'⟩
  · exact complain_outcome s w' f.message .misconfigured
  · rfl
  · simp only [effect_pure]
    exact return_outcome _ (emptyConsole s w') ExitStatus.success

theorem printAll_outcome (s : Surroundings) (width : Int) (w : World) :
    (effect (printAll width) (emptyConsole s w)).1 =
      match effect Session.startup w with
      | (.ok (), w') =>
          (effect (printTasks width) (emptyConsole s w')).1.map fun _ => ExitStatus.success
      | (.error (.failure f), _) => complaintEnding s f.message .notStarted
      | (.error (.crash x), _) => .error (.crash x) := by
  have hworld : (emptyConsole s w).world = w := rfl
  rw [printAll, effect_bind, effect_onWorld, Action.effect_rescue, effect_bind, hworld]
  rcases effect Session.startup w with ⟨(f | x) | _, w'⟩
  · simp only [effect_pure]
    rw [effect_bind, effect_onWorld, Action.effect_note]
    exact complain_outcome s _ f.message .notStarted
  · rfl
  · simp only [effect_pure]
    exact return_outcome _ (emptyConsole s w') ExitStatus.success

/-- With the log open, a run takes its first note and looks for the task program. -/
theorem runOptions_outcome (c : Config) (log : Log) :
    (effect (runOptions screen s o) (emptyConsole s ⟨Session.bare c, host s log⟩)).1 =
      if c.taskProgram ∈ s.programs then
        match effect Session.setUp (bareWorld s c log) with
        | (.error e, _) => .error e
        | (.ok (), w) =>
            (effect
              (if o.dump then dump else if o.print then printAll s.columns else runScreen screen)
              (emptyConsole s w)).1
      else complaintEnding s ("task binary not found: " ++ c.taskProgram) .noTaskProgram := by
  have hprogram : ((Session.bare c).config.taskProgram : Text) = c.taskProgram := rfl
  have hworld : (emptyConsole s ⟨Session.bare c, host s log⟩).world =
    ⟨Session.bare c, host s log⟩ := rfl
  rw [runOptions, effect_bind, effect_onWorld, Action.effect_note, hworld]
  dsimp only
  rw [effect_bind, effect_get]
  dsimp only
  rw [hprogram]
  by_cases hthere : c.taskProgram ∈ s.programs
  · rw [if_pos hthere, if_neg (by simp [hthere]), effect_bind, effect_onWorld, bareWorld]
    rcases effect Session.setUp ⟨Session.bare c, _⟩ with ⟨e | _, w⟩ <;> rfl
  · rw [if_neg hthere, if_pos (by simp [hthere])]
    exact complain_outcome s (bareWorld s c log) _ .noTaskProgram

/-! ## Runs with arguments -/

section Arguments

variable {args : List Text}

theorem run_version (hread : Request.read args = .ok (.run o)) (h : o.version = true) :
    (run screen s args).ending =
      match s.outRefusal [] (Program.signature ++ "\n") with
      | some x => .error (.crash x)
      | none => .ok .success := by
  simp only [run, hread, h, if_true, printed]
  cases s.outRefusal [] (Program.signature ++ "\n") <;> rfl

theorem run_badPairs (hread : Request.read args = .ok (.run o)) (hrun : o.version = false)
    (h : s.env.BadPairs) :
    (run screen s args).ending =
      complaintEnding s (Failure.message .pairsNotInteger) .misconfigured := by
  have hconfig : s.env.config s.accounts = .error (.failure .pairsNotInteger) :=
    Environment.config_failure_iff.2 ⟨rfl, h⟩
  simp [run, hread, hrun, hconfig, complained_ending]

theorem run_pathFault (hread : Request.read args = .ok (.run o)) (hrun : o.version = false)
    (hpairs : ¬ s.env.BadPairs) {x : Crash} (h : s.env.PathFault s.accounts x) :
    (run screen s args).ending =
      if x = .nullInPath then complaintEnding s "embedded null byte" .misconfigured
      else .error (.crash x) := by
  have hconfig : s.env.config s.accounts = .error (.crash x) :=
    Environment.config_crash_iff.2 ⟨hpairs, h⟩
  rcases h.cases with rfl | rfl <;> simp [run, hread, hrun, hconfig, complained_ending]

theorem run_unopened (hread : Request.read args = .ok (.run o)) (hrun : o.version = false)
    {base : Config} (hbase : s.env.config s.accounts = .ok base) {x : Crash}
    (h : openLog s (o.apply base) = .error x) :
    (run screen s args).ending = .error (.crash x) := by
  simp [run, hread, hrun, hbase, runWith, h]

theorem run_opened (hread : Request.read args = .ok (.run o)) {c : Config} {log : Log}
    (h : Opened s o c log) :
    (run screen s args).ending =
      (effect (runOptions screen s o) (emptyConsole s ⟨Session.bare c, host s log⟩)).1 := by
  obtain ⟨hrun, ⟨base, hbase, rfl⟩, hlog⟩ := h
  simp only [run, hread, hrun, hbase, runWith, hlog]
  rfl

theorem run_dump (hread : Request.read args = .ok (.run o)) {w : World} (h : SetUp s o w)
    (hdump : o.dump = true) :
    (run screen s args).ending = (effect dump (emptyConsole s w)).1 := by
  obtain ⟨c, log, hopened, hprogram, hw⟩ := h
  rw [run_opened hread hopened, runOptions_outcome, if_pos hprogram, hw, if_pos hdump]

theorem run_print (hread : Request.read args = .ok (.run o)) {w : World} (h : SetUp s o w)
    (hprint : o.print = true) (hdump : o.dump = false) :
    (run screen s args).ending = (effect (printAll s.columns) (emptyConsole s w)).1 := by
  obtain ⟨c, log, hopened, hprogram, hw⟩ := h
  rw [run_opened hread hopened, runOptions_outcome, if_pos hprogram, hw, if_neg (by simp [hdump]),
    if_pos hprint]

/-! ## Every run ends for one of the reasons -/

/-- A run that complains ends in its exit status, or escapes if the complaint is refused. -/
theorem Complains.ends {t : Text} {status : ExitStatus} (h : Complains s o t status) :
    Escapes Unsortable s o ∨ ∃ status, EndsWith s o status := by
  cases hrefusal : s.errRefusal [] (errorLine t) with
  | some x => exact .inl (.complaint h hrefusal)
  | none => exact .inr ⟨status, .complained h hrefusal⟩

/-- A run that has set up its session ends for one of the reasons. -/
theorem SetUp.ends {w : World} (hw : SetUp s o w) :
    Escapes Unsortable s o ∨ ∃ status, EndsWith s o status := by
  cases hdump : o.dump with
  | true =>
      rcases hfile : effect (Session.loadCommandFile (commandFile w)) w with ⟨(f | x) | _, w'⟩
      · exact (Complains.commandFile hw hdump hfile).ends
      · exact .inl (.commandFile hw hdump
          ((Session.loadCommandFile_crashes_iff _ w).1 ⟨x, congrArg Prod.fst hfile⟩))
      · obtain ⟨ts, hlines⟩ := variableLines_ok w'
        by_cases hfaults : LinesFault s.outRefusal [] (ts.map .ok)
        · exact .inl (.dumping hw hdump hfile hlines hfaults)
        · exact .inr ⟨_, .dumped hw hdump hfile hlines hfaults⟩
  | false =>
      rcases hstart : effect Session.startup w with ⟨(f | x) | _, w'⟩
      · exact (Complains.start hw hdump hstart).ends
      · exact .inl (.start hw hdump
          ((Session.startup_crashes_iff w).1 ⟨x, congrArg Prod.fst hstart⟩))
      · by_cases hfaults : PrintFaults s.outRefusal [] s.columns w'
        · exact .inl (.printing hw hdump hstart hfaults)
        · exact .inr ⟨_, .printed hw hdump hstart hfaults⟩

/-- A run that has opened its log ends for one of the reasons. -/
theorem Opened.ends {c : Config} {log : Log} (h : Opened s o c log) :
    Escapes Unsortable s o ∨ ∃ status, EndsWith s o status := by
  by_cases hprogram : c.taskProgram ∈ s.programs
  · rcases hsession : effect Session.setUp (bareWorld s c log) with ⟨e | _, w⟩
    · exact .inl (.session h hprogram
        ((Session.setUp_error_iff c _).1 ⟨e, congrArg Prod.fst hsession⟩))
    · exact SetUp.ends ⟨c, log, h, hprogram, hsession⟩
  · exact (Complains.program h hprogram).ends

theorem ends (s : Surroundings) (o : Options) :
    Escapes Unsortable s o ∨ ∃ status, EndsWith s o status := by
  cases hrun : o.version with
  | true =>
      cases hrefusal : s.outRefusal [] (Program.signature ++ "\n") with
      | some x => exact .inl (.version hrun hrefusal)
      | none => exact .inr ⟨_, .version hrun hrefusal⟩
  | false =>
      rcases hbase : s.env.config s.accounts with (f | x) | base
      · obtain ⟨-, hpairs⟩ := Environment.config_failure_iff.1 hbase
        exact (Complains.pairs hrun hpairs).ends
      · obtain ⟨hpairs, hfault⟩ := Environment.config_crash_iff.1 hbase
        rcases hfault.cases with rfl | rfl
        · exact (Complains.path hrun hpairs hfault).ends
        · exact .inl (.settings hrun hpairs hfault)
      · cases hlog : openLog s (o.apply base) with
        | error x => exact .inl (.log hrun hbase ((openLog_error_iff s _).1 ⟨x, hlog⟩))
        | ok log => exact Opened.ends ⟨hrun, ⟨base, hbase, rfl⟩, hlog⟩

/-- A run ends as its complaint does. -/
theorem Complains.run {t : Text} {status : ExitStatus} (h : Complains s o t status)
    (hread : Request.read args = .ok (.run o)) (hasked : o.print = true ∨ o.dump = true) :
    (run screen s args).ending = complaintEnding s t status := by
  cases h with
  | pairs hrun h => exact run_badPairs hread hrun h
  | path hrun hpairs h => exact run_pathFault hread hrun hpairs h
  | program hopened h => rw [run_opened hread hopened, runOptions_outcome, if_neg h]
  | commandFile hw hdump h => rw [run_dump hread hw hdump, dump_outcome, h]
  | start hw hdump h => rw [run_print hread hw (prints hasked hdump) hdump, printAll_outcome, h]

/-- A run that dumps the variables ends as they are printed. -/
theorem run_dumping (hread : Request.read args = .ok (.run o)) {w w' : World} {ts : List Text}
    (hw : SetUp s o w) (hdump : o.dump = true)
    (hfile : effect (Session.loadCommandFile (commandFile w)) w = (.ok (), w'))
    (hlines : variableLines w'.session = ts.map .ok) :
    (∃ e, (run screen s args).ending = .error e) ∧ LinesFault s.outRefusal [] (ts.map .ok) ∨
      (run screen s args).ending = .ok .success ∧ ¬ LinesFault s.outRefusal [] (ts.map .ok) := by
  have hfaults := printVariables_error_iff (variableEntries.map (·.name)) (emptyConsole s w')
  change _ ↔ LinesFault s.outRefusal [] (variableLines w'.session) at hfaults
  rw [run_dump hread hw hdump, dump_outcome, hfile, ← hlines, ← hfaults]
  dsimp only
  cases (effect (printVariables (variableEntries.map (·.name))) (emptyConsole s w')).1 with
  | error e => exact .inl ⟨⟨e, rfl⟩, ⟨e, rfl⟩⟩
  | ok _ => exact .inr ⟨rfl, nofun⟩

/-- A run that prints the tasks ends as they are printed. -/
theorem run_printing (hread : Request.read args = .ok (.run o))
    (hasked : o.print = true ∨ o.dump = true) {w w' : World} (hw : SetUp s o w)
    (hdump : o.dump = false) (hstart : effect Session.startup w = (.ok (), w')) :
    (∃ e, (run screen s args).ending = .error e) ∧ PrintFaults s.outRefusal [] s.columns w' ∨
      (run screen s args).ending = .ok .success ∧ ¬ PrintFaults s.outRefusal [] s.columns w' := by
  have hfaults := printTasks_error_iff s.columns (emptyConsole s w')
  change _ ↔ PrintFaults s.outRefusal [] s.columns w' at hfaults
  rw [run_print hread hw (prints hasked hdump) hdump, printAll_outcome, hstart, ← hfaults]
  dsimp only
  cases (effect (printTasks s.columns) (emptyConsole s w')).1 with
  | error e => exact .inl ⟨⟨e, rfl⟩, ⟨e, rfl⟩⟩
  | ok _ => exact .inr ⟨rfl, nofun⟩

/-- A run that escapes ends in a fault. -/
theorem Escapes.run (h : Escapes Unsortable s o) (hread : Request.read args = .ok (.run o))
    (hasked : o.print = true ∨ o.dump = true) :
    ∃ e, (run screen s args).ending = .error e := by
  cases h with
  | @version x h hrefused => exact ⟨.crash x, by rw [run_version hread h, hrefused]⟩
  | @complaint t status x h hrefused =>
      exact ⟨.crash x, by rw [h.run hread hasked, complaintEnding, hrefused]⟩
  | settings hrun hpairs h => exact ⟨_, run_pathFault hread hrun hpairs h⟩
  | log hrun hbase h =>
      obtain ⟨x, hx⟩ := (openLog_error_iff s _).2 h
      exact ⟨_, run_unopened hread hrun hbase hx⟩
  | @session c log hopened hprogram h =>
      obtain ⟨e, he⟩ := (Session.setUp_error_iff c _).2 h
      refine ⟨e, ?_⟩
      rw [run_opened hread hopened, runOptions_outcome, if_pos hprogram, bareWorld,
        effect_eq_of_fst he]
  | @commandFile w hw hdump h =>
      obtain ⟨x, hx⟩ := (Session.loadCommandFile_crashes_iff _ w).2 h
      refine ⟨.crash x, ?_⟩
      rw [run_dump hread hw hdump, dump_outcome, effect_eq_of_fst hx]
  | @start w hw hdump h =>
      obtain ⟨x, hx⟩ := (Session.startup_crashes_iff w).2 h
      refine ⟨.crash x, ?_⟩
      rw [run_print hread hw (prints hasked hdump) hdump, printAll_outcome, effect_eq_of_fst hx]
  | dumping hw hdump hfile hlines h =>
      rcases run_dumping hread hw hdump hfile hlines with ⟨hfault, -⟩ | ⟨-, hfine⟩
      · exact hfault
      · exact absurd h hfine
  | printing hw hdump hstart h =>
      rcases run_printing hread hasked hw hdump hstart with ⟨hfault, -⟩ | ⟨-, hfine⟩
      · exact hfault
      · exact absurd h hfine

/-- A run ends in the status that it is said to end with. -/
theorem EndsWith.run {status : ExitStatus} (h : EndsWith s o status)
    (hread : Request.read args = .ok (.run o)) (hasked : o.print = true ∨ o.dump = true) :
    (run screen s args).ending = .ok status := by
  cases h with
  | version h hwritten => rw [run_version hread h, hwritten]
  | complained h hwritten => rw [h.run hread hasked, complaintEnding, hwritten]
  | dumped hw hdump hfile hlines h =>
      rcases run_dumping hread hw hdump hfile hlines with ⟨-, hfault⟩ | ⟨hended, -⟩
      · exact absurd hfault h
      · exact hended
  | printed hw hdump hstart h =>
      rcases run_printing hread hasked hw hdump hstart with ⟨-, hfault⟩ | ⟨hended, -⟩
      · exact absurd hfault h
      · exact hended

/-- A run that prints tasks or variables ends in a fault if it escapes at one of its stages, and
otherwise in the exit status of the stage at which it ends.  What escapes goes by when tasks have no
order: a run that escapes if no two of them have one is sure to end in a fault, and one that does
not escape if any two without an order are refused does not. -/
theorem run_ends (screen : ConsoleAction Unit) (s : Surroundings)
    (hread : Request.read args = .ok (.run o)) (hasked : o.print = true ∨ o.dump = true) :
    (Escapes Incomparable s o → ∃ e, (run screen s args).ending = .error e) ∧
      (∀ e, (run screen s args).ending = .error e → Escapes Unordered s o) ∧
      ∀ status, (run screen s args).ending = .ok status ↔ EndsWith s o status := by
  refine ⟨fun h => ?escapes, fun e he => ?faults, fun status => ⟨fun hstatus => ?ends, ?status⟩⟩
  case escapes => exact (h.mono fun _ _ => Incomparable.unsortable).run hread hasked
  case faults =>
    rcases ends s o with h | ⟨status, h⟩
    · exact h.mono fun _ _ => Unsortable.unordered
    · cases he.symm.trans (h.run hread hasked)
  case ends =>
    rcases ends s o with h | ⟨status', h⟩
    · have hfault : ∃ e, (run screen s args).ending = .error e := h.run hread hasked
      obtain ⟨e, he⟩ := hfault
      cases hstatus.symm.trans he
    · cases hstatus.symm.trans (h.run hread hasked)
      exact h
  case status => exact fun h => h.run hread hasked

end Arguments

end General

/-- With two colour pairs there is no session, and with a task program that is missing there is an
exit status. -/
theorem run_ends_twoPairs :
    let pairs : Surroundings :=
      { env := [("HOME", "/home/u"), ("TASKNC_COLOR_PAIRS", "2")], programs := ["task"] }
    let bare : Surroundings := { env := [("HOME", "/home/u")] }
    Request.read ["--print"] = .ok (.run { print := true }) ∧
      (∃ e, (run (pure ()) pairs ["--print"]).ending = .error e) ∧
        (run (pure ()) bare ["--print"]).ending = .ok .noTaskProgram := by
  intro pairs bare
  have hread : Request.read ["--print"] = .ok (.run { print := true }) := rfl
  have hpairs : Escapes Incomparable pairs { print := true } := by
    have hopened : Opened pairs { print := true } _ _ := ⟨rfl, ⟨_, rfl, rfl⟩, rfl⟩
    exact .session hopened (by decide) (.pairs (by decide))
  have hbare : EndsWith bare { print := true } .noTaskProgram := by
    have hopened : Opened bare { print := true } _ _ := ⟨rfl, ⟨_, rfl, rfl⟩, rfl⟩
    exact .complained (.program hopened (by decide)) rfl
  exact ⟨hread, (run_ends _ pairs hread (.inl rfl)).1 hpairs,
    ((run_ends _ bare hread (.inl rfl)).2.2 _).2 hbare⟩

end CommandLine

end TaskBrowser
