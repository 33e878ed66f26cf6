import TaskBrowser.Proofs.Command.Crash
import TaskBrowser.Proofs.Command.Line

/-!
# Setting variables from command lines

A line with the command `set` that fails has changed nothing (`Command.runSet_failed`).  One that
sets a format and returns has put the text among the settings (`Command.runSet_format`).

A line sets the variable that it names, and a line that runs a command file sets what the lines of
the file set.  What those do depends on the lines before them, so they are followed through the
worlds that those leave, as they are for crashes.
-/

namespace TaskBrowser

open TaskBrowser.Action Session

/-! ## Values that are refused and values that are taken -/

namespace Session

variable {w w' : World} {f : Failure}

/-- The variables that are set, as far as any file may set them, are among those that may be. -/
def Permits (may : Entry → Prop) (sets : Text → Prop) : Prop :=
  ∀ e ∈ variableEntries, e.MaySet true → sets e.name → may e

theorem Permits.mono {may : Entry → Prop} {sets sets' : Text → Prop} (h : Permits may sets)
    (hsub : ∀ name, sets' name → sets name) : Permits may sets' :=
  fun e he hmay hsets => h e he hmay (hsub e.name hsets)

/-- Compiling the formats ends well or crashes. -/
theorem compileFormats_ne_failure : (effect compileFormats w).1 ≠ .error (.failure f) := by
  cases hts : w.session.config.templates with
  | error c =>
      obtain ⟨ts, hcompile⟩ := effect_compileFormats_error hts
      rw [hcompile]
      nofun
  | ok ts =>
      rw [effect_compileFormats_ok hts]
      nofun

variable [Validator]

/-- A value that is refused changes nothing. -/
theorem assign_failed {source : Source} {v : Json}
    (h : effect (assign source v) w = (.error (.failure f), w')) : w' = w := by
  cases source with
  | setting x =>
      have hset := effect_assignSetting x v w
      rw [show effect (assignSetting x v) w = _ from h] at hset
      split at hset
      · exact (Prod.mk.inj hset).2
      · split at hset
        · exact absurd (congrArg Prod.fst hset).symm compileFormats_ne_failure
        · cases hset
  | logLevel =>
      have hset := effect_assignLogLevel v w
      rw [show effect (assignLogLevel v) w = _ from h] at hset
      dsimp only at hset
      split at hset <;> cases hset
  | selectedLine =>
      have hset := effect_bind (Action.orCrash v.integer) (fun n => moveTo (n - 1)) w
      rw [show effect (Action.orCrash v.integer >>= fun n => moveTo (n - 1)) w = _ from h,
        effect_orCrash] at hset
      cases hn : v.integer <;> rw [hn] at hset <;> cases hset
  | search => cases h
  | programAuthor => cases h
  | programName => cases h
  | programVersion => cases h
  | taskCount => cases h
  | taskVersion => cases h

theorem setVariable_failed {name text : Text} {fromFile : Bool}
    (h : effect (setVariable name text fromFile) w = (.error (.failure f), w')) : w' = w := by
  rw [effect_setVariable] at h
  split at h
  · exact (Prod.mk.inj h).2.symm
  · split at h
    · exact (Prod.mk.inj h).2.symm
    · exact assign_failed h

/-- A variable that was set is there. -/
theorem find?_of_setVariable {name text : Text} {fromFile : Bool} {u : Unit}
    (h : effect (setVariable name text fromFile) w = (.ok u, w')) :
    ∃ e v, variableEntries.find? (·.name == name) = some e ∧ e.accept text fromFile = .ok v ∧
      effect (assign e.source v) w = (.ok u, w') := by
  rw [effect_setVariable] at h
  split at h
  · cases h
  next e he =>
    split at h
    · cases h
    next v hv => exact ⟨e, v, he, hv, h⟩

end Session

namespace Command

variable [Validator] {w w' : World} {args : Text} {fromFile : Bool}

/-- A `set` that fails has changed nothing. -/
theorem runSet_failed {f : Failure}
    (h : effect (runSet args fromFile) w = (.error (.failure f), w')) :
    w' = w := by
  rw [runSet] at h
  dsimp only at h
  split at h
  · exact (Prod.mk.inj h).2.symm
  · rcases effect_bind_eq_error.1 h with hset | ⟨u, w₁, hset, hshow⟩
    · exact setVariable_failed hset
    · obtain ⟨e, _, he, -, -⟩ := find?_of_setVariable hset
      obtain ⟨m, hm⟩ := effect_variableMessage_of_find? he w₁
      rw [hm] at hshow
      cases hshow

/-- A `set` that returns has set the variable. -/
theorem runSet_returned {m : Text} (h : effect (runSet args fromFile) w = (.ok m, w')) :
    effect (setVariable (splitSpace args).1 (splitSpace args).2 fromFile) w = (.ok (), w') := by
  rw [runSet] at h
  dsimp only at h
  split at h
  · cases h
  · obtain ⟨u, w₁, hset, hshow⟩ := effect_bind_eq_ok.1 h
    rcases effect_variableMessage (splitSpace args).1 w₁ with ⟨m', hm⟩ | hm
    · rw [hm] at hshow
      cases hshow
      exact hset
    · rw [hm] at hshow
      cases hshow

/-- A format that is set is the text without its quotes. -/
theorem runSet_format {x : Setting} {m : Text} (hformat : isFormat x = true)
    (hname : (splitSpace args).1 = x.name) (h : effect (runSet args fromFile) w = (.ok m, w')) :
    w'.session.config.value x = .text (stripQuotes (splitSpace args).2) := by
  obtain ⟨e, v, he, haccept, hassign⟩ := find?_of_setVariable (runSet_returned h)
  rw [hname, variableEntries_find? (format_mem hformat)] at he
  cases he
  obtain ⟨-, hparse⟩ := Entry.accept_eq_ok_iff.1 haccept
  cases hparse
  have hset := effect_assignSetting x (.text (stripQuotes (splitSpace args).2)) w
  rw [show effect (assignSetting x _) w = _ from hassign] at hset
  split at hset
  · cases hset
  next c hc =>
    rw [if_pos hformat] at hset
    cases hts : c.templates with
    | error d =>
        obtain ⟨ts, hcompile⟩ := effect_compileFormats_error
          (w := { w with session := { w.session with config := c } }) hts
        rw [hcompile] at hset
        cases hset
    | ok ts =>
        rw [effect_compileFormats_ok
          (w := { w with session := { w.session with config := c } }) hts] at hset
        cases hset
        exact Config.value_set_format hformat hc

/-! ## What a run sets -/

variable [Interpreter]

/-- The line names the variable after `set`, or runs a command file that sets it. -/
def LineSets (fileSets : Text → World → Prop) (name line : Text) (w : World) : Prop :=
  match ofLine? line with
  | some (.set, args) => (splitSpace args).1 = name
  | some (.source, path) => fileSets path { w with host := w.host.withNote (noteOf line) }
  | _ => False

/-- One of the lines sets the variable, in the world that those before it have left. -/
def LinesSet (lineSets : Text → World → Prop) (runLine : Text → Action Text) (file : Text) :
    Nat → List Text → World → Prop
  | _, [], _ => False
  | number, line :: lines, w =>
      if isPassedOver line then LinesSet lineSets runLine file (number + 1) lines w
      else
        lineSets (Text.trim line) w ∨
          LinesSet lineSets runLine file (number + 1) lines
            (effect (tryLine runLine file number line) w).2

/-- The path leads to a file of which a line sets the variable. -/
def FileSets (lineSets : Text → World → Prop) (runLine : Text → Action Text) (path : Text)
    (w : World) : Prop :=
  ∃ file text, (FilePath.ofText path).expand w.host.homes = .ok file ∧
    w.host.fileSystem.read file = .ok (.ok text) ∧
    LinesSet lineSets runLine file.toText 1 (Text.lines text) w

/-- A command file that is run from files up to a depth sets the variable. -/
def SourceSets (name : Text) : (depth : Nat) → Text → World → Prop
  | 0, _, _ => False
  | depth + 1, path, w =>
      FileSets (LineSets (SourceSets name depth) name)
        (fun line => runLineWith (sourceWithin depth) line true) path w

end Command

end TaskBrowser
