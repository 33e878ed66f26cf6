import TaskBrowser.CommandLine.Run
import TaskBrowser.Proofs.Command.Crash
import TaskBrowser.Proofs.Files.Following

/-!
# Settings that cannot be read

The settings are read from the environment.  Only the number of colour pairs is checked, and it is
checked first.  The two paths may start at a home directory that is not known, or at that of a user
whose name no system takes, which crashes (`Environment.PathFault`), and so may the level and the
file of the log, once the options are applied (`CommandLine.LogCrashes`).
-/

namespace TaskBrowser

namespace Environment

variable {e : Environment} {accounts : Homes} {c : Crash}

/-- The number of colour pairs in the environment is no whole number. -/
def BadPairs (e : Environment) : Prop :=
  ∃ t x, e.get? "TASKNC_COLOR_PAIRS" = some t ∧ Text.readInteger t = .error x

/-- The command file cannot be found, whether the environment names one or leaves it to the home
directory. -/
inductive CommandFileFault (e : Environment) (accounts : Homes) : Crash → Prop where
  | named {t : Text} {c : Crash} (hset : e.nonempty? "TASKNC_CONFIG" = some t)
      (h : (FilePath.ofText t).Unfollowed (e.homes accounts) c) : CommandFileFault e accounts c
  | default (hset : e.nonempty? "TASKNC_CONFIG" = none)
      (hdir : e.nonempty? "XDG_CONFIG_HOME" = none)
      (h : FilePath.NoHome (e.homes accounts) []) : CommandFileFault e accounts .noHome

/-- The log file that the environment names cannot be found. -/
def LogFileFault (e : Environment) (accounts : Homes) (c : Crash) : Prop :=
  ∃ t, e.nonempty? "TASKNC_LOG_FILE" = some t ∧
    (FilePath.ofText t).Unfollowed (e.homes accounts) c

/-- One of the two files cannot be found, of which the command file comes first. -/
def PathFault (e : Environment) (accounts : Homes) (c : Crash) : Prop :=
  e.CommandFileFault accounts c ∨
    (¬ ∃ x, e.CommandFileFault accounts x) ∧ e.LogFileFault accounts c

theorem colorPairs_eq_error_iff {f : Failure} :
    e.colorPairs = .error f ↔ f = .pairsNotInteger ∧ e.BadPairs := by
  rw [colorPairs, BadPairs]
  cases hget : e.get? "TASKNC_COLOR_PAIRS" with
  | none => simp
  | some t => cases hread : Text.readInteger t <;> simp [Except.mapError, hread, eq_comm]

theorem colorPairs_error_iff : (∃ f, e.colorPairs = .error f) ↔ e.BadPairs := by
  simp only [colorPairs_eq_error_iff, exists_eq_left]

theorem defaultCommandFile_eq_error_iff :
    e.defaultCommandFile accounts = .error c ↔
      c = .noHome ∧ e.nonempty? "XDG_CONFIG_HOME" = none ∧
        FilePath.NoHome (e.homes accounts) [] := by
  rw [defaultCommandFile]
  cases e.nonempty? "XDG_CONFIG_HOME" with
  | some dir => simp
  | none =>
      have hhome : FilePath.home (e.homes accounts) [] = .error c ↔ _ :=
        FilePath.ownHome_eq_error_iff
      cases hown : FilePath.home (e.homes accounts) [] <;> simp_all [Except.map]

/-- The path that a variable names, or else another one. -/
def pathOr (e : Environment) (accounts : Homes) (name : Text) (other : Except Crash FilePath) :
    Except Crash FilePath :=
  match e.nonempty? name with
  | some t => (FilePath.ofText t).expand (e.homes accounts)
  | none => other

theorem pathOr_eq_error_iff {name : Text} {other : Except Crash FilePath} :
    e.pathOr accounts name other = .error c ↔
      (∃ t, e.nonempty? name = some t ∧ (FilePath.ofText t).Unfollowed (e.homes accounts) c) ∨
        e.nonempty? name = none ∧ other = .error c := by
  rw [pathOr]
  cases e.nonempty? name with
  | some t => simp [FilePath.expand_eq_error_iff]
  | none => simp

theorem commandFile_eq_error_iff :
    e.pathOr accounts "TASKNC_CONFIG" (e.defaultCommandFile accounts) = .error c ↔
      e.CommandFileFault accounts c := by
  rw [pathOr_eq_error_iff, defaultCommandFile_eq_error_iff]
  constructor
  · rintro (⟨t, hset, ht⟩ | ⟨hset, rfl, hdir, hhome⟩)
    · exact .named hset ht
    · exact .default hset hdir hhome
  · rintro (⟨hset, ht⟩ | ⟨hset, hdir, hhome⟩)
    · exact .inl ⟨_, hset, ht⟩
    · exact .inr ⟨hset, rfl, hdir, hhome⟩

theorem logFile_eq_error_iff {p : FilePath} :
    e.pathOr accounts "TASKNC_LOG_FILE" (.ok p) = .error c ↔ e.LogFileFault accounts c := by
  rw [pathOr_eq_error_iff, LogFileFault]
  simp

/-- The settings fail for the number of colour pairs. -/
theorem config_failure_iff {f : Failure} :
    e.config accounts = .error (.failure f) ↔ f = .pairsNotInteger ∧ e.BadPairs := by
  rw [← colorPairs_eq_error_iff, config]
  cases e.colorPairs with
  | error f => simp
  | ok pairs =>
      refine iff_of_false ?_ nofun
      intro hf
      dsimp only at hf
      split at hf
      · cases hf
      · split at hf <;> cases hf

/-- The settings crash for a path. -/
theorem config_crash_iff :
    e.config accounts = .error (.crash c) ↔ ¬ e.BadPairs ∧ e.PathFault accounts c := by
  rw [← colorPairs_error_iff, config, PathFault]
  cases e.colorPairs with
  | error f => simp
  | ok pairs =>
      have hpairs : ¬ ∃ f, (.ok pairs : Except Failure Int) = .error f := nofun
      simp only [hpairs, not_false_eq_true, true_and]
      split
      next x hfile =>
        have hfault := commandFile_eq_error_iff.1
          (show e.pathOr accounts "TASKNC_CONFIG" _ = .error x from hfile)
        constructor
        · rintro ⟨⟩
          exact .inl hfault
        · rintro (h | ⟨hnone, -⟩)
          · have hsame := hfile.symm.trans (commandFile_eq_error_iff.2 h)
            cases hsame
            rfl
          · exact absurd ⟨x, hfault⟩ hnone
      next file hfile =>
        have hnone : ¬ ∃ x, e.CommandFileFault accounts x := by
          rintro ⟨x, hx⟩
          cases hfile.symm.trans (commandFile_eq_error_iff.2 hx)
        split
        next x hlog =>
          have hfault := logFile_eq_error_iff.1
            (show e.pathOr accounts "TASKNC_LOG_FILE" (.ok _) = .error x from hlog)
          constructor
          · rintro ⟨⟩
            exact .inr ⟨hnone, hfault⟩
          · rintro (h | ⟨-, h⟩)
            · exact absurd ⟨c, h⟩ hnone
            · cases hlog.symm.trans (logFile_eq_error_iff.2 h)
              rfl
        next log hlog =>
          refine iff_of_false nofun ?_
          rintro (h | ⟨-, h⟩)
          · exact hnone ⟨c, h⟩
          · cases hlog.symm.trans (logFile_eq_error_iff.2 h)

/-- A path that is at fault has no home directory, or a user's name that no system takes. -/
theorem PathFault.cases (h : e.PathFault accounts c) : c = .nullInPath ∨ c = .noHome := by
  rcases h with (⟨-, h⟩ | -) | ⟨-, t, -, h⟩
  · cases h <;> simp
  · exact .inr rfl
  · cases h <;> simp

end Environment

namespace CommandLine

/-- The word for the level of the log; an empty one gives way to the environment's. -/
def levelWord (s : Surroundings) (c : Config) : Text :=
  if c.logLevel.isEmpty then (s.env.nonempty? "TASKNC_LOG_LEVEL").getD "WARNING" else c.logLevel

/-- Opening the log crashes. -/
inductive LogCrashes (s : Surroundings) (c : Config) : Prop where
  | file (h : '\x00' ∈ c.logFile.toText)
  | level (h : Text.upper (levelWord s c) = "BASIC_FORMAT" ∨
      Text.upper (levelWord s c) = "_STYLES")

theorem openLog_error_iff (s : Surroundings) (c : Config) :
    (∃ x, openLog s c = .error x) ↔ LogCrashes s c := by
  have hlevel := Session.thresholdOf_error_iff (Text.upper (levelWord s c))
  by_cases hnull : '\x00' ∈ c.logFile.toText
  · have hcontains : c.logFile.toText.contains '\x00' = true := List.contains_iff_mem.2 hnull
    exact iff_of_true ⟨.nullInPath, if_pos hcontains⟩ (.file hnull)
  · have hopen : openLog s c = (thresholdOf (Text.upper (levelWord s c))).map fun t =>
        ⟨(s.opened c.logFile).map fun _ => c.logFile, c.logJson || s.env.jsonLogging, t⟩ :=
      if_neg fun hcontains => hnull (List.contains_iff_mem.1 hcontains)
    have hmap : (∃ x, openLog s c = .error x) ↔
        ∃ x, thresholdOf (Text.upper (levelWord s c)) = .error x := by
      rw [hopen]
      cases thresholdOf (Text.upper (levelWord s c)) <;> simp [Except.map]
    rw [hmap, hlevel]
    constructor
    · exact .level
    · rintro (h | h)
      · exact absurd h hnull
      · exact h

end CommandLine

end TaskBrowser
