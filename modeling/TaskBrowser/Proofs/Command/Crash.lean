import TaskBrowser.Proofs.Color.Palette
import TaskBrowser.Proofs.Files.Following
import TaskBrowser.Proofs.Session.Crash
import TaskBrowser.Proofs.Session.Setting
import TaskBrowser.Session.Startup

/-!
# When command lines crash

A command line at the prompt leaves a message, whether it succeeds or fails, unless it crashes.
`Command.Crashing` lists for what reasons a command crashes, each as a condition on its arguments
and on the world:

* a level of notes that is the name of something other than a level;
* a format, set in a command file, that does not compile;
* a colour that is a number of too many digits;
* a command file whose path cannot be followed, that cannot be read as a text, one of whose lines
  crashes, or that is run from files too deep;
* a run of the task program that is raised, tasks that cannot be read or have no order, and a search
  text that cannot be used.

What a line of a command file does depends on the lines before it, so the reasons are followed
through the worlds that those lines leave (`Command.LinesCrash`).

Which tasks a sort compares is its own affair.  So when tasks have no order is a parameter of the
reasons, which grow with it (`Command.PromptCrashes.mono`): those for `Incomparable` tasks are sure
to crash a line, and a line that has none of those for `Unordered` tasks does not crash.
-/

namespace TaskBrowser

open TaskBrowser.Action Session

/-! ## Setting -/

namespace Session

theorem compileFormats_crashes_iff (w : World) :
    Crashes compileFormats w ↔ ∃ c, w.session.config.templates = .error c := by
  cases hts : w.session.config.templates with
  | error c =>
      obtain ⟨ts, hcompile⟩ := effect_compileFormats_error hts
      simp [Crashes, hcompile]
  | ok ts => simp [Crashes, effect_compileFormats_ok hts]

/-- The words that are no levels and not taken for one. -/
theorem thresholdOf_error_iff (t : Text) :
    (∃ c, thresholdOf t = .error c) ↔ t = "BASIC_FORMAT" ∨ t = "_STYLES" := by
  rw [thresholdOf]
  by_cases hbasic : t = "BASIC_FORMAT"
  · subst hbasic
    exact ⟨fun _ => .inl rfl, fun _ => ⟨_, rfl⟩⟩
  · by_cases hstyles : t = "_STYLES"
    · subst hstyles
      exact ⟨fun _ => .inr rfl, fun _ => ⟨_, rfl⟩⟩
    · rw [if_neg hbasic, if_neg hstyles]
      constructor
      · rintro ⟨c, hc⟩
        cases hlookup : thresholds.lookup t <;> rw [hlookup] at hc <;> cases hc
      · rintro (h | h)
        · exact absurd h hbasic
        · exact absurd h hstyles

/-- Showing a variable does not crash. -/
@[simp] theorem crashes_variableMessage (name : Text) (w : World) :
    Crashes (variableMessage name) w ↔ False := by
  refine iff_false_intro ?_
  rintro ⟨c, hc⟩
  rcases effect_variableMessage name w with ⟨m, h⟩ | h
  · rw [h] at hc
    cases hc
  · rw [h] at hc
    cases hc

theorem assignLogLevel_crashes_iff (v : Json) (w : World) :
    Crashes (assignLogLevel v) w ↔
      Text.upper v.plain = "BASIC_FORMAT" ∨ Text.upper v.plain = "_STYLES" := by
  rw [← thresholdOf_error_iff, Crashes, effect_assignLogLevel]
  cases thresholdOf (Text.upper v.plain) <;> simp

section Assigning

variable [Validator]

theorem assignSetting_crashes_iff (x : Setting) (v : Json) (w : World) :
    Crashes (assignSetting x v) w ↔
      isFormat x = true ∧ ∃ c d, w.session.config.set x v = .ok c ∧ c.templates = .error d := by
  rw [Crashes, effect_assignSetting]
  cases hset : w.session.config.set x v with
  | error e => simp
  | ok c =>
      dsimp only
      cases hformat : isFormat x with
      | false => simp
      | true =>
          have hcompile := compileFormats_crashes_iff
            { w with session := { w.session with config := c } }
          rw [if_pos rfl]
          constructor
          · intro hcrash
            obtain ⟨d, hd⟩ := hcompile.1 hcrash
            exact ⟨rfl, c, d, rfl, hd⟩
          · rintro ⟨-, _, d, hc, hd⟩
            cases hc
            exact hcompile.2 ⟨d, hd⟩

/-- A value crashes a format that does not compile then, the level of notes if it is no level, and
the selected line if it is no number. -/
theorem assign_crashes_iff (source : Source) (v : Json) (w : World) :
    Crashes (assign source v) w ↔
      (∃ x, source = .setting x ∧ isFormat x = true ∧
        ∃ c d, w.session.config.set x v = .ok c ∧ c.templates = .error d) ∨
      (source = .logLevel ∧
        (Text.upper v.plain = "BASIC_FORMAT" ∨ Text.upper v.plain = "_STYLES")) ∨
      (source = .selectedLine ∧ ∃ c, v.integer = .error c) := by
  cases source with
  | setting x =>
      have hsetting := assignSetting_crashes_iff x v w
      simp only [Source.setting.injEq, exists_eq_left', reduceCtorEq, false_and, or_false]
      exact hsetting
  | logLevel =>
      have hlevel := assignLogLevel_crashes_iff v w
      simp only [reduceCtorEq, false_and, exists_false, true_and, false_or, or_false]
      exact hlevel
  | selectedLine =>
      have hline : Crashes (do let n ← Action.orCrash v.integer; moveTo (n - 1)) w ↔
          ∃ c, v.integer = .error c := by
        rw [crashes_orCrash_bind]
        simp [moveTo]
      simp only [reduceCtorEq, false_and, exists_false, true_and, false_or]
      exact hline
  | search => simp [assign]
  | programAuthor => simp [assign]
  | programName => simp [assign]
  | programVersion => simp [assign]
  | taskCount => simp [assign]
  | taskVersion => simp [assign]

theorem setVariable_crashes_iff (name text : Text) (fromFile : Bool) (w : World) :
    Crashes (setVariable name text fromFile) w ↔
      ∃ e v, variableEntries.find? (·.name == name) = some e ∧ e.accept text fromFile = .ok v ∧
        Crashes (assign e.source v) w := by
  rw [Crashes, effect_setVariable]
  cases hfind : variableEntries.find? (·.name == name) with
  | none => simp
  | some e =>
      dsimp only
      constructor
      · intro hcrash
        cases haccept : e.accept text fromFile with
        | error f =>
            rw [haccept] at hcrash
            obtain ⟨c, hc⟩ := hcrash
            cases hc
        | ok v =>
            rw [haccept] at hcrash
            exact ⟨e, v, rfl, haccept, hcrash⟩
      · rintro ⟨e', v, hsame, haccept, hcrash⟩
        cases hsame
        rw [haccept]
        exact hcrash

end Assigning

end Session

namespace Command

/-! ## Command files -/

/-- Runs a line of a command file, and tells whether it failed. -/
def tryLine (runLine : Text → Action Text) (file : Text) (number : Nat) (line : Text) :
    Action Bool :=
  Action.rescue (do let _ ← runLine (Text.trim line); return false) fun f => do
    Action.note (failedLineNote file number f)
    return true

/-- One of the lines of a command file crashes, in the world that those before it have left. -/
inductive LinesCrash (lineCrashes : Text → World → Prop) (runLine : Text → Action Text)
    (file : Text) : Nat → List Text → World → Prop where
  | here (hline : isPassedOver line = false) (h : lineCrashes (Text.trim line) w) :
      LinesCrash lineCrashes runLine file number (line :: lines) w
  | passed (hline : isPassedOver line = true)
      (h : LinesCrash lineCrashes runLine file (number + 1) lines w) :
      LinesCrash lineCrashes runLine file number (line :: lines) w
  | later (hline : isPassedOver line = false)
      (hend : effect (tryLine runLine file number line) w = (.ok failed, w'))
      (h : LinesCrash lineCrashes runLine file (number + 1) lines w') :
      LinesCrash lineCrashes runLine file number (line :: lines) w

/-- A command file crashes, given when its lines do. -/
inductive FileCrashes (lineCrashes : Text → World → Prop) (runLine : Text → Action Text)
    (path : Text) (w : World) : Prop where
  | path (hpath : path ≠ [])
      (h : (FilePath.ofText path).NullInUser ∨ (FilePath.ofText path).Homeless w.host.homes) :
      FileCrashes lineCrashes runLine path w
  | unreadable {file : FilePath} (hpath : path ≠ [])
      (hfile : (FilePath.ofText path).expand w.host.homes = .ok file)
      (h : w.host.fileSystem.Unreadable file) : FileCrashes lineCrashes runLine path w
  | line {file : FilePath} {text : Text} (hpath : path ≠ [])
      (hfile : (FilePath.ofText path).expand w.host.homes = .ok file)
      (hread : w.host.fileSystem.read file = .ok (.ok text))
      (h : LinesCrash lineCrashes runLine file.toText 1 (Text.lines text) w) :
      FileCrashes lineCrashes runLine path w

section Files

variable {lineCrashes lineCrashes' : Text → World → Prop} {w : World}

theorem LinesCrash.mono {runLine : Text → Action Text} {file : Text} {number : Nat}
    {lines : List Text} {w : World} (hline : ∀ line w, lineCrashes line w → lineCrashes' line w)
    (h : LinesCrash lineCrashes runLine file number lines w) :
    LinesCrash lineCrashes' runLine file number lines w := by
  induction h with
  | here hover h => exact .here hover (hline _ _ h)
  | passed hover _ ih => exact .passed hover ih
  | later hover hend _ ih => exact .later hover hend ih

theorem FileCrashes.mono {runLine : Text → Action Text} {path : Text} {w : World}
    (hline : ∀ line w, lineCrashes line w → lineCrashes' line w)
    (h : FileCrashes lineCrashes runLine path w) : FileCrashes lineCrashes' runLine path w := by
  cases h with
  | path hpath h => exact .path hpath h
  | unreadable hpath hfile h => exact .unreadable hpath hfile h
  | line hpath hfile hread h => exact .line hpath hfile hread (h.mono hline)

/-- A line that is tried ends well unless it crashes. -/
theorem tryLine_crashes_iff {runLine : Text → Action Text} {file : Text} {number : Nat}
    {line : Text} :
    Crashes (tryLine runLine file number line) w ↔ Crashes (runLine (Text.trim line)) w := by
  rw [tryLine, crashes_rescue_left fun e w' => by simp]
  exact crashes_bind_left fun _ w' => by simp

theorem runLines_crashes_iff {runLine : Text → Action Text} {lineCrashes : Text → World → Prop}
    (hline : ∀ line w, Crashes (runLine line) w ↔ lineCrashes line w) (file : Text)
    (lines : List Text) :
    ∀ (number failures : Nat) (w : World),
      Crashes (runLines runLine file number failures lines) w ↔
        LinesCrash lineCrashes runLine file number lines w := by
  induction lines with
  | nil =>
      intro number failures w
      constructor
      · intro hcrash
        simp [runLines] at hcrash
      · intro hcrash
        cases hcrash
  | cons line lines ih =>
      intro number failures w
      rw [runLines]
      cases hover : isPassedOver line with
      | true =>
          rw [if_pos rfl, ih]
          constructor
          · exact .passed hover
          · intro hcrash
            cases hcrash with
            | here hline' _ => cases hover.symm.trans hline'
            | passed _ h => exact h
            | later hline' _ _ => cases hover.symm.trans hline'
      | false =>
          rw [if_neg Bool.false_ne_true]
          change Crashes (tryLine runLine file number line >>= _) w ↔ _
          rw [crashes_bind, tryLine_crashes_iff, hline]
          constructor
          · rintro (h | ⟨failed, w', hend, h⟩)
            · exact .here hover h
            · exact .later hover hend ((ih _ _ _).1 h)
          · intro hcrash
            cases hcrash with
            | here _ h => exact .inl h
            | passed hline' _ => cases hover.symm.trans hline'
            | later _ hend h => exact .inr ⟨_, _, hend, (ih _ _ _).2 h⟩

/-- A file is read as it is in the world. -/
theorem effect_readFile (p : FilePath) (w : World) :
    effect (readFile p) w =
      match w.host.fileSystem.read p with
      | .ok (.ok t) => (.ok t, w)
      | .ok (.error reason) => (.error (.failure (.unreadableFile p.toText reason)), w)
      | .error c => (.error (.crash c), w) := by
  rw [readFile, effect_bind, effect_get]
  dsimp only
  rw [effect_bind, effect_orCrash]
  rcases w.host.fileSystem.read p with c | reason | t <;> rfl

theorem read_of_readFile {p : FilePath} {t : Text} {w w' : World}
    (h : effect (readFile p) w = (.ok t, w')) :
    w.host.fileSystem.read p = .ok (.ok t) ∧ w' = w := by
  rw [effect_readFile] at h
  split at h
  next t' hread =>
    cases h
    exact ⟨hread, rfl⟩
  next => cases h
  next => cases h

/-- A file is not taken for a text, or what is done with its text crashes. -/
theorem crashes_readFile_bind {β : Type} {file : FilePath} {f : Text → Action β} {w : World} :
    Crashes (readFile file >>= f) w ↔
      w.host.fileSystem.Unreadable file ∨
        ∃ text, w.host.fileSystem.read file = .ok (.ok text) ∧ Crashes (f text) w := by
  rw [← FileSystem.read_error_iff, Crashes, effect_bind, effect_readFile]
  cases hread : w.host.fileSystem.read file with
  | error x => exact iff_of_true ⟨x, rfl⟩ (.inl ⟨x, rfl⟩)
  | ok found =>
      cases found with
      | error reason =>
          refine iff_of_false ?_ ?_
          · rintro ⟨x, hx⟩
            cases hx
          · rintro (⟨x, hx⟩ | ⟨text, htext, -⟩)
            · cases hx
            · cases htext
      | ok text =>
          constructor
          · intro hcrash
            exact .inr ⟨text, rfl, hcrash⟩
          · rintro (⟨x, hx⟩ | ⟨_, hsame, hcrash⟩)
            · cases hx
            · cases hsame
              exact hcrash

theorem sourceWith_crashes_iff {runLine : Text → Action Text} {lineCrashes : Text → World → Prop}
    (hline : ∀ line w, Crashes (runLine line) w ↔ lineCrashes line w) (path : Text) (w : World) :
    Crashes (sourceWith runLine path) w ↔ FileCrashes lineCrashes runLine path w := by
  have hlines (file : Text) (lines : List Text) :
      Crashes (do
          let failures ← runLines runLine file 1 0 lines
          if failures = 0 then return "sourced " ++ file
          else return "sourced " ++ file ++ " (" ++ Text.ofNat failures ++ " errors)") w ↔
        LinesCrash lineCrashes runLine file 1 lines w := by
    rw [crashes_bind_left, runLines_crashes_iff hline]
    intro failures w'
    split <;> simp
  have hget {α β : Type} (x : World → Except Crash α) (f : α → Action β) :
      Crashes (do let a ← Action.orCrash (x (← get)); f a) w ↔
        Crashes (Action.orCrash (x w) >>= f) w := crashes_bind_ok (effect_get w)
  rw [sourceWith]
  cases path with
  | nil =>
      constructor
      · intro hcrash
        simp at hcrash
      · rintro (⟨hpath, _⟩ | ⟨hpath, _⟩ | ⟨hpath, _⟩) <;> exact absurd rfl hpath
  | cons c t =>
      rw [if_neg (by simp), hget, crashes_orCrash_bind, FilePath.expand_error_iff]
      constructor
      · rintro (hpath | ⟨file, hfile, h⟩)
        · exact .path nofun hpath
        · rcases crashes_readFile_bind.1 h with hunreadable | ⟨text, hread, hcrash⟩
          · exact .unreadable nofun hfile hunreadable
          · exact .line nofun hfile hread ((hlines _ _).1 hcrash)
      · rintro (⟨_, hpath⟩ | ⟨_, hfile, hunreadable⟩ | ⟨_, hfile, hread, hcrash⟩)
        · exact .inl hpath
        · exact .inr ⟨_, hfile, crashes_readFile_bind.2 (.inl hunreadable)⟩
        · exact .inr ⟨_, hfile, crashes_readFile_bind.2 (.inr ⟨_, hread, (hlines _ _).2 hcrash⟩)⟩

end Files

/-! ## Commands that run nothing -/

/-- The formats are texts that only a command file sets. -/
theorem format_mem {x : Setting} (hformat : isFormat x = true) :
    (⟨x.name, .text, .setting x, .fromFile⟩ : Entry) ∈ variableEntries := by
  cases x with
  | titleFormat => exact List.mem_of_getElem? (show variableEntries[14]? = _ from rfl)
  | taskFormat => exact List.mem_of_getElem? (show variableEntries[12]? = _ from rfl)
  | viewFormat => exact List.mem_of_getElem? (show variableEntries[15]? = _ from rfl)
  | _ => exact absurd hformat (by decide)

/-- The level of notes is a text that anyone sets. -/
theorem level_mem : (⟨"log_level", .text, .logLevel, .always⟩ : Entry) ∈ variableEntries :=
  List.mem_of_getElem? (show variableEntries[3]? = _ from rfl)

/-- The selected line is given as a number. -/
theorem line_integer {e : Entry} (he : e ∈ variableEntries) (hsource : e.source = .selectedLine)
    {text : Text} {v : Json} (hparse : Variable.parse? e.kind text = some v) :
    ∃ n, v.integer = .ok n := by
  have hkind : e.kind = .int := by
    have hkinds : ∀ e ∈ variableEntries, e.source = .selectedLine → e.kind = .int := by decide
    exact hkinds e he hsource
  rw [hkind, Variable.parse?, Option.map_eq_some_iff] at hparse
  obtain ⟨n, -, rfl⟩ := hparse
  exact ⟨n, rfl⟩

section Quiet

variable {args : Text} {w : World}

@[simp] theorem crashes_runShow : Crashes (runShow args) w ↔ False := by
  rw [runShow]
  split <;> simp

@[simp] theorem crashes_addRule (object : ColorObject) (predicate : Option Text) (c : ColorPair)
    (w : World) : Crashes (addRule object predicate c) w ↔ False := by
  rw [addRule, crashes_session_bind]
  split
  · simp
  · rw [crashes_change_bind, crashes_bind_left fun _ w' => by simp]
    simp

/-- A command whose colours are read crashes if one of them does. -/
theorem readColors_crashes_iff (p : Palette) (fg bg : Text)
    {f : Option Int → Option Int → Action Text}
    (hf : ∀ a b, ¬ Crashes (f a b) w) :
    Crashes (do
        let a ← Action.orCrash (p.parseColor fg)
        let b ← Action.orCrash (p.parseColor bg)
        f a b) w ↔
      Palette.IsTooLong fg ∨ Palette.IsTooLong bg := by
  simp only [crashes_orCrash_bind, hf, and_false, exists_false, or_false,
    Palette.parseColor_error_iff]
  constructor
  · rintro (hfg | ⟨a, -, hbg⟩)
    · exact .inl hfg
    · exact .inr hbg
  · rintro (hfg | hbg)
    · exact .inl hfg
    · cases hread : p.parseColor fg with
      | error c => exact .inl ((p.parseColor_error_iff fg).1 ⟨c, hread⟩)
      | ok a => exact .inr ⟨a, rfl, hbg⟩

@[simp] theorem crashes_searchResult (found : Bool) : Crashes (searchResult found) w ↔ False := by
  rw [searchResult, crashes_session_bind]
  cases found <;> simp

@[simp] theorem crashes_runDump : Crashes runDump w ↔ False := by
  rw [runDump, crashes_session_bind, crashes_bind_left fun _ w' => by simp]
  simp

end Quiet

end Command

variable [Interpreter] [Validator]

namespace Command

/-! ## Reasons -/

section Reasons

variable (noOrder : Text → List Record → Prop)

/-- A command with its arguments crashes, given when a command file does. -/
inductive Crashing (sourceCrashes : Text → World → Prop) (args : Text) (fromFile : Bool)
    (w : World) : Command → Prop where
  | level {value : Text} (hargs : splitSpace args = (("log_level" : Text), value))
      (h : Text.upper (stripQuotes value) = "BASIC_FORMAT" ∨
        Text.upper (stripQuotes value) = "_STYLES") :
      Crashing sourceCrashes args fromFile w .set
  | format {x : Setting} {value : Text} {c : Config} {d : Crash} (hfile : fromFile = true)
      (hformat : isFormat x = true) (hargs : splitSpace args = (x.name, value))
      (hset : w.session.config.set x (.text (stripQuotes value)) = .ok c)
      (h : c.templates = .error d) :
      Crashing sourceCrashes args fromFile w .set
  | color {object fg bg : Text} {predicate : List Text}
      (hargs : Text.wordsAtMost 3 args = object :: fg :: bg :: predicate)
      (hobject : (ColorObject.parse? object).isSome = true)
      (h : Palette.IsTooLong fg ∨ Palette.IsTooLong bg) :
      Crashing sourceCrashes args fromFile w .color
  | source (h : sourceCrashes args w) : Crashing sourceCrashes args fromFile w .source
  | reload (h : LoadCrashes noOrder w.session w.host.pending) :
      Crashing sourceCrashes args fromFile w .reload
  | sync (h : LoadAfterCrashes noOrder w.session w.host.pending) :
      Crashing sourceCrashes args fromFile w .sync
  | undo (h : LoadAfterCrashes noOrder w.session w.host.pending) :
      Crashing sourceCrashes args fromFile w .undo
  | sort
      (h : noOrder (w.session.withMode (Text.words args).head?).config.sortMode w.session.store) :
      Crashing sourceCrashes args fromFile w .sort
  | filter
      (h : LoadCrashes noOrder
        { w.session with config := { w.session.config with filter := Text.trim args } }
        w.host.pending) :
      Crashing sourceCrashes args fromFile w .filter
  | search (hargs : args ≠ []) (h : SearchCrashes { w.session with search := some args }) :
      Crashing sourceCrashes args fromFile w .search
  | searchNext (h : w.session.SearchCrashes) : Crashing sourceCrashes args fromFile w .searchNext

/-- A command line crashes, given when a command file does. -/
def LineCrashes (sourceCrashes : Text → World → Prop) (line : Text) (fromFile : Bool) (w : World) :
    Prop :=
  let (name, args) := splitSpace (Text.trim line)
  ∃ c, ofName? name = some c ∧ Crashing noOrder sourceCrashes (Text.trim args) fromFile
    { w with host := w.host.withNote (lineNote (Text.trim line) name) } c

/-- A command file crashes that is run from files up to a depth. -/
def SourceCrashes : (depth : Nat) → Text → World → Prop
  | 0, _, _ => True
  | depth + 1, path, w =>
      FileCrashes (fun line w => LineCrashes noOrder (SourceCrashes depth) line true w)
        (fun line => runLineWith (sourceWithin depth) line true) path w

/-- A command line at the prompt crashes. -/
def PromptCrashes (line : Text) (w : World) : Prop :=
  LineCrashes noOrder (SourceCrashes noOrder (Interpreter.sourceDepth + 1)) line false w

end Reasons

/-! ## Fewer tasks without an order -/

section Mono

variable {noOrder noOrder' : Text → List Record → Prop}
  {sourceCrashes sourceCrashes' : Text → World → Prop}
  {lineCrashes lineCrashes' : Text → World → Prop}

theorem Crashing.mono {args : Text} {fromFile : Bool} {w : World} {c : Command}
    (hmono : ∀ mode rs, noOrder mode rs → noOrder' mode rs)
    (hsource : ∀ path w, sourceCrashes path w → sourceCrashes' path w)
    (h : Crashing noOrder sourceCrashes args fromFile w c) :
    Crashing noOrder' sourceCrashes' args fromFile w c := by
  cases h with
  | level hargs h => exact .level hargs h
  | format hfile hformat hargs hset h => exact .format hfile hformat hargs hset h
  | color hargs hobject h => exact .color hargs hobject h
  | source h => exact .source (hsource _ _ h)
  | reload h => exact .reload (h.mono hmono)
  | sync h => exact .sync (LoadAfterCrashes.mono hmono h)
  | undo h => exact .undo (LoadAfterCrashes.mono hmono h)
  | sort h => exact .sort (hmono _ _ h)
  | filter h => exact .filter (h.mono hmono)
  | search hargs h => exact .search hargs h
  | searchNext h => exact .searchNext h

theorem LineCrashes.mono {line : Text} {fromFile : Bool} {w : World}
    (hmono : ∀ mode rs, noOrder mode rs → noOrder' mode rs)
    (hsource : ∀ path w, sourceCrashes path w → sourceCrashes' path w)
    (h : LineCrashes noOrder sourceCrashes line fromFile w) :
    LineCrashes noOrder' sourceCrashes' line fromFile w := by
  obtain ⟨c, hname, hcrashing⟩ := h
  exact ⟨c, hname, hcrashing.mono hmono hsource⟩

theorem SourceCrashes.mono (hmono : ∀ mode rs, noOrder mode rs → noOrder' mode rs) (depth : Nat) :
    ∀ (path : Text) (w : World), SourceCrashes noOrder depth path w →
      SourceCrashes noOrder' depth path w := by
  induction depth with
  | zero => exact fun _ _ h => h
  | succ depth ih => exact fun _ _ h => FileCrashes.mono (fun _ _ hline => hline.mono hmono ih) h

theorem PromptCrashes.mono {line : Text} {w : World}
    (hmono : ∀ mode rs, noOrder mode rs → noOrder' mode rs) (h : PromptCrashes noOrder line w) :
    PromptCrashes noOrder' line w :=
  LineCrashes.mono hmono (SourceCrashes.mono hmono _) h

end Mono

/-! ## Commands -/

variable {sourceCrashes : Text → World → Prop} {args : Text} {fromFile : Bool} {w : World}

namespace Crashing

variable {noOrder : Text → List Record → Prop}

theorem color_iff {object fg bg : Text} {predicate : List Text}
    (hargs : Text.wordsAtMost 3 args = object :: fg :: bg :: predicate) :
    Crashing noOrder sourceCrashes args fromFile w .color ↔
      (ColorObject.parse? object).isSome = true ∧
        (Palette.IsTooLong fg ∨ Palette.IsTooLong bg) := by
  constructor
  · intro h
    cases h with
    | color hargs' hobject h =>
        cases hargs.symm.trans hargs'
        exact ⟨hobject, h⟩
  · rintro ⟨hobject, h⟩
    exact .color hargs hobject h

theorem source_iff :
    Crashing noOrder sourceCrashes args fromFile w .source ↔ sourceCrashes args w := by
  refine ⟨fun h => ?_, .source⟩
  cases h with
  | source h => exact h

theorem reload_iff :
    Crashing noOrder sourceCrashes args fromFile w .reload ↔
      LoadCrashes noOrder w.session w.host.pending := by
  refine ⟨fun h => ?_, .reload⟩
  cases h with
  | reload h => exact h

theorem sync_iff :
    Crashing noOrder sourceCrashes args fromFile w .sync ↔
      LoadAfterCrashes noOrder w.session w.host.pending := by
  refine ⟨fun h => ?_, .sync⟩
  cases h with
  | sync h => exact h

theorem undo_iff :
    Crashing noOrder sourceCrashes args fromFile w .undo ↔
      LoadAfterCrashes noOrder w.session w.host.pending := by
  refine ⟨fun h => ?_, .undo⟩
  cases h with
  | undo h => exact h

theorem sort_iff :
    Crashing noOrder sourceCrashes args fromFile w .sort ↔
      noOrder (w.session.withMode (Text.words args).head?).config.sortMode w.session.store := by
  refine ⟨fun h => ?_, .sort⟩
  cases h with
  | sort h => exact h

theorem filter_iff :
    Crashing noOrder sourceCrashes args fromFile w .filter ↔
      LoadCrashes noOrder
        { w.session with config := { w.session.config with filter := Text.trim args } }
        w.host.pending := by
  refine ⟨fun h => ?_, .filter⟩
  cases h with
  | filter h => exact h

theorem search_iff :
    Crashing noOrder sourceCrashes args fromFile w .search ↔
      args ≠ [] ∧ SearchCrashes { w.session with search := some args } := by
  constructor
  · intro h
    cases h with
    | search hargs h => exact ⟨hargs, h⟩
  · rintro ⟨hargs, h⟩
    exact .search hargs h

theorem searchNext_iff :
    Crashing noOrder sourceCrashes args fromFile w .searchNext ↔ w.session.SearchCrashes := by
  refine ⟨fun h => ?_, .searchNext⟩
  cases h with
  | searchNext h => exact h

end Crashing

theorem runSet_crashes_iff :
    Crashes (runSet args fromFile) w ↔ Crashing Unsortable sourceCrashes args fromFile w .set := by
  rw [runSet]
  rcases hargs : splitSpace args with ⟨name, value⟩
  dsimp only
  have hset : Crashes (do setVariable name value fromFile; variableMessage name) w ↔
      Crashes (setVariable name value fromFile) w :=
    crashes_bind_left fun _ w' => by simp
  constructor
  · intro hcrash
    split at hcrash
    · simp at hcrash
    · rw [hset, setVariable_crashes_iff] at hcrash
      obtain ⟨e, v, hfind, haccept, hassign⟩ := hcrash
      have he := List.mem_of_find?_eq_some hfind
      obtain rfl : e.name = name := by simpa using List.find?_some hfind
      obtain ⟨hmay, hparse⟩ := Entry.accept_eq_ok_iff.1 haccept
      rcases (assign_crashes_iff _ v w).1 hassign with
        ⟨x, hsource, hformat, c, d, hc, hd⟩ | ⟨hsource, hlevel⟩ | ⟨hsource, c, hc⟩
      · obtain rfl := variableEntries_source_inj he (format_mem hformat) hsource
        cases hparse
        exact .format (hmay.2 rfl) hformat hargs hc hd
      · obtain rfl := variableEntries_source_inj he level_mem hsource
        cases hparse
        exact .level hargs hlevel
      · obtain ⟨n, hn⟩ := line_integer he hsource hparse
        cases hn.symm.trans hc
  · have hcrash {e : Entry} (he : e ∈ variableEntries) (hname : splitSpace args = (e.name, value))
        (hmay : e.MaySet fromFile) (hkind : e.kind = .text)
        (hassign : Crashes (assign e.source (.text (stripQuotes value))) w) :
        Crashes (if name.isEmpty = true then Action.fail .setUsage
          else do setVariable name value fromFile; variableMessage name) w := by
      obtain ⟨rfl, -⟩ := Prod.mk.inj (hargs.symm.trans hname)
      have hne : e.name.isEmpty = false := by
        have hnames : ∀ e ∈ variableEntries, e.name.isEmpty = false := by decide
        exact hnames e he
      rw [if_neg (by simp [hne]), hset, setVariable_crashes_iff]
      refine ⟨e, _, variableEntries_find? he, Entry.accept_eq_ok_iff.2 ⟨hmay, ?_⟩, hassign⟩
      rw [hkind]
      rfl
    intro hcrashing
    cases hcrashing with
    | level hname h =>
        obtain ⟨-, rfl⟩ := Prod.mk.inj (hargs.symm.trans hname)
        exact hcrash level_mem hname ⟨nofun, nofun⟩ rfl
          ((assign_crashes_iff _ _ w).2 (.inr (.inl ⟨rfl, h⟩)))
    | format hfile hformat hname hset h =>
        obtain ⟨-, rfl⟩ := Prod.mk.inj (hargs.symm.trans hname)
        exact hcrash (format_mem hformat) hname ⟨nofun, fun _ => hfile⟩ rfl
          ((assign_crashes_iff _ _ w).2 (.inl ⟨_, rfl, hformat, _, _, hset, h⟩))

theorem runColor_crashes_iff :
    Crashes (runColor args) w ↔ Crashing Unsortable sourceCrashes args fromFile w .color := by
  rw [runColor]
  split
  next object fg bg predicate hargs =>
    rw [Crashing.color_iff hargs]
    split
    next hobject => simp [hobject]
    next o hobject =>
      rw [crashes_session_bind, readColors_crashes_iff]
      · simp [hobject]
      · intro a b
        split <;> simp
  next hargs =>
    refine iff_of_false (by simp) fun hcrashing => ?_
    cases hcrashing with
    | color hargs' => exact hargs _ _ _ _ hargs'

theorem runSearch_crashes_iff :
    Crashes (runSearch args) w ↔ Crashing Unsortable sourceCrashes args fromFile w .search := by
  rw [runSearch, Crashing.search_iff]
  cases args with
  | nil => simp
  | cons c t =>
      rw [if_neg (by simp), crashes_bind_left fun found w' => by simp, searchFor,
        crashes_change_bind, searchNext_crashes_iff]
      simp

theorem runFilter_crashes_iff :
    Crashes (runFilter args) w ↔ Crashing Unsortable sourceCrashes args fromFile w .filter := by
  rw [runFilter, crashes_bind_left fun _ w' => by simp, setFilter, crashes_change_bind,
    crashes_bind_left fun _ w' => by simp, reload_crashes_iff, Crashing.filter_iff]

theorem runSort_crashes_iff :
    Crashes (runSort args) w ↔ Crashing Unsortable sourceCrashes args fromFile w .sort := by
  rw [runSort, crashes_bind_left fun _ w' => by simp, sort_crashes_iff, Crashing.sort_iff]

/-- A command crashes for one of the reasons. -/
theorem perform_crashes_iff {sourceFile : Text → Action Text} (c : Command)
    (hsource : ∀ path w, Crashes (sourceFile path) w ↔ sourceCrashes path w) :
    Crashes (perform sourceFile c args fromFile) w ↔
      Crashing Unsortable sourceCrashes args fromFile w c := by
  cases c with
  | set => exact runSet_crashes_iff
  | «show» =>
      refine iff_of_false (by simp [perform]) fun hcrashing => ?_
      cases hcrashing
  | color => exact runColor_crashes_iff
  | source => exact (hsource args w).trans Crashing.source_iff.symm
  | reload =>
      rw [Crashing.reload_iff]
      exact (crashes_bind_left fun _ w' => by simp).trans (reload_crashes_iff w)
  | sync =>
      rw [Crashing.sync_iff]
      exact loadAfter_crashes_iff _ (fun _ => rfl) _ w
  | undo =>
      rw [Crashing.undo_iff]
      exact loadAfter_crashes_iff _ (fun _ => rfl) _ w
  | sort => exact runSort_crashes_iff
  | filter => exact runFilter_crashes_iff
  | search => exact runSearch_crashes_iff
  | searchNext =>
      rw [Crashing.searchNext_iff]
      exact (crashes_bind_left fun _ w' => by simp).trans (searchNext_crashes_iff w)
  | version =>
      refine iff_of_false (by simp [perform]) fun hcrashing => ?_
      cases hcrashing
  | dump =>
      refine iff_of_false (by simp [perform]) fun hcrashing => ?_
      cases hcrashing

/-! ## Command lines and files -/

theorem runLineWith_crashes_iff {sourceFile : Text → Action Text}
    (hsource : ∀ path w, Crashes (sourceFile path) w ↔ sourceCrashes path w) (line : Text)
    (fromFile : Bool) (w : World) :
    Crashes (runLineWith sourceFile line fromFile) w ↔
      LineCrashes Unsortable sourceCrashes line fromFile w := by
  rw [runLineWith, LineCrashes]
  dsimp only
  split
  next hempty =>
    have hno : ofName? (splitSpace (Text.trim line)).1 = none := by
      rw [List.isEmpty_iff.1 hempty]
      rfl
    simp [hno]
  next =>
    cases hname : ofName? (splitSpace (Text.trim line)).1 with
    | none => simp
    | some c =>
        dsimp only
        rw [crashes_note_bind, perform_crashes_iff c hsource]
        simp

theorem sourceWithin_crashes_iff (depth : Nat) :
    ∀ (path : Text) (w : World),
      Crashes (sourceWithin depth path) w ↔ SourceCrashes Unsortable depth path w := by
  induction depth with
  | zero => intro path w; exact crashes_crash _ w
  | succ depth ih =>
      intro path w
      exact sourceWith_crashes_iff (fun line w => runLineWith_crashes_iff ih line true w) path w

end Command

/-! ## The prompt -/

namespace Session

open Command

theorem runCommand_crashes_iff (line : Text) (w : World) :
    Crashes (runCommand line) w ↔ PromptCrashes Unsortable line w := by
  rw [runCommand, crashes_rescue_left fun e w' => by simp, crashes_bind_left fun _ w' => by simp]
  exact runLineWith_crashes_iff (sourceWithin_crashes_iff _) line false w

/-- The name of the default layout of notes is no level, in whatever case it is written. -/
theorem promptCrashes_basicFormat (noOrder : Text → List Record → Prop) (w : World) :
    PromptCrashes noOrder "set log_level basic_format" w := by
  have hargs : splitSpace (Text.trim "log_level basic_format") =
      (("log_level" : Text), ("basic_format" : Text)) := by decide
  have hlevel : Text.upper (stripQuotes "basic_format") = "BASIC_FORMAT" := by decide
  exact ⟨.set, by decide, .level hargs (.inl hlevel)⟩

/-- A command line that does not crash leaves its message, or that of its failure. -/
theorem runCommand_message {line : Text} {w : World} (h : ¬ Crashes (runCommand line) w) :
    ∃ message w', effect (runCommand line) w = (.ok message, w') ∧
      w'.session.message = some message := by
  rw [Crashes, runCommand, effect_rescue, effect_bind] at h
  rw [runCommand, effect_rescue, effect_bind]
  rcases heffect : effect (runLine line false) w with ⟨(f | c) | message, w'⟩
  · exact ⟨_, _, rfl, rfl⟩
  · rw [heffect] at h
    exact absurd ⟨c, rfl⟩ h
  · exact ⟨_, _, rfl, rfl⟩

/-- A command line at the prompt gives a message, which it leaves for the status line, or crashes.
It crashes for one of the reasons that are listed, and if it is one of them that tasks have no order
it is sure to crash if no two of them have one. -/
theorem runCommand_ends (line : Text) (w : World) :
    (PromptCrashes Incomparable line w → ∃ c, (effect (runCommand line) w).1 = .error (.crash c)) ∧
      (¬ PromptCrashes Unordered line w →
        ∃ message w', effect (runCommand line) w = (.ok message, w') ∧
          w'.session.message = some message) ∧
      match effect (runCommand line) w with
      | (.ok message, w') => w'.session.message = some message
      | (.error e, _) => ∃ c, e = .crash c := by
  refine ⟨fun hcrashes => ?certain, fun hsafe => ?safe, ?ends⟩
  case certain =>
    exact (runCommand_crashes_iff line w).2
      (hcrashes.mono fun _ _ => Incomparable.unsortable)
  case safe =>
    refine runCommand_message fun hcrash => hsafe ?_
    exact ((runCommand_crashes_iff line w).1 hcrash).mono fun _ _ => Unsortable.unordered
  case ends =>
    by_cases hcrash : Crashes (runCommand line) w
    · obtain ⟨c, hc⟩ := hcrash
      rw [effect_eq_of_fst hc]
      exact ⟨c, rfl⟩
    · obtain ⟨message, w', hended, hmessage⟩ := runCommand_message hcrash
      rw [hended]
      exact hmessage

end Session

end TaskBrowser
