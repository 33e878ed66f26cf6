import TaskBrowser.Proofs.Color.History
import TaskBrowser.Proofs.Command.Crash
import TaskBrowser.Proofs.Files.Following
import TaskBrowser.Proofs.Session.Compiled
import TaskBrowser.Proofs.Template.Width

/-!
# Sessions that start

Setting up a session takes a colour pair for each of the default rules, whose colours all differ,
and compiles three formats.  So whether it succeeds is a condition on the settings alone
(`Config.Unusable`).

A session that is set up asks for the version of the task program, runs its command file, and loads
the tasks.  Its start crashes if one of the three does (`Session.StartCrashes`); that the version
cannot be found out is no reason unless the run for it is raised.
-/

namespace TaskBrowser

/-! ## The default rules -/

namespace Board

/-- A rule with colours that have no pair yet takes the next one. -/
theorem addRule_new {b b' : Board} {e : Scheme.Entry} {n : Nat}
    (h : b.addRule e.object e.predicate e.colors = .ok (n, b'))
    (hnew : e.colors ∉ b.scheme.palette.pairs) :
    b'.scheme.palette =
      { b.scheme.palette with pairs := b.scheme.palette.pairs ++ [e.colors] } := by
  rw [addRule, Scheme.add] at h
  cases hallocate : b.scheme.palette.allocate e.colors with
  | error x => rw [hallocate] at h; cases h
  | ok taken =>
      rw [hallocate] at h
      cases h
      rcases Palette.allocate_eq_ok hallocate with ⟨-, m, -, hm⟩ | ⟨-, -, hpalette⟩
      · exact absurd (List.mem_of_getElem? hm) hnew
      · exact hpalette

/-- Rules with colours of their own are added as long as there are pairs for them. -/
theorem addAll_eq_none_iff (es : List Scheme.Entry) :
    ∀ {b : Board}, (es.map (·.colors)).Nodup →
      (∀ e ∈ es, e.colors ∉ b.scheme.palette.pairs) →
      ((b.addAll es).2 = none ↔
        es = [] ∨
          (b.scheme.palette.pairs.length + es.length : Int) < b.scheme.palette.capacity) := by
  induction es with
  | nil => simp [addAll]
  | cons e es ih =>
      intro b hdiffer hnew
      obtain ⟨hfirst, hdiffer⟩ := List.nodup_cons.1 hdiffer
      have hpair := hnew e List.mem_cons_self
      have hrefused := addRule_error_iff (b := b) (k := ⟨e.object, e.predicate⟩) (c := e.colors)
      rw [addAll]
      cases hadd : b.addRule e.object e.predicate e.colors with
      | error x =>
          have hfull := (hrefused.1 ⟨x, hadd⟩).2
          simp only [reduceCtorEq, false_or, false_iff, List.length_cons]
          omega
      | ok found =>
          obtain ⟨n, b'⟩ := found
          have hroom : (b.scheme.palette.pairs.length + 1 : Int) < b.scheme.palette.capacity := by
            by_contra hfull
            obtain ⟨x, hx⟩ := hrefused.2 ⟨hpair, Int.not_lt.1 hfull⟩
            cases hadd.symm.trans hx
          have hpalette := addRule_new hadd hpair
          have hrest : ∀ d ∈ es, d.colors ∉ b'.scheme.palette.pairs := by
            intro d hd hmem
            rw [hpalette, List.mem_append, List.mem_singleton] at hmem
            rcases hmem with hmem | hsame
            · exact hnew d (List.mem_cons_of_mem e hd) hmem
            · exact hfirst (List.mem_map.2 ⟨d, hd, hsame⟩)
          dsimp only
          rw [ih hdiffer hrest, hpalette]
          -- a single rule that is left over has a pair, as this one had
          cases es with
          | nil => simpa using hroom
          | cons d es =>
              simp only [reduceCtorEq, false_or, List.length_append, List.length_cons,
                List.length_nil]
              omega

/-- The default rules take four pairs, apart from the terminal's own. -/
theorem addAll_defaults_iff (c : Config) :
    ((Session.bare c).board.addAll Scheme.defaults).2 = none ↔ 5 ≤ c.colorPairs := by
  have hnone : ∀ e ∈ Scheme.defaults, e.colors ∉ (Session.bare c).board.scheme.palette.pairs :=
    fun _ _ => List.not_mem_nil
  rw [addAll_eq_none_iff Scheme.defaults (by decide) hnone]
  show Scheme.defaults = [] ∨ ((0 : Nat) + (4 : Nat) : Int) < c.colorPairs ↔ _
  simp only [Scheme.defaults, reduceCtorEq, false_or]
  omega

end Board

/-! ## New sessions -/

namespace Config

/-- The formats of the title, of a task's line and of the title of a task's details. -/
def formats (c : Config) : List Text := [c.titleFormat, c.taskFormat, c.viewFormat]

/-- No session can be set up with the settings. -/
inductive Unusable (c : Config) : Prop where
  | pairs (h : c.colorPairs < 5)
  | format {t u : Text} {d : Char} (ht : t ∈ c.formats)
      (hfield : Template.FieldAt variableNames t u) (h : Template.BreaksAt u d)

/-- The templates exist if no format breaks off in the width of a field. -/
theorem templates_error_iff (c : Config) :
    (∃ e, c.templates = .error e) ↔
      ∃ t ∈ c.formats, ∃ u d, Template.FieldAt variableNames t u ∧ Template.BreaksAt u d := by
  have hsome : (∃ e, c.templates = .error e) ↔
      ∃ t ∈ c.formats, ∃ e, Template.compile variableNames t = .error e := by
    simp only [formats, List.mem_cons, List.not_mem_nil, or_false, exists_eq_or_imp, exists_eq_left]
    rw [templates]
    cases Template.compile variableNames c.titleFormat with
    | error e => simp [bind, Except.bind]
    | ok title =>
        cases Template.compile variableNames c.taskFormat with
        | error e => simp [bind, Except.bind]
        | ok task =>
            cases Template.compile variableNames c.viewFormat with
            | error e => simp [bind, Except.bind]
            | ok view => simp [bind, Except.bind, pure, Except.pure]
  rw [hsome]
  constructor
  · rintro ⟨t, ht, e, he⟩
    obtain ⟨u, d, hfield, hbreaks, -⟩ := Template.compile_eq_error he
    exact ⟨t, ht, u, d, hfield, hbreaks⟩
  · rintro ⟨t, ht, u, d, hfield, hbreaks⟩
    exact ⟨t, ht, hfield.compile_error hbreaks⟩

end Config

namespace Session

open TaskBrowser.Action

/-- A session is set up if the default rules get their pairs and the formats compile. -/
theorem setUp_outcome (c : Config) (h : Host) :
    (effect setUp ⟨bare c, h⟩).1 =
      match ((bare c).board.addAll Scheme.defaults).2 with
      | some e => .error (.failure (.pairsExhausted e))
      | none =>
          match c.templates with
          | .error d => .error (.crash d)
          | .ok _ => .ok () := by
  rw [setUp, effect_bind, addDefaultRules, effect_bind, effect_session]
  dsimp only
  rw [effect_bind, effect_change]
  dsimp only
  rw [effect_bind, effect_onHost, effect_modify]
  dsimp only
  rcases (bare c).board.addAll Scheme.defaults with ⟨b, _ | e⟩
  · simp only [effect_pure]
    cases hts : c.templates with
    | error d =>
        obtain ⟨ts, hcompile⟩ := effect_compileFormats_error (w := ⟨(bare c).withBoard b, _⟩) hts
        rw [hcompile]
    | ok ts => rw [effect_compileFormats_ok (w := ⟨(bare c).withBoard b, _⟩) hts]
  · rfl

theorem setUp_error_iff (c : Config) (h : Host) :
    (∃ e, (effect setUp ⟨bare c, h⟩).1 = .error e) ↔ c.Unusable := by
  rw [setUp_outcome]
  have hpairs := Board.addAll_defaults_iff c
  have hformats := c.templates_error_iff
  cases hrules : ((bare c).board.addAll Scheme.defaults).2 with
  | some e =>
      rw [hrules] at hpairs
      refine iff_of_true ⟨_, rfl⟩ (.pairs ?_)
      exact Int.not_le.1 fun hroom => nomatch hpairs.2 hroom
  | none =>
      rw [hrules] at hpairs
      cases hts : c.templates with
      | error d =>
          obtain ⟨t, ht, u, d', hfield, hbreaks⟩ := hformats.1 ⟨d, hts⟩
          exact iff_of_true ⟨_, rfl⟩ (.format ht hfield hbreaks)
      | ok ts =>
          refine iff_of_false nofun ?_
          rintro (hfew | ⟨ht, hfield, hbreaks⟩)
          · exact Int.not_le.2 hfew (hpairs.1 rfl)
          · obtain ⟨e, he⟩ := hformats.2 ⟨_, ht, _, _, hfield, hbreaks⟩
            cases hts.symm.trans he

/-! ## The version -/

/-- Asking for the version crashes only if the run is raised. -/
theorem askVersion_crashes_iff (w : World) :
    Crashes askVersion w ↔ ∃ x, w.host.pending.result? = some (.error x) := by
  obtain ⟨h', -, hrun⟩ := w.session.asked.run_cases ["--version"] false w.host
  rw [askVersion, crashes_rescue_left fun _ w' => by simp, Crashes, effect_ask_bind, Client.version,
    effect_bind]
  rcases hresult : w.host.pending.result? with _ | x | out
  · rw [hresult] at hrun
    obtain ⟨f, hrun⟩ := hrun
    rw [hrun]
    simp
  · rw [hresult] at hrun
    dsimp only at hrun
    rw [hrun]
    simp [Except.mapError]
  · rw [hresult] at hrun
    dsimp only at hrun
    rw [hrun]
    refine iff_of_false ?_ ?_
    · rintro ⟨c, hc⟩
      cases hc
    · rintro ⟨x, hx⟩
      cases hx

section Starting

variable [Interpreter] [Validator]

/-! ## The command file -/

/-- The command file at a path crashes. -/
inductive CommandFileCrashes (noOrder : Text → List Record → Prop) (p : FilePath) (w : World) :
    Prop where
  | path (h : p.NullInUser ∨ p.Homeless w.host.homes) : CommandFileCrashes noOrder p w
  | withheld {q : FilePath} (hq : p.expand w.host.homes = .ok q)
      (h : w.host.fileSystem.Withholds q) : CommandFileCrashes noOrder p w
  | source {q : FilePath} (hq : p.expand w.host.homes = .ok q)
      (hthere : w.host.fileSystem.leadsSomewhere q = .ok true)
      (h : Command.SourceCrashes noOrder (Interpreter.sourceDepth + 1) p.toText w) :
      CommandFileCrashes noOrder p w

theorem CommandFileCrashes.mono {noOrder noOrder' : Text → List Record → Prop} {p : FilePath}
    {w : World} (hmono : ∀ mode rs, noOrder mode rs → noOrder' mode rs)
    (h : CommandFileCrashes noOrder p w) : CommandFileCrashes noOrder' p w := by
  cases h with
  | path h => exact .path h
  | withheld hq h => exact .withheld hq h
  | source hq hthere h => exact .source hq hthere (Command.SourceCrashes.mono hmono _ _ w h)

theorem loadCommandFile_crashes_iff (p : FilePath) (w : World) :
    Crashes (loadCommandFile p) w ↔ CommandFileCrashes Unsortable p w := by
  have hrun : Crashes (do let _ ← Command.runFile p.toText) w ↔
      Command.SourceCrashes Unsortable (Interpreter.sourceDepth + 1) p.toText w :=
    (crashes_bind_left fun _ w' => by simp).trans (Command.sourceWithin_crashes_iff _ _ w)
  rw [loadCommandFile, crashes_bind_ok (effect_get w), crashes_orCrash_bind,
    FilePath.expand_error_iff]
  constructor
  · rintro (hpath | ⟨q, hq, h⟩)
    · exact .path hpath
    · rw [crashes_orCrash_bind, FileSystem.leadsSomewhere_error_iff] at h
      rcases h with hwithheld | ⟨_ | _, hthere, h⟩
      · exact .withheld hq hwithheld
      · simp at h
      · exact .source hq hthere (hrun.1 h)
  · rintro (hpath | ⟨hq, hwithheld⟩ | ⟨hq, hthere, h⟩)
    · exact .inl hpath
    · refine .inr ⟨_, hq, ?_⟩
      rw [crashes_orCrash_bind, FileSystem.leadsSomewhere_error_iff]
      exact .inl hwithheld
    · refine .inr ⟨_, hq, ?_⟩
      rw [crashes_orCrash_bind]
      exact .inr ⟨true, hthere, hrun.2 h⟩

/-! ## The start -/

/-- The start of a session crashes: asking for the version does, or its command file, or the load
after that. -/
inductive StartCrashes (noOrder : Text → List Record → Prop) (w : World) : Prop where
  | version {x : Crash} (h : w.host.pending.result? = some (.error x)) : StartCrashes noOrder w
  | commandFile {w' : World} (hasked : effect askVersion w = (.ok (), w'))
      (h : CommandFileCrashes noOrder w'.session.config.commandFile w') : StartCrashes noOrder w
  | load {w' w'' : World} (hasked : effect askVersion w = (.ok (), w'))
      (hfile : effect (loadCommandFile w'.session.config.commandFile) w' = (.ok (), w''))
      (h : w''.session.LoadCrashes noOrder w''.host.pending) : StartCrashes noOrder w

theorem StartCrashes.mono {noOrder noOrder' : Text → List Record → Prop} {w : World}
    (hmono : ∀ mode rs, noOrder mode rs → noOrder' mode rs) (h : StartCrashes noOrder w) :
    StartCrashes noOrder' w := by
  cases h with
  | version h => exact .version h
  | commandFile hasked h => exact .commandFile hasked (h.mono hmono)
  | load hasked hfile h => exact .load hasked hfile (h.mono hmono)

theorem startup_crashes_iff (w : World) : Crashes startup w ↔ StartCrashes Unsortable w := by
  have hafter (w' : World) :
      Crashes (do loadCommandFile (← Action.session).config.commandFile; reload) w' ↔
        CommandFileCrashes Unsortable w'.session.config.commandFile w' ∨
          ∃ a w'', effect (loadCommandFile w'.session.config.commandFile) w' = (.ok a, w'') ∧
            w''.session.LoadCrashes Unsortable w''.host.pending := by
    rw [crashes_session_bind, crashes_bind, loadCommandFile_crashes_iff]
    simp only [reload_crashes_iff]
  rw [startup, crashes_bind, askVersion_crashes_iff]
  simp only [hafter]
  constructor
  · rintro (⟨x, hx⟩ | ⟨_, w', hasked, hfile | ⟨_, w'', hfile, hload⟩⟩)
    · exact .version hx
    · exact .commandFile hasked hfile
    · exact .load hasked hfile hload
  · rintro (hx | ⟨hasked, hfile⟩ | ⟨hasked, hfile, hload⟩)
    · exact .inl ⟨_, hx⟩
    · exact .inr ⟨_, _, hasked, .inl hfile⟩
    · exact .inr ⟨_, _, hasked, .inr ⟨_, _, hfile, hload⟩⟩

end Starting

end Session

end TaskBrowser
