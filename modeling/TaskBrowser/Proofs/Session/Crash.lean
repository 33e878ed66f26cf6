import TaskBrowser.Proofs.Record.Comparing
import TaskBrowser.Proofs.Session.Loading

/-!
# When operations crash

An action crashes if it ends in something that nothing inside the program catches.  For the
operations that load, sort and search, this is a condition on the session and on the answers of
the task program: a run is raised, an export cannot be read, tasks have no order, or the search
text is a pattern that cannot be used.

When tasks have no order is left open where loads are described, so that it may be what the sort
finds (`Unsortable`) or a condition that any sort meets.
-/

namespace TaskBrowser

namespace Action

variable {α β : Type}

/-- The action ends in a crash. -/
def Crashes (x : Action α) (w : World) : Prop := ∃ c, (effect x w).1 = .error (.crash c)

theorem not_crashes_of_effect {x : Action α} {w w' : World} {a : α}
    (h : effect x w = (.ok a, w')) : ¬ Crashes x w := by
  rintro ⟨c, hc⟩
  rw [h] at hc
  cases hc

@[simp] theorem crashes_pure (a : α) (w : World) : Crashes (pure a : Action α) w ↔ False :=
  iff_false_intro (not_crashes_of_effect (effect_pure a w))

@[simp] theorem crashes_fail (f : Failure) (w : World) :
    Crashes (fail f : Action α) w ↔ False := by
  refine iff_false_intro ?_
  rintro ⟨c, hc⟩
  cases hc

@[simp] theorem crashes_crash (c : Crash) (w : World) : Crashes (crash c : Action α) w ↔ True :=
  iff_true_intro ⟨c, rfl⟩

@[simp] theorem crashes_session (w : World) : Crashes session w ↔ False :=
  iff_false_intro (not_crashes_of_effect (effect_session w))

@[simp] theorem crashes_change (f : Session → Session) (w : World) :
    Crashes (change f) w ↔ False :=
  iff_false_intro (not_crashes_of_effect (effect_change f w))

@[simp] theorem crashes_note (n : Note) (w : World) : Crashes (note n) w ↔ False :=
  iff_false_intro (not_crashes_of_effect (effect_note n w))

@[simp] theorem crashes_notify (message : Text) (isError : Bool) (w : World) :
    Crashes (Session.notify message isError) w ↔ False :=
  iff_false_intro (not_crashes_of_effect (Session.effect_notify message isError w))

/-- What is done on the host crashes as it does there. -/
@[simp] theorem crashes_onHost (x : HostAction α) (w : World) :
    Crashes (onHost x) w ↔ ∃ c, (effect x w.host).1 = .error (.crash c) := by
  rw [Crashes, effect_onHost]

/-- One of two actions crashes, the second one where the first has left the world. -/
theorem crashes_bind {x : Action α} {f : α → Action β} {w : World} :
    Crashes (x >>= f) w ↔ Crashes x w ∨ ∃ a w', effect x w = (.ok a, w') ∧ Crashes (f a) w' := by
  rw [Crashes, Crashes, effect_bind]
  rcases effect x w with ⟨e | a, w'⟩
  · simp
  · constructor
    · intro hf
      exact .inr ⟨a, w', rfl, hf⟩
    · rintro (⟨c, hc⟩ | ⟨_, _, hsame, hf⟩)
      · cases hc
      · cases hsame
        exact hf

/-- What follows does not crash. -/
theorem crashes_bind_left {x : Action α} {f : α → Action β} {w : World}
    (h : ∀ a w', ¬ Crashes (f a) w') : Crashes (x >>= f) w ↔ Crashes x w := by
  rw [crashes_bind]
  constructor
  · rintro (hx | ⟨a, w', -, hf⟩)
    · exact hx
    · exact absurd hf (h a w')
  · exact .inl

@[simp] theorem crashes_map (f : α → β) (x : Action α) (w : World) :
    Crashes (f <$> x) w ↔ Crashes x w := by
  rw [map_eq_pure_bind]
  exact crashes_bind_left fun a w' => by simp

/-- What comes first ends well. -/
theorem crashes_bind_ok {x : Action α} {f : α → Action β} {w w' : World} {a : α}
    (h : effect x w = (.ok a, w')) : Crashes (x >>= f) w ↔ Crashes (f a) w' := by
  rw [Crashes, effect_bind_ok h]
  rfl

@[simp] theorem crashes_session_bind (f : Session → Action β) (w : World) :
    Crashes (session >>= f) w ↔ Crashes (f w.session) w :=
  crashes_bind_ok (effect_session w)

@[simp] theorem crashes_change_bind (g : Session → Session) (f : Unit → Action β) (w : World) :
    Crashes (change g >>= f) w ↔ Crashes (f ()) { w with session := g w.session } :=
  crashes_bind_ok (effect_change g w)

@[simp] theorem crashes_note_bind (n : Note) (f : Unit → Action β) (w : World) :
    Crashes (note n >>= f) w ↔ Crashes (f ()) { w with host := w.host.withNote n } :=
  crashes_bind_ok (effect_note n w)

theorem crashes_orCrash_bind (x : Except Crash α) (f : α → Action β) (w : World) :
    Crashes (orCrash x >>= f) w ↔ (∃ c, x = .error c) ∨ ∃ a, x = .ok a ∧ Crashes (f a) w := by
  cases x with
  | error c =>
      have hcrash : Crashes (orCrash (.error c) >>= f) w := ⟨c, rfl⟩
      simp [hcrash]
  | ok a =>
      have hbind : Crashes (orCrash (.ok a) >>= f) w ↔ Crashes (f a) w := crashes_bind_ok rfl
      simp [hbind]

/-- A crash passes a handler by, and a handler may crash where a failure has left the world. -/
theorem crashes_rescue {x : Action α} {f : Failure → Action α} {w : World} :
    Crashes (rescue x f) w ↔
      Crashes x w ∨ ∃ e w', effect x w = (.error (.failure e), w') ∧ Crashes (f e) w' := by
  rw [Crashes, Crashes, effect_rescue]
  rcases effect x w with ⟨(e | c) | a, w'⟩
  · constructor
    · intro hf
      exact .inr ⟨e, w', rfl, hf⟩
    · rintro (⟨c, hc⟩ | ⟨_, _, hsame, hf⟩)
      · cases hc
      · cases hsame
        exact hf
  · simp
  · simp

/-- A handler that does not crash. -/
theorem crashes_rescue_left {x : Action α} {f : Failure → Action α} {w : World}
    (h : ∀ e w', ¬ Crashes (f e) w') : Crashes (rescue x f) w ↔ Crashes x w := by
  rw [crashes_rescue]
  constructor
  · rintro (hx | ⟨e, w', -, hf⟩)
    · exact hx
    · exact absurd hf (h e w')
  · exact .inl

end Action

/-! ## The answers of the task program -/

@[simp] theorem Host.withNote_answers (h : Host) (n : Note) :
    (h.withNote n).answers = h.answers := by
  rw [Host.withNote]
  split <;> rfl

/-- Notes change nothing else of the host. -/
theorem Host.withNotes_eq (ns : List Note) :
    ∀ h : Host, ∃ kept, h.withNotes ns = { h with notes := kept } := by
  induction ns with
  | nil => intro h; exact ⟨h.notes, rfl⟩
  | cons n ns ih =>
      intro h
      obtain ⟨kept, hkept⟩ := ih (h.withNote n)
      refine ⟨kept, hkept.trans ?_⟩
      rw [Host.withNote]
      split <;> rfl

/-- The answers that the task program is still to give, and how often it was run before. -/
structure Pending where
  /-- The answers that are still to come. -/
  answers : List Answer
  /-- The number of runs before. -/
  runs : Nat

/-- What a host has still to come of the task program. -/
def Host.pending (h : Host) : Pending := ⟨h.answers, h.ran.length⟩

@[simp] theorem Host.withNote_pending (h : Host) (n : Note) :
    (h.withNote n).pending = h.pending := by
  rw [Host.withNote]
  split <;> rfl

@[simp] theorem Host.withNotes_pending (h : Host) (ns : List Note) :
    (h.withNotes ns).pending = h.pending := by
  obtain ⟨kept, hkept⟩ := Host.withNotes_eq ns h
  rw [hkept]
  rfl

/-- What a run gives: nothing if the program does not end well, the crash if it is raised, and
otherwise what is printed. -/
def Answer.result? (a : Answer) : Option (Except Crash Text) :=
  match a with
  | .notRunnable => none
  | .raised c => some (.error c)
  | .ended out _ status => if status = 0 then some (.ok out) else none

namespace Pending

/-- What is still to come after another run. -/
def next (p : Pending) : Pending := ⟨p.answers.tail, p.runs + 1⟩

/-- What the next run of the task program gives. -/
def result? (p : Pending) : Option (Except Crash Text) := (p.answers.headD .silent).result?

/-- What the next run prints, if it ends well. -/
def output? (p : Pending) : Option Text := p.result?.bind Except.toOption

/-- The records that the next run exports, or the crash of the run or of reading them, unless the
program does not end well. -/
def records? [Interpreter] (p : Pending) : Option (Except Fault (List Record)) :=
  p.result?.map fun printed => do
    let out ← printed.mapError .crash
    (Export.records (Interpreter.nesting p.next.runs) out).outcome

end Pending

namespace Client

/-- A run gives what is printed or the crash that it is raised with, takes one answer, and fails if
the program does not end well. -/
theorem run_cases (c : Client) (args : List Text) (overrides : Bool) (h : Host) :
    ∃ h', h'.pending = h.pending.next ∧
      match h.pending.result? with
      | some printed => effect (c.run args overrides) h = (printed.mapError .crash, h')
      | none => ∃ f, effect (c.run args overrides) h = (.error (.failure f), h') := by
  rw [effect_run]
  dsimp only
  have hlength (ran : List (List Text)) (argv : List Text) :
      (ran ++ [argv]).length = ran.length + 1 := List.length_append
  refine ⟨((h.withNote (runNote (c.argv overrides args))).runTask (c.argv overrides args)).2,
    ?_, ?_⟩
  · rw [← Host.withNote_pending h (runNote (c.argv overrides args)), Host.runTask]
    rcases hanswers : (h.withNote (runNote (c.argv overrides args))).answers with _ | ⟨a, rest⟩
    · simp only [Host.pending, Pending.next, hanswers, hlength, List.tail_nil]
    · simp only [Host.pending, Pending.next, hanswers, hlength, List.tail_cons]
  · rw [Host.runTask, Host.withNote_answers, Pending.result?, Host.pending]
    rcases h.answers with _ | ⟨_ | x | ⟨out, err, status⟩, rest⟩
    · rfl
    · exact ⟨_, rfl⟩
    · rfl
    · by_cases hs : status = 0
      · simp [Answer.result?, hs, Except.mapError]
      · simp [Answer.result?, hs]

/-- A run that the program answers gives what is printed, or the crash that it is raised with. -/
theorem run_of_result {c : Client} {args : List Text} {overrides : Bool} {h : Host}
    {printed : Except Crash Text} (hresult : h.pending.result? = some printed) :
    ∃ h', effect (c.run args overrides) h = (printed.mapError .crash, h') ∧
      h'.pending = h.pending.next := by
  obtain ⟨h', hnext, hrun⟩ := c.run_cases args overrides h
  rw [hresult] at hrun
  exact ⟨h', hrun, hnext⟩

/-- Any other run fails. -/
theorem run_of_noResult {c : Client} {args : List Text} {overrides : Bool} {h : Host}
    (hresult : h.pending.result? = none) :
    ∃ f h', effect (c.run args overrides) h = (.error (.failure f), h') := by
  obtain ⟨h', -, hrun⟩ := c.run_cases args overrides h
  rw [hresult] at hrun
  obtain ⟨f, hrun⟩ := hrun
  exact ⟨f, h', hrun⟩

variable [Interpreter]

/-- What is read after a run goes by the number of runs. -/
theorem exported_outcome {h h' : Host} (hnext : h'.pending = h.pending.next) (out : Text) :
    (exported h' out).outcome =
      (Export.records (Interpreter.nesting h.pending.next.runs) out).outcome := by
  rw [exported, ← hnext]
  rfl

/-- An export ends as reading what is printed does, unless it fails before. -/
theorem exportAll_outcome_iff {c : Client} {f : Option Text} {h : Host}
    {r : Except Fault (List Record)} (hr : ∀ f, r ≠ .error (.failure f)) :
    (effect (c.exportAll f) h).1 = r ↔
      ∃ args, splitArguments (f.getD []) = .ok args ∧ h.pending.records? = some r := by
  rw [effect_exportAll]
  cases hargs : splitArguments (f.getD []) with
  | error f =>
      constructor
      · intro hfail
        exact absurd hfail.symm (hr f)
      · rintro ⟨_, h, -⟩
        cases h
  | ok args =>
      obtain ⟨h', hnext, hrun⟩ := c.run_cases (args ++ [("export" : Text)]) true
        (h.withNote (exportNote f))
      rw [Host.withNote_pending] at hnext hrun
      dsimp only
      rw [Pending.records?]
      cases hresult : h.pending.result? with
      | none =>
          rw [hresult] at hrun
          obtain ⟨f, hrun⟩ := hrun
          rw [hrun]
          constructor
          · intro hfail
            exact absurd hfail.symm (hr f)
          · rintro ⟨_, _, h⟩
            cases h
      | some printed =>
          rw [hresult] at hrun
          dsimp only at hrun
          rw [hrun]
          cases printed with
          | error x => simp [Except.mapError, Bind.bind, Except.bind]
          | ok out =>
              have hread := exported_outcome hnext out
              simp [Except.mapError, Bind.bind, Except.bind, hread]

end Client

/-! ## Loading, sorting and searching -/

namespace Session

open TaskBrowser.Action

section Loading

variable [Interpreter]

/-- What comes of reading the tasks that the task program exports next for a session. -/
def Exports (s : Session) (p : Pending) (r : Except Fault (List Record)) : Prop :=
  ∃ args, Client.splitArguments s.config.filter = .ok args ∧ p.records? = some r

/-- Tasks are loaded that cannot be read, or that have no order. -/
def LoadCrashes (noOrder : Text → List Record → Prop) (s : Session) (p : Pending) : Prop :=
  (∃ c, s.Exports p (.error (.crash c))) ∨
    ∃ rs, s.Exports p (.ok rs) ∧ noOrder s.config.sortMode rs

theorem LoadCrashes.mono {noOrder noOrder' : Text → List Record → Prop} {s : Session} {p : Pending}
    (hmono : ∀ mode rs, noOrder mode rs → noOrder' mode rs) (h : LoadCrashes noOrder s p) :
    LoadCrashes noOrder' s p := by
  rcases h with hread | ⟨rs, hexports, hrs⟩
  · exact .inl hread
  · exact .inr ⟨rs, hexports, hmono _ rs hrs⟩

theorem Exports.unique {s : Session} {p : Pending} {r r' : Except Fault (List Record)}
    (h : s.Exports p r) (h' : s.Exports p r') : r = r' := by
  obtain ⟨_, _, hr⟩ := h
  obtain ⟨_, _, hr'⟩ := h'
  exact Option.some.inj (hr.symm.trans hr')

/-- A load that does not fail goes by what is exported. -/
theorem exports_iff (w : World) {r : Except Fault (List Record)}
    (hr : ∀ f, r ≠ .error (.failure f)) :
    (effect (w.session.asked.exportAll (some w.session.config.filter)) w.host).1 = r ↔
      w.session.Exports w.host.pending r :=
  Client.exportAll_outcome_iff (f := some w.session.config.filter) hr

theorem reload_crashes_iff (w : World) :
    Crashes reload w ↔ LoadCrashes Unsortable w.session w.host.pending := by
  rw [Crashes, effect_reload]
  have hcrash (c : Crash) := exports_iff w (r := .error (.crash c)) nofun
  have hok (rs : List Record) := exports_iff w (r := .ok rs) nofun
  generalize effect (w.session.asked.exportAll (some w.session.config.filter)) w.host = loaded
    at hcrash hok ⊢
  rcases loaded with ⟨(f | c) | rs, h⟩
  · constructor
    · rintro ⟨c, hc⟩
      cases hc
    · rintro (⟨c, hread⟩ | ⟨rs, hread, -⟩)
      · cases (hcrash c).2 hread
      · cases (hok rs).2 hread
  · constructor
    · intro _
      exact .inl ⟨c, (hcrash c).1 rfl⟩
    · intro _
      exact ⟨c, rfl⟩
  · have hread := (hok rs).1 rfl
    dsimp only
    rw [settled]
    cases hsort : sortRecords w.session.config.sortMode rs with
    | error c =>
        constructor
        · intro _
          exact .inr ⟨rs, hread, c, hsort⟩
        · intro _
          exact ⟨c, rfl⟩
    | ok sorted =>
        constructor
        · rintro ⟨c, hc⟩
          cases hc
        · rintro (⟨c, hread'⟩ | ⟨rs', hread', c, hsort'⟩)
          · cases hread.unique hread'
          · cases hread.unique hread'
            cases hsort.symm.trans hsort'

/-- What is asked is raised, or it ends well and the load after it crashes. -/
def LoadAfterCrashes (noOrder : Text → List Record → Prop) (s : Session) (p : Pending) : Prop :=
  ∃ printed, p.result? = some printed ∧
    ((∃ c, printed = .error c) ∨ LoadCrashes noOrder s p.next)

theorem LoadAfterCrashes.mono {noOrder noOrder' : Text → List Record → Prop} {s : Session}
    {p : Pending} (hmono : ∀ mode rs, noOrder mode rs → noOrder' mode rs)
    (h : LoadAfterCrashes noOrder s p) : LoadAfterCrashes noOrder' s p := by
  obtain ⟨printed, hprinted, hraised | hload⟩ := h
  · exact ⟨printed, hprinted, .inl hraised⟩
  · exact ⟨printed, hprinted, .inr (hload.mono hmono)⟩

theorem loadAfter_crashes_iff {args : List Text} (f : Client → HostAction Text)
    (hf : ∀ c, f c = c.run args true) (message : Text) (w : World) :
    Crashes (do let _ ← ask f; reload; notify message false) w ↔
      LoadAfterCrashes Unsortable w.session w.host.pending := by
  obtain ⟨h', hnext, hrun⟩ := w.session.asked.run_cases args true w.host
  rw [Crashes, effect_ask_bind, hf, LoadAfterCrashes]
  cases hresult : w.host.pending.result? with
  | none =>
      rw [hresult] at hrun
      obtain ⟨f, hrun⟩ := hrun
      rw [hrun]
      simp
  | some printed =>
      rw [hresult] at hrun
      dsimp only at hrun
      rw [hrun]
      cases printed with
      | error c => simp [Except.mapError]
      | ok out =>
          have hreload : Crashes (do reload; notify message false) { w with host := h' } ↔
              LoadCrashes Unsortable w.session h'.pending :=
            (crashes_bind_left fun _ w' => by simp).trans (reload_crashes_iff _)
          rw [hnext] at hreload
          simp only [Option.some.injEq, exists_eq_left', reduceCtorEq, exists_false, false_or]
          exact hreload

end Loading

/-- Two tasks have no order. -/
theorem sort_crashes_iff (mode : Option Text) (w : World) :
    Crashes (sort mode) w ↔
      Unsortable (w.session.withMode mode).config.sortMode w.session.store := by
  have hstore : (w.session.withMode mode).store = w.session.store := by
    rcases mode with _ | _ | ⟨c, t⟩ <;> rfl
  rw [Crashes, effect_sort, settled, hstore, Unsortable]
  cases sortRecords (w.session.withMode mode).config.sortMode w.session.store with
  | error c => simp [Except.map]
  | ok sorted => simp [Except.map]

section Searching

variable [Interpreter]

/-- The search text is tried on a task that comes before the first match, if there is one, and
crashes there. -/
def SearchCrashes (s : Session) : Prop :=
  ∃ pattern c, s.search = some pattern ∧ pattern ≠ [] ∧
    s.firstMatch pattern (searchOrder s.store.length s.selected) = .error c

theorem searchNext_crashes_iff (w : World) : Crashes searchNext w ↔ w.session.SearchCrashes := by
  have hnotify (message : Text) (w : World) :
      ¬ Crashes (do let _ ← notify message true; return false) w :=
    not_crashes_of_effect (effect_bind_ok (effect_notify message true w) _)
  rw [searchNext, crashes_session_bind, SearchCrashes]
  split
  next first rest r rs hsearch hstore =>
    rw [crashes_orCrash_bind, hsearch, hstore]
    constructor
    · rintro (⟨c, hc⟩ | ⟨found, -, hfound⟩)
      · exact ⟨_, c, rfl, nofun, hc⟩
      · cases found with
        | none => exact absurd hfound (hnotify _ w)
        | some n =>
            dsimp only at hfound
            split at hfound
            · rw [crashes_bind_ok (effect_notify _ _ _)] at hfound
              simp at hfound
            · simp at hfound
    · rintro ⟨pattern, c, hpattern, -, hc⟩
      cases hpattern
      exact .inl ⟨c, hc⟩
  next hnone =>
    constructor
    · intro hcrash
      exact absurd hcrash (hnotify _ w)
    · rintro ⟨pattern, c, hpattern, hne, hc⟩
      cases hstore : w.session.store with
      | nil =>
          rw [hstore] at hc
          cases hc
      | cons r rs =>
          obtain ⟨first, rest, rfl⟩ := List.exists_cons_of_ne_nil hne
          exact absurd hstore (hnone first rest r rs hpattern)

end Searching

end Session

end TaskBrowser
