import TaskBrowser.Proofs.Command.Line
import TaskBrowser.Proofs.Session.Failing
import TaskBrowser.Proofs.Session.Reloading

/-!
# Filtering

A filter is adopted before the tasks that pass it are loaded.  So it is adopted in any case, also if
it cannot be applied: if its words cannot be told apart, or if the task program does not answer.
Then the list and the selection are still those of the filter before, and only the setting is the
new one (`Session.filter_adopted`).  If its words cannot be told apart no later load can be made
either, until another filter is set (`Session.reload_after_unparsable`).
-/

namespace TaskBrowser

namespace Session

open TaskBrowser.Action

/-! ## Setting a filter -/

/-- The session with another filter. -/
def withFilter (s : Session) (filter : Text) : Session :=
  { s with config := { s.config with filter := filter } }

/-- Adopting a filter changes the session unless it is the filter already. -/
theorem withFilter_eq_self_iff {s : Session} {filter : Text} :
    s.withFilter filter = s ↔ filter = s.config.filter := by
  constructor
  · intro h
    exact congrArg (·.config.filter) h
  · rintro rfl
    rfl

section General

variable [Interpreter]

/-- What applies a filter adopts it, however that ends.  It fails if the tasks that pass the filter
cannot be had, and then nothing else has changed; otherwise they are loaded, unless that crashes. -/
def Adopts {α : Type} (x : Action α) (filter : Text) (w : World) : Prop :=
  let adopted := w.session.withFilter (Text.trim filter)
  ((∃ f, (effect x w).1 = .error (.failure f)) ↔ adopted.Unanswered w.host.pending) ∧
    match effect x w with
    | (.ok _, w') =>
        w'.session.config = adopted.config ∧
          ∃ rs, adopted.Exports w.host.pending (.ok rs) ∧ w'.session.store.Perm rs
    | (.error (.failure _), w') => w'.session = adopted
    | (.error (.crash _), w') =>
        w'.session.config = adopted.config ∧ LoadCrashes Unsortable adopted w.host.pending

/-- A load and what is told of it. -/
theorem effect_setFilter (filter : Text) (w : World) :
    effect (setFilter filter) w =
      effect (do
          reload
          let s ← Action.session
          let _ ← notify ("filter applied: " ++ shownFilter s.config.filter) false)
        { w with session := w.session.withFilter (Text.trim filter) } := rfl

theorem setFilter_adopts (filter : Text) (w : World) : Adopts (setFilter filter) filter w := by
  have hcrashes := reload_crashes_iff
    { w with session := w.session.withFilter (Text.trim filter) }
  obtain ⟨hfails, -, hends⟩ :=
    reload_ends { w with session := w.session.withFilter (Text.trim filter) }
  rw [Crashes] at hcrashes
  rw [Adopts, effect_setFilter, effect_bind]
  generalize effect reload { w with session := w.session.withFilter (Text.trim filter) } = ended
    at hcrashes hfails hends ⊢
  rcases ended with ⟨(f | c) | _, w'⟩
  · exact ⟨hfails, hends⟩
  · refine ⟨hfails, ?_, hcrashes.1 ⟨c, rfl⟩⟩
    rcases hends with ⟨-, hsession⟩ | ⟨rs, -, -, -, hsession⟩
    · exact congrArg (·.config) hsession
    · exact congrArg (·.config) hsession
  · obtain ⟨rs, hexports, hperm, hconfig, -⟩ := hends
    exact ⟨hfails, hconfig, rs, hexports, hperm⟩

/-- A filter whose words cannot be told apart breaks all loads that come after it. -/
theorem reload_after_unparsable {filter : Text} {f : Failure}
    (h : Client.splitArguments (Text.trim filter) = .error f) (w : World) (host : Host) :
    let broken : World := ⟨(effect (setFilter filter) w).2.session, host⟩
    effect reload broken = (.error (.failure f), broken) := by
  have hset : effect (setFilter filter) w =
      (.error (.failure f), { w with session := w.session.withFilter (Text.trim filter) }) := by
    rw [effect_setFilter, effect_bind, effect_reload_unparsable h]
  rw [hset]
  exact effect_reload_unparsable h

/-- What follows a filter without changing anything more does not matter. -/
theorem Adopts.andThen {α β : Type} {x : Action α} {f : α → Action β} {filter : Text} {w : World}
    (hx : Adopts x filter w) (hf : ∀ a w, ∃ b, effect (f a) w = (.ok b, w)) :
    Adopts (x >>= f) filter w := by
  rw [Adopts, effect_bind]
  rw [Adopts] at hx
  generalize effect x w = ended at hx ⊢
  rcases ended with ⟨(e | c) | a, w'⟩
  · exact ⟨by simpa using hx.1, hx.2⟩
  · exact ⟨by simpa using hx.1, hx.2⟩
  · obtain ⟨b, hb⟩ := hf a w'
    dsimp only at hx ⊢
    rw [hb]
    exact ⟨by simpa using hx.1, hx.2⟩

/-- A note before it does not matter. -/
theorem Adopts.afterNote {α : Type} {x : Action α} {filter : Text} {n : Note}
    (hx : ∀ w, Adopts x filter w) (w : World) :
    Adopts (do Action.note n; x) filter w := by
  have hnoted := hx { w with host := w.host.withNote n }
  rw [Adopts, effect_bind, effect_note]
  rw [Adopts, Host.withNote_pending] at hnoted
  exact hnoted

theorem runFilter_adopts (args : Text) (w : World) : Adopts (Command.runFilter args) args w :=
  (setFilter_adopts args w).andThen fun _ _ => ⟨_, rfl⟩

variable [Validator]

/-- The command `filter` adopts its arguments. -/
theorem runLine_adopts {line filter : Text} (h : Command.ofLine? line = some (.filter, filter))
    (fromFile : Bool) (w : World) : Adopts (Command.runLine line fromFile) filter w := by
  rw [Command.runLine, Command.runLineWith_of_command h]
  exact Adopts.afterNote (runFilter_adopts filter) w

/-- A line at the prompt tells a failure, and leaves the filter adopted and nothing else changed. -/
def Refuses (line filter : Text) (w : World) : Prop :=
  ∃ (f : Failure) (w' : World), effect (runCommand line) w = (.ok f.message, w') ∧
    w'.session = { w.session.withFilter (Text.trim filter) with
      message := some f.message, messageIsError := true }

/-- At the prompt the failure becomes a message, and the filter is adopted all the same. -/
theorem refuses_iff {line filter : Text} (h : Command.ofLine? line = some (.filter, filter))
    (w : World) :
    Refuses line filter w ↔
      (w.session.withFilter (Text.trim filter)).Unanswered w.host.pending := by
  obtain ⟨hfails, hends⟩ := runLine_adopts h false w
  rw [← hfails, Refuses, runCommand, effect_rescue, effect_bind]
  generalize effect (Command.runLine line false) w = ended at hends ⊢
  rcases ended with ⟨(f | c) | message, w'⟩
  · constructor
    · intro _
      exact ⟨f, rfl⟩
    · intro _
      refine ⟨f, _, rfl, ?_⟩
      dsimp only at hends ⊢
      rw [← hends]
  · constructor
    · rintro ⟨_, _, h, -⟩
      cases h
    · rintro ⟨_, h⟩
      cases h
  · constructor
    · rintro ⟨f, w'', h, hsession⟩
      have htold : w''.session.messageIsError = true := by rw [hsession]
      cases h
      cases htold
    · rintro ⟨_, h⟩
      cases h

/-- A filter is adopted however it is set and however that ends.  If it cannot be applied, the
setting is the new filter while the tasks and the selection are those of the filter before, so that
the session is as it was only if the two filters are the same.  At the prompt this is so after the
message that tells the failure. -/
theorem filter_adopted (w : World) :
    (∀ filter, Adopts (setFilter filter) filter w ∧
        ∀ f w', effect (setFilter filter) w = (.error (.failure f), w') →
          (w'.session = w.session ↔ Text.trim filter = w.session.config.filter)) ∧
      (∀ line filter fromFile, Command.ofLine? line = some (.filter, filter) →
        Adopts (Command.runLine line fromFile) filter w) ∧
      (∀ line filter, Command.ofLine? line = some (.filter, filter) →
        (Refuses line filter w ↔
          (w.session.withFilter (Text.trim filter)).Unanswered w.host.pending)) ∧
      ∀ value, TaskScreen.promptAction "filter" value = some (runCommand ("filter " ++ value)) ∧
        Command.ofLine? ("filter " ++ value) = some (.filter, Text.trim value) := by
  refine ⟨?direct, ?command, ?prompt, ?typed⟩
  case direct =>
    intro filter
    have hadopts := setFilter_adopts filter w
    refine ⟨hadopts, fun f w' hfailed => ?_⟩
    have hsession := hadopts.2
    rw [hfailed] at hsession
    rw [show w'.session = w.session.withFilter (Text.trim filter) from hsession]
    exact withFilter_eq_self_iff
  case command =>
    intro line filter fromFile h
    exact runLine_adopts h fromFile w
  case prompt =>
    intro line filter h
    exact refuses_iff h w
  case typed =>
    intro value
    exact ⟨rfl, Command.ofLine?_filter value⟩

end General

example : (effect (setFilter " it's") mixed).2.session.config.filter = "it's" := by
  decide +kernel

end Session

end TaskBrowser
