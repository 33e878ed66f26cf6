import Mathlib
import TaskBrowser.Session.Operations

/-!
# What comes of actions

An action that changes a state and may end in a fault is, read as a function, its `effect`: from a
state to the way it ends and the state it leaves.  The effect of each primitive action is an
equation here, so that an operation is rewritten into the states it goes through.

An action that is one after another does the second from where the first has left the state, and
leaves what the first has left if that ended in a fault (`effect_bind`).
-/

namespace TaskBrowser

section General

variable {σ α β : Type}

/-- How an action ends, and the state it leaves. -/
def effect (x : ExceptT Fault (StateM σ) α) (s : σ) : Except Fault α × σ := x.run.run s

theorem effect_eq_of_fst {x : ExceptT Fault (StateM σ) α} {r : Except Fault α} {s : σ}
    (h : (effect x s).1 = r) : effect x s = (r, (effect x s).2) := Prod.ext h rfl

@[simp] theorem effect_pure (a : α) (s : σ) :
    effect (pure a : ExceptT Fault (StateM σ) α) s = (.ok a, s) := rfl

@[simp] theorem effect_throw (e : Fault) (s : σ) :
    effect (throw e : ExceptT Fault (StateM σ) α) s = (.error e, s) := rfl

/-- The second of two actions starts where the first has left the state. -/
theorem effect_bind (x : ExceptT Fault (StateM σ) α) (f : α → ExceptT Fault (StateM σ) β) (s : σ) :
    effect (x >>= f) s =
      match effect x s with
      | (.ok a, s') => effect (f a) s'
      | (.error e, s') => (.error e, s') := by
  show (ExceptT.bindCont f (effect x s).1).run (effect x s).2 = _
  rcases effect x s with ⟨_ | a, s'⟩ <;> rfl

theorem effect_bind_ok {x : ExceptT Fault (StateM σ) α} {a : α} {s s' : σ}
    (h : effect x s = (.ok a, s')) (f : α → ExceptT Fault (StateM σ) β) :
    effect (x >>= f) s = effect (f a) s' := by
  rw [effect_bind, h]

/-- Two actions end well if both do, one from where the other has left the state. -/
theorem effect_bind_eq_ok {x : ExceptT Fault (StateM σ) α} {f : α → ExceptT Fault (StateM σ) β}
    {s s' : σ} {b : β} :
    effect (x >>= f) s = (.ok b, s') ↔
      ∃ a t, effect x s = (.ok a, t) ∧ effect (f a) t = (.ok b, s') := by
  rw [effect_bind]
  rcases effect x s with ⟨e | a, t⟩
  · simp
  · simp

theorem effect_bind_eq_error {x : ExceptT Fault (StateM σ) α} {f : α → ExceptT Fault (StateM σ) β}
    {s s' : σ} {e : Fault} :
    effect (x >>= f) s = (.error e, s') ↔
      effect x s = (.error e, s') ∨
        ∃ a t, effect x s = (.ok a, t) ∧ effect (f a) t = (.error e, s') := by
  rw [effect_bind]
  rcases effect x s with ⟨e' | a, t⟩
  · simp
  · simp

@[simp] theorem effect_get (s : σ) :
    effect (get : ExceptT Fault (StateM σ) σ) s = (.ok s, s) := rfl

@[simp] theorem effect_modify (f : σ → σ) (s : σ) :
    effect (modify f : ExceptT Fault (StateM σ) PUnit) s = (.ok ⟨⟩, f s) := rfl

@[simp] theorem effect_set (s s' : σ) :
    effect (set s' : ExceptT Fault (StateM σ) PUnit) s = (.ok ⟨⟩, s') := rfl

/-- What is done in a part of the state leaves the rest as it is. -/
theorem effect_inPart {τ : Type} (part : σ → τ) (put : σ → τ → σ) (x : ExceptT Fault (StateM τ) α)
    (s : σ) :
    effect (do
        let s ← get
        let (r, t) := x.run.run (part s)
        set (put s t)
        match r with
        | .ok a => return a
        | .error e => throw e : ExceptT Fault (StateM σ) α) s =
      ((effect x (part s)).1, put s (effect x (part s)).2) := by
  have hx : effect x (part s) = x.run.run (part s) := rfl
  rw [effect_bind, effect_get, hx]
  dsimp only
  rcases x.run.run (part s) with ⟨_ | a, t⟩ <;> rfl

/-- A handler starts where the action that failed has left the state. -/
theorem effect_tryCatch (x : ExceptT Fault (StateM σ) α) (f : Fault → ExceptT Fault (StateM σ) α)
    (s : σ) :
    effect (tryCatch x f) s =
      match effect x s with
      | (.ok a, s') => (.ok a, s')
      | (.error e, s') => effect (f e) s' := by
  unfold effect ExceptT.run StateT.run
  simp only [tryCatch, tryCatchThe, MonadExceptOf.tryCatch, ExceptT.tryCatch, ExceptT.mk, bind,
    StateT.bind]
  rcases x s with ⟨_ | a, s'⟩ <;> rfl

/-- An error that is named anew is an error still. -/
theorem mapError_eq_ok_iff {ε δ : Type} {x : Except ε α} {f : ε → δ} {a : α} :
    x.mapError f = .ok a ↔ x = .ok a := by
  cases x with
  | error e => simp [Except.mapError]
  | ok b => simp [Except.mapError]

end General

/-! ## Attempts -/

namespace Attempt

@[simp] theorem outcome_pure {α : Type} (a : α) : (pure a : Attempt α).outcome = .ok a := rfl

@[simp] theorem outcome_fail {α : Type} (f : Failure) :
    (fail f : Attempt α).outcome = .error (.failure f) := rfl

@[simp] theorem outcome_crash {α : Type} (c : Crash) :
    (crash c : Attempt α).outcome = .error (.crash c) := rfl

@[simp] theorem outcome_note (n : Note) : (note n).outcome = .ok () := rfl

@[simp] theorem outcome_orCrash {α : Type} (x : Except Crash α) :
    (orCrash x).outcome = x.mapError .crash := by
  cases x <;> rfl

/-- The second of two attempts is made if the first ends well. -/
@[simp] theorem outcome_bind {α β : Type} (x : Attempt α) (f : α → Attempt β) :
    (x >>= f).outcome = x.outcome.bind fun a => (f a).outcome := by
  show (ExceptT.bindCont f x.run.value).value = x.run.value.bind fun a => (f a).outcome
  cases x.run.value <;> rfl

/-- Both of two attempts end well if the second one does. -/
theorem outcome_bind_eq_ok {α β : Type} {x : Attempt α} {f : α → Attempt β} {b : β} :
    (x >>= f).outcome = .ok b ↔ ∃ a, x.outcome = .ok a ∧ (f a).outcome = .ok b := by
  rw [outcome_bind]
  cases x.outcome with
  | error e => simp [Except.bind]
  | ok a => simp [Except.bind]

end Attempt

/-! ## Actions on the host -/

namespace HostAction

@[simp] theorem effect_fail {α : Type} (f : Failure) (h : Host) :
    effect (fail f : HostAction α) h = (.error (.failure f), h) := rfl

@[simp] theorem effect_crash {α : Type} (c : Crash) (h : Host) :
    effect (crash c : HostAction α) h = (.error (.crash c), h) := rfl

@[simp] theorem effect_note (n : Note) (h : Host) :
    effect (note n) h = (.ok (), h.withNote n) := rfl

@[simp] theorem effect_runTask (argv : List Text) (h : Host) :
    effect (runTask argv) h = (.ok (h.runTask argv).1, (h.runTask argv).2) := rfl

@[simp] theorem effect_attempt {α : Type} (x : Attempt α) (h : Host) :
    effect (attempt x) h = (x.outcome, h.withNotes x.notes) := by
  rw [attempt, effect_bind, effect_modify]
  cases x.outcome <;> rfl

end HostAction

/-! ## Actions on a world -/

namespace Action

@[simp] theorem effect_fail {α : Type} (f : Failure) (w : World) :
    effect (fail f : Action α) w = (.error (.failure f), w) := rfl

@[simp] theorem effect_crash {α : Type} (c : Crash) (w : World) :
    effect (crash c : Action α) w = (.error (.crash c), w) := rfl

@[simp] theorem effect_session (w : World) : effect session w = (.ok w.session, w) := rfl

@[simp] theorem effect_change (f : Session → Session) (w : World) :
    effect (change f) w = (.ok (), { w with session := f w.session }) := rfl

@[simp] theorem effect_note (n : Note) (w : World) :
    effect (note n) w = (.ok (), { w with host := w.host.withNote n }) := rfl

@[simp] theorem effect_orCrash {α : Type} (x : Except Crash α) (w : World) :
    effect (orCrash x) w = (x.mapError .crash, w) := by
  cases x <;> rfl

/-- What is done on the host leaves the session as it is. -/
@[simp] theorem effect_onHost {α : Type} (x : HostAction α) (w : World) :
    effect (onHost x) w = ((effect x w.host).1, { w with host := (effect x w.host).2 }) :=
  effect_inPart World.host (fun w h => { w with host := h }) x w

@[simp] theorem effect_attempt {α : Type} (x : Attempt α) (w : World) :
    effect (attempt x) w = (x.outcome, { w with host := w.host.withNotes x.notes }) := by
  rw [attempt, effect_onHost, HostAction.effect_attempt]

/-- A failure is handed on, and a crash ends the action with its handler. -/
theorem effect_rescue {α : Type} (x : Action α) (f : Failure → Action α) (w : World) :
    effect (rescue x f) w =
      match effect x w with
      | (.error (.failure e), w') => effect (f e) w'
      | r => r := by
  rw [rescue, effect_tryCatch]
  rcases effect x w with ⟨(_ | _) | _, w'⟩ <;> rfl

end Action

namespace Session

@[simp] theorem effect_notify (message : Text) (isError : Bool) (w : World) :
    effect (notify message isError) w =
      (.ok message,
        ⟨{ w.session with message := some message, messageIsError := isError },
          w.host.withNote
            ⟨if isError then .error else .info, .session, message, .nothing⟩⟩) := rfl

/-- The client that a session asks. -/
def asked (s : Session) : Client := ⟨s.config.taskProgram⟩

@[simp] theorem effect_ask {α : Type} (f : Client → HostAction α) (w : World) :
    effect (ask f) w =
      ((effect (f w.session.asked) w.host).1,
        { w with host := (effect (f w.session.asked) w.host).2 }) := by
  rw [ask, client, bind_assoc]
  simp only [effect_bind, Action.effect_session, effect_pure, Action.effect_onHost]
  rfl

/-- What follows a question starts from the session as it was and the host after the answer. -/
theorem effect_ask_bind {α β : Type} (f : Client → HostAction α) (g : α → Action β) (w : World) :
    effect (ask f >>= g) w =
      match effect (f w.session.asked) w.host with
      | (.ok a, h) => effect (g a) { w with host := h }
      | (.error e, h) => (.error e, { w with host := h }) := by
  rw [effect_bind, effect_ask]
  rcases effect (f w.session.asked) w.host with ⟨_ | a, h⟩ <;> rfl

end Session

end TaskBrowser
