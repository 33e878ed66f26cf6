import TaskBrowser.Proofs.Session.Loading
import TaskBrowser.Proofs.Session.Setting
import TaskBrowser.Session.Startup

/-!
# How a session changes

Whatever is done with a session changes it in small steps of few kinds, which are the constructors
of `Session.Change`.  An action that returns or fails leaves the session after some such steps
(`Action.Proceeds`).  An action that crashes may leave one of them half done (`Session.Cut`):
loaded but not in order, or with a new format but an old template.

What every step preserves, every operation preserves.  So an invariant of sessions is proved by one
case for each kind of step, whatever the operations are that take it.
-/

namespace TaskBrowser

variable [Interpreter] [Validator]

namespace Session

/-! ## Steps -/

/-- One step of a session.  Only some of the variables may give a setting another value. -/
inductive Change (may : Entry → Prop) : Session → Session → Prop where
  | notified (message : Text) (isError : Bool) :
      Change may s { s with message := some message, messageIsError := isError }
  | versioned (version : Text) : Change may s { s with taskVersion := version }
  | moved (position : Int) : Change may s (s.select position)
  | movedTo (uuid : Text) : Change may s (s.selectUuid uuid)
  | found {n : Nat} (h : n < s.store.length) : Change may s { s with selected := n }
  | searching (text : Option Text) : Change may s { s with search := text }
  | filtered (filter : Text) :
      Change may s { s with config := { s.config with filter := filter } }
  | loaded {rs : List Record} (hfresh : ∀ r ∈ rs, r.IsFresh)
      (h : ({ s with store := rs }).settled s.selectedRecord = .ok t) : Change may s t
  | sorted (mode : Option Text) (h : (s.withMode mode).settled s.selectedRecord = .ok t) :
      Change may s t
  | refreshed {kept : Option Record} (uuid : Text) (hfresh : ∀ r, kept = some r → r.IsFresh)
      (hu : u = { s with store := s.store.replace uuid kept })
      (h : u.settled u.selectedRecord = .ok t) : Change may s t
  | assigned {e : Entry} {x : Setting} {v : Json} {c : Config} (he : e ∈ variableEntries)
      (hsource : e.source = .setting x) (hmay : may e) (hplain : isFormat x = false)
      (h : s.config.set x v = .ok c) : Change may s { s with config := c }
  | reformatted {e : Entry} {x : Setting} {v : Json} {c : Config}
      {ts : Template × Template × Template} (he : e ∈ variableEntries)
      (hsource : e.source = .setting x) (hmay : may e) (hformat : isFormat x = true)
      (h : s.config.set x v = .ok c) (hts : c.templates = .ok ts) :
      Change may s (({ s with config := c }).withTemplates ts)
  | levelled (level : Text) :
      Change may s { s with config := { s.config with logLevel := level } }
  | ruled {object : ColorObject} {predicate : Option Text} {c : ColorPair} {n : Nat} {b : Board}
      (h : s.board.addRule object predicate c = .ok (n, b)) : Change may s (s.withBoard b)
  | unruled (object : ColorObject) (predicate : Option Text) :
      Change may s (s.withBoard (s.board.removeRule object predicate).2)
  | colored {position pair : Nat} {r r' : Record} {selected : Bool}
      (h : s.store[position]? = some r)
      (hpair : (s.scheme.taskPair r selected).outcome = .ok (pair, r')) :
      Change may s { s with store := s.store.set position r' }

/-- A step that a crash leaves half done. -/
inductive Cut : Session → Session → Prop where
  | loaded {rs : List Record} (hfresh : ∀ r ∈ rs, r.IsFresh) : Cut s { s with store := rs }
  | sorted (mode : Option Text) : Cut s (s.withMode mode)
  | refreshed {kept : Option Record} (uuid : Text) (hfresh : ∀ r, kept = some r → r.IsFresh) :
      Cut s { s with store := s.store.replace uuid kept }
  | reformatted {x : Setting} {v : Json} {c : Config} (hformat : isFormat x = true)
      (h : s.config.set x v = .ok c) (ts : Template × Template × Template) :
      Cut s (({ s with config := c }).withTemplates ts)

/-- Any number of steps. -/
def Reaches (may : Entry → Prop) : Session → Session → Prop := Relation.ReflTransGen (Change may)

/-- What every step preserves, any number of steps preserves. -/
theorem Reaches.preserves {may : Entry → Prop} {P : Session → Prop} {s t : Session}
    (h : Reaches may s t) (change : ∀ s t, Change may s t → P s → P t) (hs : P s) : P t := by
  induction h with
  | refl => exact hs
  | tail _ hstep ih => exact change _ _ hstep ih

/-- The session an action leaves, by how it ends: after some steps, and after a crash perhaps in
the middle of one more. -/
def Leaves {α : Type} (may : Entry → Prop) (s : Session) : Except Fault α → Session → Prop
  | .error (.crash _), t => ∃ u, Reaches may s u ∧ (u = t ∨ Cut u t)
  | .error (.failure _), t => Reaches may s t
  | .ok _, t => Reaches may s t

namespace Leaves

variable {α : Type} {may : Entry → Prop} {s t u : Session} {r : Except Fault α}

/-- Any end after some steps. -/
theorem of_reaches (h : Reaches may s t) : Leaves may s r t := by
  rcases r with (f | c) | a
  · exact h
  · exact ⟨t, h, .inl rfl⟩
  · exact h

theorem cut {c : Crash} (h : Cut s t) : Leaves may s (.error (.crash c) : Except Fault α) t :=
  ⟨s, .refl, .inr h⟩

/-- What every step preserves, and every step that is left half done if the action crashed. -/
theorem preserves {P : Session → Prop} (h : Leaves may s r t)
    (change : ∀ s t, Change may s t → P s → P t)
    (cut : (∃ c, r = .error (.crash c)) → ∀ s t, Cut s t → P s → P t) (hs : P s) : P t := by
  rcases r with (f | c) | a
  · exact Reaches.preserves h change hs
  · -- the crash came between two steps, or in the middle of one more
    obtain ⟨u, hu, rfl | hcut⟩ := h
    · exact hu.preserves change hs
    · exact cut ⟨c, rfl⟩ u t hcut (hu.preserves change hs)
  · exact Reaches.preserves h change hs

/-- More steps may come first. -/
theorem after (h : Reaches may s t) (hr : Leaves may t r u) : Leaves may s r u := by
  rcases r with (f | c) | a
  · exact Relation.ReflTransGen.trans h hr
  · obtain ⟨v, hv, hcut⟩ := hr
    exact ⟨v, Relation.ReflTransGen.trans h hv, hcut⟩
  · exact Relation.ReflTransGen.trans h hr

/-- A fault that is handed on leaves what it left. -/
theorem handed {β : Type} {e : Fault} (h : Leaves may s (.error e : Except Fault α) t) :
    Leaves may s (.error e : Except Fault β) t := by
  cases e with
  | failure f => exact h
  | crash c => exact h

end Leaves

end Session

/-! ## Actions that take steps -/

namespace Action

open Session

/-- The action leaves the session after some steps, and a crash perhaps in the middle of one. -/
def Proceeds {α : Type} (may : Entry → Prop) (x : Action α) (w : World) : Prop :=
  Leaves may w.session (effect x w).1 (effect x w).2.session

namespace Proceeds

variable {α β : Type} {may : Entry → Prop} {x : Action α} {w : World}

/-- An action that does not touch the session. -/
theorem keep (h : (effect x w).2.session = w.session) : Proceeds may x w := by
  rw [Proceeds, h]
  exact .of_reaches .refl

theorem pure (a : α) : Proceeds may (Pure.pure a : Action α) w := keep rfl

theorem fail (f : Failure) : Proceeds may (Action.fail f : Action α) w := keep rfl

theorem crash (c : Crash) : Proceeds may (Action.crash c : Action α) w := keep rfl

theorem note (n : Note) : Proceeds may (Action.note n) w := keep rfl

theorem orCrash (x : Except Crash α) : Proceeds may (Action.orCrash x) w := by
  refine keep ?_
  rw [effect_orCrash]

theorem onHost (x : HostAction α) : Proceeds may (Action.onHost x) w := by
  refine keep ?_
  rw [effect_onHost]

theorem ask (f : Client → HostAction α) : Proceeds may (Session.ask f) w := by
  refine keep ?_
  rw [effect_ask]

theorem change {f : Session → Session} (h : Change may w.session (f w.session)) :
    Proceeds may (Action.change f) w :=
  Leaves.of_reaches (.single h)

/-- The second of two actions proceeds from where the first has left the session. -/
theorem bind {f : α → Action β} (hx : Proceeds may x w)
    (hf : ∀ a w', effect x w = (.ok a, w') → Proceeds may (f a) w') :
    Proceeds may (x >>= f) w := by
  rw [Proceeds] at hx ⊢
  rw [effect_bind]
  rcases heffect : effect x w with ⟨e | a, w'⟩
  · rw [heffect] at hx
    exact hx.handed
  · rw [heffect] at hx
    exact .after hx (hf a w' heffect)

/-- An action that goes by the session. -/
theorem withSession {f : Session → Action β} (h : Proceeds may (f w.session) w) :
    Proceeds may (Action.session >>= f) w := by
  rw [Proceeds, effect_bind, effect_session]
  exact h

/-- An action that goes by the world. -/
theorem withWorld {f : World → Action β} (h : Proceeds may (f w) w) :
    Proceeds may (get >>= f) w := by
  rw [Proceeds, effect_bind, effect_get]
  exact h

/-- A handler proceeds from where the action that failed has left the session. -/
theorem rescue {f : Failure → Action α} (hx : Proceeds may x w)
    (hf : ∀ e w', effect x w = (.error (.failure e), w') → Proceeds may (f e) w') :
    Proceeds may (Action.rescue x f) w := by
  rw [Proceeds] at hx ⊢
  rw [effect_rescue]
  rcases heffect : effect x w with ⟨(e | c) | a, w'⟩
  · rw [heffect] at hx
    exact .after hx (hf e w' heffect)
  · rw [heffect] at hx
    exact hx
  · rw [heffect] at hx
    exact hx

theorem notify (message : Text) (isError : Bool) :
    Proceeds may (Session.notify message isError) w :=
  Leaves.of_reaches (.single (.notified message isError))

end Proceeds

end Action

namespace Session

open TaskBrowser.Action

variable {may : Entry → Prop}

/-! ## Loading and sorting -/

theorem reload_proceeds (w : World) : Proceeds may reload w := by
  rw [Proceeds, effect_reload]
  rcases hload : effect (w.session.asked.exportAll (some w.session.config.filter)) w.host with
    ⟨e | rs, h⟩
  · exact .of_reaches .refl
  · have hfresh := Client.exportAll_fresh hload
    dsimp only
    cases hsettled : ({ w.session with store := rs }).settled w.session.selectedRecord with
    | error c => exact .cut (.loaded hfresh)
    | ok s => exact .of_reaches (.single (.loaded hfresh hsettled))

theorem sort_proceeds (mode : Option Text) (w : World) : Proceeds may (sort mode) w := by
  rw [Proceeds, effect_sort]
  cases hsettled : (w.session.withMode mode).settled w.session.selectedRecord with
  | error c => exact .cut (.sorted mode)
  | ok s => exact .of_reaches (.single (.sorted mode hsettled))

theorem reloadRecord_proceeds (uuid : Text) (w : World) :
    Proceeds may (reloadRecord uuid) w := by
  rw [Proceeds, effect_reloadRecord]
  rcases hread : effect (reread w.session.asked w.session.config.filter uuid) w.host with
    ⟨e | kept, h⟩
  · exact .of_reaches .refl
  · have hfresh : ∀ r, kept = some r → r.IsFresh := by
      rintro r rfl
      exact reread_fresh hread
    dsimp only
    cases hsettled : ({ w.session with
        store := w.session.store.replace uuid kept }).settled
        ({ w.session with store := w.session.store.replace uuid kept }).selectedRecord with
    | error c => exact .cut (.refreshed uuid hfresh)
    | ok s => exact .of_reaches (.single (.refreshed uuid hfresh rfl hsettled))

end Session

end TaskBrowser
