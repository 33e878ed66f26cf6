import TaskBrowser.Proofs.Session.Asking
import TaskBrowser.Proofs.Session.Filtering
import TaskBrowser.Proofs.Session.Refreshing

/-!
# What settles the list

Operations that load, sort or refresh tasks end by settling the session: the tasks are put in order
and the selection is restored.  After that they only leave a message.  So what such an operation
leaves when it returns is read off the session that it settles (`Action.Settles`).

A load or a sort settles a session with the selection of before, and restores the task that was
selected before (`Session.Continues`).  A refresh restores what is selected once the task is
replaced (`Session.Replaces`).
-/

namespace TaskBrowser

open TaskBrowser.Action

namespace Session

/-- The list, the selection and the settings are those of a session that was settled. -/
structure SettlesTo (s : Session) (current : Option Record) (u : Session) : Prop where
  sorted : sortRecords s.config.sortMode s.store = .ok u.store
  selected : u.selected = (restore { s with store := u.store } current).selected
  config : u.config = s.config

theorem SettlesTo.of_settled {s t : Session} {current : Option Record}
    (h : s.settled current = .ok t) : s.SettlesTo current t := by
  rw [settled] at h
  cases hsorted : sortRecords s.config.sortMode s.store with
  | error c =>
      rw [hsorted] at h
      cases h
  | ok sorted =>
      rw [hsorted] at h
      have ht : restore { s with store := sorted } current = t := Except.ok.inj h
      obtain ⟨n, hn⟩ := restore_eq { s with store := sorted } current
      have hstore : t.store = sorted := by rw [← ht, hn]
      have hconfig : t.config = s.config := by rw [← ht, hn]
      exact ⟨hstore ▸ hsorted, by rw [hstore, ht], hconfig⟩

/-- What is settled has the selection of before, and the task that was selected before is the one
to restore. -/
structure Continues (before s : Session) (current : Option Record) : Prop where
  selected : s.selected = before.selected
  followTask : s.config.followTask = before.config.followTask
  current : current = before.selectedRecord

/-- What is settled has one task replaced by what was found of it, or without it, and the task that
is selected then is the one to restore. -/
structure Replaces [Interpreter] (uuid : Text) (w : World) (s : Session)
    (current : Option Record) : Prop where
  current : current = s.selectedRecord
  replaced : ∃ kept found, ExportsFirst w.host.pending (.ok found) ∧
    (∀ r, kept = some r → found = some r) ∧
    s = { w.session with store := w.session.store.replace uuid kept }

end Session

/-! ## What an action leaves if it returns -/

/-- The list, the selection and the settings are the same. -/
structure Session.SameList (s t : Session) : Prop where
  store : t.store = s.store
  selected : t.selected = s.selected
  config : t.config = s.config

theorem Session.SameList.trans {s t u : Session} (h : s.SameList t) (h' : t.SameList u) :
    s.SameList u :=
  ⟨h'.store.trans h.store, h'.selected.trans h.selected, h'.config.trans h.config⟩

namespace Action

variable {α β : Type}

/-- The action changes nothing of a session but its message. -/
def Tells (x : Action α) : Prop :=
  ∀ w a w', effect x w = (.ok a, w') → w.session.SameList w'.session

namespace Tells

theorem pure (a : α) : Tells (Pure.pure a : Action α) := by
  intro w b w' h
  cases h
  exact ⟨rfl, rfl, rfl⟩

theorem notify (message : Text) (isError : Bool) : Tells (Session.notify message isError) := by
  intro w b w' h
  cases h
  exact ⟨rfl, rfl, rfl⟩

theorem session : Tells Action.session := by
  intro w b w' h
  cases h
  exact ⟨rfl, rfl, rfl⟩

theorem bind {x : Action α} {f : α → Action β} (hx : Tells x) (hf : ∀ a, Tells (f a)) :
    Tells (x >>= f) := by
  intro w b w'' h
  obtain ⟨a, w', hend, hend'⟩ := effect_bind_eq_ok.1 h
  exact (hx w a w' hend).trans (hf a w' b w'' hend')

end Tells

/-- If the action returns, the session that it leaves has the property. -/
def Yields (P : Session → Prop) (x : Action α) (w : World) : Prop :=
  ∀ a w', effect x w = (.ok a, w') → P w'.session

namespace Yields

variable {P Q : Session → Prop} {x : Action α} {w : World}

theorem mono (h : Yields P x w) (hsub : ∀ s, P s → Q s) : Yields Q x w :=
  fun a w' hend => hsub _ (h a w' hend)

/-- Something may come first. -/
theorem after {f : α → Action β} (h : ∀ a w', effect x w = (.ok a, w') → Yields P (f a) w') :
    Yields P (x >>= f) w := by
  intro b w'' hend
  obtain ⟨a, w', hx, hf⟩ := effect_bind_eq_ok.1 hend
  exact h a w' hx b w'' hf

/-- What is asked first leaves the session as it is. -/
theorem afterAsk {f : Client → HostAction α} {g : α → Action β}
    (h : ∀ a host, Yields P (g a) ⟨w.session, host⟩) : Yields P (Session.ask f >>= g) w := by
  refine .after ?_
  intro a w' hend
  rw [Session.effect_ask] at hend
  obtain ⟨-, rfl⟩ := Prod.mk.inj hend
  exact h a _

/-- What the action returns may be dropped. -/
theorem discard (h : Yields P x w) : Yields P (do let _ ← x) w := by
  intro _ w' hend
  obtain ⟨a, w₁, hx, hpure⟩ := effect_bind_eq_ok.1 hend
  cases hpure
  exact h a w' hx

/-- A message may come last, if the property does not see it. -/
theorem andTells {f : α → Action β} (hx : Yields P x w) (hf : ∀ a, Tells (f a))
    (hP : ∀ s t, s.SameList t → P s → P t) : Yields P (x >>= f) w := by
  intro b w'' hend
  obtain ⟨a, w', hend, hend'⟩ := effect_bind_eq_ok.1 hend
  exact hP _ _ (hf a w' b w'' hend') (hx a w' hend)

end Yields

/-- An action that returns leaves a session that was settled from one as it should be. -/
abbrev Settles (start : Session → Option Record → Prop) (x : Action α) (w : World) : Prop :=
  Yields (fun u => ∃ s current, start s current ∧ s.SettlesTo current u) x w

theorem Settles.andTells {start : Session → Option Record → Prop} {x : Action α} {w : World}
    {f : α → Action β} (hx : Settles start x w) (hf : ∀ a, Tells (f a)) :
    Settles start (x >>= f) w := by
  refine Yields.andTells hx hf ?_
  rintro u u' hsame ⟨s, current, hstart, hsettles⟩
  refine ⟨s, current, hstart, ?_, ?_, hsame.config.trans hsettles.config⟩
  · rw [hsame.store]
    exact hsettles.sorted
  · rw [hsame.selected, hsame.store]
    exact hsettles.selected

end Action

namespace Session

/-! ## Loading and sorting -/

theorem sort_settles (mode : Option Text) (w : World) :
    Settles (Continues w.session) (sort mode) w := by
  have hmode : Continues w.session (w.session.withMode mode) w.session.selectedRecord := by
    rcases mode with _ | _ | ⟨c, t⟩ <;> exact ⟨rfl, rfl, rfl⟩
  intro _ w' h
  rw [effect_sort] at h
  split at h
  next t ht =>
    cases h
    exact ⟨_, _, hmode, .of_settled ht⟩
  next => cases h

variable [Interpreter]

theorem reload_settles (w : World) : Settles (Continues w.session) reload w := by
  intro _ w' h
  rw [effect_reload] at h
  split at h
  next rs host _ =>
    split at h
    next t ht =>
      cases h
      exact ⟨{ w.session with store := rs }, _, ⟨rfl, rfl, rfl⟩, .of_settled ht⟩
    next => cases h
  next => cases h

theorem setFilter_settles (filter : Text) (w : World) :
    Settles (Continues w.session) (setFilter filter) w := by
  have hfilter {s : Session} {current : Option Record}
      (h : Continues (w.session.withFilter (Text.trim filter)) s current) :
      Continues w.session s current :=
    ⟨h.selected, h.followTask, h.current⟩
  intro u w' h
  rw [effect_setFilter] at h
  have hreload : Settles (Continues w.session) reload
      { w with session := w.session.withFilter (Text.trim filter) } :=
    (reload_settles _).mono fun _ ⟨s, current, h, hsettles⟩ => ⟨s, current, hfilter h, hsettles⟩
  exact hreload.andTells
    (fun _ => .bind .session fun _ => .bind (.notify _ _) fun _ => .pure _) u w' h

theorem loadAfter_settles {α : Type} (f : Client → HostAction α) (message : Text) (w : World) :
    Settles (Continues w.session) (do let _ ← ask f; reload; notify message false) w :=
  .afterAsk fun _ host => (reload_settles ⟨w.session, host⟩).andTells fun _ => .notify _ _

/-- A load after something is done with the selected task. -/
theorem loadAfterSelected_settles {α : Type} (f : Record → Client → HostAction α)
    (message : Record → Text) (w : World) :
    Settles (Continues w.session)
      (do let r ← requireSelected; let _ ← ask (f r); reload; notify (message r) false) w := by
  intro a w' h
  rw [effect_requireSelected_bind] at h
  cases hr : w.session.selectedRecord with
  | none =>
      rw [hr] at h
      cases h
  | some r =>
      rw [hr] at h
      exact loadAfter_settles (f r) (message r) w a w' h

/-! ## Refreshing -/

theorem reloadRecord_settles (uuid : Text) (w : World) :
    Settles (Replaces uuid w) (reloadRecord uuid) w := by
  intro _ w' h
  have hends := reread_ends w.session uuid w.host
  rw [effect_reloadRecord] at h
  split at h
  next kept host hread =>
    rw [hread] at hends
    obtain ⟨-, found, hfirst, hkept⟩ := hends
    dsimp only at h
    split at h
    next t ht =>
      cases h
      have hfound (r : Record) (hr : kept = some r) : found = some r := ((hkept r).1 hr).1
      exact ⟨_, _, ⟨rfl, kept, found, hfirst, hfound, rfl⟩, .of_settled ht⟩
    next => cases h
  next => cases h

end Session

end TaskBrowser
