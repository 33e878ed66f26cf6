import TaskBrowser.Files.Tree
import TaskBrowser.Platform
import TaskBrowser.Proofs.Session.Settling

/-!
# The selection follows its task

When tasks are loaded or sorted the selection stays with its task, if it is to follow and the task
is still there; otherwise it stays at its position, as far as the list reaches
(`Session.selection_follows`).

When another task is refreshed the selection stays with its task too, but not if the refresh drops
a task above it.  What is to be followed is looked up after the drop, when the position of the
selection is already that of the task below; that task is selected then
(`Session.reloadRecord_selection`).
-/

namespace TaskBrowser

/-! ## Replacing at a position -/

/-- Dropping a task moves those below it up by one, and replacing it moves none. -/
theorem Store.getElem?_replace {uuid : Text} {kept : Option Record} {s : Store} :
    ∀ {n : Nat}, (∀ r, s[n]? = some r → r.uuid ≠ uuid) →
      (s.replace uuid kept)[n]? =
        if kept = none ∧ uuid ∈ (s.take n).map Record.uuid then s[n + 1]? else s[n]? := by
  induction s with
  | nil => intro n _; simp [replace]
  | cons a rest ih =>
      intro n hn
      by_cases ha : a.uuid = uuid
      · rw [replace_cons_self ha]
        cases n with
        | zero => exact absurd ha (hn a rfl)
        | succ n =>
            cases kept with
            | none => simp [ha]
            | some b => simp
      · rw [replace_cons_other ha]
        cases n with
        | zero => simp
        | succ n =>
            have hrest : ∀ r, rest[n]? = some r → r.uuid ≠ uuid := hn
            have hmem : uuid ∈ ((a :: rest).take (n + 1)).map Record.uuid ↔
                uuid ∈ (rest.take n).map Record.uuid := by
              rw [List.take_succ_cons, List.map_cons, List.mem_cons]
              exact or_iff_right (Ne.symm ha)
            simp only [hmem, List.getElem?_cons_succ, ih hrest]

namespace Session

open TaskBrowser.Action

variable {s t u : Session} {current : Option Record}

/-! ## Restoring the selection -/

/-- The identifier of the task that is to be restored, if the selection is to follow it. -/
def followed (s : Session) (current : Option Record) : Option Text :=
  if s.config.followTask then current.map Record.uuid else none

theorem clamp_natCast (count n : Nat) : clamp count n = min n (count - 1) := by
  rw [clamp]
  omega

theorem restore_eq_followed (s : Session) (current : Option Record) :
    s.restore current =
      match s.followed current with
      | some uuid => (s.selectUuid uuid).select (s.selectUuid uuid).selected
      | none => s.select s.selected := by
  rw [restore.eq_def, followed]
  cases s.config.followTask <;> cases current <;> rfl

/-- A task that is followed is restored to its new position. -/
theorem restore_found {uuid : Text} (hfollowed : s.followed current = some uuid)
    (hmem : uuid ∈ s.store.map Record.uuid) :
    s.store[(s.restore current).selected]?.map Record.uuid = some uuid := by
  obtain ⟨r, hr, huuid⟩ := List.mem_map.1 hmem
  cases hposition : s.store.position? uuid with
  | none =>
      have hne := List.findIdx?_eq_none_iff.1 hposition r hr
      simp [huuid] at hne
  | some n =>
      obtain ⟨hn, hfound, -⟩ := List.findIdx?_eq_some_iff_getElem.1 hposition
      have hselected : (s.restore current).selected = n := by
        simp only [restore_eq_followed, hfollowed, selectUuid, hposition, select, clamp_natCast]
        omega
      rw [hselected, List.getElem?_eq_getElem hn]
      simpa using hfound

/-- If none is followed, or one that is gone, the position stays as far as the list reaches. -/
theorem restore_clamped
    (hgone : ∀ uuid, s.followed current = some uuid → uuid ∉ s.store.map Record.uuid) :
    (s.restore current).selected = min s.selected (s.store.length - 1) := by
  rw [restore_eq_followed]
  cases hfollowed : s.followed current with
  | none => exact clamp_natCast _ _
  | some uuid =>
      have hposition : s.store.position? uuid = none := by
        refine List.findIdx?_eq_none_iff.2 fun r hr => ?_
        have hne : r.uuid ≠ uuid := by
          rintro rfl
          exact hgone _ hfollowed (List.mem_map_of_mem hr)
        simpa using hne
      simp only [selectUuid, hposition]
      exact clamp_natCast _ _

theorem SettlesTo.found (h : s.SettlesTo current u) {uuid : Text}
    (hfollowed : s.followed current = some uuid) (hmem : uuid ∈ u.store.map Record.uuid) :
    u.selectedRecord.map Record.uuid = some uuid := by
  have hfound := restore_found (s := { s with store := u.store }) hfollowed hmem
  rw [selectedRecord, h.selected]
  exact hfound

theorem SettlesTo.clamped (h : s.SettlesTo current u)
    (hgone : ∀ uuid, s.followed current = some uuid → uuid ∉ u.store.map Record.uuid) :
    u.selected = min s.selected (u.store.length - 1) :=
  h.selected.trans (restore_clamped (s := { s with store := u.store }) hgone)

/-! ## Loading and sorting -/

/-- The operation loads or sorts the list, and what it does before leaves the selection alone. -/
def Operation.Rearranges : Operation → Prop
  | .reload | .sort _ | .setFilter _ | .undo | .sync | .add _ | .complete | .delete => True
  | _ => False

theorem Operation.settles [Interpreter] [Validator] {o : Operation} (ho : o.Rearranges)
    (w : World) :
    Settles (Continues w.session) o.action w := by
  cases o with
  | reload => exact reload_settles w
  | sort mode => exact sort_settles mode w
  | setFilter filter => exact setFilter_settles filter w
  | complete => exact .discard (loadAfterSelected_settles _ _ w)
  | delete => exact .discard (loadAfterSelected_settles _ _ w)
  | add line => exact .discard (loadAfter_settles _ _ w)
  | undo => exact .discard (loadAfter_settles _ _ w)
  | sync => exact .discard (loadAfter_settles _ _ w)
  | _ => exact ho.elim

/-- An operation that loads or sorts tasks and returns leaves the task selected that was selected
before, if the selection follows it and it is still there, whatever the tasks and their order are
now.  Otherwise the selection is at its position of before, or at the last task if the list is
shorter now. -/
theorem selection_follows [Interpreter] [Validator] {o : Operation} (ho : o.Rearranges)
    {w w' : World}
    (h : effect o.action w = (.ok (), w')) :
    (∀ uuid, w.session.followed w.session.selectedRecord = some uuid →
        uuid ∈ w'.session.store.map Record.uuid →
        w'.session.selectedRecord.map Record.uuid = some uuid) ∧
      ((∀ uuid, w.session.followed w.session.selectedRecord = some uuid →
          uuid ∉ w'.session.store.map Record.uuid) →
        w'.session.selected = min w.session.selected (w'.session.store.length - 1)) := by
  obtain ⟨s, current, hstart, hsettles⟩ := o.settles ho w () w' h
  have hfollowed : s.followed current = w.session.followed w.session.selectedRecord := by
    rw [followed, followed, hstart.followTask, hstart.current]
  rw [← hfollowed, ← hstart.selected]
  exact ⟨fun _ => hsettles.found, hsettles.clamped⟩

/-- Three tasks in order, of which one is selected, and no export of any task to come. -/
def threeTasks (selected : Nat) : World where
  session := { bare { commandFile := .ofText "rc", sortMode := "u", filter := "" } with
    store := [⟨"a", "x", 0, none, [], none, 0, 0, none, none⟩,
      ⟨"b", "y", 0, none, [], none, 0, 0, none, none⟩,
      ⟨"c", "z", 0, none, [], none, 0, 0, none, none⟩]
    selected }
  host := {
    files := fun _ _ => FileTree.system []
    now := .universal 2024 6 1 9 30
    answers := [.ended "[]" "" 0] }

/-- The tasks in falling order, after the first was selected. -/
def threeTasksFalling : World := (effect (Operation.sort (some "U")).action (threeTasks 0)).2

/-- The selection goes to the end of the list with its task. -/
theorem selection_follows_falling :
    effect (Operation.sort (some "U")).action (threeTasks 0) = (.ok (), threeTasksFalling) ∧
      threeTasksFalling.session.store.map Record.uuid = ["c", "b", "a"] ∧
      threeTasksFalling.session.selectedRecord.map Record.uuid = some "a" := by
  have hend : effect (Operation.sort (some "U")).action (threeTasks 0) =
      (.ok (), threeTasksFalling) := effect_eq_of_fst (by decide +kernel)
  have hrearranges : (Operation.sort (some "U")).Rearranges := trivial
  have hstore : threeTasksFalling.session.store.map Record.uuid = ["c", "b", "a"] := by
    decide +kernel
  refine ⟨hend, hstore, (selection_follows hrearranges hend).1 "a" rfl ?_⟩
  rw [hstore]
  decide

/-! ## Refreshing -/

/-- A task that was above the selection is gone. -/
def DropsAbove (uuid : Text) (before after : Session) : Prop :=
  uuid ∈ (before.store.take before.selected).map Record.uuid ∧
    uuid ∉ after.store.map Record.uuid

variable {uuid : Text} {kept : Option Record} {r : Record}

theorem dropsAbove_iff (hdistinct : (s.store.map Record.uuid).Nodup)
    (huuid : ∀ b, kept = some b → b.uuid = uuid)
    (hstore : u.store.Perm (s.store.replace uuid kept)) :
    DropsAbove uuid s u ↔ kept = none ∧ uuid ∈ (s.store.take s.selected).map Record.uuid := by
  rw [DropsAbove, (hstore.map Record.uuid).mem_iff]
  cases kept with
  | none => simp [Store.uuids_replace_none, hdistinct.mem_erase_iff]
  | some b =>
      rw [Store.uuids_replace_some (huuid b rfl)]
      constructor
      · rintro ⟨hmem, hgone⟩
        exact absurd (List.map_subset _ (List.take_subset _ _) hmem) hgone
      · rintro ⟨hnone, -⟩
        cases hnone

/-- Another task than the one that is replaced is still there. -/
theorem mem_of_replaced (huuid : ∀ b, kept = some b → b.uuid = uuid)
    (hstore : u.store.Perm (s.store.replace uuid kept)) (hr : r ∈ s.store)
    (hother : r.uuid ≠ uuid) :
    r ∈ u.store := by
  have hothers : r ∈ s.store.filter (·.uuid ≠ uuid) := by simp [hr, hother]
  rw [← Store.replace_others huuid] at hothers
  exact hstore.mem_iff.2 (List.mem_of_mem_filter hothers)

/-- Two tasks next to each other have different identifiers. -/
theorem below_uuid_ne {below : Record} (hdistinct : (s.store.map Record.uuid).Nodup)
    (hr : s.selectedRecord = some r) (hbelow : s.store[s.selected + 1]? = some below) :
    below.uuid ≠ r.uuid := by
  obtain ⟨hlt, hbelow⟩ := List.getElem?_eq_some_iff.1 hbelow
  obtain ⟨hlt', hr⟩ := List.getElem?_eq_some_iff.1 hr
  intro heq
  have hindex := List.inj_on_of_nodup_map hdistinct (List.getElem_mem hlt) (List.getElem_mem hlt')
    (by rw [hbelow, hr, heq])
  have := (List.Nodup.getElem_inj_iff (.of_map _ hdistinct)).1 hindex
  omega

/-- A selection that is after the last task is put on it. -/
theorem selectedRecord_of_clamped {n : Nat} (hselected : u.selected = min n (u.store.length - 1))
    (hout : u.store.length ≤ n + 1) : u.selectedRecord = u.store.getLast? := by
  rw [selectedRecord, List.getLast?_eq_getElem?, hselected]
  congr 1
  omega

/-- A refresh of another task that returns leaves the selection with its task, unless it drops a
task above it.  Then the selection is with the task that was below its own, although that one is
still there, or at the end of the list if there was none below. -/
theorem reloadRecord_selection [Interpreter] {w w' : World}
    (hdistinct : (w.session.store.map Record.uuid).Nodup)
    (hfollow : w.session.config.followTask = true) (hr : w.session.selectedRecord = some r)
    (hother : r.uuid ≠ uuid)
    (hanswer : ∀ found, ExportsFirst w.host.pending (.ok (some found)) → found.uuid = uuid)
    (h : effect (reloadRecord uuid) w = (.ok (), w')) :
    (¬ DropsAbove uuid w.session w'.session →
        w'.session.selectedRecord.map Record.uuid = some r.uuid) ∧
      (DropsAbove uuid w.session w'.session →
        r ∈ w'.session.store ∧
          match w.session.store[w.session.selected + 1]? with
          | some below =>
              w'.session.selectedRecord.map Record.uuid = some below.uuid ∧ below.uuid ≠ r.uuid
          | none => w'.session.selectedRecord = w'.session.store.getLast?) := by
  obtain ⟨s, current, ⟨rfl, kept, found, hfirst, hkept, rfl⟩, hsettles⟩ :=
    reloadRecord_settles uuid w () w' h
  have huuid (b : Record) (hb : kept = some b) : b.uuid = uuid := by
    rw [hkept b hb] at hfirst
    exact hanswer b hfirst
  have hstore : w'.session.store.Perm (w.session.store.replace uuid kept) :=
    sortRecords_perm hsettles.sorted
  -- the task to follow is the one that is at the position of the selection after the replacement
  have hcurrent : (w.session.store.replace uuid kept)[w.session.selected]? =
      if kept = none ∧ uuid ∈ (w.session.store.take w.session.selected).map Record.uuid
      then w.session.store[w.session.selected + 1]? else some r := by
    have hne (r' : Record) (hr' : w.session.store[w.session.selected]? = some r') :
        r'.uuid ≠ uuid := by
      cases hr.symm.trans hr'
      exact hother
    rw [Store.getElem?_replace hne]
    rw [selectedRecord] at hr
    rw [hr]
  have hfollowed (r' : Record)
      (hr' : (w.session.store.replace uuid kept)[w.session.selected]? = some r')
      (hmem : r' ∈ w'.session.store) :
      w'.session.selectedRecord.map Record.uuid = some r'.uuid := by
    refine hsettles.found ?_ (List.mem_map_of_mem hmem)
    rw [followed, if_pos hfollow, selectedRecord, hr']
    rfl
  have hthere : r ∈ w'.session.store :=
    mem_of_replaced huuid hstore (List.mem_of_getElem? hr) hother
  rw [dropsAbove_iff hdistinct huuid hstore]
  constructor
  · intro hdrop
    rw [if_neg hdrop] at hcurrent
    exact hfollowed r hcurrent hthere
  · intro hdrop
    rw [if_pos hdrop] at hcurrent
    refine ⟨hthere, ?_⟩
    cases hbelow : w.session.store[w.session.selected + 1]? with
    | some below =>
        rw [hbelow] at hcurrent
        have hmem : below ∈ w'.session.store := hstore.mem_iff.2 (List.mem_of_getElem? hcurrent)
        exact ⟨hfollowed below hcurrent hmem, below_uuid_ne hdistinct hr hbelow⟩
    | none =>
        rw [hbelow] at hcurrent
        refine selectedRecord_of_clamped (hsettles.clamped fun uuid' hfollowed' => ?_) ?_
        · rw [followed, if_pos hfollow, selectedRecord, hcurrent] at hfollowed'
          cases hfollowed'
        · rw [hstore.length_eq]
          exact List.getElem?_eq_none_iff.1 hcurrent |>.trans (Nat.le_succ _)

/-- The first task is refreshed when the second one is selected, and it is not exported any more. -/
def firstDropped : World := (effect (reloadRecord "a") (threeTasks 1)).2

/-- The selection goes from the second task to the third. -/
theorem reloadRecord_selection_dropped :
    effect (reloadRecord "a") (threeTasks 1) = (.ok (), firstDropped) ∧
      (threeTasks 1).session.selectedRecord.map Record.uuid = some "b" ∧
      ("b" : Text) ∈ firstDropped.session.store.map Record.uuid ∧
      firstDropped.session.selectedRecord.map Record.uuid = some "c" := by
  have hend : effect (reloadRecord "a") (threeTasks 1) = (.ok (), firstDropped) :=
    effect_eq_of_fst (by decide +kernel)
  have hnone : ExportsFirst (threeTasks 1).host.pending (.ok none) :=
    ⟨.ok [], by rfl, by rfl⟩
  have hanswer (found : Record)
      (h : ExportsFirst (threeTasks 1).host.pending (.ok (some found))) : found.uuid = "a" := by
    cases hnone.unique h
  have hdrops : DropsAbove "a" (threeTasks 1).session firstDropped.session :=
    ⟨by decide +kernel, by decide +kernel⟩
  obtain ⟨hmem, hselected, -⟩ := (reloadRecord_selection (by decide +kernel) rfl rfl
    (by decide) hanswer hend).2 hdrops
  exact ⟨hend, rfl, List.mem_map_of_mem hmem, hselected⟩

end Session

end TaskBrowser
