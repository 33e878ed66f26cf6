import TaskBrowser.Proofs.Record.Order
import TaskBrowser.Proofs.Session.Failing
import TaskBrowser.Proofs.Session.Reloading

/-!
# Refreshing one task

A refresh asks for one task, and if there is a filter for those that pass it.  The task takes the
place of the one of its identifier, or that one goes if the task was not found or does not pass the
filter.  All other tasks stay as they are, and the identifiers stay distinct.  If either question is
not answered the refresh fails, and nothing has changed.

Then the tasks are sorted.  As after a load they are in order if the sort mode ranks them, which it
does if all projects are names.  If two of them have no order the refresh crashes, with the task
replaced and the tasks not in order.
-/

namespace TaskBrowser

/-! ## Replacing in the store -/

namespace Store

variable {s : Store} {uuid : Text} {kept : Option Record}

theorem replace_cons_self {a : Record} (ha : a.uuid = uuid) (rest : Store) :
    Store.replace (a :: rest) uuid kept = kept.toList ++ rest := by
  rw [replace.eq_def]
  dsimp only
  rw [if_pos ha]
  cases kept <;> rfl

theorem replace_cons_other {a : Record} (ha : a.uuid ≠ uuid) (rest : Store) :
    Store.replace (a :: rest) uuid kept = a :: rest.replace uuid kept := by
  rw [replace.eq_def]
  dsimp only
  rw [if_neg ha]

/-- The records of other identifiers stay, in their order. -/
theorem replace_others (hkept : ∀ r, kept = some r → r.uuid = uuid) :
    (s.replace uuid kept).filter (·.uuid ≠ uuid) = s.filter (·.uuid ≠ uuid) := by
  induction s with
  | nil => rfl
  | cons a rest ih =>
      by_cases ha : a.uuid = uuid
      · rw [replace_cons_self ha, List.filter_append]
        cases kept with
        | none => simp [ha]
        | some b => simp [ha, hkept b rfl]
      · rw [replace_cons_other ha, List.filter_cons, List.filter_cons, ih]

/-- A record in the place of another leaves the identifiers as they are. -/
theorem uuids_replace_some {b : Record} (hb : b.uuid = uuid) :
    (s.replace uuid (some b)).map Record.uuid = s.map Record.uuid := by
  induction s with
  | nil => rfl
  | cons a rest ih =>
      by_cases ha : a.uuid = uuid
      · simp [replace_cons_self ha, ha, hb]
      · simp [replace_cons_other ha, ih]

/-- Without a record its identifier is there once less. -/
theorem uuids_replace_none :
    (s.replace uuid none).map Record.uuid = (s.map Record.uuid).erase uuid := by
  induction s with
  | nil => rfl
  | cons a rest ih =>
      by_cases ha : a.uuid = uuid
      · simp [replace_cons_self ha, ha]
      · rw [replace_cons_other ha, List.map_cons, List.map_cons, ih,
          List.erase_cons_tail (by simpa using ha)]

theorem nodup_replace (hs : (s.map Record.uuid).Nodup)
    (hkept : ∀ r, kept = some r → r.uuid = uuid) :
    ((s.replace uuid kept).map Record.uuid).Nodup := by
  cases kept with
  | none =>
      rw [uuids_replace_none]
      exact hs.erase uuid
  | some b =>
      rw [uuids_replace_some (hkept b rfl)]
      exact hs

/-- The record of the identifier is the one that was put there, if there was one before. -/
theorem mem_replace_iff (hs : (s.map Record.uuid).Nodup)
    (hkept : ∀ r, kept = some r → r.uuid = uuid) {r : Record} :
    r ∈ s.replace uuid kept ∧ r.uuid = uuid ↔ kept = some r ∧ uuid ∈ s.map Record.uuid := by
  induction s with
  | nil => simp [replace]
  | cons a rest ih =>
      obtain ⟨hnew, hrest⟩ := List.nodup_cons.1
        (show (a.uuid :: rest.map Record.uuid).Nodup from hs)
      by_cases ha : a.uuid = uuid
      · subst ha
        -- no record after the first has the identifier again
        have hgone (r : Record) (hr : r ∈ rest) : r.uuid ≠ a.uuid := fun h =>
          hnew (h ▸ List.mem_map_of_mem hr)
        rw [replace_cons_self rfl]
        cases kept with
        | none =>
            constructor
            · rintro ⟨hr, huuid⟩
              exact absurd huuid (hgone r hr)
            · rintro ⟨h, -⟩
              cases h
        | some b =>
            constructor
            · rintro ⟨hr, huuid⟩
              rcases List.mem_cons.1 hr with rfl | hr
              · exact ⟨rfl, List.mem_cons_self⟩
              · exact absurd huuid (hgone r hr)
            · rintro ⟨h, -⟩
              cases h
              exact ⟨List.mem_cons_self, hkept _ rfl⟩
      · have hcons : uuid ∈ (a :: rest).map Record.uuid ↔ uuid ∈ rest.map Record.uuid := by
          rw [List.map_cons, List.mem_cons]
          exact or_iff_right (Ne.symm ha)
        rw [replace_cons_other ha, hcons, ← ih hrest, List.mem_cons]
        constructor
        · rintro ⟨rfl | hr, huuid⟩
          · exact absurd huuid ha
          · exact ⟨hr, huuid⟩
        · rintro ⟨hr, huuid⟩
          exact ⟨.inr hr, huuid⟩

end Store

/-! ## Reading one task again -/

section General

variable [Interpreter]

/-- What comes of reading the first of the tasks that the task program exports next. -/
def ExportsFirst (p : Pending) (r : Except Fault (Option Record)) : Prop :=
  ∃ read, p.records? = some read ∧ read.map List.head? = r

theorem ExportsFirst.unique {p : Pending} {r r' : Except Fault (Option Record)}
    (h : ExportsFirst p r) (h' : ExportsFirst p r') : r = r' := by
  obtain ⟨read, hread, hr⟩ := h
  obtain ⟨read', hread', hr'⟩ := h'
  cases hread.symm.trans hread'
  exact hr.symm.trans hr'

theorem ExportsFirst.ne_failure {p : Pending} {f : Failure} :
    ¬ ExportsFirst p (.error (.failure f)) := by
  rintro ⟨e | rs, hread, hr⟩
  · cases hr
    exact Pending.records?_ne_failure hread
  · cases hr

/-- The export of one task reads what the program prints next, and fails if it does not answer. -/
theorem Client.exportOne_cases (c : Client) (uuid : Text) (h : Host) :
    (∃ r h', effect (c.exportOne uuid) h = (r, h') ∧ ExportsFirst h.pending r ∧
        h'.pending = h.pending.next) ∨
      (h.pending.result? = none ∧
        ∃ f h', effect (c.exportOne uuid) h = (.error (.failure f), h')) := by
  rw [effect_exportOne]
  cases hresult : h.pending.result? with
  | none =>
      obtain ⟨f, h', hrun⟩ := run_of_noResult (c := c) hresult
      rw [hrun]
      exact .inr ⟨rfl, f, h', rfl⟩
  | some printed =>
      obtain ⟨h', hrun, hnext⟩ := run_of_result (c := c) hresult
      rw [hrun]
      cases printed with
      | error x =>
          have hread : h.pending.records? = some (.error (.crash x)) := by
            rw [Pending.records?, hresult]
            rfl
          exact .inl ⟨_, h', rfl, ⟨_, hread, rfl⟩, hnext⟩
      | ok out =>
          have hread : h.pending.records? = some (exported h' out).outcome := by
            rw [Pending.records?, hresult, exported_outcome hnext]
            rfl
          exact .inl ⟨_, _, rfl, ⟨_, hread, rfl⟩, by rw [Host.withNotes_pending, hnext]⟩

namespace Session

/-- A task passes the filter: there is none, or the task is exported for it. -/
def Passes (s : Session) (uuid : Text) (p : Pending) : Prop :=
  s.config.filter = [] ∨ ∃ shown, s.Exports p (.ok shown) ∧ uuid ∈ shown.map Record.uuid

/-- A task cannot be read again: the task program does not answer, or it does not for the tasks
that pass the filter. -/
def RefreshUnanswered (s : Session) (p : Pending) : Prop :=
  p.result? = none ∨
    ∃ r, ExportsFirst p (.ok (some r)) ∧ s.config.filter ≠ [] ∧ s.Unanswered p.next

/-- A task is read again from an export that crashes. -/
def RefreshUnreadable (s : Session) (p : Pending) (c : Crash) : Prop :=
  ExportsFirst p (.error (.crash c)) ∨
    ∃ r, ExportsFirst p (.ok (some r)) ∧ s.config.filter ≠ [] ∧
      s.Exports p.next (.error (.crash c))

/-- How the export for the filter ends. -/
theorem exportAll_ends (s : Session) (h : Host) :
    match (effect (s.asked.exportAll (some s.config.filter)) h).1 with
    | .ok shown => ¬ s.Unanswered h.pending ∧ s.Exports h.pending (.ok shown)
    | .error (.failure _) => s.Unanswered h.pending
    | .error (.crash c) => ¬ s.Unanswered h.pending ∧ s.Exports h.pending (.error (.crash c)) := by
  have hfails := s.asked.exportAll_fails_iff (f := some s.config.filter) (h := h)
  have hread {r : Except Fault (List Record)} (hne : ∀ f, r ≠ .error (.failure f))
      (hr : (effect (s.asked.exportAll (some s.config.filter)) h).1 = r) :
      ¬ s.Unanswered h.pending ∧ s.Exports h.pending r := by
    refine ⟨fun hunanswered => ?_, (exports_iff ⟨s, h⟩ hne).1 hr⟩
    obtain ⟨f, hf⟩ := hfails.2 hunanswered
    exact hne f (hr.symm.trans hf)
  generalize effect (s.asked.exportAll (some s.config.filter)) h = ended at hfails hread ⊢
  rcases ended with ⟨(f | c) | shown, h'⟩
  · exact hfails.1 ⟨f, rfl⟩
  · exact hread (by intro f hf; cases hf) rfl
  · exact hread (by intro f hf; cases hf) rfl

/-- With a filter, a task passes it if it is one of those that are exported for it. -/
theorem passes_iff {s : Session} {uuid : Text} {p : Pending} {shown : List Record}
    (hfilter : s.config.filter ≠ []) (hshown : s.Exports p (.ok shown)) :
    s.Passes uuid p ↔ uuid ∈ shown.map Record.uuid := by
  constructor
  · rintro (hnone | ⟨shown', hshown', hmem⟩)
    · exact absurd hnone hfilter
    · cases hshown.unique hshown'
      exact hmem
  · intro hmem
    exact .inr ⟨shown, hshown, hmem⟩

theorem refreshUnanswered_iff {s : Session} {p : Pending}
    {r : Except Fault (Option Record)} (hfirst : ExportsFirst p r) :
    s.RefreshUnanswered p ↔
      (∃ t, r = .ok (some t)) ∧ s.config.filter ≠ [] ∧ s.Unanswered p.next := by
  constructor
  · rintro (hnone | ⟨t, hfirst', hfilter, hnext⟩)
    · obtain ⟨read, hread, -⟩ := hfirst
      cases hread.symm.trans (Pending.records?_eq_none_iff.2 hnone)
    · exact ⟨⟨t, hfirst.unique hfirst'⟩, hfilter, hnext⟩
  · rintro ⟨⟨t, rfl⟩, hfilter, hnext⟩
    exact .inr ⟨t, hfirst, hfilter, hnext⟩

/-- How reading a task again ends, by what is found first and then by what passes the filter. -/
theorem reread_ends (s : Session) (uuid : Text) (h : Host) :
    match (effect (reread s.asked s.config.filter uuid) h).1 with
    | .ok kept =>
        ¬ s.RefreshUnanswered h.pending ∧ ∃ found, ExportsFirst h.pending (.ok found) ∧
          ∀ r, kept = some r ↔ found = some r ∧ s.Passes uuid h.pending.next
    | .error (.failure _) => s.RefreshUnanswered h.pending
    | .error (.crash c) => ¬ s.RefreshUnanswered h.pending ∧ s.RefreshUnreadable h.pending c := by
  rw [reread, effect_bind]
  rcases s.asked.exportOne_cases uuid h with
    ⟨(f | c) | found, h₁, hone, hfirst, hnext⟩ | ⟨hnone, f, h₁, hone⟩
  · exact absurd hfirst ExportsFirst.ne_failure
  · rw [hone, refreshUnanswered_iff hfirst]
    refine ⟨?_, .inl hfirst⟩
    rintro ⟨⟨t, ht⟩, -⟩
    cases ht
  · rw [hone, refreshUnanswered_iff hfirst]
    cases found with
    | none =>
        refine ⟨?_, none, hfirst, fun r => by simp⟩
        rintro ⟨⟨t, ht⟩, -⟩
        cases ht
    | some t =>
        dsimp only
        by_cases hempty : s.config.filter.isEmpty = true
        · have hfilter : s.config.filter = [] := List.isEmpty_iff.1 hempty
          have hpasses : s.Passes uuid h.pending.next := .inl hfilter
          rw [if_pos hempty]
          refine ⟨fun hfails => hfails.2.1 hfilter, some t, hfirst, fun r => ?_⟩
          simp [hpasses]
        · have hfilter : s.config.filter ≠ [] := mt List.isEmpty_iff.2 hempty
          have hends := exportAll_ends s h₁
          rw [if_neg hempty, effect_bind, ← hnext]
          generalize effect (s.asked.exportAll (some s.config.filter)) h₁ = ended at hends ⊢
          rcases ended with ⟨(f | c) | shown, h₂⟩
          · exact ⟨⟨t, rfl⟩, hfilter, hends⟩
          · exact ⟨fun hfails => hends.1 hfails.2.2, .inr ⟨t, hfirst, hfilter, hnext ▸ hends.2⟩⟩
          · refine ⟨fun hfails => hends.1 hfails.2.2, some t, hfirst, fun r => ?_⟩
            rw [passes_iff hfilter hends.2, List.mem_map]
            simp [and_comm]
  · rw [hone]
    exact .inl hnone

/-- A refresh that returns has put the tasks in order if the sort mode ranks them.  If their
identifiers were distinct it has changed one task at most: the others are the same, the identifiers
are still distinct, and the task is there if it was there before, was found, and passes the filter.
A refresh fails if the task cannot be read again, and then nothing has changed.  One that crashes
has changed nothing either, or has replaced the task and not put the tasks in order. -/
theorem reloadRecord_ends (uuid : Text) (w : World) :
    ((∃ f, (effect (reloadRecord uuid) w).1 = .error (.failure f)) ↔
        w.session.RefreshUnanswered w.host.pending) ∧
      match effect (reloadRecord uuid) w with
      | (.ok (), w') =>
          ∃ found, ExportsFirst w.host.pending (.ok found) ∧
            w'.session.config = w.session.config ∧
            ((∀ r ∈ w'.session.store, r.hasNamedProject = true) ∨
                Ranks (compareRecords w.session.config.sortMode) (· ∈ w'.session.store) →
              InOrder w.session.config.sortMode w'.session.store) ∧
            ((w.session.store.map Record.uuid).Nodup →
              (∀ r, found = some r → r.uuid = uuid) →
              (w'.session.store.filter (·.uuid ≠ uuid)).Perm
                  (w.session.store.filter (·.uuid ≠ uuid)) ∧
                (w'.session.store.map Record.uuid).Nodup ∧
                ∀ r, r ∈ w'.session.store ∧ r.uuid = uuid ↔
                  found = some r ∧ uuid ∈ w.session.store.map Record.uuid ∧
                    w.session.Passes uuid w.host.pending.next)
      | (.error (.failure _), w') => w'.session = w.session
      | (.error (.crash c), w') =>
          (w.session.RefreshUnreadable w.host.pending c ∧ w'.session = w.session) ∨
            ∃ kept, w'.session = { w.session with store := w.session.store.replace uuid kept } ∧
              sortRecords w.session.config.sortMode w'.session.store = .error c ∧
              ∃ r ∈ w'.session.store, r.hasNamedProject = false := by
  have hends := reread_ends w.session uuid w.host
  rw [effect_reloadRecord]
  generalize effect (reread w.session.asked w.session.config.filter uuid) w.host = ended
    at hends ⊢
  rcases ended with ⟨(f | c) | kept, h⟩
  · exact ⟨iff_of_true ⟨f, rfl⟩ hends, rfl⟩
  · refine ⟨iff_of_false ?_ hends.1, .inl ⟨hends.2, rfl⟩⟩
    rintro ⟨f, hf⟩
    cases hf
  · obtain ⟨hanswered, found, hfirst, hkept⟩ := hends
    dsimp only
    cases hsettled : ({ w.session with
        store := w.session.store.replace uuid kept }).settled
        ({ w.session with store := w.session.store.replace uuid kept }).selectedRecord with
    | error c =>
        have hsorted := settled_eq_error_iff.1 hsettled
        refine ⟨iff_of_false ?_ hanswered,
          .inr ⟨kept, rfl, hsorted, exists_unnamed_of_sortRecords hsorted⟩⟩
        rintro ⟨f, hf⟩
        cases hf
    | ok t =>
        obtain ⟨sorted, n, hsorted, rfl⟩ := settled_eq_ok hsettled
        have hperm : sorted.Perm (w.session.store.replace uuid kept) := sortRecords_perm hsorted
        refine ⟨iff_of_false ?_ hanswered, found, hfirst, rfl, ?ordered, ?replaced⟩
        · rintro ⟨f, hf⟩
          cases hf
        case ordered =>
          intro hranks
          refine sortRecords_inOrder hsorted ?_
          rcases hranks with hnamed | hranks
          · exact .inl fun r hr => hnamed r (hperm.mem_iff.2 hr)
          · exact .inr (hranks.mono fun r hr => hperm.mem_iff.2 hr)
        case replaced =>
          intro hs hfound
          have huuid (r : Record) (hr : kept = some r) : r.uuid = uuid :=
            hfound r ((hkept r).1 hr).1
          refine ⟨(hperm.filter _).trans (.of_eq (Store.replace_others huuid)),
            (hperm.map Record.uuid).nodup_iff.2 (Store.nodup_replace hs huuid), fun r => ?_⟩
          rw [hperm.mem_iff, Store.mem_replace_iff hs huuid, hkept r]
          constructor
          · rintro ⟨⟨hr, hpasses⟩, hmem⟩
            exact ⟨hr, hmem, hpasses⟩
          · rintro ⟨hr, hmem, hpasses⟩
            exact ⟨⟨hr, hpasses⟩, hmem⟩

end Session

end General

namespace Session

/-- A host whose task program exports three tasks, one of a project that is not a number, and then
the last of them again, of a project that comes before the others. -/
def unrankedHost : Host where
  files := fun _ _ => FileTree.system []
  now := .universal 2024 6 1 9 30
  answers := [
    .ended ("\x7b\"uuid\":\"a\",\"description\":\"x\",\"project\":2\x7d\n" ++
      "\x7b\"uuid\":\"b\",\"description\":\"y\",\"project\":NaN\x7d\n" ++
      "\x7b\"uuid\":\"c\",\"description\":\"z\",\"project\":3\x7d" : String) "" 0,
    .ended "\x7b\"uuid\":\"c\",\"description\":\"z\",\"project\":1\x7d" "" 0]

/-- A new session on that host, by project and with the three tasks loaded. -/
def unranked : World :=
  (effect reload (create { commandFile := .ofText "rc", sortMode := "p", filter := "" }
    unrankedHost).2).2

-- the last task belongs before the first now, but the one between compares as equal to both
example :
    (effect (reloadRecord "c") unranked).1 = .ok () ∧
      (effect (reloadRecord "c") unranked).2.session.store.map Record.uuid = ["a", "b", "c"] := by
  decide +kernel

end Session

end TaskBrowser
