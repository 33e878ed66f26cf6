import TaskBrowser.Proofs.Effect

/-!
# Loading the tasks

The effects of the operations that load, sort and refresh the tasks, as one equation each.

Every one of them first asks the task program.  If that ends in a fault the session is as it was;
otherwise the tasks are put in order, and the selection is restored.  Two tasks may turn out to
have no order, which is a crash that leaves the tasks loaded but not in order.

Records that are read from an export have no colour pairs yet (`exportAll_fresh`,
`exportOne_fresh`).
-/

namespace TaskBrowser

/-! ## The client -/

namespace Client

/-- A run takes the next answer and gives what was printed, unless it could not be made, was raised,
or ended with a status other than zero. -/
theorem effect_run (c : Client) (args : List Text) (overrides : Bool) (h : Host) :
    effect (c.run args overrides) h =
      let argv := c.argv overrides args
      let next := (h.withNote (runNote argv)).runTask argv
      (match next.1 with
        | .notRunnable => .error (.failure (.notRunnable argv))
        | .raised x => .error (.crash x)
        | .ended out err status =>
            if status = 0 then .ok out
            else .error (.failure (.taskFailed args (told out err status) argv status)),
              next.2) := by
  simp only [run, effect_bind, HostAction.effect_note, HostAction.effect_runTask]
  cases ((h.withNote (runNote (c.argv overrides args))).runTask (c.argv overrides args)).1 with
  | notRunnable => rfl
  | raised x => rfl
  | ended out err status =>
      by_cases hs : status = 0
      · simp [hs]
      · simp [hs]

@[simp] theorem effect_arguments (line : Text) (h : Host) :
    effect (arguments line) h = ((splitArguments line).mapError .failure, h) := by
  rw [arguments]
  cases splitArguments line <;> rfl

variable [Interpreter]

@[simp] theorem effect_readExport (out : Text) (h : Host) :
    effect (readExport out) h = ((exported h out).outcome, h.withNotes (exported h out).notes) := by
  rw [readExport, effect_bind, effect_get]
  exact HostAction.effect_attempt _ h

/-- An export cuts the filter into words, runs the task program, and reads what it printed. -/
theorem effect_exportAll (c : Client) (filter : Option Text) (h : Host) :
    effect (c.exportAll filter) h =
      match splitArguments (filter.getD []) with
      | .error f => (.error (.failure f), h)
      | .ok args =>
          match effect (c.run (args ++ [("export" : Text)]) true)
              (h.withNote (exportNote filter)) with
          | (.ok out, h') => ((exported h' out).outcome, h'.withNotes (exported h' out).notes)
          | (.error e, h') => (.error e, h') := by
  simp only [exportAll, effect_bind, effect_arguments]
  cases splitArguments (filter.getD []) with
  | error f => rfl
  | ok args =>
      simp only [Except.mapError, HostAction.effect_note, effect_readExport]
      rcases effect (c.run (args ++ [("export" : Text)]) true) _ with ⟨_ | out, h'⟩ <;> rfl

/-- The export of one task gives the first record that was printed. -/
theorem effect_exportOne (c : Client) (uuid : Text) (h : Host) :
    effect (c.exportOne uuid) h =
      match effect (c.run [uuid, "export"] true) h with
      | (.ok out, h') =>
          ((exported h' out).outcome.map List.head?, h'.withNotes (exported h' out).notes)
      | (.error e, h') => (.error e, h') := by
  simp only [exportOne, effect_bind, effect_readExport]
  rcases effect (c.run [uuid, "export"] true) h with ⟨_ | out, h'⟩
  · rfl
  · cases hout : (exported h' out).outcome <;> simp only [hout, Except.map, effect_pure]

end Client

/-! ## Records without colour pairs -/

/-- No colour pair was found for the record yet. -/
def Record.IsFresh (r : Record) : Prop := ∀ selected, r.pair selected = none

theorem Record.forgetPairs_isFresh (r : Record) : r.forgetPairs.IsFresh := by
  intro selected
  cases selected <;> rfl

namespace Export

open Attempt

theorem record?_fresh {ms : List (Text × Json)} {r : Record}
    (h : (record? ms).outcome = .ok (some r)) : r.IsFresh := by
  rw [record?] at h
  split at h
  · obtain ⟨_, _, h⟩ := outcome_bind_eq_ok.1 h
    cases h
  · obtain ⟨_, _, h⟩ := outcome_bind_eq_ok.1 h
    cases h
  · obtain ⟨_, _, h⟩ := outcome_bind_eq_ok.1 h
    obtain ⟨_, _, h⟩ := outcome_bind_eq_ok.1 h
    obtain ⟨_, _, h⟩ := outcome_bind_eq_ok.1 h
    obtain ⟨_, _, h⟩ := outcome_bind_eq_ok.1 h
    cases h
    intro selected
    cases selected <;> rfl

theorem recordsOf_fresh (objects : List (List (Text × Json))) :
    ∀ {rs : List Record}, (recordsOf objects).outcome = .ok rs → ∀ r ∈ rs, r.IsFresh := by
  induction objects with
  | nil =>
      intro rs h r hr
      cases h
      cases hr
  | cons ms rest ih =>
      intro rs h r hr
      rw [recordsOf] at h
      obtain ⟨first, hfirst, h⟩ := outcome_bind_eq_ok.1 h
      obtain ⟨more, hmore, h⟩ := outcome_bind_eq_ok.1 h
      cases h
      rcases List.mem_append.1 hr with hr | hr
      · obtain rfl : first = some r := by simpa using hr
        exact record?_fresh hfirst
      · exact ih hmore r hr

/-- What is read from an export has no colour pairs. -/
theorem records_fresh {nesting : Nat} {out : Text} {rs : List Record}
    (h : (records nesting out).outcome = .ok rs) :
    ∀ r ∈ rs, r.IsFresh := by
  rw [records] at h
  obtain ⟨objects, _, h⟩ := outcome_bind_eq_ok.1 h
  exact recordsOf_fresh objects h

end Export

namespace Client

variable [Interpreter]

theorem exportAll_fresh {c : Client} {filter : Option Text} {h h' : Host} {rs : List Record}
    (he : effect (c.exportAll filter) h = (.ok rs, h')) : ∀ r ∈ rs, r.IsFresh := by
  rw [effect_exportAll] at he
  split at he
  · cases he
  · split at he
    · exact Export.records_fresh (congrArg Prod.fst he)
    · cases he

theorem exportOne_fresh {c : Client} {uuid : Text} {h h' : Host} {r : Record}
    (he : effect (c.exportOne uuid) h = (.ok (some r), h')) : r.IsFresh := by
  rw [effect_exportOne] at he
  split at he
  next out h₁ _ =>
    have hmap : (exported h₁ out).outcome.map List.head? = .ok (some r) := congrArg Prod.fst he
    cases hout : (exported h₁ out).outcome with
    | error e => rw [hout] at hmap; cases hmap
    | ok rs =>
        rw [hout] at hmap
        injection hmap with hhead
        exact Export.records_fresh hout r (List.mem_of_head? hhead)
  next => cases he

end Client

/-! ## Loading and sorting -/

namespace Session

/-- The session with another sort mode, if one is given. -/
def withMode (s : Session) (mode : Option Text) : Session :=
  match mode with
  | some (c :: t) => { s with config := { s.config with sortMode := c :: t } }
  | _ => s

/-- The session with its tasks in order and the selection restored, or the crash of tasks that
have no order. -/
def settled (s : Session) (current : Option Record) : Except Crash Session :=
  (sortRecords s.config.sortMode s.store).map fun sorted =>
    ({ s with store := sorted }).restore current

/-- Only the selection is restored. -/
theorem restore_eq (s : Session) (current : Option Record) :
    ∃ n, s.restore current = { s with selected := n } := by
  have hfollow (uuid : Text) : ∃ n, s.selectUuid uuid = { s with selected := n } := by
    rw [selectUuid]
    cases s.store.position? uuid with
    | none => exact ⟨s.selected, rfl⟩
    | some n => exact ⟨n, rfl⟩
  rw [restore.eq_def]
  dsimp only
  split
  next r _ =>
    obtain ⟨n, hn⟩ := hfollow r.uuid
    rw [hn]
    exact ⟨_, rfl⟩
  next => exact ⟨_, rfl⟩

/-- Settling rearranges the tasks and moves the selection. -/
theorem settled_eq_ok {s t : Session} {current : Option Record} (h : s.settled current = .ok t) :
    ∃ sorted n, sortRecords s.config.sortMode s.store = .ok sorted ∧
      t = { s with store := sorted, selected := n } := by
  rw [settled] at h
  cases hsorted : sortRecords s.config.sortMode s.store with
  | error c =>
      rw [hsorted] at h
      cases h
  | ok sorted =>
      rw [hsorted] at h
      cases h
      obtain ⟨n, hn⟩ := restore_eq { s with store := sorted } current
      exact ⟨sorted, n, rfl, hn⟩

/-- Tasks are not settled if they have no order. -/
theorem settled_eq_error_iff {s : Session} {current : Option Record} {c : Crash} :
    s.settled current = .error c ↔ sortRecords s.config.sortMode s.store = .error c := by
  rw [settled]
  cases sortRecords s.config.sortMode s.store with
  | error c' => simp [Except.map]
  | ok sorted => simp [Except.map]

theorem effect_sortStore (w : World) :
    effect sortStore w =
      match sortRecords w.session.config.sortMode w.session.store with
      | .ok sorted => (.ok (), { w with session := { w.session with store := sorted } })
      | .error c => (.error (.crash c), w) := by
  simp only [sortStore, effect_bind, Action.effect_session, Action.effect_orCrash]
  cases sortRecords w.session.config.sortMode w.session.store <;> rfl

/-- A sort that finds an order leaves the session settled, and one that does not leaves it with
the new sort mode. -/
theorem effect_sort (mode : Option Text) (w : World) :
    effect (sort mode) w =
      match (w.session.withMode mode).settled w.session.selectedRecord with
      | .ok s => (.ok (), { w with session := s })
      | .error c => (.error (.crash c), { w with session := w.session.withMode mode }) := by
  have hmode : effect (sort mode) w =
      effect (do sortStore; Action.change (·.restore w.session.selectedRecord))
        { w with session := w.session.withMode mode } := by
    rcases mode with _ | _ | ⟨c, t⟩ <;> rfl
  rw [hmode, effect_bind, effect_sortStore, settled]
  cases sortRecords (w.session.withMode mode).config.sortMode (w.session.withMode mode).store
    <;> rfl

variable [Interpreter]

/-- A load that is answered leaves the session settled with the tasks that were loaded, unless they
have no order. -/
theorem effect_reload (w : World) :
    effect reload w =
      match effect (w.session.asked.exportAll (some w.session.config.filter)) w.host with
      | (.ok rs, h) =>
          (match ({ w.session with store := rs }).settled w.session.selectedRecord with
            | .ok s => (.ok (), ⟨s, h.withNote (loadedNote rs.length)⟩)
            | .error c => (.error (.crash c), ⟨{ w.session with store := rs }, h⟩))
      | (.error e, h) => (.error e, { w with host := h }) := by
  rw [reload, effect_bind, Action.effect_session]
  dsimp only
  rw [effect_ask_bind]
  rcases effect (w.session.asked.exportAll (some w.session.config.filter)) w.host with ⟨_ | rs, h⟩
  · rfl
  · simp only [effect_bind, Action.effect_change, effect_sortStore, settled]
    cases sortRecords w.session.config.sortMode rs <;> rfl

/-- The task of an identifier as the task program has it now, if it passes the filter. -/
def reread (c : Client) (filter uuid : Text) : HostAction (Option Record) := do
  match ← c.exportOne uuid with
  | none => return none
  | some r =>
      if filter.isEmpty then return some r
      else
        let shown ← c.exportAll (some filter)
        return if shown.any (·.uuid == uuid) then some r else none

theorem reread_fresh {c : Client} {filter uuid : Text} {h h' : Host} {r : Record}
    (he : effect (reread c filter uuid) h = (.ok (some r), h')) : r.IsFresh := by
  rw [reread, effect_bind] at he
  split at he
  next found h₁ hone =>
    cases found with
    | none => cases he
    | some found =>
        have hfresh := Client.exportOne_fresh hone
        dsimp only at he
        split at he
        · cases he
          exact hfresh
        · rw [effect_bind] at he
          split at he
          next shown h₂ _ =>
            cases hany : shown.any (·.uuid == uuid) with
            | false =>
                rw [hany] at he
                cases he
            | true =>
                rw [hany] at he
                cases he
                exact hfresh
          next => cases he
  next => cases he

/-- A refresh that is answered leaves the session settled with the task in the place of the one of
its identifier, or without it, unless the tasks have no order. -/
theorem effect_reloadRecord (uuid : Text) (w : World) :
    effect (reloadRecord uuid) w =
      match effect (reread w.session.asked w.session.config.filter uuid) w.host with
      | (.ok kept, h) =>
          let s := { w.session with store := w.session.store.replace uuid kept }
          (match s.settled s.selectedRecord with
            | .ok s => (.ok (), ⟨s, h⟩)
            | .error c => (.error (.crash c), ⟨s, h⟩))
      | (.error e, h) => (.error e, { w with host := h }) := by
  have hsort (kept : Option Record) (h : Host) :
      effect (do
          Action.change fun s => { s with store := s.store.replace uuid kept }
          sort none) { w with host := h } =
        let s := { w.session with store := w.session.store.replace uuid kept }
        (match s.settled s.selectedRecord with
          | .ok s => (.ok (), ⟨s, h⟩)
          | .error c => (.error (.crash c), ⟨s, h⟩)) := by
    rw [effect_bind, Action.effect_change]
    exact effect_sort none _
  rw [reloadRecord, effect_ask_bind, reread, effect_bind]
  rcases effect (w.session.asked.exportOne uuid) w.host with ⟨_ | _ | r, h⟩
  · rfl
  · exact hsort none h
  · dsimp only
    rw [effect_bind, Action.effect_session]
    dsimp only
    cases hfilter : w.session.config.filter.isEmpty with
    | true => exact hsort (some r) h
    | false =>
        rw [if_neg Bool.false_ne_true, if_neg Bool.false_ne_true, effect_ask_bind, effect_bind]
        dsimp only
        rcases effect (w.session.asked.exportAll (some w.session.config.filter)) h with ⟨_ | rs, h₁⟩
        · rfl
        · exact hsort _ h₁

end Session

end TaskBrowser
