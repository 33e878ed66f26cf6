import TaskBrowser.Proofs.Session.Change

/-!
# Operations proceed in steps

Every operation of a session proceeds in the steps of `Session.Change`.  None of those here changes
a setting behind a variable, whichever may be set.
-/

namespace TaskBrowser

namespace Session

open TaskBrowser.Action

/-! ## What rendering and searching find -/

/-- What rendering depends on is read off the world. -/
theorem effect_context (w : World) :
    effect context w =
      (match w.session.store.projectWidth with
        | .ok width => .ok ⟨w.session.variableTable, width, w.host.now⟩
        | .error c => .error (.crash c), w) := by
  rw [context, effect_bind, effect_get]
  dsimp only
  rw [effect_bind, effect_orCrash]
  cases w.session.store.projectWidth <;> rfl

theorem context_keeps (w : World) : (effect context w).2 = w := by
  rw [effect_context]

/-- A colour pair that is found is remembered by the record at the position. -/
theorem effect_taskPair [Interpreter] (position : Nat) (r : Record) (selected : Bool) (w : World) :
    effect (taskPair position r selected) w =
      match (w.session.scheme.taskPair r selected).outcome with
      | .ok (pair, r') =>
          (.ok pair, ⟨{ w.session with store := w.session.store.set position r' },
            w.host.withNotes (w.session.scheme.taskPair r selected).notes⟩)
      | .error e =>
          (.error e,
            { w with host := w.host.withNotes (w.session.scheme.taskPair r selected).notes }) := by
  rw [taskPair, effect_bind, effect_session]
  dsimp only
  rw [effect_bind, Action.effect_attempt]
  rcases (w.session.scheme.taskPair r selected).outcome with e | ⟨pair, r'⟩ <;> rfl

/-- Rendering a task leaves the tasks after it as they are. -/
theorem renderTask_drop [Interpreter] {position : Nat} {r : Record} {selected : Bool}
    {c : RenderContext} {w w' : World} {line : Nat × Text}
    (h : effect (renderTask position r selected c) w = (.ok line, w')) :
    w'.session.store.drop (position + 1) = w.session.store.drop (position + 1) := by
  rw [renderTask, effect_bind, effect_taskPair] at h
  rcases hfound : (w.session.scheme.taskPair r selected).outcome with e | ⟨pair, r'⟩
  · rw [hfound] at h
    cases h
  · rw [hfound] at h
    dsimp only at h
    rw [effect_bind, effect_session] at h
    dsimp only at h
    rw [effect_bind, effect_orCrash] at h
    split at h
    next ht =>
      have hw := congrArg Prod.snd ht
      dsimp only at hw
      subst hw
      cases h
      exact List.drop_set_of_lt (Nat.lt_succ_self position)
    next => cases h

/-- A match is found at one of the positions that are tried, which holds a task. -/
theorem firstMatch_lt [Interpreter] {s : Session} {pattern : Text} {n : Nat} :
    ∀ {positions : List Nat}, s.firstMatch pattern positions = .ok (some n) →
      n < s.store.length := by
  intro positions
  induction positions with
  | nil => intro h; cases h
  | cons m positions ih =>
      intro h
      rw [firstMatch] at h
      cases hm : s.store[m]? with
      | none =>
          rw [hm] at h
          exact ih h
      | some r =>
          rw [hm] at h
          dsimp only at h
          split at h
          · cases h
          · obtain rfl : m = n := by simpa using h
            exact (List.getElem?_eq_some_iff.1 hm).1
          · exact ih h

variable [Interpreter] [Validator]

variable {may : Entry → Prop}

/-! ## The selection and searching -/

theorem moveTo_proceeds (position : Int) (w : World) : Proceeds may (moveTo position) w :=
  .change (.moved position)

theorem moveToUuid_proceeds (uuid : Text) (w : World) : Proceeds may (moveToUuid uuid) w := by
  refine .withSession (.bind (.change (.movedTo uuid)) ?_)
  intro _ w' _
  exact .pure _

theorem searchNext_proceeds (w : World) : Proceeds may searchNext w := by
  have hnone (message : Text) (w : World) :
      Proceeds may (do let _ ← notify message true; return false) w :=
    .bind (.notify message true) fun _ _ _ => .pure _
  refine .withSession ?_
  split
  · refine .bind (.orCrash _) ?_
    intro found w' horder
    rw [effect_orCrash] at horder
    obtain ⟨hfound, rfl⟩ := Prod.mk.inj horder
    cases found with
    | none => exact hnone _ _
    | some n =>
        have hn := firstMatch_lt (mapError_eq_ok_iff.1 hfound)
        dsimp only
        split
        · refine .bind (.notify _ false) ?_
          rintro _ w' hnotify
          rw [effect_notify] at hnotify
          obtain ⟨-, rfl⟩ := Prod.mk.inj hnotify
          exact .bind (.change (.found hn)) fun _ _ _ => .pure _
        · exact .bind (.change (.found hn)) fun _ _ _ => .pure _
  · exact hnone _ _

theorem searchFor_proceeds (pattern : Text) (w : World) :
    Proceeds may (searchFor pattern) w :=
  .bind (.change (.searching _)) fun _ w' _ => searchNext_proceeds w'

/-! ## Actions on tasks -/

theorem setFilter_proceeds (filter : Text) (w : World) :
    Proceeds may (setFilter filter) w := by
  refine .bind (.change (.filtered (Text.trim filter))) ?_
  intro _ w' _
  refine .bind (reload_proceeds w') ?_
  intro _ w' _
  exact .withSession (.bind (.notify _ false) fun _ _ _ => .pure _)

theorem requireSelected_proceeds (w : World) : Proceeds may requireSelected w := by
  refine .withSession ?_
  split
  · exact .pure _
  · exact .fail _

/-- Something that is asked, a load, and a message. -/
theorem loadAfter_proceeds {α : Type} (f : Client → HostAction α) (message : Text) (w : World) :
    Proceeds may (do let _ ← ask f; reload; notify message false) w := by
  refine .bind (.ask f) ?_
  intro _ w' _
  refine .bind (reload_proceeds w') ?_
  intro _ w' _
  exact .notify message false

/-- Something that is asked, a refresh, and a message. -/
theorem refreshAfter_proceeds {α : Type} (f : Client → HostAction α) (uuid message : Text)
    (w : World) :
    Proceeds may (do let _ ← ask f; reloadRecord uuid; notify message false) w := by
  refine .bind (.ask f) ?_
  intro _ w' _
  refine .bind (reloadRecord_proceeds uuid w') ?_
  intro _ w' _
  exact .notify message false

theorem toggleStarted_proceeds (w : World) : Proceeds may toggleStarted w := by
  refine .bind (requireSelected_proceeds w) ?_
  intro r w' _
  cases hstarted : r.started with
  | true => simpa [hstarted] using refreshAfter_proceeds (·.stop r.uuid) r.uuid _ w'
  | false => simpa [hstarted] using refreshAfter_proceeds (·.start r.uuid) r.uuid _ w'

theorem complete_proceeds (w : World) : Proceeds may complete w :=
  .bind (requireSelected_proceeds w) fun _ w' _ => loadAfter_proceeds _ _ w'

theorem delete_proceeds (w : World) : Proceeds may delete w :=
  .bind (requireSelected_proceeds w) fun _ w' _ => loadAfter_proceeds _ _ w'

theorem addTask_proceeds (line : Text) (w : World) : Proceeds may (addTask line) w :=
  loadAfter_proceeds _ _ w

theorem modifyTask_proceeds (line : Text) (w : World) : Proceeds may (modifyTask line) w :=
  .bind (requireSelected_proceeds w) fun _ w' _ => refreshAfter_proceeds _ _ _ w'

theorem undo_proceeds (w : World) : Proceeds may undo w := loadAfter_proceeds _ _ w

theorem sync_proceeds (w : World) : Proceeds may sync w := loadAfter_proceeds _ _ w

theorem taskInfo_proceeds (w : World) : Proceeds may taskInfo w :=
  .bind (requireSelected_proceeds w) fun _ _ _ => .ask _

theorem stats_proceeds (w : World) : Proceeds may stats w :=
  .withSession (.bind (.orCrash _) fun _ _ _ => .pure _)

/-! ## Rendering -/

theorem taskPair_proceeds {position : Nat} {r : Record} (selected : Bool) {w : World}
    (h : w.session.store[position]? = some r) :
    Proceeds may (taskPair position r selected) w := by
  rw [Proceeds, effect_taskPair]
  rcases hfound : (w.session.scheme.taskPair r selected).outcome with e | ⟨pair, r'⟩
  · exact .of_reaches .refl
  · exact .of_reaches (.single (.colored h hfound))

theorem renderTask_proceeds {position : Nat} {r : Record} (selected : Bool) (c : RenderContext)
    {w : World} (h : w.session.store[position]? = some r) :
    Proceeds may (renderTask position r selected c) w := by
  refine .bind (taskPair_proceeds selected h) ?_
  intro _ w' _
  exact .withSession (.bind (.orCrash _) fun _ _ _ => .pure _)

theorem renderFrom_proceeds (c : RenderContext) (rs : List Record) :
    ∀ (position : Nat) (w : World), w.session.store.drop position = rs →
      Proceeds may (renderFrom c position rs) w := by
  induction rs with
  | nil => intro position w _; exact .pure _
  | cons r rs ih =>
      intro position w hdrop
      have hr : w.session.store[position]? = some r := by
        rw [← List.head?_drop, hdrop]
        rfl
      have hrs : w.session.store.drop (position + 1) = rs := by
        rw [← List.tail_drop, hdrop]
        rfl
      refine .withSession (.bind (renderTask_proceeds _ c hr) ?_)
      -- only the record just rendered has changed, so the walk goes on over those it started with
      intro line w' hrender
      refine .bind (ih (position + 1) w' ((renderTask_drop hrender).trans hrs)) ?_
      intro _ _ _
      exact .pure _

theorem context_proceeds (w : World) : Proceeds may context w :=
  .keep (by rw [context_keeps])

theorem renderAll_proceeds (w : World) : Proceeds may renderAll w := by
  refine .bind (context_proceeds w) ?_
  intro c w' _
  exact .withSession (renderFrom_proceeds c _ 0 w' rfl)

theorem renderTitle_proceeds (w : World) : Proceeds may renderTitle w := by
  refine .withSession (.bind (context_proceeds w) ?_)
  intro c w' _
  exact .bind (.orCrash _) fun _ _ _ => .pure _

theorem renderViewTitle_proceeds (w : World) : Proceeds may renderViewTitle w := by
  refine .withSession (.bind (context_proceeds w) ?_)
  intro c w' _
  exact .bind (.orCrash _) fun _ _ _ => .pure _

end Session

end TaskBrowser
