import TaskBrowser.Proofs.Color.Remembered
import TaskBrowser.Proofs.Session.Settling

/-!
# The list in the order of the sort mode

Once tasks are loaded, sorted or refreshed they are in the order of the sort mode, if the mode ranks
them, and they stay in it: what is done with the list afterwards changes at most the colour pairs
that the tasks remember, which do not count, and no step but one changes the sort mode
(`Change.ordered`).

That step is setting the variable `sort_mode`.  It changes the mode and not the list, so the list is
still in the order of the mode before, until the tasks are loaded, sorted or refreshed again.
-/

namespace TaskBrowser

open TaskBrowser.Action

/-! ## Colour pairs do not count -/

/-- Things are ranked if what they are mapped to is, by a comparison that does the same. -/
theorem Ranks.image_iff {α β : Type} {f : α → α → Except Crash Int}
    {f' : β → β → Except Crash Int} {g : α → β} {P : α → Prop}
    (h : ∀ a b, f' (g a) (g b) = f a b) :
    Ranks f' (fun b => ∃ a, P a ∧ g a = b) ↔ Ranks f P := by
  have hle (a b : α) : AtMost f' (g a) (g b) ↔ AtMost f a b := by rw [AtMost, AtMost, h]
  constructor
  · intro hranks
    constructor
    · intro a b ha hb
      have hopposed := hranks.opposed ⟨a, ha, rfl⟩ ⟨b, hb, rfl⟩
      rw [h, h] at hopposed
      exact hopposed
    · intro a b c ha hb hc hab hbc
      have htrans := hranks.trans ⟨a, ha, rfl⟩ ⟨b, hb, rfl⟩ ⟨c, hc, rfl⟩
      exact (hle a c).1 (htrans ((hle a b).2 hab) ((hle b c).2 hbc))
  · intro hranks
    constructor
    · rintro _ _ ⟨a, ha, rfl⟩ ⟨b, hb, rfl⟩
      rw [h, h]
      exact hranks.opposed ha hb
    · rintro _ _ _ ⟨a, ha, rfl⟩ ⟨b, hb, rfl⟩ ⟨c, hc, rfl⟩ hab hbc
      exact (hle a c).2 (hranks.trans ha hb hc ((hle a b).1 hab) ((hle b c).1 hbc))

theorem compareRecords_forgetPairs (mode : Text) (a b : Record) :
    compareRecords mode a.forgetPairs b.forgetPairs = compareRecords mode a b := by
  have hkey (key : SortKey) : key.compare a.forgetPairs b.forgetPairs = key.compare a b := by
    cases key <;> rfl
  induction mode with
  | nil => rfl
  | cons c mode ih =>
      rw [compareRecords, compareRecords, ih]
      cases SortKey.ofChar? c with
      | none => rfl
      | some key => simp only [hkey]

/-- The tasks are in order if they are ranked, as they are if all projects are names. -/
def InOrderIfRanked (mode : Text) (rs : List Record) : Prop :=
  (∀ r ∈ rs, r.hasNamedProject = true) ∨ Ranks (compareRecords mode) (· ∈ rs) → InOrder mode rs

theorem inOrderIfRanked_forgetPairs {mode : Text} {rs : List Record} :
    InOrderIfRanked mode (rs.map Record.forgetPairs) ↔ InOrderIfRanked mode rs := by
  have hnamed : (∀ r ∈ rs.map Record.forgetPairs, r.hasNamedProject = true) ↔
      ∀ r ∈ rs, r.hasNamedProject = true := List.forall_mem_map
  have hranks : Ranks (compareRecords mode) (· ∈ rs.map Record.forgetPairs) ↔
      Ranks (compareRecords mode) (· ∈ rs) := by
    simp only [List.mem_map]
    exact Ranks.image_iff (compareRecords_forgetPairs mode)
  have horder : InOrder mode (rs.map Record.forgetPairs) ↔ InOrder mode rs := by
    rw [InOrder, List.pairwise_map]
    simp only [compareRecords_forgetPairs]
    rfl
  rw [InOrderIfRanked, InOrderIfRanked, hnamed, hranks, horder]

theorem addRule_forgetPairs {b b' : Board} {object : ColorObject} {predicate : Option Text}
    {c : ColorPair} {n : Nat} (h : b.addRule object predicate c = .ok (n, b')) :
    b'.store.map Record.forgetPairs = b.store.map Record.forgetPairs := by
  rw [Board.addRule] at h
  split at h
  · cases h
  · cases h
    exact List.map_map

theorem removeRule_forgetPairs (b : Board) (object : ColorObject) (predicate : Option Text) :
    (b.removeRule object predicate).2.store.map Record.forgetPairs =
      b.store.map Record.forgetPairs := by
  rw [Board.removeRule]
  cases b.scheme.remove? object predicate with
  | none => rfl
  | some scheme => exact List.map_map

/-- A task in the place of one that differs in its pairs only. -/
theorem map_forgetPairs_set {rs : List Record} {position : Nat} {r r' : Record}
    (hr : rs[position]? = some r) (hsame : r'.forgetPairs = r.forgetPairs) :
    (rs.set position r').map Record.forgetPairs = rs.map Record.forgetPairs := by
  refine List.ext_getElem? fun n => ?_
  rw [List.map_set, hsame, List.getElem?_set]
  split
  next heq =>
    subst heq
    have hlt := (List.getElem?_eq_some_iff.1 hr).1
    rw [List.length_map, if_pos hlt, List.getElem?_map, hr]
    rfl
  next => rfl

namespace Session

variable {s t u : Session} {current : Option Record}

/-! ## Steps -/

/-- The list is in the order of the sort mode, if the mode ranks it. -/
def Ordered (s : Session) : Prop := InOrderIfRanked s.config.sortMode s.store

theorem Ordered.of_same (h : s.Ordered) (hmode : t.config.sortMode = s.config.sortMode)
    (hstore : t.store.map Record.forgetPairs = s.store.map Record.forgetPairs) : t.Ordered := by
  rw [Ordered, ← inOrderIfRanked_forgetPairs, hmode, hstore, inOrderIfRanked_forgetPairs]
  exact h

theorem SettlesTo.ordered (h : s.SettlesTo current u) : u.Ordered := by
  have hperm : u.store.Perm s.store := sortRecords_perm h.sorted
  intro hranks
  rw [h.config] at hranks ⊢
  refine sortRecords_inOrder h.sorted ?_
  rcases hranks with hnamed | hranks
  · exact .inl fun r hr => hnamed r (hperm.mem_iff.2 hr)
  · exact .inr (hranks.mono fun r hr => hperm.mem_iff.2 hr)

theorem Ordered.of_settled (h : s.settled current = .ok t) : t.Ordered :=
  (SettlesTo.of_settled h).ordered

theorem Ordered.set_other [Validator] {x : Setting} {v : Json} {c : Config} (h : s.Ordered)
    (hx : x ≠ .sortMode) (hset : s.config.set x v = .ok c) : Ordered { s with config := c } :=
  h.of_same (Json.text.inj (Config.value_set_other hset hx.symm)) rfl

theorem Ordered.selectUuid (h : s.Ordered) (uuid : Text) : (s.selectUuid uuid).Ordered := by
  rw [Session.selectUuid]
  cases s.store.position? uuid <;> exact h

/-- A step keeps the list in order, or puts it in order, if it does not change the sort mode
alone. -/
theorem Change.ordered [Interpreter] [Validator] {may : Entry → Prop}
    (hmay : ∀ e, may e → e.source ≠ .setting .sortMode) (hchange : Change may s t)
    (h : s.Ordered) : t.Ordered := by
  have hother {e : Entry} {x : Setting} (he : may e) (hsource : e.source = .setting x) :
      x ≠ .sortMode := by
    rintro rfl
    exact hmay e he hsource
  cases hchange with
  | notified message isError => exact h
  | versioned version => exact h
  | moved position => exact h
  | movedTo uuid => exact h.selectUuid uuid
  | found hn => exact h
  | searching text => exact h
  | filtered filter => exact h
  | loaded hfresh hsettled => exact .of_settled hsettled
  | sorted mode hsettled => exact .of_settled hsettled
  | refreshed uuid hfresh hu hsettled => exact .of_settled hsettled
  | assigned he hsource hmay hplain hset => exact h.set_other (hother hmay hsource) hset
  | reformatted he hsource hmay hformat hset hts => exact h.set_other (hother hmay hsource) hset
  | levelled level => exact h
  | ruled hrule => exact h.of_same rfl (addRule_forgetPairs hrule)
  | unruled object predicate =>
      exact h.of_same rfl (removeRule_forgetPairs s.board object predicate)
  | colored hr hpair =>
      exact h.of_same rfl (map_forgetPairs_set hr (Scheme.taskPair_forgetPairs hpair))

end Session

/-! ## Actions that put the list in order -/

namespace Action

open Session

variable {α β : Type} {x : Action α} {w : World}

/-- The action leaves the list in order if it returns. -/
abbrev Orders (x : Action α) (w : World) : Prop := Yields Ordered x w

namespace Orders

theorem of_settles {start : Session → Option Record → Prop} (h : Settles start x w) :
    Orders x w :=
  h.mono fun _ ⟨_, _, _, hsettles⟩ => hsettles.ordered

/-- A list that is in order stays so. -/
theorem of_ordered [Interpreter] [Validator] {may : Entry → Prop}
    (hmay : ∀ e, may e → e.source ≠ .setting .sortMode) (hproceeds : Proceeds may x w)
    (hw : w.session.Ordered) : Orders x w := by
  intro a w' hend
  rw [Proceeds, hend] at hproceeds
  exact Reaches.preserves hproceeds (fun _ _ => Change.ordered hmay) hw

theorem andTells {f : α → Action β} (hx : Orders x w) (hf : ∀ a, Tells (f a)) :
    Orders (x >>= f) w := by
  refine Yields.andTells hx hf fun s t hsame hs => ?_
  rw [Ordered, hsame.store, hsame.config]
  exact hs

end Orders

end Action

namespace Session

variable [Interpreter]

theorem reload_orders (w : World) : Orders reload w := .of_settles (reload_settles w)

theorem startup_orders [Validator] (w : World) : Orders startup w :=
  .after fun _ _ _ => .after fun _ _ _ => .after fun _ w' _ => reload_orders w'

/-- Something that is asked, a refresh, and a message. -/
theorem refreshAfter_orders {α : Type} (f : Client → HostAction α) (uuid message : Text)
    (w : World) : Orders (do let _ ← ask f; reloadRecord uuid; notify message false) w :=
  .after fun _ w' _ =>
    (Orders.of_settles (reloadRecord_settles uuid w')).andTells fun _ => .notify _ _

theorem toggleStarted_orders (w : World) : Orders toggleStarted w := by
  refine .after fun r w' _ => ?_
  cases hstarted : r.started with
  | true => simpa [hstarted] using refreshAfter_orders (·.stop r.uuid) r.uuid _ w'
  | false => simpa [hstarted] using refreshAfter_orders (·.start r.uuid) r.uuid _ w'

end Session

end TaskBrowser
