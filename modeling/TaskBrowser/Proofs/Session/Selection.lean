import TaskBrowser.Files.Tree
import TaskBrowser.Platform
import TaskBrowser.Proofs.Session.Reachable

/-!
# The selection stays in the list

The selected position is at most that of the last task, and zero if there are no tasks.  A step
either moves the selection into the list or keeps both the selection and the number of tasks:
whatever loads, sorts or refreshes tasks restores the selection at its end, and changing the
colour rules or drawing a task leaves as many tasks as there were.

A crash in the middle of a load may leave a shorter list than the selection was in, so the
sessions here are those that are reached without crashes.
-/

namespace TaskBrowser

namespace Session

variable {s t : Session}

/-- The selected position is in the list, or zero in an empty one. -/
def InList (s : Session) : Prop := s.selected ≤ s.store.length - 1

/-! ## Moving the selection -/

theorem clamp_le (count : Nat) (position : Int) : clamp count position ≤ count - 1 := by
  rw [clamp]
  omega

theorem select_inList (s : Session) (position : Int) : (s.select position).InList :=
  clamp_le s.store.length position

theorem InList.of_lt {n : Nat} (hn : n < s.store.length) :
    InList { s with selected := n } := Nat.le_sub_one_of_lt hn

theorem InList.selectUuid (h : s.InList) (uuid : Text) : (s.selectUuid uuid).InList := by
  rw [Session.selectUuid]
  cases hposition : s.store.position? uuid with
  | none => exact h
  | some n =>
      obtain ⟨hn, -, -⟩ := List.findIdx?_eq_some_iff_getElem.1 hposition
      exact .of_lt hn

/-- Whatever was selected before, what is restored is in the list. -/
theorem restore_inList (s : Session) (current : Option Record) : (s.restore current).InList :=
  select_inList _ _

theorem settled_inList {current : Option Record} (ht : s.settled current = .ok t) : t.InList := by
  rw [settled] at ht
  cases hsorted : sortRecords s.config.sortMode s.store with
  | error c =>
      rw [hsorted] at ht
      cases ht
  | ok sorted =>
      rw [hsorted] at ht
      cases ht
      exact restore_inList _ current

/-! ## Keeping the selection -/

/-- As many tasks as before and the same selection. -/
theorem InList.of_length_eq (h : s.InList) (hselected : t.selected = s.selected)
    (hlength : t.store.length = s.store.length) : t.InList := by
  rw [InList, hselected, hlength]
  exact h

theorem addRule_length {b b' : Board} {object : ColorObject} {predicate : Option Text}
    {c : ColorPair} {n : Nat} (h : b.addRule object predicate c = .ok (n, b')) :
    b'.store.length = b.store.length := by
  rw [Board.addRule] at h
  cases hadd : b.scheme.add object predicate c with
  | error e =>
      rw [hadd] at h
      cases h
  | ok found =>
      rw [hadd] at h
      cases h
      exact List.length_map _

theorem removeRule_length (b : Board) (object : ColorObject) (predicate : Option Text) :
    (b.removeRule object predicate).2.store.length = b.store.length := by
  rw [Board.removeRule]
  cases b.scheme.remove? object predicate with
  | none => rfl
  | some scheme => exact List.length_map _

theorem create_inList {c : Config} {h : Host} {w : World} (hw : create c h = (.ok (), w)) :
    w.session.InList := by
  obtain ⟨b, ts, -, -, hs⟩ := create_eq_ok hw
  rw [InList, hs]
  exact Nat.zero_le _

/-! ## Steps and runs -/

variable [Interpreter] [Validator]

theorem Change.inList {may : Entry → Prop} (hchange : Change may s t) (h : s.InList) :
    t.InList := by
  cases hchange with
  | notified message isError => exact h
  | versioned version => exact h
  | moved position => exact select_inList s position
  | movedTo uuid => exact h.selectUuid uuid
  | found hn => exact .of_lt hn
  | searching text => exact h
  | filtered filter => exact h
  | loaded hfresh hsettled => exact settled_inList hsettled
  | sorted mode hsettled => exact settled_inList hsettled
  | refreshed uuid hfresh hu hsettled => exact settled_inList hsettled
  | assigned he hsource hmay hplain hset => exact h
  | reformatted he hsource hmay hformat hset hts => exact h
  | levelled level => exact h
  | ruled hrule => exact h.of_length_eq rfl (addRule_length hrule)
  | unruled object predicate =>
      exact h.of_length_eq rfl (removeRule_length s.board object predicate)
  | colored hr hpair => exact h.of_length_eq rfl List.length_set

theorem Reachable.inList (hs : Reachable Foreseen s) : s.InList := by
  refine hs.invariant (fun _ _ _ => create_inList) (fun _ _ => Change.inList) ?_
  rintro ⟨c, hc⟩
  exact absurd rfl (hc c)

/-- In every session that is reached by operations that return or fail, whatever the task program
answers, the selected position is one of a task, or zero if there are no tasks; so only an empty
list has no selected task. -/
theorem reachable_selected (hs : Reachable Foreseen s) :
    (s.store ≠ [] → s.selected < s.store.length) ∧ (s.store = [] → s.selected = 0) ∧
      (s.selectedRecord = none ↔ s.store = []) := by
  have h : s.selected ≤ s.store.length - 1 := hs.inList
  have hlt : s.store ≠ [] → s.selected < s.store.length := by
    intro hne
    have := List.length_pos_iff.2 hne
    omega
  refine ⟨hlt, ?_, ?_⟩
  · intro hempty
    rw [hempty] at h
    exact Nat.le_zero.1 h
  · rw [selectedRecord, List.getElem?_eq_none_iff]
    constructor
    · intro hout
      by_contra hne
      exact absurd (hlt hne) (Nat.not_lt.2 hout)
    · intro hempty
      rw [hempty]
      exact Nat.zero_le _

end Session

namespace Session

/-- A host whose task program exports two tasks, does what it is told, and then exports one. -/
def shrinkingHost : Host where
  files := fun _ _ => FileTree.system []
  now := .universal 2024 6 1 9 30
  answers := [
    .ended ("\x7b\"uuid\":\"a\",\"description\":\"b\"\x7d,\n" ++
      "\x7b\"uuid\":\"c\",\"description\":\"d\"\x7d" : String) "" 0,
    .notRunnable, .ended "" "" 0, .ended "\x7b\"uuid\":\"a\",\"description\":\"b\"\x7d" "" 0]

/-- A new session on the host of two tasks. -/
def shrinking : World := (create { commandFile := .ofText "rc" } shrinkingHost).2

/-- Two tasks are loaded and the last one is selected by a line far too large; undoing fails, and
completing the selected task leaves only the other one. -/
def shrunk : World :=
  runAll [.reload, .command "set selected_line 99" false, .undo, .complete] shrinking

/-- The task that is left is selected. -/
theorem reachable_selected_shrunk :
    Reachable Foreseen shrunk.session ∧ shrunk.session.store.length = 1 ∧
      shrunk.session.selected < shrunk.session.store.length := by
  have hnew : create { commandFile := .ofText "rc" } shrinkingHost = (.ok (), shrinking) :=
    Prod.ext (by rfl) rfl
  have hs : Reachable Foreseen shrunk.session :=
    .runAll_of_allEnd _ (.created hnew) (by decide +kernel)
  have hlength : shrunk.session.store.length = 1 := by decide +kernel
  have hne : shrunk.session.store ≠ [] := List.length_pos_iff.1 (by omega)
  exact ⟨hs, hlength, (reachable_selected hs).1 hne⟩

end Session

end TaskBrowser
