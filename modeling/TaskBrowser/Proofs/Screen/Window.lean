import Mathlib
import TaskBrowser.Screen.Window

/-!
# The selected line is in view

A window is asked to show lists of any length, with any line selected and room for any number of
lines, one request after another.  Between the requests it keeps its offset only.

An offset *suits* a request if the selected line is in view at it, no room is left above the first
line, and none below the last one that lines above could fill.  Those offsets are an interval, and
`Window.move` goes to the nearest of them (`move_suits`, `move_nearest`), so it stays where it is
whenever that suits.  What holds of one request from any offset holds of every request of a run
(`run_shows`).
-/

namespace TaskBrowser

namespace Window

/-- A list of which a line is selected, and the number of lines that there is room for. -/
structure Request where
  /-- The position of the selected line. -/
  selected : Int
  /-- The number of lines. -/
  count : Int
  /-- The number of lines that there is room for. -/
  room : Int
  /-- The selected line is in the list. -/
  selected_nonneg : 0 ≤ selected
  /-- The selected line is in the list. -/
  selected_lt : selected < count
deriving DecidableEq

namespace Request

/-- The offset to which the window moves. -/
def moved (v : Request) (offset : Int) : Int := move offset v.selected v.count v.room

/-- The positions that the window shows at an offset. -/
def shown (v : Request) (offset : Int) : List Nat := positions offset v.count v.room

/-- How many lines are in view. -/
def length (v : Request) : Int := min (max v.room 1) v.count

/-- The selected line is in view at an offset, and no room is left above the first line or, as far
as there are lines to fill it, below the last one. -/
structure Suits (v : Request) (offset : Int) : Prop where
  nonneg : 0 ≤ offset
  le_last : offset ≤ max (v.count - max v.room 1) 0
  le_selected : offset ≤ v.selected
  selected_lt : v.selected < offset + max v.room 1

/-- The least offset at which the selected line is in view. -/
def lowest (v : Request) : Int := max 0 (v.selected - max v.room 1 + 1)

/-- The greatest offset at which the selected line is in view and the room is filled. -/
def highest (v : Request) : Int := min v.selected (max (v.count - max v.room 1) 0)

variable (v : Request) {offset : Int}

/-- The offsets that suit are those from the lowest to the highest. -/
theorem suits_iff {v : Request} : v.Suits offset ↔ v.lowest ≤ offset ∧ offset ≤ v.highest := by
  rw [lowest, highest, max_le_iff, le_min_iff]
  constructor
  · rintro ⟨hnonneg, hlast, hselected, hlt⟩
    exact ⟨⟨hnonneg, by omega⟩, hselected, hlast⟩
  · rintro ⟨⟨hnonneg, hlt⟩, hselected, hlast⟩
    exact ⟨hnonneg, hlast, hselected, by omega⟩

/-- Some offset suits, because the selected line is in the list. -/
theorem lowest_le_highest : v.lowest ≤ v.highest := by
  have hnonneg := v.selected_nonneg
  have hlt := v.selected_lt
  rw [lowest, highest]
  omega

/-- To follow the selected line and then to stay within the list is to go to the nearest offset from
the lowest to the highest. -/
theorem moved_eq (offset : Int) : v.moved offset = max v.lowest (min offset v.highest) := by
  have hnonneg := v.selected_nonneg
  have hlt := v.selected_lt
  rw [moved, move, follow, height, lowest, highest]
  by_cases habove : v.selected < offset
  · rw [if_pos habove]
    omega
  · by_cases hbelow : offset + max v.room 1 ≤ v.selected
    · rw [if_neg habove, if_pos hbelow]
      omega
    · rw [if_neg habove, if_neg hbelow]
      omega

/-- The window moves to an offset that suits. -/
theorem move_suits (offset : Int) : v.Suits (v.moved offset) := by
  rw [suits_iff, moved_eq]
  exact ⟨le_max_left _ _, max_le v.lowest_le_highest (min_le_right _ _)⟩

/-- No offset that suits is nearer than the one to which the window moves. -/
theorem move_nearest (offset : Int) {other : Int} (h : v.Suits other) :
    |v.moved offset - offset| ≤ |other - offset| := by
  obtain ⟨hlow, hhigh⟩ := suits_iff.1 h
  have hsome := v.lowest_le_highest
  rw [moved_eq]
  rcases lt_or_ge offset v.lowest with hbelow | hbelow
  · rw [min_eq_left (hbelow.le.trans hsome), max_eq_left hbelow.le, abs_of_pos (sub_pos.2 hbelow)]
    exact (sub_le_sub_right hlow offset).trans (le_abs_self _)
  · rcases lt_or_ge v.highest offset with habove | habove
    · rw [min_eq_right habove.le, max_eq_right hsome, abs_sub_comm, abs_sub_comm other,
        abs_of_pos (sub_pos.2 habove)]
      exact (sub_le_sub_left hhigh offset).trans (le_abs_self _)
    · rw [min_eq_left habove, max_eq_right hbelow, sub_self, abs_zero]
      exact abs_nonneg _

/-- The window stays at an offset that suits. -/
theorem move_of_suits (h : v.Suits offset) : v.moved offset = offset := by
  have hnear := v.move_nearest offset h
  rw [sub_self, abs_zero] at hnear
  exact sub_eq_zero.1 (abs_nonpos_iff.1 hnear)

variable {v}

/-- At an offset that suits, as many lines are in view as there is room for, all of the list if it
is shorter. -/
theorem Suits.stop_eq (h : v.Suits offset) :
    stop offset v.count v.room = offset + v.length := by
  obtain ⟨hnonneg, hlast, hselected, hlt⟩ := h
  have hcount := v.selected_lt
  rw [stop, height, length]
  omega

theorem Suits.add_length_le (h : v.Suits offset) : offset + v.length ≤ v.count := by
  obtain ⟨hnonneg, hlast, hselected, hlt⟩ := h
  have hcount := v.selected_lt
  rw [length]
  omega

/-- They stand below each other from the offset on. -/
theorem Suits.shown_eq (h : v.Suits offset) :
    v.shown offset = List.range' offset.toNat v.length.toNat := by
  rw [shown, positions, h.stop_eq, add_sub_cancel_left, List.range'_eq_map_range]

theorem Suits.selected_mem (h : v.Suits offset) : v.selected.toNat ∈ v.shown offset := by
  rw [h.shown_eq, List.mem_range'_1, length]
  obtain ⟨hnonneg, hlast, hselected, hlt⟩ := h
  have hcount := v.selected_lt
  omega

end Request

/-! ## Runs -/

/-- A request, and the offset that the window kept before it and after it. -/
structure Step where
  /-- The request. -/
  request : Request
  /-- The offset before it. -/
  before : Int
  /-- The offset after it. -/
  after : Int
deriving DecidableEq

/-- What a window at an offset does for requests one after another. -/
def run (offset : Int) : List Request → List Step
  | [] => []
  | v :: vs => ⟨v, offset, v.moved offset⟩ :: run (v.moved offset) vs

/-- Each step of a run moves the window. -/
theorem after_of_mem_run {offset : Int} {vs : List Request} {a : Step} (h : a ∈ run offset vs) :
    a.after = a.request.moved a.before := by
  induction vs generalizing offset with
  | nil => cases h
  | cons v vs ih =>
      rcases List.mem_cons.1 h with rfl | h
      · rfl
      · exact ih h

/-- Whatever a window is asked to show, one request after another, and wherever it begins: each
time it shows positions of the list that stand below each other, as many as there is room for, at
least one, or all if there are fewer, and the selected one is among them.  If the offset before will
do, it is kept, and otherwise none that will do is nearer to it than the one after. -/
theorem run_shows (offset : Int) (vs : List Request) (a : Step) (ha : a ∈ run offset vs) :
    let v := a.request
    let length := min (max v.room 1) v.count
    stop a.after v.count v.room = a.after + length ∧
      positions a.after v.count v.room = List.range' a.after.toNat length.toNat ∧
      0 ≤ a.after ∧ a.after + length ≤ v.count ∧
      v.selected.toNat ∈ positions a.after v.count v.room ∧
      (0 ≤ a.before → a.before ≤ max (v.count - max v.room 1) 0 → a.before ≤ v.selected →
        v.selected < a.before + max v.room 1 → a.after = a.before) ∧
      ∀ other, v.Suits other → |a.after - a.before| ≤ |other - a.before| := by
  obtain ⟨v, before, after⟩ := a
  obtain rfl : after = v.moved before := after_of_mem_run ha
  have h := v.move_suits before
  exact ⟨h.stop_eq, h.shown_eq, h.nonneg, h.add_length_le, h.selected_mem,
    fun hnonneg hlast hselected hlt => v.move_of_suits ⟨hnonneg, hlast, hselected, hlt⟩,
    fun other hother => v.move_nearest before hother⟩

/-- A window of ten lines that was moved down to line twelve of fifty, and is asked for line five
then, stays where it is. -/
theorem run_shows_backInside :
    let v : Request := ⟨5, 50, 10, by decide, by decide⟩
    let a : Step := ⟨v, 3, 3⟩
    a ∈ run 0 [⟨12, 50, 10, by decide, by decide⟩, v] ∧
      positions a.after 50 10 = List.range' 3 10 ∧ 5 ∈ positions a.after 50 10 ∧
      (v.selected < a.before + max v.room 1 → a.after = a.before) := by
  intro v a
  have ha : a ∈ run 0 [⟨12, 50, 10, by decide, by decide⟩, v] := by decide
  obtain ⟨-, hpositions, -, -, hselected, hkept, -⟩ := run_shows _ _ a ha
  exact ⟨ha, hpositions, hselected, hkept (by decide) (by decide) (by decide)⟩

end Window

end TaskBrowser
