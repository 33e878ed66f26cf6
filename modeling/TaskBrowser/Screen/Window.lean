import TaskBrowser.Text.Basic

/-!
# The window of a list

A list that is longer than the screen is shown through a window, which moves only as far as it
must to keep the selected line in view and to leave no room below the last line.
-/

namespace TaskBrowser

namespace Window

/-- The height of a window: there is always room for one line. -/
def height (h : Int) : Int := max h 1

/-- An offset at which the selected line is in view. -/
def follow (offset selected height : Int) : Int :=
  if selected < offset then selected
  else if offset + height ≤ selected then selected - height + 1
  else offset

/-- The offset of the window for a selection, the length of the list and the height, given the
offset before. -/
def move (offset selected count h : Int) : Int :=
  max 0 (min (follow offset selected (height h)) (max (count - height h) 0))

/-- The position after the last line of a window at an offset. -/
def stop (offset count h : Int) : Int := min (offset + height h) count

/-- The positions of the lines in a window at an offset. -/
def positions (offset count h : Int) : List Nat :=
  (List.range (stop offset count h - offset).toNat).map (offset.toNat + ·)

example : move 0 7 10 5 = 3 := by decide
example : move 8 9 10 5 = 5 := by decide
example : positions 3 10 5 = [3, 4, 5, 6, 7] := by decide

end Window

end TaskBrowser
