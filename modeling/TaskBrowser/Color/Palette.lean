import TaskBrowser.Json.Whole
import TaskBrowser.Note
import TaskBrowser.Text.Case

/-!
# The palette

Lines are drawn in *pairs* of colours, one for the characters and one behind them.  A colour is a
number, and `-1` is whatever the terminal uses.  A palette hands out numbers for pairs: the number
zero stands for the terminal's own pair and is never handed out, and every other pair gets the
least number that is free.  Since pairs are never given back, the numbers in use are those from
one to the length of the list of pairs.

`Palette.parseColor` reads a colour: a number, `color` followed by up to three digits, or one of
eight names.  A number that is too large or too small counts as `-1`.
-/

namespace TaskBrowser

/-- The colour of the characters and the one behind them. -/
structure ColorPair where
  /-- The colour of the characters. -/
  fg : Int
  /-- The colour behind them. -/
  bg : Int
deriving DecidableEq, Repr

/-- The terminal's own pair. -/
def ColorPair.terminal : ColorPair := ⟨-1, -1⟩

/-- The names of colours with their numbers. -/
def colorNames : List (Text × Int) :=
  [("black", 0), ("red", 1), ("green", 2), ("yellow", 3), ("blue", 4), ("magenta", 5),
   ("cyan", 6), ("white", 7)]

/-- Pairs that are numbered. -/
structure Palette where
  /-- The numbers of pairs are below this one. -/
  capacity : Int := 256
  /-- The numbers of colours are below this one. -/
  colors : Int := 256
  /-- The pairs numbered one, two and so on. -/
  pairs : List ColorPair := []
deriving DecidableEq, Repr

namespace Palette

/-- The number of the terminal's own pair. -/
def terminalPair : Nat := 0

/-- The colours of a pair; a number that is not in use has the terminal's. -/
def content (p : Palette) (pair : Int) : ColorPair :=
  match pair with
  | .ofNat (n + 1) => p.pairs.getD n .terminal
  | _ => .terminal

/-- The number of a pair, and the palette after handing it out. -/
def allocate (p : Palette) (c : ColorPair) : Except Exhausted (Nat × Palette) :=
  match p.pairs.findIdx? (· == c) with
  | some n => .ok (n + 1, p)
  | none =>
      if (p.pairs.length + 1 : Int) < p.capacity then
        .ok (p.pairs.length + 1, { p with pairs := p.pairs ++ [c] })
      else .error ⟨c.fg, c.bg, p.capacity⟩

/-- The note of a pair that is handed out. -/
def allocationNote (pair : Nat) (c : ColorPair) : Note where
  level := .debug
  source := .colors
  message := "assigned color pair " ++ Text.ofNat pair ++ " to (" ++ Text.ofInt c.fg ++ ", " ++
    Text.ofInt c.bg ++ ")"

/-- The notes of pairs, numbered from `n` on. -/
def notesFrom (n : Nat) : List ColorPair → List Note
  | [] => []
  | c :: cs => allocationNote n c :: notesFrom (n + 1) cs

/-- The notes of the pairs handed out since an earlier palette. -/
def notesSince (earlier p : Palette) : List Note :=
  notesFrom (earlier.pairs.length + 1) (p.pairs.drop earlier.pairs.length)

/-- A colour that can be used in place of a number. -/
def checkColor (p : Palette) (color : Int) : Int :=
  if p.colors ≤ color || color < -2 then -1 else color

/-- Whether a text is a run of decimal digits, at least one. -/
def isNumber (t : Text) : Bool := !t.isEmpty && t.all Text.isDecimal

/-- The colour that a text names, if it names one. -/
def parseColor (p : Palette) (t : Text) : Except Crash (Option Int) :=
  let t := Text.lower (Text.trim t)
  let unsigned := (Text.dropLead? "-" t).getD t
  if isNumber unsigned then (Json.textInteger t).map fun n => some (p.checkColor n)
  else
    match Text.dropLead? "color" t with
    | some ds =>
        if isNumber ds && ds.length ≤ 3 then
          (Json.textInteger ds).map fun n => some (p.checkColor n)
        else .ok none
    | none => .ok ((colorNames.lookup t).map p.checkColor)

example : ((Palette.mk 2 256 []).allocate ⟨1, 2⟩).toOption.map (·.1) = some 1 := by decide
example : ((Palette.mk 1 256 []).allocate ⟨1, 2⟩).toOption.map (·.1) = none := by decide
example : ((Palette.mk 9 256 []).parseColor " Blue ").toOption = some (some 4) := by decide
example : ((Palette.mk 9 256 []).parseColor "color256").toOption = some (some (-1)) := by decide

end Palette

end TaskBrowser
