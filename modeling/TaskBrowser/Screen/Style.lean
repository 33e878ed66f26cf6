import TaskBrowser.Color.Palette

/-!
# Styles

A style is how a text is drawn: a colour for the characters, one behind them, and whether the text
is dim.  The first eight colours have names and the others are written with their number; a colour
below zero is the terminal's own and is not written.
-/

namespace TaskBrowser

/-- How a text is drawn. -/
structure Style where
  /-- Whether it is dim. -/
  dim : Bool := false
  /-- The name of the colour of the characters. -/
  fg : Option Text := none
  /-- The name of the colour behind them. -/
  bg : Option Text := none
deriving DecidableEq, Repr

namespace Style

/-- The name of a colour, if it is not the terminal's own. -/
def colorName (color : Int) : Option Text :=
  match color with
  | .negSucc _ => none
  | .ofNat n =>
      match colorNames[n]? with
      | some (name, _) => some name
      | none => some ("color(" ++ Text.ofNat n ++ ")")

/-- The words of a style. -/
def toText (s : Style) : Text :=
  let behind : Option Text := s.bg.map fun b => ("on " : Text) ++ b
  Text.join " " ((if s.dim then [("dim" : Text)] else []) ++ s.fg.toList ++ behind.toList)

/-- Whether a style changes nothing. -/
def isPlain (s : Style) : Bool := !s.dim && s.fg.isNone && s.bg.isNone

example : toText ⟨false, some "blue", some "black"⟩ = "blue on black" := by decide
example : colorName 12 = some ("color(12)" : Text) := by decide

end Style

end TaskBrowser
