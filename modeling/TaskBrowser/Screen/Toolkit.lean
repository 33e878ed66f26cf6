import TaskBrowser.Screen.Style

/-!
# The widget toolkit

What a part of the screen shows is a text with a style for all of it and *spans* of characters with
styles of their own.  Such texts are made and extended by a `Toolkit`, which may drop characters
that would move the cursor or ring the bell, and which decides what colours it can draw.

Of the toolkit only what is documented is relied on: the characters that are not dropped follow
each other, a text that is appended in a style has a span of that style, line feeds and the
printing characters of ASCII stay, and a text counts as true if it has characters.
-/

namespace TaskBrowser

/-- A stretch of characters with a style. -/
structure StyledSpan where
  /-- The position of its first character. -/
  first : Nat
  /-- The position after its last character. -/
  stop : Nat
  /-- The style. -/
  style : Style
deriving DecidableEq, Repr

/-- A text with styles. -/
structure StyledText where
  /-- The characters. -/
  text : Text := []
  /-- The style of all of them. -/
  style : Style := {}
  /-- The spans, in the order in which they were added. -/
  spans : List StyledSpan := []
deriving DecidableEq, Repr

/-- The toolkit that the screen is drawn with. -/
class Toolkit where
  /-- Why the colour of a name cannot be drawn, if it cannot. -/
  refusal : (name : Text) → Option Crash
  /-- Whether a character is dropped. -/
  drops : Char → Bool
  /-- A text in one style. -/
  ofText : Text → Style → StyledText
  /-- A text followed by another in a style. -/
  append : StyledText → Text → Style → StyledText
  /-- Whether a text counts as true. -/
  holds : StyledText → Bool
  drops_lineFeed : drops '\n' = false
  drops_printing (c : Char) (hfirst : ' ' ≤ c) (hlast : c ≤ '~') : drops c = false
  ofText_text (t : Text) (style : Style) : (ofText t style).text = t.filter (!drops ·)
  ofText_spans (t : Text) (style : Style) : (ofText t style).spans = []
  append_text (s : StyledText) (t : Text) (style : Style) :
    (append s t style).text = s.text ++ t.filter (!drops ·)
  append_spans (s : StyledText) {t : Text} (ht : t ≠ []) (style : Style) :
    (append s t style).spans =
      s.spans ++ if style.isPlain then []
        else [⟨s.text.length, s.text.length + (t.filter (!drops ·)).length, style⟩]
  holds_eq (s : StyledText) : holds s = !s.text.isEmpty

variable [Toolkit]

namespace Style

/-- A colour by its name, if it can be drawn. -/
def drawable (name : Option Text) : Except Crash (Option Text) :=
  match name.bind Toolkit.refusal with
  | some c => .error c
  | none => .ok name

/-- The style of a pair of colours. -/
def ofPair (c : ColorPair) : Except Crash Style :=
  match drawable (colorName c.fg) with
  | .error e => .error e
  | .ok fg =>
      match drawable (colorName c.bg) with
      | .error e => .error e
      | .ok bg => .ok ⟨false, fg, bg⟩

end Style

namespace StyledText

/-- The text followed by a line in a style, on a line of its own unless the text is empty. -/
def appendLine (s : StyledText) (t : Text) (style : Style) : StyledText :=
  let s := if Toolkit.holds s then Toolkit.append s ['\n'] {} else s
  Toolkit.append s t style

end StyledText

end TaskBrowser
