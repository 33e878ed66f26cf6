import TaskBrowser.Config
import TaskBrowser.Interpreter
import TaskBrowser.Pattern.Parser
import TaskBrowser.Screen.Toolkit
import TaskBrowser.Text.Case
import TaskBrowser.Text.Integer

/-!
# The platform

The interpreter, the validator and the toolkit that the program is run with.  The program itself
takes any of them.

The validator makes whole numbers of texts, of truth values and of numbers without a fraction, and
truth values of some words and of the numbers zero and one.  It names its reasons.
-/

namespace TaskBrowser

/-! ## The interpreter -/

instance : Interpreter where
  compile t := (Pattern.parse t).map Pattern.isIn
  sourceDepth := 319
  nesting _ := 990

/-! ## The validator -/

namespace Config

/-- A text. -/
def readText : Json → Except Text Text
  | .text t => .ok t
  | _ => .error "string_type"

/-- A path. -/
def readPath : Json → Except Text FilePath
  | .text t => .ok (.ofText t)
  | _ => .error "path_type"

/-- Whether a text is digits from 0 to 9, with single underscores between them. -/
def isDigits (t : Text) : Bool :=
  (Text.pieces '_' t).all fun ds => !ds.isEmpty && ds.all Text.isAsciiDigit

/-- A text without a fraction of zeros. -/
def withoutZeros (t : Text) : Text :=
  match t.dropWhile (· != '.') with
  | _ :: zeros =>
      if !zeros.isEmpty && zeros.all (· == '0') then t.takeWhile (· != '.') else t
  | [] => t

/-- A whole number written as a text. -/
def readIntegerText (t : Text) : Except Text Int :=
  let t := Text.trim t
  let negative := t.head? == some '-'
  let digits := withoutZeros (if negative || t.head? == some '+' then t.drop 1 else t)
  if Text.digitLimit < t.length then .error "int_parsing_size"
  else if isDigits digits then
    let n : Int := Int.ofNat (Text.digitsValue 0 (digits.filter (· != '_')))
    .ok (if negative then -n else n)
  else .error "int_parsing"

/-- A whole number. -/
def readInteger : Json → Except Text Int
  | .bool b => .ok (if b then 1 else 0)
  | .int n => .ok n
  | .real x =>
      match x.truncated? with
      | none => .error "finite_number"
      | some n =>
          if !x.isWhole then .error "int_from_float"
          else if n.natAbs < Nat.pow 2 63 then .ok n
          else .error "int_parsing_size"
  | .text t => readIntegerText t
  | _ => .error "int_type"

/-- The words for true. -/
def trueWords : List Text := ["1", "on", "t", "true", "y", "yes"]

/-- The words for false. -/
def falseWords : List Text := ["0", "off", "f", "false", "n", "no"]

/-- A truth value. -/
def readTruth : Json → Except Text Bool
  | .bool b => .ok b
  | .int 0 => .ok false
  | .int 1 => .ok true
  | .int _ => .error "bool_parsing"
  | .real x =>
      if x.isWhole && x.truncated? == some 0 then .ok false
      else if x.isWhole && x.truncated? == some 1 then .ok true
      else .error "bool_type"
  | .text t =>
      if trueWords.contains (Text.lower t) then .ok true
      else if falseWords.contains (Text.lower t) then .ok false
      else .error "bool_parsing"
  | _ => .error "bool_type"

end Config

instance : Validator where
  text := Config.readText
  path := Config.readPath
  integer := Config.readInteger
  truth := Config.readTruth
  text_text _ := rfl

/-! ## The toolkit -/

namespace TextWidget

/-- Whether a character moves the cursor or rings the bell. -/
def isControl (c : Char) : Bool :=
  c == '\x07' || c == '\x08' || c == '\x0b' || c == '\x0c' || c == '\r'

/-- The characters that are shown. -/
def visible (t : Text) : Text := t.filter (!isControl ·)

/-- The text followed by another in a style; an empty text and a plain style make no span. -/
def append (s : StyledText) (t : Text) (style : Style) : StyledText :=
  let more := visible t
  let start := s.text.length
  { s with
    text := s.text ++ more
    spans :=
      if t.isEmpty || style.isPlain then s.spans
      else s.spans ++ [⟨start, start + more.length, style⟩] }

/-- Why the colour of a name cannot be drawn: a number of more than three digits names none, and
one beyond 255 is too large. -/
def refusal (name : Text) : Option Crash :=
  match Text.dropLead? "color(" name with
  | none => none
  | some rest =>
      let digits := rest.takeWhile Text.isAsciiDigit
      if 3 < digits.length then some (.colorUnknown name)
      else if 255 < Text.digitsValue 0 digits then some (.colorTooLarge name)
      else none

end TextWidget

instance : Toolkit where
  refusal := TextWidget.refusal
  drops := TextWidget.isControl
  ofText t style := ⟨TextWidget.visible t, style, []⟩
  append := TextWidget.append
  holds s := !s.text.isEmpty
  drops_lineFeed := by decide
  drops_printing c hfirst _ := by
    have hne {d : Char} (hd : ¬ ' ' ≤ d) : c ≠ d := fun hcd => hd (hcd ▸ hfirst)
    simp only [TextWidget.isControl, Bool.or_eq_false_iff, beq_eq_false_iff_ne]
    exact ⟨⟨⟨⟨hne (by decide), hne (by decide)⟩, hne (by decide)⟩, hne (by decide)⟩,
      hne (by decide)⟩
  ofText_text _ _ := rfl
  ofText_spans _ _ := rfl
  append_text _ _ _ := rfl
  append_spans s t ht style := by
    have hne : t.isEmpty = false := by simpa using ht
    rw [TextWidget.append, hne, Bool.false_or]
    cases style.isPlain
    · rfl
    · exact (List.append_nil _).symm
  holds_eq _ := rfl

end TaskBrowser
