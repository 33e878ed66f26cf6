import TaskBrowser.CommandLine.Switch
import TaskBrowser.Program

/-!
# Usage and help

The usage line names every switch, and the help text explains them.  Both are broken into lines
at a width.  The parts of the usage line are kept whole, and stand below each other after the name
of the program if the width leaves room for that, and otherwise below the name.

An explanation is broken at spaces, and stands in a column of its own; a word that is longer than
the column is broken where the column ends.
-/

namespace TaskBrowser

namespace CommandLine

/-! ## Filling lines -/

/-- Parts on lines with spaces between them.  A part starts a new line if it would reach beyond
the width and the line has a part already; `used` are the characters used on the line so far, and
`indent` those used on a new line. -/
def fillParts (width : Int) (indent used : Nat) (line : List Text) : List Text → List Text
  | [] => if line.isEmpty then [] else [Text.join " " line]
  | p :: ps =>
      if width < ((used + 1 + p.length : Nat) : Int) && !line.isEmpty then
        Text.join " " line :: fillParts width indent (indent + 1 + p.length) [p] ps
      else fillParts width indent (used + 1 + p.length) (line ++ [p]) ps

/-- The leading chunks that fit into a width, and the others. -/
def fitting : (room : Nat) → List Text → List Text × List Text
  | _, [] => ([], [])
  | room, c :: cs =>
      if c.length ≤ room then
        let (taken, rest) := fitting (room - c.length) cs
        (c :: taken, rest)
      else ([], c :: cs)

/-- The chunks of one line and those after it.  A chunk that no line has room for fills up the
line. -/
def cutLine (width : Nat) (chunks : List Text) : List Text × List Text :=
  match fitting width chunks with
  | (taken, c :: rest) =>
      if width < c.length then
        let room := width - taken.flatten.length
        (taken ++ [c.take room], c.drop room :: rest)
      else (taken, c :: rest)
  | (taken, []) => (taken, [])

/-- Whether a chunk is a space or nothing. -/
def isGap (chunk : Text) : Bool := chunk.all (· == ' ')

/-- The chunks of a line without a gap at its end. -/
def withoutLastGap (chunks : List Text) : List Text :=
  if chunks.getLast?.any isGap then chunks.dropLast else chunks

/-- The lines of chunks; `measure` bounds the number of lines. -/
def breakChunks (width : Nat) : (measure : Nat) → List Text → List Text
  | 0, _ => []
  | _, [] => []
  | measure + 1, chunks =>
      let (taken, rest) := cutLine width chunks
      let rest := if rest.head?.any isGap then rest.drop 1 else rest
      (withoutLastGap taken).flatten :: breakChunks width measure rest

/-- The lines of a text of words with single spaces between them. -/
def breakLines (width : Nat) (t : Text) : List Text :=
  breakChunks width (t.length + 1) ((Text.pieces ' ' t).intersperse [' '])

/-! ## The usage line -/

/-- A spelling with the name of the value. -/
def withValue (s : Switch) (spelling : Text) : Text :=
  match s.valueName? with
  | none => spelling
  | some v => spelling ++ " " ++ v

/-- A switch in the usage line. -/
def usagePart (s : Switch) : Text := "[" ++ withValue s (s.spellings.headD []) ++ "]"

/-- What stands in front of the usage line. -/
def usageLead : Text := "usage: "

/-- The lines of the usage line after the lead, and how far they are indented. -/
def usageLines (width : Int) : Nat × List Text :=
  let parts := Switch.all.map usagePart
  let lead := usageLead.length
  let name := lead + Program.name.length
  let whole := Text.join " " (Program.name :: parts)
  if ((lead + whole.length : Nat) : Int) ≤ width then (0, [whole])
  else if (4 * name : Int) ≤ 3 * width then
    (name + 1, fillParts width name (lead - 1) [] (Program.name :: parts))
  else (lead, Program.name :: fillParts width (lead - 1) (lead - 1) [] parts)

/-- The usage line for a terminal of a number of columns. -/
def usage (columns : Int) : Text :=
  let (indent, lines) := usageLines (columns - 2)
  usageLead ++ Text.join ('\n' :: Text.padRight indent []) lines ++ "\n"

/-! ## The help text -/

/-- What the program is. -/
def description : Text := "ncurses-style interface for taskwarrior"

/-- All spellings of a switch in the help text. -/
def invocation (s : Switch) : Text := Text.join ", " (s.spellings.map (withValue s))

/-- The column of the explanations. -/
def explanationColumn (width : Int) : Nat := (min 24 (max (width - 20) 4)).toNat

/-- The lines about a switch. -/
def switchLines (width : Int) (s : Switch) : List Text :=
  let column := explanationColumn width
  let lines := breakLines (max (width - column) 11).toNat s.explanation
  let indented := lines.map (Text.padLeft column [] ++ ·)
  let title : Text := "  " ++ invocation s
  if title.length + 2 ≤ column then
    (Text.padRight column title ++ lines.headD []) :: indented.drop 1
  else title :: indented

/-- The help text for a terminal of a number of columns. -/
def help (columns : Int) : Text :=
  usage columns ++ "\n" ++ description ++ "\n\noptions:\n" ++
    (Switch.all.flatMap (switchLines (columns - 2))).flatMap (· ++ ['\n'])

/-- What is told about a command line that cannot be read. -/
def usageFaultText (columns : Int) (f : UsageFault) : Text :=
  usage columns ++ Program.name ++ ": error: " ++ f.message ++ "\n"

end CommandLine

end TaskBrowser
