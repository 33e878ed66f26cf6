import TaskBrowser.Pattern.Escape
import TaskBrowser.Text.Integer

/-!
# Pieces of patterns

A sequence is read piece by piece.  A piece is a factor, a repetition of the factor before it,
settings for the whole pattern, a comment, the start of a group that holds a pattern, or the end
of the sequence.  A repetition count beyond `repetitionLimit` is a crash.
-/

namespace TaskBrowser

namespace Pattern

/-! ## Repetitions -/

/-- The least number that is no repetition count. -/
def repetitionLimit : Nat := Nat.pow 2 32 - 1

/-- A repetition count. -/
def count (ds : Text) : Reader Nat := do
  if Text.digitLimit < ds.length then throw (.crash (.tooManyDigits ds.length))
  else
    let n := inBase 10 ds
    if repetitionLimit ≤ n then throw (.crash .repetitionTooLarge) else return n

/-- The least and the greatest count after an opening brace, if the brace opens counts. -/
def counts? : Reader (Option (Nat × Option Nat)) := do
  let before ← get
  if (← peek) == some (.plain '\x7d') then return none
  let least ← takeAll Text.isAsciiDigit
  let most ← if ← accept ',' then takeAll Text.isAsciiDigit else pure least
  if ← accept '\x7d' then
    let n ← if least.isEmpty then pure 0 else count least
    if most.isEmpty then return some (n, none)
    else
      let m ← count most
      if m < n then refuse else return some (n, some m)
  else
    StateT.set before
    return none

/-- The least and the greatest count of a repetition, given its first character, or nothing if
that stands for itself. -/
def repetition? (c : Char) : Reader (Option (Nat × Option Nat)) := do
  match c with
  | '?' => return some (0, some 1)
  | '*' => return some (0, none)
  | '+' => return some (1, none)
  | _ => counts?

/-- How eager a repetition is, from the character after it. -/
def eagerness : Reader Eagerness := do
  if ← accept '?' then return .lazy
  else if ← accept '+' then return .possessive
  else return .greedy

/-- What was read last in a sequence, as far as a repetition after it is concerned. -/
inductive Factor where
  /-- Something that can be repeated. -/
  | item (p : Pattern)
  /-- A place, which cannot be repeated. -/
  | place (p : Pattern)
  /-- A repetition, which cannot be repeated again. -/
  | loop (p : Pattern)

/-- The pattern that was read. -/
def Factor.pattern : Factor → Pattern
  | .item p | .place p | .loop p => p

/-- The factors of a sequence with the last one repeated.  The factors are in reverse. -/
def repeatLast (least : Nat) (most : Option Nat) : List Factor → Reader (List Factor)
  | .item p :: factors => do
      let e ← eagerness
      modify fun s => { s with repeats := true }
      return .loop (.loop e least most p) :: factors
  | _ => refuse

/-! ## Settings in the text -/

/-- The settings turned off by the letters from `c` on, up to a colon. -/
def settingsOff : (bound : Nat) → Settings → Char → Reader Settings
  | 0, _, _ => refuse
  | bound + 1, off, c => do
      match flag? c with
      | none => refuse
      | some s =>
          if s.ascii || s.full || s.unrepeated then refuse
          else
            let off := off.union s
            match ← take with
            | some (.plain ':') => return off
            | some (.plain d) => settingsOff bound off d
            | _ => refuse

/-- The settings turned on by the letters from `c` on, and the character after them. -/
def settingsOn : (bound : Nat) → Settings → Char → Reader (Settings × Char)
  | 0, _, _ => refuse
  | bound + 1, on, c => do
      match flag? c with
      | none => refuse
      | some s =>
          let on := on.union s
          if on.ascii && on.full then refuse
          else
            match ← take with
            | some (.plain d) =>
                if d = ')' || d = '-' || d = ':' then return (on, d) else settingsOn bound on d
            | _ => refuse

/-- The settings of a group from the letter `c` on: those of the whole pattern, or those turned on
and off for one group. -/
def settings (c : Char) : Reader (Settings ⊕ (Settings × Settings)) := do
  let bound := (← get).rest.length + 1
  let (on, stop) ← if c = '-' then pure ({}, '-') else settingsOn bound {} c
  if stop = ')' then return .inl on
  else if on.unrepeated then refuse
  else if stop = ':' then return .inr (on, {})
  else
    match ← take with
    | some (.plain d) =>
        let off ← settingsOff bound {} d
        if on.overlap off then refuse else return .inr (on, off)
    | _ => refuse

/-! ## Pieces -/

/-- Passes over a comment inside a pattern, up to the end of its line. -/
def skipLine : (bound : Nat) → Reader PUnit
  | 0 => return
  | bound + 1 => do
      match ← take with
      | none | some (.plain '\n') => return
      | _ => skipLine bound

/-- Passes over a comment in brackets. -/
def skipComment : (bound : Nat) → Reader PUnit
  | 0 => refuse
  | bound + 1 => do
      match ← take with
      | none => refuse
      | some (.plain ')') => return
      | _ => skipComment bound

/-- Opens a group and gives its number. -/
def openGroup (name : Option Text) : Reader Nat := do
  let p ← get
  match name with
  | none => StateT.set { p with groups := p.groups + 1 }
  | some n =>
      if (p.names.lookup n).isSome then refuse
      else StateT.set { p with groups := p.groups + 1, names := (n, p.groups) :: p.names }
  return p.groups

/-- Closes a group. -/
def closeGroup (n : Nat) (p : Pattern) : Reader PUnit :=
  modify fun s => { s with closed := (n, p.width) :: s.closed }

/-- The group that a choice asks about, from the text that names it. -/
def askedGroup (t : Text) : Reader Nat := do
  let p ← get
  if isName t then
    match p.names.lookup t with
    | none => refuse
    | some n => return n
  else
    match Text.readInteger t with
    | .ok (.ofNat n) =>
        if n = 0 || Nat.pow 2 30 - 1 ≤ n then refuse
        else
          StateT.set { p with asked := n :: p.asked }
          return n
    | _ => refuse

/-- A group that holds a pattern. -/
inductive Opening where
  /-- A group that remembers, with its name. -/
  | remembered (name : Option Text)
  /-- A group that does not, with the settings that it turns on and off. -/
  | grouped (on off : Settings)
  /-- An atomic group. -/
  | firm
  /-- A look ahead or behind. -/
  | look (back negated : Bool)
  /-- A choice by a group. -/
  | asked

/-- The next piece of a sequence. -/
inductive Piece where
  /-- The end of the sequence. -/
  | stop
  /-- A blank or a comment. -/
  | nothing
  /-- A factor. -/
  | factor (f : Factor)
  /-- A repetition of what comes before it. -/
  | repeated (least : Nat) (most : Option Nat)
  /-- Settings for the whole pattern. -/
  | whole (on : Settings)
  /-- The start of a group that holds a pattern. -/
  | opening (o : Opening)

/-- A group by its name, after `(?P`. -/
def readNamed (s : Settings) : Reader Piece := do
  if ← accept '<' then
    let n ← name '>'
    if isName n then return .opening (.remembered (some n)) else refuse
  else if ← accept '=' then
    let n ← name ')'
    let p ← get
    match p.names.lookup n, isName n with
    | some g, true =>
        let r ← reference s g
        return .factor (.item r)
    | _, _ => refuse
  else refuse

/-- The start of a look behind, after `(?<`. -/
def readBehind : Reader Piece := do
  if ← accept '=' then return .opening (.look true false)
  else if ← accept '!' then return .opening (.look true true)
  else refuse

/-- A group that starts with settings, the first letter being `c`. -/
def readSettings (c : Char) : Reader Piece := do
  match ← settings c with
  | .inl on => return .whole on
  | .inr (on, off) => return .opening (.grouped on off)

/-- A comment in brackets. -/
def readComment : Reader Piece := do
  let p ← get
  skipComment (p.rest.length + 1)
  return .nothing

/-- What follows an opening bracket and a question mark. -/
def readExtension (s : Settings) : Reader Piece := do
  match ← take with
  | some (.plain c) =>
      if c = 'P' then readNamed s
      else if c = ':' then return .opening (.grouped {} {})
      else if c = '#' then readComment
      else if c = '=' then return .opening (.look false false)
      else if c = '!' then return .opening (.look false true)
      else if c = '<' then readBehind
      else if c = '(' then return .opening .asked
      else if c = '>' then return .opening .firm
      else readSettings c
  | _ => refuse

/-- What follows an opening bracket. -/
def readOpening (s : Settings) : Reader Piece := do
  if ← accept '?' then readExtension s else return .opening (.remembered none)

/-- A repetition that starts with `c`, or `c` itself. -/
def readRepetition (s : Settings) (c : Char) : Reader Piece := do
  match ← repetition? c with
  | none => return .factor (.item (literal s c.toNat))
  | some (least, most) => return .repeated least most

/-- Whether a character is skipped in a spaced pattern. -/
def isPatternBlank (c : Char) : Bool := c == ' ' || ('\t' ≤ c && c ≤ '\r')

/-- Whether a character starts a repetition. -/
def startsRepetition (c : Char) : Bool := c == '*' || c == '+' || c == '?' || c == '\x7b'

/-- The piece that starts with a character that has a meaning of its own, or none. -/
def readPlain (s : Settings) (c : Char) : Reader Piece := do
  if c = '[' then
    let p ← set s
    return .factor (.item p)
  else if c = '(' then readOpening s
  else if startsRepetition c then readRepetition s c
  else if c = '.' then return .factor (.item (.one (.any s.lineFeeds)))
  else if c = '^' then return .factor (.place (.place (if s.lines then .lineStart else .start)))
  else if c = '$' then
    return .factor (.place (.place (if s.lines then .lineStop else .lastLineStop)))
  else return .factor (.item (literal s c.toNat))

/-- What an escape means as a factor. -/
def Factor.ofEscape : Pattern → Factor
  | .place a => .place (.place a)
  | p => .item p

/-- The next piece of a sequence. -/
def readPiece (s : Settings) : Reader Piece := do
  match ← peek with
  | none => return .stop
  | some .dangling => refuse
  | some (.escaped c) =>
      advance
      let p ← escape s c
      return .factor (.ofEscape p)
  | some (.plain c) =>
      if c = '|' || c = ')' then return .stop
      else
        advance
        if s.spaced && isPatternBlank c then return .nothing
        else if s.spaced && c = '#' then
          let p ← get
          skipLine p.rest.length
          return .nothing
        else readPlain s c

end Pattern

end TaskBrowser
