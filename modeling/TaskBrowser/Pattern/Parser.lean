import TaskBrowser.Pattern.Match
import TaskBrowser.Pattern.Piece

/-!
# Reading patterns

A pattern is written as a text.  Most characters stand for themselves; the others are
`. ^ $ * + ? [ ] ( ) |`, an opening brace before counts, and a backslash with what follows it.
Settings hold for the whole pattern when they stand at its very start, and for one group
otherwise.  A pattern that is read ignores case unless it says so.

A text that follows no rule is *malformed*.  Two alphabets for a whole pattern are a crash.  All
of this is found out in the order of the text, except for a look behind at texts of different
lengths, which counts only once the whole text is read.
-/

namespace TaskBrowser

namespace Pattern

/-- The settings inside of a group. -/
def Opening.settings (o : Opening) (s : Settings) : Settings :=
  match o with
  | .grouped on off => s.within on off
  | _ => s

/-- What opening a group does before its pattern is read: the number of a group that remembers,
and the outermost look behind. -/
def Opening.enter (o : Opening) : Reader (Nat × Option Nat) := do
  let p ← get
  match o with
  | .remembered name =>
      let n ← openGroup name
      return (n, p.behindFrom)
  | .look true _ =>
      modify fun p => { p with behindFrom := some (p.behindFrom.getD p.groups) }
      return (0, p.behindFrom)
  | _ => return (0, p.behindFrom)

/-- The pattern of a group, from the pattern inside of it, after the closing bracket. -/
def Opening.leave (o : Opening) (number : Nat) (outside : Option Nat) (p : Pattern) :
    Reader Pattern := do
  modify fun q => { q with behindFrom := outside }
  expect ')'
  match o with
  | .remembered _ =>
      closeGroup number p
      return .group number p
  | .firm => return .atomic p
  | .look false negated => return .ahead negated p
  | .look true negated =>
      let (least, most) := p.width
      modify fun q =>
        { q with uneven := q.uneven || least != most || decide (Nat.pow 2 32 ≤ least) }
      return .behind negated least p
  | _ => return p

/-- The group that a choice asks about, after its opening brackets. -/
def readAsked : Reader Nat := do
  let t ← name ')'
  let n ← askedGroup t
  let p ← get
  if p.behindFrom.isSome then
    let _ ← referable n
  return n

mutual

/-- Alternatives, up to a closing bracket or the end.  `outer` says that no group is around, and
`found` are the alternatives so far in reverse. -/
def readAlternatives (bound : Nat) (s : Settings) (outer : Bool) (found : List Pattern) :
    Reader Pattern := do
  match bound with
  | 0 => refuse
  | bound + 1 =>
      let next ← readSequence bound s (outer && found.isEmpty) []
      if ← accept '|' then
        let p ← get
        readAlternatives bound (if outer then p.whole else s) outer (next :: found)
      else return alternatives (next :: found).reverse

/-- A sequence, given its factors so far in reverse.  `first` says that it is the very first one of
the whole pattern. -/
def readSequence (bound : Nat) (s : Settings) (first : Bool) (factors : List Factor) :
    Reader Pattern := do
  match bound with
  | 0 => refuse
  | bound + 1 =>
      let piece ← readPiece s
      match piece with
      | .stop => return sequence (factors.reverse.map Factor.pattern)
      | .nothing => readSequence bound s first factors
      | .factor f => readSequence bound s first (f :: factors)
      | .repeated least most =>
          let factors ← repeatLast least most factors
          readSequence bound s first factors
      | .whole on =>
          if first && factors.isEmpty then
            modify fun p => { p with whole := p.whole.union on }
            let p ← get
            readSequence bound p.whole first factors
          else refuse
      | .opening .asked =>
          let n ← readAsked
          let present ← readSequence bound s false []
          let more ← accept '|'
          let absent ← if more then readSequence bound s false [] else pure .empty
          expect ')'
          readSequence bound s first (.item (.choice n present absent) :: factors)
      | .opening o =>
          let (number, outside) ← o.enter
          let inside ← readAlternatives bound (o.settings s) false []
          let p ← o.leave number outside inside
          readSequence bound s first (.item p :: factors)

end

/-- A whole pattern. -/
def readWhole : Reader Pattern := do
  let start ← get
  let p ← readAlternatives (2 * start.rest.length + 4) start.whole true []
  let s ← get
  if s.whole.ascii && s.whole.full then throw (.crash .incompatibleFlags)
  else if !s.rest.isEmpty then refuse
  else if s.asked.any (s.groups ≤ ·) then refuse
  else if s.uneven || (s.whole.unrepeated && s.repeats) then refuse
  else return p

/-- The pattern that a text stands for, ignoring case unless it says so. -/
def parse (t : Text) : Except ParseFault Pattern :=
  let ts := tokens t
  if ts == [.dangling] then .error .malformed
  else (readWhole.run { rest := ts }).map (·.1)

/-- Whether the pattern that a text stands for is found in another text, for the tests below. -/
def finds (pattern t : Text) : Option Bool := (parse pattern).toOption.map (·.isIn t)

example : finds "^b(.)\\1+" "Baaa" = some true := by decide +kernel
example : finds "(?-i:b)[^x-z]$" "ab!\n" = some true := by decide +kernel
example : finds "a\x7b2,3\x7d?c" "ac" = some false := by decide +kernel
example : finds "*a" "a" = none := by decide +kernel
example : finds "(?<=a|bc)d" "ad" = none := by decide +kernel

end Pattern

end TaskBrowser
