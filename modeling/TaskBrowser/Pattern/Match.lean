import TaskBrowser.Pattern.Syntax

/-!
# Finding patterns

The matcher walks over a text with a *cursor*: what lies before it, what lies after it and how
long that is, and what the groups remember.  A pattern is matched at a cursor for the sake of what
comes after it, the *continuation*: the first way to match the pattern whose end the continuation
accepts is taken, and an earlier choice is taken back when nothing after it fits.

A repetition asks for its least number of rounds first.  Beyond them it goes on only from a place
where it has not just been, so a round that takes no characters is the last one.  Rounds are
counted down from a bound that the length of the rest gives: a required round that takes nothing
leaves no more rounds to ask for than characters are left, since it could be repeated at will.
-/

namespace TaskBrowser

namespace Pattern

/-- A place in a text, and what the groups remember there. -/
structure Cursor where
  /-- The characters before the place, the nearest first. -/
  before : Text
  /-- The characters after the place. -/
  after : Text
  /-- How many characters are after the place. -/
  left : Nat
  /-- What each group remembers, the latest first. -/
  found : List (Nat × Text)

/-- The end of a match that a continuation accepts. -/
abbrev Continuation := Cursor → Option Cursor

/-- The cursor one character further, if the character passes a test. -/
def Cursor.step? (c : Cursor) (p : Char → Bool) : Option Cursor :=
  match c.after with
  | [] => none
  | a :: rest => if p a then some ⟨a :: c.before, rest, c.left - 1, c.found⟩ else none

/-- The cursor `n` characters further back, if there are as many. -/
def Cursor.back? : (n : Nat) → Cursor → Option Cursor
  | 0, c => some c
  | n + 1, c =>
      match c.before with
      | [] => none
      | b :: rest => back? n ⟨rest, b :: c.after, c.left + 1, c.found⟩

/-- The cursor after a given text, if that text follows. -/
def Cursor.follow? (same : Char → Char → Bool) : Text → Cursor → Option Cursor
  | [], c => some c
  | a :: t, c =>
      match c.step? (same a) with
      | some d => follow? same t d
      | none => none

/-- The cursor with the text since an earlier cursor remembered under a number. -/
def Cursor.remember (number : Nat) (earlier c : Cursor) : Cursor :=
  { c with found := (number, earlier.after.take (earlier.left - c.left)) :: c.found }

/-- Whether an anchor holds at a cursor. -/
def Anchor.holds (a : Anchor) (c : Cursor) : Bool :=
  match a with
  | .start => c.before.isEmpty
  | .lineStart => c.before.isEmpty || c.before.head? == some '\n'
  | .stop => c.after.isEmpty
  | .lastLineStop => c.after.isEmpty || c.after == ['\n']
  | .lineStop => c.after.isEmpty || c.after.head? == some '\n'
  | .edge negated ascii =>
      if c.before.isEmpty && c.after.isEmpty then false
      else
        let left := c.before.head?.any (Kind.word.holds ascii)
        let right := c.after.head?.any (Kind.word.holds ascii)
        (left != right) != negated

/-- Rounds beyond the required ones, as many as possible first.  `last` is how much was left at
the start of the round before. -/
def moreRounds (round : Cursor → Continuation → Option Cursor) (lazy : Bool) :
    (bound : Nat) → (most : Option Nat) → (last : Option Nat) → Cursor → Continuation →
      Option Cursor
  | 0, _, _, c, k => k c
  | bound + 1, most, last, c, k =>
      let again : Unit → Option Cursor := fun _ =>
        if most == some 0 || last == some c.left then none
        else
          round c fun d =>
            moreRounds round lazy bound (most.map (· - 1)) (some c.left) d k
      if lazy then (k c).orElse again else (again ()).orElse fun _ => k c

/-- The required rounds, and then the others. -/
def requiredRounds (round : Cursor → Continuation → Option Cursor) (rest : Cursor →
    Continuation → Option Cursor) :
    (bound : Nat) → (least : Nat) → Cursor → Continuation → Option Cursor
  | 0, _, _, _ => none
  | _ + 1, 0, c, k => rest c k
  | bound + 1, least + 1, c, k =>
      round c fun d =>
        let least :=
          if d.left = c.left then min least d.left else least
        requiredRounds round rest bound least d k

/-- Rounds of which none is taken back.  `last` is how much was left at the start of the round
before. -/
def firmRounds (round : Cursor → Option Cursor) :
    (bound : Nat) → (least : Nat) → (most : Option Nat) → (last : Option Nat) → Cursor →
      Option Cursor
  | 0, _, _, _, c => some c
  | bound + 1, least + 1, most, _, c =>
      match round c with
      | none => none
      | some d =>
          let least :=
            if d.left = c.left then min least d.left else least
          firmRounds round bound least (most.map (· - 1)) none d
  | bound + 1, 0, most, last, c =>
      if most == some 0 || last == some c.left then some c
      else
        match round c with
        | none => some c
        | some d => firmRounds round bound 0 (most.map (· - 1)) (some c.left) d

/-- The end of the first match of a pattern at a cursor whose end the continuation accepts. -/
def run : Pattern → Cursor → Continuation → Option Cursor
  | .empty, c, k => k c
  | .one test, c, k => (c.step? test.holds).bind k
  | .seq a b, c, k => a.run c fun d => b.run d k
  | .alt a b, c, k => (a.run c k).orElse fun _ => b.run c k
  | .group n a, c, k => a.run c fun d => k (c.remember n d)
  | .again n case _, c, k =>
      match c.found.lookup n with
      | none => none
      | some t => (c.follow? case.same t).bind k
  | .choice n a b, c, k => if (c.found.lookup n).isSome then a.run c k else b.run c k
  | .place anchor, c, k => if anchor.holds c then k c else none
  | .ahead negated a, c, k =>
      match a.run c some, negated with
      | some d, false => k { c with found := d.found }
      | none, true => k c
      | _, _ => none
  | .behind negated w a, c, k =>
      match (c.back? w).bind (fun b => a.run b some), negated with
      | some d, false => k { c with found := d.found }
      | none, true => k c
      | _, _ => none
  | .loop .possessive least most a, c, k =>
      (firmRounds (fun d => a.run d some) (2 * c.left + 3) least most none c).bind k
  | .loop eagerness least most a, c, k =>
      let bound := 2 * c.left + 3
      requiredRounds (fun d => a.run d)
        (fun d => moreRounds (fun e => a.run e) (eagerness == .lazy) bound
          (most.map (· - least)) none d)
        bound least c k
  | .atomic a, c, k => (a.run c some).bind k

/-- Whether a pattern is found at a place of the text or after it. -/
def foundFrom (p : Pattern) (before : Text) (left : Nat) : Text → Bool
  | [] => (p.run ⟨before, [], left, []⟩ some).isSome
  | a :: t =>
      (p.run ⟨before, a :: t, left, []⟩ some).isSome || foundFrom p (a :: before) (left - 1) t

/-- Whether a pattern is found in a text. -/
def isIn (p : Pattern) (t : Text) : Bool := p.foundFrom [] t.length t

end Pattern

end TaskBrowser
