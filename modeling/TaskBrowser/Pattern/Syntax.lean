import TaskBrowser.Pattern.Letter

/-!
# Patterns

A pattern describes texts.  It is built from tests of one character, sequences and alternatives,
repetitions, groups that remember what they found, references to what a group found, looks at the
text ahead and behind, and anchors.  How case, line ends and alphabets are treated is decided when
a pattern is read, so every part carries its own settings.

`Pattern.width` gives the least and the greatest length of the texts that a part describes.
-/

namespace TaskBrowser

namespace Pattern

/-- A member of a set of characters. -/
inductive Member where
  /-- The code points from `first` to `last`. -/
  | span (first last : Nat)
  /-- The characters of a kind, or all others. -/
  | kind (k : Kind) (negated : Bool)
deriving DecidableEq, Repr

/-- A test of one character. -/
inductive Test where
  /-- Any character, line feeds only if `lineFeeds`. -/
  | any (lineFeeds : Bool)
  /-- The characters of a set, or all others. -/
  | oneOf (negated : Bool) (members : List Member) (case : Case) (ascii : Bool)
deriving DecidableEq, Repr

/-- Whether a character counts as a member of a set. -/
def Member.holds (m : Member) (case : Case) (ascii : Bool) (c : Char) : Bool :=
  match m with
  | .span first last => (case.codes c).any fun n => first ≤ n && n ≤ last
  | .kind k negated => k.holds ascii c != negated

/-- Whether a character passes a test. -/
def Test.holds (t : Test) (c : Char) : Bool :=
  match t with
  | .any lineFeeds => lineFeeds || c != '\n'
  | .oneOf negated members case ascii => members.any (·.holds case ascii c) != negated

/-- A condition on the place between two characters. -/
inductive Anchor where
  /-- The start of the text. -/
  | start
  /-- The start of a line. -/
  | lineStart
  /-- The end of the text. -/
  | stop
  /-- The end of the text, or the place before a line feed that ends it. -/
  | lastLineStop
  /-- The end of a line. -/
  | lineStop
  /-- A place with a word character on one side only, or any other place, of a text that is not
  empty. -/
  | edge (negated ascii : Bool)
deriving DecidableEq, Repr

/-- How eager a repetition is. -/
inductive Eagerness where
  /-- As often as possible. -/
  | greedy
  /-- As seldom as possible. -/
  | lazy
  /-- As often as possible, and never less often. -/
  | possessive
deriving DecidableEq, Repr

end Pattern

/-- A pattern. -/
inductive Pattern where
  /-- The empty text. -/
  | empty
  /-- One character. -/
  | one (test : Pattern.Test)
  /-- A text of the first pattern followed by one of the second. -/
  | seq (first second : Pattern)
  /-- A text of the first pattern or else of the second. -/
  | alt (first second : Pattern)
  /-- A text to be remembered under a number. -/
  | group (number : Nat) (body : Pattern)
  /-- The text remembered under a number, with its least and greatest length. -/
  | again (number : Nat) (case : Pattern.Case) (width : Nat × Nat)
  /-- The first pattern if a text is remembered under a number, or else the second. -/
  | choice (number : Nat) (present absent : Pattern)
  /-- A place. -/
  | place (anchor : Pattern.Anchor)
  /-- A place before a text of the pattern, or before none. -/
  | ahead (negated : Bool) (body : Pattern)
  /-- A place after a text of the pattern, or after none, all its texts being `width` long. -/
  | behind (negated : Bool) (width : Nat) (body : Pattern)
  /-- Texts of the pattern in a row. -/
  | loop (eagerness : Pattern.Eagerness) (least : Nat) (most : Option Nat) (body : Pattern)
  /-- The first text of the pattern that is found, and no other. -/
  | atomic (body : Pattern)
deriving Repr

namespace Pattern

/-- A length beyond every text. -/
def boundless : Nat := Nat.pow 2 64

/-- The least and the greatest length of the texts of a pattern; lengths beyond `boundless` count
as that. -/
def width : Pattern → Nat × Nat
  | .empty | .place _ | .ahead .. | .behind .. => (0, 0)
  | .one _ => (1, 1)
  | .seq a b => (min (a.width.1 + b.width.1) boundless, min (a.width.2 + b.width.2) boundless)
  | .alt a b => (min a.width.1 b.width.1, max a.width.2 b.width.2)
  | .group _ a | .atomic a => a.width
  | .again _ _ w => w
  | .choice _ a b => (min a.width.1 b.width.1, max a.width.2 b.width.2)
  | .loop _ least most a =>
      (min (a.width.1 * least) boundless,
       match most with
       | some n => min (a.width.2 * n) boundless
       | none => if a.width.2 = 0 then 0 else boundless)

/-- The patterns of a list in sequence. -/
def sequence : List Pattern → Pattern
  | [] => .empty
  | [p] => p
  | p :: q :: ps => .seq p (sequence (q :: ps))

/-- The patterns of a list as alternatives. -/
def alternatives : List Pattern → Pattern
  | [] => .empty
  | [p] => p
  | p :: q :: ps => .alt p (alternatives (q :: ps))

end Pattern

end TaskBrowser
