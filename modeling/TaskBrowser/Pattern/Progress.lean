import TaskBrowser.Fault
import TaskBrowser.Pattern.Settings
import TaskBrowser.Pattern.Syntax

/-!
# Reading the text of a pattern

The text of a pattern is cut into *tokens* first, single characters and characters after a
backslash, and the tokens are read from left to right.  A `Reader` keeps what is still to read
together with what was found out about the whole pattern so far, and stops at the first fault.
-/

namespace TaskBrowser

namespace Pattern

/-- Why a text is not read as a pattern. -/
inductive ParseFault where
  /-- The text follows no rule. -/
  | malformed
  /-- The pattern cannot be used. -/
  | crash (c : PatternCrash)
deriving DecidableEq, Repr

/-- A piece of the text of a pattern. -/
inductive Token where
  /-- A character by itself. -/
  | plain (c : Char)
  /-- A character after a backslash. -/
  | escaped (c : Char)
  /-- A backslash at the very end. -/
  | dangling
deriving DecidableEq, Repr

/-- The tokens of a text. -/
def tokens : Text → List Token
  | [] => []
  | c :: t =>
      if c = '\\' then
        match t with
        | [] => [.dangling]
        | d :: rest => .escaped d :: tokens rest
      else .plain c :: tokens t

/-- How far a pattern is read. -/
structure Progress where
  /-- The tokens still to read. -/
  rest : List Token
  /-- The settings of the whole pattern. -/
  whole : Settings := { ignoreCase := true }
  /-- One more than the groups opened so far. -/
  groups : Nat := 1
  /-- The names of groups. -/
  names : List (Text × Nat) := []
  /-- The lengths of the texts of each group that is closed. -/
  closed : List (Nat × (Nat × Nat)) := []
  /-- The number of groups when the outermost look behind began, inside of one. -/
  behindFrom : Option Nat := none
  /-- The groups that choices ask about. -/
  asked : List Nat := []
  /-- Whether something is repeated. -/
  repeats : Bool := false
  /-- Whether a look behind is at texts of different lengths. -/
  uneven : Bool := false

/-- A reader of a part of a pattern. -/
abbrev Reader := StateT Progress (Except ParseFault)

/-- The text is malformed. -/
def refuse {α : Type} : Reader α := throw .malformed

/-- The next token, which stays. -/
def peek : Reader (Option Token) := do return (← get).rest.head?

/-- Passes over a token.  A backslash at the very end is found out when it comes next. -/
def advance : Reader Unit := do
  let p ← get
  let rest := p.rest.drop 1
  if rest.head? == some .dangling then refuse else set { p with rest := rest }

/-- The next token, which is passed over. -/
def take : Reader (Option Token) := do
  let t ← peek
  advance
  return t

/-- Passes over the given character if it comes next, and tells whether it did. -/
def accept (c : Char) : Reader Bool := do
  if (← peek) == some (.plain c) then
    advance
    return true
  else return false

/-- Passes over the given character, which must come next. -/
def expect (c : Char) : Reader Unit := do
  if !(← accept c) then refuse

/-- The characters with a property that come next, `n` at most. -/
def takeWhileUpTo (p : Char → Bool) : (n : Nat) → Reader Text
  | 0 => return []
  | n + 1 => do
      match ← peek with
      | some (.plain c) =>
          if p c then
            advance
            return c :: (← takeWhileUpTo p n)
          else return []
      | _ => return []

/-- The characters with a property that come next. -/
def takeAll (p : Char → Bool) : Reader Text := do takeWhileUpTo p (← get).rest.length

/-! ## Names and numbers -/

/-- The characters up to a closing character, which is passed over.  There must be one before it;
a backslash counts. -/
def nameUntil (stop : Char) : (bound : Nat) → Text → Reader Text
  | 0, _ => refuse
  | bound + 1, acc => do
      match ← take with
      | some (.plain c) =>
          if c = stop then
            if acc.isEmpty then refuse else return acc.reverse
          else nameUntil stop bound (c :: acc)
      | some (.escaped c) => nameUntil stop bound (c :: '\\' :: acc)
      | _ => refuse

/-- A name up to a closing character. -/
def name (stop : Char) : Reader Text := do nameUntil stop ((← get).rest.length + 1) []

/-- Whether a text is a name: word characters, the first of them no digit. -/
def isName : Text → Bool
  | [] => false
  | c :: t =>
      Text.isWordChar c && !Text.isDigit c &&
        t.all fun d => Text.isWordChar d && (Text.isDecimal d || !Text.isDigit d)

/-- Whether a character is one of the digits 0 to 7. -/
def isOctal (c : Char) : Bool := '0' ≤ c && c ≤ '7'

/-- Whether a character is a hexadecimal digit. -/
def isHex (c : Char) : Bool :=
  Text.isAsciiDigit c || ('a' ≤ c && c ≤ 'f') || ('A' ≤ c && c ≤ 'F')

/-- Whether a character is one of the letters a to z of either case. -/
def isAsciiLetter (c : Char) : Bool := ('a' ≤ c && c ≤ 'z') || ('A' ≤ c && c ≤ 'Z')

/-- The value of digits in a base. -/
def inBase (base : Nat) (ds : Text) : Nat :=
  ds.foldl (fun n c =>
    base * n +
      (if Text.isAsciiDigit c then c.toNat - '0'.toNat else (c.toNat ||| 0x20) - 'a'.toNat + 10)) 0

/-- Exactly `n` hexadecimal digits, which name a code point. -/
def hexCode (n : Nat) : Reader Nat := do
  let ds ← takeWhileUpTo isHex n
  let code := inBase 16 ds
  if ds.length = n && code < 0x110000 then return code else refuse

end Pattern

end TaskBrowser
