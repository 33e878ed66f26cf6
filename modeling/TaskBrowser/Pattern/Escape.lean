import TaskBrowser.Pattern.Progress
import TaskBrowser.Text.Word

/-!
# Escapes and sets

What follows a backslash, inside a set and outside: a code point, a kind of characters, a place,
or what a group remembers.  A set lists characters, kinds and spans between brackets; the closing
bracket counts as a character if it comes first.
-/

namespace TaskBrowser

namespace Pattern

/-! ## Escapes -/

/-- The code point that a letter after a backslash stands for. -/
def controlCode? : Char → Option Nat
  | 'a' => some 0x07
  | 'b' => some 0x08
  | 'f' => some 0x0c
  | 'n' => some 0x0a
  | 'r' => some 0x0d
  | 't' => some 0x09
  | 'v' => some 0x0b
  | '\\' => some 0x5c
  | _ => none

/-- The kind of characters that a letter after a backslash stands for. -/
def kindOf? : Char → Option Member
  | 'd' => some (.kind .digit false)
  | 'D' => some (.kind .digit true)
  | 's' => some (.kind .blank false)
  | 'S' => some (.kind .blank true)
  | 'w' => some (.kind .word false)
  | 'W' => some (.kind .word true)
  | _ => none

/-- The place that a letter after a backslash stands for. -/
def placeOf? (s : Settings) : Char → Option Anchor
  | 'A' => some .start
  | 'Z' => some .stop
  | 'b' => some (.edge false s.ascii)
  | 'B' => some (.edge true s.ascii)
  | _ => none

/-- A code point by its number after a backslash, or a character that needs none. -/
def codeEscape (c : Char) : Reader Nat := do
  match c with
  | 'x' => hexCode 2
  | 'u' => hexCode 4
  | 'U' => hexCode 8
  | c => if isAsciiLetter c || Text.isAsciiDigit c then refuse else return c.toNat

/-- One code point under settings. -/
def literal (s : Settings) (code : Nat) : Pattern :=
  .one (.oneOf false [.span code code] s.case s.ascii)

/-- What a character after a backslash stands for inside a set. -/
def setEscape (c : Char) : Reader Member := do
  match controlCode? c, kindOf? c with
  | some code, _ => return .span code code
  | none, some m => return m
  | none, none =>
      if isOctal c then
        let code := inBase 8 (c :: (← takeWhileUpTo isOctal 2))
        if 0o377 < code then refuse else return .span code code
      else
        let code ← codeEscape c
        return .span code code

/-- The group of a number, if a reference to it may stand here: it is closed, and not opened in
the look behind around the reference. -/
def referable (n : Nat) : Reader (Nat × Nat) := do
  let p ← get
  match p.closed.lookup n, p.behindFrom with
  | some w, none => return w
  | some w, some k => if n < k then return w else refuse
  | none, _ => refuse

/-- What a group remembers. -/
def reference (s : Settings) (n : Nat) : Reader Pattern := do
  return .again n s.case (← referable n)

/-- The number after a backslash, whose first digit is `c`: three octal digits name a code point,
any other number a group. -/
def numberEscape (s : Settings) (c : Char) : Reader Pattern := do
  match ← takeWhileUpTo Text.isAsciiDigit 1 with
  | [] => reference s (inBase 10 [c])
  | ds =>
      let ds := c :: ds
      let third ← if ds.all isOctal then takeWhileUpTo isOctal 1 else pure []
      if third.isEmpty then reference s (inBase 10 ds)
      else
        let code := inBase 8 (ds ++ third)
        if 0o377 < code then refuse else return literal s code

/-- What a character after a backslash stands for outside of sets. -/
def escape (s : Settings) (c : Char) : Reader Pattern := do
  match placeOf? s c, kindOf? c, controlCode? c with
  | some a, _, _ => return .place a
  | none, some m, _ => return .one (.oneOf false [m] s.case s.ascii)
  | none, none, some code => return literal s code
  | none, none, none =>
      if c = '0' then return literal s (inBase 8 (← takeWhileUpTo isOctal 2))
      else if Text.isAsciiDigit c then numberEscape s c
      else return literal s (← codeEscape c)

/-! ## Sets -/

/-- The member that a token of a set stands for. -/
def setToken : Token → Reader Member
  | .plain c => return .span c.toNat c.toNat
  | .escaped c => setEscape c
  | .dangling => refuse

/-- The members of a set from the next one on, up to the closing bracket, which is a member if it
comes first. -/
def setMembers : (bound : Nat) → List Member → Reader (List Member)
  | 0, _ => refuse
  | bound + 1, members => do
      match ← take with
      | none => refuse
      | some t =>
          if t == .plain ']' && !members.isEmpty then return members.reverse
          else
            let first ← setToken t
            if ← accept '-' then
              match ← take with
              | none => refuse
              | some u =>
                  if u == .plain ']' then
                    return (.span '-'.toNat '-'.toNat :: first :: members).reverse
                  else
                    match first, ← setToken u with
                    | .span a _, .span b _ =>
                        if b < a then refuse else setMembers bound (.span a b :: members)
                    | _, _ => refuse
            else setMembers bound (first :: members)

/-- A set, after its opening bracket. -/
def set (s : Settings) : Reader Pattern := do
  let negated ← accept '^'
  let members ← setMembers ((← get).rest.length + 1) []
  return .one (.oneOf negated members s.case s.ascii)

end Pattern

end TaskBrowser
