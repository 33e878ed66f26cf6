import TaskBrowser.Text.Basic

/-!
# Shell words

An argument line is cut into words the way a shell does it.  Blanks separate words.  Between
single quotes every character stands for itself; between double quotes a backslash takes the
double quote and the backslash literally and stands for itself before any other character;
elsewhere a backslash takes the next character literally.  A quoted part may be empty and still
makes a word.  A quote that is not closed, or a backslash at the very end, makes the line
unreadable.

`ShellWords.join` writes words as a line, with quotes only around words that need them.
-/

namespace TaskBrowser

namespace ShellWords

/-- Where the scanner stands. -/
inductive Mode where
  /-- Between words. -/
  | between
  /-- In a word, outside of quotes. -/
  | bare
  /-- Between two quotes of the given kind. -/
  | inside (quote : Char)
  /-- After a backslash, in a word outside of quotes. -/
  | escape
  /-- After a backslash, between double quotes. -/
  | escapeInside
deriving DecidableEq

/-- Whether a character separates words. -/
def isSeparator (c : Char) : Bool := c == ' ' || c == '\t' || c == '\r' || c == '\n'

/-- Whether a character is a quote. -/
def isQuote (c : Char) : Bool := c == '\'' || c == '"'

/-- The mode after a character that does not end a word, and what it adds to the word.  The
characters of the word are in reverse. -/
def step (mode : Mode) (word : Text) (c : Char) : Mode × Text :=
  match mode with
  | .between | .bare =>
      if isQuote c then (.inside c, word)
      else if c = '\\' then (.escape, word)
      else (.bare, c :: word)
  | .inside q =>
      if c = q then (.bare, word)
      else if c = '\\' && q = '"' then (.escapeInside, word)
      else (.inside q, c :: word)
  | .escape => (.bare, c :: word)
  | .escapeInside => (.inside '"', if c = '"' || c = '\\' then c :: word else c :: '\\' :: word)

/-- The words of the rest of a line, in a mode and with the reverse of the word so far. -/
def splitFrom (mode : Mode) (word : Text) : Text → Option (List Text)
  | [] =>
      match mode with
      | .between => some []
      | .bare => some [word.reverse]
      | _ => none
  | c :: t =>
      if isSeparator c then
        match mode with
        | .between => splitFrom .between [] t
        | .bare => (splitFrom .between [] t).map (word.reverse :: ·)
        | _ => splitFrom (step mode word c).1 (step mode word c).2 t
      else splitFrom (step mode word c).1 (step mode word c).2 t

/-- The words of a line, if it can be read. -/
def split (t : Text) : Option (List Text) := splitFrom .between [] t

/-- Whether a character needs no quotes around the word it is in. -/
def isSafe (c : Char) : Bool :=
  ('a' ≤ c && c ≤ 'z') || ('A' ≤ c && c ≤ 'Z') || ('0' ≤ c && c ≤ '9') ||
    ("_@%+=:,./-" : Text).contains c

/-- A word as a shell reads it back. -/
def quote (t : Text) : Text :=
  if t.isEmpty then "''"
  else if t.all isSafe then t
  else "'" ++ Text.replaceChar '\'' "'\"'\"'" t ++ "'"

/-- A line of words. -/
def join (ws : List Text) : Text := Text.join " " (ws.map quote)

example : split "add 'a b'\"c\\\"d\" e\\ f" = some (["add", "a bc\"d", "e f"] : List Text) := by
  decide
example : split "'' x" = some (["", "x"] : List Text) := by decide
example : split "it's" = none := by decide
example : split "a \"b\\c\"" = some (["a", "b\\c"] : List Text) := by decide
example : join ["task", "it's", ""] = "task 'it'\"'\"'s' ''" := by decide

end ShellWords

end TaskBrowser
