import TaskBrowser.Text.Printable

/-!
# Quoted texts

A quoted text stands between two single quotes, or between two double quotes when it holds a
single quote and no double one.  Inside, the backslash and the quote in use are escaped, line
feeds, carriage returns and tabs have short escapes, and every other character that does not show
is written by its code in hexadecimal, in two, four or eight digits.
-/

namespace TaskBrowser

namespace Text

/-- The character of a hexadecimal digit. -/
def hexChar (d : Nat) : Char :=
  if d < 10 then Char.ofNat ('0'.toNat + d) else Char.ofNat ('a'.toNat + (d - 10))

/-- The last `w` hexadecimal digits of a number. -/
def hexDigits : (w n : Nat) → Text
  | 0, _ => []
  | w + 1, n => hexDigits w (n / 16) ++ [hexChar (n % 16)]

/-- A character inside quotes of the given kind. -/
def quotedChar (quote c : Char) : Text :=
  if c = '\\' || c = quote then ['\\', c]
  else if c = '\n' then ['\\', 'n']
  else if c = '\r' then ['\\', 'r']
  else if c = '\t' then ['\\', 't']
  else if isPrintable c then [c]
  else if c.toNat < 0x100 then '\\' :: 'x' :: hexDigits 2 c.toNat
  else if c.toNat < 0x10000 then '\\' :: 'u' :: hexDigits 4 c.toNat
  else '\\' :: 'U' :: hexDigits 8 c.toNat

/-- The quote that a text is put between. -/
def quoteFor (t : Text) : Char := if t.contains '\'' && !t.contains '"' then '"' else '\''

/-- A text between quotes. -/
def quoted (t : Text) : Text :=
  quoteFor t :: t.flatMap (quotedChar (quoteFor t)) ++ [quoteFor t]

example : quoted "it's" = "\"it's\"" := by decide
example : quoted "a\nb\x07" = "'a\\nb\\x07'" := by decide
example : quoted "'\"" = "'\\'\"'" := by decide

end Text

end TaskBrowser
