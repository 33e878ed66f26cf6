/-!
# Text

A *text* is a list of characters.  Lengths and widths count characters, so every width rule of a
task line is a statement about list lengths, and every scanner is a recursion on the list.  A
string literal stands for the text of its characters.

The first part cuts and joins texts: the first characters up to a bound that may be negative
(`Text.upTo`), the parts before and after a separator (`Text.splitAt?`), the pieces between the
occurrences of a character (`Text.pieces`).  The second part fills a text up to a width with
spaces, on the right (`Text.padRight`) or on the left (`Text.padLeft`).  The third writes whole
numbers in decimal.

Three laws tie the parts together: filling reaches the width or leaves a longer text alone
(`Text.length_padRight`, `Text.length_padLeft`), and the parts found at a separator give the text
back (`Text.splitAt?_eq_some`).
-/

namespace TaskBrowser

/-- A text is a list of characters. -/
abbrev Text := List Char

/-- A string literal stands for the text of its characters. -/
instance : Coe String Text := ⟨String.toList⟩

namespace Text

/-! ## Cutting and joining -/

/-- The first `n` characters; a negative `n` drops that many characters from the end. -/
def upTo (n : Int) (t : Text) : Text :=
  match n with
  | .ofNat k => t.take k
  | .negSucc k => t.take (t.length - (k + 1))

/-- The text after a leading `p`, if it starts with `p`. -/
def dropLead? : (p : Text) → (t : Text) → Option Text
  | [], t => some t
  | _ :: _, [] => none
  | a :: p, b :: t => if a = b then dropLead? p t else none

/-- Whether `t` starts with `p`. -/
def startsWith (t p : Text) : Bool := p.isPrefixOf t

/-- The parts before and after the first occurrence of a separator. -/
def splitAt? (sep : Text) : Text → Option (Text × Text)
  | [] => if sep.isEmpty then some ([], []) else none
  | c :: t =>
      match dropLead? sep (c :: t) with
      | some rest => some ([], rest)
      | none => (splitAt? sep t).map fun (before, after) => (c :: before, after)

/-- The pieces of a text between the occurrences of a character, one more than occurrences. -/
def pieces (sep : Char) : Text → List Text
  | [] => [[]]
  | c :: t =>
      if c = sep then [] :: pieces sep t
      else
        match pieces sep t with
        | [] => [[c]]
        | p :: ps => (c :: p) :: ps

/-- The texts of a list with a separator between each two. -/
def join (sep : Text) : List Text → Text
  | [] => []
  | [t] => t
  | t :: u :: ts => t ++ sep ++ join sep (u :: ts)

/-- The text without the trailing characters for which `p` holds. -/
def dropRightWhile (p : Char → Bool) (t : Text) : Text :=
  (t.reverse.dropWhile p).reverse

/-- Each occurrence of a character replaced by a text. -/
def replaceChar (c : Char) (by_ : Text) (t : Text) : Text :=
  t.flatMap fun d => if d = c then by_ else [d]

/-- Code-point order of texts: a text comes before its extensions. -/
def compare : Text → Text → Ordering
  | [], [] => .eq
  | [], _ :: _ => .lt
  | _ :: _, [] => .gt
  | a :: t, b :: u =>
      if a.toNat < b.toNat then .lt else if b.toNat < a.toNat then .gt else compare t u

/-! ## Filling up to a width -/

/-- A text filled up to `n` characters with spaces on its right. -/
def padRight (n : Nat) (t : Text) : Text := t ++ List.replicate (n - t.length) ' '

/-- A text filled up to `n` characters with spaces on its left. -/
def padLeft (n : Nat) (t : Text) : Text := List.replicate (n - t.length) ' ' ++ t

/-! ## Whole numbers -/

/-- The character of a decimal digit. -/
def digitChar (d : Nat) : Char := Char.ofNat ('0'.toNat + d % 10)

/-- The decimal digits of a number, most significant first; the bound on the number of digits
is the recursion's own measure. -/
def digitsUpTo : (bound : Nat) → Nat → Text → Text
  | 0, _, acc => acc
  | bound + 1, n, acc =>
      if n < 10 then digitChar n :: acc else digitsUpTo bound (n / 10) (digitChar n :: acc)

/-- A natural number in decimal, without leading zeros. -/
def ofNat (n : Nat) : Text := digitsUpTo (n.log2 + 1) n []

/-- An integer in decimal, a minus sign in front of a negative one. -/
def ofInt : Int → Text
  | .ofNat n => ofNat n
  | .negSucc n => '-' :: ofNat (n + 1)

/-- A number in decimal, filled with zeros on the left up to `w` digits. -/
def zeroFilled (w n : Nat) : Text :=
  let ds := ofNat n
  List.replicate (w - ds.length) '0' ++ ds

/-! ## Laws -/

@[simp] theorem length_padRight (n : Nat) (t : Text) : (padRight n t).length = max n t.length := by
  simp only [padRight, List.length_append, List.length_replicate]
  omega

@[simp] theorem length_padLeft (n : Nat) (t : Text) : (padLeft n t).length = max n t.length := by
  simp only [padLeft, List.length_append, List.length_replicate]
  omega

theorem dropLead?_eq_some {p t rest : Text} (h : dropLead? p t = some rest) : t = p ++ rest := by
  induction p generalizing t with
  | nil => simpa [dropLead?] using h
  | cons a p ih =>
    cases t with
    | nil => simp [dropLead?] at h
    | cons b t =>
      simp only [dropLead?] at h
      split at h
      · next hab => simp [hab, ih h]
      · simp at h

/-- The parts found at a separator give the text back. -/
theorem splitAt?_eq_some {sep t before after : Text} (h : splitAt? sep t = some (before, after)) :
    t = before ++ sep ++ after := by
  induction t generalizing before with
  | nil =>
    simp only [splitAt?] at h
    split at h
    · next he => simp_all
    · simp at h
  | cons c t ih =>
    simp only [splitAt?] at h
    split at h
    · next rest hr =>
      simp only [Option.some.injEq, Prod.mk.injEq] at h
      obtain ⟨rfl, rfl⟩ := h
      simpa using dropLead?_eq_some hr
    · simp only [Option.map_eq_some_iff, Prod.exists, Prod.mk.injEq] at h
      obtain ⟨b, a, hs, rfl, rfl⟩ := h
      simp [ih hs]

example : ofNat 0 = "0" := by decide
example : ofInt (-1905) = "-1905" := by decide
example : pieces ',' "a,,b," = (["a", "", "b", ""] : List Text) := by decide
example : splitAt? "$>" "a$$>b$>" = some (("a$" : Text), ("b$>" : Text)) := by decide
example : upTo (-2) "abc" = "a" := by decide

end Text

end TaskBrowser
