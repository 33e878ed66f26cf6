import TaskBrowser.Pattern.Letter

/-!
# Settings of patterns

Letters inside a pattern turn settings on and off: `i` for case, `m` for line anchors, `s` for line
feeds, `x` for blanks and comments inside the pattern, `a` and `u` for the alphabet, and `t` for a
pattern without repetitions.  Settings hold for the whole pattern or for one group.
-/

namespace TaskBrowser

namespace Pattern

/-- The settings of a part of a pattern. -/
structure Settings where
  /-- Case is ignored. -/
  ignoreCase : Bool := false
  /-- Anchors hold at every line. -/
  lines : Bool := false
  /-- Any character includes the line feed. -/
  lineFeeds : Bool := false
  /-- Blanks and comments are skipped. -/
  spaced : Bool := false
  /-- Kinds of characters are taken from the first 128 characters. -/
  ascii : Bool := false
  /-- Kinds of characters are taken from all characters. -/
  full : Bool := false
  /-- Repetitions are refused. -/
  unrepeated : Bool := false
deriving DecidableEq, Repr

/-- All settings of either of two. -/
def Settings.union (s t : Settings) : Settings where
  ignoreCase := s.ignoreCase || t.ignoreCase
  lines := s.lines || t.lines
  lineFeeds := s.lineFeeds || t.lineFeeds
  spaced := s.spaced || t.spaced
  ascii := s.ascii || t.ascii
  full := s.full || t.full
  unrepeated := s.unrepeated || t.unrepeated

/-- Whether two have a setting in common. -/
def Settings.overlap (s t : Settings) : Bool :=
  (s.ignoreCase && t.ignoreCase) || (s.lines && t.lines) || (s.lineFeeds && t.lineFeeds) ||
    (s.spaced && t.spaced)

/-- The settings of a group, which turns some on and some off.  Of the two alphabets the one
turned on replaces the other. -/
def Settings.within (s on off : Settings) : Settings :=
  let alphabet := on.ascii || on.full
  { ignoreCase := (s.ignoreCase || on.ignoreCase) && !off.ignoreCase
    lines := (s.lines || on.lines) && !off.lines
    lineFeeds := (s.lineFeeds || on.lineFeeds) && !off.lineFeeds
    spaced := (s.spaced || on.spaced) && !off.spaced
    ascii := if alphabet then on.ascii else s.ascii
    full := if alphabet then on.full else s.full
    unrepeated := s.unrepeated }

/-- How case is treated under settings. -/
def Settings.case (s : Settings) : Case :=
  if !s.ignoreCase then .exact else if s.ascii then .ascii else .folded

/-- The settings that a letter turns on. -/
def flag? : Char → Option Settings
  | 'i' => some { ignoreCase := true }
  | 'm' => some { lines := true }
  | 's' => some { lineFeeds := true }
  | 'x' => some { spaced := true }
  | 'a' => some { ascii := true }
  | 'u' => some { full := true }
  | 't' => some { unrepeated := true }
  | _ => none

end Pattern

end TaskBrowser
