import TaskBrowser.Record.Order

/-!
# The record store

The store is the list of the tasks that are shown, in the order in which they are shown.  A task
is found by its identifier; if several have the same one, the first counts.
-/

namespace TaskBrowser

/-- The tasks that are shown. -/
abbrev Store := List Record

namespace Store

/-- The first record with an identifier. -/
def get? (s : Store) (uuid : Text) : Option Record := s.find? (·.uuid == uuid)

/-- The position of the first record with an identifier. -/
def position? (s : Store) (uuid : Text) : Option Nat := s.findIdx? (·.uuid == uuid)

/-- The record at a position; a negative one counts from the end. -/
def at? (s : Store) (position : Int) : Option Record :=
  match position with
  | .ofNat n => s[n]?
  | .negSucc n => if n < s.length then s[s.length - (n + 1)]? else none

/-- The store with another record in place of the first one with an identifier, or without it. -/
def replace (s : Store) (uuid : Text) (r : Option Record) : Store :=
  match s with
  | [] => []
  | a :: rest =>
      if a.uuid = uuid then
        match r with
        | some b => b :: rest
        | none => rest
      else a :: replace rest uuid r

/-- The length of the longest project. -/
def projectWidth (s : Store) : Except Crash Nat :=
  match s with
  | [] => .ok 0
  | r :: rest =>
      let here : Except Crash Nat :=
        match r.project with
        | none => .ok 0
        | some p => if p.value.holds then p.value.length? else .ok 0
      match here with
      | .error e => .error e
      | .ok n => (projectWidth rest).map (max n)

/-- The store without the colour pairs found for its records. -/
def forgetPairs (s : Store) : Store := s.map Record.forgetPairs

end Store

end TaskBrowser
