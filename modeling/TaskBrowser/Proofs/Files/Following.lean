import Mathlib
import TaskBrowser.Files.System

/-!
# Paths that cannot be followed

A path that starts at a home directory cannot be followed if that directory is not known
(`FilePath.Homeless`), or if the name of the user holds the character of code zero, which no system
takes.

Asking whether there is anything at the end of a path crashes if the system refuses the path for a
reason other than that there is nothing.
-/

namespace TaskBrowser

namespace FilePath

variable {homes : Homes} {user : Text} {p : FilePath} {c : Crash}

/-- No home directory of the user is known, or one that is itself to be looked up. -/
def NoHome (homes : Homes) (user : Text) : Prop :=
  ∀ t, homes.of user = some t → (homeText t).head? = some '~'

/-- The path starts at a home directory that is not known. -/
def Homeless (homes : Homes) (p : FilePath) : Prop :=
  p.root = .here ∧ ∃ user names, p.names = ('~' :: user) :: names ∧
    '\x00' ∉ user ∧ NoHome homes user

/-- The path starts at the home directory of a user whose name holds the character of code zero. -/
def NullInUser (p : FilePath) : Prop :=
  p.root = .here ∧ ∃ user names, p.names = ('~' :: user) :: names ∧ '\x00' ∈ user

/-- What following the path crashes with, if it cannot be followed. -/
inductive Unfollowed (homes : Homes) (p : FilePath) : Crash → Prop where
  | user (h : p.NullInUser) : Unfollowed homes p .nullInPath
  | home (h : p.Homeless homes) : Unfollowed homes p .noHome

theorem home_eq_error_iff :
    FilePath.home homes user = .error c ↔
      (c = .nullInPath ∧ '\x00' ∈ user) ∨ (c = .noHome ∧ '\x00' ∉ user ∧ NoHome homes user) := by
  rw [FilePath.home, NoHome]
  by_cases hnull : '\x00' ∈ user
  · simp [hnull, eq_comm]
  · cases hhome : homes.of user with
    | none => simp [hnull, eq_comm]
    | some t =>
        by_cases htilde : (homeText t).head? = some '~'
        · simp [hnull, htilde, eq_comm]
        · simp [hnull, htilde]

/-- A path is expanded unless it starts at the home directory of no known user. -/
theorem expand_eq_error_iff :
    p.expand homes = .error c ↔ p.Unfollowed homes c := by
  have hreasons : p.Unfollowed homes c ↔
      (c = .nullInPath ∧ p.NullInUser) ∨ (c = .noHome ∧ p.Homeless homes) := by
    constructor
    · rintro (h | h)
      · exact .inl ⟨rfl, h⟩
      · exact .inr ⟨rfl, h⟩
    · rintro (⟨rfl, h⟩ | ⟨rfl, h⟩)
      · exact .user h
      · exact .home h
  rw [hreasons]
  obtain ⟨start, names⟩ := p
  rw [expand, Homeless, NullInUser]
  split
  next user names hroot hnames =>
    dsimp only at hroot hnames
    subst hroot hnames
    have hmap : (FilePath.home homes user).map (·.below names) = .error c ↔
        FilePath.home homes user = .error c := by
      cases FilePath.home homes user <;> simp [Except.map]
    rw [hmap, home_eq_error_iff]
    simp
  next hother =>
    refine iff_of_false nofun ?_
    rintro (⟨-, hroot, user, names, hnames, -⟩ | ⟨-, hroot, user, names, hnames, -⟩)
    · exact hother user names hroot hnames
    · exact hother user names hroot hnames

theorem expand_error_iff :
    (∃ c, p.expand homes = .error c) ↔ p.NullInUser ∨ p.Homeless homes := by
  simp only [expand_eq_error_iff]
  constructor
  · rintro ⟨c, h | h⟩
    · exact .inl h
    · exact .inr h
  · rintro (h | h)
    · exact ⟨_, .user h⟩
    · exact ⟨_, .home h⟩

/-- The home directory of the program's own account, which has no name. -/
theorem ownHome_eq_error_iff :
    FilePath.home homes [] = .error c ↔ c = .noHome ∧ NoHome homes [] := by
  simp [home_eq_error_iff]

end FilePath

namespace FileSystem

variable {files : FileSystem} {p : FilePath}

/-- The system refuses the path and does not say that there is nothing. -/
def Withholds (files : FileSystem) (p : FilePath) : Prop :=
  '\x00' ∉ p.toText ∧ ∃ e, files.refusal p = some e ∧ e.isAbsence = false

theorem leadsSomewhere_error_iff :
    (∃ c, files.leadsSomewhere p = .error c) ↔ files.Withholds p := by
  rw [leadsSomewhere, Withholds]
  by_cases hnull : '\x00' ∈ p.toText
  · simp [hnull]
  · cases hrefusal : files.refusal p with
    | none => simp [hnull]
    | some e => cases habsence : e.isAbsence <;> simp [hnull, habsence]

/-- The file at the path cannot be taken for a text. -/
def Unreadable (files : FileSystem) (p : FilePath) : Prop :=
  '\x00' ∈ p.toText ∨ files.contents p = .ok .undecodable

theorem read_error_iff : (∃ c, files.read p = .error c) ↔ files.Unreadable p := by
  rw [FileSystem.read, Unreadable]
  by_cases hnull : '\x00' ∈ p.toText
  · simp [hnull]
  · rcases hcontents : files.contents p with e | t | _ <;> simp [hnull]

end FileSystem

end TaskBrowser
