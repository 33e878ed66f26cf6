import Mathlib
import TaskBrowser.Text.Case

/-!
# Letters with a given lower-case form

A letter between `a` and `z` is the lower-case form of itself and of its upper-case letter.  Apart
from `i` and `k` there is no other (`lowered_eq_iff`), as the table of shifts shows: a shift that
takes a letter to one of these takes its upper-case letter.  The dotted capital I and the sign of
the kelvin are the exceptions.
-/

namespace TaskBrowser

namespace Text

/-- The letters that are the lower-case form of two letters only. -/
def plainLetters : Text :=
  ['a', 'b', 'c', 'd', 'e', 'f', 'g', 'h', 'j', 'l', 'm', 'n', 'o', 'p', 'q', 'r', 's', 't', 'u',
    'v', 'w', 'x', 'y', 'z']

theorem plainLetters_positive {c : Char} (hc : c ∈ plainLetters) : 0 < c.toNat := by
  have hall : (plainLetters.all fun c => decide (0 < c.toNat)) = true := by decide
  exact of_decide_eq_true (List.all_eq_true.1 hall c hc)

/-- A shifted code point is left alone, or is taken by one of the shifts. -/
theorem shifted_cases (shifts : List CaseShift) (n : Nat) :
    shifted shifts n = n ∨
      ∃ s ∈ shifts, (Stride.mk s.first s.last s.step).contains n = true ∧
        shifted shifts n = (Int.ofNat n + s.shift).toNat := by
  induction shifts with
  | nil => exact .inl rfl
  | cons s rest ih =>
      rw [shifted]
      split
      · exact .inl rfl
      · split
        next hs => exact .inr ⟨s, List.mem_cons_self, hs, rfl⟩
        next =>
          obtain hsame | ⟨s', hmem, hs, hshift⟩ := ih
          · exact .inl hsame
          · exact .inr ⟨s', List.mem_cons_of_mem s hmem, hs, hshift⟩

/-- A shift that takes a code point to a plain letter takes that of the upper-case letter. -/
theorem eq_toUpper_of_shift {s : CaseShift} (hs : s ∈ lowerShifts) {c : Char}
    (hc : c ∈ plainLetters) {n : Nat} (hn : (Stride.mk s.first s.last s.step).contains n = true)
    (hshift : (Int.ofNat n + s.shift).toNat = c.toNat) : n = c.toUpper.toNat := by
  have htable : (lowerShifts.all fun s => plainLetters.all fun c =>
      !(Stride.mk s.first s.last s.step).contains (Int.ofNat c.toNat - s.shift).toNat ||
        (Int.ofNat c.toNat - s.shift).toNat == c.toUpper.toNat) = true := by decide +kernel
  have hpositive := plainLetters_positive hc
  have hback : n = (Int.ofNat c.toNat - s.shift).toNat := by
    simp only [Int.ofNat_eq_natCast] at hshift ⊢
    omega
  have hentry := List.all_eq_true.1 (List.all_eq_true.1 htable s hs) c hc
  rw [← hback, hn] at hentry
  simpa using hentry

theorem toNat_eq_of_ofNat {n : Nat} {c : Char} (h : Char.ofNat n = c) (hc : 0 < c.toNat) :
    n = c.toNat := by
  subst h
  rw [Char.toNat_ofNat] at hc ⊢
  split at hc
  next hvalid => rw [if_pos hvalid]
  next => cases hc

/-- A plain letter is the lower-case form of itself and of its upper-case letter. -/
theorem lowered_eq_iff {l c : Char} (hc : c ∈ plainLetters) :
    lowered l = [c] ↔ l = c ∨ l = c.toUpper := by
  have hforms : (plainLetters.all fun c =>
      lowered c == [c] && lowered c.toUpper == [c]) = true := by decide +kernel
  have hform := List.all_eq_true.1 hforms c hc
  rw [Bool.and_eq_true, beq_iff_eq, beq_iff_eq] at hform
  constructor
  · intro h
    rw [lowered] at h
    split at h
    · cases h
    · have hchar : Char.ofNat (shifted lowerShifts l.toNat) = c := (List.cons.inj h).1
      have hshifted := toNat_eq_of_ofNat hchar (plainLetters_positive hc)
      obtain hsame | ⟨s, hs, hn, hshift⟩ := shifted_cases lowerShifts l.toNat
      · exact .inl (Char.toNat_inj.1 (hsame.symm.trans hshifted))
      · have hupper := eq_toUpper_of_shift hs hc hn (hshift.symm.trans hshifted)
        exact .inr (Char.toNat_inj.1 hupper)
  · rintro (rfl | rfl)
    · exact hform.1
    · exact hform.2

end Text

end TaskBrowser
