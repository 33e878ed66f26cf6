import Mathlib
import TaskBrowser.Json.Whole

/-!
# Whole numbers in digits

A text that is nothing but decimal digits, of whatever script, is a whole number, unless it has
more digits than are read.  So is such a text after a dash.
-/

namespace TaskBrowser

namespace Text

/-! ## Digits are no blanks -/

theorem isBlank_of_isNumberBlank {c : Char} (h : isNumberBlank c = true) : isBlank c = true := by
  rw [isNumberBlank] at h
  split at h
  · rcases Bool.or_eq_true_iff.1 h with h | h
    · obtain rfl : c = ' ' := by simpa using h
      decide
    · obtain ⟨hlow, hhigh⟩ : '\t' ≤ c ∧ c ≤ '\r' := by simpa using h
      have hlow : 9 ≤ c.toNat := UInt32.le_iff_toNat_le.1 hlow
      have hhigh : c.toNat ≤ 13 := UInt32.le_iff_toNat_le.1 hhigh
      rw [isBlank]
      simp only [blankRuns, inRuns]
      grind
  · exact h

theorem decimal_not_blank {c : Char} (h : isDecimal c = true) : isNumberBlank c = false := by
  rw [isDecimal, decimalValue?, Option.isSome_map] at h
  cases hblank : isNumberBlank c with
  | false => rfl
  | true =>
      have hruns := isBlank_of_isNumberBlank hblank
      rw [isBlank] at hruns
      simp only [blankRuns, inRuns, decimalRuns, offsetInRuns] at hruns h
      grind

/-! ## Reading digits -/

/-- A run of digits reaches to the end of a text of digits. -/
theorem digitSpan_decimals {t : Text} (h : t.all isDecimal = true) :
    digitSpan t = some (t, []) := by
  induction t with
  | nil => rfl
  | cons c t ih =>
      rw [List.all_cons, Bool.and_eq_true] at h
      have hc : c ≠ '_' := by
        rintro rfl
        exact absurd h.1 (by decide)
      rw [digitSpan.eq_def]
      split
      next heq => cases heq
      next heq =>
        injection heq with hcons
        exact absurd hcons hc
      next heq =>
        cases heq
        rw [if_pos h.1, ih h.2]
        rfl

/-- A text of digits is a whole number if it does not have more of them than are read. -/
theorem readUnsigned_decimals {t : Text} (hne : t ≠ []) (h : t.all isDecimal = true) :
    readUnsigned t =
      if digitLimit < t.length then .error (.tooLong t.length) else .ok (digitsValue 0 t) := by
  cases t with
  | nil => exact absurd rfl hne
  | cons c t =>
      have hc : c ≠ '_' := by
        rintro rfl
        exact absurd h (by simp [show isDecimal '_' = false by decide])
      rw [readUnsigned.eq_def]
      split
      next heq => cases heq
      next heq =>
        injection heq with hcons
        exact absurd hcons hc
      next => simp only [digitSpan_decimals h, List.all_nil, if_true]

/-- A text of digits, perhaps after a dash, is read as its digits are. -/
theorem readInteger_eq {u : Text} (hne : u ≠ []) (h : u.all isDecimal = true) :
    readInteger u = (readUnsigned u).map Int.ofNat ∧
      readInteger ('-' :: u) = (readUnsigned u).map fun n => -Int.ofNat n := by
  cases u with
  | nil => exact absurd rfl hne
  | cons c u =>
      have hc : isDecimal c = true := (Bool.and_eq_true_iff.1 h).1
      refine ⟨?_, rfl⟩
      rw [readInteger, List.dropWhile_cons, decimal_not_blank hc, if_neg Bool.false_ne_true]
      split
      next heq =>
        cases heq
        exact absurd hc (by decide)
      next heq =>
        cases heq
        exact absurd hc (by decide)
      next => rfl

/-- A text of digits, perhaps after a dash, is a whole number if it does not have more digits than
are read. -/
theorem readInteger_decimals {t u : Text} (hne : u ≠ []) (h : u.all isDecimal = true)
    (ht : t = u ∨ t = '-' :: u) :
    (∃ e, readInteger t = .error e) ↔ digitLimit < u.length := by
  have hunsigned {α : Type} (f : Nat → α) :
      (∃ e, (readUnsigned u).map f = .error e) ↔ digitLimit < u.length := by
    rw [readUnsigned_decimals hne h]
    split
    next hlong => simp [Except.map, hlong]
    next hshort => simp [Except.map, hshort]
  obtain ⟨hplain, hdash⟩ := readInteger_eq hne h
  rcases ht with rfl | rfl
  · rw [hplain]
    exact hunsigned _
  · rw [hdash]
    exact hunsigned _

end Text

end TaskBrowser
