import Mathlib
import TaskBrowser.Number.Binary

/-!
# Whole quotients

A whole number of fewer than 53 binary digits has a binary number of its own, so nothing is lost
where a quotient comes out as one: `ofRatio` finds it and `truncated?` gives it back
(`truncated_ofRatio_mul`).

The exponent of such a number is never positive (`exponentFor_mul_nonpos`), so its mantissa is the
number itself with zeros behind it (`mantissaAt_mul`).  What is rounded up to a mantissa of one
digit too many was whole before.
-/

namespace TaskBrowser

namespace Binary

variable {n d : Nat} {e : Int}

theorem roundedQuotient_mul (n : Nat) (hd : 0 < d) : roundedQuotient (n * d) d = n := by
  simp only [roundedQuotient, Nat.mul_div_cancel n hd, Nat.mul_mod_left, Nat.mul_zero, if_pos hd]

/-- A number of fewer than 53 binary digits is a multiple of the unit of its mantissa. -/
theorem exponentFor_mul_nonpos (hpos : 0 < n) (hn : n < 2 ^ 52) (hd : 0 < d) :
    exponentFor (n * d) d ≤ 0 := by
  have hlog : (n * d).log2 < 52 + (d.log2 + 1) := by
    rw [Nat.log2_lt (Nat.mul_pos hpos hd).ne', Nat.pow_add]
    exact Nat.mul_lt_mul_of_lt_of_lt hn Nat.lt_log2_self
  have hestimate : ((n * d).log2 : Int) - d.log2 - 52 ≤ 0 := by omega
  rw [exponentFor]
  refine max_le (by decide) ?_
  generalize ((n * d).log2 : Int) - d.log2 - 52 = e at hestimate ⊢
  split <;> omega

theorem mantissaAt_mul (n : Nat) (hd : 0 < d) (he : e ≤ 0) :
    mantissaAt (n * d) d e = n * 2 ^ (-e).toNat := by
  rw [mantissaAt]
  split
  next hzero =>
    obtain rfl : e = 0 := Int.le_antisymm he hzero
    have hunit : d * Nat.pow 2 (Int.toNat 0) = d := Nat.mul_one d
    rw [hunit, roundedQuotient_mul n hd]
    exact (Nat.mul_one n).symm
  next =>
    rw [Nat.mul_right_comm, roundedQuotient_mul _ hd]
    rfl

theorem wholePart_zero (e : Int) : wholePart 0 e = 0 := by
  rw [wholePart]
  split
  · exact Nat.zero_mul _
  · exact Nat.zero_div _

/-- Zeros behind a number do not count. -/
theorem wholePart_scaled (n : Nat) (he : e ≤ 0) : wholePart (n * 2 ^ (-e).toNat) e = n := by
  rw [wholePart]
  split
  next hzero =>
    obtain rfl : e = 0 := Int.le_antisymm he hzero
    exact (Nat.mul_one _).trans (Nat.mul_one n)
  next => exact Nat.mul_div_cancel n (Nat.pow_pos (by decide))

/-- A number that is carried over into one digit more is the same number. -/
theorem wholePart_carried (hn : n < 2 ^ 52) (he : e ≤ 0) (hm : n * 2 ^ (-e).toNat = 2 ^ 53) :
    wholePart (2 ^ 52) (e + 1) = n := by
  obtain ⟨k, hk⟩ : ∃ k, (-e).toNat = k + 1 := by
    refine Nat.exists_eq_add_one.2 (Nat.pos_of_ne_zero fun hzero => ?_)
    rw [hzero] at hm
    omega
  have hshift : (-(e + 1)).toNat = k := by omega
  have hcarried : 2 ^ 52 = n * 2 ^ (-(e + 1)).toNat := by
    rw [hk, Nat.pow_succ, ← Nat.mul_assoc] at hm
    rw [hshift]
    omega
  rw [hcarried]
  exact wholePart_scaled n (by omega)

theorem truncated_finite (negative : Bool) (m : Nat) (e : Int) :
    (finite negative m e).truncated? =
      some (if negative then -(wholePart m e : Int) else wholePart m e) := by
  cases negative <;> rfl

/-- A quotient that is a whole number of fewer than 53 binary digits is given back. -/
theorem truncated_ofRatio_mul (negative : Bool) (hn : n < 2 ^ 52) (hd : 0 < d) :
    (ofRatio negative (n * d) d).truncated? = some (if negative then -(n : Int) else n) := by
  rcases Nat.eq_zero_or_pos n with rfl | hpos
  · rw [ofRatio, if_pos (Nat.zero_mul d), truncated_finite, wholePart_zero]
  · have he := exponentFor_mul_nonpos hpos hn hd
    have hsmall : ¬ maxExponent < exponentFor (n * d) d + 1 := by
      rw [maxExponent]
      omega
    rw [ofRatio, if_neg (Nat.mul_pos hpos hd).ne']
    dsimp only
    rw [mantissaAt_mul n hd he]
    by_cases hm : n * 2 ^ (-exponentFor (n * d) d).toNat = Nat.pow 2 53
    · have hcarried : wholePart (Nat.pow 2 52) (exponentFor (n * d) d + 1) = n :=
        wholePart_carried hn he hm
      rw [if_pos hm]
      dsimp only
      rw [if_neg hsmall, truncated_finite, hcarried]
    · rw [if_neg hm]
      dsimp only
      rw [if_neg (by omega), truncated_finite, wholePart_scaled n he]

end Binary

end TaskBrowser
