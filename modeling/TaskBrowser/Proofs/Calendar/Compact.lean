import Mathlib
import TaskBrowser.Calendar.Stamp
import TaskBrowser.Proofs.Calendar.DayNumber
import TaskBrowser.Proofs.Text.Decimal

/-!
# The compact form

A moment that is written in the compact form is read back (`compact_compactForm`).  Each part of the
form can be read in several ways, of which the first that leads to the end counts; that the parts
are written with their leading zeros makes the first way of each part the one they were written in.

*Parts.*  `months_zeroFilled` and its like say what is read first of a number of two digits.
*Chains.*  `head?_flatMap` composes what is read first.
-/

namespace TaskBrowser

namespace Stamp

/-! ## What is read first -/

theorem head?_flatMap {α β : Type} {l : List α} {f : α → List β} {a : α} {b : β}
    (hl : l.head? = some a) (hf : (f a).head? = some b) : (l.flatMap f).head? = some b := by
  cases l with
  | nil => cases hl
  | cons c l =>
      obtain rfl : c = a := Option.some.inj hl
      rw [List.flatMap_cons, List.head?_append, hf]
      rfl

/-- Two digits that pass a test are read, and otherwise what the other ways read. -/
theorem head?_twoDigits_append (p q : Char → Bool) {n : Nat} (hn : n < 100) (t : Text)
    (others : List Reading) :
    (twoDigits p q (Text.zeroFilled 2 n ++ t) ++ others).head? =
      if p (Text.digitChar (n / 10)) && q (Text.digitChar n) then some (n, t)
      else others.head? := by
  have htens := (Template.digitChar_spec (n / 10)).2
  have hones := (Template.digitChar_spec n).2
  have hvalue : 10 * (n / 10 % 10) + n % 10 = n := by omega
  rw [Text.zeroFilled_two hn, List.cons_append, List.cons_append, List.nil_append, twoDigits, htens,
    hones]
  cases p (Text.digitChar (n / 10)) && q (Text.digitChar n) with
  | false => rfl
  | true => simp only [hvalue, List.cons_append, List.head?_cons, if_true]

/-! ## The parts -/

variable {n : Nat}

theorem years_zeroFilled (hn : n < 10000) (t : Text) :
    years (Text.zeroFilled 4 n ++ t) = [(n, t)] := by
  have hvalue :
      1000 * (n / 1000 % 10) + 100 * (n / 100 % 10) + (10 * (n / 10 % 10) + n % 10) = n := by
    omega
  rw [Text.zeroFilled_four hn]
  simp only [List.cons_append, List.nil_append, years, twoDigits, Text.isDecimal_digitChar,
    (Template.digitChar_spec _).2, Bool.and_self, hvalue]

theorem months_zeroFilled (hpos : 1 ≤ n) (hle : n ≤ 12) (t : Text) :
    (months (Text.zeroFilled 2 n ++ t)).head? = some (n, t) := by
  have htests : ∀ n ≤ 12, 1 ≤ n →
      (Text.digitChar (n / 10) == '1' && between '0' '2' (Text.digitChar n)) ||
        (Text.digitChar (n / 10) == '0' && between '1' '9' (Text.digitChar n)) := by decide
  rw [months, List.append_assoc, head?_twoDigits_append _ _ (by omega),
    head?_twoDigits_append _ _ (by omega)]
  rcases Bool.or_eq_true_iff.1 (htests n hle hpos) with h | h
  · rw [if_pos h]
  · rw [if_pos h, ite_self]

theorem days_zeroFilled (hpos : 1 ≤ n) (hle : n ≤ 31) (t : Text) :
    (days (Text.zeroFilled 2 n ++ t)).head? = some (n, t) := by
  have htests : ∀ n ≤ 31, 1 ≤ n →
      (Text.digitChar (n / 10) == '3' && between '0' '1' (Text.digitChar n)) ||
        ((between '1' '2' (Text.digitChar (n / 10)) && true) ||
          (Text.digitChar (n / 10) == '0' && between '1' '9' (Text.digitChar n))) := by decide
  rw [days.eq_def]
  simp only [List.append_assoc]
  rw [head?_twoDigits_append _ _ (by omega), head?_twoDigits_append _ _ (by omega),
    head?_twoDigits_append _ _ (by omega), Text.isDecimal_digitChar]
  rcases Bool.or_eq_true_iff.1 (htests n hle hpos) with h | h
  · rw [if_pos h]
  · rcases Bool.or_eq_true_iff.1 h with h | h
    · rw [if_pos h, ite_self]
    · rw [if_pos h, ite_self, ite_self]

theorem hours_zeroFilled (hn : n < 24) (t : Text) :
    (hours (Text.zeroFilled 2 n ++ t)).head? = some (n, t) := by
  have htests : ∀ n < 24,
      (Text.digitChar (n / 10) == '2' && between '0' '3' (Text.digitChar n)) ||
        (between '0' '1' (Text.digitChar (n / 10)) && true) := by decide
  rw [hours, List.append_assoc, head?_twoDigits_append _ _ (by omega),
    head?_twoDigits_append _ _ (by omega), Text.isDecimal_digitChar]
  rcases Bool.or_eq_true_iff.1 (htests n hn) with h | h
  · rw [if_pos h]
  · rw [if_pos h, ite_self]

theorem minutes_zeroFilled (hn : n < 60) (t : Text) :
    (minutes (Text.zeroFilled 2 n ++ t)).head? = some (n, t) := by
  have htest : ∀ n < 60, between '0' '5' (Text.digitChar (n / 10)) && true := by decide
  rw [minutes, head?_twoDigits_append _ _ (by omega), Text.isDecimal_digitChar, if_pos (htest n hn)]

theorem seconds_zeroFilled (hn : n < 60) (t : Text) :
    (seconds (Text.zeroFilled 2 n ++ t)).head? = some (n, t) := by
  have htest : ∀ n < 60, between '0' '5' (Text.digitChar (n / 10)) && true := by decide
  rw [seconds, List.append_assoc, head?_twoDigits_append _ _ (by omega),
    head?_twoDigits_append _ _ (by omega), Text.isDecimal_digitChar, if_pos (htest n hn), ite_self]

/-! ## The whole form -/

/-- A date and a time of day of the calendar. -/
structure Fields.Proper (f : Fields) : Prop where
  /-- The date is one of the calendar. -/
  date : f.date.isValid = true
  /-- A day has 24 hours. -/
  hour : f.hour < 24
  /-- An hour has 60 minutes. -/
  minute : f.minute < 60
  /-- A minute has 60 seconds. -/
  second : f.second < 60

/-- A date and a time of day in the compact form. -/
def compactForm (f : Fields) : Text :=
  Text.zeroFilled 4 f.date.year.toNat ++ Text.zeroFilled 2 f.date.month ++
    Text.zeroFilled 2 f.date.day ++ "T" ++ Text.zeroFilled 2 f.hour ++ Text.zeroFilled 2 f.minute ++
    Text.zeroFilled 2 f.second ++ "Z"

example : compactForm ⟨⟨702, 6, 15⟩, 9, 30, 0⟩ = "07020615T093000Z" := by decide

theorem compactReadings_compactForm {f : Fields} (hf : f.Proper) :
    (compactReadings (compactForm f)).head? = some (f, []) := by
  obtain ⟨hlow, hhigh, hdate⟩ := Date.isValid_iff.1 hf.date
  obtain ⟨hmonthPos, hmonthLe⟩ := hdate.month_bounds
  have hday : f.date.day ≤ 31 := hdate.day_le.trans (Date.monthLength_le _ _)
  have hyear : Int.ofNat f.date.year.toNat = f.date.year := Int.toNat_of_nonneg (by omega)
  rw [compactReadings, compactForm]
  simp only [List.append_assoc]
  rw [years_zeroFilled (by omega)]
  refine head?_flatMap rfl ?_
  refine head?_flatMap (months_zeroFilled hmonthPos hmonthLe _) ?_
  refine head?_flatMap (days_zeroFilled hdate.day_pos hday _) ?_
  refine head?_flatMap (a := _) rfl ?_
  refine head?_flatMap (hours_zeroFilled hf.hour _) ?_
  refine head?_flatMap (minutes_zeroFilled hf.minute _) ?_
  refine head?_flatMap (seconds_zeroFilled hf.second _) ?_
  rw [hyear]
  rfl

/-- A moment in the compact form is read back. -/
theorem compact_compactForm {f : Fields} (hf : f.Proper) :
    compact (compactForm f) = some (Moment.ofDate f.date f.hour f.minute f.second) := by
  have hread := compactReadings_compactForm hf
  rw [compact]
  cases hall : compactReadings (compactForm f) with
  | nil => simp [hall] at hread
  | cons r others =>
      obtain rfl : r = (f, []) := by simpa [hall] using hread
      simp [hf.date, hf.second]

end Stamp

end TaskBrowser
