import Mathlib
import TaskBrowser.Calendar.Date

/-!
# Day numbers

A day number is a count of days: `IsDay` counts them one after another, on from the first of January
1970 or up to it, by what date comes after a date (`Date.next`).  Numbering by years and months
gives that count, because the next date has the next number (`toDays_next`) and only one date has a
number (`ofDays_toDays`), as finding the year and the month of a day takes off just what numbering
it has put on.
-/

namespace TaskBrowser

namespace Date

/-! ## Dates and the dates after them -/

/-- A month of the year and a day of the month. -/
structure Proper (d : Date) : Prop where
  /-- Days are counted from one. -/
  day_pos : 1 ≤ d.day
  /-- The month has so many days. -/
  day_le : d.day ≤ monthLength (isLeap d.year) d.month

/-- The first of January 1970. -/
def first : Date := ⟨1970, 1, 1⟩

/-- The date after a date. -/
def next (d : Date) : Date :=
  if d.day < monthLength (isLeap d.year) d.month then { d with day := d.day + 1 }
  else if d.month < 12 then ⟨d.year, d.month + 1, 1⟩
  else ⟨d.year + 1, 1, 1⟩

/-- A date is so many days after the first of January 1970, or as many before it. -/
def IsDay (d : Date) : Int → Prop
  | .ofNat n => next^[n] first = d
  | .negSucc n => next^[n + 1] d = first

theorem isValid_iff {d : Date} : d.isValid = true ↔ 1 ≤ d.year ∧ d.year ≤ 9999 ∧ d.Proper := by
  simp only [isValid, Bool.and_eq_true, decide_eq_true_eq, and_assoc]
  exact ⟨fun ⟨hlow, hhigh, hpos, hle⟩ => ⟨hlow, hhigh, hpos, hle⟩,
    fun ⟨hlow, hhigh, hpos, hle⟩ => ⟨hlow, hhigh, hpos, hle⟩⟩

theorem first_proper : first.Proper := ⟨by decide, by decide⟩

/-! ## Months -/

/-- The number of days of a year. -/
def yearLength (y : Int) : Nat := if isLeap y then 366 else 365

theorem monthLengths_sum (y : Int) : (monthLengths (isLeap y)).sum = yearLength y := by
  rw [yearLength]
  cases isLeap y <;> rfl

theorem month_bounds {leap : Bool} {m : Nat} (h : 0 < monthLength leap m) : 1 ≤ m ∧ m ≤ 12 := by
  cases m with
  | zero => cases h
  | succ m =>
      refine ⟨Nat.succ_pos m, ?_⟩
      by_contra hlarge
      have hlength : (monthLengths leap).length = 12 := rfl
      rw [monthLength, List.getD_eq_default _ _ (by omega)] at h
      cases h

theorem monthLength_pos {leap : Bool} {m : Nat} (hpos : 1 ≤ m) (hle : m ≤ 12) :
    0 < monthLength leap m := by
  have hall : ∀ leap : Bool, ∀ m < 13, 1 ≤ m → 0 < monthLength leap m := by decide
  exact hall leap m (by omega) hpos

theorem monthLength_le (leap : Bool) (m : Nat) : monthLength leap m ≤ 31 := by
  rcases Nat.eq_zero_or_pos (monthLength leap m) with hzero | hpos
  · exact hzero ▸ Nat.zero_le 31
  · have hall : ∀ leap : Bool, ∀ m ≤ 12, monthLength leap m ≤ 31 := by decide
    exact hall leap m (month_bounds hpos).2

/-- The lengths of the months before one, its own, and those after it. -/
theorem monthLengths_eq (leap : Bool) {m : Nat} (hpos : 1 ≤ m) (hle : m ≤ 12) :
    monthLengths leap =
      (monthLengths leap).take (m - 1) ++ monthLength leap m :: (monthLengths leap).drop m := by
  obtain ⟨m, rfl⟩ := Nat.exists_eq_add_of_le' hpos
  have hlt : m < (monthLengths leap).length := hle
  rw [monthLength, List.getD_eq_getElem _ _ hlt, Nat.add_sub_cancel, List.getElem_cons_drop,
    List.take_append_drop]

theorem daysBeforeMonth_eq_sum (leap : Bool) (m : Nat) :
    daysBeforeMonth leap m = ((monthLengths leap).take (m - 1)).sum := rfl

theorem daysBeforeMonth_succ (leap : Bool) {m : Nat} (hpos : 1 ≤ m) (hle : m ≤ 12) :
    daysBeforeMonth leap (m + 1) = daysBeforeMonth leap m + monthLength leap m := by
  obtain ⟨m, rfl⟩ := Nat.exists_eq_add_of_le' hpos
  have hlt : m < (monthLengths leap).length := hle
  rw [daysBeforeMonth_eq_sum, daysBeforeMonth_eq_sum, Nat.add_sub_cancel, Nat.add_sub_cancel,
    List.sum_take_succ _ _ hlt, monthLength, List.getD_eq_getElem _ _ hlt]

/-- Taking off the lengths of the months before a day leads to its month. -/
theorem inMonths_append (before after : List Nat) {l n : Nat} (hn : n < l) (m : Nat) :
    inMonths (before ++ l :: after) m (before.sum + n) = (m + before.length, n + 1) := by
  induction before generalizing m with
  | nil => simp [inMonths, hn]
  | cons a before ih =>
      have hrest : a + before.sum + n - a = before.sum + n := by omega
      rw [List.cons_append, List.sum_cons, inMonths, if_neg (by omega), hrest, ih,
        List.length_cons]
      congr 1
      omega

/-! ## Years -/

/-- Taking off the cycles of years before a day leads to its year. -/
theorem inYears_daysBeforeYear {y : Int} {n : Nat} (hn : n < yearLength y) :
    inYears (daysBeforeYear y + n) = (y, n) := by
  -- the year after `a` cycles of 400 years, `b` centuries, `c` cycles of four years and `e` years
  obtain ⟨a, b, c, e, rfl, hb, hc, he⟩ : ∃ (a : Int) (b c e : Nat),
      y = 400 * a + 100 * b + 4 * c + e + 1 ∧ b < 4 ∧ c < 25 ∧ e < 4 :=
    ⟨(y - 1) / 400, ((y - 1) % 400 / 100).toNat, ((y - 1) % 100 / 4).toNat, ((y - 1) % 4).toNat,
      by omega, by omega, by omega, by omega⟩
  have hleap : isLeap (400 * a + 100 * b + 4 * c + e + 1) = true ↔
      e = 3 ∧ (c ≠ 24 ∨ b = 3) := by
    simp only [isLeap, Bool.and_eq_true, Bool.or_eq_true, beq_iff_eq, bne_iff_ne]
    omega
  have hlong : n ≤ 364 ∨ n = 365 ∧ e = 3 ∧ (c ≠ 24 ∨ b = 3) := by
    rw [yearLength] at hn
    split at hn
    next h =>
      have := hleap.1 h
      omega
    next => omega
  have hdays : daysBeforeYear (400 * a + 100 * b + 4 * c + e + 1) + n =
      146097 * a + (36524 * b + 1461 * c + 365 * e + n : Nat) := by
    rw [daysBeforeYear]
    omega
  have hcycles : (146097 * a + (36524 * b + 1461 * c + 365 * e + n : Nat)) / 146097 = a := by omega
  have hcycle : ((146097 * a + (36524 * b + 1461 * c + 365 * e + n : Nat)) % 146097).toNat =
      36524 * b + 1461 * c + 365 * e + n := by omega
  have hcenturies : min 3 ((36524 * b + 1461 * c + 365 * e + n) / 36524) = b := by omega
  have hcentury : 36524 * b + 1461 * c + 365 * e + n - b * 36524 = 1461 * c + 365 * e + n := by
    omega
  have hfours : (1461 * c + 365 * e + n) / 1461 = c := by omega
  have hfour : (1461 * c + 365 * e + n) % 1461 = 365 * e + n := by omega
  have hyears : min 3 ((365 * e + n) / 365) = e := by omega
  have hyear : 365 * e + n - 365 * e = n := by omega
  rw [hdays, inYears]
  simp only [hcycles, hcycle, hcenturies, hcentury, hfours, hfour, hyears, hyear]

theorem daysBeforeYear_succ (y : Int) :
    daysBeforeYear (y + 1) = daysBeforeYear y + yearLength y := by
  have hleap : isLeap y = true ↔ y % 4 = 0 ∧ (y % 100 ≠ 0 ∨ y % 400 = 0) := by
    simp only [isLeap, Bool.and_eq_true, Bool.or_eq_true, beq_iff_eq, bne_iff_ne]
  rw [daysBeforeYear, daysBeforeYear, yearLength]
  split
  next h =>
    have := hleap.1 h
    omega
  next h =>
    have := mt hleap.2 h
    omega

/-! ## The number of a date -/

theorem next_proper (d : Date) : d.next.Proper := by
  rw [next]
  split
  next hday => exact ⟨Nat.succ_pos _, hday⟩
  next =>
    split
    next hmonth => exact ⟨Nat.le_refl 1, monthLength_pos (Nat.succ_pos _) hmonth⟩
    next => exact ⟨Nat.le_refl 1, monthLength_pos (m := 1) (by decide) (by decide)⟩

/-- The days of the year before a date. -/
def dayOfYear (d : Date) : Nat := daysBeforeMonth (isLeap d.year) d.month + (d.day - 1)

variable {d : Date}

namespace Proper

theorem month_bounds (hd : d.Proper) : 1 ≤ d.month ∧ d.month ≤ 12 :=
  Date.month_bounds (Nat.lt_of_lt_of_le hd.day_pos hd.day_le)

theorem toDays_eq (hd : d.Proper) : d.toDays + epoch = daysBeforeYear d.year + d.dayOfYear := by
  have hpos := hd.day_pos
  rw [toDays, dayOfYear]
  omega

theorem inMonths_dayOfYear (hd : d.Proper) :
    inMonths (monthLengths (isLeap d.year)) 1 d.dayOfYear = (d.month, d.day) := by
  obtain ⟨hpos, hle⟩ := hd.month_bounds
  have hday := hd.day_pos
  have hlt : d.day - 1 < monthLength (isLeap d.year) d.month := by
    have := hd.day_le
    omega
  have hlength : ((monthLengths (isLeap d.year)).take (d.month - 1)).length = d.month - 1 :=
    List.length_take_of_le (Nat.le_trans (Nat.sub_le _ _) hle)
  have hmonths := inMonths_append ((monthLengths (isLeap d.year)).take (d.month - 1))
    ((monthLengths (isLeap d.year)).drop d.month) hlt 1
  rw [← monthLengths_eq _ hpos hle, hlength, Nat.add_sub_cancel' hpos,
    Nat.sub_add_cancel hday] at hmonths
  exact hmonths

theorem dayOfYear_lt (hd : d.Proper) : d.dayOfYear < yearLength d.year := by
  obtain ⟨hpos, hle⟩ := hd.month_bounds
  have hsum := congrArg List.sum (monthLengths_eq (isLeap d.year) hpos hle)
  rw [monthLengths_sum, List.sum_append, List.sum_cons, ← daysBeforeMonth_eq_sum] at hsum
  have := hd.day_pos
  have := hd.day_le
  rw [dayOfYear]
  omega

/-- The day of the number of a date is the date. -/
theorem ofDays_toDays (hd : d.Proper) : ofDays d.toDays = d := by
  rw [ofDays, hd.toDays_eq, inYears_daysBeforeYear hd.dayOfYear_lt]
  dsimp only
  rw [hd.inMonths_dayOfYear]

/-- The next date has the next number. -/
theorem toDays_next (hd : d.Proper) : d.next.toDays = d.toDays + 1 := by
  obtain ⟨hpos, hle⟩ := hd.month_bounds
  have hday := hd.day_le
  rw [Date.next]
  split
  next =>
    simp only [toDays]
    omega
  next hlast =>
    have hmonths := daysBeforeMonth_succ (isLeap d.year) hpos hle
    split
    next =>
      simp only [toDays]
      omega
    next hdecember =>
      obtain hmonth : d.month = 12 := by omega
      have hsum : daysBeforeMonth (isLeap d.year) (12 + 1) = yearLength d.year := by
        rw [daysBeforeMonth_eq_sum, ← monthLengths_sum]
        rfl
      have hnewYear : daysBeforeMonth (isLeap (d.year + 1)) 1 = 0 := rfl
      rw [hmonth] at hmonths hday hlast
      simp only [toDays, daysBeforeYear_succ, hnewYear, hmonth]
      omega

/-- The dates after a date have the numbers after it. -/
theorem iterate_next (hd : d.Proper) (n : Nat) :
    (Date.next^[n] d).Proper ∧ (Date.next^[n] d).toDays = d.toDays + n := by
  induction n with
  | zero => exact ⟨hd, (Int.add_zero _).symm⟩
  | succ n ih =>
      rw [Function.iterate_succ_apply']
      refine ⟨next_proper _, ?_⟩
      rw [ih.1.toDays_next, ih.2]
      omega

/-- Dates of the same number are the same. -/
theorem toDays_inj {d' : Date} (hd : d.Proper) (hd' : d'.Proper) (h : d.toDays = d'.toDays) :
    d = d' := by
  rw [← hd.ofDays_toDays, h, hd'.ofDays_toDays]

/-- Numbering by years and months counts the days. -/
theorem isDay_iff (hd : d.Proper) {n : Int} : d.IsDay n ↔ n = d.toDays := by
  have hfirst : first.toDays = 0 := by decide
  cases n with
  | ofNat n =>
      obtain ⟨hproper, hdays⟩ := first_proper.iterate_next n
      rw [hfirst, Int.zero_add] at hdays
      constructor
      · intro hn
        rw [← show Date.next^[n] first = d from hn, hdays]
        rfl
      · intro hn
        exact hproper.toDays_inj hd (hdays.trans hn)
  | negSucc n =>
      obtain ⟨hproper, hdays⟩ := hd.iterate_next (n + 1)
      constructor
      · intro hn
        rw [show Date.next^[n + 1] d = first from hn, hfirst] at hdays
        omega
      · intro hn
        refine hproper.toDays_inj first_proper ?_
        rw [hdays, hfirst, ← hn]
        omega

end Proper

/-! ## The calendar -/

theorem year_le_next (d : Date) : d.year ≤ d.next.year := by
  rw [next]
  split
  · exact Int.le_refl _
  · split
    · exact Int.le_refl _
    · exact Int.le_add_one (Int.le_refl _)

theorem year_le_iterate_next (d : Date) (n : Nat) : d.year ≤ (next^[n] d).year := by
  induction n with
  | zero => exact Int.le_refl _
  | succ n ih =>
      rw [Function.iterate_succ_apply']
      exact Int.le_trans ih (year_le_next _)

/-- The calendar starts with the year 1 and ends before the year 10000. -/
theorem toDays_bounds (hd : d.isValid = true) :
    0 ≤ d.toDays + epoch ∧ d.toDays + epoch < daysBeforeYear 10000 := by
  obtain ⟨hlow, hhigh, hproper⟩ := isValid_iff.1 hd
  have hyear := hproper.dayOfYear_lt
  have hnext := daysBeforeYear_succ d.year
  rw [hproper.toDays_eq]
  rw [daysBeforeYear] at hnext ⊢
  rw [daysBeforeYear] at hnext ⊢
  omega

/-- The day before any other date of the calendar is a date of it. -/
theorem exists_previous (hd : d.isValid = true) (hne : d ≠ ⟨1, 1, 1⟩) :
    ∃ e : Date, e.isValid = true ∧ e.toDays = d.toDays - 1 := by
  obtain ⟨hlow, hhigh, hproper⟩ := isValid_iff.1 hd
  have hstart : Proper ⟨1, 1, 1⟩ := ⟨by decide, by decide⟩
  have hnumber : toDays ⟨1, 1, 1⟩ = -epoch := by decide
  have hpast : d.toDays ≠ -epoch := fun h =>
    hne (hproper.toDays_inj hstart (h.trans hnumber.symm))
  have hstarted := (toDays_bounds hd).1
  obtain ⟨n, hn⟩ : ∃ n : Nat, d.toDays - 1 = -epoch + n := ⟨(d.toDays - 1 + epoch).toNat, by omega⟩
  obtain ⟨hprevious, hdays⟩ := hstart.iterate_next n
  rw [hnumber, ← hn] at hdays
  have hnext : (next^[n] ⟨1, 1, 1⟩).next = d := by
    refine (next_proper _).toDays_inj hproper ?_
    rw [hprevious.toDays_next, hdays, Int.sub_add_cancel]
  have hyear := year_le_next (next^[n] ⟨1, 1, 1⟩)
  rw [hnext] at hyear
  exact ⟨_, isValid_iff.2 ⟨year_le_iterate_next _ n, Int.le_trans hyear hhigh, hprevious⟩, hdays⟩

end Date

end TaskBrowser
