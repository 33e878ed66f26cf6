import Mathlib
import TaskBrowser.Export
import TaskBrowser.Proofs.Calendar.Compact
import TaskBrowser.Proofs.Number.Whole

/-!
# The calendar form

A moment that is written in the calendar form, with its offset or the letter `Z` behind it, is read
back (`read_calendarForm`).  The text is no reading of the compact form, since a dash is no month
(`compact_dateForm`), and its date is the ten characters before the letter `T`.

*Numbers.*  Digits are read back as the number that they were written for, with whatever follows
(`digits_zeroFilled`).
*Times.*  A part of a time is read up to its colon (`spanFrom_colon`) or up to the end
(`spanFrom_end`), so the time of day and an offset have one lemma between them.
*Seconds.*  The seconds come out of a binary quotient, which is exact for all moments of the
calendar (`wholeSeconds_mul`).
-/

namespace TaskBrowser

namespace Text

theorem replaceChar_eq_self {c : Char} {t : Text} (h : c ∉ t) (u : Text) :
    replaceChar c u t = t := by
  induction t with
  | nil => rfl
  | cons d t ih =>
      rw [List.mem_cons, not_or] at h
      rw [replaceChar, List.flatMap_cons, if_neg (Ne.symm h.1)]
      exact congrArg (d :: ·) (ih h.2)

end Text

namespace Stamp

/-! ## Numbers -/

theorem digits_cons (k acc n : Nat) (t : Text) :
    digits (k + 1) acc (Text.digitChar n :: t) = digits k (10 * acc + n % 10) t := by
  obtain ⟨hdigit, hvalue⟩ := Text.isAsciiDigit_digitChar n
  rw [digits, if_pos hdigit, hvalue]

/-- Digits are read back as the number that they were written for. -/
theorem digits_zeroFilled (k : Nat) {w n : Nat} (hn : n < 10 ^ (w + 1)) (t : Text) :
    digits (k + (w + 1)) 0 (Text.zeroFilled (w + 1) n ++ t) = digits k n t := by
  induction w generalizing k n t with
  | zero =>
      have hdigit : n < 10 := hn
      rw [Text.zeroFilled_one hdigit, List.cons_append, List.nil_append, digits_cons,
        Nat.mod_eq_of_lt hdigit, Nat.mul_zero, Nat.zero_add]
  | succ w ih =>
      rw [Nat.pow_succ] at hn
      rw [Text.zeroFilled_succ, List.append_assoc, show k + (w + 1 + 1) = k + 1 + (w + 1) by omega,
        ih (k + 1) (by omega), List.cons_append, List.nil_append, digits_cons, Nat.div_add_mod]

theorem digits_two {n : Nat} (hn : n < 100) (t : Text) :
    digits 2 0 (Text.zeroFilled 2 n ++ t) = some (n, t) :=
  digits_zeroFilled 0 (w := 1) hn t

theorem digits_four {n : Nat} (hn : n < 10000) (t : Text) :
    digits 4 0 (Text.zeroFilled 4 n ++ t) = some (n, t) := by
  have hpow : n < 10 ^ (3 + 1) := by
    norm_num
    exact hn
  exact digits_zeroFilled 0 hpow t

/-! ## Dates -/

/-- A date of the calendar in the calendar form. -/
def dateForm (d : Date) : Text :=
  Text.zeroFilled 4 d.year.toNat ++ '-' :: Text.zeroFilled 2 d.month ++ '-' ::
    Text.zeroFilled 2 d.day

variable {d : Date}

/-- The parts of a date of the calendar have the digits that they are written with. -/
theorem parts_lt (hd : d.isValid = true) :
    d.year.toNat < 10000 ∧ Int.ofNat d.year.toNat = d.year ∧ d.month < 100 ∧ d.day < 100 := by
  obtain ⟨hlow, hhigh, hproper⟩ := Date.isValid_iff.1 hd
  have hmonth := hproper.month_bounds.2
  have hday := hproper.day_le.trans (Date.monthLength_le _ _)
  exact ⟨by omega, Int.toNat_of_nonneg (by omega), by omega, by omega⟩

theorem length_dateForm (hd : d.isValid = true) : (dateForm d).length = 10 := by
  obtain ⟨hyear, -, hmonth, hday⟩ := parts_lt hd
  rw [dateForm, Text.zeroFilled_four hyear, Text.zeroFilled_two hmonth, Text.zeroFilled_two hday]
  rfl

theorem dateLength_dateForm (hd : d.isValid = true) (t : Text) :
    dateLength (dateForm d ++ t) = some 10 := by
  obtain ⟨hyear, -, hmonth, -⟩ := parts_lt hd
  have hlength : (dateForm d ++ t).length ≠ 7 := by
    rw [List.length_append, length_dateForm hd]
    omega
  rw [dateLength, if_neg hlength, dateForm, Text.zeroFilled_four hyear, Text.zeroFilled_two hmonth]
  simp only [List.cons_append, List.nil_append, List.drop_succ_cons, List.drop_zero]
  split
  next heq =>
    injection heq with _ htail
    injection htail with hweek
    exact absurd hweek (Text.digitChar_ne (by decide) _)
  next => rfl
  next heq => cases heq
  next hdash _ => exact absurd rfl (hdash _)

theorem calendarDate_dateForm (hd : d.isValid = true) : calendarDate (dateForm d) = some d := by
  obtain ⟨hyear, hvalue, hmonth, hday⟩ := parts_lt hd
  have hend := digits_two hday []
  rw [List.append_nil] at hend
  rw [calendarDate, dateForm]
  simp only [List.append_assoc, List.cons_append]
  rw [digits_four hyear]
  simp only [Option.bind_eq_bind, Option.bind_some, List.head?_cons, BEq.rfl, if_true,
    List.drop_succ_cons, List.drop_zero]
  split
  next heq =>
    rw [Text.zeroFilled_two hmonth] at heq
    injection heq with hweek
    exact absurd hweek (Text.digitChar_ne (by decide) _)
  next =>
    simp only [digits_two hmonth, dash, Option.bind_some, hend, if_true, List.isEmpty_nil]
    exact congrArg (fun y => some (Date.mk y d.month d.day)) hvalue

/-- A dash is no month, so a date in the calendar form starts no text in the compact form. -/
theorem compact_dateForm (hd : d.isValid = true) (t : Text) : compact (dateForm d ++ t) = none := by
  have hnone : compactReadings (dateForm d ++ t) = [] := by
    obtain ⟨hyear, -, hmonth, -⟩ := parts_lt hd
    rw [compactReadings, dateForm, Text.zeroFilled_two hmonth]
    simp only [List.append_assoc]
    rw [years_zeroFilled hyear]
    rfl
  rw [compact, hnone]

/-! ## Times -/

/-- The parts of a time of day or of an offset with colons between them. -/
def timeForm (parts : List Nat) : Text := Text.join ":" (parts.map (Text.zeroFilled 2))

/-- What stands behind a time of day: the letter `Z`, or how far the clock that shows that time is
ahead, or behind. -/
inductive Zone where
  /-- The letter `Z`. -/
  | utc
  /-- An offset. -/
  | offset (behind : Bool) (hour minute : Nat)
deriving DecidableEq, Repr

namespace Zone

/-- A zone as it is written. -/
def form : Zone → Text
  | utc => "Z"
  | offset behind hour minute => (if behind then '-' else '+') :: timeForm [hour, minute]

/-- The seconds that a clock is ahead. -/
def seconds : Zone → Int
  | utc => 0
  | offset behind hour minute =>
      if behind then -(hour * 3600 + minute * 60 : Nat) else (hour * 3600 + minute * 60 : Nat)

/-- An offset is less than a day, its minutes of two digits. -/
def Proper : Zone → Prop
  | utc => True
  | offset _ hour minute => hour * 60 + minute < 24 * 60 ∧ minute < 100

end Zone

/-- A date and a time of day in the calendar form. -/
def calendarForm (f : Fields) (z : Zone) : Text :=
  dateForm f.date ++ 'T' :: timeForm [f.hour, f.minute, f.second] ++ z.form

example : calendarForm ⟨⟨702, 6, 15⟩, 9, 30, 0⟩ (.offset true 5 30) =
    "0702-06-15T09:30:00-05:30" := by
  decide

/-- A part of a time is read up to its colon. -/
theorem spanFrom_colon (more : Nat) (parts : List Nat) {n : Nat} (hn : n < 100) (c : Char)
    (t : Text) :
    spanFrom (more + 1) true parts (Text.zeroFilled 2 n ++ ':' :: c :: t) =
      spanFrom more true (parts ++ [n]) (c :: t) := by
  rw [spanFrom, digits_two hn]
  simp only [BEq.rfl, ite_self, Bool.true_and, decide_true, if_true]

/-- The last part of a time is read up to the end. -/
theorem spanFrom_end (more : Nat) (parts : List Nat) {n : Nat} (hn : n < 100) :
    spanFrom (more + 1) true parts (Text.zeroFilled 2 n) =
      some (.ofParts (parts ++ [n]) 0 false) := by
  have hread := digits_two hn []
  rw [List.append_nil] at hread
  rw [spanFrom, hread]

theorem timeForm_cons {n : Nat} (hn : n < 100) (parts : List Nat) :
    ∃ c t, timeForm (n :: parts) = c :: t := by
  have hdigits := Text.zeroFilled_two hn
  cases parts with
  | nil => exact ⟨_, _, hdigits⟩
  | cons m parts =>
      rw [timeForm, List.map_cons, hdigits]
      exact ⟨_, _, rfl⟩

/-- The parts of a time are read back. -/
theorem spanFrom_timeForm {rest : List Nat} (hne : rest ≠ []) (hrest : ∀ n ∈ rest, n < 100)
    {more : Nat} (hmore : rest.length ≤ more) (parts : List Nat) :
    spanFrom more true parts (timeForm rest) = some (.ofParts (parts ++ rest) 0 false) := by
  induction rest generalizing more parts with
  | nil => exact absurd rfl hne
  | cons n rest ih =>
      obtain ⟨more, rfl⟩ := Nat.exists_eq_add_of_le' (Nat.le_trans (Nat.succ_pos _) hmore)
      rw [List.forall_mem_cons] at hrest
      cases rest with
      | nil => exact spanFrom_end more parts hrest.1
      | cons m rest =>
          have hnext := ih (List.cons_ne_nil _ _) hrest.2 (Nat.le_of_succ_le_succ hmore)
            (parts ++ [n])
          obtain ⟨c, t, ht⟩ := timeForm_cons (hrest.2 m (.head _)) rest
          have hform : timeForm (n :: m :: rest) =
              Text.zeroFilled 2 n ++ ':' :: timeForm (m :: rest) :=
            List.append_assoc _ _ _
          rw [ht] at hform hnext
          rw [hform, spanFrom_colon more parts hrest.1, hnext, List.append_assoc]
          rfl

theorem mem_timeForm {parts : List Nat} {c : Char} (h : c ∈ timeForm parts) :
    Text.isDigit c = true ∨ c = ':' := by
  induction parts with
  | nil => cases h
  | cons n parts ih =>
      cases parts with
      | nil => exact .inl (Text.isDigit_of_mem_zeroFilled h)
      | cons m parts =>
          rcases List.mem_append.1 h with h | h
          · rcases List.mem_append.1 h with h | h
            · exact .inl (Text.isDigit_of_mem_zeroFilled h)
            · exact .inr (List.mem_singleton.1 h)
          · exact ih h

theorem not_mem_timeForm {c : Char} (hdigit : Text.isDigit c = false) (hcolon : c ≠ ':')
    (parts : List Nat) : c ∉ timeForm parts := by
  intro h
  rcases mem_timeForm h with h | h
  · exact Bool.false_ne_true (hdigit.symm.trans h)
  · exact hcolon h

theorem isSign_of_mem_timeForm {parts : List Nat} {c : Char} (h : c ∈ timeForm parts) :
    isSign c = false := by
  refine Bool.eq_false_iff.2 fun hsign => ?_
  rcases Bool.or_eq_true_iff.1 hsign with hc | hc
  · exact not_mem_timeForm (by decide) (by decide) parts (beq_iff_eq.1 hc ▸ h)
  · exact not_mem_timeForm (by decide) (by decide) parts (beq_iff_eq.1 hc ▸ h)

/-- An offset is read back. -/
theorem offset_timeForm {hour minute : Nat} (hproper : hour * 60 + minute < 24 * 60)
    (hminute : minute < 100) (behind : Bool) :
    offset (if behind then '-' else '+') (timeForm [hour, minute]) =
      some ((Zone.offset behind hour minute).seconds * 1000000) := by
  have hparts : ∀ n ∈ [hour, minute], n < 100 := by
    simp only [List.forall_mem_cons, List.not_mem_nil, false_implies, implies_true, and_true]
    omega
  have hspan : span (timeForm [hour, minute]) = some ⟨hour, minute, 0, 0, false⟩ :=
    spanFrom_timeForm (List.cons_ne_nil _ _) hparts (Nat.le_succ 2) []
  have hmicros : (if ((hour * 3600 + minute * 60 + 0 : Nat) : Int) = 0 then 0
      else ((hour * 3600 + minute * 60 + 0 : Nat) : Int) * 1000000 + (0 : Nat)) =
        (hour * 3600 + minute * 60 : Nat) * 1000000 := by
    split <;> omega
  have hday : ¬ (86400 * 1000000 ≤ ((hour * 3600 + minute * 60 : Nat) : Int) * 1000000) := by omega
  rw [offset, hspan, Zone.seconds]
  simp only [Option.bind_eq_bind, Option.bind_some, hmicros, hday, decide_false, Bool.or_self,
    Bool.false_eq_true, if_false]
  cases behind with
  | false => rfl
  | true =>
      simp only [if_true, Int.neg_mul]
      rfl

/-- A time of day is read back, less its offset. -/
theorem calendarTime_form {f : Fields} (hf : f.Proper) {hour minute : Nat}
    (hproper : hour * 60 + minute < 24 * 60) (hminute : minute < 100) (behind : Bool) :
    calendarTime (timeForm [f.hour, f.minute, f.second] ++ (Zone.offset behind hour minute).form) =
      some (((f.hour * 3600 + f.minute * 60 + f.second : Nat) -
        (Zone.offset behind hour minute).seconds) * 1000000) := by
  have hparts : ∀ n ∈ [f.hour, f.minute, f.second], n < 100 := by
    have := hf.hour
    have := hf.minute
    have := hf.second
    simp only [List.forall_mem_cons, List.not_mem_nil, false_implies, implies_true, and_true]
    omega
  have hspan : span (timeForm [f.hour, f.minute, f.second]) =
      some ⟨f.hour, f.minute, f.second, 0, false⟩ :=
    spanFrom_timeForm (List.cons_ne_nil _ _) hparts (Nat.le_refl 3) []
  have hsigns : ∀ c ∈ timeForm [f.hour, f.minute, f.second], (!isSign c) = true := fun c hc => by
    rw [isSign_of_mem_timeForm hc]
    rfl
  have hsign : (!isSign (if behind then '-' else '+')) = false := by cases behind <;> rfl
  rw [calendarTime, List.takeWhile_append_of_pos hsigns, List.dropWhile_append_of_pos hsigns,
    Zone.form, List.takeWhile_cons_of_neg (by simp [hsign]),
    List.dropWhile_cons_of_neg (by simp [hsign]), List.append_nil, hspan]
  simp only [Option.bind_eq_bind, Option.bind_some, offset_timeForm hproper hminute, hf.hour,
    hf.minute, hf.second, decide_true, Bool.and_self, if_true]
  exact congrArg some (by omega)

/-! ## Whole texts -/

theorem wholeSeconds_mul {s : Int} (hs : s.natAbs < 2 ^ 52) : wholeSeconds (s * 1000000) = s := by
  have hnegative : decide (s * 1000000 < 0) = decide (s < 0) := by
    rw [decide_eq_decide]
    omega
  rw [wholeSeconds, Int.natAbs_mul, hnegative,
    show (1000000 : Int).natAbs = 1000000 from rfl,
    Binary.truncated_ofRatio_mul _ hs (by decide), Option.getD_some]
  simp only [decide_eq_true_eq]
  split <;> omega

theorem seconds_lt {z : Zone} (hz : z.Proper) : z.seconds.natAbs < 86400 := by
  cases z with
  | utc => decide
  | offset behind hour minute =>
      obtain ⟨hproper, -⟩ := hz
      rw [Zone.seconds]
      split <;> omega

/-- The moments of the calendar are small. -/
theorem ofDate_natAbs_lt {f : Fields} (hf : f.Proper) :
    (Moment.ofDate f.date f.hour f.minute f.second).natAbs < 2 ^ 40 := by
  have hdays := Date.toDays_bounds hf.date
  have hyears : Date.daysBeforeYear 10000 = 3652059 := by decide
  have hhour := hf.hour
  have hminute := hf.minute
  have hsecond := hf.second
  rw [hyears, Date.epoch] at hdays
  rw [Moment.ofDate, Moment.daySeconds]
  omega

theorem calendar_calendarForm {f : Fields} (hf : f.Proper) {hour minute : Nat} {behind : Bool}
    (hz : (Zone.offset behind hour minute).Proper) :
    calendar (calendarForm f (.offset behind hour minute)) =
      some (Moment.ofDate f.date f.hour f.minute f.second -
        (Zone.offset behind hour minute).seconds) := by
  have hlength := length_dateForm hf.date
  have hlong : ¬ (calendarForm f (.offset behind hour minute)).length < 7 := by
    rw [calendarForm, List.append_assoc, List.length_append, hlength]
    omega
  have hmicros (shift : Int) : f.date.toDays * (86400 * 1000000) +
      ((f.hour * 3600 + f.minute * 60 + f.second : Nat) - shift) * 1000000 =
        (Moment.ofDate f.date f.hour f.minute f.second - shift) * 1000000 := by
    rw [Moment.ofDate, Moment.daySeconds]
    omega
  have hsmall := ofDate_natAbs_lt hf
  have hshift := seconds_lt hz
  rw [calendar, if_neg hlong, calendarForm, List.append_assoc, dateLength_dateForm hf.date]
  simp only [Option.bind_eq_bind, Option.bind_some]
  rw [List.take_left' hlength, List.drop_left' hlength, calendarDate_dateForm hf.date]
  simp only [Option.bind_some, List.cons_append, calendarTime_form hf hz.1 hz.2, hf.date, if_true,
    hmicros]
  exact congrArg some (wholeSeconds_mul (by omega))

theorem mem_dateForm {c : Char} (h : c ∈ dateForm d) : Text.isDigit c = true ∨ c = '-' := by
  rcases List.mem_append.1 h with h | h
  · rcases List.mem_append.1 h with h | h
    · exact .inl (Text.isDigit_of_mem_zeroFilled h)
    · exact (List.mem_cons.1 h).symm.imp_left Text.isDigit_of_mem_zeroFilled
  · exact (List.mem_cons.1 h).symm.imp_left Text.isDigit_of_mem_zeroFilled

/-- The letter `Z` stands for an offset of nothing, and offsets stay as they are. -/
theorem replaceChar_calendarForm (f : Fields) (z : Zone) :
    ∃ behind hour minute, Text.replaceChar 'Z' "+00:00" (calendarForm f z) =
        calendarForm f (.offset behind hour minute) ∧
      (Zone.offset behind hour minute).seconds = z.seconds ∧
      (z.Proper → (Zone.offset behind hour minute).Proper) := by
  have hfront : 'Z' ∉ dateForm f.date ++ 'T' :: timeForm [f.hour, f.minute, f.second] := by
    intro h
    rcases List.mem_append.1 h with h | h
    · rcases mem_dateForm h with h | h <;> exact absurd h (by decide)
    · rcases List.mem_cons.1 h with h | h
      · exact absurd h (by decide)
      · exact not_mem_timeForm (by decide) (by decide) _ h
  cases z with
  | utc =>
      refine ⟨false, 0, 0, ?_, rfl, fun _ => ⟨by decide, by decide⟩⟩
      rw [calendarForm, Text.replaceChar, List.flatMap_append, ← Text.replaceChar,
        Text.replaceChar_eq_self hfront, calendarForm]
      rfl
  | offset behind hour minute =>
      refine ⟨behind, hour, minute, Text.replaceChar_eq_self ?_ _, rfl, id⟩
      intro h
      rcases List.mem_append.1 h with h | h
      · exact hfront h
      · rcases List.mem_cons.1 h with h | h
        · cases behind <;> exact absurd h (by decide)
        · exact not_mem_timeForm (by decide) (by decide) _ h

/-- A moment in the calendar form is read back. -/
theorem read_calendarForm {f : Fields} (hf : f.Proper) {z : Zone} (hz : z.Proper) :
    read (calendarForm f z) =
      some (Moment.ofDate f.date f.hour f.minute f.second - z.seconds) := by
  obtain ⟨behind, hour, minute, hreplaced, hseconds, hproper⟩ := replaceChar_calendarForm f z
  have hnone : compact (calendarForm f z) = none := by
    rw [calendarForm, List.append_assoc]
    exact compact_dateForm hf.date _
  rw [read, hnone, Option.orElse_none, hreplaced, ← hseconds,
    calendar_calendarForm hf (hproper hz)]

/-- A moment in the compact form is read back as in the calendar form. -/
theorem read_compactForm {f : Fields} (hf : f.Proper) :
    read (compactForm f) = some (Moment.ofDate f.date f.hour f.minute f.second) := by
  rw [read, compact_compactForm hf]
  rfl

end Stamp

end TaskBrowser
