import Mathlib
import TaskBrowser.Proofs.Calendar.Reading

/-!
# Moments read and shown

The moment that a task is given in either of its written forms is the number of seconds from the
start of 1970.  A clock shows it by the date that it reads at that moment, as long as it reads a
date of the calendar at the moments looked at besides (`date_of_reading`).  A clock that shows
universal time so shows the date that the text named, for all dates but the first: the day before it
lies in the calendar too (`date_ofDate`).
-/

namespace TaskBrowser

open Stamp (Fields Zone)

theorem Export.moment_text {t : Text} {s : Int} (h : Stamp.read t = some s) :
    Export.moment (.text t) = pure s := by
  have hnone : Stamp.read [] = none := by decide
  cases t with
  | nil => cases hnone.symm.trans h
  | cons c t => simp only [moment, Json.plain, h]

namespace Moment

variable {f : Fields}

/-- A moment lies on the date that it was made of, and a day earlier on the one before. -/
theorem ofDate_div (hf : f.Proper) :
    ofDate f.date f.hour f.minute f.second / daySeconds = f.date.toDays ∧
      (ofDate f.date f.hour f.minute f.second - daySeconds) / daySeconds = f.date.toDays - 1 := by
  have hhour := hf.hour
  have hminute := hf.minute
  have hsecond := hf.second
  rw [ofDate, daySeconds]
  omega

theorem fits_ofDate (hf : f.Proper) : fits 64 (ofDate f.date f.hour f.minute f.second) = true := by
  have hsmall := Stamp.ofDate_natAbs_lt hf
  have hbound : Int.pow 2 (64 - 1) = 9223372036854775808 := rfl
  rw [fits, hbound, Bool.and_eq_true, decide_eq_true_eq, decide_eq_true_eq]
  omega

/-- A date of the calendar is the date of its days. -/
theorem localDate_of_days {offset : Int → Int} {t : Int} {d : Date} (hd : d.isValid = true)
    (ht : (t + offset t) / daySeconds = d.toDays) : localDate offset t = .ok d := by
  obtain ⟨hlow, hhigh, hdate⟩ := Date.isValid_iff.1 hd
  have hyear : fits 32 (d.year - 1900) = true := by
    have hbound : Int.pow 2 (32 - 1) = 2147483648 := rfl
    rw [fits, hbound, Bool.and_eq_true, decide_eq_true_eq, decide_eq_true_eq]
    omega
  have hcalendar : inCalendar d.year = true := by
    rw [inCalendar, decide_eq_true hlow, decide_eq_true hhigh]
    rfl
  rw [localDate, ht, hdate.ofDays_toDays]
  simp only [hyear, hcalendar, Bool.not_true, Bool.false_eq_true, if_false]

/-- A moment is shown by the date that the clock reads then, if it reads a date whenever it is
looked at. -/
theorem date_of_reading {offset : Int → Int} {t : Int} {g : Fields} (ht : fits 64 t = true)
    (hg : g.Proper) (hreading : ofDate g.date g.hour g.minute g.second = t + offset t)
    (hprobes : ∀ u ∈ probes offset t, ∃ d, localDate offset u = .ok d) :
    date offset t = .ok g.date := by
  have hdays : (t + offset t) / daySeconds = g.date.toDays := by
    rw [← hreading]
    exact (ofDate_div hg).1
  have hlooked : ∃ ds, (probes offset t).mapM (localDate offset) = .ok ds := by
    generalize probes offset t = us at hprobes
    induction us with
    | nil => exact ⟨[], rfl⟩
    | cons u us ih =>
        obtain ⟨⟨d, hd⟩, hus⟩ := List.forall_mem_cons.1 hprobes
        obtain ⟨ds, hds⟩ := ih hus
        refine ⟨d :: ds, ?_⟩
        rw [List.mapM_cons, hd, hds]
        rfl
  obtain ⟨ds, hds⟩ := hlooked
  rw [date, ht, localDate_of_days hg.date hdays, hds]
  rfl

/-- Where universal time is shown, a moment of any date but the first of the calendar is shown by
that date. -/
theorem date_ofDate {offset : Int → Int} (hf : f.Proper) (hne : f.date ≠ ⟨1, 1, 1⟩)
    (hnow : offset (ofDate f.date f.hour f.minute f.second) = 0)
    (hbefore : offset (ofDate f.date f.hour f.minute f.second - daySeconds) = 0) :
    date offset (ofDate f.date f.hour f.minute f.second) = .ok f.date := by
  refine date_of_reading (fits_ofDate hf) hf (by rw [hnow, Int.add_zero]) ?_
  obtain ⟨d, hd, hprevious⟩ := Date.exists_previous hf.date hne
  rw [probes]
  rw [hnow, hbefore, if_neg (by decide)]
  refine List.forall_mem_singleton.2 ⟨d, localDate_of_days hd ?_⟩
  rw [hbefore, Int.add_zero, (ofDate_div hf).2, hprevious]

end Moment

end TaskBrowser
