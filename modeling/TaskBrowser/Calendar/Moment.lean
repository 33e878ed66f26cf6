import TaskBrowser.Calendar.Date
import TaskBrowser.Fault

/-!
# Moments

A *moment* is a point in time as seconds since the start of 1970 by universal time.  A clock shows
the time of its own place, which is ahead of universal time by an offset that may be another one at
another moment.  The task list shows a moment by its month and day when it lies in the current year
and by its full date otherwise, years without leading zeros.

Moments are counted in 64 bits and years in 32 bits, and the calendar ends with the year 9999.  To
find out whether the clock was put back, moments before the one that is shown are looked at too
(`Moment.probes`), and they must lie in the calendar as well.
-/

namespace TaskBrowser

/-- A clock and its reading. -/
structure Clock where
  /-- The seconds by which the clock is ahead of universal time at a moment. -/
  offset : Int → Int
  /-- The date. -/
  date : Date
  /-- The hour. -/
  hour : Nat
  /-- The minute. -/
  minute : Nat

/-- A clock that shows universal time. -/
def Clock.universal (year : Int) (month day hour minute : Nat) : Clock :=
  ⟨fun _ => 0, ⟨year, month, day⟩, hour, minute⟩

namespace Moment

/-- The seconds of a day. -/
def daySeconds : Int := 86400

/-- The seconds from the start of 1970 to a time of a date. -/
def ofDate (d : Date) (hour minute second : Nat) : Int :=
  d.toDays * daySeconds + (hour * 3600 + minute * 60 + second : Nat)

/-- Whether an integer fits in the given number of bits, one of them for the sign. -/
def fits (bits : Nat) (n : Int) : Bool := -Int.pow 2 (bits - 1) ≤ n && n < Int.pow 2 (bits - 1)

/-- Whether a year is one of the calendar. -/
def inCalendar (y : Int) : Bool := 1 ≤ y && y ≤ 9999

/-- The date that a clock shows at a moment, if it has one. -/
def localDate (offset : Int → Int) (t : Int) : Except Crash Date :=
  let d := Date.ofDays ((t + offset t) / daySeconds)
  if !fits 32 (d.year - 1900) then .error .yearTooLarge
  else if !inCalendar d.year then .error (.yearOutOfRange (Int.bmod d.year (Nat.pow 2 32)))
  else .ok d

/-- The moments that are looked at besides the one that is shown: the one a day earlier and, if the
clock was put back since then, the one at which it showed the same time before. -/
def probes (offset : Int → Int) (t : Int) : List Int :=
  let earlier := t - daySeconds
  let back := offset t - offset earlier
  if back < 0 then [earlier, t + back] else [earlier]

/-- The date of a moment, if it can be shown. -/
def date (offset : Int → Int) (t : Int) : Except Crash Date :=
  if !fits 64 t then .error .secondsOutOfRange
  else
    match localDate offset t with
    | .error c => .error c
    | .ok d => ((probes offset t).mapM (localDate offset)).map fun _ => d

/-- The month by its name and the day of a date. -/
def shortDate (d : Date) : Text := Date.monthName d.month ++ " " ++ Text.zeroFilled 2 d.day

/-- The year, the month and the day of a date. -/
def fullDate (d : Date) : Text :=
  Text.ofInt d.year ++ "-" ++ Text.zeroFilled 2 d.month ++ "-" ++ Text.zeroFilled 2 d.day

/-- A date as shown in a year. -/
def dateIn (year : Int) (d : Date) : Text := if d.year = year then shortDate d else fullDate d

/-- A moment as shown at another; zero stands for the current one. -/
def shown (t : Int) (now : Clock) : Except Crash Text :=
  if t = 0 then .ok (shortDate now.date)
  else (date now.offset t).map (dateIn now.date.year)

end Moment

/-- The time of day on a clock. -/
def Clock.time (c : Clock) : Text :=
  Text.zeroFilled 2 c.hour ++ ":" ++ Text.zeroFilled 2 c.minute

example : (Moment.shown 1718450000 (.universal 2024 6 1 9 30)).toOption =
    some ("Jun 15" : Text) := by decide +kernel
example : (Moment.shown (-40000000000) (.universal 2024 6 1 9 30)).toOption =
    some ("702-06-15" : Text) := by decide +kernel
example : (Moment.shown 1718409600 ⟨fun _ => -14400, ⟨2024, 6, 1⟩, 9, 30⟩).toOption =
    some ("Jun 14" : Text) := by decide +kernel
example : Clock.time (.universal 2024 6 1 9 5) = "09:05" := by decide

end TaskBrowser
