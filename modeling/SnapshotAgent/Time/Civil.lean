/-!
# Civil dates

Dates of the proleptic Gregorian calendar, counted as days from 1970-01-01. `Date.toDays` and
`Date.ofDays` convert both ways through 400-year eras of 146097 days, with the year taken to
start on the first of March so that the leap day falls at its end.

`weekday` gives the day of the week, Sunday first, and `weekday_range` bounds it.
-/

namespace SnapshotAgent.Time

/-- A calendar date: year, month `1..12` and day of month `1..31`. -/
structure Date where
  year : Int
  month : Nat
  day : Nat
  deriving Repr, DecidableEq

/-- A leap year is divisible by four, and by 400 when divisible by 100. -/
def isLeapYear (y : Int) : Bool :=
  y % 4 == 0 && (y % 100 != 0 || y % 400 == 0)

/-- The number of days of a month in a year. -/
def daysInMonth (y : Int) (m : Nat) : Nat :=
  match m with
  | 1 | 3 | 5 | 7 | 8 | 10 | 12 => 31
  | 4 | 6 | 9 | 11 => 30
  | 2 => if isLeapYear y then 29 else 28
  | _ => 0

/-- A valid date has a month from 1 to 12 and a day within that month. -/
def Date.isValid (d : Date) : Bool :=
  1 ≤ d.month && d.month ≤ 12 && 1 ≤ d.day && d.day ≤ daysInMonth d.year d.month

/-- The days from 1970-01-01 to a date (negative before it). -/
def Date.toDays (d : Date) : Int :=
  let y : Int := if d.month ≤ 2 then d.year - 1 else d.year
  let era := y / 400
  let yoe := y - era * 400
  let mp : Int := if d.month > 2 then (d.month : Int) - 3 else (d.month : Int) + 9
  let doy := (153 * mp + 2) / 5 + d.day - 1
  let doe := yoe * 365 + yoe / 4 - yoe / 100 + doy
  era * 146097 + doe - 719468

/-- The date that lies a number of days after 1970-01-01. -/
def Date.ofDays (z : Int) : Date :=
  let z := z + 719468
  let era := z / 146097
  let doe := z - era * 146097
  let yoe := (doe - doe / 1460 + doe / 36524 - doe / 146096) / 365
  let doy := doe - (365 * yoe + yoe / 4 - yoe / 100)
  let mp := (5 * doy + 2) / 153
  let day := doy - (153 * mp + 2) / 5 + 1
  let month := if mp < 10 then mp + 3 else mp - 9
  let year := yoe + era * 400 + (if month ≤ 2 then 1 else 0)
  ⟨year, month.toNat, day.toNat⟩

/-- The day of the week of a day count, from 1 for Sunday to 7 for Saturday. 1970-01-01 was a
Thursday. -/
def weekday (days : Int) : Nat :=
  ((days + 4) % 7).toNat + 1

/-- A day count's weekday lies in `1..7`. -/
theorem weekday_range (days : Int) : 1 ≤ weekday days ∧ weekday days ≤ 7 := by
  unfold weekday
  omega

/-- Every month has at most 31 days. -/
theorem daysInMonth_le (y : Int) (m : Nat) : daysInMonth y m ≤ 31 := by
  unfold daysInMonth
  split <;> (try split) <;> omega

end SnapshotAgent.Time
