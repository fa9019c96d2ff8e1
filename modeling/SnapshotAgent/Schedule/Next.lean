import SnapshotAgent.Schedule.Parse
import SnapshotAgent.Time.Instant
/-!
# When a schedule fires next

`CronSchedule.after t` is the first whole second strictly after `t` that the schedule allows: its
year, month, day, hour, minute and second are each among the field's values, and its day is
both an allowed day of the month and an allowed day of the week. Years run from 1970 to 2100, so
there may be none.

The search counts like an odometer from the second after `t`: at each unit it takes the first
allowed value not below the start's, and the start's lower units only while every higher unit
still equals the start's; a day of the wrong weekday is skipped whole.
-/

namespace SnapshotAgent.Schedule

open SnapshotAgent.Time

/-- The allowed values not below `lo`, in order. -/
def valuesFrom (vs : List Nat) (lo : Nat) : List Nat := vs.filter (lo ≤ ·)

/-- The first allowed second of a minute not below `lo`. -/
def firstSecond (s : CronSchedule) (lo : Nat) : Option Nat := (valuesFrom s.seconds lo).head?

/-- The first allowed minute and second of an hour, from `(m0, s0)` when `onPath`. -/
def firstMinute (s : CronSchedule) (onPath : Bool) (m0 s0 : Nat) : Option (Nat × Nat) :=
  let rec go : List Nat → Option (Nat × Nat)
    | [] => none
    | m :: ms =>
      match firstSecond s (if onPath && m = m0 then s0 else 0) with
      | some sec => some (m, sec)
      | none => go ms
  go (valuesFrom s.minutes (if onPath then m0 else 0))

/-- The first allowed time of a day, from `(h0, m0, s0)` when `onPath`. -/
def firstTime (s : CronSchedule) (onPath : Bool) (h0 m0 s0 : Nat) : Option (Nat × Nat × Nat) :=
  let rec go : List Nat → Option (Nat × Nat × Nat)
    | [] => none
    | h :: hs =>
      match firstMinute s (onPath && h = h0) m0 s0 with
      | some (m, sec) => some (h, m, sec)
      | none => go hs
  go (valuesFrom s.hours (if onPath then h0 else 0))

/-- The first allowed day and time of a month, from the start's day and time when `onPath`. -/
def firstDay (s : CronSchedule) (y : Int) (mo : Nat) (onPath : Bool) (d0 h0 m0 s0 : Nat) :
    Option (Nat × Nat × Nat × Nat) :=
  let last := daysInMonth y mo
  let lo := if onPath then min d0 last else 1
  let rec go : List Nat → Option (Nat × Nat × Nat × Nat)
    | [] => none
    | d :: ds =>
      let days := Date.toDays ⟨y, mo, d⟩
      if !s.daysOfWeek.contains (weekday days) then go ds
      else
        match firstTime s (onPath && d = d0) h0 m0 s0 with
        | some (h, m, sec) => some (d, h, m, sec)
        | none => go ds
  go ((valuesFrom s.daysOfMonth lo).filter (· ≤ last))

/-- The first allowed month, day and time of a year, from the start's when `onPath`. -/
def firstMonth (s : CronSchedule) (y : Int) (onPath : Bool) (mo0 d0 h0 m0 s0 : Nat) :
    Option (Nat × Nat × Nat × Nat × Nat) :=
  let rec go : List Nat → Option (Nat × Nat × Nat × Nat × Nat)
    | [] => none
    | mo :: mos =>
      match firstDay s y mo (onPath && mo = mo0) d0 h0 m0 s0 with
      | some (d, h, m, sec) => some (mo, d, h, m, sec)
      | none => go mos
  go (valuesFrom s.months (if onPath then mo0 else 1))

/-- The first allowed second at or after a start instant, at whole-second resolution. -/
def CronSchedule.firstFrom (s : CronSchedule) (start : Instant) : Option Instant :=
  let date := start.date
  let rec go : List Nat → Option Instant
    | [] => none
    | y :: ys =>
      let onPath := (y : Int) = date.year
      match firstMonth s y onPath date.month date.day start.hour start.minute
          start.secondOfMinute with
      | some (mo, d, h, m, sec) => some (Instant.ofDate ⟨y, mo, d⟩ h m sec 0)
      | none => go ys
  go (s.years.filter fun y => date.year ≤ (y : Int))

/-- The first time the schedule fires strictly after `t`. -/
def CronSchedule.after (s : CronSchedule) (t : Instant) : Option Instant :=
  s.firstFrom (t.addSeconds 1)

/-- Where the search for the next fire time starts: the previous fire time, if any, or now,
whichever is later. -/
def searchFrom (previous : Option Instant) (now : Instant) : Instant :=
  match previous with
  | some p => p.latest now
  | none => now

/-- The next fire time after both the previous fire time, if any, and now. -/
def CronSchedule.nextFire (s : CronSchedule) (previous : Option Instant) (now : Instant) : Option Instant :=
  s.after (searchFrom previous now)

/-- The instants a job's ticker launches the job at, given the search for the first fire time
strictly after an instant and the clock's reading at each turn of the ticker: each turn searches
from the last launch and its reading, and the ticker stops when the search finds nothing. -/
def tickLaunches (after : Instant → Option Instant) : Option Instant → List Instant → List Instant
  | _, [] => []
  | previous, now :: readings =>
    match after (searchFrom previous now) with
    | some t => t :: tickLaunches after (some t) readings
    | none => []

/-- The fire times a scheduler would see with a frozen clock: each the next after the last. -/
def CronSchedule.fireSequence (s : CronSchedule) (now : Instant) (n : Nat) (previous : Option Instant) :
    List Instant :=
  tickLaunches s.after previous (List.replicate n now)

end SnapshotAgent.Schedule
