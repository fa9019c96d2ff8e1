import SnapshotAgent.Time.Civil
/-!
# Instants and spans of time

An `Instant` is a moment in UTC: a day (counted from 1970-01-01), a second of that day and a
nanosecond of that second. A leap second is the second of the day's last minute whose
nanosecond count runs from `10^9` to `2·10^9 - 1`: it is written `:60` and sorts after `:59`.

A `Span` is a signed number of nanoseconds. `Instant.since` measures the span between two
instants; a leap second counts as one extra second only when the measurement crosses it, as the
time-of-day arithmetic of the clock library the agent keeps time with does.
-/

namespace SnapshotAgent.Time

/-- A moment in UTC. -/
structure Instant where
  /-- Days since 1970-01-01. -/
  days : Int
  /-- Second of the day, below 86400. -/
  second : Nat
  /-- Nanosecond of the second; at least `10^9` only during a leap second. -/
  nano : Nat
  deriving Repr, DecidableEq, Inhabited

/-- The nanoseconds in one second. -/
def nanosPerSecond : Nat := 1000000000

/-- The instant a number of nanoseconds after 1970-01-01T00:00:00Z (before it when negative). -/
def Instant.ofUnixNanos (n : Int) : Instant :=
  let secs := n.fdiv 1000000000
  ⟨secs.fdiv 86400, (secs.fmod 86400).toNat, (n.fmod 1000000000).toNat⟩

/-- The order of instants: by day, then second, then nanosecond. -/
def Instant.key (t : Instant) : Int × Nat × Nat := (t.days, t.second, t.nano)

/-- `a` is before `b`. -/
def Instant.before (a b : Instant) : Bool :=
  a.days < b.days || (a.days == b.days && (a.second < b.second ||
    (a.second == b.second && a.nano < b.nano)))

/-- The later of two instants. -/
def Instant.latest (a b : Instant) : Instant := if a.before b then b else a

/-- The instant at a time of day on a date. -/
def Instant.ofDate (d : Date) (hour minute second nano : Nat) : Instant :=
  ⟨d.toDays, hour * 3600 + minute * 60 + second, nano⟩

/-- The calendar date of an instant. -/
def Instant.date (t : Instant) : Date := Date.ofDays t.days

/-- The hour of the day. -/
def Instant.hour (t : Instant) : Nat := t.second / 3600

/-- The minute of the hour. -/
def Instant.minute (t : Instant) : Nat := t.second / 60 % 60

/-- The second of the minute; a leap second reports 59. -/
def Instant.secondOfMinute (t : Instant) : Nat := t.second % 60

/-- A signed span of time in nanoseconds. -/
structure Span where
  nanos : Int
  deriving Repr, DecidableEq, Inhabited

/-- The whole seconds of a span, rounded toward zero. -/
def Span.wholeSeconds (s : Span) : Int := s.nanos.tdiv 1000000000

/-- The whole milliseconds of a span, rounded toward zero. -/
def Span.wholeMillis (s : Span) : Int := s.nanos.tdiv 1000000

/-- A span of whole seconds. -/
def Span.ofSeconds (n : Int) : Span := ⟨n * 1000000000⟩

/-- The span from `b` to `a` (positive when `a` is later). Within a day, a leap second at `b` is
counted when `a` is in a later second, and a leap second at `a` is dropped when `a` is in an
earlier second than `b`. -/
def Instant.since (a b : Instant) : Span :=
  let secs : Int := (a.second : Int) - b.second
  let secs :=
    if a.second > b.second && b.nano ≥ nanosPerSecond then secs + 1
    else if a.second < b.second && a.nano ≥ nanosPerSecond then secs - 1
    else secs
  let frac : Int := (a.nano : Int) - b.nano
  ⟨(a.days - b.days) * 86400 * 1000000000 + secs * 1000000000 + frac⟩

/-- Moves an instant forward by whole seconds; a leap second is first taken as the second before
the next minute, and the nanoseconds are kept. -/
def Instant.addSeconds (t : Instant) (n : Nat) : Instant :=
  let nano := if t.nano ≥ nanosPerSecond && n > 0 then t.nano - nanosPerSecond else t.nano
  let total := t.second + n
  ⟨t.days + (total / 86400 : Nat), total % 86400, nano⟩

/-- The span from an instant to itself is empty. -/
@[simp] theorem Instant.since_self (a : Instant) : a.since a = ⟨0⟩ := by
  simp [Instant.since]

/-- Of two instants, the later one is one of them. -/
theorem Instant.latest_eq (a b : Instant) : a.latest b = a ∨ a.latest b = b := by
  unfold Instant.latest
  split <;> simp

end SnapshotAgent.Time
