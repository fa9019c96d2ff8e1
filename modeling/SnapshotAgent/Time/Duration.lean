/-!
# Durations

A non-negative length of time in whole seconds and nanoseconds, as configuration values and
timeouts are kept. `Duration.text` writes it in the largest unit that has a whole part: `5s`,
`1.5s`, `100ms`, `250µs`, `7ns`, with the fraction's trailing zeros dropped.
-/

namespace SnapshotAgent.Time

/-- A length of time: whole seconds and the nanoseconds beyond them (below `10^9`). -/
structure Duration where
  secs : Nat
  nanos : Nat
  deriving Repr, DecidableEq, Inhabited

/-- A duration of whole seconds. -/
def Duration.ofSecs (s : Nat) : Duration := ⟨s, 0⟩

/-- A duration of milliseconds. -/
def Duration.ofMillis (ms : Nat) : Duration := ⟨ms / 1000, ms % 1000 * 1000000⟩

/-- The whole duration in nanoseconds. -/
def Duration.totalNanos (d : Duration) : Nat := d.secs * 1000000000 + d.nanos

/-- The zero duration. -/
def Duration.zero : Duration := ⟨0, 0⟩

/-- The largest count of whole seconds a duration holds: the largest 64-bit number. -/
def Duration.maxSecs : Nat := 18446744073709551615

/-- The longest duration: the most seconds, and a nanosecond short of one more. -/
def Duration.max : Duration := ⟨Duration.maxSecs, 999999999⟩

/-- A duration times a count, or the longest duration when the product has too many seconds.
The nanoseconds are multiplied apart and their whole seconds carried. -/
def Duration.saturatingMul (d : Duration) (k : Nat) : Duration :=
  let nanos := d.nanos * k
  let secs := d.secs * k + nanos / 1000000000
  if secs ≤ Duration.maxSecs then ⟨secs, nanos % 1000000000⟩ else Duration.max

/-- The digits of a fraction `frac / (10 * unit)` after the point, without trailing zeros. -/
def fractionDigits (frac width : Nat) : String :=
  let s := toString frac
  let padded := String.ofList (List.replicate (width - s.length) '0') ++ s
  String.ofList (padded.toList.reverse.dropWhile (· = '0')).reverse

/-- A whole part, a fraction of `width` digits, and a unit. -/
def decimalWithUnit (whole frac width : Nat) (unit : String) : String :=
  if frac = 0 then toString whole ++ unit
  else toString whole ++ "." ++ fractionDigits frac width ++ unit

/-- The text of a duration in the largest unit with a whole part. -/
def Duration.text (d : Duration) : String :=
  if d.secs > 0 then decimalWithUnit d.secs d.nanos 9 "s"
  else if d.nanos ≥ 1000000 then decimalWithUnit (d.nanos / 1000000) (d.nanos % 1000000) 6 "ms"
  else if d.nanos ≥ 1000 then decimalWithUnit (d.nanos / 1000) (d.nanos % 1000) 3 "µs"
  else toString d.nanos ++ "ns"

/-- A product that fits is exact, and one that does not is the longest duration. -/
theorem Duration.saturatingMul_totalNanos (d : Duration) (k : Nat) :
    (d.saturatingMul k).totalNanos = min (d.totalNanos * k) Duration.max.totalNanos := by
  have hk : d.totalNanos * k = d.secs * k * 1000000000 + d.nanos * k := by
    simp only [Duration.totalNanos, Nat.add_mul, Nat.mul_right_comm]
  rw [hk]
  unfold Duration.saturatingMul
  by_cases h : d.secs * k + d.nanos * k / 1000000000 ≤ Duration.maxSecs
  · rw [if_pos h]
    simp only [Duration.totalNanos, Duration.max, Duration.maxSecs] at h ⊢
    omega
  · rw [if_neg h]
    simp only [Duration.totalNanos, Duration.max, Duration.maxSecs] at h ⊢
    omega

/-- A product is always a duration the clock can hold. -/
theorem Duration.saturatingMul_fits (d : Duration) (k : Nat) :
    (d.saturatingMul k).secs ≤ Duration.maxSecs ∧ (d.saturatingMul k).nanos < 1000000000 := by
  unfold Duration.saturatingMul
  by_cases h : d.secs * k + d.nanos * k / 1000000000 ≤ Duration.maxSecs
  · rw [if_pos h]
    exact ⟨h, Nat.mod_lt _ (by decide)⟩
  · rw [if_neg h]
    simp [Duration.max]

/-- Milliseconds never carry into more than the milliseconds' own seconds. -/
theorem Duration.ofMillis_totalNanos (ms : Nat) :
    (Duration.ofMillis ms).totalNanos = ms * 1000000 := by
  simp [Duration.ofMillis, Duration.totalNanos]
  omega

end SnapshotAgent.Time
