import SnapshotAgent.Time.Duration
import SnapshotAgent.Text.Lower
import SnapshotAgent.Text.Blank
import SnapshotAgent.Number.Integer
/-!
# Durations in configuration

Timeouts and delays are written as a count and a unit: `250ms`, `3s`, `5m`, `2h`. The text is
trimmed; the count is the run of ASCII digits at its start and must fit 64 bits; the unit is the
rest, trimmed and compared in lower case. Seconds, minutes and hours are multiplied out to
seconds, and a product beyond 64 bits is refused.
-/

namespace SnapshotAgent.Config

open SnapshotAgent.Time SnapshotAgent.Text SnapshotAgent.Number

/-- Why a duration text is refused. -/
inductive DurationError where
  | empty
  | missingUnit (text : String)
  | badNumber (digits : String) (cause : IntegerError)
  | tooLarge (text : String)
  | badUnit (unit : String)
  deriving Repr, DecidableEq

/-- The message of each refusal. -/
def DurationError.message : DurationError → String
  | .empty => "empty duration string"
  | .missingUnit t => "duration '" ++ t ++ "' is missing a unit (ms, s, m, h)"
  | .badNumber d e => "invalid duration number '" ++ d ++ "': " ++ e.message
  | .tooLarge t => "duration '" ++ t ++ "' is too large"
  | .badUnit u => "unsupported duration unit '" ++ u ++ "'; expected ms, s, m, or h"

/-- The greatest count of seconds a duration may hold. -/
def maxSeconds : Nat := 18446744073709551615

/-- Reads a duration such as `250ms` or `2h`. -/
def parseDuration (s : String) : Except DurationError Duration :=
  let t := trim s
  if t.isEmpty then .error .empty
  else
    let cs := t.toList
    let digits := cs.takeWhile Char.isDigit
    let unitPart := cs.dropWhile Char.isDigit
    if unitPart.isEmpty then .error (.missingUnit t)
    else
      match readU64 (String.ofList digits) with
      | .error e => .error (.badNumber (String.ofList digits) e)
      | .ok value =>
        let seconds (mult : Nat) : Except DurationError Duration :=
          if value * mult > maxSeconds then .error (.tooLarge t) else .ok (Duration.ofSecs (value * mult))
        let unit := lower (trim (String.ofList unitPart))
        if unit = "ms" then .ok (Duration.ofMillis value)
        else if unit = "s" then seconds 1
        else if unit = "m" then seconds 60
        else if unit = "h" then seconds 3600
        else .error (.badUnit unit)

end SnapshotAgent.Config
