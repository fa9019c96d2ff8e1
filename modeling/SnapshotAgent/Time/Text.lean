import SnapshotAgent.Time.Instant
/-!
# Writing and reading instants

Two textual forms of an instant:

* RFC 3339, `2025-01-01T10:00:00.500Z`: the fraction of a second is written only when it is not
  zero, with 3, 6 or 9 digits, the fewest that hold it; the zone is `Z` or `+00:00`.
* The plain form `2025-01-01 10:00:00`, with no fraction and no zone, used in reports and in the
  tool's status lines.

Reading RFC 3339 accepts `T`, `t` or a blank between date and time, any number of fraction digits
(the first nine count), and a zone `Z`, `z` or `±HH:MM` of at most 23:59, which is subtracted to
reach UTC. A second of 60 is read as a leap second.
-/

namespace SnapshotAgent.Time

/-- A natural number written with at least `width` digits, padded with zeros. -/
def padded (width n : Nat) : String :=
  let s := toString n
  String.ofList (List.replicate (width - s.length) '0') ++ s

/-- A year written with four digits, and a sign outside `0..9999`. -/
def yearText (y : Int) : String :=
  if y < 0 then "-" ++ padded 4 y.natAbs
  else if y > 9999 then "+" ++ toString y
  else padded 4 y.toNat

/-- The date and time of day, `YYYY-MM-DD` then `sep` then `HH:MM:SS`; a leap second is `:60`. -/
def Instant.dateTimeText (t : Instant) (sep : String) : String :=
  let d := t.date
  let sec := if t.nano ≥ nanosPerSecond then 60 else t.secondOfMinute
  yearText d.year ++ "-" ++ padded 2 d.month ++ "-" ++ padded 2 d.day ++ sep ++
    padded 2 t.hour ++ ":" ++ padded 2 t.minute ++ ":" ++ padded 2 sec

/-- The fraction of a second with 3, 6 or 9 digits, the fewest that hold it; empty when zero. -/
def fractionText (nano : Nat) : String :=
  let n := nano % nanosPerSecond
  if n = 0 then ""
  else if n % 1000000 = 0 then "." ++ padded 3 (n / 1000000)
  else if n % 1000 = 0 then "." ++ padded 6 (n / 1000)
  else "." ++ padded 9 n

/-- RFC 3339 text in UTC with zone `Z`. -/
def Instant.rfc3339 (t : Instant) : String :=
  t.dateTimeText "T" ++ fractionText t.nano ++ "Z"

/-- RFC 3339 text in UTC with zone `+00:00`, the form stored in the database. -/
def Instant.rfc3339Offset (t : Instant) : String :=
  t.dateTimeText "T" ++ fractionText t.nano ++ "+00:00"

/-- The plain form `YYYY-MM-DD HH:MM:SS`. -/
def Instant.plainText (t : Instant) : String :=
  t.dateTimeText " "

/-- Reads exactly `n` ASCII digits; answers the value and the rest. -/
def takeDigits : Nat → List Char → Nat → Option (Nat × List Char)
  | 0, cs, acc => some (acc, cs)
  | n + 1, c :: cs, acc => if c.isDigit then takeDigits n cs (acc * 10 + (c.toNat - 48)) else none
  | _ + 1, [], _ => none

/-- Reads a run of ASCII digits of which the first nine count, as nanoseconds; at least one. -/
def takeFraction (cs : List Char) : Option (Nat × List Char) :=
  let ds := cs.takeWhile Char.isDigit
  if ds.isEmpty then none
  else
    let first := ds.take 9
    let v := first.foldl (fun acc c => acc * 10 + (c.toNat - 48)) 0
    some (v * Nat.pow 10 (9 - first.length), cs.dropWhile Char.isDigit)

/-- Expects one character. -/
def expectChar (c : Char) : List Char → Option (List Char)
  | d :: cs => if d = c then some cs else none
  | [] => none

/-- The fields of a date and time as written, before any range check. -/
structure DateTimeFields where
  year : Nat
  month : Nat
  day : Nat
  hour : Nat
  minute : Nat
  second : Nat
  nano : Nat

/-- The instant that written fields name, offset by `offsetSeconds` east of UTC; none when a
field is out of range. -/
def DateTimeFields.toInstant (f : DateTimeFields) (offsetSeconds : Int) : Option Instant :=
  let date : Date := ⟨f.year, f.month, f.day⟩
  if !date.isValid || f.hour > 23 || f.minute > 59 || f.second > 60 then none
  else
    let (sec, nano) := if f.second = 60 then (59, f.nano + nanosPerSecond) else (f.second, f.nano)
    let wall := (f.hour * 3600 + f.minute * 60 + sec : Int) - offsetSeconds
    let days := date.toDays + wall / 86400
    some ⟨days, (wall % 86400).toNat, nano⟩

/-- Reads the date `YYYY-MM-DD`, a separator, and the time `HH:MM:SS`. -/
def readDateTime (cs : List Char) (separators : List Char) :
    Option (DateTimeFields × List Char) := do
  let (y, cs) ← takeDigits 4 cs 0
  let cs ← expectChar '-' cs
  let (mo, cs) ← takeDigits 2 cs 0
  let cs ← expectChar '-' cs
  let (d, cs) ← takeDigits 2 cs 0
  let cs ← match cs with
    | c :: r => if separators.contains c then some r else none
    | [] => none
  let (h, cs) ← takeDigits 2 cs 0
  let cs ← expectChar ':' cs
  let (mi, cs) ← takeDigits 2 cs 0
  let cs ← expectChar ':' cs
  let (s, cs) ← takeDigits 2 cs 0
  pure (⟨y, mo, d, h, mi, s, 0⟩, cs)

/-- Reads a zone: `Z`, `z`, or a sign (`+`, `-` or the minus sign U+2212), two hour digits, a
colon and two minute digits; answers the offset east of UTC in seconds. -/
def readZone (cs : List Char) : Option (Int × List Char) :=
  match cs with
  | 'Z' :: r => some (0, r)
  | 'z' :: r => some (0, r)
  | c :: r =>
    let negative := c = '-' || c = '−'
    if c = '+' || negative then do
      let (h, r) ← takeDigits 2 r 0
      let r ← expectChar ':' r
      let (m, r) ← takeDigits 2 r 0
      if m > 59 then none
      else
        let secs : Int := h * 3600 + m * 60
        some (if negative then -secs else secs, r)
    else none
  | [] => none

/-- Reads an RFC 3339 timestamp into an instant in UTC. -/
def Instant.readRfc3339 (s : String) : Option Instant := do
  let (f, cs) ← readDateTime s.toList ['T', 't', ' ']
  let (f, cs) ← match cs with
    | '.' :: r => (takeFraction r).map fun (n, r) => ({ f with nano := n }, r)
    | _ => some (f, cs)
  let (offset, rest) ← readZone cs
  if !rest.isEmpty || offset.natAbs > 23 * 3600 + 59 * 60 then none
  else f.toInstant offset

/-- Reads the plain form `YYYY-MM-DD HH:MM:SS` as UTC. -/
def Instant.readPlain (s : String) : Option Instant := do
  let (f, rest) ← readDateTime s.toList [' ']
  if !rest.isEmpty then none else f.toInstant 0

end SnapshotAgent.Time
