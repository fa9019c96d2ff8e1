import SnapshotAgent.Config.Toml.Error
/-!
# TOML date-times

A bare word that starts with digits followed by `-` or `:` is a date-time, checked by this
grammar:

```text
date-time  ::= date (("T" | "t" | " ") time offset?)? | time
date       ::= digits "-" digits "-" digits      -- YYYY-MM-DD, a day that exists
time       ::= digits ":" digits (":" digits ("." digits)?)?   -- HH:MM[:SS[.fraction]]
offset     ::= "Z" | "z" | ("+" | "-") digits ":" digits        -- HH:MM, within a day
```

The text is cut into digit runs and single marks first; the checks then run in order and the
first that fails names the part and what it expected: `invalid date, expected a two-digit
month (MM)`, `invalid date, expected day between 01 and 28` (February of a common year),
`invalid offset, expected hours between 00 and 23`. Seconds may be left out, and a time alone
has no offset. A failure that names no part reads `invalid datetime`.
-/

namespace SnapshotAgent.Config.Toml

/-- The pieces a date-time is cut into. -/
inductive StampPiece where
  | digits (ds : List Char)
  | dash
  | colon
  | dot
  | delimiterT
  | space
  | zulu
  | plus
  | unknown
  deriving Repr, DecidableEq, Inhabited

/-- The next piece of a date-time text; anything unknown swallows the rest. -/
def nextStampPiece : List Char → Option (StampPiece × List Char)
  | [] => none
  | c :: r =>
    if c.isDigit then
      let ds := (c :: r).takeWhile Char.isDigit
      some (.digits ds, r.drop (ds.length - 1))
    else if c = '-' then some (.dash, r)
    else if c = ':' then some (.colon, r)
    else if c = '.' then some (.dot, r)
    else if c = 'T' || c = 't' then some (.delimiterT, r)
    else if c = ' ' then some (.space, r)
    else if c = 'Z' || c = 'z' then some (.zulu, r)
    else if c = '+' then some (.plus, r)
    else some (.unknown, [])

/-- A date-time failure: the part it names, and what was expected. -/
def stampError (what : Option String) (expected : Option String) : ReadError :=
  let head := match what with
    | some w => "invalid " ++ w
    | none => "invalid datetime"
  .plain (match expected with
    | some e => head ++ ", expected " ++ e
    | none => head)

/-- The value of a run of ASCII digits. -/
def stampValue (ds : List Char) : Nat :=
  ds.foldl (fun acc d => acc * 10 + (d.toNat - 48)) 0

/-- Reads the next piece, which must be a digit run; refuses with `what` and `expected`. -/
def stampDigits (what : Option String) (expected : String) (cs : List Char) :
    Except ReadError (List Char × List Char) :=
  match nextStampPiece cs with
  | some (.digits ds, r) => .ok (ds, r)
  | _ => .error (stampError what (some expected))

/-- Reads the next piece, which must be `p`. -/
def stampMark (p : StampPiece) (what : Option String) (expected : String) (cs : List Char) :
    Except ReadError (List Char) :=
  match nextStampPiece cs with
  | some (q, r) => if q = p then .ok r else .error (stampError what (some expected))
  | none => .error (stampError what (some expected))

/-- Whether a year is a leap year. -/
def isLeapYear (y : Nat) : Bool := y % 4 = 0 && (y % 100 ≠ 0 || y % 400 = 0)

/-- Checks a date; answers the rest of the text. -/
def checkDate (year : List Char) (cs : List Char) : Except ReadError (List Char) := do
  let (month, cs) ← stampDigits (some "date") "month" cs
  let cs ← stampMark .dash (some "date") "`-` (MM-DD)" cs
  let (day, cs) ← stampDigits (some "date") "day" cs
  if year.length ≠ 4 then throw (stampError (some "date") (some "a four-digit year (YYYY)"))
  if month.length ≠ 2 then throw (stampError (some "date") (some "a two-digit month (MM)"))
  if day.length ≠ 2 then throw (stampError (some "date") (some "a two-digit day (DD)"))
  let y := stampValue year
  let m := stampValue month
  let d := stampValue day
  if m < 1 || m > 12 then throw (stampError (some "date") (some "month between 01 and 12"))
  let (most, expected) :=
    if m = 2 then (if isLeapYear y then (29, "day between 01 and 29") else (28, "day between 01 and 28"))
    else if m = 4 || m = 6 || m = 9 || m = 11 then (30, "day between 01 and 30")
    else (31, "day between 01 and 31")
  if d < 1 || d > most then throw (stampError (some "date") (some expected))
  pure cs

/-- Checks a time of day; answers the rest of the text. -/
def checkTime (cs : List Char) : Except ReadError (List Char) := do
  let (hour, cs) ← stampDigits (some "time") "hour" cs
  let cs ← stampMark .colon (some "time") "`:` (HH:MM)" cs
  let (minute, cs) ← stampDigits (some "time") "minute" cs
  let (second, cs) ← match nextStampPiece cs with
    | some (.colon, r) => do
      let (s, r) ← stampDigits (some "time") "second" r
      pure (some s, r)
    | _ => pure (none, cs)
  let cs ← match second, nextStampPiece cs with
    | some _, some (.dot, r) => do
      let (_, r) ← stampDigits (some "time") "nanosecond" r
      pure r
    | _, _ => pure cs
  if hour.length ≠ 2 then throw (stampError (some "time") (some "a two-digit hour (HH)"))
  if minute.length ≠ 2 then throw (stampError (some "time") (some "a two-digit minute (MM)"))
  if (second.map List.length).getD 2 ≠ 2 then
    throw (stampError (some "time") (some "a two-digit second (SS)"))
  if stampValue hour > 23 then throw (stampError (some "time") (some "hour between 00 and 23"))
  if stampValue minute > 59 then
    throw (stampError (some "time") (some "minute between 00 and 59"))
  if (second.map stampValue).getD 0 > 60 then
    throw (stampError (some "time") (some "second between 00 and 60"))
  pure cs

/-- Checks an optional offset after a date and time; answers the rest of the text. -/
def checkOffset (cs : List Char) : Except ReadError (List Char) :=
  match nextStampPiece cs with
  | none => .ok cs
  | some (.zulu, r) => .ok r
  | some (.plus, r) | some (.dash, r) => do
    let (hours, r) ← stampDigits (some "offset") "hour" r
    let r ← stampMark .colon (some "offset") "`:` (HH:MM)" r
    let (minutes, r) ← stampDigits (some "offset") "minute" r
    if hours.length ≠ 2 then throw (stampError (some "offset") (some "a two-digit hour (HH)"))
    if minutes.length ≠ 2 then
      throw (stampError (some "offset") (some "a two-digit minute (MM)"))
    if stampValue hours > 23 then
      throw (stampError (some "offset") (some "hours between 00 and 23"))
    if stampValue minutes > 59 then
      throw (stampError (some "offset") (some "minutes between 00 and 59"))
    pure r
  | some _ => .error (stampError (some "offset") (some "`Z`, +OFFSET, -OFFSET"))

/-- Checks a date-time text. -/
def checkDatetime (text : List Char) : Except ReadError Unit := do
  let (first, cs) ← match nextStampPiece text with
    | some (.digits ds, r) => pure (ds, r)
    | _ => throw (stampError none (some "year or hour"))
  match nextStampPiece cs with
  | some (.dash, r) =>
    let cs ← checkDate first r
    match nextStampPiece cs with
    | some (.delimiterT, r) | some (.space, r) =>
      let cs ← checkTime r
      let cs ← checkOffset cs
      if cs.isEmpty then pure () else throw (stampError none none)
    | some _ => throw (stampError (some "date-time") (some "`T` between date and time"))
    | none => pure ()
  | some (.colon, _) =>
    let cs ← checkTime text
    if cs.isEmpty then pure () else throw (stampError none none)
  | _ => throw (stampError none (some "`-` (YYYY-MM) or `:` (HH:MM)"))

/-- A local date in a common year ends February on the 28th. -/
theorem checkDatetime_february :
    checkDatetime "1979-02-30".toList =
      .error (.plain "invalid date, expected day between 01 and 28") := by
  rfl

end SnapshotAgent.Config.Toml
