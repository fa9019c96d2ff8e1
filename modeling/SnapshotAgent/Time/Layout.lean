import SnapshotAgent.Time.Text
import SnapshotAgent.Text.Blank
/-!
# Reading date-times by layout

A layout lists the fields of a date-time text and the characters between them, as a
`strftime`-style pattern does: `%Y-%m-%d %H:%M:%S%.f%:z` is a year, a dash, a month, and so on.
Reading a text by a layout walks both together:

* a numeric field skips blanks before it, then reads up to two digits (four for a year); a year
  with a sign reads any number of digits. A field out of its range (month `1..12`, day `1..31`,
  hour `0..23`, minute `0..59`, second `0..60`) fails;
* a fraction is optional: a point, then digits of which the first nine count;
* an offset skips blanks, then reads a sign, two hour digits, any colons or blanks, and two
  minute digits; where the layout allows it, `Z` or `z` stands for zero;
* any other character of the layout must stand in the text;
* nothing may be left over.

What the fields name is then checked as a whole: the day must exist in its month and the year
lie within `-262143..262142`. A second of 60 is a leap second.

`decodeStamp` reads a stored timestamp text: as RFC 3339 first, then by twelve layouts in turn,
each taken with its offset when it has one, and else as UTC.
-/

namespace SnapshotAgent.Time

/-- One element of a layout. -/
inductive LayoutItem where
  /-- Up to four digits, or a sign and any number of digits. -/
  | year
  | month
  | day
  | hour
  | minute
  | second
  /-- An optional fraction of a second. -/
  | fraction
  /-- A zone offset; with `zulu`, `Z` or `z` stands for zero. -/
  | offset (zulu : Bool)
  /-- A character that must stand in the text. -/
  | mark (c : Char)
  deriving Repr, DecidableEq, Inhabited

/-- The fields a layout has read so far. -/
structure LayoutFields where
  year : Option Int := none
  month : Option Nat := none
  day : Option Nat := none
  hour : Option Nat := none
  minute : Option Nat := none
  second : Option Nat := none
  nano : Option Nat := none
  offset : Option Int := none
  deriving Repr, Inhabited

/-- The value of a run of ASCII digits. -/
def digitsValue (ds : List Char) : Nat :=
  ds.foldl (fun acc d => acc * 10 + (d.toNat - 48)) 0

/-- Reads between one and `width` ASCII digits; answers their value and the rest. -/
def readDigits (width : Nat) (cs : List Char) : Option (Nat × List Char) :=
  let ds := (cs.take width).takeWhile Char.isDigit
  if ds.isEmpty then none else some (digitsValue ds, cs.drop ds.length)

/-- Reads a year: a sign and any digits, or up to four digits. Values beyond 32 bits fail. -/
def readYear (cs : List Char) : Option (Int × List Char) := do
  let (v, rest) ← match cs with
    | '-' :: r =>
      let ds := r.takeWhile Char.isDigit
      if ds.isEmpty then none else some (-(digitsValue ds : Int), r.drop ds.length)
    | '+' :: r =>
      let ds := r.takeWhile Char.isDigit
      if ds.isEmpty then none else some ((digitsValue ds : Int), r.drop ds.length)
    | r => (readDigits 4 r).map fun (v, rest) => ((v : Int), rest)
  if -2147483648 ≤ v && v ≤ 2147483647 then some (v, rest) else none

/-- Reads a fraction of a second after its point: at least one digit, of which the first nine
count. -/
def readNanos (cs : List Char) : Option (Nat × List Char) :=
  let ds := cs.takeWhile Char.isDigit
  if ds.isEmpty then none
  else
    let first := ds.take 9
    some (digitsValue first * Nat.pow 10 (9 - first.length), cs.drop ds.length)

/-- Reads a zone offset: a sign (`+`, `-` or U+2212), two hour digits, any colons or blanks,
and two minute digits of which the first is at most 5; answers seconds east of UTC. -/
def readLayoutOffset (zulu : Bool) (cs : List Char) : Option (Int × List Char) :=
  match cs with
  | c :: r =>
    if zulu && (c = 'Z' || c = 'z') then some (0, r)
    else if c = '+' || c = '-' || c = '−' then
      match r with
      | h1 :: h2 :: r =>
        if !(h1.isDigit && h2.isDigit) then none
        else
          let r := r.dropWhile fun ch => ch = ':' || Text.isBlank ch
          match r with
          | m1 :: m2 :: r =>
            if m1.isDigit && m1.toNat ≤ 53 && m2.isDigit then
              let secs : Int := (digitsValue [h1, h2] * 3600 + digitsValue [m1, m2] * 60 : Nat)
              some (if c = '+' then secs else -secs, r)
            else none
          | _ => none
      | _ => none
    else none
  | [] => none

/-- Reads a numeric field, skipping blanks before it, and checks its range. -/
def readField (width lo hi : Nat) (cs : List Char) : Option (Nat × List Char) := do
  let (v, rest) ← readDigits width (cs.dropWhile Text.isBlank)
  if lo ≤ v && v ≤ hi then some (v, rest) else none

/-- Reads a text by a layout into its fields; nothing may be left over. -/
def readLayout : List LayoutItem → List Char → LayoutFields → Option LayoutFields
  | [], cs, f => if cs.isEmpty then some f else none
  | item :: items, cs, f =>
    match item with
    | .year => do
      let (v, r) ← readYear (cs.dropWhile Text.isBlank)
      readLayout items r { f with year := some v }
    | .month => do
      let (v, r) ← readField 2 1 12 cs
      readLayout items r { f with month := some v }
    | .day => do
      let (v, r) ← readField 2 1 31 cs
      readLayout items r { f with day := some v }
    | .hour => do
      let (v, r) ← readField 2 0 23 cs
      readLayout items r { f with hour := some v }
    | .minute => do
      let (v, r) ← readField 2 0 59 cs
      readLayout items r { f with minute := some v }
    | .second => do
      let (v, r) ← readField 2 0 60 cs
      readLayout items r { f with second := some v }
    | .fraction =>
      match cs with
      | '.' :: r => do
        let (n, r) ← readNanos r
        readLayout items r { f with nano := some n }
      | _ => readLayout items cs f
    | .offset zulu => do
      let (o, r) ← readLayoutOffset zulu (cs.dropWhile Text.isBlank)
      readLayout items r { f with offset := some o }
    | .mark c =>
      match cs with
      | d :: r => if c = d then readLayout items r f else none
      | [] => none

/-- Whether a year lies within the range of dates the clock can name. -/
def yearInRange (y : Int) : Bool := -262143 ≤ y && y ≤ 262142

/-- The instant a date and time of day name, `offsetSeconds` east of UTC; none when the day
does not exist or the instant falls outside the range of dates. -/
def Instant.ofWall (d : Date) (hour minute second nano : Nat) (offsetSeconds : Int) :
    Option Instant :=
  if !d.isValid || !yearInRange d.year then none
  else
    let (sec, nano) := if second = 60 then (59, nano + nanosPerSecond) else (second, nano)
    let wall := (hour * 3600 + minute * 60 + sec : Int) - offsetSeconds
    let t : Instant := ⟨d.toDays + wall.fdiv 86400, (wall.fmod 86400).toNat, nano⟩
    if yearInRange t.date.year then some t else none

/-- The instant the fields name: at their offset when `withOffset` (which then must be read and
lie within a day), else as UTC. -/
def LayoutFields.instant (f : LayoutFields) (withOffset : Bool) : Option Instant := do
  let y ← f.year
  let m ← f.month
  let d ← f.day
  let h ← f.hour
  let mi ← f.minute
  let offset ← if withOffset then f.offset else some 0
  if offset.natAbs ≥ 86400 then none
  else Instant.ofWall ⟨y, m, d⟩ h mi (f.second.getD 0) (f.nano.getD 0) offset

/-- The layouts a stored timestamp is tried with, in order: a date, a blank or `T`, hours and
minutes with or without seconds and a fraction, then nothing, `Z` or an offset. -/
def storedLayouts : List (List LayoutItem) :=
  let date : List LayoutItem := [.year, .mark '-', .month, .mark '-', .day]
  let hm : List LayoutItem := [.hour, .mark ':', .minute]
  let hms : List LayoutItem := hm ++ [.mark ':', .second, .fraction]
  [date ++ [.mark ' '] ++ hms,
   date ++ [.mark ' '] ++ hm,
   date ++ [.mark ' '] ++ hm ++ [.mark 'Z'],
   date ++ [.mark ' '] ++ hm ++ [.offset false],
   date ++ [.mark ' '] ++ hms ++ [.mark 'Z'],
   date ++ [.mark ' '] ++ hms ++ [.offset false],
   date ++ [.mark 'T'] ++ hm,
   date ++ [.mark 'T'] ++ hm ++ [.mark 'Z'],
   date ++ [.mark 'T'] ++ hm ++ [.offset false],
   date ++ [.mark 'T'] ++ hms,
   date ++ [.mark 'T'] ++ hms ++ [.mark 'Z'],
   date ++ [.mark 'T'] ++ hms ++ [.offset false]]

/-- Reads a stored timestamp text: RFC 3339, else the first layout that reads it, with its
offset when one was read and lies within a day, else as UTC. -/
def decodeStamp (s : String) : Option Instant :=
  match Instant.readRfc3339 s with
  | some t => some t
  | none =>
    storedLayouts.findSome? fun items =>
      (readLayout items s.toList {}).bind fun f =>
        (f.instant true).orElse fun _ => f.instant false

/-- A date with a one-digit month and day and a one-digit hour reads. -/
theorem decodeStamp_short_fields :
    decodeStamp "2025-1-5 3:04:05" = some ⟨20093, 11045, 0⟩ := by
  decide +kernel

end SnapshotAgent.Time
