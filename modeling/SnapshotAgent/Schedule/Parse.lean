import SnapshotAgent.Schedule.Field
import SnapshotAgent.Text.Blank
/-!
# Reading cron expressions

The agent reads its schedules with the `cron` crate (0.15); this file and `Schedule.Next` state
what that crate does, reading an expression and searching for its next fire time.

An expression has six fields: `sec min hour day-of-month month day-of-week`. The grammar is
read as parsing expressions, each choice taking its first alternative that succeeds:

```text
expression ::= shorthand | field field field field-any field field-any [field]
shorthand  ::= ws* ("@yearly" | "@monthly" | "@weekly" | "@daily" | "@hourly") ws*
field      ::= ws* root ("," root)* ws*
root       ::= spec "/" number | spec | name
spec       ::= "*" | number "-" number | number | name "-" name     -- and "?" in field-any
number     ::= ws* ASCII-digit+ ws*        name ::= ws* ASCII-letter+ ws*
```

Blanks (`ws`: space, tab, CR, LF) may stand inside a specifier, around its numbers and names,
so `0 -5` is the range from 0 to 5 and `1*` is two fields. A year field may end the fields, and
the whole input must be read. A `, root` whose root cannot be read is left unread.

A refusal carries the place where reading stopped and a message. A field whose specifiers do not
make sense (`Unit.ordinals`) is refused at the start of the field, with the reason; an
expression that does not follow the grammar is refused where the grammar stopped, with no
message. `CronError.render` shows where: a caret under the byte offset on a one-line expression,
and on one with line breaks the line and column, the line itself and a caret under the column.
-/

namespace SnapshotAgent.Schedule

open SnapshotAgent.Text

/-- A schedule as the `cron` crate reads it: the values each unit allows. -/
structure CronSchedule where
  seconds : List Nat
  minutes : List Nat
  hours : List Nat
  daysOfMonth : List Nat
  months : List Nat
  daysOfWeek : List Nat
  years : List Nat
  deriving Repr, DecidableEq

/-- A refusal: where it was found (the unread input) and why (empty for a grammar error). -/
structure Refusal where
  rest : List Char
  message : String

/-- A reading step: the value and the unread input, or a refusal. -/
abbrev Reading (α : Type) := Except Refusal (α × List Char)

/-- Skips spaces, tabs, carriage returns and line feeds. -/
def skipSpace (cs : List Char) : List Char :=
  cs.dropWhile fun c => c = ' ' || c = '\t' || c = '\r' || c = '\n'

/-- Reads a run of ASCII digits as a number that fits 32 bits. -/
def readNumber (cs : List Char) : Option (Nat × List Char) :=
  let ds := cs.takeWhile Char.isDigit
  if ds.isEmpty then none
  else
    let v := ds.foldl (fun acc d => acc * 10 + (d.toNat - 48)) 0
    if v > 4294967295 then none else some (v, cs.drop ds.length)

/-- Reads a run of ASCII letters. -/
def readName (cs : List Char) : Option (String × List Char) :=
  let ls := cs.takeWhile Char.isAlpha
  if ls.isEmpty then none else some (String.ofList ls, cs.drop ls.length)

/-- Reads a number with the blanks before and after it. -/
def readOrdinal (cs : List Char) : Option (Nat × List Char) :=
  (readNumber (skipSpace cs)).map fun (v, r) => (v, skipSpace r)

/-- Reads a name with the blanks before and after it. -/
def readLabel (cs : List Char) : Option (String × List Char) :=
  (readName (skipSpace cs)).map fun (n, r) => (n, skipSpace r)

/-- Reads a specifier; `withAny` admits `?`. The first alternative that reads wins: `*`, a
range, a point, a named range. -/
def readSpec (withAny : Bool) (cs : List Char) : Option (Spec × List Char) :=
  match cs with
  | '?' :: r => if withAny then some (.all, r) else readSpecPlain cs
  | _ => readSpecPlain cs
where
  readSpecPlain (cs : List Char) : Option (Spec × List Char) :=
    match cs with
    | '*' :: r => some (.all, r)
    | _ =>
      match readOrdinal cs with
      | some (a, '-' :: r) =>
        match readOrdinal r with
        | some (b, r') => some (.range a b, r')
        | none => some (.point a, '-' :: r)
      | some (a, r) => some (.point a, r)
      | none =>
        match readLabel cs with
        | some (a, '-' :: r) =>
          match readLabel r with
          | some (b, r') => some (.namedRange a b, r')
          | none => none
        | _ => none

/-- Reads a root specifier: a period, a specifier or a named point. -/
def readRoot (withAny : Bool) (cs : List Char) : Option (RootSpec × List Char) :=
  match readSpec withAny cs with
  | some (s, '/' :: r) =>
    match readOrdinal r with
    | some (step, r') => some (.period s step, r')
    | none => some (.spec s, '/' :: r)
  | some (s, r) => some (.spec s, r)
  | none => (readLabel cs).map fun (n, r) => (.namedPoint n, r)

/-- Reads further `, root` items; a comma not followed by a root is left unread. -/
def readMore (withAny : Bool) : Nat → List Char → List RootSpec × List Char
  | 0, cs => ([], cs)
  | fuel + 1, cs =>
    match cs with
    | ',' :: r =>
      match readRoot withAny r with
      | some (x, r') =>
        let (xs, r'') := readMore withAny fuel r'
        (x :: xs, r'')
      | none => ([], cs)
    | _ => ([], cs)

/-- Reads one field's specifiers, with the blanks around them. -/
def readSpecs (withAny : Bool) (cs : List Char) : Reading (List RootSpec) :=
  let start := skipSpace cs
  match readRoot withAny start with
  | some (x, r) =>
    let (xs, r') := readMore withAny r.length r
    .ok (x :: xs, skipSpace r')
  | none => .error ⟨start, ""⟩

/-- Reads a field of a unit and turns it into the values it allows; a field that does not make
sense is refused at its start. -/
def readField (u : Unit) (withAny : Bool) (cs : List Char) : Reading (List Nat) :=
  match readSpecs withAny cs with
  | .error e => .error e
  | .ok (specs, r) =>
    match u.ordinals specs with
    | .ok vs => .ok (vs, r)
    | .error m => .error ⟨cs, m⟩

/-- Reads the six fields, an optional year field, and the end of the expression. -/
def readLonghand (cs : List Char) : Except Refusal CronSchedule := do
  let (seconds, cs) ← readField Unit.seconds false cs
  let (minutes, cs) ← readField Unit.minutes false cs
  let (hours, cs) ← readField Unit.hours false cs
  let (daysOfMonth, cs) ← readField Unit.daysOfMonth true cs
  let (months, cs) ← readField Unit.months false cs
  let (daysOfWeek, cs) ← readField Unit.daysOfWeek true cs
  let (years, cs) := match readField Unit.years false cs with
    | .ok (ys, r) => (ys, r)
    | .error _ => (Unit.years.allValues, cs)
  if cs.isEmpty then pure ⟨seconds, minutes, hours, daysOfMonth, months, daysOfWeek, years⟩
  else throw ⟨cs, ""⟩

/-- The schedules named by a keyword. -/
def shorthands : List (String × CronSchedule) :=
  let every (u : Unit) := u.allValues
  [("@yearly", ⟨[0], [0], [0], [1], [1], every Unit.daysOfWeek, every Unit.years⟩),
   ("@monthly", ⟨[0], [0], [0], [1], every Unit.months, every Unit.daysOfWeek, every Unit.years⟩),
   ("@weekly", ⟨[0], [0], [0], every Unit.daysOfMonth, every Unit.months, [1], every Unit.years⟩),
   ("@daily", ⟨[0], [0], [0], every Unit.daysOfMonth, every Unit.months, every Unit.daysOfWeek,
     every Unit.years⟩),
   ("@hourly", ⟨[0], [0], every Unit.hours, every Unit.daysOfMonth, every Unit.months,
     every Unit.daysOfWeek, every Unit.years⟩)]

/-- The schedule of a keyword at the start of the expression, between blanks, with the input
after it. -/
def readShorthand (cs : List Char) : Option (CronSchedule × List Char) :=
  let start := skipSpace cs
  (shorthands.find? fun (k, _) => k.toList.isPrefixOf start).map fun (k, s) =>
    (s, skipSpace (start.drop k.length))

/-- A cron expression refused at a byte offset, with a message. -/
structure CronError where
  expression : String
  offset : Nat
  message : String
  deriving Repr, DecidableEq

/-- The line (from 0) and column (from 0) of a byte offset, for an expression with line
breaks. The column counts characters up to an ASCII character or the end, and bytes up to any
other character. -/
def lineAndColumn (expr : String) (offset : Nat) : Nat × Nat :=
  let cs := expr.toList
  let prefixLength (n : Nat) : Nat := ((cs.take n).map Char.utf8Size).foldl (· + ·) 0
  let k := ((List.range (cs.length + 1)).find? fun n => prefixLength n ≥ offset).getD cs.length
  let atEnd := k ≥ cs.length
  let before := cs.take (if atEnd then cs.length - 1 else k)
  let lineStart := before.length - (before.reverse.takeWhile (· ≠ '\n')).length
  let line := ((cs.take lineStart).filter (· = '\n')).length
  let column :=
    if atEnd then cs.length - lineStart
    else if (cs.getD k ' ').toNat < 128 then k - lineStart
    else offset - prefixLength lineStart
  (line, column)

/-- The refusal as the reader shows it. On one line: the expression, a caret under the byte
offset, and the message. With line breaks: the line and column from 1, the line itself after
its number, and a caret under the column. -/
def CronError.render (e : CronError) : String :=
  if e.expression.contains '\n' then
    let (line, column) := lineAndColumn e.expression e.offset
    let number := toString (line + 1)
    let gutter := String.ofList (List.replicate number.length ' ')
    let content := (e.expression.splitOn "\n").getD line ""
    "parse error at line " ++ number ++ ", column " ++ toString (column + 1) ++ "\n" ++
      gutter ++ " |\n" ++ number ++ " | " ++ content ++ "\n" ++
      gutter ++ " | " ++ String.ofList (List.replicate column ' ') ++ "^\n" ++ e.message
  else
    e.expression ++ "\n" ++ String.ofList (List.replicate e.offset ' ') ++ "^\n" ++ e.message

/-- Reads a cron expression: a keyword schedule, which must end the expression, else six fields
and an optional year. -/
def CronSchedule.read (expr : String) : Except CronError CronSchedule :=
  let refuse (r : Refusal) : Except CronError CronSchedule :=
    .error ⟨expr, expr.utf8ByteSize - (String.ofList r.rest).utf8ByteSize, r.message⟩
  match readShorthand expr.toList with
  | some (s, []) => .ok s
  | some (_, rest) => refuse ⟨rest, ""⟩
  | none =>
    match readLonghand expr.toList with
    | .ok s => .ok s
    | .error r => refuse r

/-- Why a schedule in the configuration is refused. -/
inductive ScheduleError where
  | fieldCount (expression : String) (count : Nat)
  | malformed (e : CronError)
  deriving Repr, DecidableEq

/-- The reason given after the expression. -/
def ScheduleError.reason : ScheduleError → String
  | .fieldCount _ n =>
    "expected 6 fields (sec min hour day-of-month month day-of-week), got " ++ toString n
  | .malformed e => e.render

/-- The refused expression. -/
def ScheduleError.expression : ScheduleError → String
  | .fieldCount e _ => e
  | .malformed e => e.expression

/-- The whole message: `invalid cron expression '<expr>': <reason>`. -/
def ScheduleError.message (e : ScheduleError) : String :=
  "invalid cron expression '" ++ e.expression ++ "': " ++ e.reason

/-- Reads a schedule that must have exactly six blank-separated fields. -/
def parseSchedule (expr : String) : Except ScheduleError CronSchedule :=
  let n := (words expr).length
  if n ≠ 6 then .error (.fieldCount expr n)
  else (CronSchedule.read expr).mapError .malformed

end SnapshotAgent.Schedule
