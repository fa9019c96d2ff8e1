import SnapshotAgent.Store.Cell
import SnapshotAgent.Store.Error
import SnapshotAgent.Time.Layout
/-!
# Reading typed values out of result rows

A result row holds stored values; the agent reads each column as a text, an integer, a real or a
timestamp, optionally absent. A read first compares the kind of the stored value with the kinds
the target accepts, and refuses a mismatch with a message that names both:

* a text accepts only texts, an integer only integers, a real only reals;
* a timestamp accepts texts, integers (seconds since 1970) and reals (Julian days).

A `NULL` read as an optional value is absent. Read as a plain value, it is the empty text or the
integer 0, and a timestamp is then read from the empty text, which fails.

A timestamp text is read by `decodeStamp`: RFC 3339 first, then a list of looser layouts. An
integer counts seconds since 1970 and a real is a Julian day; outside the range of dates either
fails.
-/

namespace SnapshotAgent.Store

open SnapshotAgent.Time

/-- What a column is read as. -/
inductive Target where
  | text
  | integer
  | real
  | timestamp
  deriving Repr, DecidableEq, Inhabited

/-- The reader's name of a target type. -/
def Target.typeName : Target → String
  | .text => "alloc::string::String"
  | .integer => "i64"
  | .real => "f64"
  | .timestamp => "chrono::datetime::DateTime<chrono::offset::utc::Utc>"

/-- The database type the reader writes a target as. -/
def Target.sqlName : Target → String
  | .text => "TEXT"
  | .integer => "INTEGER"
  | .real => "REAL"
  | .timestamp => "DATETIME"

/-- The database type of a stored value. -/
def Cell.sqlName : Cell → String
  | .null => "NULL"
  | .integer _ => "INTEGER"
  | .real _ => "REAL"
  | .text _ => "TEXT"
  | .blob _ => "BLOB"

/-- Whether a target accepts a stored value of this kind. -/
def Target.accepts : Target → Cell → Bool
  | .text, .text _ => true
  | .integer, .integer _ => true
  | .real, .real _ => true
  | .timestamp, .text _ | .timestamp, .integer _ | .timestamp, .real _ => true
  | _, _ => false

/-- The refusal of a stored value of the wrong kind. -/
def mismatch (column : String) (target : Target) (optional : Bool) (c : Cell) : DbError :=
  let name := if optional then "core::option::Option<" ++ target.typeName ++ ">"
    else target.typeName
  .columnDecode column ("mismatched types; Rust type `" ++ name ++ "` (as SQL type `" ++
    target.sqlName ++ "`) is not compatible with SQL type `" ++ c.sqlName ++ "`")

/-- A row of a query's result: the names of its columns and its values. -/
structure ResultRow where
  names : List String
  values : List Cell
  deriving Inhabited

/-- The stored value of a column, found by its exact name. -/
def ResultRow.cell (row : ResultRow) (column : String) : Cell :=
  match row.names.findIdx? (· == column) with
  | some i => row.values.getD i .null
  | none => .null

/-- The instant of a count of seconds since 1970 and nanoseconds after it; none outside the
range of dates. -/
def Instant.ofUnixSeconds (n : Int) (nano : Nat) : Option Instant :=
  let t : Instant := ⟨n.fdiv 86400, (n.fmod 86400).toNat, nano⟩
  if yearInRange t.date.year then some t else none

/-- The instant of a Julian day number: the seconds since 1970 are cut toward zero, and the
size of the cut-off fraction is added as nanoseconds, also before 1970. -/
def Instant.ofJulianDay (x : Float) : Option Instant :=
  let t := (x - 2440587.5) * 86400.0
  if t.isNaN || t.isInf || t.abs > 1.0e15 then none
  else
    let whole := if t < 0.0 then -((-t).floor) else t.floor
    let secs : Int := if whole < 0.0 then -((-whole).toUInt64.toNat : Int) else whole.toUInt64.toNat
    let frac := (t - whole) * 1.0e9
    Instant.ofUnixSeconds secs frac.abs.toUInt32.toNat

/-- Reads a stored timestamp. -/
def readInstantCell (column : String) (c : Cell) : Except DbError Instant :=
  let parsed := match c with
    | .text s => decodeStamp s
    | .integer n => Instant.ofUnixSeconds n 0
    | .real x => Instant.ofJulianDay x
    | .null | .blob _ => decodeStamp ""
  match parsed with
  | some t => .ok t
  | none => .error (.columnDecode column ("invalid datetime: " ++ (c.asText.getD "")))

/-- Reads a column as a text. -/
def ResultRow.text (row : ResultRow) (column : String) : Except DbError String :=
  match row.cell column with
  | .null => .ok ""
  | .text s => .ok s
  | c => .error (mismatch column .text false c)

/-- Reads a column as an optional text. -/
def ResultRow.text? (row : ResultRow) (column : String) : Except DbError (Option String) :=
  match row.cell column with
  | .null => .ok none
  | .text s => .ok (some s)
  | c => .error (mismatch column .text true c)

/-- Reads a column as an integer. -/
def ResultRow.integer (row : ResultRow) (column : String) : Except DbError Int :=
  match row.cell column with
  | .null => .ok 0
  | .integer n => .ok n
  | c => .error (mismatch column .integer false c)

/-- Reads a column as an optional integer. -/
def ResultRow.integer? (row : ResultRow) (column : String) : Except DbError (Option Int) :=
  match row.cell column with
  | .null => .ok none
  | .integer n => .ok (some n)
  | c => .error (mismatch column .integer true c)

/-- Reads a column as an optional real. -/
def ResultRow.real? (row : ResultRow) (column : String) : Except DbError (Option Float) :=
  match row.cell column with
  | .null => .ok none
  | .real x => .ok (some x)
  | c => .error (mismatch column .real true c)

/-- Reads a column as a timestamp. -/
def ResultRow.instant (row : ResultRow) (column : String) : Except DbError Instant :=
  match row.cell column with
  | .null => readInstantCell column .null
  | c => if Target.timestamp.accepts c then readInstantCell column c
    else .error (mismatch column .timestamp false c)

/-- Reads a column as an optional timestamp. -/
def ResultRow.instant? (row : ResultRow) (column : String) : Except DbError (Option Instant) :=
  match row.cell column with
  | .null => .ok none
  | c => if Target.timestamp.accepts c then some <$> readInstantCell column c
    else .error (mismatch column .timestamp true c)

/-- The empty text names no timestamp. -/
theorem decodeStamp_empty : decodeStamp "" = none := by
  decide +kernel

end SnapshotAgent.Store
