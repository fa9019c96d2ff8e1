import SnapshotAgent.Number.Shortest
import SnapshotAgent.Text.Quoted
/-!
# TOML values

A TOML document is a table: keys mapped to strings, integers, floats, booleans, date-times,
arrays, and further tables. A table remembers how it came to be, because that decides what a
later line may still add to it:

* `header`: opened by a `[a.b]` line; no second header may open it again;
* `implicit`: created on the way to a header's last key (`a` for `[a.b]`); a header may still
  open it;
* `dotted`: created by a dotted key (`a.b = 1`); more dotted keys may add to it, headers may not
  open it;
* `inline`: written `{ … }`; nothing may add to it afterwards.

An array opened by `[[a]]` lines is an array of tables, and each such line adds one table.

Members of a table are kept sorted by key, the order in which a reader visits them. A date-time
is kept as its text: the configuration has no date-time field, so its value is never read.

An integer keeps the value its digits spell, or nothing when they spell none (`0x` alone); a
float keeps its double, or nothing when the text overflows to an infinity without saying `inf`.
Both are refused only when a reader visits them, as numbers that overflowed.
-/

namespace SnapshotAgent.Config.Toml

/-- How a table came to be. -/
inductive Origin where
  | header
  | implicit
  | dotted
  | inline
  deriving Repr, DecidableEq, Inhabited

/-- A TOML value. -/
inductive Value where
  | string (s : String)
  | integer (n : Option Int)
  | float (x : Option Float)
  | boolean (b : Bool)
  | datetime (text : String)
  /-- An array; `ofTables` when it was built by `[[…]]` lines. -/
  | array (items : List Value) (ofTables : Bool)
  /-- A table, with its members sorted by key. -/
  | table (origin : Origin) (entries : List (String × Value))
  deriving Inhabited

/-- The member stored under a key. -/
def lookup (k : String) : List (String × Value) → Option Value
  | [] => none
  | (k', v) :: rest => if k = k' then some v else lookup k rest

/-- Stores a member, keeping the members sorted and replacing one with the same key. -/
def store (k : String) (v : Value) : List (String × Value) → List (String × Value)
  | [] => [(k, v)]
  | (k', v') :: rest =>
    if k = k' then (k, v) :: rest
    else if k < k' then (k, v) :: (k', v') :: rest
    else (k', v') :: store k v rest

/-- The integer ranges a reader tries in turn: signed and unsigned 64 bits, then signed and
unsigned 128 bits. -/
inductive IntegerWidth where
  | i64
  | u64
  | i128
  | u128
  deriving Repr, DecidableEq

/-- The first width that holds an integer, if any does. -/
def IntegerWidth.of? (n : Int) : Option IntegerWidth :=
  if -9223372036854775808 ≤ n && n ≤ 9223372036854775807 then some .i64
  else if 0 ≤ n && n ≤ 18446744073709551615 then some .u64
  else if -170141183460469231731687303715884105728 ≤ n &&
      n ≤ 170141183460469231731687303715884105727 then some .i128
  else if 0 ≤ n && n ≤ 340282366920938463463374607431768211455 then some .u128
  else none

/-- How a refusal names an integer: wide ones say the width they were read at. -/
def integerUnexpected (n : Int) : String :=
  let suffix := match IntegerWidth.of? n with
    | some .i128 => " as i128"
    | some .u128 => " as u128"
    | _ => ""
  "integer `" ++ toString n ++ "`" ++ suffix

/-- How a refusal names a value it did not expect. A date-time is read as a small table. -/
def Value.unexpected : Value → String
  | .string s => "string " ++ Text.quoted s
  | .integer n => integerUnexpected (n.getD 0)
  | .float x => "floating point `" ++ Number.pointed (x.getD 0.0) ++ "`"
  | .boolean b => "boolean `" ++ (if b then "true" else "false") ++ "`"
  | .datetime _ => "map"
  | .array _ _ => "sequence"
  | .table _ _ => "map"

/-- The name of a value's type, as a refusal to extend it names it. -/
def Value.typeName : Value → String
  | .string _ => "string"
  | .integer _ => "integer"
  | .float _ => "float"
  | .boolean _ => "boolean"
  | .datetime _ => "datetime"
  | .array _ _ => "array"
  | .table .inline _ => "inline table"
  | .table _ _ => "table"

/-- Why visiting a number fails: an integer that no width holds, or a float that overflowed. -/
def Value.overflow? : Value → Option String
  | .integer n =>
    match n.bind IntegerWidth.of? with
    | some _ => none
    | none => some "integer number overflowed"
  | .float none => some "floating-point number overflowed"
  | _ => none

/-- Stored members can be found again. -/
theorem lookup_store (k : String) (v : Value) (es : List (String × Value)) :
    lookup k (store k v es) = some v := by
  induction es with
  | nil => simp [store, lookup]
  | cons p rest ih =>
    obtain ⟨k', v'⟩ := p
    simp only [store]
    split
    · simp [lookup]
    · split
      · simp [lookup]
      · rename_i h _
        simp [lookup, h, ih]

end SnapshotAgent.Config.Toml
