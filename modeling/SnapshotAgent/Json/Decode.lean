import SnapshotAgent.Json.Parse
/-!
# Reading fields of JSON requests

Requests to the agent arrive as JSON objects. A field that is absent and a field that is `null`
mean the same thing. A field of the wrong kind is refused with a message that names it:
`missing field 'id'`, `field 'id' must be an i64`.

Floating-point fields take any JSON number, and also the texts `"NaN"`, `"inf"`, `"-inf"` and
`"-0"`, which JSON numbers cannot write.
-/

namespace SnapshotAgent

namespace Json

/-- A decoding result: the value, or the message saying what is wrong with the request. -/
abbrev Decoded (α : Type) := Except String α

/-- The value of a field, absent when missing or `null`. -/
def field? (j : Json) (key : String) : Option Json :=
  match j.get? key with
  | some .null => none
  | other => other

/-- The message for a missing field. -/
def missing (key : String) : String := "missing field '" ++ key ++ "'"

/-- A required field. -/
def need (j : Json) (key : String) : Decoded Json :=
  match j.field? key with
  | some v => .ok v
  | none => .error (missing key)

/-- A value as a string. -/
def asString (key : String) : Json → Decoded String
  | .str s => .ok s
  | _ => .error ("field '" ++ key ++ "' must be a string")

/-- A value as a signed 64-bit integer. -/
def asI64 (key : String) : Json → Decoded Int
  | .int n =>
    if -9223372036854775808 ≤ n && n ≤ 9223372036854775807 then .ok n
    else .error ("field '" ++ key ++ "' must be an i64")
  | _ => .error ("field '" ++ key ++ "' must be an i64")

/-- A value as an unsigned 64-bit integer. -/
def asU64 (key : String) : Json → Decoded Nat
  | .int n => if 0 ≤ n && n ≤ 18446744073709551615 then .ok n.toNat
    else .error ("field '" ++ key ++ "' must be a u64")
  | _ => .error ("field '" ++ key ++ "' must be a u64")

/-- A value as a boolean. -/
def asBool (key : String) : Json → Decoded Bool
  | .bool b => .ok b
  | _ => .error ("field '" ++ key ++ "' must be a bool")

/-- A value as a double: a number, or one of the texts `NaN`, `inf`, `-inf`, `-0`. -/
def asFloat (key : String) : Json → Decoded Float
  | .int n => .ok (if n = 0 then 0.0 else Number.nearest (n < 0) n.natAbs 1)
  | .float x => .ok x
  | .str "NaN" => .ok (0.0 / 0.0)
  | .str "inf" => .ok (1.0 / 0.0)
  | .str "-inf" => .ok (-1.0 / 0.0)
  | .str "-0" => .ok (-0.0)
  | _ => .error ("field '" ++ key ++ "' must be a number")

/-- A value as an array. -/
def asArray (key : String) : Json → Decoded (List Json)
  | .arr xs => .ok xs
  | _ => .error ("field '" ++ key ++ "' must be an array")

/-- A value as an array of strings. -/
def asStrings (key : String) (j : Json) : Decoded (List String) := do
  let xs ← asArray key j
  xs.mapM (asString key)

/-- A required array-of-strings field. -/
def getStrings (j : Json) (key : String) : Decoded (List String) := do asStrings key (← j.need key)

/-- A required string field. -/
def getString (j : Json) (key : String) : Decoded String := do asString key (← j.need key)

/-- An optional string field. -/
def getString? (j : Json) (key : String) : Decoded (Option String) :=
  match j.field? key with
  | some v => (asString key v).map some
  | none => .ok none

/-- A required signed integer field. -/
def getI64 (j : Json) (key : String) : Decoded Int := do asI64 key (← j.need key)

/-- An optional signed integer field. -/
def getI64? (j : Json) (key : String) : Decoded (Option Int) :=
  match j.field? key with
  | some v => (asI64 key v).map some
  | none => .ok none

/-- An optional unsigned integer field. -/
def getU64? (j : Json) (key : String) : Decoded (Option Nat) :=
  match j.field? key with
  | some v => (asU64 key v).map some
  | none => .ok none

/-- An optional boolean field. -/
def getBool? (j : Json) (key : String) : Decoded (Option Bool) :=
  match j.field? key with
  | some v => (asBool key v).map some
  | none => .ok none

/-- A boolean field that defaults to false. -/
def getFlag (j : Json) (key : String) : Decoded Bool := do
  pure ((← j.getBool? key).getD false)

/-- An optional floating-point field. -/
def getFloat? (j : Json) (key : String) : Decoded (Option Float) :=
  match j.field? key with
  | some v => (asFloat key v).map some
  | none => .ok none

/-- An array field that may be absent or null. -/
def getArray? (j : Json) (key : String) : Decoded (Option (List Json)) :=
  match j.field? key with
  | none | some .null => .ok none
  | some v => some <$> asArray key v

/-- An optional array field, empty when absent. -/
def getArray (j : Json) (key : String) : Decoded (List Json) :=
  match j.field? key with
  | some v => asArray key v
  | none => .ok []

/-- A double as a JSON value; the non-finite ones, which JSON numbers cannot hold, as the texts
`NaN`, `inf` and `-inf`. -/
def ofFloat (x : Float) : Json :=
  if x.isNaN then .str "NaN"
  else if x.isInf then .str (if x < 0 then "-inf" else "inf")
  else .float x

/-- An optional value, `null` when absent. -/
def ofOption {α : Type} (f : α → Json) : Option α → Json
  | some a => f a
  | none => .null

end Json

end SnapshotAgent
