import SnapshotAgent.Json.Pointer
import SnapshotAgent.Number.Integer
import SnapshotAgent.Text.Blank
import SnapshotAgent.Config.Model
/-!
# Quantities in node answers

Execution nodes answer block numbers as hexadecimal quantities (`"0x1406f40"`, the prefix being
optional); beacon nodes answer slots as decimal integers inside JSON strings, or as plain JSON
numbers. Both are read as signed 64-bit integers, and a failure says what was found where.

A node's beacon API lives at its configured beacon URL, else under `/beacon` on its own URL;
trailing slashes are dropped first.
-/

namespace SnapshotAgent.Metrics

open SnapshotAgent.Json

/-- Reads a hexadecimal quantity, `0x` or `0X` prefix optional, blanks around ignored. -/
def parseHexQuantity (s : String) : Except String Int :=
  let t := Text.trim s
  let digits := if t.startsWith "0x" || t.startsWith "0X" then (t.drop 2).toString else t
  match Number.readHexI64 digits with
  | .ok v => .ok v
  | .error e => .error ("invalid hex quantity '" ++ s ++ "': " ++ e.message)

/-- Reads the decimal integer a pointer names in a document. -/
def parseDecimalField (doc : Json) (ptr : String) : Except String Int :=
  match doc.pointer ptr with
  | some (.str s) =>
    match Number.readI64 (Text.trim s) with
    | .ok v => .ok v
    | .error e => .error ("invalid integer at " ++ ptr ++ ": " ++ e.message)
  | some (.int n) =>
    if Number.i64Min ≤ n && n ≤ Number.i64Max then .ok n
    else .error ("integer at " ++ ptr ++ " out of range")
  | some (.float _) => .error ("integer at " ++ ptr ++ " out of range")
  | some other => .error ("unexpected value at " ++ ptr ++ ": " ++ other.compact)
  | none => .error ("missing field " ++ ptr)

/-- A text without its trailing slashes. -/
def dropTrailingSlashes (s : String) : String :=
  String.ofList (s.toList.reverse.dropWhile (· = '/')).reverse

/-- The base URL of a node's beacon API. -/
def beaconBase (node : Config.NodeSpec) : String :=
  match node.beaconUrl with
  | some url => dropTrailingSlashes url
  | none => dropTrailingSlashes node.url ++ "/beacon"

/-- A configured beacon URL is used as it is, trailing slashes aside. -/
theorem beaconBase_configured (node : Config.NodeSpec) (url : String)
    (h : node.beaconUrl = some url) : beaconBase node = dropTrailingSlashes url := by
  simp [beaconBase, h]

end SnapshotAgent.Metrics
