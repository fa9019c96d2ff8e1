import SnapshotAgent.Config.Model
import SnapshotAgent.Config.Toml.Read
/-!
# From a TOML document to a raw configuration

Each section is read from the document's table, member by member in key order; members the
configuration does not know are visited and passed over, and the first member of the wrong kind
stops the reading with a message that names what was found and what was expected:

```text
invalid type: integer `30`, expected a string
invalid value: integer `4294967296`, expected u32
```

A section may also be written as an array, whose items then fill the section's fields in their
documented order; the fields left over keep their defaults. A date-time read where a section is
expected is a table with one hidden member.

Every value visited, read or passed over, is first checked for a number that overflowed: an
integer beyond every width, or a float that became infinite.
-/

namespace SnapshotAgent.Config

open SnapshotAgent.Config.Toml

/-- A decoding result: the value, or the message saying what is wrong. -/
abbrev Decoding (α : Type) := Except String α

/-- The refusal of a value of the wrong kind. -/
def invalidType (v : Value) (expected : String) : String :=
  "invalid type: " ++ v.unexpected ++ ", expected " ++ expected

/-- The members that a section reader visits. -/
def members? : Value → Option (List (String × Value))
  | .table _ es => some es
  | .datetime t => some [("$__toml_private_datetime", .string t)]
  | _ => none

/-- Refuses a number that overflowed, before anything else is read from it. -/
def visit (v : Value) : Decoding Unit :=
  match v.overflow? with
  | some msg => .error msg
  | none => .ok ()

mutual
/-- Visits a value that is passed over, with everything it holds, in order. -/
def passOver : Value → Decoding Unit
  | .array items _ => passOverItems items
  | .table _ es => passOverMembers es
  | v => visit v

/-- Visits the items of an array that is passed over. -/
def passOverItems : List Value → Decoding Unit
  | [] => .ok ()
  | v :: vs => do passOver v; passOverItems vs

/-- Visits the members of a table that is passed over. -/
def passOverMembers : List (String × Value) → Decoding Unit
  | [] => .ok ()
  | (_, v) :: es => do passOver v; passOverMembers es
end

/-- A text value. -/
def asText (expected : String) (v : Value) : Decoding String := do
  visit v
  match v with
  | .string s => .ok s
  | v => .error (invalidType v expected)

/-- A boolean value. -/
def asFlag (v : Value) : Decoding Bool := do
  visit v
  match v with
  | .boolean b => .ok b
  | v => .error (invalidType v "a boolean")

/-- A count that fits 32 bits: a 64-bit integer outside that range is an invalid value, and a
wider one is of the wrong type. -/
def asCount (v : Value) : Decoding Nat := do
  visit v
  match v with
  | .integer (some n) =>
    if 0 ≤ n && n ≤ 4294967295 then .ok n.toNat
    else match IntegerWidth.of? n with
      | some .i64 | some .u64 => .error ("invalid value: integer `" ++ toString n ++ "`, expected u32")
      | _ => .error (invalidType v "u32")
  | v => .error (invalidType v "u32")

/-- A list of texts. -/
def asTexts : Value → Decoding (List String)
  | .array items _ => items.mapM (asText "a string")
  | v => do visit v; .error (invalidType v "a sequence")

/-- A field of a section: its key and how a value updates the section. -/
abbrev Field (α : Type) := String × (α → Value → Decoding α)

/-- Reads a section named `name` from a table, or from an array in field order. -/
def readSection {α : Type} (name : String) (init : α) (fields : List (Field α)) (v : Value) :
    Decoding α :=
  match v with
  | .array items _ => (fields.zip items).foldlM (fun acc (f, x) => f.2 acc x) init
  | _ =>
    match members? v with
    | some es => es.foldlM (fun acc (k, x) =>
        match fields.find? (·.1 == k) with
        | some f => f.2 acc x
        | none => do passOver x; pure acc) init
    | none => do visit v; .error (invalidType v ("struct " ++ name))

/-- Reads a table of entries keyed by name. -/
def readMap {α : Type} (item : Value → Decoding α) (v : Value) : Decoding (List (String × α)) :=
  match members? v with
  | some es => es.mapM fun (k, x) => do pure (k, ← item x)
  | none => do visit v; .error (invalidType v "a map")

/-- The `url` of a notification target. -/
def readTarget (v : Value) : Decoding String :=
  readSection "NotificationTarget" "" [("url", fun _ x => asText "a string" x)] v

/-- A notification block. -/
def readNotifications (v : Value) : Decoding NotificationConfig :=
  readSection "NotificationConfig" {}
    [("failure", fun c x => do pure { c with failure := ← asFlag x }),
     ("skip", fun c x => do pure { c with skip := ← asFlag x }),
     ("complete", fun c x => do pure { c with complete := ← asFlag x }),
     ("types", fun c x => do pure { c with targets := ← readMap readTarget x })] v

/-- The `[agent]` section. -/
def readAgent (v : Value) : Decoding RawAgent :=
  readSection "AgentSection" {}
    [("monitor_schedule", fun a x => do pure { a with monitorSchedule := ← asText "a string" x }),
     ("tool", fun a x => do pure { a with tool := ← asText "a string" x }),
     ("non_reentrant", fun a x => do pure { a with nonReentrant := ← asTexts x }),
     ("command_timeout", fun a x => do pure { a with commandTimeout := ← asText "a string" x }),
     ("shutdown_timeout", fun a x => do pure { a with shutdownTimeout := ← asText "a string" x }),
     ("nonzero_exit_is_failure", fun a x => do
        pure { a with nonzeroExitIsFailure := ← asFlag x })] v

/-- The `[database]` section. -/
def readDatabase (v : Value) : Decoding RawDatabase :=
  readSection "DatabaseSection" {}
    [("path", fun d x => do pure { d with path := ← asText "path string" x }),
     ("retry_attempts", fun d x => do pure { d with retryAttempts := ← asCount x }),
     ("retry_base_delay", fun d x => do pure { d with retryBaseDelay := ← asText "a string" x })] v

/-- A `[nodes.<name>]` section. -/
def readNode (v : Value) : Decoding RawNode :=
  readSection "RawNodeConfig" {}
    [("protocol", fun n x => do pure { n with protocol := ← asText "a string" x }),
     ("type", fun n x => do pure { n with nodeType := ← asText "a string" x }),
     ("url", fun n x => do pure { n with url := ← asText "a string" x }),
     ("beacon_url", fun n x => do pure { n with beaconUrl := some (← asText "a string" x) }),
     ("schedule", fun n x => do pure { n with schedule := some (← asText "a string" x) }),
     ("notifications", fun n x => do pure { n with notifications := some (← readNotifications x) })]
    v

/-- The whole file. -/
def readRaw (v : Value) : Decoding RawConfig :=
  readSection "RawConfigFile" {}
    [("agent", fun c x => do pure { c with agent := ← readAgent x }),
     ("database", fun c x => do pure { c with database := ← readDatabase x }),
     ("notifications", fun c x => do pure { c with notifications := some (← readNotifications x) }),
     ("nodes", fun c x => do pure { c with nodes := ← readMap readNode x })] v

/-- Reads configuration text: the document first, then its sections. -/
def RawConfig.parse (text : String) : Except String RawConfig :=
  match readDocument text with
  | .error e => .error e.message
  | .ok root => readRaw root

end SnapshotAgent.Config
