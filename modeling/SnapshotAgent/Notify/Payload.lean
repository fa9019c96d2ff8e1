import SnapshotAgent.Json.Basic
import SnapshotAgent.Time.Text
import SnapshotAgent.Config.Model
/-!
# Notifications

A notification reports one event of one node: an upload failed, was skipped, or completed. It
carries a message for people and details for machines, a JSON object whose members are kept
sorted by key.

A node's notification settings enable each event separately and name the transports to use.
A webhook transport posts one embed: a title and colour per event, the message, and a field per
detail after the node, the event and the time. A detail's field shows a text as it is, a missing
value as `n/a`, and anything else as its compact JSON.
-/

namespace SnapshotAgent.Notify

open SnapshotAgent.Time

/-- What a notification reports. -/
inductive Event where
  | failure
  | skip
  | complete
  deriving Repr, DecidableEq, Inhabited

/-- The event's name in settings and payloads. -/
def Event.name : Event → String
  | .failure => "failure"
  | .skip => "skip"
  | .complete => "complete"

/-- An event of a name. -/
def Event.ofName? : String → Option Event
  | "failure" => some .failure
  | "skip" => some .skip
  | "complete" => some .complete
  | _ => none

/-- One notification. -/
structure Payload where
  event : Event
  node : String
  timestamp : Instant
  message : String
  /-- Details sorted by key. -/
  details : List (String × Json) := []
  deriving Inhabited

/-- Adds a detail, replacing one of the same key. -/
def Payload.withDetail (p : Payload) (key : String) (value : Json) : Payload :=
  { p with details := Json.insertSorted key value p.details }

/-- Whether settings enable an event. -/
def enabled (c : Config.NotificationConfig) : Event → Bool
  | .failure => c.failure
  | .skip => c.skip
  | .complete => c.complete

/-- The embed colour of an event. -/
def Event.color : Event → Nat
  | .failure => 0xFF0000
  | .skip => 0xFFA500
  | .complete => 0x00FF00

/-- The embed title of an event. -/
def Event.title : Event → String
  | .failure => "❌ Upload Failed"
  | .skip => "⏭️ Upload Skipped"
  | .complete => "✅ Upload Complete"

/-- How an embed field shows a detail. -/
def fieldValue : Json → String
  | .str s => s
  | .null => "n/a"
  | j => j.compact

/-- A time in whole seconds with zone `Z`, as embeds show it. -/
def embedTime (t : Instant) : String := t.dateTimeText "T" ++ "Z"

/-- One embed field. -/
def field (name value : String) (inline : Bool) : Json :=
  .obj [("inline", .bool inline), ("name", .str name), ("value", .str value)]

/-- The body a webhook transport posts for a notification. -/
def webhookBody (p : Payload) : Json :=
  let time := embedTime p.timestamp
  let fields := [field "Node" p.node true, field "Event" p.event.name true,
    field "Timestamp" time false] ++ p.details.map fun (k, v) => field k (fieldValue v) true
  .obj [("embeds", .arr [.obj [("color", .int p.event.color), ("description", .str p.message),
    ("fields", .arr fields), ("timestamp", .str time), ("title", .str p.event.title)]])]

/-- A detail added to a payload can be read back. -/
theorem withDetail_mem (p : Payload) (k : String) (v : Json) :
    (k, v) ∈ (p.withDetail k v).details :=
  Json.mem_insertSorted k v p.details

/-- A detail read after another is added: the added value for its key, the old one for others. -/
theorem Payload.lookup_withDetail (p : Payload) (k : String) (v : Json) (k' : String) :
    (p.withDetail k v).details.lookup k' = if k' = k then some v else p.details.lookup k' :=
  Json.lookup_insertSorted k v p.details k'

end SnapshotAgent.Notify
