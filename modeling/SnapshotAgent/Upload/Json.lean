import SnapshotAgent.Upload.Record
import SnapshotAgent.Json.Decode
/-!
# Uploads as JSON

Records, patches and tool snapshots as JSON objects, with snake-case keys, timestamps in RFC 3339
with `Z`, absent values as `null`, and non-finite percentages as the texts `NaN`, `inf` and
`-inf`.

Reading a record fills what is left out with defaults (id 0, empty names, running, scheduled,
no protocol data); only `started_at` must be given. Reading a patch needs its `id`.
-/

namespace SnapshotAgent.Upload

open SnapshotAgent.Time

/-- A timestamp as JSON. -/
def instantJson (t : Instant) : Json := .str t.rfc3339

/-- An optional text as JSON. -/
def textJson (o : Option String) : Json := Json.ofOption Json.str o

/-- An optional integer as JSON. -/
def countJson (o : Option Int) : Json := Json.ofOption Json.int o

/-- An optional percentage as JSON. -/
def percentJson (o : Option Float) : Json := Json.ofOption Json.ofFloat o

/-- An optional timestamp as JSON. -/
def momentJson (o : Option Instant) : Json := Json.ofOption instantJson o

/-- The members of a snapshot's JSON object. -/
def Snapshot.jsonFields (s : Snapshot) : List (String × Json) :=
  [("is_running", .bool s.isRunning), ("raw_status_line", textJson s.statusLine),
   ("started_at", momentJson s.startedAt), ("exit_code", countJson s.exitCode),
   ("progress_percent", percentJson s.progressPercent),
   ("chunks_completed", countJson s.chunksCompleted), ("chunks_total", countJson s.chunksTotal),
   ("restart_count", textJson s.restartCount), ("upgrade_blocking", textJson s.upgradeBlocking),
   ("logs", textJson s.logs), ("raw_output", .str s.rawOutput),
   ("completion_message", textJson s.completionMessage), ("has_progress", .bool s.hasProgress),
   ("exited_with_failure", .bool s.exitedWithFailure)]

/-- A record as JSON. -/
def Record.toJson (r : Record) : Json :=
  .obj [("id", .int r.id), ("node_name", .str r.nodeName), ("protocol", .str r.protocol),
    ("node_type", .str r.nodeType), ("started_at", instantJson r.startedAt),
    ("completed_at", momentJson r.completedAt), ("status", .str r.status.name),
    ("trigger_type", .str r.trigger.name), ("protocol_data", .obj r.protocolData),
    ("progress_percent", percentJson r.progressPercent),
    ("chunks_completed", countJson r.chunksCompleted), ("chunks_total", countJson r.chunksTotal),
    ("last_progress_check", momentJson r.lastProgressCheck),
    ("total_chunks", countJson r.totalChunks),
    ("completion_message", textJson r.completionMessage),
    ("error_message", textJson r.errorMessage)]

/-- The members of a patch's JSON object. -/
def Patch.jsonFields (p : Patch) : List (String × Json) :=
  [("id", .int p.id), ("status", Json.ofOption (fun s => .str s.name) p.status),
   ("completed_at", momentJson p.completedAt), ("progress_percent", percentJson p.progressPercent),
   ("chunks_completed", countJson p.chunksCompleted), ("chunks_total", countJson p.chunksTotal),
   ("last_progress_check", momentJson p.lastProgressCheck),
   ("total_chunks", countJson p.totalChunks),
   ("completion_message", textJson p.completionMessage),
   ("error_message", textJson p.errorMessage)]

namespace Reading

open SnapshotAgent.Json

/-- A timestamp from its RFC 3339 text. -/
def readInstant (s : String) : Decoded Instant :=
  match Instant.readRfc3339 s with
  | some t => .ok t
  | none => .error ("bad timestamp '" ++ s ++ "'")

/-- A required timestamp field. -/
def getInstant (j : SnapshotAgent.Json) (key : String) : Decoded Instant := do
  readInstant (← j.getString key)

/-- An optional timestamp field. -/
def getInstant? (j : SnapshotAgent.Json) (key : String) : Decoded (Option Instant) := do
  match ← j.getString? key with
  | some s => some <$> readInstant s
  | none => pure none

/-- An optional status field. -/
def getStatus? (j : SnapshotAgent.Json) (key : String) : Decoded (Option Status) := do
  match ← j.getString? key with
  | some s => some <$> Status.parse s
  | none => pure none

/-- An optional trigger field. -/
def getTrigger? (j : SnapshotAgent.Json) (key : String) : Decoded (Option Trigger) := do
  match ← j.getString? key with
  | some s => some <$> Trigger.parse s
  | none => pure none

/-- An optional object field, empty when absent. -/
def getObject (j : SnapshotAgent.Json) (key : String) : Decoded ProtocolData :=
  match j.field? key with
  | some (.obj fields) => .ok (fields.foldl (fun acc (k, v) => insertSorted k v acc) [])
  | some _ => .error ("field '" ++ key ++ "' must be an object")
  | none => .ok []

end Reading

open Reading in
/-- A record from JSON, with defaults for what is left out. -/
def Record.ofJson (j : SnapshotAgent.Json) : Json.Decoded Record := do
  pure {
    id := (← j.getI64? "id").getD 0
    nodeName := (← j.getString? "node_name").getD ""
    protocol := (← j.getString? "protocol").getD ""
    nodeType := (← j.getString? "node_type").getD ""
    startedAt := ← getInstant j "started_at"
    completedAt := ← getInstant? j "completed_at"
    status := (← getStatus? j "status").getD .running
    trigger := (← getTrigger? j "trigger_type").getD .scheduled
    protocolData := ← getObject j "protocol_data"
    progressPercent := ← j.getFloat? "progress_percent"
    chunksCompleted := ← j.getI64? "chunks_completed"
    chunksTotal := ← j.getI64? "chunks_total"
    lastProgressCheck := ← getInstant? j "last_progress_check"
    totalChunks := ← j.getI64? "total_chunks"
    completionMessage := ← j.getString? "completion_message"
    errorMessage := ← j.getString? "error_message" }

open Reading in
/-- A patch from JSON; only the id is required. -/
def Patch.ofJson (j : SnapshotAgent.Json) : Json.Decoded Patch := do
  pure {
    id := ← j.getI64 "id"
    status := ← getStatus? j "status"
    completedAt := ← getInstant? j "completed_at"
    progressPercent := ← j.getFloat? "progress_percent"
    chunksCompleted := ← j.getI64? "chunks_completed"
    chunksTotal := ← j.getI64? "chunks_total"
    lastProgressCheck := ← getInstant? j "last_progress_check"
    totalChunks := ← j.getI64? "total_chunks"
    completionMessage := ← j.getString? "completion_message"
    errorMessage := ← j.getString? "error_message" }

open Reading in
/-- A snapshot from JSON, with the members of `Snapshot.jsonFields`. -/
def Snapshot.ofJson (j : SnapshotAgent.Json) : Json.Decoded Snapshot := do
  pure {
    isRunning := (← j.getBool? "is_running").getD false
    statusLine := ← j.getString? "raw_status_line"
    startedAt := ← getInstant? j "started_at"
    exitCode := ← j.getI64? "exit_code"
    progressPercent := ← j.getFloat? "progress_percent"
    chunksCompleted := ← j.getI64? "chunks_completed"
    chunksTotal := ← j.getI64? "chunks_total"
    restartCount := ← j.getString? "restart_count"
    upgradeBlocking := ← j.getString? "upgrade_blocking"
    logs := ← j.getString? "logs"
    rawOutput := (← j.getString? "raw_output").getD "" }

end SnapshotAgent.Upload
