import SnapshotAgent.Store.Schema
import SnapshotAgent.Store.Read
import SnapshotAgent.Upload.Report
import SnapshotAgent.Json.Parse
import SnapshotAgent.Json.Decode
/-!
# The upload store

The store's operations over a database holding the upload tables:

* `create` inserts a running row and, when the new upload carries progress, a first history
  point timed at its last progress check, else at its start. A second running row for a node
  violates the one-running index and is reported as `StoreError.conflict`; every other refusal
  is a database error.
* `update` refuses an inconsistent patch before touching the database, then sets every column
  the patch gives, only on a row that is still running. When it changed a row and the patch
  carries progress, it appends a history point timed at the patch's progress check, else its
  completion, else the clock.
* `get`, `runningFor`, `allRunning` (by start, then id), `latestCompleted` (newest completion,
  then highest id) and `history` (in insertion order) read rows back.

Timestamps are stored as RFC 3339 text with zone `+00:00`, so rows sort by the text of their
times. A row is read column by column in a fixed order, and the first column that cannot be read
refuses the whole row: a status or trigger that names none is a corrupt row, protocol data that
is not a JSON object a serialisation error.

Every refusal leaves the database as it was: an operation answers a new database only when all
its statements succeed.
-/

namespace SnapshotAgent.Store

open SnapshotAgent.Time SnapshotAgent.Upload

/-- The columns of an upload row, in the order queries list them. -/
def uploadColumns : List String :=
  ["id", "node_name", "protocol", "node_type", "started_at", "completed_at", "status",
   "trigger_type", "protocol_data", "progress_percent", "chunks_completed", "chunks_total",
   "last_progress_check", "total_chunks", "completion_message", "error_message"]

/-- A timestamp as stored. -/
def instantCell (t : Instant) : Cell := .text t.rfc3339Offset

/-- An optional value as stored, `NULL` when absent. -/
def optionCell {α : Type} (f : α → Cell) : Option α → Cell
  | some a => f a
  | none => .null

/-- A percentage as stored; NaN is stored as `NULL`. -/
def percentCell : Option Float → Cell
  | some x => if x.isNaN then .null else .real x
  | none => .null

/-- One reading of an upload's progress history. -/
structure ProgressPoint where
  uploadId : Int
  checkedAt : Instant
  progressPercent : Option Float
  chunksCompleted : Option Int
  chunksTotal : Option Int
  deriving Inhabited

/-- A history point as JSON. -/
def ProgressPoint.toJson (p : ProgressPoint) : Json :=
  .obj [("upload_id", .int p.uploadId), ("checked_at", .str p.checkedAt.rfc3339),
    ("progress_percent", Json.ofOption Json.ofFloat p.progressPercent),
    ("chunks_completed", Json.ofOption .int p.chunksCompleted),
    ("chunks_total", Json.ofOption .int p.chunksTotal)]

/-- Reads a column, a database refusal on failure. -/
def readColumn {α : Type} (r : Except DbError α) : Except StoreError α :=
  r.mapError .database

/-- Runs a statement of the store in a session; answers the session and the rows returned. -/
def Session.storeStep (s : Session) (c : Change) : Except DbError (Session × List (List Cell)) :=
  match s.perform [] [] c with
  | (s, .ok rows) => .ok (s, rows)
  | (_, .error e) => .error e

/-- A text value. -/
def textValue (s : String) : Expr := .lit (.text s)

/-- The statement appending a reading to the progress history. -/
def progressInsert (uploadId : Int) (checkedAt : Instant) (percent : Option Float)
    (done total : Option Int) : Change :=
  .insert { table := "upload_progress",
            columns := some ["upload_id", "checked_at", "progress_percent", "chunks_completed",
                             "chunks_total"],
            source := .values [[.lit (.integer uploadId), .lit (instantCell checkedAt),
              .lit (percentCell percent), .lit (optionCell .integer done),
              .lit (optionCell .integer total)]] }

/-- Appends a reading to the progress history. -/
def Session.appendProgress (s : Session) (uploadId : Int) (checkedAt : Instant)
    (percent : Option Float) (done total : Option Int) : Except DbError Session := do
  let (s, _) ← s.storeStep (progressInsert uploadId checkedAt percent done total)
  pure s

/-- The statement inserting a running upload and returning its id. -/
def uploadInsert (u : NewUpload) (data : String) : Change :=
  .insert { table := "uploads",
            columns := some ["node_name", "protocol", "node_type", "started_at", "status",
              "trigger_type", "protocol_data", "progress_percent", "chunks_completed", "chunks_total",
              "last_progress_check"],
            source := .values [[textValue u.nodeName, textValue u.protocol, textValue u.nodeType,
              .lit (instantCell u.startedAt), textValue "running", textValue u.trigger.name,
              textValue data, .lit (percentCell u.progressPercent),
              .lit (optionCell .integer u.chunksCompleted), .lit (optionCell .integer u.chunksTotal),
              .lit (optionCell instantCell u.lastProgressCheck)]],
            returning := [.expr (.col "id") none "id"] }

/-- Inserts a running upload; answers the database and the new id. The insert and the first
history point are one transaction: when either fails, nothing is written. -/
def Database.createUpload (db : Database) (u : NewUpload) : Except StoreError (Database × Int) := do
  let data := Json.compact (.obj u.protocolData)
  let (s, rows) ← match (Session.start db).storeStep (uploadInsert u data) with
    | .ok r => pure r
    | .error e => throw (if e.isUniqueViolation then .conflict u.nodeName else .database e)
  let id ← match rows.head? with
    | some row => readColumn (ResultRow.integer ⟨["id"], row⟩ "id")
    | none => throw (.database .rowNotFound)
  if u.hasProgress then
    match s.appendProgress id (u.lastProgressCheck.getD u.startedAt) u.progressPercent
        u.chunksCompleted u.chunksTotal with
    | .ok s => pure (s.db, id)
    | .error e => throw (.database e)
  else pure (s.db, id)

/-- `COALESCE(value, column)`: the given value, else the column's own. -/
def keepUnless (column : String) (value : Cell) : List String × Expr :=
  ([column], .call "COALESCE" false [.lit value, .col column])

/-- Applies a patch to its row if the row is still running; answers whether it did. The patch is
checked first, and `now` times a history point that has no other time. -/
def Database.updateUpload (db : Database) (p : Patch) (now : Instant) :
    Except StoreError (Database × Bool) := do
  if let some reason := p.refusal then throw (.invalidPatch reason)
  let assignments := [
    keepUnless "status" (optionCell (fun s => .text s.name) p.status),
    keepUnless "completed_at" (optionCell instantCell p.completedAt),
    keepUnless "progress_percent" (percentCell p.progressPercent),
    keepUnless "chunks_completed" (optionCell .integer p.chunksCompleted),
    keepUnless "chunks_total" (optionCell .integer p.chunksTotal),
    keepUnless "last_progress_check" (optionCell instantCell p.lastProgressCheck),
    keepUnless "total_chunks" (optionCell .integer p.totalChunks),
    keepUnless "completion_message" (optionCell .text p.completionMessage),
    keepUnless "error_message" (optionCell .text p.errorMessage)]
  let filter := andExpr (eqExpr (.col "id") (intLit p.id)) isRunningRow
  match (Session.start db).storeStep (.update { table := "uploads", assignments, filter := some filter }) with
  | .error e => throw (.database e)
  | .ok (s, _) =>
    let applied := s.effects.changes == 1
    if applied && p.hasProgress then
      let at_ := (p.lastProgressCheck.orElse fun _ => p.completedAt).getD now
      match s.appendProgress p.id at_ p.progressPercent p.chunksCompleted p.chunksTotal with
      | .ok s => pure (s.db, applied)
      | .error e => throw (.database e)
    else pure (s.db, applied)

/-- Reads protocol data stored as a JSON object. -/
def readProtocolData (s : String) : Except StoreError ProtocolData :=
  match Json.parseObject s with
  | .ok fields => .ok fields
  | .error e => .error (.serde e.text)

/-- Reads an upload row, column by column. -/
def ResultRow.toRecord (row : ResultRow) : Except StoreError Record := do
  let status ← readColumn (row.text "status")
  let trigger ← readColumn (row.text "trigger_type")
  let data ← readColumn (row.text "protocol_data")
  let id ← readColumn (row.integer "id")
  let nodeName ← readColumn (row.text "node_name")
  let protocol ← readColumn (row.text "protocol")
  let nodeType ← readColumn (row.text "node_type")
  let startedAt ← readColumn (row.instant "started_at")
  let completedAt ← readColumn (row.instant? "completed_at")
  let status ← (Status.parse status).mapError .corrupt
  let trigger ← (Trigger.parse trigger).mapError .corrupt
  let protocolData ← readProtocolData data
  let progressPercent ← readColumn (row.real? "progress_percent")
  let chunksCompleted ← readColumn (row.integer? "chunks_completed")
  let chunksTotal ← readColumn (row.integer? "chunks_total")
  let lastProgressCheck ← readColumn (row.instant? "last_progress_check")
  let totalChunks ← readColumn (row.integer? "total_chunks")
  let completionMessage ← readColumn (row.text? "completion_message")
  let errorMessage ← readColumn (row.text? "error_message")
  pure { id, nodeName, protocol, nodeType, startedAt, completedAt, status, trigger, protocolData,
         progressPercent, chunksCompleted, chunksTotal, lastProgressCheck, totalChunks,
         completionMessage, errorMessage }

/-- A query of some columns of a table, filtered, ordered and limited. -/
def columnsQuery (table : String) (columns : List String) (filter : Expr) (order : List OrderTerm)
    (limit : Option Nat) : Query :=
  let core : Query := .select false (columns.map fun c => .expr (.col c) none c)
    (some (.table table none)) (some filter) [] none
  if order.isEmpty && limit.isNone then core
  else .ordered core order (limit.map fun n => .lit (.integer n)) none

/-- The rows of a query of the store. -/
def Database.selectRows (db : Database) (q : Query) : Except StoreError (List (List Cell)) :=
  match (Session.start db).storeStep (.select q) with
  | .ok (_, rows) => .ok rows
  | .error e => .error (.database e)

/-- Upload rows a query selects. -/
def Database.uploadRows (db : Database) (filter : Expr) (order : List OrderTerm)
    (limit : Option Nat) : Except StoreError (List Record) := do
  let rows ← db.selectRows (columnsQuery "uploads" uploadColumns filter order limit)
  rows.mapM fun r => ResultRow.toRecord ⟨uploadColumns, r⟩

/-- The first upload row a query selects, if any. -/
def Database.uploadRow? (db : Database) (filter : Expr) (order : List OrderTerm)
    (limit : Option Nat) : Except StoreError (Option Record) := do
  let rows ← db.selectRows (columnsQuery "uploads" uploadColumns filter order limit)
  match rows.head? with
  | some r => some <$> ResultRow.toRecord ⟨uploadColumns, r⟩
  | none => pure none

/-- An ascending order term. -/
def ascending (column : String) : OrderTerm := .term (.col column) false none

/-- A descending order term. -/
def descending (column : String) : OrderTerm := .term (.col column) true none

/-- The upload of an id. -/
def Database.getUpload (db : Database) (id : Int) : Except StoreError (Option Record) :=
  db.uploadRow? (eqExpr (.col "id") (intLit id)) [] none

/-- The running upload of a node. -/
def Database.runningFor (db : Database) (node : String) : Except StoreError (Option Record) :=
  db.uploadRow? (andExpr (eqExpr (.col "node_name") (textLit node)) isRunningRow) [] (some 1)

/-- Every running upload, oldest start first, then by id. -/
def Database.allRunning (db : Database) : Except StoreError (List Record) :=
  db.uploadRows isRunningRow [ascending "started_at", ascending "id"] none

/-- The newest completed upload of a node, by completion time, then highest id. -/
def Database.latestCompleted (db : Database) (node : String) :
    Except StoreError (Option Record) :=
  db.uploadRow?
    (andExpr (andExpr (eqExpr (.col "node_name") (textLit node))
        (eqExpr (.col "status") (textLit "completed")))
      (.isNull (.col "completed_at") true))
    [descending "completed_at", descending "id"] (some 1)

/-- The columns of a progress reading, in the order the query lists them. -/
def progressColumns : List String :=
  ["upload_id", "checked_at", "progress_percent", "chunks_completed", "chunks_total"]

/-- Reads a history row, column by column. -/
def ResultRow.toPoint (row : ResultRow) : Except StoreError ProgressPoint :=
  readColumn do
    pure { uploadId := ← row.integer "upload_id", checkedAt := ← row.instant "checked_at",
           progressPercent := ← row.real? "progress_percent",
           chunksCompleted := ← row.integer? "chunks_completed",
           chunksTotal := ← row.integer? "chunks_total" }

/-- The progress history of an upload, in insertion order. -/
def Database.history (db : Database) (uploadId : Int) : Except StoreError (List ProgressPoint) := do
  let rows ← db.selectRows (columnsQuery "upload_progress" progressColumns
    (eqExpr (.col "upload_id") (intLit uploadId)) [ascending "id"] none)
  rows.mapM fun values => ResultRow.toPoint ⟨progressColumns, values⟩

/-- The status report over some nodes: the running uploads, then for each node with none running
its newest completed upload, if any, looked up in the order the nodes are given. -/
def reportOver (running : List Record) (latest : String → Except StoreError (Option Record))
    (nodes : List String) (now : Instant) : Except StoreError String := do
  let idle := nodes.filter fun n => !running.any (·.nodeName == n)
  let found ← idle.mapM latest
  pure (renderStatus running found.reduceOption now)

/-- The status report of a database over some nodes. -/
def Database.statusReport (db : Database) (nodes : List String) (now : Instant) :
    Except StoreError String := do
  reportOver (← db.allRunning) db.latestCompleted nodes now

/-- The upload store as its users see it. With `hidesRunning`, lookups of running uploads find
none, as when another writer's running rows are not visible; everything else reads the
database. -/
structure UploadStore where
  db : Database
  hidesRunning : Bool := false
  deriving Inhabited

/-- The running upload of a node, unless running uploads are hidden. -/
def UploadStore.runningFor (s : UploadStore) (node : String) : Except StoreError (Option Record) :=
  if s.hidesRunning then .ok none else s.db.runningFor node

/-- Every running upload, unless running uploads are hidden. -/
def UploadStore.allRunning (s : UploadStore) : Except StoreError (List Record) :=
  if s.hidesRunning then .ok [] else s.db.allRunning

/-- The status report over some nodes. -/
def UploadStore.statusReport (s : UploadStore) (nodes : List String) (now : Instant) :
    Except StoreError String := do
  reportOver (← s.allRunning) s.db.latestCompleted nodes now

end SnapshotAgent.Store
