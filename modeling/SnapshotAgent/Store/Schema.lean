import SnapshotAgent.Store.Sql.Run
/-!
# The upload tables

Two tables hold the agent's state. `uploads` has one row per upload run, and its constraints make
the rules of a run hold in the database itself:

* the status is one of `running`, `completed`, `failed`, and the trigger one of `scheduled`,
  `manual`, `discovered`;
* a percentage lies in `0..100`, and the chunks done never exceed the chunks in all;
* a row is running exactly when it has no completion time;
* a partial unique index on the node name over running rows allows at most one running upload
  per node.

`upload_progress` is the append-only history of progress readings of each upload.

Opening a database creates what is missing and keeps what exists: a table of another shape
planted under one of these names stays as it is, and the indexes are then built over it, which
fails when it lacks an indexed column or already holds two running rows for one node.
-/

namespace SnapshotAgent.Store

/-- A text literal. -/
def textLit (s : String) : Expr := .lit (.text s)

/-- An integer literal. -/
def intLit (n : Int) : Expr := .lit (.integer n)

/-- `x IS NULL`. -/
def isNullOf (name : String) : Expr := .isNull (.col name) false

/-- `x OR y`. -/
def orExpr (a b : Expr) : Expr := .binary .or a b

/-- `x AND y`. -/
def andExpr (a b : Expr) : Expr := .binary .and a b

/-- `x = y`. -/
def eqExpr (a b : Expr) : Expr := .binary .eq a b

/-- The filter `status = 'running'`. -/
def isRunningRow : Expr := eqExpr (.col "status") (textLit "running")

/-- The table of upload runs. -/
def uploadsTable : Table where
  name := "uploads"
  autoincrement := true
  columns := [
    { name := "id", declared := "INTEGER", rowKey := true },
    { name := "node_name", declared := "TEXT", notNull := true },
    { name := "protocol", declared := "TEXT", notNull := true },
    { name := "node_type", declared := "TEXT", notNull := true },
    { name := "started_at", declared := "TEXT", notNull := true },
    { name := "completed_at", declared := "TEXT" },
    { name := "status", declared := "TEXT", notNull := true },
    { name := "trigger_type", declared := "TEXT", notNull := true },
    { name := "protocol_data", declared := "TEXT", notNull := true, default := some (textLit "{}") },
    { name := "progress_percent", declared := "REAL" },
    { name := "chunks_completed", declared := "INTEGER" },
    { name := "chunks_total", declared := "INTEGER" },
    { name := "last_progress_check", declared := "TEXT" },
    { name := "total_chunks", declared := "INTEGER" },
    { name := "completion_message", declared := "TEXT" },
    { name := "error_message", declared := "TEXT" }]
  checks := [
    ⟨"status IN ('running', 'completed', 'failed')",
      .inList (.col "status") [textLit "running", textLit "completed", textLit "failed"] false,
      some "status"⟩,
    ⟨"trigger_type IN ('scheduled', 'manual', 'discovered')",
      .inList (.col "trigger_type")
        [textLit "scheduled", textLit "manual", textLit "discovered"] false, some "trigger_type"⟩,
    ⟨"progress_percent IS NULL OR (progress_percent >= 0 AND progress_percent <= 100)",
      orExpr (isNullOf "progress_percent")
        (andExpr (.binary .ge (.col "progress_percent") (intLit 0))
          (.binary .le (.col "progress_percent") (intLit 100))), some "progress_percent"⟩,
    ⟨"(status = 'running') = (completed_at IS NULL)",
      eqExpr isRunningRow (isNullOf "completed_at"), none⟩,
    ⟨"chunks_completed IS NULL OR chunks_total IS NULL OR chunks_completed <= chunks_total",
      orExpr (orExpr (isNullOf "chunks_completed") (isNullOf "chunks_total"))
        (.binary .le (.col "chunks_completed") (.col "chunks_total")), none⟩]

/-- The indexes over `uploads`; only the first one constrains. -/
def uploadIndexes : List Index := [
  { name := "idx_uploads_one_running", table := "uploads", columns := ["node_name"],
    unique := true, filter := some isRunningRow },
  { name := "idx_uploads_node_status", table := "uploads", columns := ["node_name", "status"],
    unique := false },
  { name := "idx_uploads_started_at", table := "uploads", columns := ["started_at"],
    unique := false },
  { name := "idx_uploads_node_completed", table := "uploads",
    columns := ["node_name", "completed_at"], unique := false,
    filter := some (.isNull (.col "completed_at") true) }]

/-- The table of progress readings; a reading goes with its upload. -/
def progressTable : Table where
  name := "upload_progress"
  autoincrement := true
  foreignKeys := [{ columns := ["upload_id"], parent := "uploads", parentColumns := ["id"],
                    onDelete := .cascade }]
  columns := [
    { name := "id", declared := "INTEGER", rowKey := true },
    { name := "upload_id", declared := "INTEGER", notNull := true },
    { name := "checked_at", declared := "TEXT", notNull := true },
    { name := "progress_percent", declared := "REAL" },
    { name := "chunks_completed", declared := "INTEGER" },
    { name := "chunks_total", declared := "INTEGER" }]

/-- The index over `upload_progress`. -/
def progressIndex : Index :=
  { name := "idx_upload_progress_upload", table := "upload_progress",
    columns := ["upload_id", "checked_at"], unique := false }

/-- Creates the upload tables and their indexes where they are missing. -/
def Database.openUploads (db : Database) : Except DbError Database := do
  let db ← db.runCreateTable uploadsTable [] true
  let db ← uploadIndexes.foldlM (fun db ix => db.runCreateIndex ix true) db
  let db ← db.runCreateTable progressTable [] true
  db.runCreateIndex progressIndex true

/-- A database holding only the empty upload tables. -/
def Database.freshUploads : Database :=
  { tables := [uploadsTable, sequenceTable, progressTable],
    indexes := uploadIndexes ++ [progressIndex] }

end SnapshotAgent.Store
