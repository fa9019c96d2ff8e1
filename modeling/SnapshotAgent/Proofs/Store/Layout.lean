import SnapshotAgent.Store.Uploads
/-!
# The upload tables as the store writes them

The store only ever writes rows of one shape into its two tables: every column of an `uploads`
row holds a value of the kind its column declares, its status and trigger are names of the
statuses and triggers, and its first column repeats the row id. This file names that shape as
typed rows, `UploadRow` and `ProgressRow`, and the whole state of the store as `UploadTables`:
the rows of `uploads`, of `upload_progress`, and of the engine's own `sqlite_sequence`.

`UploadTables.db` is the database such a state stands for, with the tables and indexes that
opening the store creates. Every later statement about the store is a statement about the rows
of an `UploadTables`; the lemmas here say how the engine's lookups read such a database, so that
no later proof has to look inside `Database` again.

## Stored values

A percentage is stored as a real: `NaN` becomes `NULL` on the way in (`storablePercent`), and a
real column drops the sign of a zero (`storedReal`). Timestamps are stored as their RFC 3339
text, so a typed row keeps the text and not the instant.
-/

namespace SnapshotAgent.Store

open SnapshotAgent.Upload SnapshotAgent.Time

/-! ## Typed rows -/

/-- A row of `uploads` as the store writes it. -/
structure UploadRow where
  id : Int
  nodeName : String
  protocol : String
  nodeType : String
  startedAt : String
  completedAt : Option String
  status : Status
  trigger : Upload.Trigger
  protocolData : String
  progressPercent : Option Float
  chunksCompleted : Option Int
  chunksTotal : Option Int
  lastProgressCheck : Option String
  totalChunks : Option Int
  completionMessage : Option String
  errorMessage : Option String

/-- The values of an upload row, column by column in the table's order. -/
def UploadRow.cells (u : UploadRow) : List Cell :=
  [.integer u.id, .text u.nodeName, .text u.protocol, .text u.nodeType, .text u.startedAt,
   optionCell .text u.completedAt, .text u.status.name, .text u.trigger.name,
   .text u.protocolData, optionCell storedReal u.progressPercent,
   optionCell .integer u.chunksCompleted, optionCell .integer u.chunksTotal,
   optionCell .text u.lastProgressCheck, optionCell .integer u.totalChunks,
   optionCell .text u.completionMessage, optionCell .text u.errorMessage]

/-- An upload row as the engine keeps it: its id is the row id. -/
def UploadRow.row (u : UploadRow) : Row := ⟨u.id, u.cells⟩

/-- A row of `upload_progress` as the store writes it. -/
structure ProgressRow where
  id : Int
  uploadId : Int
  checkedAt : String
  progressPercent : Option Float
  chunksCompleted : Option Int
  chunksTotal : Option Int

/-- The values of a progress row, column by column. -/
def ProgressRow.cells (p : ProgressRow) : List Cell :=
  [.integer p.id, .integer p.uploadId, .text p.checkedAt, optionCell storedReal p.progressPercent,
   optionCell .integer p.chunksCompleted, optionCell .integer p.chunksTotal]

/-- A progress row as the engine keeps it. -/
def ProgressRow.row (p : ProgressRow) : Row := ⟨p.id, p.cells⟩

@[simp] theorem UploadRow.row_rowid (u : UploadRow) : u.row.rowid = u.id := rfl

@[simp] theorem UploadRow.row_cells (u : UploadRow) : u.row.cells = u.cells := rfl

@[simp] theorem ProgressRow.row_rowid (p : ProgressRow) : p.row.rowid = p.id := rfl

@[simp] theorem ProgressRow.row_cells (p : ProgressRow) : p.row.cells = p.cells := rfl

/-- Where a row goes among rows kept in order of their ids. -/
theorem Table.rowBefore_rowid {t : Table} (ht : t.withoutRowid = false) (a b : Row) :
    t.rowBefore a b = decide (a.rowid < b.rowid) := by
  simp [Table.rowBefore, ht]

/-- Taking out the row with an id, then placing a row with that id among rows sorted by id,
puts the new row where the old one was. -/
theorem Table.placeRow_replace {t : Table} (ht : t.withoutRowid = false) (r : Row) :
    ∀ rows : List Row, rows.Pairwise (·.rowid < ·.rowid) → (∃ o ∈ rows, o.rowid = r.rowid) →
      t.placeRow r (rows.filter (·.rowid != r.rowid)) =
        rows.map fun o => if o.rowid = r.rowid then r else o
  | [], _, ⟨_, hmem, _⟩ => absurd hmem List.not_mem_nil
  | o :: rest, hs, ⟨x, hx, hxr⟩ => by
    obtain ⟨hlt, hrest⟩ := List.pairwise_cons.1 hs
    by_cases ho : o.rowid = r.rowid
    · -- the old row heads the list: every later row has a larger id
      have hkeep : rest.filter (·.rowid != r.rowid) = rest :=
        List.filter_eq_self.2 fun y hy => by
          have := hlt y hy
          simp only [bne_iff_ne, ne_eq]
          omega
      have hsame : rest.map (fun o => if o.rowid = r.rowid then r else o) = rest :=
        (List.map_congr_left fun y hy => by
          have := hlt y hy
          rw [if_neg (by omega)]).trans (List.map_id' rest)
      cases rest with
      | nil => simp [ho, Table.placeRow]
      | cons y ys =>
        have hy := hlt y List.mem_cons_self
        simp only [List.filter_cons, ho, bne_self_eq_false, Bool.false_eq_true, if_false] at hkeep ⊢
        rw [hkeep, List.map_cons, if_pos ho, hsame, Table.placeRow, Table.rowBefore_rowid ht,
          decide_eq_true (ho ▸ hy)]
        rfl
    · -- the old row comes later, so this one stays in front
      have hx' : x ∈ rest := by
        rcases List.mem_cons.1 hx with rfl | h
        · exact absurd hxr ho
        · exact h
      have hor : o.rowid < r.rowid := hxr ▸ hlt x hx'
      simp only [List.filter_cons, bne_iff_ne, ne_eq, ho, not_false_eq_true, if_true,
        List.map_cons, if_false]
      rw [Table.placeRow, Table.rowBefore_rowid ht, decide_eq_false (by omega), if_neg (by simp),
        Table.placeRow_replace ht r rest hrest ⟨x, hx', hxr⟩]

/-- A row whose id is above every id of a table goes after all its rows. -/
theorem Table.placeRow_last {t : Table} (ht : t.withoutRowid = false) (r : Row) :
    ∀ rows : List Row, (∀ o ∈ rows, o.rowid < r.rowid) → t.placeRow r rows = rows ++ [r]
  | [], _ => rfl
  | o :: rest, h => by
    have ho := h o List.mem_cons_self
    rw [Table.placeRow, Table.rowBefore_rowid ht, decide_eq_false (by omega), if_neg (by simp),
      Table.placeRow_last ht r rest fun x hx => h x (List.mem_cons_of_mem o hx)]
    rfl

/-- The highest row id of a table bounds the id of each of its rows. -/
theorem Table.le_maxRowid {t : Table} {r : Row} (h : r ∈ t.rows) : r.rowid ≤ t.maxRowid := by
  unfold Table.maxRowid
  split
  next hnil => simp [hnil] at h
  next a rest hrows =>
    rw [hrows] at h
    -- the running maximum stays above its start and above every row it has passed
    have key : ∀ (l : List Row) (m : Int), m ≤ l.foldl (fun m o => max m o.rowid) m ∧
        ∀ o ∈ l, o.rowid ≤ l.foldl (fun m o => max m o.rowid) m := by
      intro l
      induction l with
      | nil => simp
      | cons x xs ih =>
        intro m
        obtain ⟨h1, h2⟩ := ih (max m x.rowid)
        refine ⟨Int.le_trans (Int.le_max_left _ _) h1, fun o ho => ?_⟩
        rcases List.mem_cons.1 ho with rfl | ho
        · exact Int.le_trans (Int.le_max_right _ _) h1
        · exact h2 o ho
    rcases List.mem_cons.1 h with rfl | h
    · exact (key rest r.rowid).1
    · exact (key rest a.rowid).2 r h

/-- A percentage as the store can keep it: `NaN` is kept as no value. -/
def storablePercent : Option Float → Option Float
  | some x => if x.isNaN then none else some x
  | none => none

@[simp] theorem Cell.store_null (a : Affinity) : Cell.null.store a = .null := by
  cases a <;> rfl

@[simp] theorem Cell.store_real_real (x : Float) : (Cell.real x).store .real = storedReal x := rfl

/-- The engine stores the percentage a statement binds as the typed row's value. -/
theorem percentCell_store (o : Option Float) :
    (percentCell o).store .real = optionCell storedReal (storablePercent o) := by
  cases o with
  | none => rfl
  | some x =>
    by_cases h : x.isNaN
    · simp only [percentCell, storablePercent, h, if_true, Cell.store_null, optionCell]
    · simp only [percentCell, storablePercent, h, Bool.false_eq_true, if_false,
        Cell.store_real_real, optionCell]

/-- Storing a stored real again changes nothing; only the sign of a zero is ever dropped. -/
theorem storedReal_store (x : Float) : (storedReal x).store .real = storedReal x := by
  unfold storedReal
  split
  · rw [Cell.store_real_real, storedReal]
    split <;> rfl
  · rw [Cell.store_real_real, storedReal]
    simp only [*, Bool.false_eq_true, if_false]

/-! ## The state of the store -/

/-- The rows of the store's tables, including the engine's record of the highest row id each
`AUTOINCREMENT` table gave out. -/
structure UploadTables where
  uploads : List UploadRow
  sequence : List Row
  progress : List ProgressRow

namespace UploadTables

variable (s : UploadTables)

/-- The `uploads` table of a state. -/
def uploadsT : Table := { uploadsTable with rows := s.uploads.map UploadRow.row }

/-- The `sqlite_sequence` table of a state. -/
def sequenceT : Table := { sequenceTable with rows := s.sequence }

/-- The `upload_progress` table of a state. -/
def progressT : Table := { progressTable with rows := s.progress.map ProgressRow.row }

/-- The database a state stands for: the three tables in the order opening the store creates
them, and the store's indexes. -/
def db : Database :=
  { tables := [s.uploadsT, s.sequenceT, s.progressT],
    indexes := uploadIndexes ++ [progressIndex] }

/-- The state of a store that has written nothing. -/
def empty : UploadTables := ⟨[], [], []⟩

/-- A new store's database is the database of the empty state. -/
theorem freshUploads_eq : Database.freshUploads = empty.db := rfl

@[simp] theorem uploadsT_rows : s.uploadsT.rows = s.uploads.map UploadRow.row := rfl

@[simp] theorem progressT_rows : s.progressT.rows = s.progress.map ProgressRow.row := rfl

@[simp] theorem uploadsT_name : s.uploadsT.name = "uploads" := rfl

@[simp] theorem uploadsT_columns : s.uploadsT.columns = uploadsTable.columns := rfl

@[simp] theorem uploadsT_checks : s.uploadsT.checks = uploadsTable.checks := rfl

@[simp] theorem uploadsT_strict : s.uploadsT.strict = false := rfl

@[simp] theorem uploadsT_withoutRowid : s.uploadsT.withoutRowid = false := rfl

@[simp] theorem uploadsT_primaryKey : s.uploadsT.primaryKey = [] := rfl

@[simp] theorem uploadsT_autoincrement : s.uploadsT.autoincrement = true := rfl

@[simp] theorem uploadsT_foreignKeys : s.uploadsT.foreignKeys = [] := rfl

@[simp] theorem progressT_columns : s.progressT.columns = progressTable.columns := rfl

@[simp] theorem progressT_checks : s.progressT.checks = [] := rfl

@[simp] theorem progressT_strict : s.progressT.strict = false := rfl

@[simp] theorem progressT_withoutRowid : s.progressT.withoutRowid = false := rfl

@[simp] theorem progressT_autoincrement : s.progressT.autoincrement = true := rfl

@[simp] theorem progressT_foreignKeys : s.progressT.foreignKeys = progressTable.foreignKeys := rfl

@[simp] theorem sequenceT_foreignKeys : s.sequenceT.foreignKeys = [] := rfl

@[simp] theorem sequenceT_name : s.sequenceT.name = "sqlite_sequence" := rfl

@[simp] theorem progressT_name : s.progressT.name = "upload_progress" := rfl

@[simp] theorem db_tables : s.db.tables = [s.uploadsT, s.sequenceT, s.progressT] := rfl

@[simp] theorem db_triggers : s.db.triggers = [] := rfl

@[simp] theorem db_views : s.db.views = [] := rfl

@[simp] theorem db_indexes : s.db.indexes = uploadIndexes ++ [progressIndex] := rfl

/-! ## Looking tables up

The engine finds a table by comparing names without regard to ASCII case; the three names of the
store's tables are told apart once here. -/

theorem sameName_self (a : String) : sameName a a = true := beq_self_eq_true _

@[simp] theorem sameName_uploads : sameName "uploads" "uploads" = true := by decide
@[simp] theorem sameName_progress : sameName "upload_progress" "upload_progress" = true := by
  decide
@[simp] theorem sameName_sequence : sameName "sqlite_sequence" "sqlite_sequence" = true := by
  decide
@[simp] theorem sameName_uploads_progress : sameName "uploads" "upload_progress" = false := by
  decide
@[simp] theorem sameName_uploads_sequence : sameName "uploads" "sqlite_sequence" = false := by
  decide
@[simp] theorem sameName_progress_uploads : sameName "upload_progress" "uploads" = false := by
  decide
@[simp] theorem sameName_progress_sequence :
    sameName "upload_progress" "sqlite_sequence" = false := by decide
@[simp] theorem sameName_sequence_uploads : sameName "sqlite_sequence" "uploads" = false := by
  decide
@[simp] theorem sameName_sequence_progress :
    sameName "sqlite_sequence" "upload_progress" = false := by decide

@[simp] theorem table_uploads : s.db.table? "uploads" = some s.uploadsT := by
  simp [db, Database.table?]

@[simp] theorem table_progress : s.db.table? "upload_progress" = some s.progressT := by
  simp [db, Database.table?]

@[simp] theorem table_sequence : s.db.table? sequenceTableName = some s.sequenceT := by
  simp [db, Database.table?, sequenceTableName]

/-- A state's database fires no trigger. -/
@[simp] theorem firing_nil (table : String) (time : TriggerTime) (event : TriggerEvent)
    (running : List String) : s.db.firing table time event running = [] := rfl

/-- Replacing the rows of `uploads` gives the database of the state with those rows. -/
theorem putTable_uploads (us : List UploadRow) :
    s.db.putTable { s.uploadsT with rows := us.map UploadRow.row } =
      { s with uploads := us }.db := by
  simp only [db, Database.putTable, List.map_cons, List.map_nil, uploadsT_name, sequenceT_name,
    progressT_name, sameName_uploads, sameName_sequence_uploads, sameName_progress_uploads,
    if_true, Bool.false_eq_true, if_false]
  rfl

/-- Replacing the rows of `upload_progress` gives the database of the state with those rows. -/
theorem putTable_progress (ps : List ProgressRow) :
    s.db.putTable { s.progressT with rows := ps.map ProgressRow.row } =
      { s with progress := ps }.db := by
  simp only [db, Database.putTable, List.map_cons, List.map_nil, uploadsT_name, sequenceT_name,
    progressT_name, sameName_progress, sameName_sequence_progress, sameName_uploads_progress,
    if_true, Bool.false_eq_true, if_false]
  rfl

/-- Replacing the rows of `sqlite_sequence` gives the database of the state with those rows. -/
theorem putTable_sequence (seq : List Row) :
    s.db.putTable { s.sequenceT with rows := seq } = { s with sequence := seq }.db := by
  simp only [db, Database.putTable, List.map_cons, List.map_nil, uploadsT_name, sequenceT_name,
    progressT_name, sameName_sequence, sameName_uploads_sequence, sameName_progress_sequence,
    if_true, Bool.false_eq_true, if_false]
  rfl

/-- Recording a row id in `sqlite_sequence` changes only that table. -/
theorem setSequence_eq (table : String) (v : Int) :
    ∃ seq : List Row, s.db.setSequence table v = { s with sequence := seq }.db := by
  simp only [Database.setSequence, table_sequence]
  split
  · exact ⟨_, putTable_sequence s _⟩
  · exact ⟨_, putTable_sequence s _⟩

/-- The engine's record of the ids a table gave out reads only `sqlite_sequence`. -/
theorem sequenceOf_uploads (us : List UploadRow) (name : String) :
    { s with uploads := us }.db.sequenceOf name = s.db.sequenceOf name := by
  simp only [Database.sequenceOf, table_sequence]
  rfl

theorem sequenceOf_progress (ps : List ProgressRow) (name : String) :
    { s with progress := ps }.db.sequenceOf name = s.db.sequenceOf name := by
  simp only [Database.sequenceOf, table_sequence]
  rfl

/-- After recording a row id, a state's database still fires no trigger. -/
@[simp] theorem firing_setSequence (name : String) (v : Int) (table : String) (time : TriggerTime)
    (event : TriggerEvent) (running : List String) :
    (s.db.setSequence name v).firing table time event running = [] := by
  obtain ⟨seq, h⟩ := s.setSequence_eq name v
  rw [h]
  rfl

end UploadTables

end SnapshotAgent.Store
