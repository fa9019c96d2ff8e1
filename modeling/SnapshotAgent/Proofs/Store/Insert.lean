import SnapshotAgent.Proofs.Store.Update
/-!
# Inserting into the upload tables

The store writes two kinds of row with `INSERT`. A new upload gives every column of `uploads` but
the id, the completion time and the two closing messages; a reading of the progress history gives
every column of `upload_progress` but the id. This file runs both statements over the database of
an `UploadTables`, one phase of the engine's insert at a time, as `Update` does for the patch.

## Row ids

Both tables are `AUTOINCREMENT`. The engine gives a new row the id one above the highest its table
holds or `sqlite_sequence` says it ever gave out (`UploadTables.nextId`), records that id in
`sqlite_sequence`, and refuses the insert with `SQLITE_FULL` when the id would pass the largest
integer. A new row's id is therefore above every id of its table (`rowid_lt_nextId`), so the row
goes after all the others and clashes with none of them.

## The outcome

`runChange_uploadInsert`: the insert of a new upload fails when ids are exhausted, then on the
first `CHECK` constraint the new row breaks, then when another upload of its node is running (the
partial unique index), and otherwise appends the row and answers its id. `runChange_progressInsert`:
the insert of a reading only fails when ids are exhausted. A failed insert leaves the effects as
they were.
-/

namespace SnapshotAgent.Upload

open SnapshotAgent.Store SnapshotAgent.Time

/-- The row the store writes for a new upload, with the id the engine gives it: running, with no
completion, and with the percentage as the database keeps it. -/
def NewUpload.toRow (u : NewUpload) (data : String) (id : Int) : UploadRow :=
  { id, nodeName := u.nodeName, protocol := u.protocol, nodeType := u.nodeType,
    startedAt := u.startedAt.rfc3339Offset, completedAt := none, status := .running,
    trigger := u.trigger, protocolData := data,
    progressPercent := storablePercent u.progressPercent,
    chunksCompleted := u.chunksCompleted, chunksTotal := u.chunksTotal,
    lastProgressCheck := u.lastProgressCheck.map Instant.rfc3339Offset,
    totalChunks := none, completionMessage := none, errorMessage := none }

/-- What the insert of a new upload gives for each column of `uploads`, in the table's order. -/
def NewUpload.given (u : NewUpload) (data : String) : List (Option Cell) :=
  [none, some (.text u.nodeName), some (.text u.protocol), some (.text u.nodeType),
   some (instantCell u.startedAt), none, some (.text "running"), some (.text u.trigger.name),
   some (.text data), some (percentCell u.progressPercent),
   some (optionCell .integer u.chunksCompleted), some (optionCell .integer u.chunksTotal),
   some (optionCell instantCell u.lastProgressCheck), none, none, none]

end SnapshotAgent.Upload

namespace SnapshotAgent.Store

open SnapshotAgent.Upload SnapshotAgent.Time

/-! ## Row ids -/

namespace UploadTables

variable (s : UploadTables)

/-- The id the engine gives the next row of a table of a state: one above the highest the table
holds or `sqlite_sequence` says it ever gave out. -/
def nextId (t : Table) : Int := max t.maxRowid ((s.db.sequenceOf t.name).getD 0) + 1

/-- The state with a new upload row after the others. -/
def addUpload (v : UploadRow) : UploadTables := { s with uploads := s.uploads ++ [v] }

/-- The state with a new history row after the others. -/
def addProgress (q : ProgressRow) : UploadTables := { s with progress := s.progress ++ [q] }

/-- A new id is above the id of every row of its table. -/
theorem rowid_lt_nextId {t : Table} {r : Row} (h : r ∈ t.rows) : r.rowid < s.nextId t := by
  have h1 := Table.le_maxRowid h
  have h2 := Int.le_max_left t.maxRowid ((s.db.sequenceOf t.name).getD 0)
  unfold nextId
  omega

/-- A new id is above every id `sqlite_sequence` records for its table. -/
theorem sequence_lt_nextId (t : Table) : (s.db.sequenceOf t.name).getD 0 < s.nextId t := by
  have := Int.le_max_right t.maxRowid ((s.db.sequenceOf t.name).getD 0)
  unfold nextId
  omega

/-- No row of a table has the id the engine gives the next one. -/
theorem filter_rowid_nextId (t : Table) : t.rows.filter (·.rowid == s.nextId t) = [] :=
  List.filter_eq_nil_iff.2 fun r hr => by
    have := s.rowid_lt_nextId hr
    simp only [beq_iff_eq]
    omega

theorem id_lt_nextId {o : UploadRow} (h : o ∈ s.uploads) : o.id < s.nextId s.uploadsT :=
  s.rowid_lt_nextId (r := o.row) (by simpa using List.mem_map_of_mem h)

theorem progress_id_lt_nextId {q : ProgressRow} (h : q ∈ s.progress) : q.id < s.nextId s.progressT :=
  s.rowid_lt_nextId (r := q.row) (by simpa using List.mem_map_of_mem h)

/-- Writing a row with a new id into `uploads` appends it. -/
theorem putTable_addUpload {v : UploadRow} (hv : v.id = s.nextId s.uploadsT) :
    s.db.putTable (s.uploadsT.addRow v.row) = (s.addUpload v).db := by
  have hlt : ∀ r ∈ s.uploadsT.rows, r.rowid < v.row.rowid := fun r hr => by
    rw [UploadRow.row_rowid, hv]
    exact s.rowid_lt_nextId hr
  rw [Table.addRow, Table.placeRow_last rfl v.row _ hlt, uploadsT_rows, ← List.map_singleton,
    ← List.map_append]
  exact s.putTable_uploads _

/-- Writing a row with a new id into `upload_progress` appends it. -/
theorem putTable_addProgress {q : ProgressRow} (hq : q.id = s.nextId s.progressT) :
    s.db.putTable (s.progressT.addRow q.row) = (s.addProgress q).db := by
  have hlt : ∀ r ∈ s.progressT.rows, r.rowid < q.row.rowid := fun r hr => by
    rw [ProgressRow.row_rowid, hq]
    exact s.rowid_lt_nextId hr
  rw [Table.addRow, Table.placeRow_last rfl q.row _ hlt, progressT_rows, ← List.map_singleton,
    ← List.map_append]
  exact s.putTable_progress _

/-- The engine's test that ids are exhausted, on the next id. -/
theorem exhausted_iff (t : Table) :
    maxInteger ≤ max t.maxRowid ((s.db.sequenceOf t.name).getD 0) ↔ maxInteger < s.nextId t := by
  unfold nextId
  omega

theorem fold_nextId (t : Table) :
    max t.maxRowid ((s.db.sequenceOf t.name).getD 0) + 1 = s.nextId t := rfl

end UploadTables

/-- Of the indexes, only the one on running rows is unique on `uploads`. -/
theorem uploads_uniqueIndexes (s : UploadTables) :
    s.db.uniqueIndexes s.uploadsT = uploadIndexes.take 1 := by
  simp +decide only [Database.uniqueIndexes, UploadTables.db_indexes, uploadIndexes, progressIndex,
    List.cons_append, List.nil_append, List.filter_cons, List.filter_nil, List.reverse_cons,
    List.reverse_nil, List.take, UploadTables.uploadsT_name, if_true, if_false]

/-- No index is unique on `upload_progress`. -/
theorem progress_uniqueIndexes (s : UploadTables) : s.db.uniqueIndexes s.progressT = [] := by
  simp +decide only [Database.uniqueIndexes, UploadTables.db_indexes, uploadIndexes, progressIndex,
    List.cons_append, List.nil_append, List.filter_cons, List.filter_nil, List.reverse_nil,
    UploadTables.progressT_name, if_false]

/-! ## The values of a new row -/

@[simp] theorem Affinity.ofDeclared_text : Affinity.ofDeclared "TEXT" = .text := by decide

@[simp] theorem Affinity.ofDeclared_integer : Affinity.ofDeclared "INTEGER" = .integer := by decide

@[simp] theorem Affinity.ofDeclared_real : Affinity.ofDeclared "REAL" = .real := by decide

@[simp] theorem optionCell_none {α : Type} (f : α → Cell) : optionCell f none = .null := rfl

theorem store_optionCell_integer (o : Option Int) :
    (optionCell .integer o).store .integer = optionCell .integer o := by
  cases o <;> rfl

theorem store_optionCell_text (o : Option String) :
    (optionCell .text o).store .text = optionCell .text o := by
  cases o <;> rfl

theorem uploads_keyIndex : uploadsTable.columns.findIdx? (·.rowKey) = some 0 := rfl

theorem progress_keyIndex : progressTable.columns.findIdx? (·.rowKey) = some 0 := rfl

/-- The columns the insert of a new upload leaves out have no default, so they hold `NULL`. -/
theorem NewUpload.given_defaults (u : NewUpload) (data : String) :
    ∀ x ∈ uploadsTable.columns.zip (u.given data), x.2 = none → x.1.default = none := by
  intro x hx
  simp only [uploadsTable, NewUpload.given, List.zip_cons_cons, List.zip_nil_right, List.mem_cons,
    List.not_mem_nil, or_false] at hx
  rcases hx with rfl | rfl | rfl | rfl | rfl | rfl | rfl | rfl | rfl | rfl | rfl | rfl | rfl | rfl |
    rfl | rfl <;> simp

theorem NewUpload.toRow_cells (u : NewUpload) (data : String) (id : Int) :
    (u.toRow data id).cells = .integer id :: (u.toRow data 0).cells.tail := rfl

/-- The values the insert of a new upload gives, as the engine stores them: the typed row's,
with the id still missing. -/
theorem NewUpload.stored_given (u : NewUpload) (data : String) {t : Table} (hs : t.strict = false) :
    (uploadsTable.columns.zip ((uploadsTable.columns.zip (u.given data)).map
        fun x => x.2.getD .null)).map (fun x => Cell.store (t.columnAffinity x.1) x.2) =
      .null :: (u.toRow data 0).cells.tail := by
  simp only [uploadsTable, NewUpload.given, List.zip_cons_cons, List.zip_nil_right, List.map_cons,
    List.map_nil, Option.getD_some, Option.getD_none, Table.columnAffinity_loose hs, Column.affinity,
    Affinity.ofDeclared_text, Affinity.ofDeclared_integer, Affinity.ofDeclared_real, Cell.store_null,
    Cell.store_text, instantCell, percentCell_store, store_optionCell_integer, NewUpload.toRow,
    UploadRow.cells, List.tail_cons, optionCell_instant, store_optionCell_text, optionCell_none,
    Status.name]

/-- Every column of `uploads` declared `NOT NULL` holds a value in a typed row. -/
theorem UploadRow.required_filled (v : UploadRow) :
    ∀ x ∈ uploadsTable.columns.zip v.cells, x.1.notNull = true → x.2 ≠ .null := by
  intro x hx
  simp only [uploadsTable, UploadRow.cells, List.zip_cons_cons, List.zip_nil_right, List.mem_cons,
    List.not_mem_nil, or_false] at hx
  rcases hx with rfl | rfl | rfl | rfl | rfl | rfl | rfl | rfl | rfl | rfl | rfl | rfl | rfl | rfl |
    rfl | rfl <;> simp

/-- A column with no value in a row that fills every column declared `NOT NULL` is not
required, so the `NOT NULL` pass keeps its `NULL`. -/
theorem notNull_unrequired {cols : List Column} {cells : List Cell}
    (hfill : ∀ x ∈ cols.zip cells, x.1.notNull = true → x.2 ≠ .null) {x : Column × Cell}
    (hx : x ∈ cols.zip cells) (hnull : x.2 = .null) : (x.1.notNull && !x.1.rowKey) = false := by
  cases h : x.1.notNull
  · rfl
  · exact absurd hnull (hfill x hx h)

/-- The id column over a typed row, as a step of writing. -/
theorem evalIn_id {fuel : Nat} {ctx : WriteCtx} (hctx : ctx.outer = []) {t : Table}
    (ht : t.columns = uploadsTable.columns) (v : UploadRow) :
    evalIn (fuel + 1) ctx [[t.bind none v.row]] (.col "id") = pure (.integer v.id) :=
  evalIn_eq_pure hctx fun _ h => evalExpr_col (h.find_uploads ht uploads_columnIndex.1)

/-- The rows a filter keeps are none exactly when no row passes it. -/
theorem isEmpty_map_filter {α β : Type} (f : α → β) (q : α → Bool) (l : List α) :
    ((l.filter q).map f).isEmpty = !l.any q := by
  cases h : l.any q
  · simp only [List.any_eq_false] at h
    simp [List.filter_eq_nil_iff.2 h]
  · obtain ⟨o, ho, hq⟩ := List.any_eq_true.1 h
    have hne : l.filter q ≠ [] := fun hnil => List.filter_eq_nil_iff.1 hnil o ho hq
    simpa using hne

/-! ## A new upload -/

/-- The engine's insert of a new upload into a typed state. Ids may be exhausted; otherwise the
row is checked against the constraints, then against the running rows of its node, and only then
appended, its id recorded in `sqlite_sequence` and answered. -/
theorem insertRow_newUpload (u : NewUpload) (data : String) {s : UploadTables} {ctx : WriteCtx}
    (hctx : ctx.outer = []) (hcount : ctx.counts = true) {ins : Insert} (hup : ins.upserts = [])
    (halias : ins.asName = none) (hret : ins.returning = [.expr (.col "id") none "id"])
    {e : Effects} (he : e.db = s.db) (fuel : Nat) :
    (insertRow (fuel + 6) ctx s.uploadsT .abort ins (u.given data) none).run e =
      if maxInteger < s.nextId s.uploadsT then
        (.error (.failed (engineError 13 "database or disk is full") .abort), e)
      else match (u.toRow data (s.nextId s.uploadsT)).brokenCheck with
      | some k => (.error k.failure, e)
      | none =>
        if s.uploads.any (fun o => o.nodeName == u.nodeName && o.status == .running) then
          (.error (.failed (engineError 2067 "UNIQUE constraint failed: uploads.node_name") .abort),
            e)
        else
          (.ok [[.integer (s.nextId s.uploadsT)]],
            { e with
              db := (s.addUpload (u.toRow data (s.nextId s.uploadsT))).db.setSequence "uploads"
                (s.nextId s.uploadsT)
              lastRowid := s.nextId s.uploadsT
              counted := e.counted + 1 }) := by
  have htab : e.db.table? s.uploadsT.name = some s.uploadsT := by rw [he]; simp
  generalize hclash : s.uploads.any (fun o => o.nodeName == u.nodeName && o.status == .running) =
    clash
  -- the values given and the defaults of the rest, stored under the columns' affinities
  simp only [insertRow, Write.run_bind, Write.run_currentTable htab, UploadTables.uploadsT_columns]
  rw [mapM_eq_pure _ (fun x => x.2.getD .null) _ ?raw]
  case raw =>
    rintro ⟨c, _ | v⟩ hx
    · have hd : c.default = none := NewUpload.given_defaults u data _ hx rfl
      simp only [hd, Option.getD_none]
    · rfl
  simp only [Write.run_pure, NewUpload.stored_given u data (UploadTables.uploadsT_strict s),
    uploads_keyIndex, List.getD_cons_zero, setCell, List.set_cons_zero, ← NewUpload.toRow_cells]
  -- no trigger fires, and the engine picks the id
  simp only [Write.run_bind, Write.run_pure, Write.run_get, he, UploadTables.firing_nil,
    Write.run_catchIgnored_none, Bool.false_eq_true, if_false, Write.run_currentTable htab,
    UploadTables.uploadsT_withoutRowid, Write.run_newRowid (UploadTables.uploadsT_autoincrement s),
    s.exhausted_iff]
  by_cases htop : maxInteger < s.nextId s.uploadsT
  · rw [if_pos htop, if_pos htop]
  simp only [if_neg htop, s.fold_nextId]
  -- the `NOT NULL` pass keeps every value
  rw [mapM_eq_pure _ (fun x => some x.2) _ ?notNull]
  case notNull =>
    intro x hx
    split
    next hnull =>
      have hreq := notNull_unrequired (UploadRow.required_filled _) (by simpa using hx) hnull
      simp only [Bool.false_and, Bool.or_false, hreq, Bool.false_eq_true, if_false]
    next => rfl
  generalize hv : u.toRow data (s.nextId s.uploadsT) = v
  have hvid : v.id = s.nextId s.uploadsT := by rw [← hv]; rfl
  have hlen : v.cells.length ≤ uploadsTable.columns.length := by rw [← hv]; exact Nat.le_refl _
  simp only [Write.run_pure, List.any_map, Function.comp_def, Option.isNone_some, List.map_map,
    Option.getD_some, UploadTables.uploadsT_columns, List.map_snd_zip hlen, List.any_eq_true,
    Bool.false_eq_true, and_false, exists_false, if_false, UploadTables.uploadsT_checks]
  -- the constraints
  rw [show (⟨s.nextId s.uploadsT, v.cells⟩ : Row) = v.row by rw [UploadRow.row, hvid],
    Write.run_bind,
    @Write.run_findM?_checks fuel s.uploadsT { ctx with outer := [], ctes := [] } rfl e rfl v _
      (.inl rfl)]
  cases v.brokenCheck with
  | some k => rfl
  | none =>
    have hvs : v.status = .running := by rw [← hv]; rfl
    have hvn : v.nodeName = u.nodeName := by rw [← hv]; rfl
    have hidClash : (s.uploads.map UploadRow.row).filter (·.rowid == s.nextId s.uploadsT) = [] :=
      s.filter_rowid_nextId s.uploadsT
    -- the index on running rows: the running rows of the node clash with the new row
    simp only [Write.run_bind, Write.run_get, he, uploads_uniqueIndexes, uploadIndexes, List.take,
      List.filterMapM, List.filterMapM.loop,
      @evalIn_isRunningRow (fuel + 3) { ctx with outer := [], ctes := [] } rfl s.uploadsT rfl v,
      pure_bind, ofBool_confirmed, hvs, beq_self_eq_true, Bool.not_true, Bool.false_eq_true,
      if_false, UploadTables.uploadsT_rows]
    rw [Write.run_filterM_map _ _ _ (fun o => o.nodeName == u.nodeName && o.status == .running) e
      ?hits]
    case hits =>
      intro o _
      simp only [List.map_cons, List.map_nil, @nodeName_collation s.uploadsT rfl,
        @cell_nodeName s.uploadsT rfl, keysCollide_text, hvn]
      cases hn : o.nodeName == u.nodeName
      · simp
      · simp only [Bool.not_true, Bool.false_eq_true, if_false, Bool.true_and, Write.run_bind,
          @evalIn_isRunningRow (fuel + 3) { ctx with outer := [], ctes := [] } rfl s.uploadsT rfl o,
          Write.run_pure, ofBool_confirmed]
    simp only [Write.run_pure, isEmpty_map_filter, hclash, hidClash, List.isEmpty_nil, if_true,
      List.nil_append]
    cases clash
    · -- no clash: the row is written after the others and its id answered
      have htab' : e.db.table? "uploads" = some s.uploadsT := by rw [he]; simp
      have hseq : s.nextId s.uploadsT > ((s.addUpload v).db.sequenceOf "uploads").getD 0 := by
        rw [UploadTables.addUpload, UploadTables.sequenceOf_uploads]
        exact s.sequence_lt_nextId s.uploadsT
      simp only [Bool.not_false, if_true, List.reverse_nil, List.map_nil, List.head?_nil,
        Write.run_pure, Write.run_bind, Table.strictRefusal, UploadTables.uploadsT_strict,
        Write.run_currentTable htab', putTable, Write.run_modify, Write.run_get, hcount,
        UploadTables.uploadsT_name, UploadTables.uploadsT_withoutRowid, he,
        s.putTable_addUpload hvid, UploadTables.uploadsT_autoincrement, decide_eq_true_eq, hseq,
        Bool.true_and, if_true, UploadTables.firing_setSequence, Write.run_catchIgnored_none, hret,
        halias, List.isEmpty_cons, Bool.false_eq_true, if_false, returningItems, List.flatMap_cons,
        List.flatMap_nil, List.append_nil, List.mapM_cons, List.mapM_nil,
        @evalIn_id (fuel + 4) ctx hctx s.uploadsT rfl v, pure_bind, hvid]
    · -- a running row of the node: the unique index refuses the row
      have hignore : (Conflict.abort == Conflict.ignore) = false := rfl
      have hreplace : (Conflict.abort != Conflict.replace) = true := rfl
      simp only [Bool.not_true, Bool.false_eq_true, if_false, List.reverse_cons, List.reverse_nil,
        List.nil_append, List.map_cons, List.map_nil, List.head?_cons, hup, List.find?_nil,
        Write.run_pure, Write.run_bind, hignore, hreplace, if_true, failWith, stopMode,
        Write.run_throw]
      rfl

/-- The insert of a new upload, run as a statement. -/
theorem runChange_uploadInsert (u : NewUpload) (data : String) {s : UploadTables} {ctx : WriteCtx}
    (hctx : ctx.outer = []) (hconf : ctx.conflict = none) (hcount : ctx.counts = true)
    {e : Effects} (he : e.db = s.db) (fuel : Nat) :
    (runChange (fuel + 8) ctx (uploadInsert u data)).run e =
      if maxInteger < s.nextId s.uploadsT then
        (.error (.failed (engineError 13 "database or disk is full") .abort), e)
      else match (u.toRow data (s.nextId s.uploadsT)).brokenCheck with
      | some k => (.error k.failure, e)
      | none =>
        if s.uploads.any (fun o => o.nodeName == u.nodeName && o.status == .running) then
          (.error (.failed (engineError 2067 "UNIQUE constraint failed: uploads.node_name") .abort),
            e)
        else
          (.ok [[.integer (s.nextId s.uploadsT)]],
            { e with
              db := (s.addUpload (u.toRow data (s.nextId s.uploadsT))).db.setSequence "uploads"
                (s.nextId s.uploadsT)
              lastRowid := s.nextId s.uploadsT
              counted := e.counted + 1 }) := by
  have htab : e.db.table? "uploads" = some s.uploadsT := by rw [he]; simp
  -- the values are literals, and the listed columns are placed by name
  simp only [runChange, runInsert, uploadInsert, textValue, Write.run_bind, Write.run_get, htab,
    hconf, List.mapM_cons, List.mapM_nil, evalIn_lit, pure_bind, List.foldlM_cons, List.foldlM_nil,
    Option.orElse_none]
  simp +decide only [UploadTables.uploadsT_columns, uploadsTable, List.map_cons, List.map_nil,
    List.findIdx?_cons, List.findIdx?_nil, Option.getD_some, if_true, if_false, Option.map_some,
    Option.map_none, List.getD_cons_succ, List.getD_cons_zero, Nat.zero_add, Table.rowKey?,
    List.find?_cons, Bool.and_eq_true, false_and, Option.isNone_some, Option.getD_none]
  rw [show [none, some (Cell.text u.nodeName), some (Cell.text u.protocol),
      some (Cell.text u.nodeType), some (instantCell u.startedAt), none, some (Cell.text "running"),
      some (Cell.text u.trigger.name), some (Cell.text data), some (percentCell u.progressPercent),
      some (optionCell Cell.integer u.chunksCompleted), some (optionCell Cell.integer u.chunksTotal),
      some (optionCell instantCell u.lastProgressCheck), none, none, none] = u.given data from rfl,
    @insertRow_newUpload u data s { ctx with conflict := none } hctx hcount _ rfl rfl rfl e he fuel]
  by_cases htop : maxInteger < s.nextId s.uploadsT
  · simp only [htop, if_true]
  · simp only [htop, if_false]
    cases (u.toRow data (s.nextId s.uploadsT)).brokenCheck with
    | some k => rfl
    | none => cases s.uploads.any (fun o => o.nodeName == u.nodeName && o.status == .running) <;> rfl

/-! ## A reading of the history -/

/-- The history row the store appends for a reading, with the id the engine gives it. -/
def progressRow (id uploadId : Int) (checkedAt : Instant) (percent : Option Float)
    (done total : Option Int) : ProgressRow :=
  { id, uploadId, checkedAt := checkedAt.rfc3339Offset, progressPercent := storablePercent percent,
    chunksCompleted := done, chunksTotal := total }

/-- What the insert of a reading gives for each column of `upload_progress`: all but the id. -/
def progressGiven (uploadId : Int) (checkedAt : Instant) (percent : Option Float)
    (done total : Option Int) : List (Option Cell) :=
  [none, some (.integer uploadId), some (instantCell checkedAt), some (percentCell percent),
   some (optionCell .integer done), some (optionCell .integer total)]

theorem progressRow_cells (id uploadId : Int) (checkedAt : Instant) (percent : Option Float)
    (done total : Option Int) :
    (progressRow id uploadId checkedAt percent done total).cells =
      .integer id :: (progressRow 0 uploadId checkedAt percent done total).cells.tail := rfl

/-- The values the insert of a reading gives, as the engine stores them. -/
theorem progressGiven_stored (uploadId : Int) (checkedAt : Instant) (percent : Option Float)
    (done total : Option Int) {t : Table} (hs : t.strict = false) :
    (progressTable.columns.zip ((progressTable.columns.zip
        (progressGiven uploadId checkedAt percent done total)).map fun x => x.2.getD .null)).map
      (fun x => Cell.store (t.columnAffinity x.1) x.2) =
      .null :: (progressRow 0 uploadId checkedAt percent done total).cells.tail := by
  simp only [progressTable, progressGiven, List.zip_cons_cons, List.zip_nil_right, List.map_cons,
    List.map_nil, Option.getD_some, Option.getD_none, Table.columnAffinity_loose hs, Column.affinity,
    Affinity.ofDeclared_text, Affinity.ofDeclared_integer, Affinity.ofDeclared_real,
    Cell.store_null, Cell.store_text, instantCell, percentCell_store, store_optionCell_integer,
    progressRow, ProgressRow.cells, List.tail_cons]
  rfl

/-- Every column of `upload_progress` declared `NOT NULL` holds a value in a typed row. -/
theorem ProgressRow.required_filled (q : ProgressRow) :
    ∀ x ∈ progressTable.columns.zip q.cells, x.1.notNull = true → x.2 ≠ .null := by
  intro x hx
  simp only [progressTable, ProgressRow.cells, List.zip_cons_cons, List.zip_nil_right,
    List.mem_cons, List.not_mem_nil, or_false] at hx
  rcases hx with rfl | rfl | rfl | rfl | rfl | rfl <;> simp

/-- The engine's insert of a reading into a typed state: it only fails when ids are exhausted,
and otherwise appends the row and records its id. -/
theorem insertRow_progress {s : UploadTables} {ctx : WriteCtx} (hcount : ctx.counts = true)
    {ins : Insert} (hret : ins.returning = []) {e : Effects}
    (he : e.db = s.db) (uploadId : Int) (checkedAt : Instant) (percent : Option Float)
    (done total : Option Int) (fuel : Nat) :
    (insertRow (fuel + 6) ctx s.progressT .abort ins
        (progressGiven uploadId checkedAt percent done total) none).run e =
      if maxInteger < s.nextId s.progressT then
        (.error (.failed (engineError 13 "database or disk is full") .abort), e)
      else
        (.ok [],
          { e with
            db := (s.addProgress (progressRow (s.nextId s.progressT) uploadId checkedAt percent done
              total)).db.setSequence "upload_progress" (s.nextId s.progressT)
            lastRowid := s.nextId s.progressT
            counted := e.counted + 1 }) := by
  have htab : e.db.table? s.progressT.name = some s.progressT := by rw [he]; simp
  -- the values given, stored under the columns' affinities; the id is left out
  simp only [insertRow, Write.run_bind, Write.run_currentTable htab,
    UploadTables.progressT_columns]
  rw [mapM_eq_pure _ (fun x => x.2.getD .null) _ ?raw]
  case raw =>
    intro x hx
    simp only [progressTable, progressGiven, List.zip_cons_cons, List.zip_nil_right,
      List.mem_cons, List.not_mem_nil, or_false] at hx
    rcases hx with rfl | rfl | rfl | rfl | rfl | rfl <;> rfl
  simp only [Write.run_pure, progressGiven_stored uploadId checkedAt percent done total
      (UploadTables.progressT_strict s), progress_keyIndex, List.getD_cons_zero, setCell,
    List.set_cons_zero, ← progressRow_cells]
  -- no trigger fires, and the engine picks the id
  simp only [Write.run_bind, Write.run_pure, Write.run_get, he, UploadTables.firing_nil,
    Write.run_catchIgnored_none, Bool.false_eq_true, if_false, Write.run_currentTable htab,
    UploadTables.progressT_withoutRowid,
    Write.run_newRowid (UploadTables.progressT_autoincrement s), s.exhausted_iff, s.fold_nextId]
  by_cases htop : maxInteger < s.nextId s.progressT
  · rw [if_pos htop, if_pos htop]
  simp only [if_neg htop]
  -- the `NOT NULL` pass keeps every value
  rw [mapM_eq_pure _ (fun x => some x.2) _ ?notNull]
  case notNull =>
    intro x hx
    split
    next hnull =>
      have hreq := notNull_unrequired (ProgressRow.required_filled _) (by simpa using hx) hnull
      simp only [Bool.false_and, Bool.or_false, hreq, Bool.false_eq_true, if_false]
    next => rfl
  generalize hq : progressRow (s.nextId s.progressT) uploadId checkedAt percent done total = q
  have hqid : q.id = s.nextId s.progressT := by rw [← hq]; rfl
  have hlen : q.cells.length ≤ progressTable.columns.length := by rw [← hq]; exact Nat.le_refl _
  have hidClash : (s.progress.map ProgressRow.row).filter (·.rowid == s.nextId s.progressT) = [] :=
    s.filter_rowid_nextId s.progressT
  have hseq : s.nextId s.progressT > ((s.addProgress q).db.sequenceOf "upload_progress").getD 0 := by
    rw [UploadTables.addProgress, UploadTables.sequenceOf_progress]
    exact s.sequence_lt_nextId s.progressT
  have htab' : e.db.table? "upload_progress" = some s.progressT := by rw [he]; simp
  -- no constraint, no unique index and no clash of ids: the row is written after the others
  simp only [Write.run_pure, List.any_map, Function.comp_def, Option.isNone_some, List.map_map,
    Option.getD_some, UploadTables.progressT_columns, List.map_snd_zip hlen, List.any_eq_true,
    Bool.false_eq_true, and_false, exists_false, if_false, UploadTables.progressT_checks,
    List.findM?, Write.run_bind, Write.run_get, he, progress_uniqueIndexes, List.filterMapM,
    List.filterMapM.loop, List.reverse_nil, List.map_nil, List.append_nil,
    UploadTables.progressT_rows, hidClash, List.isEmpty_nil, if_true, List.nil_append,
    List.head?_nil]
  rw [show (⟨s.nextId s.progressT, q.cells⟩ : Row) = q.row by rw [ProgressRow.row, hqid]]
  simp only [Table.strictRefusal, UploadTables.progressT_strict, Bool.not_false, if_true,
    Write.run_bind, Write.run_currentTable htab', putTable, Write.run_modify, Write.run_get,
    hcount, UploadTables.progressT_name, UploadTables.progressT_withoutRowid, he,
    s.putTable_addProgress hqid, UploadTables.progressT_autoincrement, decide_eq_true_eq, hseq,
    Bool.true_and, UploadTables.firing_setSequence, Write.run_catchIgnored_none, hret,
    List.isEmpty_nil, Write.run_pure]

/-- The insert of a reading, run as a statement. -/
theorem runChange_progressInsert {s : UploadTables} {ctx : WriteCtx} (hconf : ctx.conflict = none)
    (hcount : ctx.counts = true) {e : Effects} (he : e.db = s.db) (uploadId : Int)
    (checkedAt : Instant) (percent : Option Float) (done total : Option Int) (fuel : Nat) :
    (runChange (fuel + 8) ctx (progressInsert uploadId checkedAt percent done total)).run e =
      if maxInteger < s.nextId s.progressT then
        (.error (.failed (engineError 13 "database or disk is full") .abort), e)
      else
        (.ok [],
          { e with
            db := (s.addProgress (progressRow (s.nextId s.progressT) uploadId checkedAt percent done
              total)).db.setSequence "upload_progress" (s.nextId s.progressT)
            lastRowid := s.nextId s.progressT
            counted := e.counted + 1 }) := by
  have htab : e.db.table? "upload_progress" = some s.progressT := by rw [he]; simp
  -- the values are literals, and the listed columns are placed by name
  simp only [runChange, runInsert, progressInsert, Write.run_bind, Write.run_get, htab, hconf,
    List.mapM_cons, List.mapM_nil, evalIn_lit, pure_bind, List.foldlM_cons, List.foldlM_nil,
    Option.orElse_none]
  simp +decide only [UploadTables.progressT_columns, progressTable, List.map_cons, List.map_nil,
    List.findIdx?_cons, List.findIdx?_nil, Option.getD_some, if_true, if_false, Option.map_some,
    Option.map_none, List.getD_cons_succ, List.getD_cons_zero, Nat.zero_add, Table.rowKey?,
    List.find?_cons, Bool.and_eq_true, false_and, Option.isNone_some, Option.getD_none]
  rw [show [none, some (Cell.integer uploadId), some (instantCell checkedAt),
      some (percentCell percent), some (optionCell Cell.integer done),
      some (optionCell Cell.integer total)] = progressGiven uploadId checkedAt percent done total
      from rfl,
    @insertRow_progress s { ctx with conflict := none } hcount _ rfl e he uploadId checkedAt
      percent done total fuel]
  by_cases htop : maxInteger < s.nextId s.progressT
  · simp only [htop, if_true]
  · simp only [htop, if_false]
    rfl

end SnapshotAgent.Store
