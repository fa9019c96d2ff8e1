import SnapshotAgent.Proofs.Store.Insert
/-!
# The store's statements in a session

A session runs a statement in two passes: it checks the statement against the schema, then runs
it, and keeps what it wrote only when every foreign key still holds. This file takes the three
statements the store writes with through both passes, over the database of an `UploadTables`.

## The check

Every name the statements use is a column of their table, and the store's database has no
trigger whose body could be checked, so the check always passes (`checkChange_uploadInsert`,
`checkChange_progressInsert`, `checkChange_patchUpdate`).

## The foreign key

The history refers to its upload by id. On a typed state the engine's test of that key reads as
`UploadTables.historyOwned`: every history row names an upload row (`foreignKeyBroken_db`). No
statement of the store takes an upload row away, so the key holds after each of them.

## The outcome

`Session.storeStep_write` says what a session keeps of a statement that changes rows. With the
equations of `Update` and `Insert` it gives the outcome of each statement as an equation over
the typed state: a refused statement answers the engine's error, and an accepted one answers the
session with the new state's database and the count of rows it changed.
-/

namespace SnapshotAgent.Store

open SnapshotAgent.Upload SnapshotAgent.Time

/-! ## Checking the statements -/

theorem UploadTables.targetShape_progress (s : UploadTables) :
    s.db.targetShape "upload_progress" none =
      .ok (progressTable.sourceShape "upload_progress", false) := by
  simp +decide only [Database.targetShape, UploadTables.table_progress,
    UploadTables.progressT_name, if_false]
  rfl

theorem UploadTables.targetShape_uploads (s : UploadTables) :
    s.db.targetShape "uploads" none = .ok (uploadsTable.sourceShape "uploads", false) := by
  simp +decide only [Database.targetShape, UploadTables.table_uploads, UploadTables.uploadsT_name,
    if_false]
  rfl

@[simp] theorem checkExprs_nil (fuel : Nat) (n : Names) : checkExprs (fuel + 1) n [] = .ok () := by
  simp [checkExprs]

@[simp] theorem checkExprs_lit (fuel : Nat) (n : Names) (c : Cell) (es : List Expr) :
    checkExprs (fuel + 2) n (.lit c :: es) = checkExprs (fuel + 1) n es := by
  simp [checkExprs, checkExpr]

@[simp] theorem checkReturning_nil (fuel : Nat) (n : Names) (shape : SourceShape) :
    checkReturning (fuel + 2) n shape [] = .ok () := by
  simp [checkReturning]

@[simp] theorem checkExpr_lit (fuel : Nat) (n : Names) (c : Cell) :
    checkExpr (fuel + 1) n (.lit c) = .ok () := by
  simp [checkExpr]

theorem checkExpr_col (fuel : Nat) (n : Names) (name : String) :
    checkExpr (fuel + 1) n (.col name) = n.column none name := by
  simp [checkExpr, Expr.col]

theorem checkExpr_binary (fuel : Nat) (n : Names) (op : BinOp) (a b : Expr) :
    checkExpr (fuel + 1) n (.binary op a b) = (do checkExpr fuel n a; checkExpr fuel n b) := by
  simp [checkExpr]

/-- A state's database fires no trigger, so no trigger body is checked. -/
theorem UploadTables.checkFired_db (s : UploadTables) {n : Names} (hn : n.db = s.db) (fuel : Nat)
    (running : List String) (table : String) (shape : SourceShape) (time : TriggerTime)
    (event : TriggerEvent) : checkFired (fuel + 1) n running table shape time event = .ok () := by
  simp [checkFired, hn]

/-- In a scope of one source, a name that source answers resolves. -/
theorem Names.column_single (db : Database) (shape : SourceShape) (ctes : List NamedQuery)
    (aggregates inTrigger : Bool) (aliases : List String) (schema : String) {name : String}
    (h : shape.answers name = true) :
    (Names.mk db [[shape]] ctes aggregates inTrigger aliases schema).column none name = .ok () := by
  simp [Names.column, Names.column.go, h]

theorem isKnownFunction_coalesce : isKnownFunction "COALESCE" = true := by decide

theorem acceptsArity_coalesce : acceptsArity "COALESCE" 2 = true := by decide

/-- `COALESCE(value, column)` is checked as its column. -/
theorem checkExpr_coalesce (fuel : Nat) (n : Names) (v : Cell) (name : String) :
    checkExpr (fuel + 4) n (.call "COALESCE" false [.lit v, .col name]) = n.column none name := by
  have hf : n.function "COALESCE" 2 = .ok () := by
    simp only [Names.function, isKnownFunction_coalesce, acceptsArity_coalesce,
      isAggregateCall_coalesce, Bool.not_true, Bool.false_and, Bool.false_eq_true, if_false]
  simp only [checkExpr, List.length_cons, List.length_nil, Nat.zero_add, Nat.reduceAdd, hf,
    isAggregateCall_coalesce, Bool.false_eq_true, if_false, except_ok_bind, checkExprs, Expr.col]
  cases n.column none name <;> rfl

/-- The insert of a reading passes the check. -/
theorem checkChange_progressInsert (s : UploadTables) (uploadId : Int) (checkedAt : Instant)
    (percent : Option Float) (done total : Option Int) :
    checkChange evalFuel { db := s.db, ctes := [] } []
      (progressInsert uploadId checkedAt percent done total) = .ok () := by
  simp only [evalFuel, checkChange, progressInsert, UploadTables.targetShape_progress,
    except_ok_bind, Bool.false_and, Bool.false_eq_true, if_false, List.any_cons, List.any_nil,
    List.head?_cons, Option.map_some, Option.getD_some, List.length_cons, List.length_nil,
    bne_self_eq_false, Bool.or_false, List.forIn_cons, List.forIn_nil, checkExprs_lit,
    checkExprs_nil, except_pure]
  simp +decide only [progressTable, Table.sourceShape, List.map_cons, List.map_nil, if_false,
    except_ok_bind]
  simp only [checkReturning_nil, except_ok_bind]
  exact UploadTables.checkFired_db s rfl 1998 _ _ _ _ _

/-- The insert of a new upload passes the check. -/
theorem checkChange_uploadInsert (s : UploadTables) (u : NewUpload) (data : String) :
    checkChange evalFuel { db := s.db, ctes := [] } [] (uploadInsert u data) = .ok () := by
  simp only [evalFuel, checkChange, uploadInsert, textValue, UploadTables.targetShape_uploads,
    except_ok_bind, Bool.false_and, Bool.false_eq_true, if_false, List.any_cons, List.any_nil,
    List.head?_cons, Option.map_some, Option.getD_some, List.length_cons, List.length_nil,
    bne_self_eq_false, Bool.or_false, List.forIn_cons, List.forIn_nil, checkExprs_lit,
    checkExprs_nil, except_pure]
  simp +decide only [uploadsTable, Table.sourceShape, List.map_cons, List.map_nil, if_false,
    except_ok_bind]
  -- the one returned column, `id`, is a column of the table
  simp +decide only [checkReturning, List.filterMap_cons, List.filterMap_nil, checkExprs,
    checkExpr_col, Names.column_single, except_ok_bind]
  exact UploadTables.checkFired_db s rfl 1998 _ _ _ _ _

/-- The statement applying a patch passes the check. -/
theorem checkChange_patchUpdate (s : UploadTables) (p : Patch) :
    checkChange evalFuel { db := s.db, ctes := [] } [] (.update (patchUpdate p)) = .ok () := by
  simp only [evalFuel, checkChange, patchUpdate, UploadTables.targetShape_uploads, except_ok_bind,
    Bool.false_and, Bool.false_eq_true, if_false, except_pure]
  -- each assignment and the filter name columns of the table only
  simp +decide only [patchAssignments, keepUnless, List.forIn_cons, List.forIn_nil,
    checkExpr_coalesce, Names.column_single, uploadsTable, Table.sourceShape, List.map_cons,
    List.map_nil, if_false, except_ok_bind, except_pure, patchFilter, andExpr, eqExpr, isRunningRow,
    textLit, intLit, checkExpr_binary, checkExpr_col, checkExpr_lit, checkReturning_nil]
  exact UploadTables.checkFired_db s rfl 1998 _ _ _ _ _

/-! ## The history's foreign key -/

namespace UploadTables

variable (s : UploadTables)

/-- Whether every history row of a state belongs to an upload row. -/
def historyOwned : Bool :=
  s.progress.all fun q => s.uploads.any (·.id == q.uploadId)

/-- Setting a row keeps the ids of the upload rows. -/
theorem setUpload_ids (v : UploadRow) :
    (s.setUpload v).uploads.map UploadRow.id = s.uploads.map UploadRow.id := by
  simp only [setUpload, List.map_map]
  refine List.map_congr_left fun o _ => ?_
  by_cases h : o.id = v.id <;> simp [h]

theorem historyOwned_setUpload (v : UploadRow) : (s.setUpload v).historyOwned = s.historyOwned := by
  have hids := s.setUpload_ids v
  have hany : ∀ n, (s.setUpload v).uploads.any (·.id == n) = s.uploads.any (·.id == n) := by
    intro n
    have h := congrArg (fun l => l.any (· == n)) hids
    simpa only [List.any_map, Function.comp_def] using h
  simp only [historyOwned, hany]
  rfl

theorem historyOwned_addUpload {s : UploadTables} (h : s.historyOwned = true) (v : UploadRow) :
    (s.addUpload v).historyOwned = true := by
  simp only [historyOwned, List.all_eq_true, addUpload, List.any_append, Bool.or_eq_true] at h ⊢
  exact fun q hq => .inl (h q hq)

theorem historyOwned_addProgress {s : UploadTables} (h : s.historyOwned = true) {q : ProgressRow}
    {o : UploadRow} (ho : o ∈ s.uploads) (hq : o.id = q.uploadId) :
    (s.addProgress q).historyOwned = true := by
  simp only [historyOwned, List.all_eq_true, addProgress, List.mem_append, List.mem_singleton]
    at h ⊢
  rintro x (hx | rfl)
  · exact h x hx
  · exact List.any_eq_true.2 ⟨o, ho, by simp [hq]⟩

end UploadTables

theorem progress_foreignKeys : progressTable.foreignKeys =
    [{ columns := ["upload_id"], parent := "uploads", parentColumns := ["id"], onDelete := .cascade }] :=
  rfl

theorem progress_cell_uploadId (s : UploadTables) (q : ProgressRow) :
    s.progressT.cell q.row "upload_id" = .integer q.uploadId := by
  have hi : s.progressT.columnIndex? "upload_id" = some 1 := by
    simp only [Table.columnIndex?, UploadTables.progressT_columns]
    decide
  have hk : (s.progressT.columns.getD 1 default).rowKey = false := by
    simp only [UploadTables.progressT_columns]
    decide
  simp only [Table.cell, hi, hk, Bool.false_eq_true, if_false]
  rfl

theorem uploads_cell_id (s : UploadTables) (r : Row) : s.uploadsT.cell r "id" = .integer r.rowid := by
  have hi : s.uploadsT.columnIndex? "id" = some 0 := by
    simp only [Table.columnIndex?, UploadTables.uploadsT_columns]
    decide
  have hk : (s.uploadsT.columns.getD 0 default).rowKey = true := by
    simp only [UploadTables.uploadsT_columns]
    decide
  simp only [Table.cell, hi, hk, if_true]

/-- A history row refers to the upload row of its upload id. -/
theorem refersTo_upload (s : UploadTables) (q : ProgressRow) (u : UploadRow) :
    ForeignKey.refersTo
      { columns := ["upload_id"], parent := "uploads", parentColumns := ["id"], onDelete := .cascade }
      s.progressT q.row s.uploadsT u.row = (q.uploadId == u.id) := by
  simp [ForeignKey.refersTo, ForeignKey.parentKey, progress_cell_uploadId, uploads_cell_id,
    Cell.compare, Cell.compareWith]

/-- The engine's check of the history's foreign key, on a typed state: it fails exactly when a
history row names no upload. -/
theorem UploadTables.foreignKeyBroken_db (s : UploadTables) :
    s.db.foreignKeyBroken = !s.historyOwned := by
  simp only [Database.foreignKeyBroken, UploadTables.db_tables, UploadTables.uploadsT_foreignKeys,
    UploadTables.sequenceT_foreignKeys, UploadTables.progressT_foreignKeys, List.any_cons,
    List.any_nil, Bool.false_or, UploadTables.progressT_rows, List.any_map, progress_foreignKeys,
    Bool.or_false, Function.comp_def, progress_cell_uploadId, Cell.isNull_integer,
    Bool.false_eq_true, if_false, UploadTables.table_uploads, UploadTables.uploadsT_rows,
    refersTo_upload]
  simp [UploadTables.historyOwned, List.all_eq_not_any_not, Bool.beq_comm]

/-! ## Recorded ids -/

namespace UploadTables

variable (s : UploadTables)

/-- The state after the engine records `v` as the highest id table `name` gave out. -/
def recordId (name : String) (v : Int) : UploadTables :=
  { s with sequence := ((s.db.setSequence name v).table? sequenceTableName).elim [] Table.rows }

theorem db_recordId (name : String) (v : Int) : (s.recordId name v).db = s.db.setSequence name v := by
  obtain ⟨seq, h⟩ := s.setSequence_eq name v
  rw [recordId, h, table_sequence]
  rfl

-- unfolded first: a bare `rfl` compares the whole state with `s` before the field, and so
-- evaluates the recorded sequence table
@[simp] theorem recordId_uploads (name : String) (v : Int) :
    (s.recordId name v).uploads = s.uploads := by
  unfold recordId; rfl

@[simp] theorem recordId_progress (name : String) (v : Int) :
    (s.recordId name v).progress = s.progress := by
  unfold recordId; rfl

theorem historyOwned_recordId (name : String) (v : Int) :
    (s.recordId name v).historyOwned = s.historyOwned := by
  unfold historyOwned
  rw [recordId_uploads, recordId_progress]

end UploadTables

/-! ## One statement in a session -/

/-- The session keeping what a statement wrote, with the rows it changed counted. -/
def Session.keep (σ : Session) (e : Effects) : Session :=
  { σ with effects := { e with changes := e.counted, totalChanges := e.totalChanges + e.counted } }

/-- The session after a statement that left database `db` and last row id `last`, having
changed `k` rows. -/
def Session.wrote (σ : Session) (db : Database) (last : Int) (k : Nat) : Session :=
  { σ with
    effects := { db, lastRowid := last, changes := k, totalChanges := σ.effects.totalChanges + k,
                 counted := k } }

@[simp] theorem Session.wrote_db (σ : Session) (db : Database) (last : Int) (k : Nat) :
    (σ.wrote db last k).db = db := rfl

@[simp] theorem Session.wrote_changes (σ : Session) (db : Database) (last : Int) (k : Nat) :
    (σ.wrote db last k).effects.changes = k := rfl

/-- A statement that changes rows, run by the store: when the check passes, the session keeps
what the run wrote, unless the run stopped or left a history row without its upload. -/
theorem Session.storeStep_write (σ : Session) {c : Change} (hsel : ∀ q, c ≠ .select q)
    (hcheck : checkChange evalFuel { db := σ.db, ctes := [] } [] c = .ok ()) :
    σ.storeStep c =
      match (runChange evalFuel {} c).run { σ.effects with counted := 0 } with
      | (.ok rows, e) =>
        if e.db.foreignKeyBroken then .error (engineError 787 "FOREIGN KEY constraint failed")
        else .ok (σ.keep e, rows)
      | (.error (.failed err _), _) => .error err
      | (.error .ignored, _) => .error (engineError genericCode "RAISE(IGNORE)") := by
  simp only [Session.storeStep, Session.perform, List.map_nil, List.reverse_nil, List.forIn_nil,
    hcheck, except_pure, except_ok_bind, Bool.true_and]
  generalize (runChange evalFuel {} c).run { σ.effects with counted := 0 } = res
  obtain ⟨r, e⟩ := res
  -- whatever the conflict mode of a stop, the store answers its error
  rcases r with (⟨err, mode⟩ | _) | rows
  · cases mode <;> rfl
  · rfl
  · by_cases hfk : e.db.foreignKeyBroken = true <;> simp [hfk, Session.keep]

section Statements

variable {σ : Session} {s : UploadTables}

/-- The statement applying a patch, in a session over a sound enough state: it changes the
running row with the patch's id when the merged row keeps the constraints, refuses the patch
when it does not, and changes nothing when no such row runs. -/
theorem Session.storeStep_patch (hσ : σ.db = s.db) (hs : s.uploads.Pairwise (·.id < ·.id))
    (hone : ∀ o ∈ s.uploads, ∀ o' ∈ s.uploads, o.status = .running → o'.status = .running →
      o.nodeName = o'.nodeName → o = o')
    (hown : s.historyOwned = true) (p : Patch) :
    σ.storeStep (.update (patchUpdate p)) =
      match s.uploads.find? (fun o => o.id == p.id && o.status == .running) with
      | none => .ok (σ.wrote σ.db σ.effects.lastRowid 0, [])
      | some u =>
        match (u.patch p).brokenCheck with
        | some k => .error (engineError 275 ("CHECK constraint failed: " ++ k.text))
        | none => .ok (σ.wrote (s.setUpload (u.patch p)).db σ.effects.lastRowid 1, [[]]) := by
  have hcheck := checkChange_patchUpdate s p
  rw [← hσ] at hcheck
  rw [Session.storeStep_write σ (fun _ h => Change.noConfusion h) hcheck,
    show evalFuel = 1992 + 8 from rfl, runChange, @runUpdate_patch s hs hone p {} rfl rfl rfl
      { σ.effects with counted := 0 } hσ 1992]
  have hσ' : σ.effects.db = s.db := hσ
  cases s.uploads.find? (fun o => o.id == p.id && o.status == .running) with
  | none =>
    simp only [hσ', UploadTables.foreignKeyBroken_db, hown, Bool.not_true, Bool.false_eq_true,
      if_false]
    rw [hσ]
    rfl
  | some u =>
    dsimp only
    cases (u.patch p).brokenCheck with
    | some k => rfl
    | none =>
      simp only [UploadTables.foreignKeyBroken_db, UploadTables.historyOwned_setUpload, hown,
        Bool.not_true, Bool.false_eq_true, if_false]
      rfl

/-- The insert of a new upload, in a session over a state whose history is owned: it fails when
ids are exhausted, on a broken constraint, or on a running row of the node, and otherwise keeps
the new row and answers its id. -/
theorem Session.storeStep_uploadInsert (hσ : σ.db = s.db) (hown : s.historyOwned = true)
    (u : NewUpload) (data : String) :
    σ.storeStep (uploadInsert u data) =
      if maxInteger < s.nextId s.uploadsT then .error (engineError 13 "database or disk is full")
      else match (u.toRow data (s.nextId s.uploadsT)).brokenCheck with
      | some k => .error (engineError 275 ("CHECK constraint failed: " ++ k.text))
      | none =>
        if s.uploads.any (fun o => o.nodeName == u.nodeName && o.status == .running) then
          .error (engineError 2067 "UNIQUE constraint failed: uploads.node_name")
        else
          .ok (σ.wrote ((s.addUpload (u.toRow data (s.nextId s.uploadsT))).recordId "uploads"
            (s.nextId s.uploadsT)).db (s.nextId s.uploadsT) 1, [[.integer (s.nextId s.uploadsT)]]) := by
  have hcheck := checkChange_uploadInsert s u data
  rw [← hσ] at hcheck
  rw [Session.storeStep_write σ (fun _ h => Change.noConfusion h) hcheck,
    show evalFuel = 1992 + 8 from rfl,
    @runChange_uploadInsert u data s {} rfl rfl rfl { σ.effects with counted := 0 } hσ 1992]
  by_cases htop : maxInteger < s.nextId s.uploadsT
  · simp only [htop, if_true]
  · simp only [htop, if_false]
    cases (u.toRow data (s.nextId s.uploadsT)).brokenCheck with
    | some k => rfl
    | none =>
      cases s.uploads.any (fun o => o.nodeName == u.nodeName && o.status == .running)
      · simp only [← UploadTables.db_recordId, UploadTables.foreignKeyBroken_db,
          UploadTables.historyOwned_recordId, UploadTables.historyOwned_addUpload hown,
          Bool.not_true, Bool.false_eq_true, if_false]
        rfl
      · rfl

/-- The insert of a reading for an upload of the state, in a session: it only fails when ids
are exhausted, and otherwise keeps the new history row. -/
theorem Session.storeStep_progressInsert (hσ : σ.db = s.db) (hown : s.historyOwned = true)
    {o : UploadRow} (ho : o ∈ s.uploads) {uploadId : Int} (hid : o.id = uploadId)
    (checkedAt : Instant) (percent : Option Float) (done total : Option Int) :
    σ.storeStep (progressInsert uploadId checkedAt percent done total) =
      if maxInteger < s.nextId s.progressT then .error (engineError 13 "database or disk is full")
      else
        .ok (σ.wrote ((s.addProgress (progressRow (s.nextId s.progressT) uploadId checkedAt percent
          done total)).recordId "upload_progress" (s.nextId s.progressT)).db (s.nextId s.progressT)
          1, []) := by
  have hcheck := checkChange_progressInsert s uploadId checkedAt percent done total
  rw [← hσ] at hcheck
  rw [Session.storeStep_write σ (fun _ h => Change.noConfusion h) hcheck,
    show evalFuel = 1992 + 8 from rfl,
    @runChange_progressInsert s {} rfl rfl { σ.effects with counted := 0 } hσ uploadId checkedAt
      percent done total 1992]
  by_cases htop : maxInteger < s.nextId s.progressT
  · simp only [htop, if_true]
  · simp only [htop, if_false, ← UploadTables.db_recordId, UploadTables.foreignKeyBroken_db,
      UploadTables.historyOwned_recordId, @UploadTables.historyOwned_addProgress s hown
        (progressRow (s.nextId s.progressT) uploadId checkedAt percent done total) o ho hid,
      Bool.not_true, Bool.false_eq_true]
    rfl

/-- Appending a reading in a session, as the store does it. -/
theorem Session.appendProgress_eq (hσ : σ.db = s.db) (hown : s.historyOwned = true)
    {o : UploadRow} (ho : o ∈ s.uploads) {uploadId : Int} (hid : o.id = uploadId)
    (checkedAt : Instant) (percent : Option Float) (done total : Option Int) :
    σ.appendProgress uploadId checkedAt percent done total =
      if maxInteger < s.nextId s.progressT then .error (engineError 13 "database or disk is full")
      else
        .ok (σ.wrote ((s.addProgress (progressRow (s.nextId s.progressT) uploadId checkedAt percent
          done total)).recordId "upload_progress" (s.nextId s.progressT)).db (s.nextId s.progressT)
          1) := by
  rw [Session.appendProgress, Session.storeStep_progressInsert hσ hown ho hid]
  by_cases htop : maxInteger < s.nextId s.progressT
  · simp only [htop, if_true]
    rfl
  · simp only [htop, if_false]
    rfl

end Statements

end SnapshotAgent.Store
