import SnapshotAgent.Proofs.Store.Evaluation
/-!
# Applying a patch to the `uploads` table

The store applies a patch with one `UPDATE` statement: every column the patch can name is set to
`COALESCE(value, column)`, so a value the patch carries replaces the stored one and an absent
value keeps it, and the statement only touches the row with the patch's id while that row is
running. `UploadRow.patch` is that merge on typed rows.

This file runs the statement over the database of an `UploadTables`, one phase of the engine's
update at a time: the assignments (`assignRow_patch`), the `NOT NULL` pass, the `CHECK`
constraints, the partial unique index on running rows, and the write that puts the merged row in
the place of the old one. `updateRow_patch` puts the phases together: the merged row is written
when it satisfies the constraints, and otherwise the statement fails with nothing written.
-/

namespace SnapshotAgent.Store

open SnapshotAgent.Upload SnapshotAgent.Time

/-! ## The statement and the merge -/

/-- The assignments of the statement applying a patch, one per column a patch can set. -/
def patchAssignments (p : Patch) : List (List String × Expr) := [
  keepUnless "status" (optionCell (fun s => .text s.name) p.status),
  keepUnless "completed_at" (optionCell instantCell p.completedAt),
  keepUnless "progress_percent" (percentCell p.progressPercent),
  keepUnless "chunks_completed" (optionCell .integer p.chunksCompleted),
  keepUnless "chunks_total" (optionCell .integer p.chunksTotal),
  keepUnless "last_progress_check" (optionCell instantCell p.lastProgressCheck),
  keepUnless "total_chunks" (optionCell .integer p.totalChunks),
  keepUnless "completion_message" (optionCell .text p.completionMessage),
  keepUnless "error_message" (optionCell .text p.errorMessage)]

/-- The filter of the statement: the patch's row, while it is running. -/
def patchFilter (p : Patch) : Expr := andExpr (eqExpr (.col "id") (intLit p.id)) isRunningRow

/-- The statement applying a patch. -/
def patchUpdate (p : Patch) : Update :=
  { table := "uploads", assignments := patchAssignments p, filter := some (patchFilter p) }

/-- A row with a patch merged into it, column by column: what the patch carries replaces the
stored value, and what it leaves out is kept. A `NaN` percentage counts as left out. -/
def UploadRow.patch (u : UploadRow) (p : Patch) : UploadRow :=
  { u with
    status := p.status.getD u.status
    completedAt := (p.completedAt.map Instant.rfc3339Offset).or u.completedAt
    progressPercent := (storablePercent p.progressPercent).or u.progressPercent
    chunksCompleted := p.chunksCompleted.or u.chunksCompleted
    chunksTotal := p.chunksTotal.or u.chunksTotal
    lastProgressCheck := (p.lastProgressCheck.map Instant.rfc3339Offset).or u.lastProgressCheck
    totalChunks := p.totalChunks.or u.totalChunks
    completionMessage := p.completionMessage.or u.completionMessage
    errorMessage := p.errorMessage.or u.errorMessage }

/-- The columns the statement sets, by name. -/
theorem patchAssignments_columns (p : Patch) :
    (patchAssignments p).flatMap (·.1) =
      ["status", "completed_at", "progress_percent", "chunks_completed", "chunks_total",
       "last_progress_check", "total_chunks", "completion_message", "error_message"] := rfl

/-! ## Storing a merged value

`COALESCE(value, column)` gives the patch's value unless it is `NULL`, and the engine then stores
the result under the column's affinity. For every kind of value the store writes, storing it
again changes nothing, so the stored result is the merged value. -/

section Merge

variable {α : Type}

theorem store_coalesce (f : α → Cell) (a : Affinity) (hf : ∀ x, (f x).isNull = false)
    (hs : ∀ x, (f x).store a = f x) (o w : Option α) :
    (if (optionCell f o).isNull then optionCell f w else optionCell f o).store a =
      optionCell f (o.or w) := by
  cases o <;> cases w <;> simp [optionCell, hf, hs]

@[simp] theorem store_coalesce_text (o w : Option String) :
    (if (optionCell .text o).isNull then optionCell .text w else optionCell .text o).store .text =
      optionCell .text (o.or w) :=
  store_coalesce _ _ (fun _ => rfl) (fun _ => rfl) o w

@[simp] theorem store_coalesce_integer (o w : Option Int) :
    (if (optionCell .integer o).isNull then optionCell .integer w else optionCell .integer o).store
      .integer = optionCell .integer (o.or w) :=
  store_coalesce _ _ (fun _ => rfl) (fun _ => rfl) o w

@[simp] theorem store_coalesce_status (o : Option Status) (w : Status) :
    (if (optionCell (fun s => Cell.text s.name) o).isNull then Cell.text w.name
      else optionCell (fun s => Cell.text s.name) o).store .text = .text (o.getD w).name := by
  cases o <;> rfl

@[simp] theorem store_coalesce_percent (o w : Option Float) :
    (if (percentCell o).isNull then optionCell storedReal w else percentCell o).store .real =
      optionCell storedReal ((storablePercent o).or w) := by
  cases o with
  | none => cases w <;> simp [percentCell, storablePercent, optionCell, storedReal_store]
  | some x =>
    -- a NaN binds as `NULL`, so the column keeps its own value
    by_cases h : x.isNaN
    · simp only [percentCell, storablePercent, h, if_true, Cell.isNull_null, Option.none_or]
      cases w <;> simp [optionCell, storedReal_store]
    · simp only [percentCell, storablePercent, h, Bool.false_eq_true, if_false, Cell.isNull_real,
        Option.some_or, Cell.store_real_real, optionCell]

theorem optionCell_instant (o : Option Instant) :
    optionCell instantCell o = optionCell .text (o.map Instant.rfc3339Offset) := by
  cases o <;> rfl

end Merge

/-! ## The assignments -/

/-- Where the assigned columns stand in `uploads`. -/
theorem assigned_columnIndex :
    uploadsTable.columnIndex? "status" = some 6 ∧
    uploadsTable.columnIndex? "completed_at" = some 5 ∧
    uploadsTable.columnIndex? "progress_percent" = some 9 ∧
    uploadsTable.columnIndex? "chunks_completed" = some 10 ∧
    uploadsTable.columnIndex? "chunks_total" = some 11 ∧
    uploadsTable.columnIndex? "last_progress_check" = some 12 ∧
    uploadsTable.columnIndex? "total_chunks" = some 13 ∧
    uploadsTable.columnIndex? "completion_message" = some 14 ∧
    uploadsTable.columnIndex? "error_message" = some 15 := by decide

/-- None of the assigned columns is the row id. -/
theorem assigned_rowKey :
    (uploadsTable.columns.getD 6 default).rowKey = false ∧
    (uploadsTable.columns.getD 5 default).rowKey = false ∧
    (uploadsTable.columns.getD 9 default).rowKey = false ∧
    (uploadsTable.columns.getD 10 default).rowKey = false ∧
    (uploadsTable.columns.getD 11 default).rowKey = false ∧
    (uploadsTable.columns.getD 12 default).rowKey = false ∧
    (uploadsTable.columns.getD 13 default).rowKey = false ∧
    (uploadsTable.columns.getD 14 default).rowKey = false ∧
    (uploadsTable.columns.getD 15 default).rowKey = false := by decide

/-- The affinities the assigned columns store their values under. -/
theorem assigned_affinity :
    (uploadsTable.columns.getD 6 default).affinity = .text ∧
    (uploadsTable.columns.getD 5 default).affinity = .text ∧
    (uploadsTable.columns.getD 9 default).affinity = .real ∧
    (uploadsTable.columns.getD 10 default).affinity = .integer ∧
    (uploadsTable.columns.getD 11 default).affinity = .integer ∧
    (uploadsTable.columns.getD 12 default).affinity = .text ∧
    (uploadsTable.columns.getD 13 default).affinity = .integer ∧
    (uploadsTable.columns.getD 14 default).affinity = .text ∧
    (uploadsTable.columns.getD 15 default).affinity = .text := by decide

theorem Table.columnAffinity_loose {t : Table} (hs : t.strict = false) (c : Column) :
    t.columnAffinity c = c.affinity := by
  simp [Table.columnAffinity, hs]

section Assign

variable {fuel : Nat} {ctx : WriteCtx} {t : Table}

/-- `COALESCE(value, column)` over a typed row, as a step of writing. -/
theorem evalIn_coalesce (hctx : ctx.outer = []) (ht : t.columns = uploadsTable.columns)
    (u : UploadRow) {name : String} {i : Nat} (hi : uploadsTable.columnIndex? name = some i)
    (v : Cell) :
    evalIn (fuel + 5) ctx [[t.bind none u.row]] (.call "COALESCE" false [.lit v, .col name]) =
      pure (if v.isNull then u.cells.getD i .null else v) :=
  evalIn_eq_pure hctx fun _ h => evalExpr_coalesce (h.find_uploads ht hi) h.group v

/-- The assignments of a patch over a typed row give the values of the merged row and keep the
row id. -/
theorem assignRow_patch (hctx : ctx.outer = []) (ht : t.columns = uploadsTable.columns)
    (hs : t.strict = false) (u : UploadRow) (p : Patch) :
    assignRow (fuel + 5) ctx t [t.bind none u.row] (patchAssignments p) u.cells u.id =
      pure ((u.patch p).cells, u.id) := by
  obtain ⟨h1, h2, h3, h4, h5, h6, h7, h8, h9⟩ := assigned_columnIndex
  obtain ⟨k1, k2, k3, k4, k5, k6, k7, k8, k9⟩ := assigned_rowKey
  obtain ⟨a1, a2, a3, a4, a5, a6, a7, a8, a9⟩ := assigned_affinity
  have hi : t.columnIndex? = uploadsTable.columnIndex? := by
    funext name
    simp [Table.columnIndex?, ht]
  -- the loop runs each assignment once: evaluate it, then set its one column
  simp only [assignRow, patchAssignments, keepUnless, List.forIn_cons, List.forIn_nil,
    evalIn_coalesce hctx ht u h1, evalIn_coalesce hctx ht u h2, evalIn_coalesce hctx ht u h3,
    evalIn_coalesce hctx ht u h4, evalIn_coalesce hctx ht u h5, evalIn_coalesce hctx ht u h6,
    evalIn_coalesce hctx ht u h7, evalIn_coalesce hctx ht u h8, evalIn_coalesce hctx ht u h9,
    pure_bind, hi, ht, h1, h2, h3, h4, h5, h6, h7, h8, h9, k1, k2, k3, k4, k5, k6, k7, k8, k9,
    Table.columnAffinity_loose hs, a1, a2, a3, a4, a5, a6, a7, a8, a9, Bool.false_eq_true,
    if_false]
  -- what is left is the merged row, value by value
  simp only [UploadRow.cells, UploadRow.patch, setCell, List.getD_cons_succ, List.getD_cons_zero,
    List.set_cons_succ, List.set_cons_zero, optionCell_instant, store_coalesce_status,
    store_coalesce_percent, store_coalesce_text, store_coalesce_integer]

end Assign

/-! ## The constraints the statement meets

The engine checks only what the statement can change: `NOT NULL` on the columns it sets, the
`CHECK` constraints that read one of them, and the unique indexes whose columns or filter read
one of them. Over `uploads` that is the status alone, every constraint but the trigger's, and the
index allowing one running row per node. -/

/-- Of the columns the statement sets, only the status is declared `NOT NULL`. -/
theorem notNull_assigned :
    ∀ x ∈ uploadsTable.columns.zip (List.range uploadsTable.columns.length),
      ((x.1.notNull && !x.1.rowKey) &&
        ["status", "completed_at", "progress_percent", "chunks_completed", "chunks_total",
         "last_progress_check", "total_chunks", "completion_message", "error_message"].any
          fun n => sameName n x.1.name) = true → x.2 = 6 := by decide

/-- Every constraint but the one on the trigger reads a column the statement sets. -/
theorem relevant_checks :
    uploadsTable.checks.filter (fun k => k.expr.columns.any fun name =>
      ["status", "completed_at", "progress_percent", "chunks_completed", "chunks_total",
       "last_progress_check", "total_chunks", "completion_message", "error_message"].any
        fun x => sameName x name) = uploadsTable.checks.eraseIdx 1 := by
  simp +decide only [uploadsTable, List.filter_cons, List.filter_nil, List.eraseIdx_cons_succ,
    List.eraseIdx_cons_zero, if_true, if_false]

/-- Of the unique indexes, the statement answers to the one on running rows: its filter reads
the status. -/
theorem watched_indexes (s : UploadTables) :
    (s.db.uniqueIndexes s.uploadsT).filter (fun ix =>
      (ix.columns.any fun name =>
        ["status", "completed_at", "progress_percent", "chunks_completed", "chunks_total",
         "last_progress_check", "total_chunks", "completion_message", "error_message"].any
          fun x => sameName x name) ||
      ((Option.map Expr.columns ix.filter).getD []).any fun name =>
        ["status", "completed_at", "progress_percent", "chunks_completed", "chunks_total",
         "last_progress_check", "total_chunks", "completion_message", "error_message"].any
          fun x => sameName x name) = uploadIndexes.take 1 := by
  simp +decide only [Database.uniqueIndexes, UploadTables.db_indexes, uploadIndexes, progressIndex,
    List.cons_append, List.nil_append, List.filter_cons, List.filter_nil, List.reverse_cons,
    List.reverse_nil, List.take, UploadTables.uploadsT_name, if_true, if_false]

@[simp] theorem ofBool_confirmed (b : Bool) : ((ofBool b).truth? == some true) = b := by
  cases b <;> rfl

/-- The filter of the index on running rows, over a typed row, as a step of writing. -/
theorem evalIn_isRunningRow {fuel : Nat} {ctx : WriteCtx} (hctx : ctx.outer = []) {t : Table}
    (ht : t.columns = uploadsTable.columns) (u : UploadRow) :
    evalIn (fuel + 2) ctx [[t.bind none u.row]] isRunningRow =
      pure (ofBool (u.status == .running)) :=
  evalIn_eq_pure hctx fun _ h => evalExpr_isRunningRow h ht

theorem cell_nodeName {t : Table} (ht : t.columns = uploadsTable.columns) (u : UploadRow) :
    t.cell u.row "node_name" = .text u.nodeName := by
  have hi : t.columnIndex? "node_name" = some 1 := by
    simpa [Table.columnIndex?, ht] using uploads_columnIndex.2.1
  simp [Table.cell, hi, ht, UploadRow.cells]
  decide

theorem nodeName_collation {t : Table} (ht : t.columns = uploadsTable.columns) :
    ((t.column? "node_name").bind fun c => c.collation).getD .binary = .binary := by
  simp only [Table.column?, ht]
  decide

/-- Two node names collide in the index exactly when they are equal. -/
theorem keysCollide_text (a b : String) :
    keysCollide [.binary] [.text a] [.text b] = (a == b) := by
  simp [keysCollide, Cell.compareWith, Collation.key]

@[simp] theorem UploadRow.patch_id (u : UploadRow) (p : Patch) : (u.patch p).id = u.id := rfl

@[simp] theorem UploadRow.patch_nodeName (u : UploadRow) (p : Patch) :
    (u.patch p).nodeName = u.nodeName := rfl

/-! ## One row updated -/

/-- The state with the upload row of `v`'s id replaced by `v`. -/
def UploadTables.setUpload (s : UploadTables) (v : UploadRow) : UploadTables :=
  { s with uploads := s.uploads.map fun o => if o.id = v.id then v else o }

/-- Rows with sorted ids are told apart by their ids. -/
theorem eq_of_id_eq {us : List UploadRow} (hs : us.Pairwise (·.id < ·.id)) {x y : UploadRow}
    (hx : x ∈ us) (hy : y ∈ us) (h : x.id = y.id) : x = y := by
  induction us with
  | nil => exact absurd hx List.not_mem_nil
  | cons a l ih =>
    obtain ⟨hlt, hl⟩ := List.pairwise_cons.1 hs
    rcases List.mem_cons.1 hx with hxa | hx' <;> rcases List.mem_cons.1 hy with hya | hy'
    · rw [hxa, hya]
    · subst hxa
      have := hlt y hy'
      omega
    · subst hya
      have := hlt x hx'
      omega
    · exact ih hl hx' hy'

/-- In a table whose ids are sorted, a member is the row found by its id. -/
theorem UploadTables.find_row {s : UploadTables} (hs : s.uploads.Pairwise (·.id < ·.id))
    {u : UploadRow} (hu : u ∈ s.uploads) :
    s.uploadsT.rows.find? (fun x => x.rowid == u.id) = some u.row := by
  have hcomp : ((fun x : Row => x.rowid == u.id) ∘ UploadRow.row) = fun o => o.id == u.id := rfl
  rw [UploadTables.uploadsT_rows, List.find?_map, hcomp]
  cases hfind : s.uploads.find? (fun o => o.id == u.id) with
  | none => simpa using List.find?_eq_none.1 hfind u hu
  | some x =>
    have hx := List.mem_of_find?_eq_some hfind
    have hid : x.id = u.id := by simpa using List.find?_some hfind
    rw [eq_of_id_eq hs hx hu hid]
    rfl

/-- Writing a row in the place of the row with its id gives the state with that row set. -/
theorem UploadTables.putTable_setUpload {s : UploadTables}
    (hs : s.uploads.Pairwise (·.id < ·.id)) {u : UploadRow} (hu : u ∈ s.uploads) (v : UploadRow)
    (hv : v.id = u.id) :
    s.db.putTable ({ s.uploadsT with rows := s.uploadsT.rows.filter (·.rowid != u.id) }.addRow
      v.row) = (s.setUpload v).db := by
  have hrows : (s.uploads.map UploadRow.row).Pairwise (·.rowid < ·.rowid) :=
    List.pairwise_map.2 hs
  have hplace := @Table.placeRow_replace { s.uploadsT with
    rows := s.uploadsT.rows.filter (·.rowid != u.id) } rfl v.row _ hrows
    ⟨u.row, List.mem_map_of_mem hu, by simp [hv]⟩
  simp only [UploadRow.row_rowid, hv] at hplace
  have htable : { s.uploadsT with rows := s.uploadsT.rows.filter (·.rowid != u.id) }.addRow v.row =
      { s.uploadsT with rows := (s.setUpload v).uploads.map UploadRow.row } := by
    rw [Table.addRow]
    congr 1
    refine hplace.trans ?_
    rw [UploadTables.setUpload, List.map_map, List.map_map]
    refine List.map_congr_left fun o _ => ?_
    by_cases ho : o.id = u.id <;> simp [ho, hv]
  rw [htable, UploadTables.putTable_uploads]
  rfl

/-- The engine's update of one running row by a patch: when the merged row satisfies the
constraints it takes the old row's place and is counted, and otherwise the statement fails on a
`CHECK` constraint with the effects as they were. No other running row may share the node. -/
theorem updateRow_patch {s : UploadTables} (hs : s.uploads.Pairwise (·.id < ·.id))
    {u : UploadRow} (hu : u ∈ s.uploads)
    (hone : ∀ o ∈ s.uploads, o.id ≠ u.id → o.nodeName = u.nodeName → o.status ≠ .running)
    (p : Patch) {ctx : WriteCtx} (hctx : ctx.outer = []) (hcount : ctx.counts = true)
    {e : Effects} (he : e.db = s.db) (fuel : Nat) :
    (updateRow (fuel + 6) ctx s.uploadsT .abort (patchUpdate p) [] u.id).run e =
      match (u.patch p).brokenCheck with
      | some k => (.error k.failure, e)
      | none => (.ok (some []), { e with db := (s.setUpload (u.patch p)).db, counted := e.counted + 1 }) := by
  have hf := UploadTables.find_row hs hu
  have htab : e.db.table? s.uploadsT.name = some s.uploadsT := by rw [he]; simp
  have htab' : e.db.table? "uploads" = some s.uploadsT := by rw [he]; simp
  have hany : s.uploadsT.rows.any (fun x => x.rowid == u.id) = true :=
    List.any_eq_true.2 ⟨u.row, List.mem_of_find?_eq_some hf, by simp⟩
  -- the assignments, the triggers (there are none) and the `NOT NULL` pass
  simp only [updateRow, Write.run_bind, Write.run_currentTable htab, hf, patchUpdate,
    UploadRow.row_cells, UploadRow.row_rowid, @assignRow_patch fuel ctx s.uploadsT hctx rfl rfl u p,
    Write.run_pure, Write.run_get, he, UploadTables.firing_nil, Write.run_catchIgnored_none,
    Bool.false_eq_true, if_false, hany, Bool.not_true]
  rw [forIn_keep _ _ _ ?notNull]
  case notNull =>
    intro x hx
    simp only [UploadTables.uploadsT_withoutRowid, Bool.false_and, Bool.or_false,
      patchAssignments_columns]
    split
    next hcond =>
      exfalso
      simp only [Bool.and_eq_true] at hcond
      have h6 := notNull_assigned x (by simpa using hx) (by simp [hcond.1])
      have hnull := hcond.2
      rw [h6] at hnull
      simp [UploadRow.cells] at hnull
    next => rfl
  -- the constraints that read a column the statement sets
  simp only [Write.run_pure, Bool.false_eq_true, if_false, bne_self_eq_false, Bool.false_or,
    UploadTables.uploadsT_checks, patchAssignments_columns, relevant_checks,
    UploadTables.uploadsT_withoutRowid, UploadTables.uploadsT_primaryKey]
  rw [show (⟨u.id, (u.patch p).cells⟩ : Row) = (u.patch p).row from rfl, Write.run_bind,
    @Write.run_findM?_checks fuel s.uploadsT { ctx with outer := [], ctes := [] } rfl e rfl
      (u.patch p) _ (.inr rfl)]
  cases (u.patch p).brokenCheck with
  | some k =>
    -- a constraint fails: the statement stops before anything is written
    rfl
  | none =>
    have hnone : ((s.uploads.filter fun o => o.id != u.id).filter
        fun o => o.nodeName == u.nodeName && o.status == .running) = [] :=
      List.filter_eq_nil_iff.2 fun o ho => by
        obtain ⟨hmem, hne⟩ := List.mem_filter.1 ho
        have := hone o hmem (by simpa using hne)
        simp only [Bool.and_eq_true, beq_iff_eq, not_and]
        exact fun h => this h
    -- the index on running rows: no other running row has the node
    simp only [Write.run_bind, Write.run_get, he, watched_indexes, uploadIndexes, List.take,
      List.filterMapM, List.filterMapM.loop,
      @evalIn_isRunningRow (fuel + 3) { ctx with outer := [], ctes := [] } rfl s.uploadsT rfl
        (u.patch p),
      pure_bind, ofBool_confirmed, Bool.false_and, Bool.not_false]
    have hfire : ∀ t, (e.db.putTable t).firing "uploads" .after
        (.update ["status", "completed_at", "progress_percent", "chunks_completed", "chunks_total",
          "last_progress_check", "total_chunks", "completion_message", "error_message"])
        ctx.running = [] := fun t => by
      simp only [Database.firing, Database.putTable, he, UploadTables.db_triggers, List.filter_nil]
    cases hb : (u.patch p).status == Status.running
    · simp only [Bool.not_false, if_true, Write.run_pure, List.reverse_nil, List.map_nil,
        List.append_nil, if_false, List.isEmpty_nil, List.head?_nil, Bool.false_eq_true]
      simp only [Table.strictRefusal, UploadTables.uploadsT_strict, Bool.not_false, if_true,
        Write.run_bind, Write.run_currentTable htab', putTable, Write.run_modify, Write.run_get,
        hcount, UploadTables.uploadsT_name, hfire, Write.run_catchIgnored_none, Write.run_pure]
      rw [he]
      exact congrArg (fun d => (Except.ok (some []), { e with db := d, counted := e.counted + 1 }))
        (UploadTables.putTable_setUpload hs hu (u.patch p) rfl)
    · have hcomp : ((fun x : Row => x.rowid != u.id) ∘ UploadRow.row) = fun o => o.id != u.id :=
        rfl
      simp only [Bool.not_true, Bool.false_eq_true, if_false, Write.run_bind,
        UploadTables.uploadsT_rows, List.filter_map, hcomp]
      rw [Write.run_filterM_map _ _ _ (fun o => o.nodeName == u.nodeName && o.status == .running) e
        ?hits, hnone]
      case hits =>
        intro o _
        simp only [List.map_cons, List.map_nil, @nodeName_collation s.uploadsT rfl,
          @cell_nodeName s.uploadsT rfl,
          keysCollide_text, UploadRow.patch_nodeName]
        cases hn : o.nodeName == u.nodeName
        · simp
        · simp only [Bool.not_true, Bool.false_eq_true, if_false, Bool.true_and, Write.run_bind,
            @evalIn_isRunningRow (fuel + 3) { ctx with outer := [], ctes := [] } rfl s.uploadsT rfl o,
            Write.run_pure, ofBool_confirmed]
      simp only [List.map_nil, List.isEmpty_nil, if_true, Write.run_pure, List.reverse_nil,
        List.append_nil, List.head?_nil]
      simp only [Table.strictRefusal, UploadTables.uploadsT_strict, Bool.not_false, if_true,
        Write.run_bind, Write.run_currentTable htab', putTable, Write.run_modify, Write.run_get,
        hcount, UploadTables.uploadsT_name, hfire, Write.run_catchIgnored_none, Write.run_pure]
      rw [he]
      exact congrArg (fun d => (Except.ok (some []), { e with db := d, counted := e.counted + 1 }))
        (UploadTables.putTable_setUpload hs hu (u.patch p) rfl)

/-! ## The statement -/

@[simp] theorem compare_beq_eq_int (a b : Int) : (compare a b == .eq) = (a == b) := by
  rw [Bool.eq_iff_iff]
  simp only [beq_iff_eq]
  exact Int.compare_eq_eq

/-- The statement's filter over a typed row: the row with the patch's id, if it is running. -/
theorem evalExpr_patchFilter {fuel : Nat} {sc : Scope} {t : Table} {u : UploadRow}
    (h : RowScope sc t u.row) (ht : t.columns = uploadsTable.columns) (p : Patch) :
    evalExpr (fuel + 3) sc (patchFilter p) = .ok (ofBool (u.id == p.id && u.status == .running)) := by
  have hid : evalExpr (fuel + 2) sc (eqExpr (.col "id") (intLit p.id)) = .ok (ofBool (u.id == p.id)) := by
    rw [eqExpr, intLit, evalExpr_compare_col_lit (h.find_uploads ht uploads_columnIndex.1) .eq
      (.inl rfl)]
    simp [UploadRow.cells, uploadsColumn_affinity, comparisonAffinity, compareUnder,
      Cell.applyAffinity, Cell.compareWith, BinOp.accepts]
  exact evalExpr_and hid (evalExpr_isRunningRow h ht)

/-- Among rows with sorted ids, those of one id that pass a test are the first one found. -/
theorem filter_eq_find {us : List UploadRow} (hs : us.Pairwise (·.id < ·.id)) {q : UploadRow → Bool}
    {n : Int} (hq : ∀ x, q x = true → x.id = n) : us.filter q = (us.find? q).toList := by
  induction us with
  | nil => rfl
  | cons a l ih =>
    obtain ⟨hlt, hl⟩ := List.pairwise_cons.1 hs
    cases ha : q a
    · simp [ha, ih hl]
    · -- every later row has a larger id, so none of them passes
      have hnone : l.filter q = [] := List.filter_eq_nil_iff.2 fun b hb hqb => by
        have := hlt b hb
        have := hq a ha
        have := hq b hqb
        omega
      simp [ha, hnone]

/-- The statement applying a patch, run over a state whose ids are sorted and which has at most
one running row per node: it updates the running row with the patch's id, if there is one, as
`updateRow_patch` says, and otherwise changes nothing. -/
theorem runUpdate_patch {s : UploadTables} (hs : s.uploads.Pairwise (·.id < ·.id))
    (hone : ∀ o ∈ s.uploads, ∀ o' ∈ s.uploads, o.status = .running → o'.status = .running →
      o.nodeName = o'.nodeName → o = o')
    (p : Patch) {ctx : WriteCtx} (hctx : ctx.outer = []) (hconf : ctx.conflict = none)
    (hcount : ctx.counts = true) {e : Effects} (he : e.db = s.db) (fuel : Nat) :
    (runUpdate (fuel + 7) ctx (patchUpdate p)).run e =
      match s.uploads.find? (fun o => o.id == p.id && o.status == .running) with
      | none => (.ok [], e)
      | some u =>
        match (u.patch p).brokenCheck with
        | some k => (.error k.failure, e)
        | none => (.ok [[]], { e with db := (s.setUpload (u.patch p)).db, counted := e.counted + 1 }) := by
  have htab : e.db.table? "uploads" = some s.uploadsT := by rw [he]; simp
  have hchosen := Write.run_filterM_map s.uploads UploadRow.row
    (fun r => do
      let x ← evalIn (fuel + 6) ctx [[s.uploadsT.bind none r]] (patchFilter p)
      pure (x.truth? == some true))
    (fun o => o.id == p.id && o.status == .running) e fun o _ => by
      rw [Write.run_bind, Write.run_evalIn,
        evalExpr_patchFilter (e.rowScope hctx s.uploadsT o.row) rfl p]
      simp
  rw [@filter_eq_find s.uploads hs _ p.id fun x hx => by
    simp only [Bool.and_eq_true, beq_iff_eq] at hx
    exact hx.1] at hchosen
  simp only [runUpdate, Write.run_bind, Write.run_get, patchUpdate, htab, hconf, Option.orElse_none,
    Option.getD_none, UploadTables.uploadsT_rows, hchosen]
  cases hfind : s.uploads.find? (fun o => o.id == p.id && o.status == .running) with
  | none => rfl
  | some u =>
    have hmem := List.mem_of_find?_eq_some hfind
    have hq : u.id = p.id ∧ u.status = .running := by simpa using List.find?_some hfind
    have hrow := @updateRow_patch s hs u hmem
      (fun o ho hne hnode hrun => hne (congrArg UploadRow.id (hone o ho u hmem hrun hq.2 hnode))) p
      { ctx with conflict := none } hctx hcount e he fuel
    simp only [Option.toList_some, List.map_cons, List.map_nil, List.foldlM_cons, List.foldlM_nil,
      UploadRow.row_rowid, Write.run_bind, ← patchUpdate.eq_1, hrow]
    cases (u.patch p).brokenCheck <;> rfl

end SnapshotAgent.Store
