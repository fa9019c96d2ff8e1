import Mathlib
import SnapshotAgent.Proofs.Store.Select
import SnapshotAgent.Proofs.Time.TextOrder
/-!
# The order of the store's reads

`Database.allRunning` lists the running uploads by `ORDER BY started_at, id`, and
`Database.latestCompleted` takes the first completed upload of a node by
`ORDER BY completed_at DESC, id DESC`. Both columns hold timestamps as text, so the engine sorts
them as texts. This file proves that over stored timestamps the two reads follow time.

The argument has three steps. `UploadTables.selectRows_uploadsQuery` reduces each read to
`sortByKeys` over the rows its filter keeps. `UploadRow.byTime_runningOrder` and
`UploadRow.byTime_latestOrder` show that the engine's comparison of the order keys of two rows is
`UploadRow.byTime`, the order by an instant of each row, ties going to the lower id; the text
order of `Instant.rfc3339Offset` (`Instant.compare_rfc3339Offset`) does the work there. Last,
`List.map_mergeSort` turns the engine's sort into a sort of the rows by `UploadRow.byTime`, a
total preorder, which distinct ids make strict.

A stored timestamp stands for an instant of its row: `start` and `finish` name them, and the
hypotheses say that the texts in the table are the store's encoding of those instants.
-/

namespace SnapshotAgent.Store

open SnapshotAgent.Time SnapshotAgent.Upload

/-! ## The columns and filters of the reads -/

theorem uploads_columnIndex_startedAt : uploadsTable.columnIndex? "started_at" = some 4 := by
  decide

theorem uploadsColumn_nodeName :
    (uploadsColumn 1).affinity = .text ∧ (uploadsColumn 1).collation = none := by
  decide

theorem status_name_completed (st : Status) : (st.name == "completed") = (st == .completed) := by
  cases st <;> rfl

section Columns

variable (o : UploadRow)

@[simp] theorem UploadRow.column_id : o.column "id" = .integer o.id := by
  simp [UploadRow.column, uploads_columnIndex.1, UploadRow.cells]

@[simp] theorem UploadRow.column_startedAt : o.column "started_at" = .text o.startedAt := by
  simp [UploadRow.column, uploads_columnIndex_startedAt, UploadRow.cells]

@[simp] theorem UploadRow.column_completedAt :
    o.column "completed_at" = optionCell .text o.completedAt := by
  simp [UploadRow.column, uploads_columnIndex.2.2.1, UploadRow.cells]

end Columns

/-- The filter of the newest completed upload of a node. -/
def latestFilter (node : String) : Expr :=
  andExpr (andExpr (eqExpr (.col "node_name") (textLit node))
      (eqExpr (.col "status") (textLit "completed")))
    (.isNull (.col "completed_at") true)

section Filters

variable {sc : Scope} {s : UploadTables} {o : UploadRow}

theorem evalExpr_nodeIs (h : RowScope sc s.uploadsT o.row) (fuel : Nat) (node : String) :
    evalExpr (fuel + 2) sc (eqExpr (.col "node_name") (textLit node)) =
      .ok (ofBool (o.nodeName == node)) := by
  rw [textLit, eqExpr,
    evalExpr_compare_col_lit (h.find_uploads rfl uploads_columnIndex.2.1) .eq (.inl rfl)]
  simp [UploadRow.cells, uploadsColumn_nodeName, comparisonAffinity, compareUnder,
    Cell.applyAffinity, Cell.compareWith, Collation.key, BinOp.accepts]

theorem evalExpr_isCompleted (h : RowScope sc s.uploadsT o.row) (fuel : Nat) :
    evalExpr (fuel + 2) sc (eqExpr (.col "status") (textLit "completed")) =
      .ok (ofBool (o.status == .completed)) := by
  rw [textLit, eqExpr,
    evalExpr_compare_col_lit (h.find_uploads rfl uploads_columnIndex.2.2.2.1) .eq (.inl rfl)]
  simp [UploadRow.cells, uploadsColumn_affinity, uploadsColumn_collation, comparisonAffinity,
    compareUnder, Cell.applyAffinity, Cell.compareWith, Collation.key, BinOp.accepts,
    ← status_name_completed]

theorem evalExpr_hasCompletedAt (h : RowScope sc s.uploadsT o.row) (fuel : Nat) :
    evalExpr (fuel + 2) sc (.isNull (.col "completed_at") true) =
      .ok (ofBool o.completedAt.isSome) := by
  rw [evalExpr_isNull (evalExpr_col (h.find_uploads rfl uploads_columnIndex.2.2.1))]
  cases hc : o.completedAt <;> simp [UploadRow.cells, hc, optionCell]

theorem evalExpr_latestFilter (h : RowScope sc s.uploadsT o.row) (fuel : Nat) (node : String) :
    evalExpr (fuel + 4) sc (latestFilter node) =
      .ok (ofBool (o.nodeName == node && o.status == .completed && o.completedAt.isSome)) :=
  evalExpr_and (evalExpr_and (evalExpr_nodeIs h fuel node) (evalExpr_isCompleted h fuel))
    (evalExpr_hasCompletedAt h (fuel + 1))

end Filters

section Checks

variable {n : Names} (hn : n.frames = [[uploadsTable.sourceShape "uploads"]])
include hn

theorem checkExpr_columnIs (fuel : Nat) {c : String} (hc : c ∈ uploadColumns) (v : Cell) :
    checkExpr (fuel + 2) n (eqExpr (.col c) (.lit v)) = .ok () := by
  rw [eqExpr, checkExpr_binary, checkExpr_uploadsColumn hn fuel hc, checkExpr_lit]
  rfl

theorem checkExpr_isRunningRow (fuel : Nat) : checkExpr (fuel + 2) n isRunningRow = .ok () :=
  checkExpr_columnIs hn fuel (by decide) _

theorem checkExpr_latestFilter (fuel : Nat) (node : String) :
    checkExpr (fuel + 4) n (latestFilter node) = .ok () := by
  rw [latestFilter, andExpr, checkExpr_binary, andExpr, checkExpr_binary, textLit,
    checkExpr_columnIs hn fuel (by decide), textLit, checkExpr_columnIs hn fuel (by decide)]
  rw [checkExpr]
  exact checkExpr_uploadsColumn hn (fuel + 1) (by decide)

end Checks

/-! ## Sorting rows by a time of each -/

/-- Whether `a` comes no later than `b` by a time of each, ties going to the lower id. -/
def UploadRow.byTime (time : UploadRow → Instant) (a b : UploadRow) : Bool :=
  (time a).before (time b) || (time a == time b && decide (a.id ≤ b.id))

section ByTime

variable (time : UploadRow → Instant)

theorem UploadRow.byTime_trans {a b c : UploadRow} (hab : a.byTime time b = true)
    (hbc : b.byTime time c = true) : a.byTime time c = true := by
  simp only [UploadRow.byTime, Bool.or_eq_true, Bool.and_eq_true, beq_iff_eq,
    decide_eq_true_eq] at *
  rcases hab with hab | ⟨hab, hid⟩ <;> rcases hbc with hbc | ⟨hbc, hid'⟩
  · exact .inl (Instant.before_trans hab hbc)
  · rw [← hbc]
    exact .inl hab
  · rw [hab]
    exact .inl hbc
  · exact .inr ⟨hab.trans hbc, hid.trans hid'⟩

theorem UploadRow.byTime_total (a b : UploadRow) :
    (a.byTime time b || b.byTime time a) = true := by
  simp only [UploadRow.byTime, Bool.or_eq_true, Bool.and_eq_true, beq_iff_eq, decide_eq_true_eq]
  rcases Instant.before_trichotomy (time a) (time b) with h | h | h
  · exact .inl (.inl h)
  · rcases le_total a.id b.id with hid | hid
    · exact .inl (.inr ⟨h, hid⟩)
    · exact .inr (.inr ⟨h.symm, hid⟩)
  · exact .inr (.inl h)

/-- Between rows of distinct ids, coming no later by time means coming strictly first by time,
then id. -/
theorem UploadRow.byTime_of_ne {a b : UploadRow} (h : a.byTime time b = true)
    (hid : a.id ≠ b.id) :
    (time a).before (time b) = true ∨ (time a = time b ∧ a.id < b.id) := by
  simp only [UploadRow.byTime, Bool.or_eq_true, Bool.and_eq_true, beq_iff_eq,
    decide_eq_true_eq] at h
  rcases h with h | ⟨h, hle⟩
  · exact .inl h
  · exact .inr ⟨h, lt_of_le_of_ne hle hid⟩

theorem UploadRow.pairwise_mergeSort_byTime (l : List UploadRow) :
    (l.mergeSort (UploadRow.byTime time)).Pairwise fun a b => a.byTime time b = true :=
  @List.pairwise_mergeSort _ (UploadRow.byTime time)
    (fun _ _ _ hab hbc => UploadRow.byTime_trans time hab hbc) (UploadRow.byTime_total time) l

theorem UploadRow.pairwise_mergeSort_byTime_desc (l : List UploadRow) :
    (l.mergeSort fun a b => b.byTime time a).Pairwise fun a b => b.byTime time a = true :=
  @List.pairwise_mergeSort _ (fun a b => b.byTime time a)
    (fun _ _ _ hab hbc => UploadRow.byTime_trans time hbc hab)
    (fun a b => by rw [Bool.or_comm]; exact UploadRow.byTime_total time a b) l

end ByTime

/-- Ids are distinct in any sorting of any selection of rows of a state whose ids increase. -/
theorem UploadTables.pairwise_id_ne_mergeSort {s : UploadTables}
    (hids : s.uploads.Pairwise (·.id < ·.id)) (p : UploadRow → Bool)
    (r : UploadRow → UploadRow → Bool) :
    ((s.uploads.filter p).mergeSort r).Pairwise (·.id ≠ ·.id) :=
  ((hids.filter p).imp ne_of_lt).perm (List.mergeSort_perm _ r).symm fun h => Ne.symm h

/-- Sorting rows by their keys is sorting the rows by any order that agrees with the keys. -/
theorem sortByKeys_uploadRows (order : List OrderTerm) {l : List UploadRow}
    (r : UploadRow → UploadRow → Bool)
    (hr : ∀ a ∈ l, ∀ b ∈ l,
      r a b = (compareKeys (order.map a.sortKey) (order.map b.sortKey) != .gt)) :
    sortByKeys (l.map fun o => (o.cells, order.map o.sortKey)) =
      (l.mergeSort r).map UploadRow.cells := by
  rw [sortByKeys, ← List.map_mergeSort hr, List.map_map]
  rfl

/-! ## The order keys of the reads -/

/-- The order of the running uploads: by start time, then id. -/
def runningOrder : List OrderTerm := [ascending "started_at", ascending "id"]

/-- The order of the completed uploads, newest first: by completion time, then id, descending. -/
def latestOrder : List OrderTerm := [descending "completed_at", descending "id"]

theorem byUploadsColumn_runningOrder : ∀ t ∈ runningOrder, ByUploadsColumn t := by
  simp only [runningOrder, List.mem_cons, List.not_mem_nil, or_false]
  rintro t (rfl | rfl)
  · exact ⟨"started_at", by decide, rfl⟩
  · exact ⟨"id", by decide, rfl⟩

theorem byUploadsColumn_latestOrder : ∀ t ∈ latestOrder, ByUploadsColumn t := by
  simp only [latestOrder, List.mem_cons, List.not_mem_nil, or_false]
  rintro t (rfl | rfl)
  · exact ⟨"completed_at", by decide, rfl⟩
  · exact ⟨"id", by decide, rfl⟩

/-- Over stored start times, the keys of the running order compare rows by start, then id. -/
theorem UploadRow.byTime_runningOrder (start : UploadRow → Instant) {a b : UploadRow}
    (ha : (start a).Storable ∧ a.startedAt = (start a).rfc3339Offset)
    (hb : (start b).Storable ∧ b.startedAt = (start b).rfc3339Offset) :
    (compareKeys (runningOrder.map a.sortKey) (runningOrder.map b.sortKey) != .gt) =
      a.byTime start b := by
  simp [runningOrder, ascending, UploadRow.sortKey, Expr.col, compareKeys, Cell.compareWith,
    Collation.key, ha.2, hb.2, Instant.compare_rfc3339Offset ha.1 hb.1, UploadRow.byTime]
  -- the start times decide unless they are equal, and then the ids do
  rcases Instant.before_trichotomy (start a) (start b) with h | h | h
  · simp [h]
  · simp only [h, Instant.before_irrefl, and_self, if_true]
    split <;> simp_all
  · simp [Instant.before_asymm h, (Instant.ne_of_before h).symm]

/-- Over stored completion times, the keys of the latest order compare rows by completion, then
id, the later first. -/
theorem UploadRow.byTime_latestOrder (finish : UploadRow → Instant) {a b : UploadRow}
    (ha : (finish a).Storable ∧ a.completedAt = some (finish a).rfc3339Offset)
    (hb : (finish b).Storable ∧ b.completedAt = some (finish b).rfc3339Offset) :
    (compareKeys (latestOrder.map a.sortKey) (latestOrder.map b.sortKey) != .gt) =
      b.byTime finish a := by
  simp [latestOrder, descending, UploadRow.sortKey, Expr.col, compareKeys, Cell.compareWith,
    Collation.key, ha.2, hb.2, optionCell, Instant.compare_rfc3339Offset ha.1 hb.1,
    UploadRow.byTime]
  rcases Instant.before_trichotomy (finish a) (finish b) with h | h | h
  · simp [h, Instant.before_asymm h, (Instant.ne_of_before h).symm]
  · simp only [h, Instant.before_irrefl, and_self, if_true]
    split <;> simp_all [Int.compare_swap]
  · simp [h, Instant.before_asymm h, (Instant.ne_of_before h).symm]

/-! ## The reads -/

namespace UploadTables

variable (s : UploadTables)

/-- The running uploads, as the store lists them: sorted by any order that agrees on them with the
keys of start time and id. -/
theorem allRunning_mergeSort (r : UploadRow → UploadRow → Bool)
    (hr : ∀ a ∈ s.uploads.filter (·.status == .running),
      ∀ b ∈ s.uploads.filter (·.status == .running),
        r a b = (compareKeys (runningOrder.map a.sortKey) (runningOrder.map b.sortKey) != .gt)) :
    s.db.allRunning =
      ((s.uploads.filter (·.status == .running)).mergeSort r).mapM
        fun o => ResultRow.toRecord ⟨uploadColumns, o.cells⟩ := by
  unfold Database.allRunning Database.uploadRows
  rw [show [ascending "started_at", ascending "id"] = runningOrder from rfl,
    selectRows_uploadsQuery s (fun n hn => checkExpr_isRunningRow hn 1995)
      (fun sc o h => evalExpr_isRunningRow h rfl) byUploadsColumn_runningOrder none]
  simp only [keepFirst, show runningOrder.isEmpty = false from rfl, Bool.false_eq_true, if_false,
    except_ok_bind]
  rw [sortByKeys_uploadRows _ _ hr, List.mapM_map]
  rfl

/-- The running uploads, as the store lists them: sorted by start time, then id. -/
theorem allRunning_eq (start : UploadRow → Instant)
    (hstart : ∀ o ∈ s.uploads, o.status = .running →
      (start o).Storable ∧ o.startedAt = (start o).rfc3339Offset) :
    s.db.allRunning =
      ((s.uploads.filter (·.status == .running)).mergeSort (UploadRow.byTime start)).mapM
        fun o => ResultRow.toRecord ⟨uploadColumns, o.cells⟩ := by
  apply allRunning_mergeSort
  intro a ha b hb
  simp only [List.mem_filter, beq_iff_eq] at ha hb
  exact (UploadRow.byTime_runningOrder start (hstart a ha.1 ha.2) (hstart b hb.1 hb.2)).symm

/-- The running uploads are read in order of start, ties going to the lower id. -/
theorem allRunning_sorted (hids : s.uploads.Pairwise (·.id < ·.id))
    (start : UploadRow → Instant)
    (hstart : ∀ o ∈ s.uploads, o.status = .running →
      (start o).Storable ∧ o.startedAt = (start o).rfc3339Offset) :
    ∃ rows : List UploadRow, rows.Perm (s.uploads.filter (·.status == .running)) ∧
      rows.Pairwise (fun a b => (start a).before (start b) = true ∨
        (start a = start b ∧ a.id < b.id)) ∧
      s.db.allRunning = rows.mapM fun o => ResultRow.toRecord ⟨uploadColumns, o.cells⟩ := by
  refine ⟨_, List.mergeSort_perm _ _, ?_, allRunning_eq s start hstart⟩
  exact ((UploadRow.pairwise_mergeSort_byTime start _).and
    (pairwise_id_ne_mergeSort hids _ _)).imp fun h => UploadRow.byTime_of_ne start h.1 h.2

/-- The running uploads are read in some order, each once. -/
theorem allRunning_perm :
    ∃ rows : List UploadRow, rows.Perm (s.uploads.filter (·.status == .running)) ∧
      s.db.allRunning = rows.mapM fun o => ResultRow.toRecord ⟨uploadColumns, o.cells⟩ :=
  ⟨_, List.mergeSort_perm _ _, allRunning_mergeSort s (fun a b =>
    compareKeys (runningOrder.map a.sortKey) (runningOrder.map b.sortKey) != .gt)
    fun _ _ _ _ => rfl⟩

/-- The completed uploads of a node that have a completion time. -/
def completedOf (node : String) : List UploadRow :=
  s.uploads.filter fun o => o.nodeName == node && o.status == .completed && o.completedAt.isSome

/-- The newest completed upload of a node, as the store finds it: the first of its completed
rows with a completion time, sorted by completion time, then id, the later first. -/
theorem latestCompleted_eq (finish : UploadRow → Instant)
    (hfinish : ∀ o ∈ s.uploads, o.status = .completed → ∀ t, o.completedAt = some t →
      (finish o).Storable ∧ t = (finish o).rfc3339Offset) (node : String) :
    s.db.latestCompleted node =
      match ((s.completedOf node).mergeSort fun a b => b.byTime finish a).head? with
      | some o => some <$> ResultRow.toRecord ⟨uploadColumns, o.cells⟩
      | none => pure none := by
  have hstored : ∀ a ∈ s.completedOf node,
      (finish a).Storable ∧ a.completedAt = some (finish a).rfc3339Offset := by
    intro a ha
    simp only [completedOf, List.mem_filter, Bool.and_eq_true, beq_iff_eq] at ha
    obtain ⟨ha, ⟨-, hst⟩, hsome⟩ := ha
    obtain ⟨t, ht⟩ := Option.isSome_iff_exists.1 hsome
    obtain ⟨hs, rfl⟩ := hfinish a ha hst t ht
    exact ⟨hs, ht⟩
  have hkeys : ∀ a ∈ s.completedOf node, ∀ b ∈ s.completedOf node, b.byTime finish a =
      (compareKeys (latestOrder.map a.sortKey) (latestOrder.map b.sortKey) != .gt) :=
    fun a ha b hb => (UploadRow.byTime_latestOrder finish (hstored a ha) (hstored b hb)).symm
  unfold Database.latestCompleted Database.uploadRow?
  rw [show andExpr (andExpr (eqExpr (.col "node_name") (textLit node))
      (eqExpr (.col "status") (textLit "completed"))) (.isNull (.col "completed_at") true) =
      latestFilter node from rfl,
    show [descending "completed_at", descending "id"] = latestOrder from rfl,
    selectRows_uploadsQuery s (fun n hn => checkExpr_latestFilter hn 1993 node)
      (fun sc o h => evalExpr_latestFilter h 1993 node) byUploadsColumn_latestOrder (some 1)]
  simp only [keepFirst, show latestOrder.isEmpty = false from rfl, Bool.false_eq_true, if_false,
    except_ok_bind]
  rw [show s.uploads.filter (fun o => o.nodeName == node && o.status == .completed &&
      o.completedAt.isSome) = s.completedOf node from rfl,
    sortByKeys_uploadRows _ _ hkeys, List.head?_take, List.head?_map]
  rcases List.head? _ with _ | o <;> rfl

/-- The newest completed upload of a node: the first of its completed rows with a completion
time, sorted by completion time, then id, the later first. -/
def newestCompleted (finish : UploadRow → Instant) (node : String) : Option UploadRow :=
  ((s.completedOf node).mergeSort fun a b => b.byTime finish a).head?

/-- A node has a newest completed upload exactly when it has a completed upload. -/
theorem newestCompleted_eq_none (finish : UploadRow → Instant) (node : String) :
    s.newestCompleted finish node = none ↔ s.completedOf node = [] := by
  unfold newestCompleted
  rw [List.head?_eq_none_iff]
  constructor
  · intro h
    have hperm := List.mergeSort_perm (s.completedOf node) fun a b => b.byTime finish a
    rw [h] at hperm
    exact hperm.symm.eq_nil
  · intro h
    rw [h, List.mergeSort_nil]

/-- The newest completed upload of a node is one of its completed uploads, and every other one
completed earlier, or at the same time with a lower id. -/
theorem newestCompleted_spec (hids : s.uploads.Pairwise (·.id < ·.id))
    (finish : UploadRow → Instant) {node : String} {o : UploadRow}
    (h : s.newestCompleted finish node = some o) :
    o ∈ s.completedOf node ∧
      ∀ o' ∈ s.completedOf node, o' ≠ o → (finish o').before (finish o) = true ∨
        (finish o' = finish o ∧ o'.id < o.id) := by
  have hsorted := UploadRow.pairwise_mergeSort_byTime_desc finish (s.completedOf node)
  have hne : ((s.completedOf node).mergeSort fun a b => b.byTime finish a).Pairwise
      (·.id ≠ ·.id) :=
    pairwise_id_ne_mergeSort hids _ _
  unfold newestCompleted at h
  -- the head of the sorted rows comes before every other row
  cases hs : (s.completedOf node).mergeSort (fun a b => b.byTime finish a) with
  | nil => rw [hs] at h; cases h
  | cons o₀ rest =>
    rw [hs, List.head?_cons, Option.some.injEq] at h
    subst h
    refine ⟨List.mem_mergeSort.1 (hs ▸ List.mem_cons_self), fun o' ho' hne' => ?_⟩
    have hrest : o' ∈ rest := by
      rw [← List.mem_mergeSort, hs] at ho'
      exact (List.mem_cons.1 ho').resolve_left hne'
    rw [hs, List.pairwise_cons] at hsorted hne
    exact UploadRow.byTime_of_ne finish (hsorted.1 o' hrest) (hne.1 o' hrest).symm

section Latest

variable (finish : UploadRow → Instant)
  (hfinish : ∀ o ∈ s.uploads, o.status = .completed → ∀ t, o.completedAt = some t →
    (finish o).Storable ∧ t = (finish o).rfc3339Offset) (node : String)
include hfinish

/-- The store reads a node's newest completed upload. -/
theorem latestCompleted_eq_newest :
    s.db.latestCompleted node =
      match s.newestCompleted finish node with
      | some o => some <$> ResultRow.toRecord ⟨uploadColumns, o.cells⟩
      | none => pure none :=
  latestCompleted_eq s finish hfinish node

theorem latestCompleted_of_nil (hdone : s.completedOf node = []) :
    s.db.latestCompleted node = .ok none := by
  rw [latestCompleted_eq_newest s finish hfinish node,
    (newestCompleted_eq_none s finish node).2 hdone]
  rfl

/-- A node with a completed upload reads back the one whose completion, then id, is greatest. -/
theorem latestCompleted_newest (hids : s.uploads.Pairwise (·.id < ·.id))
    (hdone : s.completedOf node ≠ []) :
    ∃ o ∈ s.completedOf node,
      (∀ o' ∈ s.completedOf node, o' ≠ o → (finish o').before (finish o) = true ∨
        (finish o' = finish o ∧ o'.id < o.id)) ∧
      s.db.latestCompleted node = some <$> ResultRow.toRecord ⟨uploadColumns, o.cells⟩ := by
  cases h : s.newestCompleted finish node with
  | none => exact absurd ((newestCompleted_eq_none s finish node).1 h) hdone
  | some o =>
    obtain ⟨hmem, hnewest⟩ := newestCompleted_spec s hids finish h
    refine ⟨o, hmem, hnewest, ?_⟩
    rw [latestCompleted_eq_newest s finish hfinish node, h]

end Latest

theorem reads_follow_time_order (hids : s.uploads.Pairwise (·.id < ·.id))
    (start finish : UploadRow → Instant)
    (hstart : ∀ o ∈ s.uploads, o.status = .running →
      (start o).Storable ∧ o.startedAt = (start o).rfc3339Offset)
    (hfinish : ∀ o ∈ s.uploads, o.status = .completed → ∀ t, o.completedAt = some t →
      (finish o).Storable ∧ t = (finish o).rfc3339Offset) (node : String) :
    (∃ rows : List UploadRow, rows.Perm (s.uploads.filter (·.status == .running)) ∧
      rows.Pairwise (fun a b => (start a).before (start b) = true ∨
        (start a = start b ∧ a.id < b.id)) ∧
      s.db.allRunning = rows.mapM fun o => ResultRow.toRecord ⟨uploadColumns, o.cells⟩) ∧
    (s.completedOf node = [] → s.db.latestCompleted node = .ok none) ∧
    (s.completedOf node ≠ [] → ∃ o ∈ s.completedOf node,
      (∀ o' ∈ s.completedOf node, o' ≠ o → (finish o').before (finish o) = true ∨
        (finish o' = finish o ∧ o'.id < o.id)) ∧
      s.db.latestCompleted node = some <$> ResultRow.toRecord ⟨uploadColumns, o.cells⟩) :=
  ⟨allRunning_sorted s hids start hstart, latestCompleted_of_nil s finish hfinish node,
    latestCompleted_newest s finish hfinish node hids⟩

end UploadTables

/-- Noon of day 20000, and a quarter of a second later. -/
def noonOfDay20000 : Instant := ⟨20000, 43200, 0⟩

def quarterPastNoon : Instant := ⟨20000, 43200, 250000000⟩

theorem noonOfDay20000_storable : noonOfDay20000.Storable :=
  ⟨by decide, by decide, by decide, by decide, by decide⟩

theorem quarterPastNoon_storable : quarterPastNoon.Storable :=
  ⟨by decide, by decide, by decide, by decide, by decide⟩

/-- An upload of node `validator` with the given id, status and times. -/
def timedUpload (id : Int) (status : Status) (startedAt : Instant)
    (completedAt : Option Instant) : UploadRow :=
  { id, nodeName := "validator", protocol := "p", nodeType := "full",
    startedAt := startedAt.rfc3339Offset, completedAt := completedAt.map Instant.rfc3339Offset,
    status, trigger := .scheduled, protocolData := "{}", progressPercent := none,
    chunksCompleted := none, chunksTotal := none, lastProgressCheck := none, totalChunks := none,
    completionMessage := none, errorMessage := none }

/-- Two completed uploads a quarter of a second apart, the later one with the lower id, and one
running upload. -/
def timedUploads : UploadTables :=
  ⟨[timedUpload 1 .completed noonOfDay20000 (some quarterPastNoon),
    timedUpload 2 .completed noonOfDay20000 (some noonOfDay20000),
    timedUpload 3 .running quarterPastNoon none], [], []⟩

/-- The instants the stored times of `timedUploads` stand for. -/
def timedStart (o : UploadRow) : Instant := if o.id = 3 then quarterPastNoon else noonOfDay20000

def timedFinish (o : UploadRow) : Instant := if o.id = 1 then quarterPastNoon else noonOfDay20000

theorem reads_follow_time_order_of_timedUploads :
    (∃ rows : List UploadRow, rows.Perm (timedUploads.uploads.filter (·.status == .running)) ∧
      rows.Pairwise (fun a b => (timedStart a).before (timedStart b) = true ∨
        (timedStart a = timedStart b ∧ a.id < b.id)) ∧
      timedUploads.db.allRunning =
        rows.mapM fun o => ResultRow.toRecord ⟨uploadColumns, o.cells⟩) ∧
    (timedUploads.completedOf "validator" = [] →
      timedUploads.db.latestCompleted "validator" = .ok none) ∧
    (timedUploads.completedOf "validator" ≠ [] → ∃ o ∈ timedUploads.completedOf "validator",
      (∀ o' ∈ timedUploads.completedOf "validator", o' ≠ o →
        (timedFinish o').before (timedFinish o) = true ∨
        (timedFinish o' = timedFinish o ∧ o'.id < o.id)) ∧
      timedUploads.db.latestCompleted "validator" =
        some <$> ResultRow.toRecord ⟨uploadColumns, o.cells⟩) :=
  UploadTables.reads_follow_time_order timedUploads (by decide) timedStart timedFinish
    (by
      simp only [timedUploads, List.mem_cons, List.not_mem_nil, or_false]
      rintro o (rfl | rfl | rfl) hrun
      · cases hrun
      · cases hrun
      · exact ⟨quarterPastNoon_storable, rfl⟩)
    (by
      simp only [timedUploads, List.mem_cons, List.not_mem_nil, or_false]
      rintro o (rfl | rfl | rfl) hdone t ht
      · cases ht
        exact ⟨quarterPastNoon_storable, rfl⟩
      · cases ht
        exact ⟨noonOfDay20000_storable, rfl⟩
      · cases hdone)
    "validator"

end SnapshotAgent.Store
