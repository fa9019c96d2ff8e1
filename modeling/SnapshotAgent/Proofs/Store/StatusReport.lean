import Mathlib
import SnapshotAgent.Proofs.Store.ReadBack
/-!
# The status report

`UploadStore.statusReport` joins two reads of the store: every running upload, and for each
configured node with none running, its newest completed upload. `renderStatus` then writes them as
lines. This file proves what the report holds on the database of a sound state.

The join is `statusReport_of_reads`, over a sound state whose rows read back. The running uploads
are the running rows in start order (`UploadTables.allRunning_eq`); a node is idle exactly when the
state has no running row of it, since a record read back keeps its node (`UploadRow.toRecord_ok`);
and each idle node contributes its newest completed row, if it has one
(`UploadTables.lastCompleted`). A failed upload is never completed, so it never appears.

Reading back is what a sound state alone does not give: a running row whose protocol data is not
JSON makes the whole report fail (`statusReport_of_unreadable`). The rows a run of readable writes
leaves do read back (`UploadTables.run_decodable`), so over such runs the report is always written
(`status_report_content`).

The text is `reportLines`, each line ended by a newline (`renderStatus_eq_lines`): the header, a
block of lines per running upload in order, whose progress and chunk lines are there exactly when
the record has the values, and the section of the last completed uploads when there are any.
-/

namespace SnapshotAgent.Store

open SnapshotAgent.Upload SnapshotAgent.Time

/-! ## The report as lines -/

/-- The lines of one running upload's block: a blank line, the fixed lines, then a progress line
when the percentage is known and a chunk line when both counts are. -/
def blockLines (now : Instant) (r : Record) : List String :=
  ["", "Node:       " ++ r.nodeName, "  ID:       " ++ toString r.id,
    "  Started:  " ++ reportTime r.startedAt,
    "  Elapsed:  " ++ formatElapsed ((r.completedAt.getD now).since r.startedAt),
    "  Trigger:  " ++ r.trigger.name, "  Status:   " ++ r.status.name] ++
  r.progressPercent.toList.map (fun p => "  Progress: " ++ Number.fixedPlaces 2 p ++ "%") ++
  (r.chunksCompleted.bind fun c => r.chunksTotal.map fun t => (c, t)).toList.map
    fun ct => "  Chunks:   " ++ toString ct.1 ++ "/" ++ toString ct.2

/-- The line of one last completed upload. -/
def completedText (now : Instant) (r : Record) : String :=
  "  " ++ r.nodeName ++ ": #" ++ toString r.id ++ " at " ++
    (r.completedAt.map reportTime).getD "" ++ " (" ++
    formatElapsed ((r.completedAt.getD now).since r.startedAt) ++ ")"

/-- The lines of the report: the header, a block per running upload, then the last completed
uploads when there are any. -/
def reportLines (running latest : List Record) (now : Instant) : List String :=
  (if running = [] then "No active uploads" else "Active uploads: " ++ toString running.length) ::
    (running.flatMap (blockLines now) ++
      if latest = [] then [] else "" :: "Last completed:" :: latest.map (completedText now))

/-- Lines written one after another, each ended by a newline. -/
def writeLines (lines : List String) : String := String.join (lines.map (· ++ "\n"))

theorem writeLines_append (xs ys : List String) :
    writeLines (xs ++ ys) = writeLines xs ++ writeLines ys := by
  simp [writeLines, String.join_append]

theorem writeLines_flatMap {α : Type} (f : α → List String) :
    ∀ xs : List α, writeLines (xs.flatMap f) = String.join (xs.map fun x => writeLines (f x))
  | [] => rfl
  | x :: xs => by
    rw [List.flatMap_cons, writeLines_append, writeLines_flatMap f xs, List.map_cons,
      String.join_cons]

theorem runningBlock_eq_lines (now : Instant) (r : Record) :
    runningBlock now r = writeLines (blockLines now r) := by
  unfold runningBlock blockLines writeLines Record.elapsed
  -- compared as characters, where appends reassociate freely
  apply String.toList_injective
  cases r.progressPercent <;> cases r.chunksCompleted <;> cases r.chunksTotal <;> simp

theorem completedLine_eq (now : Instant) (r : Record) :
    completedLine now r = completedText now r ++ "\n" := by
  unfold completedLine completedText Record.elapsed
  apply String.toList_injective
  cases r.completedAt <;> simp

/-- The report is its lines, each ended by a newline. -/
theorem renderStatus_eq_lines (running latest : List Record) (now : Instant) :
    renderStatus running latest now = writeLines (reportLines running latest now) := by
  have hblocks : String.join (running.map (runningBlock now)) =
      writeLines (running.flatMap (blockLines now)) := by
    rw [writeLines_flatMap]
    exact congrArg String.join (List.map_congr_left fun r _ => runningBlock_eq_lines now r)
  have hlatest : String.join (latest.map (completedLine now)) =
      writeLines (latest.map (completedText now)) := by
    simp only [writeLines, List.map_map]
    exact congrArg String.join (List.map_congr_left fun r _ => completedLine_eq now r)
  unfold renderStatus reportLines
  rw [hblocks, hlatest]
  apply String.toList_injective
  cases running <;> cases latest <;> simp [writeLines]

/-! ## The report of a sound state -/

namespace UploadTables

variable (s : UploadTables)

/-- Whether a node has a running upload. -/
def runsNode (node : String) : Bool :=
  s.uploads.any fun o => o.nodeName == node && o.status == .running

/-- The uploads the report lists as last completed: for each node in order that has no running
upload, its newest completed upload, if it has one. -/
def lastCompleted (finish : UploadRow → Instant) (nodes : List String) : List UploadRow :=
  (nodes.filter fun n => !s.runsNode n).filterMap (s.newestCompleted finish)

end UploadTables

section Report

variable {S : UploadTables} {rec : UploadRow → Record}
  (hrec : ∀ o ∈ S.uploads, ResultRow.toRecord ⟨uploadColumns, o.cells⟩ = .ok (rec o))
include hrec

/-- The records of some running rows name a node exactly when the state has a running row of
it, once the rows are all the running rows. -/
theorem any_nodeName_running {rows : List UploadRow}
    (hperm : rows.Perm (S.uploads.filter (·.status == .running))) (node : String) :
    (rows.map rec).any (·.nodeName == node) = S.runsNode node := by
  have hname : ∀ o ∈ S.uploads, (rec o).nodeName = o.nodeName :=
    fun o ho => (UploadRow.toRecord_ok (hrec o ho)).2.1
  rw [List.any_map, hperm.any_eq, List.any_filter, UploadTables.runsNode]
  apply Bool.eq_iff_iff.2
  simp only [List.any_eq_true, Function.comp_apply, Bool.and_eq_true, beq_iff_eq]
  constructor
  · rintro ⟨o, ho, hrun, hn⟩
    exact ⟨o, ho, (hname o ho).symm.trans hn, hrun⟩
  · rintro ⟨o, ho, hn, hrun⟩
    exact ⟨o, ho, hrun, (hname o ho).trans hn⟩

/-- Each lookup of a node's newest completed upload reads the record of its newest completed
row. -/
theorem latestCompleted_rec {finish : UploadRow → Instant}
    (hfinish : ∀ o ∈ S.uploads, o.status = .completed → ∀ t, o.completedAt = some t →
      (finish o).Storable ∧ t = (finish o).rfc3339Offset) (node : String) :
    S.db.latestCompleted node = .ok ((S.newestCompleted finish node).map rec) := by
  rw [S.latestCompleted_eq_newest finish hfinish node]
  cases h : S.newestCompleted finish node with
  | none => rfl
  | some o =>
    -- the newest row is one of the node's completed rows, hence a row of the state
    have ho : o ∈ S.uploads := by
      have hsorted := List.mem_of_mem_head? h
      exact (List.mem_filter.1 (List.mem_mergeSort.1 hsorted)).1
    show some <$> ResultRow.toRecord ⟨uploadColumns, o.cells⟩ = _
    rw [hrec o ho]
    rfl

end Report

/-- The status report of a sound state whose rows read back, as `rec` gives. The running uploads
are its running rows in order of start, ties going to the lower id; each node given in order with
no running row contributes its newest completed row, if it has one; and the text is the report's
lines, each ended by a newline. -/
theorem statusReport_of_reads {S : UploadTables} (hS : S.Sound)
    (start finish : UploadRow → Instant)
    (hstart : ∀ o ∈ S.uploads, o.status = .running →
      (start o).Storable ∧ o.startedAt = (start o).rfc3339Offset)
    (hfinish : ∀ o ∈ S.uploads, o.status = .completed → ∀ t, o.completedAt = some t →
      (finish o).Storable ∧ t = (finish o).rfc3339Offset)
    (rec : UploadRow → Record)
    (hrec : ∀ o ∈ S.uploads, ResultRow.toRecord ⟨uploadColumns, o.cells⟩ = .ok (rec o))
    (nodes : List String) (now : Instant) :
    ∃ rows : List UploadRow, rows.Perm (S.uploads.filter (·.status == .running)) ∧
      rows.Pairwise (fun a b => (start a).before (start b) = true ∨
        (start a = start b ∧ a.id < b.id)) ∧
      (∀ node, (S.newestCompleted finish node = none ↔ S.completedOf node = []) ∧
        ∀ o, S.newestCompleted finish node = some o → o ∈ S.completedOf node ∧
          ∀ o' ∈ S.completedOf node, o' ≠ o → (finish o').before (finish o) = true ∨
            (finish o' = finish o ∧ o'.id < o.id)) ∧
      ({ db := S.db } : UploadStore).statusReport nodes now =
        .ok (writeLines (reportLines (rows.map rec) ((S.lastCompleted finish nodes).map rec)
          now)) := by
  obtain ⟨rows, hperm, hsorted, hall⟩ := S.allRunning_sorted hS.ids_sorted start hstart
  refine ⟨rows, hperm, hsorted, fun node => ⟨S.newestCompleted_eq_none finish node,
    fun o ho => S.newestCompleted_spec hS.ids_sorted finish ho⟩, ?_⟩
  have hrun : S.db.allRunning = .ok (rows.map rec) := by
    rw [hall]
    exact mapM_eq_pure _ rec rows fun o ho => hrec o (List.mem_filter.1 (hperm.subset ho)).1
  have hidle : (nodes.filter fun n => !(rows.map rec).any (·.nodeName == n)) =
      nodes.filter fun n => !S.runsNode n := by
    simp only [any_nodeName_running hrec hperm]
  have hfound := mapM_eq_pure S.db.latestCompleted (fun n => (S.newestCompleted finish n).map rec)
    (nodes.filter fun n => !S.runsNode n) fun n _ => latestCompleted_rec hrec hfinish n
  simp only [UploadStore.statusReport, UploadStore.allRunning, reportOver, Bool.false_eq_true,
    if_false, hrun, except_ok_bind, hidle]
  have hlatest : ((nodes.filter fun n => !S.runsNode n).map
      fun n => (S.newestCompleted finish n).map rec).reduceOption =
      (S.lastCompleted finish nodes).map rec := by
    rw [UploadTables.lastCompleted, List.map_filterMap, List.reduceOption, List.filterMap_map]
    rfl
  rw [hfound, pure_bind, hlatest, renderStatus_eq_lines]
  rfl

/-- A state whose one running row does not read back has no report: reading the running rows
fails with that row's error, before any line is written. -/
theorem statusReport_of_unreadable {S : UploadTables} {o : UploadRow}
    (hrun : S.uploads.filter (·.status == .running) = [o]) {e : StoreError}
    (he : ResultRow.toRecord ⟨uploadColumns, o.cells⟩ = .error e) (nodes : List String)
    (now : Instant) :
    ({ db := S.db } : UploadStore).statusReport nodes now = .error e := by
  obtain ⟨rows, hperm, hall⟩ := S.allRunning_perm
  rw [hrun, List.perm_singleton] at hperm
  subst hperm
  simp only [UploadStore.statusReport, UploadStore.allRunning, Bool.false_eq_true, if_false, hall,
    List.mapM_cons, he]
  rfl

/-! ## The report over runs -/

/-- The instant a row's stored start reads as. -/
def UploadRow.startInstant (o : UploadRow) : Instant := (decodeStamp o.startedAt).getD default

/-- The instant a row's stored completion reads as, if it has one. -/
def UploadRow.finishInstant (o : UploadRow) : Instant :=
  (o.completedAt.bind decodeStamp).getD default

/-- The record a row reads back as, `default` for a row that does not read back. -/
def UploadRow.record (o : UploadRow) : Record :=
  match ResultRow.toRecord ⟨uploadColumns, o.cells⟩ with
  | .ok r => r
  | .error _ => default

/-- A stored timestamp decodes to an instant the store can write, whose stored form it is. -/
theorem StoredStamp.decoded {text : String} (h : StoredStamp text) :
    ((decodeStamp text).getD default).Storable ∧
      text = ((decodeStamp text).getD default).rfc3339Offset := by
  obtain ⟨t, ht, rfl⟩ := h
  rw [decodeStamp_rfc3339Offset ht]
  exact ⟨ht, rfl⟩

theorem UploadRow.Decodable.toRecord_eq_record {o : UploadRow} (h : o.Decodable) :
    ResultRow.toRecord ⟨uploadColumns, o.cells⟩ = .ok o.record := by
  obtain ⟨r, hr⟩ := h.toRecord_ok
  rw [hr, UploadRow.record, hr]

/-- The status report of the store a run of readable writes leaves. Every row reads back, as
`UploadRow.record`. The running uploads are listed in order of start, ties going to the lower id;
each node given in order with no running row contributes its newest completed row by completion
time, ties going to the higher id, if it has one; and the text is the report's lines, each ended by
a newline: the header, a block per running upload, then the last completed uploads if there are
any. -/
theorem status_report_content (ws : List StoreWrite) (hws : ∀ w ∈ ws, w.Readable)
    (nodes : List String) (now : Instant) :
    (∀ o ∈ (UploadTables.run ws).uploads,
      ResultRow.toRecord ⟨uploadColumns, o.cells⟩ = .ok o.record) ∧
    ∃ rows : List UploadRow,
      rows.Perm ((UploadTables.run ws).uploads.filter (·.status == .running)) ∧
      rows.Pairwise (fun a b => a.startInstant.before b.startInstant = true ∨
        (a.startInstant = b.startInstant ∧ a.id < b.id)) ∧
      (∀ node,
        ((UploadTables.run ws).newestCompleted UploadRow.finishInstant node = none ↔
          (UploadTables.run ws).completedOf node = []) ∧
        ∀ o, (UploadTables.run ws).newestCompleted UploadRow.finishInstant node = some o →
          o ∈ (UploadTables.run ws).completedOf node ∧
          ∀ o' ∈ (UploadTables.run ws).completedOf node, o' ≠ o →
            o'.finishInstant.before o.finishInstant = true ∨
              (o'.finishInstant = o.finishInstant ∧ o'.id < o.id)) ∧
      ({ db := Database.freshUploads.afterWrites ws } : UploadStore).statusReport nodes now =
        .ok (writeLines (reportLines (rows.map UploadRow.record)
          (((UploadTables.run ws).lastCompleted UploadRow.finishInstant nodes).map
            UploadRow.record) now)) := by
  have hdec := UploadTables.run_decodable hws
  have hrec : ∀ o ∈ (UploadTables.run ws).uploads,
      ResultRow.toRecord ⟨uploadColumns, o.cells⟩ = .ok o.record :=
    fun o ho => (hdec o ho).toRecord_eq_record
  -- every stored time of a decodable row is the stored form of the instant it reads as
  have hstart : ∀ o ∈ (UploadTables.run ws).uploads, o.status = .running →
      o.startInstant.Storable ∧ o.startedAt = o.startInstant.rfc3339Offset :=
    fun o ho _ => (hdec o ho).started.decoded
  have hfinish : ∀ o ∈ (UploadTables.run ws).uploads, o.status = .completed → ∀ t,
      o.completedAt = some t →
        o.finishInstant.Storable ∧ t = o.finishInstant.rfc3339Offset := by
    intro o ho _ t ht
    rw [UploadRow.finishInstant, ht]
    exact ((hdec o ho).completed t ht).decoded
  rw [UploadTables.run_db]
  exact ⟨hrec, statusReport_of_reads (UploadTables.run_sound ws) _ _ hstart hfinish _ hrec nodes now⟩

/-- An upload of `eth` started at noon of day 20000. -/
def ethUpload : NewUpload :=
  { nodeName := "eth", protocol := "ethereum", nodeType := "archive",
    startedAt := noonOfDay20000, trigger := .scheduled }

/-- An upload of `arb` started a quarter of a second after noon. -/
def arbUpload : NewUpload :=
  { nodeName := "arb", protocol := "arbitrum", nodeType := "full",
    startedAt := quarterPastNoon, trigger := .manual }

/-- The patch completing the first upload a quarter of a second after noon. -/
def firstDone : Patch :=
  { id := 1, status := some .completed, completedAt := some quarterPastNoon,
    lastProgressCheck := some quarterPastNoon }

/-- A run leaving a completed upload of `eth` and a running upload of `arb`. -/
def reportRun : List StoreWrite :=
  [.create ethUpload, .update firstDone quarterPastNoon, .create arbUpload]

theorem reportRun_readable : ∀ w ∈ reportRun, w.Readable := by
  have hdata : Json.Canonical (.obj []) := Json.Canonical.obj [] (by simp) (by simp)
  simp only [reportRun, List.mem_cons, List.not_mem_nil, or_false]
  rintro w (rfl | rfl | rfl)
  · exact ⟨noonOfDay20000_storable, (fun _ h => nomatch h), hdata, by decide⟩
  · refine ⟨⟨?_, ?_⟩, quarterPastNoon_storable⟩ <;>
      exact fun t ht => (Option.some.inj ht) ▸ quarterPastNoon_storable
  · exact ⟨quarterPastNoon_storable, (fun _ h => nomatch h), hdata, by decide⟩

/-- The report over a store holding a completed and a running upload lists both: the running one
in its block, the completed one among the last completed. -/
theorem status_report_of_reportRun :
    (UploadTables.run reportRun).uploads.map (·.status) = [.completed, .running] ∧
    (∀ o ∈ (UploadTables.run reportRun).uploads,
      ResultRow.toRecord ⟨uploadColumns, o.cells⟩ = .ok o.record) ∧
    ∃ rows : List UploadRow,
      rows.Perm ((UploadTables.run reportRun).uploads.filter (·.status == .running)) ∧
      rows.Pairwise (fun a b => a.startInstant.before b.startInstant = true ∨
        (a.startInstant = b.startInstant ∧ a.id < b.id)) ∧
      (∀ node,
        ((UploadTables.run reportRun).newestCompleted UploadRow.finishInstant node = none ↔
          (UploadTables.run reportRun).completedOf node = []) ∧
        ∀ o, (UploadTables.run reportRun).newestCompleted UploadRow.finishInstant node = some o →
          o ∈ (UploadTables.run reportRun).completedOf node ∧
          ∀ o' ∈ (UploadTables.run reportRun).completedOf node, o' ≠ o →
            o'.finishInstant.before o.finishInstant = true ∨
              (o'.finishInstant = o.finishInstant ∧ o'.id < o.id)) ∧
      ({ db := Database.freshUploads.afterWrites reportRun } : UploadStore).statusReport
          ["eth", "arb"] quarterPastNoon =
        .ok (writeLines (reportLines (rows.map UploadRow.record)
          (((UploadTables.run reportRun).lastCompleted UploadRow.finishInstant
            ["eth", "arb"]).map UploadRow.record) quarterPastNoon)) :=
  ⟨rfl, status_report_content reportRun reportRun_readable ["eth", "arb"] quarterPastNoon⟩

/-- A running upload of `eth` whose protocol data is not JSON. -/
def undecodableRow : UploadRow :=
  { id := 1, nodeName := "eth", protocol := "ethereum", nodeType := "archive",
    startedAt := noonOfDay20000.rfc3339Offset, completedAt := none, status := .running,
    trigger := .manual, protocolData := "not json", progressPercent := none,
    chunksCompleted := none, chunksTotal := none, lastProgressCheck := none, totalChunks := none,
    completionMessage := none, errorMessage := none }

/-- A store holding only that row, its id recorded as given out. -/
def undecodableStore : UploadTables :=
  { uploads := [undecodableRow], sequence := [⟨1, [.text "uploads", .integer 1]⟩], progress := [] }

/-- A sound store whose running row does not read back has no report: the reader refuses the
row's protocol data, and the report fails with the reader's error. -/
theorem status_report_fails_on_undecodable_row :
    undecodableStore.Sound ∧
      ({ db := undecodableStore.db } : UploadStore).statusReport ["eth"] noonOfDay20000 =
        .error (.serde "expected ident at line 1 column 2") := by
  have hsound : undecodableStore.Sound :=
    ⟨List.pairwise_singleton _ _, by simp [undecodableStore],
      by simp [undecodableStore]; decide, rfl⟩
  have hread : ResultRow.toRecord ⟨uploadColumns, undecodableRow.cells⟩ =
      .error (.serde "expected ident at line 1 column 2") := by
    rw [UploadRow.toRecord_cells]
    simp only [undecodableRow, readStamp_rfc3339Offset _ noonOfDay20000_storable, except_ok_bind]
    rfl
  exact ⟨hsound, statusReport_of_unreadable rfl hread _ _⟩

end SnapshotAgent.Store
