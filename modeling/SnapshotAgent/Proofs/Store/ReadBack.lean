import Mathlib
import SnapshotAgent.Proofs.Store.ReadOrder
import SnapshotAgent.Proofs.Store.Invariant
import SnapshotAgent.Proofs.Json.ReadBack
import SnapshotAgent.Proofs.Time.ReadBack
/-!
# Reading upload rows back

`ResultRow.toRecord` reads an upload row column by column. Over the values of a typed row
(`UploadRow.cells`) every read of a name, a number or a status is exact, so a row reads back as
itself except where the store encodes: its timestamps are texts to decode, its protocol data is a
JSON text to parse, and a real keeps no sign of a zero. `UploadRow.toRecord_cells` says exactly
that: the read is the four decodings, in the order the reader makes them, and then
`UploadRow.readWith`.

For a row the store has just written for a new upload the decodings succeed: a stored timestamp
reads back as its instant (`decodeStamp_rfc3339Offset`) and compact canonical JSON as its members
(`Json.parseObject_compact`). `NewUpload.toRecord_toRow` gives the record read back,
`NewUpload.stored`.

Last, the two lookups of one row, `Database.getUpload` and `Database.runningFor`, are reduced to the
rows of an `UploadTables` they select (`UploadTables.getUpload_eq`,
`UploadTables.runningFor_eq`).
-/

namespace SnapshotAgent.Store

open SnapshotAgent.Upload SnapshotAgent.Time

/-! ## The values of a row -/

/-- A stored timestamp as the store reads it. -/
def readStamp (column text : String) : Except StoreError Instant :=
  readColumn (readInstantCell column (.text text))

/-- A stored real as the store reads it: the database keeps no sign of a zero. -/
def readBackReal (x : Float) : Float := if x == 0.0 then 0.0 else x

/-- An upload row as the store reads it back, once its timestamps and protocol data are read. -/
def UploadRow.readWith (o : UploadRow) (startedAt : Instant) (completedAt : Option Instant)
    (data : ProtocolData) (lastCheck : Option Instant) : Record :=
  { id := o.id, nodeName := o.nodeName, protocol := o.protocol, nodeType := o.nodeType,
    startedAt, completedAt, status := o.status, trigger := o.trigger, protocolData := data,
    progressPercent := o.progressPercent.map readBackReal,
    chunksCompleted := o.chunksCompleted, chunksTotal := o.chunksTotal,
    lastProgressCheck := lastCheck, totalChunks := o.totalChunks,
    completionMessage := o.completionMessage, errorMessage := o.errorMessage }

theorem readStamp_of_decode {column text : String} {t : Instant} (h : decodeStamp text = some t) :
    readStamp column text = .ok t := by
  unfold readStamp readColumn readInstantCell
  simp only [h]
  rfl

/-- A stored timestamp reads back as the instant it was written from. -/
theorem readStamp_rfc3339Offset (column : String) {t : Instant} (ht : t.Storable) :
    readStamp column t.rfc3339Offset = .ok t :=
  readStamp_of_decode (decodeStamp_rfc3339Offset ht)

section Cells

variable {row : ResultRow} {c : String}

theorem ResultRow.text_of_cell {s : String} (h : row.cell c = .text s) : row.text c = .ok s := by
  rw [ResultRow.text, h]

theorem ResultRow.integer_of_cell {n : Int} (h : row.cell c = .integer n) :
    row.integer c = .ok n := by
  rw [ResultRow.integer, h]

theorem ResultRow.instant_of_cell {s : String} (h : row.cell c = .text s) :
    readColumn (row.instant c) = readStamp c s := by
  rw [ResultRow.instant, h]
  rfl

theorem ResultRow.text?_of_cell {v : Option String} (h : row.cell c = optionCell .text v) :
    row.text? c = .ok v := by
  rw [ResultRow.text?, h]
  cases v <;> rfl

theorem ResultRow.integer?_of_cell {v : Option Int} (h : row.cell c = optionCell .integer v) :
    row.integer? c = .ok v := by
  rw [ResultRow.integer?, h]
  cases v <;> rfl

theorem ResultRow.real?_of_cell {v : Option Float} (h : row.cell c = optionCell storedReal v) :
    row.real? c = .ok (v.map readBackReal) := by
  rw [ResultRow.real?, h]
  cases v with
  | none => rfl
  | some x =>
    by_cases hx : (x == 0.0) = true
    · simp only [optionCell, storedReal, readBackReal, hx, if_true, Option.map_some]
    · simp only [optionCell, storedReal, readBackReal, hx, Bool.false_eq_true, if_false,
        Option.map_some]

theorem ResultRow.instant?_of_cell {v : Option String} (h : row.cell c = optionCell .text v) :
    readColumn (row.instant? c) = v.mapM (readStamp c) := by
  rw [ResultRow.instant?, h]
  cases v with
  | none => rfl
  | some s =>
    show readColumn (some <$> readInstantCell c (.text s)) = some <$> readStamp c s
    unfold readStamp readColumn
    cases readInstantCell c (.text s) <;> rfl

end Cells

/-- Read column by column, an upload row decodes its timestamps and its protocol data, in the
reader's order, and is otherwise read back as it is. -/
theorem UploadRow.toRecord_cells (o : UploadRow) :
    ResultRow.toRecord ⟨uploadColumns, o.cells⟩ = (do
      let startedAt ← readStamp "started_at" o.startedAt
      let completedAt ← o.completedAt.mapM (readStamp "completed_at")
      let data ← readProtocolData o.protocolData
      let lastCheck ← o.lastProgressCheck.mapM (readStamp "last_progress_check")
      pure (o.readWith startedAt completedAt data lastCheck)) := by
  unfold ResultRow.toRecord
  -- each optional column is named with its value, so that the discharger finds the cell
  simp [ResultRow.text_of_cell, ResultRow.integer_of_cell, ResultRow.instant_of_cell,
    ResultRow.text?_of_cell (v := o.completionMessage), ResultRow.text?_of_cell (v := o.errorMessage),
    ResultRow.integer?_of_cell (v := o.chunksCompleted), ResultRow.integer?_of_cell (v := o.chunksTotal),
    ResultRow.integer?_of_cell (v := o.totalChunks), ResultRow.real?_of_cell (v := o.progressPercent),
    ResultRow.instant?_of_cell (v := o.completedAt),
    ResultRow.instant?_of_cell (v := o.lastProgressCheck), ResultRow.cell, uploadColumns,
    UploadRow.cells, List.findIdx?_cons, readColumn_ok, except_ok_bind, Status.parse_name,
    Trigger.parse_name]
  rfl

/-- A row that reads back keeps its id, node, status and trigger. -/
theorem UploadRow.toRecord_ok {o : UploadRow} {r : Record}
    (h : ResultRow.toRecord ⟨uploadColumns, o.cells⟩ = .ok r) :
    r.id = o.id ∧ r.nodeName = o.nodeName ∧ r.status = o.status ∧ r.trigger = o.trigger := by
  rw [UploadRow.toRecord_cells] at h
  simp only [except_bind_eq_ok] at h
  obtain ⟨_, -, _, -, _, -, _, -, h⟩ := h
  cases h
  exact ⟨rfl, rfl, rfl, rfl⟩

end SnapshotAgent.Store

namespace SnapshotAgent.Upload

open SnapshotAgent.Store SnapshotAgent.Time

/-! ## The row of a new upload -/

/-- The record a new upload reads back as: running, with no completion, its percentage as the
database keeps it, and everything else as given. -/
def NewUpload.stored (u : NewUpload) (id : Int) : Record :=
  { id, nodeName := u.nodeName, protocol := u.protocol, nodeType := u.nodeType,
    startedAt := u.startedAt, completedAt := none, status := .running, trigger := u.trigger,
    protocolData := u.protocolData,
    progressPercent := (storablePercent u.progressPercent).map readBackReal,
    chunksCompleted := u.chunksCompleted, chunksTotal := u.chunksTotal,
    lastProgressCheck := u.lastProgressCheck, totalChunks := none, completionMessage := none,
    errorMessage := none }

/-- What the new upload's values must be for its row to read back: timestamps the store can write
and decode, and protocol data of integers and sorted keys, nested no deeper than the reader
allows. -/
structure NewUpload.Readable (u : NewUpload) : Prop where
  started : u.startedAt.Storable
  checked : ∀ t ∈ u.lastProgressCheck, t.Storable
  data : Json.Canonical (.obj u.protocolData)
  nesting : Json.nesting (.obj u.protocolData) ≤ 127

/-- A patch whose times, its completion and its progress check, are instants the store can write. -/
def Patch.StorableTimes (p : Patch) : Prop :=
  (∀ t ∈ p.completedAt, t.Storable) ∧ ∀ t ∈ p.lastProgressCheck, t.Storable

end SnapshotAgent.Upload

namespace SnapshotAgent.Store

open SnapshotAgent.Upload SnapshotAgent.Time

/-! ## Looking up one row -/

section Filters

variable {sc : Scope} {s : UploadTables} {o : UploadRow}

theorem evalExpr_idIs (h : RowScope sc s.uploadsT o.row) (fuel : Nat) (id : Int) :
    evalExpr (fuel + 2) sc (eqExpr (.col "id") (intLit id)) = .ok (ofBool (o.id == id)) := by
  rw [eqExpr, intLit, evalExpr_compare_col_lit (h.find_uploads rfl uploads_columnIndex.1) .eq
    (.inl rfl)]
  simp [UploadRow.cells, uploadsColumn_affinity, comparisonAffinity, compareUnder,
    Cell.applyAffinity, Cell.compareWith, BinOp.accepts]

end Filters

section Checks

variable {n : Names} (hn : n.frames = [[uploadsTable.sourceShape "uploads"]])
include hn

theorem checkExpr_idIs (fuel : Nat) (id : Int) :
    checkExpr (fuel + 2) n (eqExpr (.col "id") (intLit id)) = .ok () :=
  checkExpr_columnIs hn fuel (by decide) _

end Checks

namespace UploadTables

variable (s : UploadTables)

/-- The upload of an id is read from the first row of that id. -/
theorem getUpload_eq (id : Int) :
    s.db.getUpload id =
      match (s.uploads.filter (·.id == id)).head? with
      | some o => some <$> ResultRow.toRecord ⟨uploadColumns, o.cells⟩
      | none => pure none := by
  unfold Database.getUpload Database.uploadRow?
  rw [selectRows_uploadsQuery s (fun n hn => checkExpr_idIs hn 1995 id)
    (fun sc o h => evalExpr_idIs h 1995 id) (by simp) none]
  simp only [keepFirst, List.isEmpty_nil, if_true, except_ok_bind, List.head?_map]
  rcases List.head? _ with _ | o <;> rfl

end UploadTables

/-! ## Rows a run writes read back -/

/-- A text the store wrote for a timestamp: an instant it can write, in its stored form. -/
def StoredStamp (text : String) : Prop := ∃ t : Instant, t.Storable ∧ text = t.rfc3339Offset

/-- A row the reader decodes: its timestamps are texts the store wrote, and its protocol data is
canonical JSON in compact form, nested no deeper than the reader allows. -/
structure UploadRow.Decodable (o : UploadRow) : Prop where
  started : StoredStamp o.startedAt
  completed : ∀ text ∈ o.completedAt, StoredStamp text
  checked : ∀ text ∈ o.lastProgressCheck, StoredStamp text
  data : ∃ d : ProtocolData, Json.Canonical (.obj d) ∧ Json.nesting (.obj d) ≤ 127 ∧
    o.protocolData = Json.compact (.obj d)

theorem readStamp_of_stored (column : String) {text : String} (h : StoredStamp text) :
    ∃ t, readStamp column text = .ok t := by
  obtain ⟨t, ht, rfl⟩ := h
  exact ⟨t, readStamp_rfc3339Offset column ht⟩

theorem mapM_readStamp_of_stored (column : String) :
    ∀ {o : Option String}, (∀ text ∈ o, StoredStamp text) →
      ∃ t, o.mapM (readStamp column) = .ok t
  | none, _ => ⟨none, rfl⟩
  | some text, h => by
    obtain ⟨t, ht⟩ := readStamp_of_stored column (h text rfl)
    refine ⟨some t, ?_⟩
    show some <$> readStamp column text = _
    rw [ht]
    rfl

/-- A decodable row reads back. -/
theorem UploadRow.Decodable.toRecord_ok {o : UploadRow} (h : o.Decodable) :
    ∃ r, ResultRow.toRecord ⟨uploadColumns, o.cells⟩ = .ok r := by
  obtain ⟨start, hstart⟩ := readStamp_of_stored "started_at" h.started
  obtain ⟨finish, hfinish⟩ := mapM_readStamp_of_stored "completed_at" h.completed
  obtain ⟨check, hcheck⟩ := mapM_readStamp_of_stored "last_progress_check" h.checked
  obtain ⟨d, hd, hn, hdata⟩ := h.data
  have hread : readProtocolData o.protocolData = .ok d := by
    rw [hdata]
    unfold readProtocolData
    rw [Json.parseObject_compact hd hn]
  rw [UploadRow.toRecord_cells, hstart, except_ok_bind, hfinish, except_ok_bind, hread,
    except_ok_bind, hcheck]
  exact ⟨_, rfl⟩

/-- The row written for a readable new upload is decodable. -/
theorem decodable_toRow {u : NewUpload} (hu : u.Readable) (id : Int) :
    (u.toRow (Json.compact (.obj u.protocolData)) id).Decodable where
  started := ⟨_, hu.started, rfl⟩
  completed := fun _ h => nomatch h
  checked := by
    intro text htext
    obtain ⟨t, ht, rfl⟩ := Option.map_eq_some_iff.1 htext
    exact ⟨t, hu.checked t ht, rfl⟩
  data := ⟨u.protocolData, hu.data, hu.nesting, rfl⟩

/-- A time a patch may write over a stored one is still a stored timestamp. -/
theorem storedStamp_or {new : Option Instant} (hnew : ∀ t ∈ new, t.Storable)
    {old : Option String} (hold : ∀ text ∈ old, StoredStamp text) :
    ∀ text ∈ (new.map Instant.rfc3339Offset).or old, StoredStamp text := by
  cases new with
  | none => exact hold
  | some t =>
    intro text htext
    -- the new time is written in the stored form
    have htext' : text = t.rfc3339Offset := (Option.some.inj htext).symm
    subst htext'
    exact ⟨t, hnew t rfl, rfl⟩

/-- Merging a patch with storable times keeps a row decodable: it writes its times as stored
timestamps and leaves the start and the protocol data alone. -/
theorem UploadRow.Decodable.patch {o : UploadRow} (h : o.Decodable) {p : Patch}
    (hp : p.StorableTimes) : (o.patch p).Decodable where
  started := h.started
  completed := storedStamp_or hp.1 h.completed
  checked := storedStamp_or hp.2 h.checked
  data := h.data

/-- A write whose values the store writes in forms it reads back: a readable new upload, or a
patch with storable times applied at an instant the store can write, the time of a reading
without one of its own. -/
def StoreWrite.Readable : StoreWrite → Prop
  | .create u => u.Readable
  | .update p now => p.StorableTimes ∧ now.Storable

namespace UploadTables

/-- A readable write keeps every row of a state decodable. -/
theorem applyWrite_decodable {s : UploadTables} (hs : ∀ o ∈ s.uploads, o.Decodable)
    {w : StoreWrite} (hw : w.Readable) : ∀ o ∈ (s.applyWrite w).uploads, o.Decodable := by
  cases w with
  | create u =>
    rw [applyWrite]
    cases h : s.create u with
    | error e => exact hs
    | ok r =>
      obtain ⟨s', k⟩ := r
      obtain ⟨-, -, -, hup, -⟩ := create_ok h
      intro o ho
      rw [show (acceptedOr (.ok (s', k)) s : UploadTables) = s' from rfl, hup] at ho
      rcases List.mem_append.1 ho with ho | ho
      · exact hs o ho
      · rw [List.mem_singleton.1 ho]
        exact decodable_toRow hw _
  | update p now =>
    rw [applyWrite]
    cases h : s.update p now with
    | error e => exact hs
    | ok r =>
      obtain ⟨s', b⟩ := r
      intro o ho
      rw [show (acceptedOr (.ok (s', b)) s : UploadTables) = s' from rfl] at ho
      rcases update_ok h with ⟨-, rfl⟩ | ⟨-, v, hv, -, hup, -⟩
      · exact hs o ho
      · -- the patched row is the merge of a decodable row; every other row is as it was
        rw [hup] at ho
        rcases mem_setUpload_cases ho with rfl | ⟨ho, -⟩
        · exact (hs v (target_spec hv).1).patch hw.1
        · exact hs o ho

theorem foldl_decodable {s : UploadTables} (hs : ∀ o ∈ s.uploads, o.Decodable)
    {ws : List StoreWrite} (hws : ∀ w ∈ ws, w.Readable) :
    ∀ o ∈ (ws.foldl applyWrite s).uploads, o.Decodable := by
  induction ws generalizing s with
  | nil => exact hs
  | cons w ws ih =>
    exact ih (applyWrite_decodable hs (hws w List.mem_cons_self))
      fun w' hw' => hws w' (List.mem_cons_of_mem w hw')

/-- Every row a run of readable writes leaves on a new store is decodable. -/
theorem run_decodable {ws : List StoreWrite} (hws : ∀ w ∈ ws, w.Readable) :
    ∀ o ∈ (run ws).uploads, o.Decodable :=
  foldl_decodable (fun _ h => absurd h List.not_mem_nil) hws

end UploadTables

end SnapshotAgent.Store
