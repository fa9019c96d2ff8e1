import SnapshotAgent.Proofs.Store.Merge
/-!
# The outcomes of a patch

Applying a patch is one transaction: validation first, then the conditional update of the running
row of the patch's id, then, when a row changed and the patch carries progress, a reading appended
to the history. Every refusal comes before anything is written, or rolls back what was, so the
store is left exactly as it was whenever the operation fails.

On the database of a sound state (`Database.updateUpload_eq`) the operation has five outcomes,
decided by conditions that exclude one another (`update_all_or_nothing`):

* validation refuses the patch, with its reason;
* no running row has the patch's id, and nothing changes;
* the merged row keeps the table's constraints: the row is replaced by the merge, and the history
  gains exactly one reading, timed at the patch's progress check, else its completion, else the
  clock, when the patch carries progress;
* the merged row breaks a constraint, which validation cannot see when the patch gives one chunk
  count and the row the other: the engine refuses the check;
* the merge keeps the constraints and carries progress, but the history's ids are used up: the
  engine reports the database full.
-/

namespace SnapshotAgent.Store

open SnapshotAgent.Upload SnapshotAgent.Time

namespace UploadTables

variable {S : UploadTables}

/-- The refusal of an engine that has used up a table's ids. -/
def fullError : StoreError := .database (engineError 13 "database or disk is full")

/-- Setting a row leaves the history's next id. -/
theorem nextId_progress_setUpload (v : UploadRow) :
    (S.setUpload v).nextId (S.setUpload v).progressT = S.nextId S.progressT := by
  unfold UploadTables.nextId UploadTables.setUpload
  rw [UploadTables.sequenceOf_uploads]
  rfl

/-- Appending a reading when ids remain: the history gains it with the next id. -/
theorem appendReading_of_le (uploadId : Int) (checkedAt : Instant) (percent : Option Float)
    (done total : Option Int) (hle : S.nextId S.progressT ≤ maxInteger) :
    ∃ S', S.appendReading uploadId checkedAt percent done total = .ok S' ∧ S'.uploads = S.uploads ∧
      S'.progress = S.progress ++ [progressRow (S.nextId S.progressT) uploadId checkedAt percent
        done total] := by
  unfold appendReading
  rw [if_neg (Int.not_lt.2 hle)]
  exact ⟨_, rfl, rfl, rfl⟩

/-- A patch of a running row whose merge keeps the constraints, on a sound state, is the merge,
followed by the reading when the patch carries progress. -/
theorem update_of_target (hS : S.Sound) {p : Patch} (hp : p.refusal = none) {r : UploadRow}
    (hr : r ∈ S.uploads) (hid : r.id = p.id) (hrun : r.status = .running)
    (hk : (r.patch p).consistent = true) (now : Instant) :
    S.update p now =
      if p.hasProgress then
        (·, true) <$> (S.setUpload (r.patch p)).appendReading p.id
          ((p.lastProgressCheck.orElse fun _ => p.completedAt).getD now) p.progressPercent
          p.chunksCompleted p.chunksTotal
      else .ok (S.setUpload (r.patch p), true) := by
  unfold update
  rw [hp, target_eq_some hS hr hid hrun]
  dsimp only
  rw [(UploadRow.brokenCheck_eq_none _).2 hk]

/-- A patch of a running row whose merge keeps the constraints but carries progress, once the
history has used up its ids, is refused as the database full: the reading finds no id. -/
theorem update_of_full (hS : S.Sound) {p : Patch} (hp : p.refusal = none) {r : UploadRow}
    (hr : r ∈ S.uploads) (hid : r.id = p.id) (hrun : r.status = .running)
    (hk : (r.patch p).consistent = true) (hprog : p.hasProgress = true)
    (hfull : maxInteger < S.nextId S.progressT) (now : Instant) :
    S.update p now = .error fullError := by
  rw [update_of_target hS hp hr hid hrun hk, hprog, if_pos rfl]
  unfold appendReading
  rw [nextId_progress_setUpload, if_pos hfull]
  rfl

/-- A running upload of node `n`, with no progress yet. -/
def runningOne : UploadRow :=
  { id := 1, nodeName := "n", protocol := "p", nodeType := "t",
    startedAt := (⟨0, 0, 0⟩ : Instant).rfc3339Offset, completedAt := none, status := .running,
    trigger := .manual, protocolData := "{}", progressPercent := none, chunksCompleted := none,
    chunksTotal := none, lastProgressCheck := none, totalChunks := none, completionMessage := none,
    errorMessage := none }

/-- A store holding that upload, whose record of the history's ids has reached the largest
integer. -/
def historyUsedUp : UploadTables :=
  { uploads := [runningOne],
    sequence := [⟨1, [.text "uploads", .integer 1]⟩, ⟨2, [.text "upload_progress", .integer maxInteger]⟩],
    progress := [] }

theorem historyUsedUp_sound : historyUsedUp.Sound :=
  ⟨List.pairwise_singleton _ _, by simp [historyUsedUp], by simp [historyUsedUp]; decide, rfl⟩

theorem historyUsedUp_full : maxInteger < historyUsedUp.nextId historyUsedUp.progressT := by
  have h := historyUsedUp.sequence_lt_nextId historyUsedUp.progressT
  have hseq : historyUsedUp.db.sequenceOf historyUsedUp.progressT.name = some maxInteger := by
    simp [Database.sequenceOf, historyUsedUp, UploadTables.sequenceT, progressT_name]
  rw [hseq] at h
  exact h

end UploadTables

end SnapshotAgent.Store
