import SnapshotAgent.Upload.Snapshot
import SnapshotAgent.Upload.Status
import SnapshotAgent.Json.Basic
import SnapshotAgent.Time.Text
/-!
# Upload records and patches

An upload record is one upload run as the store keeps it: which node, when it started and ended,
its status and trigger, the protocol data captured at its start, and the progress last seen.

A record is created running, and changes only by patches. A patch names the record and the
columns it sets; a column it leaves out keeps its value. `Patch.progress` refreshes the progress
of a running upload; `Patch.finish` ends one, with the final counts and the tool's status line.

`Patch.validate` refuses a patch that would leave the record inconsistent: back to running, a
terminal status without completion time or a completion time without terminal status, a
percentage that is not a finite number from 0 to 100, or more chunks completed than there are.
-/

namespace SnapshotAgent.Upload

open SnapshotAgent.Time

/-- Protocol data: JSON members sorted by key. -/
abbrev ProtocolData := List (String × Json)

/-- One upload run as stored. -/
structure Record where
  id : Int
  nodeName : String
  protocol : String
  nodeType : String
  startedAt : Instant
  completedAt : Option Instant
  status : Status
  trigger : Trigger
  protocolData : ProtocolData
  progressPercent : Option Float
  chunksCompleted : Option Int
  chunksTotal : Option Int
  lastProgressCheck : Option Instant
  totalChunks : Option Int
  completionMessage : Option String
  errorMessage : Option String
  deriving Inhabited

/-- How long the upload ran: to its completion, or to `now` while it runs. -/
def Record.elapsed (r : Record) (now : Instant) : Span :=
  (r.completedAt.getD now).since r.startedAt

/-- The values of a record about to be created; it is created running. -/
structure NewUpload where
  nodeName : String
  protocol : String
  nodeType : String
  startedAt : Instant
  trigger : Trigger
  protocolData : ProtocolData := []
  progressPercent : Option Float := none
  chunksCompleted : Option Int := none
  chunksTotal : Option Int := none
  lastProgressCheck : Option Instant := none
  deriving Inhabited

/-- Whether a new record carries progress. -/
def NewUpload.hasProgress (u : NewUpload) : Bool :=
  u.progressPercent.isSome || u.chunksCompleted.isSome || u.chunksTotal.isSome

/-- A change to a record; `none` leaves a column as it is. -/
structure Patch where
  id : Int
  status : Option Status := none
  completedAt : Option Instant := none
  progressPercent : Option Float := none
  chunksCompleted : Option Int := none
  chunksTotal : Option Int := none
  lastProgressCheck : Option Instant := none
  totalChunks : Option Int := none
  completionMessage : Option String := none
  errorMessage : Option String := none
  deriving Inhabited

/-- A patch refreshing the progress of a running upload from the tool's report. -/
def Patch.progress (id : Int) (s : Snapshot) (checkedAt : Instant) : Patch :=
  { id, progressPercent := s.progressPercent, chunksCompleted := s.chunksCompleted,
    chunksTotal := s.chunksTotal, lastProgressCheck := some checkedAt }

/-- A patch ending an upload: the final counts, the status line as completion message, and the
same line as error message when the upload failed. -/
def Patch.finish (id : Int) (status : Status) (completedAt : Instant) (s : Snapshot) : Patch :=
  { id, status := some status, completedAt := some completedAt,
    progressPercent := s.progressPercent, chunksCompleted := s.chunksCompleted,
    chunksTotal := s.chunksTotal, lastProgressCheck := some completedAt,
    totalChunks := s.chunksTotal, completionMessage := s.completionMessage,
    errorMessage := if status = .failed then s.completionMessage else none }

/-- Whether the patch moves its record to a terminal status. -/
def Patch.isTerminal (p : Patch) : Bool := p.status.any Status.isTerminal

/-- Whether the patch carries progress. -/
def Patch.hasProgress (p : Patch) : Bool :=
  p.progressPercent.isSome || p.chunksCompleted.isSome || p.chunksTotal.isSome

/-- Whether a percentage is a finite number from 0 to 100. -/
def isPercent (x : Float) : Bool := !x.isNaN && !x.isInf && 0.0 ≤ x && x ≤ 100.0

/-- Why the patch would leave its record inconsistent, if it would. -/
def Patch.refusal (p : Patch) : Option String :=
  match p.status, p.completedAt with
  | some .running, _ => some "a patch cannot move an upload back to running"
  | some _, none => some "a terminal status requires completed_at"
  | none, some _ => some "completed_at can only be set together with a terminal status"
  | _, _ =>
    match p.progressPercent with
    | some x =>
      if isPercent x then chunkRefusal
      else some ("progress_percent out of range: " ++ Number.positional x)
    | none => chunkRefusal
where
  chunkRefusal : Option String :=
    match p.chunksCompleted, p.chunksTotal with
    | some c, some t =>
      if c > t then some ("chunks_completed (" ++ toString c ++ ") exceeds chunks_total (" ++
        toString t ++ ")")
      else none
    | _, _ => none

/-- A progress patch never changes the status. -/
theorem Patch.progress_status (id : Int) (s : Snapshot) (t : Instant) :
    (Patch.progress id s t).status = none := rfl

/-- A finishing patch is terminal exactly when its status is. -/
theorem Patch.finish_isTerminal (id : Int) (st : Status) (t : Instant) (s : Snapshot) :
    (Patch.finish id st t s).isTerminal = st.isTerminal := by
  simp [Patch.finish, Patch.isTerminal]

end SnapshotAgent.Upload
