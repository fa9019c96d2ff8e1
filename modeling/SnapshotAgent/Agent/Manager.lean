import SnapshotAgent.Agent.Host
/-!
# The upload manager

The manager is the one part of the agent that drives the node tool and writes upload rows. It
reconciles three views of an upload: what the caller asks for, the stored row, and what the tool
reports.

* `checkStatus` asks the tool for the node's upload job. A tool that exits non-zero while saying
  that no job exists reports an idle node, not a failure.
* `shouldSkip` is true when the store already has a running row for the node, or else when the
  tool reports a running job.
* `initiate` starts an upload with the tool and then records it as running; nothing is written
  when the tool fails. Discovered uploads are recorded, never started.
* `createRecord` records an upload the tool is already running, taking its start time and
  progress from the tool's report when one is given.
* `monitorProgress` reconciles one tracked upload: a running job refreshes the progress; an ended
  job finishes the row, as `failed` when the policy says a non-zero exit code is a failure. A row
  that is no longer running is left as it is.
-/

namespace SnapshotAgent.Agent

open SnapshotAgent.Time SnapshotAgent.Upload SnapshotAgent.Tool

/-- What the caller asks to record for a node. -/
structure UploadRequest where
  node : String
  protocol : String
  nodeType : String
  trigger : Trigger
  protocolData : ProtocolData
  deriving Inhabited

/-- A request for a configured node. -/
def UploadRequest.forNode (spec : Config.NodeSpec) (trigger : Trigger) (data : ProtocolData) :
    UploadRequest :=
  ⟨spec.name, spec.protocol, spec.nodeType, trigger, data⟩

/-- How reconciling one upload ended. -/
inductive Reconciled where
  /-- Still running; the progress was refreshed. -/
  | running
  /-- Finished as completed by this reconciliation. -/
  | completed
  /-- Finished as failed by this reconciliation. -/
  | failed
  /-- The row was missing or already finished; nothing was written. -/
  | unchanged
  deriving Repr, DecidableEq, Inhabited

/-- The outcome's name. -/
def Reconciled.name : Reconciled → String
  | .running => "running"
  | .completed => "completed"
  | .failed => "failed"
  | .unchanged => "unchanged"

/-- Whether this reconciliation finished the upload. -/
def Reconciled.isTerminal : Reconciled → Bool
  | .completed | .failed => true
  | _ => false

/-- The manager: the tool's program and the failure policy for exit codes. -/
structure Manager where
  tool : String
  nonzeroExitIsFailure : Bool := false
  deriving Inhabited

/-- The arguments that ask the tool about a node's upload job. -/
def infoArgs (node : String) : List String := ["node", "job", node, "info", "upload"]

/-- The arguments that start a node's upload. -/
def startArgs (node : String) : List String := ["node", "run", "upload", node]

/-- The tool's report on a node's upload job. -/
def Manager.checkStatus (m : Manager) (node : String) : Run Snapshot := do
  match ← invoke m.tool (infoArgs node) with
  | .ok out => pure (Snapshot.parse out.stdout)
  | .error (.exit program code stdout stderr) =>
    if hasSentinel stderr || hasSentinel stdout then
      let raw := if (Text.trim stderr).isEmpty then stdout else stderr
      pure (Snapshot.notRunning (Text.trim raw))
    else throw (.command (.exit program code stdout stderr))
  | .error e => throw (.command e)

/-- Whether a new upload for the node must not start now. -/
def Manager.shouldSkip (m : Manager) (node : String) : Run Bool := do
  if (← readStore (·.runningFor node)).isSome then return true
  return (← m.checkStatus node).isRunning

/-- Records an upload as running, seeded from a tool report when given. -/
def Manager.insert (req : UploadRequest) (seed : Option Snapshot) : Run Int := do
  let t ← now
  let upload : NewUpload := {
    nodeName := req.node, protocol := req.protocol, nodeType := req.nodeType,
    startedAt := (seed.bind (·.startedAt)).getD t, trigger := req.trigger,
    protocolData := req.protocolData,
    progressPercent := seed.bind (·.progressPercent),
    chunksCompleted := seed.bind (·.chunksCompleted),
    chunksTotal := seed.bind (·.chunksTotal),
    lastProgressCheck := if seed.any (·.hasProgress) then some t else none }
  writeStore (·.createUpload upload)

/-- Starts an upload with the tool, then records it as running. -/
def Manager.initiate (m : Manager) (req : UploadRequest) : Run Int := do
  if req.trigger = .discovered then
    throw (.config ("node '" ++ req.node ++ "': discovered uploads are recorded, not initiated"))
  let _ ← invokeOk m.tool (startArgs req.node)
  Manager.insert req none

/-- Records an upload the tool already runs. -/
def Manager.createRecord (req : UploadRequest) (seed : Option Snapshot) : Run Int :=
  Manager.insert req seed

/-- Reconciles one tracked upload with the tool's report. -/
def Manager.monitorProgress (m : Manager) (id : Int) (node : String) : Run Reconciled := do
  let s ← m.checkStatus node
  let t ← now
  if s.isRunning then
    let applied ← writeStore (·.updateUpload (Patch.progress id s t) t)
    return if applied then .running else .unchanged
  let status := if m.nonzeroExitIsFailure && s.exitedWithFailure then Status.failed
    else Status.completed
  let applied ← writeStore (·.updateUpload (Patch.finish id status t s) t)
  if !applied then return .unchanged
  return if status = .failed then .failed else .completed

/-- Only a finished upload ends a reconciliation in a terminal outcome. -/
theorem Reconciled.isTerminal_iff (r : Reconciled) :
    r.isTerminal = true ↔ r = .completed ∨ r = .failed := by
  cases r <;> simp [Reconciled.isTerminal]

end SnapshotAgent.Agent
