import SnapshotAgent.Agent.Manager
/-!
# The agent's jobs

Two jobs do the agent's work.

The node job runs one node's tick: it skips when an upload is already running, collects the
protocol metrics (a failed collection is stored as `{error: <reason>}`; only cancellation stops
the tick), starts the upload, and notifies. An insert that loses the race for the node's running
row is a skip, not a failure.

The monitor job runs one global tick: it lists the running rows, then looks for uploads the tool
runs for nodes without one (discovery), then reconciles every running row with the tool. The
nodes of one phase are handled side by side; a failure of one is counted and does not stop the
others. A reconciliation that finishes an upload notifies the node, with details read from the
finished row.

Notifications go to every transport the node's settings name, when they enable the event; a
transport that is not registered or fails is passed over.
-/

namespace SnapshotAgent.Agent

open SnapshotAgent.Time SnapshotAgent.Upload SnapshotAgent.Notify

/-- Sends a notification to the transports of some settings that enable its event; answers how
many accepted it. -/
def dispatch (notifiers : Notifiers) (settings : Option Config.NotificationConfig)
    (p : Payload) : HostM Nat := do
  match settings with
  | none => pure 0
  | some c =>
    if !enabled c p.event then return 0
    let results ← c.targets.mapM fun (kind, url) => do
      match notifiers.find kind with
      | .error _ => pure false
      | .ok n => return (← deliver n url p).isOk
    pure (results.filter id).length

/-- What a node tick did. -/
inductive JobOutcome where
  | initiated (id : Int)
  | skipped
  deriving Repr, DecidableEq, Inhabited

/-- One node's upload job. -/
structure NodeJob where
  node : Config.NodeSpec
  trigger : Trigger := .scheduled
  manager : Manager
  protocols : Metrics.Protocols
  notifiers : Notifiers

/-- The job's name. -/
def NodeJob.name (j : NodeJob) : String := "upload:" ++ j.node.name

/-- A notification of this job's node. -/
def NodeJob.payload (j : NodeJob) (event : Event) (message : String) : HostM Payload := do
  let p : Payload := { event, node := j.node.name, timestamp := ← now, message }
  pure ((p.withDetail "protocol" (.str j.node.protocol)).withDetail "trigger" (.str j.trigger.name))

/-- Notifies a skip. -/
def NodeJob.notifySkip (j : NodeJob) (message : String) : HostM Unit := do
  let _ ← dispatch j.notifiers j.node.notifications (← j.payload .skip message)

/-- Notifies a failure, unless it was a cancellation. -/
def NodeJob.notifyFailure (j : NodeJob) (message : String) (e : Failure) : HostM Unit := do
  if e.isCancelled then return
  let p ← j.payload .failure message
  let _ ← dispatch j.notifiers j.node.notifications (p.withDetail "error" (.str e.message))

/-- The node's protocol data; a failed collection is recorded as its error. -/
def NodeJob.protocolData (j : NodeJob) : Run ProtocolData := do
  let collected ← match j.protocols.find j.node.protocol with
    | .ok m => collect m j.node
    | .error e => pure (.error e)
  match collected with
  | .ok data => pure data
  | .error .cancelled => throw .cancelled
  | .error e => pure [("error", .str e.message)]

/-- Runs the node's tick. -/
def NodeJob.execute (j : NodeJob) : Run JobOutcome := do
  let skip ← tryCatch (j.manager.shouldSkip j.node.name) fun e => do
    j.notifyFailure "Upload skip check failed" e
    throw e
  if skip then
    j.notifySkip "Upload skipped: an upload is already running for this node"
    return .skipped
  let data ← j.protocolData
  let req := UploadRequest.forNode j.node j.trigger data
  tryCatch (.initiated <$> j.manager.initiate req) fun e => do
    if e.isConflict then
      j.notifySkip "Upload skipped: another upload for this node started first"
      return .skipped
    j.notifyFailure "Upload initiation failed" e
    throw e

/-- What one monitor tick found. -/
structure MonitorReport where
  discovered : List (String × Int) := []
  stillRunning : List Int := []
  completed : List Int := []
  failed : List Int := []
  errors : Nat := 0
  deriving Repr, Inhabited

/-- The monitor job over the configured nodes. -/
structure MonitorJob where
  nodes : List Config.NodeSpec
  manager : Manager
  protocols : Metrics.Protocols
  notifiers : Notifiers

/-- Records an upload the tool runs for an untracked node; none when the tool runs nothing or
another writer recorded it first. -/
def MonitorJob.discoverNode (j : MonitorJob) (node : Config.NodeSpec) : Run (Option Int) := do
  let s ← j.manager.checkStatus node.name
  if !s.isRunning then return none
  let data ← match j.protocols.find node.protocol with
    | .ok m => do
      match ← collect m node with
      | .ok data => pure data
      | .error _ => pure []
    | .error _ => pure []
  let req := UploadRequest.forNode node .discovered data
  tryCatch (some <$> Manager.createRecord req (some s)) fun e =>
    if e.isConflict then pure none else throw e

/-- The notification of a finished upload, from its stored row when it can be read. -/
def finishedPayload (event : Event) (r : Record) : HostM Payload := do
  let stored ← (readStore (·.db.getUpload r.id)).run
  let finished := match stored with
    | .ok (some row) => row
    | _ => r
  let message := match event with
    | .failure => "Upload for node " ++ finished.nodeName ++ " finished with an error"
    | _ => "Upload for node " ++ finished.nodeName ++ " completed"
  let t ← now
  let p : Payload := { event, node := finished.nodeName, timestamp := t, message }
  let p := ((((p.withDetail "upload_id" (.int finished.id)).withDetail "protocol"
    (.str finished.protocol)).withDetail "trigger" (.str finished.trigger.name)).withDetail
    "duration_secs" (.int (finished.elapsed t).wholeSeconds))
  let p := match finished.totalChunks with
    | some total => p.withDetail "total_chunks" (.int total)
    | none => p
  pure (match finished.errorMessage.orElse fun _ => finished.completionMessage with
    | some m => p.withDetail "status" (.str m)
    | none => p)

/-- Reconciles one running row and notifies its node when it finished. -/
def MonitorJob.reconcileRecord (j : MonitorJob) (r : Record) : HostM (Option Reconciled) := do
  match ← (j.manager.monitorProgress r.id r.nodeName).run with
  | .error _ => pure none
  | .ok outcome =>
    let event := match outcome with
      | .completed => some Event.complete
      | .failed => some Event.failure
      | _ => none
    if let some ev := event then
      if let some node := j.nodes.find? (·.name == r.nodeName) then
        let p ← finishedPayload ev r
        let _ ← dispatch j.notifiers node.notifications p
    pure (some outcome)

/-- Runs one monitor tick. -/
def MonitorJob.execute (j : MonitorJob) : Run MonitorReport := do
  let records ← readStore (·.allRunning)
  let untracked := j.nodes.filter fun n => !records.any (·.nodeName == n.name)
  let found ← group (untracked.map fun n => do
    return (n.name, ← (j.discoverNode n).run))
  let reconciled ← group (records.map fun r => do
    return (r.id, ← j.reconcileRecord r))
  let report : MonitorReport := found.foldl (fun rep (name, res) =>
    match res with
    | .ok (some id) => { rep with discovered := rep.discovered ++ [(name, id)] }
    | .ok none => rep
    | .error _ => { rep with errors := rep.errors + 1 }) {}
  pure (reconciled.foldl (fun rep (id, res) =>
    match res with
    | some .running => { rep with stillRunning := rep.stillRunning ++ [id] }
    | some .completed => { rep with completed := rep.completed ++ [id] }
    | some .failed => { rep with failed := rep.failed ++ [id] }
    | some .unchanged => rep
    | none => { rep with errors := rep.errors + 1 }) report)

end SnapshotAgent.Agent
