import SnapshotAgent.Proofs.Agent.Threads
import SnapshotAgent.Proofs.Agent.Reconcile
/-!
# The jobs, one atomic step at a time

Each job of the agent, and each part of one that runs beside others, is written here as a
`Thread` whose atomic steps are the job's meetings with what it shares: the store, the node tool,
the metrics of a node, the transports. Between two steps the thread computes what the program
computes. Every such thread is proved equal to its program when it runs alone
(`NodeJob.alone_task`, `MonitorJob.alone_reconcileThread`, `MonitorJob.runAlone_discoverSteps`),
so what is proved of the threads side by side is proved of the jobs.

A dispatch delivers to one transport at a time (`dispatchThread`). A node tick reads the store,
asks the tool, collects the metrics, starts the upload and records it, each as a step of its own
(`NodeJob.steps`). A reconciliation asks the tool and writes its patch (`Manager.monitorSteps`),
then notifies (`MonitorJob.noticeThread`); a discovery asks the tool, collects and records
(`MonitorJob.discoverSteps`).
-/

namespace SnapshotAgent.Agent

open SnapshotAgent.Upload SnapshotAgent.Notify

/-! ## Notifications -/

/-- A dispatch, one delivery at a time. -/
def dispatchThread (notifiers : Notifiers) (settings : Option Config.NotificationConfig)
    (p : Payload) : Thread Nat := do
  match settings with
  | none => pure 0
  | some c =>
    if !enabled c p.event then return 0
    let results ← c.targets.mapM fun (kind, url) => do
      match notifiers.find kind with
      | .error _ => pure false
      | .ok n => return (← Thread.atomic (deliver n url p)).isOk
    pure (results.filter id).length

theorem alone_dispatchThread (notifiers : Notifiers) (settings : Option Config.NotificationConfig)
    (p : Payload) : (dispatchThread notifiers settings p).alone = dispatch notifiers settings p := by
  unfold dispatchThread dispatch
  cases settings with
  | none => rfl
  | some c =>
    dsimp only
    split
    · rfl
    · simp only [Thread.bind_eq, Thread.alone_bind, Thread.alone_mapM]
      -- the targets are the same, and so is each target's step
      congr 1
      congr 1
      funext t
      cases notifiers.find t.1 with
      | error e => rfl
      | ok n =>
        simp only [Thread.alone_bind, Thread.alone_atomic]
        rfl

/-- Notifies a skip, one delivery at a time. -/
def NodeJob.notifySkipThread (j : NodeJob) (message : String) : Thread Unit := do
  let _ ← dispatchThread j.notifiers j.node.notifications (← Thread.atomic (j.payload .skip message))

/-- Notifies a failure other than a cancellation, one delivery at a time. -/
def NodeJob.notifyFailureThread (j : NodeJob) (message : String) (e : Failure) : Thread Unit := do
  if e.isCancelled then return
  let p ← Thread.atomic (j.payload .failure message)
  let _ ← dispatchThread j.notifiers j.node.notifications (p.withDetail "error" (.str e.message))

theorem NodeJob.alone_notifySkipThread (j : NodeJob) (message : String) :
    (j.notifySkipThread message).alone = j.notifySkip message := by
  simp only [NodeJob.notifySkipThread, NodeJob.notifySkip, Thread.bind_eq, Thread.alone_bind,
    Thread.alone_atomic, alone_dispatchThread]
  rfl

theorem NodeJob.alone_notifyFailureThread (j : NodeJob) (message : String) (e : Failure) :
    (j.notifyFailureThread message e).alone = j.notifyFailure message e := by
  unfold NodeJob.notifyFailureThread NodeJob.notifyFailure
  split
  · rfl
  · simp only [Thread.bind_eq, Thread.alone_bind, Thread.alone_atomic, alone_dispatchThread]
    rfl

/-! ## The node tick -/

/-- The skip check: the store's running upload of the node, then the tool's report. -/
def Manager.shouldSkipSteps (m : Manager) (node : String) : ExceptT Failure Thread Bool := do
  if (← Thread.atomicRun (readStore (·.runningFor node))).isSome then return true
  return (← Thread.atomicRun (m.checkStatus node)).isRunning

/-- Starting an upload: the tool starts it, then the store records it. -/
def Manager.initiateSteps (m : Manager) (req : UploadRequest) : ExceptT Failure Thread Int := do
  if req.trigger = .discovered then
    throw (.config ("node '" ++ req.node ++ "': discovered uploads are recorded, not initiated"))
  let _ ← Thread.atomicRun (invokeOk m.tool (startArgs req.node))
  Thread.atomicRun (Manager.insert req none)

/-- The skip check of a node tick, whose failure is notified. -/
def NodeJob.checkSteps (j : NodeJob) : ExceptT Failure Thread Bool :=
  tryCatch (j.manager.shouldSkipSteps j.node.name) fun e => do
    j.notifyFailureThread "Upload skip check failed" e
    throw e

/-- What a node tick does once its skip check has answered: a skip, or the metrics, then the
start of the upload and its record. -/
def NodeJob.afterCheck (j : NodeJob) (skip : Bool) : ExceptT Failure Thread JobOutcome := do
  if skip then
    j.notifySkipThread "Upload skipped: an upload is already running for this node"
    return .skipped
  let data ← Thread.atomicRun j.protocolData
  let req := UploadRequest.forNode j.node j.trigger data
  tryCatch (.initiated <$> j.manager.initiateSteps req) fun e => do
    if e.isConflict then
      j.notifySkipThread "Upload skipped: another upload for this node started first"
      return .skipped
    j.notifyFailureThread "Upload initiation failed" e
    throw e

/-- The node's tick, one atomic step at a time. -/
def NodeJob.steps (j : NodeJob) : ExceptT Failure Thread JobOutcome := do
  let skip ← j.checkSteps
  j.afterCheck skip

/-- The node's tick as a thread. -/
def NodeJob.task (j : NodeJob) : Thread (Except Failure JobOutcome) := j.steps.run

/-- A node tick is its skip check, then what follows the check's answer. -/
theorem NodeJob.task_eq (j : NodeJob) :
    j.task = j.checkSteps.run.bind (Thread.afterOk j.afterCheck) :=
  Thread.run_bind_afterOk _ _

theorem Manager.runAlone_shouldSkipSteps (m : Manager) (node : String) :
    Thread.runAlone (m.shouldSkipSteps node) = m.shouldSkip node := by
  simp only [Manager.shouldSkipSteps, Manager.shouldSkip, Thread.runAlone_bind,
    Thread.runAlone_atomicRun]
  congr 1
  funext r
  split
  · rfl
  · simp only [Thread.runAlone_bind, Thread.runAlone_atomicRun]
    rfl

theorem Manager.runAlone_initiateSteps (m : Manager) (req : UploadRequest) :
    Thread.runAlone (m.initiateSteps req) = m.initiate req := by
  unfold Manager.initiateSteps Manager.initiate
  split
  · rfl
  · simp only [Thread.runAlone_bind, Thread.runAlone_atomicRun]

theorem NodeJob.runAlone_steps (j : NodeJob) : Thread.runAlone j.steps = j.execute := by
  unfold NodeJob.steps NodeJob.checkSteps NodeJob.afterCheck NodeJob.execute
  simp only [Thread.runAlone_bind, Thread.runAlone_tryCatch, Manager.runAlone_shouldSkipSteps,
    Thread.runAlone_throw, Thread.runAlone_lift, NodeJob.alone_notifyFailureThread]
  -- the skip check agrees; then each branch, step by step
  congr 1
  funext skip
  split
  · simp only [Thread.runAlone_bind, Thread.runAlone_lift, NodeJob.alone_notifySkipThread]
    rfl
  · simp only [Thread.runAlone_bind, Thread.runAlone_atomicRun, Thread.runAlone_tryCatch,
      Thread.runAlone_map, Manager.runAlone_initiateSteps]
    congr 1
    funext data
    congr 1
    funext e
    split
    · simp only [Thread.runAlone_bind, Thread.runAlone_lift, NodeJob.alone_notifySkipThread]
      rfl
    · simp only [Thread.runAlone_bind, Thread.runAlone_lift, NodeJob.alone_notifyFailureThread,
        Thread.runAlone_throw]

/-- The node's tick as a thread is the tick when it runs alone. -/
theorem NodeJob.alone_task (j : NodeJob) : j.task.alone = j.execute.run :=
  congrArg ExceptT.run (NodeJob.runAlone_steps j)

/-! ## The monitor tick -/

/-- The write of the patch a report calls for, timed when it is made. -/
def Manager.patchWrite (m : Manager) (id : Int) (s : Snapshot) : Run Reconciled := do
  let t ← now
  let applied ← writeStore (·.updateUpload (m.reconcilePatch id s t) t)
  return m.reconciled s applied

/-- The write of a patch, as one atomic step. -/
def Manager.writeSteps (m : Manager) (id : Int) (s : Snapshot) : ExceptT Failure Thread Reconciled :=
  Thread.atomicRun (m.patchWrite id s)

/-- Reconciling one tracked upload: the tool's report, then the write of its patch. -/
def Manager.monitorSteps (m : Manager) (id : Int) (node : String) :
    ExceptT Failure Thread Reconciled := do
  let s ← Thread.atomicRun (m.checkStatus node)
  m.writeSteps id s

theorem Manager.runAlone_monitorSteps (m : Manager) (id : Int) (node : String) :
    Thread.runAlone (m.monitorSteps id node) = m.monitorProgress id node := by
  rw [Manager.monitorProgress_eq]
  simp only [Manager.monitorSteps, Manager.writeSteps, Manager.patchWrite, Thread.runAlone_bind,
    Thread.runAlone_atomicRun]

/-- The notice of a reconciliation that answered `outcome`: none unless it finished the upload and
the node is configured; else the finished upload's payload, to the node's transports. -/
def MonitorJob.noticeThread (j : MonitorJob) (r : Record) (outcome : Reconciled) : Thread Unit := do
  let event := match outcome with
    | .completed => some Event.complete
    | .failed => some Event.failure
    | _ => none
  if let some ev := event then
    if let some node := j.nodes.find? (·.name == r.nodeName) then
      let p ← Thread.atomic (finishedPayload ev r)
      let _ ← dispatchThread j.notifiers node.notifications p

/-- What a reconciliation does with the outcome of its write: nothing after a failure, else the
notice of the outcome. -/
def MonitorJob.afterOutcome (j : MonitorJob) (r : Record) :
    Except Failure Reconciled → Thread (Option Reconciled)
  | .error _ => pure none
  | .ok outcome => do
    j.noticeThread r outcome
    pure (some outcome)

/-- Reconciling one running row and notifying its node, one atomic step at a time. -/
def MonitorJob.reconcileThread (j : MonitorJob) (r : Record) : Thread (Option Reconciled) :=
  (j.manager.monitorSteps r.id r.nodeName).run.bind (j.afterOutcome r)

/-- What a reconciliation does once the tool has answered: the write of the report's patch, then
what follows its outcome. -/
def MonitorJob.afterReport (j : MonitorJob) (r : Record) (report : Except Failure Snapshot) :
    Thread (Option Reconciled) :=
  (Thread.afterOk (j.manager.writeSteps r.id) report).bind (j.afterOutcome r)

/-- A reconciliation is the tool's report, then what follows it. -/
theorem MonitorJob.reconcileThread_eq (j : MonitorJob) (r : Record) :
    j.reconcileThread r =
      (Thread.atomic (j.manager.checkStatus r.nodeName).run).bind (j.afterReport r) := by
  rw [MonitorJob.reconcileThread, Manager.monitorSteps, Thread.run_bind_afterOk,
    Thread.bind_assoc]
  rfl

/-- A reconciliation as a thread is the reconciliation when it runs alone. -/
theorem MonitorJob.alone_reconcileThread (j : MonitorJob) (r : Record) :
    (j.reconcileThread r).alone = j.reconcileRecord r := by
  have hmonitor := congrArg ExceptT.run (j.manager.runAlone_monitorSteps r.id r.nodeName)
  simp only [Thread.runAlone, ExceptT.run_mk] at hmonitor
  simp only [MonitorJob.reconcileThread, MonitorJob.reconcileRecord, Thread.alone_bind, hmonitor]
  congr 1
  funext res
  unfold MonitorJob.afterOutcome
  cases res with
  | error e => rfl
  | ok outcome =>
    -- only a finished upload of a configured node is notified
    cases outcome with
    | running => rfl
    | unchanged => rfl
    | completed | failed =>
      simp only [MonitorJob.noticeThread, Thread.bind_eq, Thread.alone_bind]
      cases j.nodes.find? (·.name == r.nodeName) with
      | none => rfl
      | some node =>
        simp only [Thread.alone_bind, Thread.alone_atomic, alone_dispatchThread]
        rfl

/-- The metrics a discovery records for a node: its protocol module's, or none when the module is
missing or the collection fails. -/
def MonitorJob.discoveryData (j : MonitorJob) (node : Config.NodeSpec) : Run ProtocolData :=
  match j.protocols.find node.protocol with
  | .ok m => do
    match ← collect m node with
    | .ok data => pure data
    | .error _ => pure []
  | .error _ => pure []

/-- The record of an upload the tool reports running as `s` on `node`, with the node's metrics
`data`: one atomic step, a conflict counting as nothing found. -/
def MonitorJob.recordSteps (node : Config.NodeSpec) (s : Snapshot) (data : ProtocolData) :
    ExceptT Failure Thread (Option Int) :=
  tryCatch (some <$> Thread.atomicRun
      (Manager.createRecord (UploadRequest.forNode node .discovered data) (some s))) fun e =>
    if e.isConflict then pure none else throw e

/-- What a discovery does once the tool has answered `s`: nothing for an idle node, else the node's
metrics, then the record. -/
def MonitorJob.afterDiscoveryReport (j : MonitorJob) (node : Config.NodeSpec) (s : Snapshot) :
    ExceptT Failure Thread (Option Int) := do
  if !s.isRunning then return none
  let data ← Thread.atomicRun (j.discoveryData node)
  MonitorJob.recordSteps node s data

/-- Looking for an upload the tool runs for a node without a tracked one, one atomic step at a
time: the tool's report, the node's metrics, then the record. -/
def MonitorJob.discoverSteps (j : MonitorJob) (node : Config.NodeSpec) :
    ExceptT Failure Thread (Option Int) := do
  let s ← Thread.atomicRun (j.manager.checkStatus node.name)
  j.afterDiscoveryReport node s

theorem MonitorJob.runAlone_discoverSteps (j : MonitorJob) (node : Config.NodeSpec) :
    Thread.runAlone (j.discoverSteps node) = j.discoverNode node := by
  have hrecord : ∀ s data, Thread.runAlone (MonitorJob.recordSteps node s data) =
      tryCatch (some <$> Manager.createRecord (UploadRequest.forNode node .discovered data) (some s))
        fun e => if e.isConflict then pure none else throw e := by
    intro s data
    simp only [MonitorJob.recordSteps, Thread.runAlone_tryCatch, Thread.runAlone_map,
      Thread.runAlone_atomicRun]
    congr 1
    funext e
    split <;> rfl
  simp only [MonitorJob.discoverSteps, MonitorJob.discoverNode, Thread.runAlone_bind,
    Thread.runAlone_atomicRun]
  congr 1
  funext s
  unfold MonitorJob.afterDiscoveryReport
  split
  · rfl
  · simp only [Thread.runAlone_bind, Thread.runAlone_atomicRun, hrecord]
    -- the program records inside each branch of the metrics' lookup
    unfold MonitorJob.discoveryData
    cases j.protocols.find node.protocol with
    | error e => rfl
    | ok m =>
      simp only [bind_assoc]
      congr 1
      funext d
      cases d <;> rfl

end SnapshotAgent.Agent
