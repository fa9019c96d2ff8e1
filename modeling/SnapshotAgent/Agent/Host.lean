import SnapshotAgent.Store.Uploads
import SnapshotAgent.Testing.Script
import SnapshotAgent.Testing.StandIn
import SnapshotAgent.Tool.Runner
import SnapshotAgent.Failure
import SnapshotAgent.Metrics.Module
import SnapshotAgent.Notify.Transport
import SnapshotAgent.Notify.Payload
import SnapshotAgent.Network
/-!
# The agent's surroundings

Everything the agent touches outside its own logic is kept in one value, the `Host`: the upload
store, the node tool, the transports' deliveries, the network that answers the agent's HTTP
requests, the clock and the caller's cancellation token.
An agent operation is a function of the host that answers a new host, so a run can be replayed
and reasoned about step by step.

The tool is reached either through a script (`Testing.Script`) or as a child process
(`Tool.Runner`). Every invocation is recorded with its program and
arguments.

Cancellation is cooperative. A cancelled token makes every later invocation of the tool, store
call and collection give up at once. An invocation that waits for cancellation (a hanging tool)
ends when the caller's deadline cancels the token; within a group of tasks that run side by side
the deadline falls after the others have finished, so the token is cancelled when the group ends.

The clock stands still during one operation: every timestamp the agent takes is `clock`.
-/

namespace SnapshotAgent.Agent

open SnapshotAgent.Time SnapshotAgent.Upload SnapshotAgent.Tool

/-- How the tool is reached. -/
inductive ToolHost where
  /-- Answers from a script. -/
  | scripted (script : Testing.Script)
  /-- Runs programs as child processes, the stand-in node tool at `standIn` among them, each
  stopped at the time limit. -/
  | processes (standIn : Option String) (limit : Option Duration)
  deriving Inhabited

/-- A notification handed to a transport. -/
structure Delivery where
  transport : String
  url : String
  payload : Notify.Payload
  deriving Inhabited

/-- The agent's surroundings. -/
structure Host where
  store : Store.UploadStore
  tool : ToolHost
  /-- Every invocation of the tool, program first. -/
  calls : List (List String) := []
  deliveries : List Delivery := []
  /-- Whether the caller's token is cancelled. -/
  cancelled : Bool := false
  /-- Whether a hanging invocation awaits the cancellation due when the current group ends. -/
  cancelDue : Bool := false
  /-- Whether tasks are running side by side. -/
  inGroup : Bool := false
  /-- Who answers the agent's HTTP requests: the nodes' endpoints and the webhooks. -/
  network : Network.Responder := Network.unreachable
  clock : Instant
  deriving Inhabited

/-- An operation on the host. -/
abbrev HostM := StateM Host

/-- An operation on the host that may fail. -/
abbrev Run := ExceptT Failure HostM

/-- Whether the caller's token is cancelled. -/
def isCancelled : HostM Bool := return (← get).cancelled

/-- The time now. -/
def now : HostM Instant := return (← get).clock

/-- Waits for the caller's deadline: at once when running alone, else when the group ends. -/
def awaitCancellation : HostM Unit :=
  modify fun h => if h.inGroup then { h with cancelDue := true } else { h with cancelled := true }

/-- Runs tasks side by side, in order; a cancellation they wait for falls after all of them. -/
def group {α : Type} (tasks : List (HostM α)) : HostM (List α) := do
  modify fun h => { h with inGroup := true }
  let results ← tasks.mapM id
  modify fun h =>
    { h with inGroup := false, cancelled := h.cancelled || h.cancelDue, cancelDue := false }
  pure results

/-- A scripted invocation's answer. -/
def scriptedAnswer (program key : String) : Option Testing.Reply → HostM (Except CommandError Output)
  | none => pure (.error (.exit program 127 "" ("no scripted reply for '" ++ key ++ "'")))
  | some (.stdout s) => pure (.ok ⟨s, ""⟩)
  | some (.exit code out err) => pure (.error (.exit program code out err))
  | some .spawnFailure => pure (.error (.spawn program "scripted spawn failure"))
  | some .hang => do
    awaitCancellation
    pure (.error (.cancelled program))
  | some (.timeout limit) => pure (.error (.timeout program limit))

/-- Invokes the tool. -/
def invoke (program : String) (args : List String) : HostM (Except CommandError Output) := do
  let h ← get
  match h.tool with
  | .scripted script =>
    set { h with calls := h.calls ++ [program :: args] }
    if h.cancelled then return .error (.cancelled program)
    let key := " ".intercalate args
    let (reply, script) := script.take key
    modify fun h => { h with tool := .scripted script }
    scriptedAnswer program key reply
  | .processes path limit =>
    let r := runCommand path h.cancelled limit program args
    if !h.cancelled then set { h with calls := h.calls ++ [program :: args] }
    return r

/-- Invokes the tool; a failed invocation fails the operation. -/
def invokeOk (program : String) (args : List String) : Run Output := do
  match ← invoke program args with
  | .ok out => pure out
  | .error e => throw (.command e)

/-- Reads the store unless the caller has cancelled. -/
def readStore {α : Type} (f : Store.UploadStore → Except Store.StoreError α) : Run α := do
  if ← isCancelled then throw .cancelled
  match f (← get).store with
  | .ok a => pure a
  | .error e => throw (.store e)

/-- Writes the store unless the caller has cancelled; a refused write changes nothing. -/
def writeStore {α : Type} (f : Store.Database → Except Store.StoreError (Store.Database × α)) :
    Run α := do
  if ← isCancelled then throw .cancelled
  let h ← get
  match f h.store.db with
  | .ok (db, a) =>
    set { h with store := { h.store with db } }
    pure a
  | .error e => throw (.store e)

/-- Collects a node's metrics with a protocol module. The built-in modules ask the node's
endpoints over the host's network. -/
def collect (m : Metrics.Module) (node : Config.NodeSpec) :
    HostM (Except Metrics.MetricsError ProtocolData) := do
  let h ← get
  let cancelled := h.cancelled
  match m.collector with
  | .fixed data failure refuses heedsToken =>
    if !heedsToken then pure (.error (.decode node.url (failure.getD "")))
    else if refuses || cancelled then pure (.error .cancelled)
    else match failure with
      | some reason => pure (.error (.decode node.url reason))
      | none => pure (.ok data)
  | .ethereum => pure (Network.collectEthereum h.network cancelled node)
  | .arbitrum => pure (Network.collectArbitrum h.network cancelled node)

/-- Hands a notification to a transport. A webhook is posted over the host's network. -/
def deliver (n : Notify.Notifier) (url : String) (p : Notify.Payload) :
    HostM (Except Notify.NotificationError Unit) := do
  match n.transport with
  | .recording fails =>
    modify fun h => { h with deliveries := h.deliveries ++ [⟨n.name, url, p⟩] }
    if fails then pure (.error (.status n.name 500)) else pure (.ok ())
  | .webhook =>
    let h ← get
    return Network.postWebhook h.network h.cancelled n.name url

/-- A cancelled caller's store reads fail as cancelled. -/
theorem readStore_cancelled {α : Type} (f : Store.UploadStore → Except Store.StoreError α)
    (h : Host) (hc : h.cancelled = true) :
    (readStore f).run h = (.error .cancelled, h) := by
  obtain ⟨store, tool, calls, deliveries, cancelled, cancelDue, inGroup, network, clock⟩ := h
  simp only at hc
  subst hc
  rfl

end SnapshotAgent.Agent
