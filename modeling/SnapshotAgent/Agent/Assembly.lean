import SnapshotAgent.Agent.Jobs
import SnapshotAgent.Config.Validate
/-!
# The assembled agent

An agent is a validated configuration with its collaborators: the manager over the configured
tool, the protocol modules and the notification transports. Assembling it checks that every
node's protocol and every transport it names are registered.

The agent builds one upload job per node on request and one monitor job over all nodes; its
scheduler holds the monitor job and an upload job per node with a schedule of its own. Running
until shutdown starts the scheduler and then stops it within the configured time; when shutdown
is already requested no job fires, and only a zero limit leaves the scheduler's tasks unfinished
when the limit falls.
-/

namespace SnapshotAgent.Agent

open SnapshotAgent.Upload

/-- The assembled agent. -/
structure AgentParts where
  config : Config.ConfigFile
  manager : Manager
  protocols : Metrics.Protocols
  notifiers : Notify.Notifiers

/-- Assembles an agent, checking that the configuration only names registered parts. -/
def AgentParts.assemble (config : Config.ConfigFile) (protocols : Metrics.Protocols)
    (notifiers : Notify.Notifiers) : Except Failure AgentParts := do
  config.checkRegistrations protocols.names notifiers.names
  pure ⟨config, ⟨config.agent.tool, config.agent.nonzeroExitIsFailure⟩, protocols, notifiers⟩

/-- The upload job of a configured node. -/
def AgentParts.nodeJob (a : AgentParts) (node : String) (trigger : Trigger) :
    Except Failure NodeJob := do
  let spec ← a.config.node node
  pure { node := spec, trigger, manager := a.manager, protocols := a.protocols,
         notifiers := a.notifiers }

/-- The monitor job over every configured node. -/
def AgentParts.monitorJob (a : AgentParts) : MonitorJob :=
  { nodes := a.config.nodes, manager := a.manager, protocols := a.protocols,
    notifiers := a.notifiers }

/-- How many jobs the scheduler holds: the monitor and one per scheduled node. -/
def AgentParts.jobCount (a : AgentParts) : Nat := 1 + a.config.scheduledNodes.length

/-- Runs until a shutdown that is already requested: the scheduler stops within the configured
limit unless the limit is zero. -/
def AgentParts.runUntilShutdown (a : AgentParts) : Except Failure Unit :=
  let limit := a.config.agent.shutdownTimeout
  if limit.totalNanos = 0 then .error (.shutdownTimeout limit) else .ok ()

/-- Starts an upload for a node by hand; a skip is a failure here. -/
def AgentParts.manualUpload (a : AgentParts) (node : String) : Run Int := do
  let job ← liftExcept (a.nodeJob node .manual)
  match ← job.execute with
  | .initiated id => pure id
  | .skipped => throw (.uploadSkipped node)
where
  liftExcept {α : Type} : Except Failure α → Run α
    | .ok v => pure v
    | .error e => throw e

end SnapshotAgent.Agent
