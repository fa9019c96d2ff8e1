import SnapshotAgent.Config.Decode
import SnapshotAgent.Config.Duration
import SnapshotAgent.Schedule.Parse
import SnapshotAgent.Failure
/-!
# Validating a configuration

A configuration is accepted when it has at least one node, a tool, a valid monitor schedule,
valid durations, a database path and at least one retry attempt, notification blocks that name
at least one transport each with a url, and nodes with a name, a protocol, a url and, when given,
a valid schedule. The checks run in that order and the first failure is reported; blank means
empty or only white space.

`ConfigFile.ofRaw` then builds the validated configuration: a zero command timeout means none, the
retry policy takes the attempts and base delay, and each node takes its own notification block,
else the global one. `ConfigFile.checkRegistrations` finally checks that every node's protocol and
notification transports are known to the agent.
-/

namespace SnapshotAgent.Config

open SnapshotAgent.Time SnapshotAgent.Text

/-- A duration setting; `field` names it in the message. -/
def durationField (field value : String) : Except Failure Duration :=
  (parseDuration value).mapError fun e => .config ("[" ++ field ++ "] is invalid: " ++ e.message)

/-- A schedule setting; `field` names it in the message. -/
def scheduleField (field expr : String) : Except Failure Unit :=
  match Schedule.parseSchedule expr with
  | .ok _ => .ok ()
  | .error e => .error (.config (field ++ ": " ++ e.message))

/-- Checks a notification block; `block` names it in the message. -/
def validateNotifications (block : String) (n : NotificationConfig) : Except Failure Unit := do
  if n.targets.isEmpty then
    throw (.config (block ++ " must configure at least one notification type"))
  for (name, url) in n.targets do
    if isBlankText url then
      throw (.config (block ++ " notification type '" ++ name ++ "' is missing a url"))

/-- Checks one node. -/
def validateNode (name : String) (node : RawNode) : Except Failure Unit := do
  if isBlankText name then throw (.config "node names must not be empty")
  if isBlankText node.protocol then throw (.config ("node '" ++ name ++ "' is missing `protocol`"))
  if isBlankText node.url then throw (.config ("node '" ++ name ++ "' is missing `url`"))
  if let some expr := node.schedule then scheduleField ("node '" ++ name ++ "' schedule") expr
  if let some n := node.notifications then
    validateNotifications ("[nodes." ++ name ++ ".notifications]") n

/-- Checks a raw configuration, in the documented order. -/
def validateRaw (raw : RawConfig) : Except Failure Unit := do
  if raw.nodes.isEmpty then
    throw (.config "config must contain at least one [nodes.<name>] section")
  if isBlankText raw.agent.tool then throw (.config "[agent].tool must not be empty")
  scheduleField "[agent].monitor_schedule" raw.agent.monitorSchedule
  let _ ← durationField "agent.command_timeout" raw.agent.commandTimeout
  let _ ← durationField "agent.shutdown_timeout" raw.agent.shutdownTimeout
  if raw.database.path.isEmpty then throw (.config "[database].path must not be empty")
  if raw.database.retryAttempts = 0 then
    throw (.config "[database].retry_attempts must be >= 1 (got 0)")
  let _ ← durationField "database.retry_base_delay" raw.database.retryBaseDelay
  if let some n := raw.notifications then validateNotifications "[notifications]" n
  for (name, node) in raw.nodes do validateNode name node

/-- The validated configuration of a raw one. -/
def ConfigFile.ofRaw (raw : RawConfig) : Except Failure ConfigFile := do
  validateRaw raw
  let command ← durationField "agent.command_timeout" raw.agent.commandTimeout
  let shutdown ← durationField "agent.shutdown_timeout" raw.agent.shutdownTimeout
  let delay ← durationField "database.retry_base_delay" raw.database.retryBaseDelay
  pure {
    agent := {
      monitorSchedule := raw.agent.monitorSchedule
      tool := raw.agent.tool
      nonReentrant := raw.agent.nonReentrant
      commandTimeout := if command = Duration.zero then none else some command
      shutdownTimeout := shutdown
      nonzeroExitIsFailure := raw.agent.nonzeroExitIsFailure }
    database := {
      path := raw.database.path
      retry := Store.RetryPolicy.new raw.database.retryAttempts delay }
    notifications := raw.notifications
    nodes := raw.nodes.map fun (name, n) => {
      name := name
      protocol := n.protocol
      nodeType := n.nodeType
      url := n.url
      beaconUrl := n.beaconUrl
      schedule := n.schedule
      notifications := n.notifications.orElse fun _ => raw.notifications } }

/-- Reads and validates configuration text. -/
def ConfigFile.parse (text : String) : Except Failure ConfigFile := do
  let raw ← (RawConfig.parse text).mapError Failure.toml
  ConfigFile.ofRaw raw

/-- Checks that every node's protocol and notification transports are registered; `protocols`
and `notifiers` are the registered names, sorted. -/
def ConfigFile.checkRegistrations (c : ConfigFile) (protocols notifiers : List String) :
    Except Failure Unit := do
  for node in c.nodes do
    if !protocols.contains node.protocol then
      throw (.config ("node '" ++ node.name ++ "' uses unsupported protocol '" ++ node.protocol ++
        "' (registered: " ++ ", ".intercalate protocols ++ ")"))
    if let some n := node.notifications then
      for (kind, _) in n.targets do
        if !notifiers.contains kind then
          throw (.config ("node '" ++ node.name ++ "' uses unsupported notification type '" ++
            kind ++ "' (registered: " ++ ", ".intercalate notifiers ++ ")"))

/-- The node of a name, or the failure naming it. -/
def ConfigFile.node (c : ConfigFile) (name : String) : Except Failure NodeSpec :=
  match c.node? name with
  | some n => .ok n
  | none => .error (.nodeNotFound name)

end SnapshotAgent.Config
