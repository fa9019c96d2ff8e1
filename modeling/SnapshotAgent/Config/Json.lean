import SnapshotAgent.Config.Validate
import SnapshotAgent.Json.Decode
/-!
# Configurations as JSON

A validated configuration written as a JSON document: durations as `{secs, nanos}`, optional
values as `null` when absent, nodes by name, and the scheduled nodes with their expressions.
-/

namespace SnapshotAgent.Config

open SnapshotAgent.Time

/-- A duration as `{secs, nanos}`. -/
def durationJson (d : Duration) : Json := .obj [("secs", .int d.secs), ("nanos", .int d.nanos)]

/-- Notification settings as JSON. -/
def NotificationConfig.toJson (n : NotificationConfig) : Json :=
  .obj [("failure", .bool n.failure), ("skip", .bool n.skip), ("complete", .bool n.complete),
    ("types", .obj (n.targets.map fun (k, u) => (k, .obj [("url", .str u)])))]

/-- A node as JSON. -/
def NodeSpec.toJson (n : NodeSpec) : Json :=
  .obj [("name", .str n.name), ("protocol", .str n.protocol), ("node_type", .str n.nodeType),
    ("url", .str n.url), ("beacon_url", Json.ofOption .str n.beaconUrl),
    ("schedule", Json.ofOption .str n.schedule),
    ("notifications", Json.ofOption NotificationConfig.toJson n.notifications)]

/-- The fields of a configuration as JSON. -/
def ConfigFile.jsonFields (c : ConfigFile) : List (String × Json) :=
  [("agent", .obj [("monitor_schedule", .str c.agent.monitorSchedule), ("tool", .str c.agent.tool),
      ("non_reentrant", .arr (c.agent.nonReentrant.map .str)),
      ("command_timeout", Json.ofOption durationJson c.agent.commandTimeout),
      ("shutdown_timeout", durationJson c.agent.shutdownTimeout),
      ("nonzero_exit_is_failure", .bool c.agent.nonzeroExitIsFailure)]),
   ("database", .obj [("path", .str c.database.path),
      ("retry_attempts", .int c.database.retry.attempts),
      ("retry_base_delay", durationJson c.database.retry.baseDelay)]),
   ("notifications", Json.ofOption NotificationConfig.toJson c.notifications),
   ("nodes", .obj (c.nodes.map fun n => (n.name, n.toJson))),
   ("scheduled_nodes", .arr (c.scheduledNodes.map fun (n, s) => .arr [.str n.name, .str s]))]

end SnapshotAgent.Config
