import SnapshotAgent.Store.Retry
/-!
# The agent's configuration

A configuration file has four parts: the agent's own settings (`[agent]`), the database
(`[database]`), the notifications sent for every node that has none of its own
(`[notifications]`), and the nodes (`[nodes.<name>]`).

`RawConfig` is the file as written, with the documented defaults for what is left out; `ConfigFile`
is what validation makes of it: durations read, the retry policy built, and each node given its
effective notification settings (its own block, else the global one). Nodes are kept sorted by
name.
-/

namespace SnapshotAgent.Config

open SnapshotAgent.Time

/-- Which events are sent, and to which transports. -/
structure NotificationConfig where
  failure : Bool := false
  skip : Bool := false
  complete : Bool := false
  /-- Each transport's destination url, sorted by transport name. -/
  targets : List (String × String) := []
  deriving Repr, DecidableEq, Inhabited

/-- The `[agent]` section as written. -/
structure RawAgent where
  monitorSchedule : String := "0 * * * * *"
  tool : String := "bv"
  nonReentrant : List String := ["bv"]
  commandTimeout : String := "5m"
  shutdownTimeout : String := "30s"
  nonzeroExitIsFailure : Bool := false
  deriving Repr, Inhabited

/-- The `[database]` section as written. -/
structure RawDatabase where
  path : String := "/var/lib/snapd/snapd.db"
  retryAttempts : Nat := 3
  retryBaseDelay : String := "100ms"
  deriving Repr, Inhabited

/-- A `[nodes.<name>]` section as written. -/
structure RawNode where
  protocol : String := ""
  nodeType : String := ""
  url : String := ""
  beaconUrl : Option String := none
  schedule : Option String := none
  notifications : Option NotificationConfig := none
  deriving Repr, Inhabited

/-- A configuration file as written. -/
structure RawConfig where
  agent : RawAgent := {}
  database : RawDatabase := {}
  notifications : Option NotificationConfig := none
  /-- The nodes by name, sorted. -/
  nodes : List (String × RawNode) := []
  deriving Repr, Inhabited

/-- The agent's validated settings. -/
structure AgentSettings where
  monitorSchedule : String
  tool : String
  nonReentrant : List String
  /-- The limit on one tool invocation; none when configured as zero. -/
  commandTimeout : Option Duration
  shutdownTimeout : Duration
  nonzeroExitIsFailure : Bool
  deriving Repr, Inhabited

/-- Where the database lives and how its operations are retried. -/
structure DatabaseSettings where
  path : String
  retry : Store.RetryPolicy
  deriving Repr, Inhabited

/-- A configured node. -/
structure NodeSpec where
  name : String
  protocol : String
  nodeType : String
  url : String
  beaconUrl : Option String
  schedule : Option String
  /-- The node's own notification settings, else the global ones. -/
  notifications : Option NotificationConfig
  deriving Repr, Inhabited

/-- A validated configuration. -/
structure ConfigFile where
  agent : AgentSettings
  database : DatabaseSettings
  notifications : Option NotificationConfig
  /-- The nodes, sorted by name. -/
  nodes : List NodeSpec
  deriving Repr, Inhabited

/-- The node of a name. -/
def ConfigFile.node? (c : ConfigFile) (name : String) : Option NodeSpec :=
  c.nodes.find? (·.name == name)

/-- The nodes that have a schedule of their own, with it, in name order. -/
def ConfigFile.scheduledNodes (c : ConfigFile) : List (NodeSpec × String) :=
  c.nodes.filterMap fun n => n.schedule.map fun s => (n, s)

/-- The names of the configured nodes, in order. -/
def ConfigFile.nodeNames (c : ConfigFile) : List String := c.nodes.map (·.name)

end SnapshotAgent.Config
