import SnapshotAgent.Config.Validate
import SnapshotAgent.Text.Quoted
/-!
# Configuration builders

Tests build configurations in two ways. `ConfigBuilder` writes a configuration file from a few
lines of agent settings, an optional notification block for every node, and nodes given by name,
protocol and schedule; the file then goes through the real reader and validation, so a test sees
exactly what the agent would. `nodeSpec` builds one node directly, with the documented defaults:
protocol `ethereum`, type `archive` and the URL of a closed local port.
-/

namespace SnapshotAgent.Testing

open SnapshotAgent.Config

/-- A node as the configuration builder writes it. -/
structure BuilderNode where
  name : String
  protocol : String := "ethereum"
  schedule : Option String := none
  deriving Repr, Inhabited

/-- The parts of a configuration file to write. -/
structure ConfigBuilder where
  agentLines : List String := []
  /-- One transport and its URL that every node notifies of every event. -/
  notifyAll : Option (String × String) := none
  nodes : List BuilderNode := []
  deriving Repr, Inhabited

/-- A notification block enabling every event for one transport. -/
def notificationsBlock (table transport url : String) : String :=
  "[" ++ table ++ "]\nfailure = true\nskip = true\ncomplete = true\n[" ++ table ++ ".types." ++
    transport ++ "]\nurl = \"" ++ url ++ "\"\n"

/-- The text of the configuration file. -/
def ConfigBuilder.toToml (b : ConfigBuilder) : String :=
  let agent := String.join (b.agentLines.map (· ++ "\n"))
  let notify := match b.notifyAll with
    | some (transport, url) => notificationsBlock "notifications" transport url ++ "\n"
    | none => ""
  let nodes := String.join (b.nodes.map fun n =>
    "[nodes." ++ n.name ++ "]\nprotocol = \"" ++ n.protocol ++
      "\"\ntype = \"archive\"\nurl = \"http://127.0.0.1:1\"\n" ++
      (match n.schedule with
        | some e => "schedule = \"" ++ e ++ "\"\n"
        | none => "") ++ "\n")
  "[agent]\n" ++ agent ++ "\n[database]\npath = \":memory:\"\n\n" ++ notify ++ nodes

/-- How a builder failure is shown: the failure's kind and its payload, as a debugging print
shows them. -/
def failureDebug : Failure → String
  | .config m => "ConfigError(" ++ Text.quoted m ++ ")"
  | .toml m => "TomlError(" ++ Text.quoted m ++ ")"
  | .invalidSchedule e r =>
    "InvalidSchedule \x7b expr: " ++ Text.quoted e ++ ", reason: " ++ Text.quoted r ++ " \x7d"
  | e => e.kind ++ "(" ++ Text.quoted e.message ++ ")"

/-- Builds the configuration; a file that the reader or validation refuses is a broken test, and
the message says which step refused it. -/
def ConfigBuilder.build (b : ConfigBuilder) : Except String ConfigFile := do
  let raw ← (RawConfig.parse b.toToml).mapError fun e =>
    "builder TOML should parse: " ++ failureDebug (.toml e)
  (ConfigFile.ofRaw raw).mapError fun e =>
    "Failed to build valid config from builder: " ++ failureDebug e

/-- A node with the documented defaults. -/
def nodeSpec (name : String) : NodeSpec :=
  { name, protocol := "ethereum", nodeType := "archive", url := "http://127.0.0.1:1",
    beaconUrl := none, schedule := none, notifications := none }

/-- Settings enabling every event for one transport. -/
def notifyAllSettings (transport url : String) : NotificationConfig :=
  { failure := true, skip := true, complete := true, targets := [(transport, url)] }

end SnapshotAgent.Testing
