import SnapshotAgent.Metrics.Error
import SnapshotAgent.Registry
import SnapshotAgent.Upload.Record
/-!
# Protocol modules

A protocol module collects a node's chain metrics into the protocol data stored with an upload.
The built-in modules read the node's endpoints over HTTP: `ethereum` (execution block, beacon
head slot, earliest retained blob) and `arbitrum`, also known as `arbitrum-one` (the block
only). A fixed module answers the same data every time; it stands in for a node in tests, and
can be made to fail or to report cancellation.

Modules are found by name or alias in a registry.
-/

namespace SnapshotAgent.Metrics

open SnapshotAgent.Upload

/-- How a module collects its metrics. -/
inductive Collector where
  /-- Fixed data, or a decode failure with a reason; `refuses` reports every collection as
  cancelled, and `heedsToken` makes a cancelled caller's collection cancelled. -/
  | fixed (data : ProtocolData) (failure : Option String) (refuses : Bool) (heedsToken : Bool)
  /-- Execution block, beacon head slot and earliest blob, over HTTP. -/
  | ethereum
  /-- The execution block, over HTTP. -/
  | arbitrum
  deriving Inhabited

/-- A protocol module: its name, its aliases and how it collects. -/
structure Module where
  name : String
  aliases : List String := []
  collector : Collector
  deriving Inhabited

/-- The registry of protocol modules. -/
abbrev Protocols := Registry Module

/-- A registry refusal as a metrics failure. -/
def refusalError : Refusal → MetricsError
  | .emptyName => .emptyName
  | .duplicate n => .duplicate n

/-- Registers a module under its name and aliases, or under none of them. -/
def Protocols.add (m : Module) : ExceptT MetricsError (StateM Protocols) Unit :=
  (Registry.register (m.name :: m.aliases) m).adapt refusalError

/-- The module of a name or alias. -/
def Protocols.find (r : Protocols) (name : String) : Except MetricsError Module :=
  match r.get? name with
  | some m => .ok m
  | none => .error (.notRegistered name)

/-- The built-in Ethereum module. -/
def Module.ethereumModule : Module := { name := "ethereum", collector := .ethereum }

/-- The built-in Arbitrum module. -/
def Module.arbitrumModule : Module :=
  { name := "arbitrum", aliases := ["arbitrum-one"], collector := .arbitrum }

/-- The registry of the built-in modules. -/
def Protocols.defaults : Protocols :=
  ⟨[("arbitrum", Module.arbitrumModule), ("arbitrum-one", Module.arbitrumModule),
    ("ethereum", Module.ethereumModule)]⟩

end SnapshotAgent.Metrics
