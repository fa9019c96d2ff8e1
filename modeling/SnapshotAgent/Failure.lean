import SnapshotAgent.Tool.Error
import SnapshotAgent.Store.Error
import SnapshotAgent.Metrics.Error
import SnapshotAgent.Notify.Error
/-!
# Failures of the agent

Every operation of the agent fails with a `Failure`: a configuration that is invalid or cannot be
read, an invalid schedule, an unknown node, an upload that was skipped, a failure of one of the
agent's parts (the tool, the store, metric collection, notification delivery), cancellation, or a
shutdown that did not finish in time. A part's failure is shown as the part shows it.
-/

namespace SnapshotAgent

open SnapshotAgent.Time

/-- A failure of an agent operation. -/
inductive Failure where
  | config (message : String)
  | io (message : String)
  | toml (message : String)
  | invalidSchedule (expression reason : String)
  | nodeNotFound (name : String)
  | uploadSkipped (node : String)
  | command (e : Tool.CommandError)
  | store (e : Store.StoreError)
  | metrics (e : Metrics.MetricsError)
  | notification (e : Notify.NotificationError)
  | cancelled
  | shutdownTimeout (limit : Duration)
  | other (message : String)
  deriving Repr, DecidableEq, Inhabited

/-- How the failure is worded. -/
def Failure.message : Failure → String
  | .config m => "Configuration error: " ++ m
  | .io m => "IO error: " ++ m
  | .toml m => "TOML parsing error: " ++ m
  | .invalidSchedule e r => "invalid cron expression '" ++ e ++ "': " ++ r
  | .nodeNotFound n => "node not found in configuration: " ++ n
  | .uploadSkipped n => "upload already running for node '" ++ n ++ "'"
  | .command e => e.message
  | .store e => e.message
  | .metrics e => e.message
  | .notification e => e.message
  | .cancelled => "operation cancelled"
  | .shutdownTimeout d => "shutdown did not complete within " ++ d.text
  | .other m => m

/-- The name of the kind of failure; a part's failure is named after the part and its kind. -/
def Failure.kind : Failure → String
  | .config _ => "ConfigError"
  | .io _ => "IoError"
  | .toml _ => "TomlError"
  | .invalidSchedule _ _ => "InvalidSchedule"
  | .nodeNotFound _ => "NodeNotFound"
  | .uploadSkipped _ => "UploadSkipped"
  | .command e => "Command." ++ e.kind
  | .store e => "Store." ++ e.kind
  | .metrics e => "Metrics." ++ e.kind
  | .notification e => "Notification." ++ e.kind
  | .cancelled => "Cancelled"
  | .shutdownTimeout _ => "ShutdownTimeout"
  | .other _ => "Other"

/-- Whether the store refused a second running upload for a node. -/
def Failure.isConflict : Failure → Bool
  | .store (.conflict _) => true
  | _ => false

/-- Whether the failure comes from cancellation. -/
def Failure.isCancelled : Failure → Bool
  | .cancelled | .command (.cancelled _) => true
  | _ => false

end SnapshotAgent
