import SnapshotAgent.Notify.Error
import SnapshotAgent.Registry
/-!
# Notification transports

A transport delivers a notification to a destination URL. The built-in one, `discord`, posts a
webhook embed. A recording transport keeps every notification it is given, with its URL, and can
be made to report a failed delivery afterwards; it stands in for a real service in tests.

Transports are found by name in a registry.
-/

namespace SnapshotAgent.Notify

/-- How a transport delivers. -/
inductive Transport where
  /-- Posts a webhook embed over HTTP. -/
  | webhook
  /-- Keeps what it is given, then reports success or, when `fails`, a server error. -/
  | recording (fails : Bool)
  deriving Repr, DecidableEq, Inhabited

/-- A named transport. -/
structure Notifier where
  name : String
  transport : Transport
  deriving Repr, Inhabited

/-- The registry of transports. -/
abbrev Notifiers := Registry Notifier

/-- A registry refusal as a notification failure. -/
def refusalError : Refusal → NotificationError
  | .emptyName => .emptyName
  | .duplicate n => .duplicate n

/-- Registers a transport under its name. -/
def Notifiers.add (n : Notifier) : ExceptT NotificationError (StateM Notifiers) Unit :=
  (Registry.register [n.name] n).adapt refusalError

/-- The transport of a name. -/
def Notifiers.find (r : Notifiers) (name : String) : Except NotificationError Notifier :=
  match r.get? name with
  | some n => .ok n
  | none => .error (.notRegistered name)

/-- The registry of the built-in transports. -/
def Notifiers.defaults : Notifiers := ⟨[("discord", ⟨"discord", .webhook⟩)]⟩

end SnapshotAgent.Notify
