/-!
# Failures of notification delivery

A notifier delivers one event to one destination. Looking a transport up can fail, registering
one can fail, and a delivery can fail in the HTTP client, with a non-success status, or by
cancellation.
-/

namespace SnapshotAgent.Notify

/-- How a delivery or a registry operation failed. -/
inductive NotificationError where
  | notRegistered (name : String)
  | duplicate (name : String)
  | emptyName
  /-- The request did not complete; the reason is the HTTP client's. -/
  | http (transport : String) (reason : String)
  | status (transport : String) (code : Nat)
  | cancelled
  deriving Repr, DecidableEq, Inhabited

/-- How the failure is worded. -/
def NotificationError.message : NotificationError → String
  | .notRegistered n => "notification type '" ++ n ++ "' is not registered"
  | .duplicate n => "notification type '" ++ n ++ "' is already registered"
  | .emptyName => "notification type name cannot be empty"
  | .http t reason => t ++ " request failed: " ++ reason
  | .status t code => t ++ " returned non-success status " ++ toString code
  | .cancelled => "notification delivery cancelled"

/-- The name of the kind of failure. -/
def NotificationError.kind : NotificationError → String
  | .notRegistered _ => "NotRegistered"
  | .duplicate _ => "Duplicate"
  | .emptyName => "EmptyName"
  | .http _ _ => "Http"
  | .status _ _ => "Status"
  | .cancelled => "Cancelled"

end SnapshotAgent.Notify
