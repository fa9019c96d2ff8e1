/-!
# Failures of metric collection

Protocol modules read a node's endpoints and report a few numbers about the chain. Looking a
module up can fail (no module of that name), registering one can fail (a name taken twice, or an
empty name), and collecting can fail on the way: the request, the HTTP status, an error answer
from the node, an answer that does not decode, or cancellation.
-/

namespace SnapshotAgent.Metrics

/-- How a metric collection or a registry operation failed. -/
inductive MetricsError where
  | notRegistered (name : String)
  | duplicate (name : String)
  | emptyName
  /-- The request did not complete; the reason is the HTTP client's. -/
  | http (endpoint : String) (reason : String)
  | status (endpoint : String) (code : Nat)
  | rpc (endpoint : String) (message : String)
  | decode (endpoint : String) (reason : String)
  | cancelled
  deriving Repr, DecidableEq, Inhabited

/-- How the failure is worded. -/
def MetricsError.message : MetricsError → String
  | .notRegistered n => "protocol '" ++ n ++ "' is not registered"
  | .duplicate n => "protocol '" ++ n ++ "' is already registered"
  | .emptyName => "protocol module name or alias cannot be empty"
  | .http e reason => "request to " ++ e ++ " failed: " ++ reason
  | .status e code => e ++ " returned status " ++ toString code
  | .rpc e m => "RPC error from " ++ e ++ ": " ++ m
  | .decode e reason => "unexpected response from " ++ e ++ ": " ++ reason
  | .cancelled => "metric collection cancelled"

/-- The name of the kind of failure. -/
def MetricsError.kind : MetricsError → String
  | .notRegistered _ => "NotRegistered"
  | .duplicate _ => "Duplicate"
  | .emptyName => "EmptyName"
  | .http _ _ => "Http"
  | .status _ _ => "Status"
  | .rpc _ _ => "Rpc"
  | .decode _ _ => "Decode"
  | .cancelled => "Cancelled"

end SnapshotAgent.Metrics
