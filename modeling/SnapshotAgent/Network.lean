import SnapshotAgent.Metrics.Error
import SnapshotAgent.Metrics.Quantity
import SnapshotAgent.Notify.Error
import SnapshotAgent.Json.Parse
import SnapshotAgent.Json.Decode
/-!
# HTTP requests

The agent talks HTTP to node endpoints (JSON-RPC `eth_blockNumber` and JSON `GET`s) and to
webhooks. A request is first built, which refuses a URL that is not an absolute `http` or
`https` URL with a host (`builder error`), and then sent; what answers is a `Responder`, a
function from URLs to replies, which the world the agent runs in provides. Where no service
answers (`unreachable`) a sent request fails with `error sending request for url (<url>)`, the
URL as the client writes it.

A reply is read as JSON only when its status is a success (2xx). A body that is not JSON of the
expected shape fails as `error decoding response body`. A JSON-RPC answer carries a `result`
(a hexadecimal quantity) or an `error` with its code and message.

Cancellation wins over everything: a cancelled caller sends nothing.
-/

namespace SnapshotAgent.Network

/-- What became of a sent request. -/
inductive Reply where
  /-- The request could not be sent, for the client's reason. -/
  | unsent (reason : String)
  /-- A server answered with a status and a body. -/
  | answered (status : Nat) (body : String)
  deriving Repr, Inhabited

/-- Who answers requests, by URL. -/
abbrev Responder := String → Reply

/-- Lower-case ASCII letters. -/
def lowerAscii (s : String) : String :=
  String.ofList (s.toList.map fun c => if 'A' ≤ c && c ≤ 'Z' then Char.ofNat (c.toNat + 32) else c)

/-- The URL as the client writes it, when it can be sent to: scheme and host in lower case, and
`/` for an empty path. -/
def absoluteUrl? (url : String) : Option String :=
  let scheme := lowerAscii (String.ofList (url.toList.takeWhile (· ≠ ':')))
  let rest := url.toList.drop (scheme.length)
  match rest with
  | ':' :: '/' :: '/' :: more =>
    if scheme != "http" && scheme != "https" then none
    else
      let host := more.takeWhile fun c => c ≠ '/' && c ≠ '?' && c ≠ '#'
      let path := more.drop host.length
      if host.isEmpty then none
      else
        let path := match path with
          | [] => ['/']
          | '/' :: _ => path
          | _ => '/' :: path
        some (scheme ++ "://" ++ lowerAscii (String.ofList host) ++ String.ofList path)
  | _ => none

/-- The network of a host where no service answers. -/
def unreachable : Responder := fun url =>
  .unsent ("error sending request for url (" ++ url ++ ")")

/-- Builds and sends a request. -/
def send (net : Responder) (url : String) : Reply :=
  match absoluteUrl? url with
  | some u => net u
  | none => .unsent "builder error"

/-- The reason of a body that cannot be read. -/
def undecodable : String := "error decoding response body"

/-- Fetches a JSON document. -/
def fetchJson (net : Responder) (cancelled : Bool) (url : String) :
    Except Metrics.MetricsError Json :=
  if cancelled then .error .cancelled
  else match send net url with
    | .unsent reason => .error (.http url reason)
    | .answered status body =>
      if status < 200 || status ≥ 300 then .error (.status url status)
      else match Json.parse body with
        | .ok j => .ok j
        | .error _ => .error (.http url undecodable)

/-- The block number a JSON-RPC endpoint reports. -/
def blockNumber (net : Responder) (cancelled : Bool) (url : String) :
    Except Metrics.MetricsError Int := do
  let j ← fetchJson net cancelled url
  let .obj _ := j | throw (.http url undecodable)
  let result ← match j.field? "result" with
    | none | some .null => pure none
    | some (.str s) => pure (some s)
    | some _ => throw (.http url undecodable)
  let error ← match j.field? "error" with
    | none | some .null => pure none
    | some e@(.obj _) =>
      match e.field? "code", e.field? "message" with
      | some (.int code), some (.str m) =>
        if code < -9223372036854775808 || code > 9223372036854775807 then throw (.http url undecodable)
        else pure (some (m ++ " (code " ++ toString code ++ ")"))
      | _, _ => throw (.http url undecodable)
    | some _ => throw (.http url undecodable)
  if let some m := error then throw (.rpc url m)
  match result with
  | none => throw (.decode url "response has neither result nor error")
  | some s =>
    match Metrics.parseHexQuantity s with
    | .ok v => pure v
    | .error reason => throw (.decode url reason)

/-- A metric's value, or `null` when it could not be read; only cancellation stops the
collection. -/
def valueOrNull (r : Except Metrics.MetricsError Int) : Except Metrics.MetricsError Json :=
  match r with
  | .ok v => .ok (.int v)
  | .error .cancelled => .error .cancelled
  | .error _ => .ok .null

/-- A decimal field of the JSON document at a URL. -/
def decimalAt (net : Responder) (cancelled : Bool) (url pointer : String) :
    Except Metrics.MetricsError Int := do
  let body ← fetchJson net cancelled url
  (Metrics.parseDecimalField body pointer).mapError (.decode url)

/-- The metrics of an Ethereum node: its latest block, and from its beacon node the latest slot
and the earliest slot that still has blobs. -/
def collectEthereum (net : Responder) (cancelled : Bool) (node : Config.NodeSpec) :
    Except Metrics.MetricsError (List (String × Json)) := do
  let beacon := Metrics.beaconBase node
  let block := blockNumber net cancelled node.url
  let slot := decimalAt net cancelled (beacon ++ "/eth/v1/beacon/headers/head")
    "/data/header/message/slot"
  let blob := decimalAt net cancelled (beacon ++ "/eth/v1/beacon/blob_sidecars/finalized")
    "/blob_info/oldest_blob_slot"
  let block ← valueOrNull block
  let slot ← valueOrNull slot
  let blob ← valueOrNull blob
  pure [("earliest_blob", blob), ("latest_block", block), ("latest_slot", slot)]

/-- The metrics of an Arbitrum node: its latest block. -/
def collectArbitrum (net : Responder) (cancelled : Bool) (node : Config.NodeSpec) :
    Except Metrics.MetricsError (List (String × Json)) := do
  pure [("latest_block", ← valueOrNull (blockNumber net cancelled node.url))]

/-- Posts a webhook for a transport. -/
def postWebhook (net : Responder) (cancelled : Bool) (transport url : String) :
    Except Notify.NotificationError Unit :=
  if cancelled then .error .cancelled
  else match send net url with
    | .unsent reason => .error (.http transport reason)
    | .answered status _ =>
      if status < 200 || status ≥ 300 then .error (.status transport status) else .ok ()

end SnapshotAgent.Network
