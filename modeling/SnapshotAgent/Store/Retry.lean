import SnapshotAgent.Store.Error
import SnapshotAgent.Time.Duration
/-!
# Retrying transient database failures

A `RetryPolicy` allows a number of attempts in all (at least one) and a base delay. An operation
is run until it succeeds, fails with an error that is not transient, or has used every attempt;
in the last case the failure is `StoreError.exhausted` with the last transient error. Before the
attempt after attempt `k` (from 1) the policy waits `baseDelay * 2^(k-1)`, where the power stops
at the largest 32-bit number and the product at the longest duration (`RetryPolicy.delayFor`).

An operation here is a function from the attempt number (from 0) to its outcome, and
`RetryPolicy.run` returns the final outcome together with how many attempts ran and the waits
made between them, in order.
-/

namespace SnapshotAgent.Store

open SnapshotAgent.Time

/-- How often, and how patiently, a store operation is retried. -/
structure RetryPolicy where
  /-- Attempts in all, the first included. -/
  attempts : Nat
  /-- The wait before the second attempt; each later wait doubles. -/
  baseDelay : Duration
  deriving Repr, DecidableEq, Inhabited

/-- A policy with at least one attempt. -/
def RetryPolicy.new (attempts : Nat) (baseDelay : Duration) : RetryPolicy :=
  ⟨max attempts 1, baseDelay⟩

/-- The policy that never retries. -/
def RetryPolicy.once : RetryPolicy := RetryPolicy.new 1 Duration.zero

/-- The policy used when none is configured: three attempts, 100 ms apart at first. -/
def RetryPolicy.standard : RetryPolicy := ⟨3, Duration.ofMillis 100⟩

/-- `2^e` as a 32-bit number, or the largest 32-bit number when it does not fit. -/
def pow2Saturating (e : Nat) : Nat :=
  if e < 32 then Nat.pow 2 e else 4294967295

/-- The wait after attempt `attempt` (from 1): the base delay doubled `attempt - 1` times. -/
def RetryPolicy.delayFor (p : RetryPolicy) (attempt : Nat) : Duration :=
  p.baseDelay.saturatingMul (pow2Saturating (attempt - 1))

/-- The final outcome of a retried operation, the number of attempts made, and the waits
between them. -/
structure RetryRun (α : Type) where
  outcome : Except StoreError α
  calls : Nat
  waits : List Duration

/-- Runs attempts `k`, `k + 1`, … while they fail transiently and attempts remain, waiting
before each new attempt. -/
def retryFrom {α : Type} (p : RetryPolicy) (op : Nat → Except StoreError α) (k : Nat) :
    Nat → RetryRun α
  | 0 => ⟨op k, k + 1, []⟩
  | left + 1 =>
    match op k with
    | .ok v => ⟨.ok v, k + 1, []⟩
    | .error (.database e) =>
      if e.isTransient then
        let rest := retryFrom p op (k + 1) left
        { rest with waits := p.delayFor (k + 1) :: rest.waits }
      else ⟨.error (.database e), k + 1, []⟩
    | .error e => ⟨.error e, k + 1, []⟩

/-- Runs an operation under the policy. -/
def RetryPolicy.run {α : Type} (p : RetryPolicy) (op : Nat → Except StoreError α) : RetryRun α :=
  let total := max p.attempts 1
  let last := retryFrom p op 0 (total - 1)
  match last.outcome with
  | .error (.database e) =>
    if e.isTransient then { last with outcome := .error (.exhausted total e) } else last
  | _ => last

end SnapshotAgent.Store
