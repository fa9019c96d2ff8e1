import Mathlib
import SnapshotAgent.Proofs.Agent.Tick
/-!
# Fanning a notification out

A dispatch hands one payload to every transport that a node's notification settings name, when
the settings enable the payload's event. Each target is tried on its own: a kind that is not
registered is passed over, and a delivery that fails is counted as a failure, neither stopping
the others. What the dispatch answers is how many deliveries were accepted.

This file states the dispatch as the plain program it amounts to (`dispatch_some`): the
deliveries of `sends`, one per target whose kind is registered, in the targets' order, then the
count of those that were accepted. The code runs its targets through one step that also answers
`false` for the unregistered kinds; the two counts agree because those `false`s count nothing,
which `map_mapM_sendResult` shows target by target, carrying the count so far.

## Main statement

`dispatch_fan_out`: without settings, or with settings that leave the payload's event disabled,
a dispatch does nothing and answers `0`; otherwise it is exactly the deliveries of `sends` and
the count of the accepted ones, which is at most the number of targets, and the host keeps
exactly what the transports keep of them.
-/

namespace SnapshotAgent.Agent

open SnapshotAgent.Upload SnapshotAgent.Notify

/-- The deliveries a dispatch to some targets makes: for each target whose kind is registered,
that kind's transport and the target's url, in the targets' order. -/
def sends (notifiers : Notifiers) (targets : List (String × String)) : List (Notifier × String) :=
  targets.filterMap fun t => (notifiers.find t.1).toOption.map (·, t.2)

/-- One target's step as the dispatch takes it: `false` for a kind that is not registered, else
whether its transport accepted the payload. -/
def sendResult (notifiers : Notifiers) (p : Payload) (t : String × String) : HostM Bool :=
  match notifiers.find t.1 with
  | .error _ => pure false
  | .ok n => do
    let r ← deliver n t.2 p
    pure r.isOk

theorem length_filter_id_cons (b : Bool) (bs : List Bool) :
    ((b :: bs).filter id).length = (bs.filter id).length + if b then 1 else 0 := by
  cases b <;> simp

/-- Counting the targets' steps that answered `true` counts the accepted deliveries of `sends`:
an unregistered kind adds a `false` and no delivery. The count so far, `k`, is carried along so
that each target's part can be added before the rest is counted. -/
theorem map_mapM_sendResult (notifiers : Notifiers) (p : Payload) :
    ∀ (ts : List (String × String)) (k : Nat),
      (fun rs => k + (rs.filter id).length) <$> ts.mapM (sendResult notifiers p) =
        (fun rs => k + rs.countP (·.isOk)) <$> (sends notifiers ts).mapM fun s => deliver s.1 s.2 p
  | [], k => by simp [sends]
  | t :: ts, k => by
    cases hfind : notifiers.find t.1 with
    | error e =>
      have hs : sendResult notifiers p t = pure false := by simp [sendResult, hfind]
      have hsends : sends notifiers (t :: ts) = sends notifiers ts := by
        simp [sends, hfind, Except.toOption]
      rw [List.mapM_cons, hs, hsends, ← map_mapM_sendResult notifiers p ts k]
      simp
    | ok n =>
      have hs : sendResult notifiers p t = deliver n t.2 p >>= fun r => pure r.isOk := by
        simp [sendResult, hfind]
      have hsends : sends notifiers (t :: ts) = (n, t.2) :: sends notifiers ts := by
        simp [sends, hfind, Except.toOption]
      rw [List.mapM_cons, hs, hsends, List.mapM_cons]
      simp only [bind_assoc, pure_bind, map_bind, map_pure]
      -- after the first delivery both sides count the rest from one more, or not
      congr 1
      funext r
      have hshift : ∀ x : Nat, k + (x + if r.isOk then 1 else 0) =
          (k + if r.isOk then 1 else 0) + x := fun x => by omega
      have ih := map_mapM_sendResult notifiers p ts (k + if r.isOk then 1 else 0)
      simp only [map_eq_bind_pure_comp, Function.comp_def] at ih
      simp only [length_filter_id_cons, List.countP_cons, hshift]
      exact ih

/-- A dispatch under settings is, when they enable the payload's event, the deliveries of
`sends` and the count of the accepted ones; otherwise nothing. -/
theorem dispatch_some (notifiers : Notifiers) (c : Config.NotificationConfig) (p : Payload) :
    dispatch notifiers (some c) p =
      if enabled c p.event then
        (fun rs => rs.countP (·.isOk)) <$> (sends notifiers c.targets).mapM fun s => deliver s.1 s.2 p
      else pure 0 := by
  unfold dispatch
  dsimp only
  by_cases he : enabled c p.event
  · have hcount := map_mapM_sendResult notifiers p c.targets 0
    simp only [Nat.zero_add] at hcount
    rw [if_neg (by simp [he]), if_pos he, ← hcount, map_eq_bind_pure_comp]
    rfl
  · rw [if_pos (by simp [he]), if_neg he]

theorem length_mapM_run {β γ : Type} (f : β → HostM γ) :
    ∀ (l : List β) (h : Host), ((l.mapM f).run h).1.length = l.length
  | [], _ => rfl
  | b :: l, h => by
    rw [List.mapM_cons]
    show (((l.mapM f).run ((f b).run h).2).1).length + 1 = l.length + 1
    rw [length_mapM_run f l]

/-- A dispatch never counts more acceptances than there are targets. -/
theorem dispatch_le_targets (notifiers : Notifiers) (c : Config.NotificationConfig) (p : Payload)
    (h : Host) : ((dispatch notifiers (some c) p).run h).1 ≤ c.targets.length := by
  rw [dispatch_some]
  split
  · -- the count is over the results of the deliveries, one per send
    calc (((fun rs => rs.countP (·.isOk)) <$>
          (sends notifiers c.targets).mapM fun s => deliver s.1 s.2 p).run h).1
        = ((((sends notifiers c.targets).mapM fun s => deliver s.1 s.2 p).run h).1).countP
            (·.isOk) := rfl
      _ ≤ (((sends notifiers c.targets).mapM fun s => deliver s.1 s.2 p).run h).1.length :=
          List.countP_le_length
      _ = (sends notifiers c.targets).length := length_mapM_run _ _ h
      _ ≤ c.targets.length := List.length_filterMap_le _ _
  · exact Nat.zero_le _

/-! ## The fan-out -/

/-- A dispatch fans its payload out to every registered transport its settings name. Without
settings, or with settings that leave the payload's event disabled, it does nothing and answers
`0`. Otherwise it delivers the payload once to each target whose kind is registered, to that
kind's transport and the target's url, in the targets' order, passing over the kinds that are
not registered, whatever each delivery answers; it answers how many deliveries were accepted, at
most the number of targets; and the host keeps exactly what the transports keep. -/
theorem dispatch_fan_out (notifiers : Notifiers) (p : Payload) :
    dispatch notifiers none p = pure 0 ∧
    ∀ c : Config.NotificationConfig,
      (enabled c p.event = false → dispatch notifiers (some c) p = pure 0) ∧
      (enabled c p.event = true → dispatch notifiers (some c) p =
        (fun rs => rs.countP (·.isOk)) <$> (sends notifiers c.targets).mapM
          fun s => deliver s.1 s.2 p) ∧
      ∀ h : Host, ((dispatch notifiers (some c) p).run h).1 ≤ c.targets.length ∧
        ((dispatch notifiers (some c) p).run h).2 = h.notified (dispatched notifiers (some c) p) :=
  ⟨rfl, fun c => ⟨fun he => by rw [dispatch_some, if_neg (by simp [he])],
    fun he => by rw [dispatch_some, if_pos he],
    fun h => ⟨dispatch_le_targets notifiers c p h, dispatch_run notifiers (some c) p h⟩⟩⟩

/-- A failure notice for a node whose settings enable failures and name a recording transport
and a kind that is not registered: the transport is handed the notice once, and the dispatch
answers one acceptance. -/
theorem failure_fan_out_to_one_transport :
    let notifiers : Notifiers := ⟨[("discord", ⟨"discord", .recording false⟩)]⟩
    let c : Config.NotificationConfig :=
      { failure := true, targets := [("discord", "https://hooks/a"), ("email", "ops")] }
    let p : Payload := { event := .failure, node := "eth", timestamp := ⟨0, 0, 0⟩, message := "failed" }
    enabled c p.event = true ∧
      dispatch notifiers (some c) p =
        (fun rs => rs.countP (·.isOk)) <$> [(⟨"discord", .recording false⟩, "https://hooks/a")].mapM
          fun s => deliver s.1 s.2 p :=
  ⟨rfl, ((dispatch_fan_out _ _).2 _).2.1 rfl⟩

end SnapshotAgent.Agent
