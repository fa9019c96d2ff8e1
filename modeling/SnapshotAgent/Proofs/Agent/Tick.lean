import SnapshotAgent.Proofs.Agent.Skip
import SnapshotAgent.Proofs.Store.Outcomes
import SnapshotAgent.Proofs.Store.Creation
/-!
# A node's upload tick

A tick of a node's upload job consults three collaborators in a fixed order: the skip check (the
store, then the tool's report), the metrics module of the node's protocol, and the tool again to
start the upload, after which the store records it. `NodeJob.execute_run` states the tick as that
sequence, one equation, and each collaborator has its own equation:

* a notification changes nothing but the deliveries, and a dispatch hands its payload to every
  recording transport the node's settings name, when they enable the event (`dispatch_run`);
* collecting metrics changes nothing and reads only the caller's cancellation and the network
  (`NodeJob.collection_congr`); a cancelled collection stops the tick, and any other failure is
  recorded as the data `{error: <its text>}` (`NodeJob.protocolData_recorded`);
* starting is one invocation of `node run upload <node>`, then the insert of an unseeded row at
  the host's time (`NodeJob.initiate_run`), which on a sound store is the typed state's `create`
  (`writeStore_createUpload`).

## Main statement

`node_tick_behaviour`: on every host over a sound store, a tick with a scheduled or manual
trigger skips, notified once, when the check finds an upload running; fails with the check's
failure, notified once unless it is a cancellation, when the check fails; and otherwise, unless
the collection is cancelled, calls `node run upload <node>` exactly once. A failed start fails
the tick, notified; after a start the store decides: a new running row of the node with the
job's trigger and the recorded data, and no notification; a conflict with the node's running
row, which is a skip, notified; any other refusal, which is a failure, notified. Only the
recorded row ever changes the store.
-/

namespace SnapshotAgent.Agent

open SnapshotAgent.Upload SnapshotAgent.Notify SnapshotAgent.Store SnapshotAgent.Time

/-! ## Notifications -/

/-- The host after the transports kept the deliveries `ds`. -/
def Host.notified (h : Host) (ds : List Delivery) : Host :=
  { h with deliveries := h.deliveries ++ ds }

@[simp] theorem Host.notified_nil (h : Host) : h.notified [] = h := by
  simp [Host.notified]

theorem Host.notified_notified (h : Host) (ds ds' : List Delivery) :
    (h.notified ds).notified ds' = h.notified (ds ++ ds') := by
  simp [Host.notified, List.append_assoc]

/-- What a transport keeps of a payload it is handed: a recording transport keeps it, a webhook
posts it and keeps nothing. -/
def recorded (n : Notifier) (url : String) (p : Payload) : List Delivery :=
  match n.transport with
  | .recording _ => [⟨n.name, url, p⟩]
  | .webhook => []

/-- What the transports keep of a dispatch: for settings that enable the payload's event, what
each target's transport keeps, in the targets' order; a target whose transport is not registered
is passed over. -/
def dispatched (notifiers : Notifiers) (settings : Option Config.NotificationConfig)
    (p : Payload) : List Delivery :=
  match settings with
  | none => []
  | some c =>
    if enabled c p.event then
      c.targets.flatMap fun t =>
        match notifiers.find t.1 with
        | .ok n => recorded n t.2 p
        | .error _ => []
    else []

theorem deliver_run (n : Notifier) (url : String) (p : Payload) (h : Host) :
    ((deliver n url p).run h).2 = h.notified (recorded n url p) := by
  obtain ⟨name, transport⟩ := n
  cases transport with
  | webhook =>
    rw [recorded, Host.notified_nil]
    rfl
  | recording fails => cases fails <;> rfl

/-- Steps that each only add deliveries, run in turn, add them all in order. -/
theorem mapM_notified {α β : Type} {f : α → HostM β} {g : α → List Delivery}
    (hf : ∀ a h, ((f a).run h).2 = h.notified (g a)) (as : List α) (h : Host) :
    ((as.mapM f).run h).2 = h.notified (as.flatMap g) := by
  induction as generalizing h with
  | nil => exact (Host.notified_nil h).symm
  | cons a as ih =>
    rw [List.mapM_cons]
    show ((as.mapM f).run ((f a).run h).2).2 = _
    rw [ih, hf, Host.notified_notified, List.flatMap_cons]

/-- A dispatch changes nothing but the deliveries, and adds what the transports keep. -/
theorem dispatch_run (notifiers : Notifiers) (settings : Option Config.NotificationConfig)
    (p : Payload) (h : Host) :
    ((dispatch notifiers settings p).run h).2 = h.notified (dispatched notifiers settings p) := by
  cases settings with
  | none => exact (Host.notified_nil h).symm
  | some c =>
    unfold dispatch dispatched
    by_cases he : enabled c p.event
    · simp only [he, Bool.not_true, Bool.false_eq_true, if_false, if_true]
      refine mapM_notified (fun t h' => ?_) c.targets h
      obtain ⟨kind, url⟩ := t
      dsimp only
      cases notifiers.find kind with
      | error => exact (Host.notified_nil h').symm
      | ok n => exact deliver_run n url p h'
    · simp only [he, Bool.not_false, if_true, Bool.false_eq_true, if_false]
      exact (Host.notified_nil h).symm

/-- The notification of a job's node about `event`, worded `message`, at time `t`, with the
node's protocol and the job's trigger as details. -/
def NodeJob.notice (j : NodeJob) (event : Event) (message : String) (t : Instant) : Payload :=
  (({ event, node := j.node.name, timestamp := t, message } : Payload).withDetail "protocol"
    (.str j.node.protocol)).withDetail "trigger" (.str j.trigger.name)

/-- The notification of a failure: the job's notice, with the failure's text as its `error`
detail. -/
def NodeJob.failureNotice (j : NodeJob) (message : String) (e : Failure) (t : Instant) :
    Payload :=
  (j.notice .failure message t).withDetail "error" (.str e.message)

section Job

variable (j : NodeJob)

theorem NodeJob.notifySkip_run (message : String) (h : Host) :
    ((j.notifySkip message).run h).2 =
      h.notified (dispatched j.notifiers j.node.notifications (j.notice .skip message h.clock)) :=
  dispatch_run _ _ _ h

theorem NodeJob.notifyFailure_run (message : String) (e : Failure) (h : Host) :
    ((j.notifyFailure message e).run h).2 =
      h.notified (if e.isCancelled then [] else
        dispatched j.notifiers j.node.notifications (j.failureNotice message e h.clock)) := by
  unfold NodeJob.notifyFailure
  cases e.isCancelled
  · exact dispatch_run _ _ _ h
  · exact (Host.notified_nil h).symm

/-! ## Metrics -/

/-- What collecting the node's metrics answers a caller on host `h`: the answer of the module
registered for the node's protocol, or the registry's refusal when there is none. -/
def NodeJob.collection (h : Host) : Except Metrics.MetricsError ProtocolData :=
  match j.protocols.find j.node.protocol with
  | .ok m => ((collect m j.node).run h).1
  | .error e => .error e

/-- The protocol data a tick records from a collection: the metrics, or the failure's text under
`error`. -/
def recordedData : Except Metrics.MetricsError ProtocolData → ProtocolData
  | .ok data => data
  | .error e => [("error", .str e.message)]

theorem collect_host (m : Metrics.Module) (node : Config.NodeSpec) (h : Host) :
    ((collect m node).run h).2 = h := by
  obtain ⟨store, tool, calls, deliveries, cancelled, cancelDue, inGroup, network, clock⟩ := h
  unfold collect
  cases m.collector with
  | fixed data failure refuses heedsToken =>
    cases heedsToken <;> cases refuses <;> cases cancelled <;> cases failure <;> rfl
  | ethereum => rfl
  | arbitrum => rfl

/-- A collection reads the caller's cancellation and the network, and nothing else of the host. -/
theorem collect_congr (m : Metrics.Module) (node : Config.NodeSpec) {h h' : Host}
    (hc : h'.cancelled = h.cancelled) (hn : h'.network = h.network) :
    ((collect m node).run h').1 = ((collect m node).run h).1 := by
  obtain ⟨store, tool, calls, deliveries, cancelled, cancelDue, inGroup, network, clock⟩ := h
  obtain ⟨store', tool', calls', deliveries', cancelled', cancelDue', inGroup', network', clock'⟩ := h'
  simp only at hc hn
  subst hc hn
  unfold collect
  cases m.collector with
  | fixed data failure refuses heedsToken =>
    cases heedsToken <;> cases refuses <;> cases cancelled' <;> cases failure <;> rfl
  | ethereum => rfl
  | arbitrum => rfl

theorem NodeJob.collection_congr {h h' : Host} (hc : h'.cancelled = h.cancelled)
    (hn : h'.network = h.network) : j.collection h' = j.collection h := by
  unfold NodeJob.collection
  cases j.protocols.find j.node.protocol with
  | ok m => exact collect_congr m j.node hc hn
  | error e => rfl

/-- The protocol data leaves the host: a cancelled collection fails, any other failure is
recorded as its text. -/
theorem NodeJob.protocolData_run (h : Host) :
    j.protocolData.run h =
      (match j.collection h with
        | .ok data => .ok data
        | .error .cancelled => .error .cancelled
        | .error e => .ok [("error", .str e.message)], h) := by
  unfold NodeJob.protocolData NodeJob.collection
  cases j.protocols.find j.node.protocol with
  | ok m =>
    dsimp only
    rw [run_bind, run_liftM, collect_host]
    rcases ((collect m j.node).run h).1 with e | data
    · cases e <;> rfl
    · rfl
  | error e => cases e <;> rfl

theorem NodeJob.protocolData_cancelled {h : Host} (hc : j.collection h = .error .cancelled) :
    j.protocolData.run h = (.error .cancelled, h) := by
  rw [NodeJob.protocolData_run, hc]

theorem NodeJob.protocolData_recorded {h : Host} (hc : j.collection h ≠ .error .cancelled) :
    j.protocolData.run h = (.ok (recordedData (j.collection h)), h) := by
  rw [NodeJob.protocolData_run]
  rcases hcol : j.collection h with e | data
  · cases e with
    | cancelled => exact absurd hcol hc
    | _ => rfl
  · rfl

end Job

/-! ## Starting an upload -/

/-- The upload a request records at time `t` with no report to seed it: started at `t`, with no
progress. -/
def UploadRequest.unseeded (req : UploadRequest) (t : Instant) : NewUpload :=
  { nodeName := req.node, protocol := req.protocol, nodeType := req.nodeType, startedAt := t,
    trigger := req.trigger, protocolData := req.protocolData }

/-- The upload a tick records at time `t` with protocol data `data`. -/
def NodeJob.newUpload (j : NodeJob) (data : ProtocolData) (t : Instant) : NewUpload :=
  (UploadRequest.forNode j.node j.trigger data).unseeded t

-- stated on the program, so that the kernel compares the two uploads before it could unfold the
-- store's statements
theorem Manager.insert_none (req : UploadRequest) :
    Manager.insert req none =
      (liftM now >>= fun t => writeStore (·.createUpload (req.unseeded t)) : Run Int) := rfl

theorem Manager.insert_none_run (req : UploadRequest) (h : Host) :
    (Manager.insert req none).run h =
      (writeStore (·.createUpload (req.unseeded h.clock))).run h := by
  rw [Manager.insert_none, run_bind, run_liftM, now_run]

/-- Initiating starts the upload with the tool; only a start that succeeds is recorded. -/
theorem Manager.initiate_run (m : Manager) {req : UploadRequest}
    (ht : req.trigger ≠ .discovered) (h : Host) :
    (m.initiate req).run h =
      match (invoke m.tool (startArgs req.node)).run h with
      | (.ok _, h₁) => (writeStore (·.createUpload (req.unseeded h₁.clock))).run h₁
      | (.error e, h₁) => (.error (.command e), h₁) := by
  unfold Manager.initiate
  rw [if_neg ht]
  show (invokeOk m.tool (startArgs req.node) >>= fun _ => Manager.insert req none).run h = _
  rw [run_bind, invokeOk_run]
  rcases (invoke m.tool (startArgs req.node)).run h with ⟨e | out, h₁⟩
  · rfl
  · exact Manager.insert_none_run req h₁

theorem NodeJob.initiate_run {j : NodeJob} (ht : j.trigger ≠ .discovered) (data : ProtocolData)
    (h : Host) :
    (j.manager.initiate (UploadRequest.forNode j.node j.trigger data)).run h =
      match (invoke j.manager.tool (startArgs j.node.name)).run h with
      | (.ok _, h₁) => (writeStore (·.createUpload (j.newUpload data h₁.clock))).run h₁
      | (.error e, h₁) => (.error (.command e), h₁) :=
  Manager.initiate_run j.manager ht h

/-- An insert from a host that has not cancelled, on the database of a sound state, is the
creation on the typed state. -/
theorem writeStore_createUpload {S : UploadTables} {h : Host} (hS : S.Sound)
    (hdb : h.store.db = S.db) (hc : h.cancelled = false) (u : NewUpload) :
    (writeStore (·.createUpload u)).run h =
      match S.create u with
      | .ok (S', id) => (.ok id, { h with store := { h.store with db := S'.db } })
      | .error e => (.error (.store e), h) := by
  rw [writeStore_run, hc, if_neg Bool.false_ne_true, hdb, Database.createUpload_eq hS.owned]
  cases S.create u <;> rfl

/-- The row a tick records: after every other, with a new id, running, of the job's node and
trigger, with the protocol data as compact JSON; the store stays sound. -/
theorem NodeJob.create_newUpload {j : NodeJob} {S : UploadTables} (hS : S.Sound)
    {data : ProtocolData} {t : Instant} {S' : UploadTables} {id : Int}
    (hc : S.create (j.newUpload data t) = .ok (S', id)) :
    S'.Sound ∧ (∀ o ∈ S.uploads, o.id < id) ∧
      ∃ v, S'.uploads = S.uploads ++ [v] ∧ v.id = id ∧ v.status = .running ∧
        v.nodeName = j.node.name ∧ v.trigger = j.trigger ∧
        v.protocolData = Json.compact (.obj data) := by
  obtain ⟨rfl, -, -, hup, -⟩ := UploadTables.create_ok hc
  exact ⟨hS.create hc, fun o ho => S.id_lt_nextId ho, _, hup, rfl, rfl, rfl, rfl, rfl⟩

/-! ## The tick -/

/-- A tick is the skip check, then the metrics, then the start and its record. A failed check is
notified as a failure; a skip is notified; a failed collection of metrics (a cancellation, the
only one not recorded) ends the tick unnotified; a conflict of the record is a skip. -/
theorem NodeJob.execute_run (j : NodeJob) (h : Host) :
    j.execute.run h =
      match (j.manager.shouldSkip j.node.name).run h with
      | (.error e, h₁) => (.error e, ((j.notifyFailure "Upload skip check failed" e).run h₁).2)
      | (.ok true, h₁) =>
        (.ok .skipped,
          ((j.notifySkip "Upload skipped: an upload is already running for this node").run h₁).2)
      | (.ok false, h₁) =>
        match j.protocolData.run h₁ with
        | (.error e, h₂) => (.error e, h₂)
        | (.ok data, h₂) =>
          match (j.manager.initiate (UploadRequest.forNode j.node j.trigger data)).run h₂ with
          | (.ok id, h₃) => (.ok (.initiated id), h₃)
          | (.error e, h₃) =>
            if e.isConflict then
              (.ok .skipped,
                ((j.notifySkip "Upload skipped: another upload for this node started first").run
                  h₃).2)
            else (.error e, ((j.notifyFailure "Upload initiation failed" e).run h₃).2) := by
  unfold NodeJob.execute
  rw [run_bind, run_tryCatch]
  rcases (j.manager.shouldSkip j.node.name).run h with ⟨e | (_ | _), h₁⟩
  · rfl
  · dsimp only
    rw [if_neg Bool.false_ne_true, run_bind]
    rcases j.protocolData.run h₁ with ⟨e | data, h₂⟩
    · rfl
    · dsimp only
      rw [run_tryCatch, run_map]
      rcases (j.manager.initiate (UploadRequest.forNode j.node j.trigger data)).run h₂ with
        ⟨e | id, h₃⟩
      · dsimp only
        by_cases hc : e.isConflict = true
        · rw [if_pos hc, if_pos hc]
          rfl
        · rw [if_neg hc, if_neg hc]
          rfl
      · rfl
  · rfl

section Tick

variable {j : NodeJob} {h : Host} {S : UploadTables}

/-- The tick of node job `j` on every host `h` whose store is the database of a sound state `S`,
for a scheduled or manual trigger, whatever the tool answers.

A check that finds an upload running ends in a skip, notified once. A failed check ends in its
failure, notified once as a failure unless it is a cancellation. Either way the check wrote no
store, delivered nothing, and called the tool at most for the report. A check that lets the
upload start asked the tool once; then a cancelled collection of metrics ends the tick there.
Otherwise the tool is called once more, to start the upload, and the data recorded are the
metrics or `{error: <reason>}`. A failed start ends in its failure, notified unless a
cancellation. After a start the store decides: a new running row, of the node with the job's
trigger and the data, initiates the upload with nothing notified; a conflict, which only a
running row of the node causes, is a skip, notified; any other refusal is a failure, notified.
No other step writes the store. -/
theorem node_tick_behaviour (hS : S.Sound) (hdb : h.store.db = S.db)
    (ht : j.trigger ≠ .discovered) :
    (∀ h₁, (j.manager.shouldSkip j.node.name).run h = (.ok true, h₁) →
      j.execute.run h = (.ok .skipped, h₁.notified (dispatched j.notifiers j.node.notifications
        (j.notice .skip "Upload skipped: an upload is already running for this node" h.clock)))) ∧
    (∀ e h₁, (j.manager.shouldSkip j.node.name).run h = (.error e, h₁) →
      j.execute.run h = (.error e, h₁.notified (if e.isCancelled then [] else
        dispatched j.notifiers j.node.notifications
          (j.failureNotice "Upload skip check failed" e h.clock)))) ∧
    (∀ r h₁, (j.manager.shouldSkip j.node.name).run h = (r, h₁) →
      h₁.store = h.store ∧ h₁.deliveries = h.deliveries ∧
        (h₁.calls = h.calls ∨ h₁.calls = h.calls ++ [j.manager.tool :: infoArgs j.node.name])) ∧
    (∀ h₁, (j.manager.shouldSkip j.node.name).run h = (.ok false, h₁) →
      h₁.calls = h.calls ++ [j.manager.tool :: infoArgs j.node.name] ∧
      (j.collection h = .error .cancelled → j.execute.run h = (.error .cancelled, h₁)) ∧
      (j.collection h ≠ .error .cancelled →
        ∀ A h₂, (invoke j.manager.tool (startArgs j.node.name)).run h₁ = (A, h₂) →
          h₂.store = h.store ∧ h₂.deliveries = h.deliveries ∧
          h₂.calls = h₁.calls ++ [j.manager.tool :: startArgs j.node.name] ∧
          (∀ e, A = .error e →
            j.execute.run h = (.error (.command e), h₂.notified
              (if (Failure.command e).isCancelled then [] else
                dispatched j.notifiers j.node.notifications
                  (j.failureNotice "Upload initiation failed" (.command e) h.clock)))) ∧
          (∀ out, A = .ok out →
            j.execute.run h =
              match S.create (j.newUpload (recordedData (j.collection h)) h.clock) with
              | .ok (S', id) =>
                (.ok (.initiated id), { h₂ with store := { h₂.store with db := S'.db } })
              | .error e =>
                if (Failure.store e).isConflict then
                  (.ok .skipped, h₂.notified (dispatched j.notifiers j.node.notifications
                    (j.notice .skip "Upload skipped: another upload for this node started first"
                      h.clock)))
                else
                  (.error (.store e), h₂.notified (dispatched j.notifiers j.node.notifications
                    (j.failureNotice "Upload initiation failed" (.store e) h.clock)))))) ∧
    (∀ data S' id, S.create (j.newUpload data h.clock) = .ok (S', id) →
      S'.Sound ∧ (∀ o ∈ S.uploads, o.id < id) ∧
      ∃ v, S'.uploads = S.uploads ++ [v] ∧ v.id = id ∧ v.status = .running ∧
        v.nodeName = j.node.name ∧ v.trigger = j.trigger ∧
        v.protocolData = Json.compact (.obj data)) ∧
    (∀ data n, S.create (j.newUpload data h.clock) = .error (.conflict n) →
      n = j.node.name ∧ ∃ o ∈ S.uploads, o.status = .running ∧ o.nodeName = j.node.name) := by
  have hrun := j.execute_run h
  have hframe : ∀ r h₁, (j.manager.shouldSkip j.node.name).run h = (r, h₁) →
      h.Beside h₁ ∧ (h₁.calls = h.calls ∨
        h₁.calls = h.calls ++ [j.manager.tool :: infoArgs j.node.name]) := by
    intro r h₁ hr
    have hf := shouldSkip_frame j.manager j.node.name h
    rw [hr] at hf
    exact hf
  refine ⟨fun h₁ hskip => ?_, fun e h₁ hskip => ?_, fun r h₁ hskip => ?_, fun h₁ hskip => ?_,
    fun data S' id hc => NodeJob.create_newUpload hS hc,
    fun data n hc => UploadTables.create_conflict hc⟩
  · obtain ⟨hb, -⟩ := hframe _ _ hskip
    rw [hrun, hskip]
    dsimp only
    rw [NodeJob.notifySkip_run, hb.clock]
  · obtain ⟨hb, -⟩ := hframe _ _ hskip
    rw [hrun, hskip]
    dsimp only
    rw [NodeJob.notifyFailure_run, hb.clock]
  · obtain ⟨hb, hcalls⟩ := hframe _ _ hskip
    exact ⟨hb.store, hb.deliveries, hcalls⟩
  -- the check let the upload start: the host after it is the caller's, with the report's call
  obtain ⟨hb, -⟩ := hframe _ _ hskip
  obtain ⟨hc, hc₁, hcalls₁⟩ := shouldSkip_false hskip
  have hcol : j.collection h₁ = j.collection h := j.collection_congr (hc₁.trans hc.symm) hb.network
  refine ⟨hcalls₁, fun hcan => ?_, fun hcan A h₂ hA => ?_⟩
  · rw [hrun, hskip]
    dsimp only
    rw [j.protocolData_cancelled (hcol.trans hcan)]
  have hbA : h₁.Beside h₂ := by
    have hf := invoke_beside j.manager.tool (startArgs j.node.name) h₁
    rwa [hA] at hf
  have hcallsA : h₂.calls = h₁.calls ++ [j.manager.tool :: startArgs j.node.name] := by
    have hf := invoke_calls j.manager.tool (startArgs j.node.name) hc₁
    rwa [hA] at hf
  have hdata : j.protocolData.run h₁ = (.ok (recordedData (j.collection h)), h₁) := by
    rw [j.protocolData_recorded (by rw [hcol]; exact hcan), hcol]
  refine ⟨hbA.store.trans hb.store, hbA.deliveries.trans hb.deliveries, hcallsA,
    fun e hAe => ?_, fun out hAo => ?_⟩
  · -- a failed start: the tool's error is never a conflict
    rw [hrun, hskip]
    dsimp only
    rw [hdata]
    dsimp only
    rw [NodeJob.initiate_run ht, hA, hAe]
    dsimp only
    rw [if_neg (show (Failure.command e).isConflict ≠ true from Bool.false_ne_true),
      NodeJob.notifyFailure_run, hbA.clock, hb.clock]
  · -- a start that answered was made by a caller that had not cancelled, so the store is asked
    have hc₂ : h₂.cancelled = false := by
      refine (invoke_answered hA fun p hp => ?_).2.1
      rw [hAo] at hp
      cases hp
    rw [hrun, hskip]
    dsimp only
    rw [hdata]
    dsimp only
    rw [NodeJob.initiate_run ht, hA, hAo]
    dsimp only
    rw [writeStore_createUpload hS (by rw [hbA.store, hb.store, hdb]) hc₂, hbA.clock, hb.clock]
    rcases S.create (j.newUpload (recordedData (j.collection h)) h.clock) with e | ⟨S', id⟩
    · dsimp only
      by_cases hcf : (Failure.store e).isConflict = true
      · rw [if_pos hcf, if_pos hcf, NodeJob.notifySkip_run, hbA.clock, hb.clock]
      · -- a refusal of the store is never a cancellation
        rw [if_neg hcf, if_neg hcf, NodeJob.notifyFailure_run, hbA.clock, hb.clock]
        rfl
    · rfl

/-- A manual tick of a node of the default protocols, on an empty store with a tool that has no
answer scripted: the check asks the tool, whose failure fails it. -/
theorem node_tick_on_new_store :
    let S₀ := UploadTables.run []
    let h₀ : Host := { store := ⟨S₀.db, false⟩, tool := .scripted {}, clock := ⟨0, 0, 0⟩ }
    let j₀ : NodeJob :=
      { node := { name := "n", protocol := "ethereum", nodeType := "archive",
                  url := "http://127.0.0.1:8545", beaconUrl := none, schedule := none,
                  notifications := none },
        trigger := .manual, manager := { tool := "bv" }, protocols := Metrics.Protocols.defaults,
        notifiers := Notifiers.defaults }
    (S₀.Sound ∧ h₀.store.db = S₀.db ∧ j₀.trigger ≠ .discovered) ∧
      (∀ h₁, (j₀.manager.shouldSkip j₀.node.name).run h₀ = (.ok true, h₁) →
        j₀.execute.run h₀ = (.ok .skipped, h₁.notified
          (dispatched j₀.notifiers j₀.node.notifications
            (j₀.notice .skip "Upload skipped: an upload is already running for this node"
              h₀.clock)))) ∧
      (∀ e h₁, (j₀.manager.shouldSkip j₀.node.name).run h₀ = (.error e, h₁) →
        j₀.execute.run h₀ = (.error e, h₁.notified (if e.isCancelled then [] else
          dispatched j₀.notifiers j₀.node.notifications
            (j₀.failureNotice "Upload skip check failed" e h₀.clock)))) ∧
      (∀ r h₁, (j₀.manager.shouldSkip j₀.node.name).run h₀ = (r, h₁) →
        h₁.store = h₀.store ∧ h₁.deliveries = h₀.deliveries ∧
          (h₁.calls = h₀.calls ∨
            h₁.calls = h₀.calls ++ [j₀.manager.tool :: infoArgs j₀.node.name])) ∧
      (∀ h₁, (j₀.manager.shouldSkip j₀.node.name).run h₀ = (.ok false, h₁) →
        h₁.calls = h₀.calls ++ [j₀.manager.tool :: infoArgs j₀.node.name] ∧
        (j₀.collection h₀ = .error .cancelled → j₀.execute.run h₀ = (.error .cancelled, h₁)) ∧
        (j₀.collection h₀ ≠ .error .cancelled →
          ∀ A h₂, (invoke j₀.manager.tool (startArgs j₀.node.name)).run h₁ = (A, h₂) →
            h₂.store = h₀.store ∧ h₂.deliveries = h₀.deliveries ∧
            h₂.calls = h₁.calls ++ [j₀.manager.tool :: startArgs j₀.node.name] ∧
            (∀ e, A = .error e →
              j₀.execute.run h₀ = (.error (.command e), h₂.notified
                (if (Failure.command e).isCancelled then [] else
                  dispatched j₀.notifiers j₀.node.notifications
                    (j₀.failureNotice "Upload initiation failed" (.command e) h₀.clock)))) ∧
            (∀ out, A = .ok out →
              j₀.execute.run h₀ =
                match S₀.create (j₀.newUpload (recordedData (j₀.collection h₀)) h₀.clock) with
                | .ok (S', id) =>
                  (.ok (.initiated id), { h₂ with store := { h₂.store with db := S'.db } })
                | .error e =>
                  if (Failure.store e).isConflict then
                    (.ok .skipped, h₂.notified (dispatched j₀.notifiers j₀.node.notifications
                      (j₀.notice .skip "Upload skipped: another upload for this node started first"
                        h₀.clock)))
                  else
                    (.error (.store e), h₂.notified (dispatched j₀.notifiers j₀.node.notifications
                      (j₀.failureNotice "Upload initiation failed" (.store e) h₀.clock)))))) ∧
      (∀ data S' id, S₀.create (j₀.newUpload data h₀.clock) = .ok (S', id) →
        S'.Sound ∧ (∀ o ∈ S₀.uploads, o.id < id) ∧
        ∃ v, S'.uploads = S₀.uploads ++ [v] ∧ v.id = id ∧ v.status = .running ∧
          v.nodeName = j₀.node.name ∧ v.trigger = j₀.trigger ∧
          v.protocolData = Json.compact (.obj data)) ∧
      (∀ data n, S₀.create (j₀.newUpload data h₀.clock) = .error (.conflict n) →
        n = j₀.node.name ∧ ∃ o ∈ S₀.uploads, o.status = .running ∧ o.nodeName = j₀.node.name) := by
  intro S₀ h₀ j₀
  exact ⟨⟨UploadTables.run_sound _, rfl, by decide⟩,
    node_tick_behaviour (UploadTables.run_sound _) rfl (by decide)⟩

end Tick

end SnapshotAgent.Agent
