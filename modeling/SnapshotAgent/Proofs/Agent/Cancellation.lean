import Mathlib
import SnapshotAgent.Proofs.Agent.Tick
import SnapshotAgent.Agent.Assembly
/-!
# A cancelled caller changes nothing

A caller whose token is already cancelled gets a cancellation from every operation of the
manager and of the jobs, before anything is written, started or sent. Each operation meets the
cancellation at its first step that reaches outside the agent:

* a store read or write fails as cancelled before it touches the store (`readStore`,
  `writeStore`);
* an invocation of the tool answers `cancelled` without running the program; a scripted tool
  still records the attempt, as the scripted runner does (`invoke_cancelled`);
* a failure notification is not sent for a cancellation (`NodeJob.notifyFailure`).

`StopsCancelled op h` says that `op` fails on `h` with a cancellation and leaves the host
`Host.Untouched`. It passes through sequencing (`StopsCancelled.bind`), so each operation's
statement is its first step's.
-/

namespace SnapshotAgent.Agent

open SnapshotAgent.Upload SnapshotAgent.Tool

/-- The host after steps that wrote, started and sent nothing: the store and the deliveries are
as they were, the script gave no reply, and a tool run as child processes ran no program. Only a
scripted tool's record of attempted invocations may have grown. -/
structure Host.Untouched (h h' : Host) : Prop where
  store : h'.store = h.store
  deliveries : h'.deliveries = h.deliveries
  tool : h'.tool = h.tool
  ran_nothing : ∀ standIn limit, h.tool = .processes standIn limit → h'.calls = h.calls

theorem Host.Untouched.refl (h : Host) : h.Untouched h :=
  ⟨rfl, rfl, rfl, fun _ _ _ => rfl⟩

/-- What a cancelled caller gets from an operation: a cancellation, with the host untouched. -/
def StopsCancelled {α : Type} (op : Run α) (h : Host) : Prop :=
  ∃ e h', op.run h = (.error e, h') ∧ e.isCancelled = true ∧ h.Untouched h'

section Steps

variable {α β : Type} {h : Host}

theorem StopsCancelled.bind {x : Run α} (hx : StopsCancelled x h) (f : α → Run β) :
    StopsCancelled (x >>= f) h := by
  obtain ⟨e, h', hrun, hc, hu⟩ := hx
  exact ⟨e, h', by rw [run_bind, hrun], hc, hu⟩

/-- A step that reads the clock and changes nothing does not delay the cancellation. -/
theorem StopsCancelled.after_now {f : Time.Instant → Run α} (hf : StopsCancelled (f h.clock) h) :
    StopsCancelled (liftM now >>= f) h := by
  rw [StopsCancelled, run_bind, run_liftM, now_run]
  exact hf

variable (hc : h.cancelled = true)
include hc

theorem readStore_stops (f : Store.UploadStore → Except Store.StoreError α) :
    StopsCancelled (readStore f) h :=
  ⟨.cancelled, h, readStore_cancelled f h hc, rfl, .refl h⟩

theorem writeStore_stops (f : Store.Database → Except Store.StoreError (Store.Database × α)) :
    StopsCancelled (writeStore f) h :=
  ⟨.cancelled, h, by rw [writeStore_run, if_pos hc], rfl, .refl h⟩

/-- A cancelled caller's invocation answers a cancellation and runs nothing. -/
theorem invoke_cancelled (program : String) (args : List String) :
    ∃ h', (invoke program args).run h = (.error (.cancelled program), h') ∧ h.Untouched h' := by
  cases ht : h.tool with
  | scripted script =>
    -- the attempt is recorded before the token is looked at, and nothing else changes
    refine ⟨{ h with calls := h.calls ++ [program :: args] }, ?_, ⟨rfl, rfl, rfl, ?_⟩⟩
    · obtain ⟨store, tool, calls, deliveries, cancelled, cancelDue, inGroup, network, clock⟩ := h
      simp only at ht hc
      subst ht hc
      rfl
    · intro standIn limit hp
      rw [ht] at hp
      cases hp
  | processes standIn limit =>
    refine ⟨h, ?_, .refl h⟩
    rw [invoke_processes program args ht, hc, runCommand_cancelled, if_pos rfl]

end Steps

/-! ## Each operation -/

section Operations

variable {h : Host} (hc : h.cancelled = true)
include hc

theorem Manager.shouldSkip_stops (m : Manager) (node : String) :
    StopsCancelled (m.shouldSkip node) h :=
  StopsCancelled.bind (readStore_stops hc _) _

theorem Manager.createRecord_stops (req : UploadRequest) (seed : Option Snapshot) :
    StopsCancelled (Manager.createRecord req seed) h :=
  StopsCancelled.after_now (writeStore_stops hc _)

theorem Manager.checkStatus_stops (m : Manager) (node : String) :
    StopsCancelled (m.checkStatus node) h := by
  obtain ⟨h', hinv, hu⟩ := invoke_cancelled hc m.tool (infoArgs node)
  refine ⟨.command (.cancelled m.tool), h', ?_, rfl, hu⟩
  rw [checkStatus_run, hinv]
  rfl

theorem Manager.monitorProgress_stops (m : Manager) (id : Int) (node : String) :
    StopsCancelled (m.monitorProgress id node) h :=
  StopsCancelled.bind (m.checkStatus_stops hc node) _

/-- Starting an upload fails at the tool, which runs nothing for a cancelled caller. -/
theorem Manager.initiate_stops (m : Manager) {req : UploadRequest}
    (ht : req.trigger ≠ .discovered) : StopsCancelled (m.initiate req) h := by
  obtain ⟨h', hinv, hu⟩ := invoke_cancelled hc m.tool (startArgs req.node)
  exact ⟨.command (.cancelled m.tool), h', by rw [Manager.initiate_run m ht, hinv], rfl, hu⟩

/-- A node's tick fails at its skip check, and the failure is not notified: it is a
cancellation. -/
theorem NodeJob.execute_stops (j : NodeJob) : StopsCancelled j.execute h := by
  obtain ⟨e, h', hskip, hcancel, hu⟩ := j.manager.shouldSkip_stops hc j.node.name
  refine ⟨e, h', ?_, hcancel, hu⟩
  rw [NodeJob.execute_run, hskip]
  dsimp only
  rw [NodeJob.notifyFailure_run, hcancel, if_pos rfl, Host.notified_nil]

theorem MonitorJob.execute_stops (j : MonitorJob) : StopsCancelled j.execute h :=
  StopsCancelled.bind (readStore_stops hc _) _

/-- A manual upload of a configured node is that node's tick. -/
theorem AgentParts.manualUpload_stops (a : AgentParts) {node : String}
    (hnode : node ∈ a.config.nodeNames) : StopsCancelled (a.manualUpload node) h := by
  obtain ⟨spec, hspec⟩ : ∃ spec, a.config.node? node = some spec := by
    obtain ⟨s, hs, rfl⟩ := List.mem_map.1 hnode
    exact Option.isSome_iff_exists.1 (List.find?_isSome.2 ⟨s, hs, by simp⟩)
  have hjob : a.nodeJob node .manual =
      .ok ⟨spec, .manual, a.manager, a.protocols, a.notifiers⟩ := by
    simp [AgentParts.nodeJob, Config.ConfigFile.node, hspec]
  unfold AgentParts.manualUpload
  rw [hjob]
  exact StopsCancelled.bind (NodeJob.execute_stops hc _) _

end Operations

/-- A caller whose token is already cancelled, on any host: the manager's skip check, record,
reconciliation and start (of a scheduled or manual upload), a node's tick, a manual upload of a
configured node and a monitor tick each fail with a cancellation, and leave the store and the
deliveries as they were with no program run. -/
theorem cancellation_preempts_writes (h : Host) (hc : h.cancelled = true) :
    (∀ (m : Manager) node, StopsCancelled (m.shouldSkip node) h) ∧
    (∀ req seed, StopsCancelled (Manager.createRecord req seed) h) ∧
    (∀ (m : Manager) id node, StopsCancelled (m.monitorProgress id node) h) ∧
    (∀ (m : Manager) (req : UploadRequest), req.trigger ≠ .discovered →
      StopsCancelled (m.initiate req) h) ∧
    (∀ j : NodeJob, StopsCancelled j.execute h) ∧
    (∀ (a : AgentParts) node, node ∈ a.config.nodeNames → StopsCancelled (a.manualUpload node) h) ∧
    (∀ j : MonitorJob, StopsCancelled j.execute h) :=
  ⟨fun m => m.shouldSkip_stops hc, Manager.createRecord_stops hc,
    fun m => m.monitorProgress_stops hc, fun m _ ht => m.initiate_stops hc ht,
    NodeJob.execute_stops hc, fun a _ hnode => a.manualUpload_stops hc hnode,
    MonitorJob.execute_stops hc⟩

/-- The default host with its token cancelled. -/
def cancelledHost : Host := { (default : Host) with cancelled := true }

theorem cancelledHost_skip_check_stops :
    cancelledHost.cancelled = true ∧
      StopsCancelled (({ tool := "tool" } : Manager).shouldSkip "eth") cancelledHost :=
  ⟨rfl, (cancellation_preempts_writes cancelledHost rfl).1 _ _⟩

end SnapshotAgent.Agent
