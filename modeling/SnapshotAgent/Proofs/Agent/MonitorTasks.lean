import Mathlib
import SnapshotAgent.Proofs.Store.NextIds
import SnapshotAgent.Proofs.Store.StatusReport
import SnapshotAgent.Proofs.Agent.AtomicSteps
import SnapshotAgent.Proofs.Agent.Groups
import SnapshotAgent.Proofs.Agent.Tick
/-!
# The tasks of a monitor tick

A monitor tick reads the running uploads, then runs two groups of tasks side by side: discovery,
one task per configured node that has no running upload, and reconciliation, one task per running
upload read, whatever its node. This file says what one task does on a calm host: no
cancellation, a store that hides nothing, and a tool that answers each question by its arguments
(`ToolHost.Answers`), as child processes do and as a script of standing replies does.

* The tool's report on a node is read from the answer to its question (`checkStatus_answers`).
* A discovery collects its metrics without touching the host (`MonitorJob.discoveryData_run`),
  and records a node the store has no running upload of with the next id
  (`MonitorJob.create_discovered`).
* `MonitorJob.Ticks` are the runs of a tick whose groups run side by side; the program's run,
  which takes the tasks of each group in turn, is one of them (`MonitorJob.execute_ticks`).
-/

namespace SnapshotAgent.Agent

open SnapshotAgent.Upload SnapshotAgent.Store SnapshotAgent.Time SnapshotAgent.Tool

/-! ## A tool that answers by its arguments -/

/-- A tool that answers every invocation of `program` by a caller that has not cancelled with
`answer` of its arguments: the invocation is recorded and nothing else changes, so the same
question always gets the same answer and no answer waits for a cancellation. -/
def ToolHost.Answers (tool : ToolHost) (program : String)
    (answer : List String → Except CommandError Output) : Prop :=
  ∀ h : Host, h.tool = tool → h.cancelled = false → ∀ args,
    (invoke program args).run h = (answer args, { h with calls := h.calls ++ [program :: args] })

/-- Child processes answer by their arguments. -/
theorem ToolHost.answers_processes (standIn : Option String) (limit : Option Duration)
    (program : String) :
    (ToolHost.processes standIn limit).Answers program
      (Tool.runCommand standIn false limit program) := by
  intro h ht hc args
  rw [invoke_processes program args ht, hc]
  rfl

/-- A scripted reply other than one that waits for cancellation answers the same on every host,
and leaves it as it was. -/
theorem scriptedAnswer_of_ne_hang {program key : String} {r : Option Testing.Reply}
    (hr : r ≠ some .hang) (h : Host) :
    (scriptedAnswer program key r).run h = (((scriptedAnswer program key r).run default).1, h) := by
  rcases r with _ | ⟨text⟩ | ⟨code, o, e⟩ | _ | _ | ⟨limit⟩
  · rfl
  · rfl
  · rfl
  · rfl
  · exact absurd rfl hr
  · rfl

/-- A script with nothing queued and no standing reply that waits answers every invocation with
the standing reply of its key. -/
theorem ToolHost.answers_scripted (script : Testing.Script) (hq : script.queued = [])
    (hwait : ∀ key, (key, Testing.Reply.hang) ∉ script.standing) (program : String) :
    (ToolHost.scripted script).Answers program fun args =>
      ((scriptedAnswer program (" ".intercalate args)
        ((script.standing.find? (·.1 == " ".intercalate args)).map (·.2))).run default).1 := by
  intro h ht hc args
  rw [invoke_scripted program args ht hc]
  have htake : script.take (" ".intercalate args) =
      ((script.standing.find? (·.1 == " ".intercalate args)).map (·.2), script) := by
    simp [Testing.Script.take, hq]
  -- the key's standing reply does not wait
  have hreply : (script.standing.find? (·.1 == " ".intercalate args)).map (·.2) ≠ some .hang := by
    intro hfind
    obtain ⟨⟨key, r⟩, hkey, hr⟩ := Option.map_eq_some_iff.1 hfind
    cases hr
    exact hwait key (List.mem_of_find?_eq_some hkey)
  rw [htake, scriptedAnswer_of_ne_hang hreply, ← ht]

/-- The host after the tool was asked `call`. -/
def Host.called (h : Host) (call : List String) : Host := { h with calls := h.calls ++ [call] }

section Called

variable (h : Host) (call : List String)

@[simp] theorem Host.called_store : (h.called call).store = h.store := rfl
@[simp] theorem Host.called_cancelled : (h.called call).cancelled = h.cancelled := rfl
@[simp] theorem Host.called_cancelDue : (h.called call).cancelDue = h.cancelDue := rfl
@[simp] theorem Host.called_clock : (h.called call).clock = h.clock := rfl
@[simp] theorem Host.called_network : (h.called call).network = h.network := rfl
@[simp] theorem Host.called_tool : (h.called call).tool = h.tool := rfl
@[simp] theorem Host.called_calls : (h.called call).calls = h.calls ++ [call] := rfl

end Called

section Answers

variable {m : Manager} {h : Host} {answer : List String → Except CommandError Output}

/-- The report of a node is read from the tool's answer to its question. -/
theorem checkStatus_answers (htool : h.tool.Answers m.tool answer) (hc : h.cancelled = false)
    (node : String) :
    (m.checkStatus node).run h =
      (reportOfAnswer (answer (infoArgs node)), h.called (m.tool :: infoArgs node)) :=
  checkStatus_of_answer (htool h rfl hc _)

end Answers

/-- A report read from an answer is well formed. -/
theorem reportOfAnswer_wellFormed {R : Except CommandError Output} {s : Snapshot}
    (h : reportOfAnswer R = .ok s) : s.WellFormed := by
  rcases R with e | out
  · cases e with
    | exit program code stdout stderr =>
      dsimp only [reportOfAnswer] at h
      split at h
      · have hs : Snapshot.notRunning _ = s := Except.ok.inj h
        rw [← hs]
        exact Snapshot.wellFormed_notRunning _
      · simp at h
    | _ => simp [reportOfAnswer] at h
  · -- the report is the parse of the output; unifying it by `cases` would unfold the parse
    have hs : Snapshot.parse out.stdout = s := Except.ok.inj h
    rw [← hs]
    exact Snapshot.wellFormed_parse _

/-! ## Discovery -/

/-- The tool's report on a node, read from its answer. -/
def reportFor (answer : List String → Except CommandError Output) (node : String) :
    Except Failure Snapshot :=
  reportOfAnswer (answer (infoArgs node))


/-- The upload a request records at time `t` from the tool's report `s`: started when the report
says, else at `t`, with the report's progress, checked at `t` when it has any. -/
def UploadRequest.seeded (req : UploadRequest) (s : Snapshot) (t : Instant) : NewUpload :=
  { nodeName := req.node, protocol := req.protocol, nodeType := req.nodeType,
    startedAt := s.startedAt.getD t, trigger := req.trigger, protocolData := req.protocolData,
    progressPercent := s.progressPercent, chunksCompleted := s.chunksCompleted,
    chunksTotal := s.chunksTotal, lastProgressCheck := if s.hasProgress then some t else none }

theorem Manager.insert_some (req : UploadRequest) (s : Snapshot) :
    Manager.insert req (some s) =
      (liftM now >>= fun t => writeStore (·.createUpload (req.seeded s t)) : Run Int) := rfl

theorem Manager.insert_some_run (req : UploadRequest) (s : Snapshot) (h : Host) :
    (Manager.insert req (some s)).run h =
      (writeStore (·.createUpload (req.seeded s h.clock))).run h := by
  rw [Manager.insert_some, run_bind, run_liftM, now_run]

/-- The protocol data discovery records for a node over the network `net`: the metrics of its
protocol's module, as a caller that has not cancelled collects them, or nothing when the module is
missing or the collection fails. -/
def MonitorJob.discoveredData (j : MonitorJob) (net : Network.Responder) (node : Config.NodeSpec) :
    ProtocolData :=
  match j.protocols.find node.protocol with
  | .ok m =>
    match ((collect m node).run { (default : Host) with network := net }).1 with
    | .ok data => data
    | .error _ => []
  | .error _ => []

/-- The upload discovery records over the network `net` at time `t`, for a node the tool reports
running as `s`. -/
def MonitorJob.discovered (j : MonitorJob) (net : Network.Responder) (t : Instant)
    (node : Config.NodeSpec) (s : Snapshot) : NewUpload :=
  (UploadRequest.forNode node .discovered (j.discoveredData net node)).seeded s t

/-- Collecting a discovery's metrics leaves the host as it was. -/
theorem MonitorJob.discoveryData_host (j : MonitorJob) (node : Config.NodeSpec) (h : Host) :
    ((j.discoveryData node).run h).2 = h := by
  unfold MonitorJob.discoveryData
  split
  · next m _ =>
    rw [run_bind, run_liftM, collect_host]
    rcases ((collect m node).run h).1 with _ | _ <;> rfl
  · rfl

/-- A caller that has not cancelled collects the metrics discovery records over its network. -/
theorem MonitorJob.discoveryData_run (j : MonitorJob) (node : Config.NodeSpec) {h : Host}
    (hc : h.cancelled = false) :
    (j.discoveryData node).run h = (.ok (j.discoveredData h.network node), h) := by
  refine Prod.ext ?_ (j.discoveryData_host node h)
  unfold MonitorJob.discoveryData MonitorJob.discoveredData
  rcases j.protocols.find node.protocol with e | m
  · rfl
  · -- the collection reads only the caller's cancellation and the network
    have hcol : ((collect m node).run h).1 =
        ((collect m node).run { (default : Host) with network := h.network }).1 :=
      collect_congr m node (by rw [hc]; rfl) rfl
    dsimp only
    rw [run_bind, run_liftM, hcol]
    rcases ((collect m node).run { (default : Host) with network := h.network }).1 with e | data
    · rfl
    · rfl

/-- The row of a request recorded from a well-formed report keeps the table's constraints: it is
running with no completion time, its percentage is a percentage and its chunk counts are in
order. -/
theorem UploadRequest.seeded_consistent (req : UploadRequest) {s : Snapshot} (hs : s.WellFormed)
    (t : Instant) (S : UploadTables) : (S.newRow (req.seeded s t)).consistent = true := by
  have hpercent : percentAllowed (storablePercent s.progressPercent) = true := by
    rcases hx : s.progressPercent with _ | x
    · rfl
    · simp only [storablePercent]
      by_cases hn : x.isNaN = true
      · rw [if_pos hn]
        rfl
      · rw [if_neg hn]
        exact percentAllowed_of_isPercent (hs.percent x hx)
  have hchunks : ∀ c t, s.chunksCompleted = some c → s.chunksTotal = some t → c ≤ t := hs.ordered
  unfold UploadRow.consistent UploadRow.completionAgrees UploadRow.chunksAgree
  simp only [UploadTables.newRow, NewUpload.toRow, UploadRequest.seeded, hpercent, Bool.and_true,
    Option.isNone_none, beq_self_eq_true, Bool.true_and]
  rcases hc : s.chunksCompleted with _ | c <;> rcases ht : s.chunksTotal with _ | t <;> simp [hchunks, hc, ht]

/-- The nodes among `nodes` the tool reports running, with their reports, in order. -/
def runningReports (answer : List String → Except CommandError Output)
    (nodes : List Config.NodeSpec) : List (Config.NodeSpec × Snapshot) :=
  nodes.filterMap fun n =>
    match reportFor answer n.name with
    | .ok s => if s.isRunning then some (n, s) else none
    | .error _ => none

/-- The row discovery writes over the network `net` at time `t`, with id `id`, for a node the
tool reports running as `s`. -/
def MonitorJob.discoveredRow (j : MonitorJob) (net : Network.Responder) (t : Instant)
    (found : Config.NodeSpec × Snapshot) (id : Int) : UploadRow :=
  (j.discovered net t found.1 found.2).toRow
    (Json.compact (.obj (j.discovered net t found.1 found.2).protocolData)) id

@[simp] theorem MonitorJob.discoveredRow_nodeName (j : MonitorJob) (net : Network.Responder)
    (t : Instant) (found : Config.NodeSpec × Snapshot) (id : Int) :
    (j.discoveredRow net t found id).nodeName = found.1.name := rfl

@[simp] theorem MonitorJob.discoveredRow_id (j : MonitorJob) (net : Network.Responder) (t : Instant)
    (found : Config.NodeSpec × Snapshot) (id : Int) : (j.discoveredRow net t found id).id = id := rfl

/-- The uploads a phase of discovery recorded: each answer that names a new id, with its node. -/
def discoveredPairs (results : List (String × Except Failure (Option Int))) :
    List (String × Int) :=
  results.filterMap fun r =>
    match r.2 with
    | .ok (some id) => some (r.1, id)
    | _ => none

/-- A node the store can record as discovered: it has no running row, and ids remain. -/
theorem MonitorJob.create_discovered {j : MonitorJob} {S : UploadTables} (hS : S.Sound)
    {node : Config.NodeSpec} {s : Snapshot} (hs : s.WellFormed)
    (hfree : ∀ o ∈ S.uploads, o.nodeName = node.name → o.status ≠ .running)
    (hroom : S.nextId S.uploadsT ≤ maxInteger ∧ S.nextId S.progressT ≤ maxInteger)
    (net : Network.Responder) (t : Instant) :
    ∃ S', S.create (j.discovered net t node s) = .ok (S', S.nextId S.uploadsT) ∧ S'.Sound ∧
      S'.uploads = S.uploads ++ [j.discoveredRow net t (node, s) (S.nextId S.uploadsT)] ∧
      S'.nextId S'.uploadsT ≤ S.nextId S.uploadsT + 1 ∧
      S'.nextId S'.progressT ≤ S.nextId S.progressT + 1 := by
  obtain ⟨S', hcreate, hup, -⟩ := UploadTables.create_of_free hroom
    (UploadRequest.seeded_consistent (UploadRequest.forNode node .discovered (j.discoveredData net node))
      hs t S) hfree
  obtain ⟨hnu, hnp⟩ := UploadTables.create_nextIds hcreate
  exact ⟨S', hcreate, hS.create hcreate, hup, hnu, hnp⟩

/-- One task of the discovery phase: the node's name with the answer of its discovery. -/
def MonitorJob.discoverTask (j : MonitorJob) (node : Config.NodeSpec) :
    HostM (String × Except Failure (Option Int)) := do
  return (node.name, ← (j.discoverNode node).run)

/-- A discovery as a task of its group, one atomic step at a time. -/
def MonitorJob.discoverThread (j : MonitorJob) (node : Config.NodeSpec) :
    Thread (String × Except Failure (Option Int)) :=
  (j.discoverSteps node).run.bind fun r => .done (node.name, r)

theorem MonitorJob.alone_discoverThread (j : MonitorJob) (node : Config.NodeSpec) :
    (j.discoverThread node).alone = j.discoverTask node := by
  have hsteps := congrArg ExceptT.run (j.runAlone_discoverSteps node)
  simp only [Thread.runAlone, ExceptT.run_mk] at hsteps
  rw [MonitorJob.discoverThread, Thread.alone_bind, hsteps]
  rfl

/-! ## Reconciliation -/

/-- Steps that each leave the host as it was, run in turn, leave it too. -/
theorem HostM.bind_host {α β : Type} {x : HostM α} {f : α → HostM β}
    (hx : ∀ h, (x.run h).2 = h) (hf : ∀ a h, ((f a).run h).2 = h) (h : Host) :
    ((x >>= f).run h).2 = h := by
  show ((f (x.run h).1).run (x.run h).2).2 = h
  rw [hf, hx]

/-- Reading a row back for a notification changes nothing. -/
theorem finishedPayload_host (event : Notify.Event) (r : Record) (h : Host) :
    ((finishedPayload event r).run h).2 = h := by
  have hread : ∀ h' : Host, ((readStore (·.db.getUpload r.id)).run.run h').2 = h' := by
    intro h'
    show ((readStore (·.db.getUpload r.id)).run h').2 = h'
    rw [readStore_run]
    split
    · rfl
    · split <;> rfl
  unfold finishedPayload
  exact HostM.bind_host hread (fun _ => HostM.bind_host (fun _ => rfl) fun _ _ => rfl) h

/-- The row a reconciliation at time `t` leaves of running row `o`: the patch of its report merged
in, or the row as it was when the report fails. -/
def Manager.refreshed (m : Manager) (answer : List String → Except CommandError Output)
    (t : Instant) (o : UploadRow) : UploadRow :=
  match reportFor answer o.nodeName with
  | .ok s => o.patch (m.reconcilePatch o.id s t)
  | .error _ => o

@[simp] theorem Manager.refreshed_id (m : Manager) (answer : List String → Except CommandError Output)
    (t : Instant) (o : UploadRow) : (m.refreshed answer t o).id = o.id := by
  unfold Manager.refreshed
  split <;> rfl

/-- One task of the reconciliation phase: the record's id with what its reconciliation
answered. -/
def MonitorJob.reconcileTask (j : MonitorJob) (r : Record) : HostM (Int × Option Reconciled) := do
  return (r.id, ← j.reconcileRecord r)

/-- A reconciliation as a task of its group, one atomic step at a time. -/
def MonitorJob.reconcileTaskThread (j : MonitorJob) (r : Record) : Thread (Int × Option Reconciled) :=
  (j.reconcileThread r).bind fun out => .done (r.id, out)

theorem MonitorJob.alone_reconcileTaskThread (j : MonitorJob) (r : Record) :
    (j.reconcileTaskThread r).alone = j.reconcileTask r := by
  rw [MonitorJob.reconcileTaskThread, Thread.alone_bind, j.alone_reconcileThread r]
  rfl

/-! ## The tick -/

/-- What one answer of discovery adds to a report. -/
def MonitorReport.addFound (rep : MonitorReport) (answer : String × Except Failure (Option Int)) :
    MonitorReport :=
  match answer with
  | (name, res) =>
    match res with
    | .ok (some id) => { rep with discovered := rep.discovered ++ [(name, id)] }
    | .ok none => rep
    | .error _ => { rep with errors := rep.errors + 1 }

/-- What one answer of reconciliation adds to a report. -/
def MonitorReport.addReconciled (rep : MonitorReport) (answer : Int × Option Reconciled) :
    MonitorReport :=
  match answer with
  | (id, res) =>
    match res with
    | some .running => { rep with stillRunning := rep.stillRunning ++ [id] }
    | some .completed => { rep with completed := rep.completed ++ [id] }
    | some .failed => { rep with failed := rep.failed ++ [id] }
    | some .unchanged => rep
    | none => { rep with errors := rep.errors + 1 }

/-- A tick reads the running records, discovers the configured nodes none of them is of, then
reconciles the records, and reports what both phases answered. -/
theorem MonitorJob.execute_eq (j : MonitorJob) :
    j.execute = (do
      let records ← readStore (·.allRunning)
      let found ← liftM (group ((j.nodes.filter fun n => !records.any (·.nodeName == n.name)).map
        j.discoverTask))
      let reconciled ← liftM (group (records.map j.reconcileTask))
      pure (reconciled.foldl MonitorReport.addReconciled (found.foldl MonitorReport.addFound {}))) := by
  unfold MonitorJob.execute
  rfl

/-- A tick on a host: the running records are read; a failed read ends it. -/
theorem MonitorJob.execute_run (j : MonitorJob) (h : Host) :
    j.execute.run h =
      match (readStore (·.allRunning)).run h with
      | (.error e, h₁) => (.error e, h₁)
      | (.ok records, h₁) =>
        (.ok (((group (records.map j.reconcileTask)).run
            ((group ((j.nodes.filter fun n => !records.any (·.nodeName == n.name)).map
              j.discoverTask)).run h₁).2).1.foldl MonitorReport.addReconciled
            (((group ((j.nodes.filter fun n => !records.any (·.nodeName == n.name)).map
              j.discoverTask)).run h₁).1.foldl MonitorReport.addFound {})),
          ((group (records.map j.reconcileTask)).run
            ((group ((j.nodes.filter fun n => !records.any (·.nodeName == n.name)).map
              j.discoverTask)).run h₁).2).2) := by
  rw [MonitorJob.execute_eq, run_bind]
  rcases (readStore (·.allRunning)).run h with ⟨e | records, h₁⟩
  · rfl
  · rfl

/-- The discovered uploads a report lists: those it started with, then each answer that names an
id. -/
theorem MonitorReport.foldl_addFound_discovered :
    ∀ (found : List (String × Except Failure (Option Int))) (rep : MonitorReport),
      (found.foldl MonitorReport.addFound rep).discovered = rep.discovered ++ discoveredPairs found
  | [], rep => by simp [discoveredPairs]
  | (name, res) :: rest, rep => by
    rw [List.foldl_cons, MonitorReport.foldl_addFound_discovered rest]
    unfold discoveredPairs
    rcases res with e | _ | id <;> simp [MonitorReport.addFound]

/-- Reconciliation answers leave a report's discovered uploads. -/
theorem MonitorReport.foldl_addReconciled_discovered :
    ∀ (answers : List (Int × Option Reconciled)) (rep : MonitorReport),
      (answers.foldl MonitorReport.addReconciled rep).discovered = rep.discovered
  | [], _ => rfl
  | (id, res) :: rest, rep => by
    rw [List.foldl_cons, MonitorReport.foldl_addReconciled_discovered rest]
    rcases res with _ | ⟨_ | _ | _ | _⟩ <;> rfl


/-- The configured nodes of which the state has no running upload. -/
def MonitorJob.untracked (j : MonitorJob) (S : UploadTables) : List Config.NodeSpec :=
  j.nodes.filter fun n => !S.runsNode n.name

/-! ## The tick with its groups side by side -/

/-- The runs of a monitor tick whose groups run side by side: the running uploads are read; the
discoveries of the configured nodes none of them is of run side by side, then the reconciliations
of the uploads read; the report gathers the answers in the order they came. A failed read ends the
tick. -/
inductive MonitorJob.Ticks (j : MonitorJob) (h : Host) : Except Failure MonitorReport → Host → Prop
  | readFails {e : Failure} {h₁ : Host}
      (hread : (readStore (·.allRunning)).run h = (.error e, h₁)) : j.Ticks h (.error e) h₁
  | runs {records : List Record} {h₁ h₂ h' : Host}
      {found : List (String × Except Failure (Option Int))}
      {reconciled : List (Int × Option Reconciled)}
      (hread : (readStore (·.allRunning)).run h = (.ok records, h₁))
      (hdiscover : SideBySide ((j.nodes.filter fun n => !records.any (·.nodeName == n.name)).map
        j.discoverThread) h₁ found h₂)
      (hreconcile : SideBySide (records.map j.reconcileTaskThread) h₂ reconciled h') :
      j.Ticks h (.ok (reconciled.foldl MonitorReport.addReconciled
        (found.foldl MonitorReport.addFound {}))) h'

/-- The program's tick, which runs the tasks of each group in turn, is one of the tick's runs. -/
theorem MonitorJob.execute_ticks (j : MonitorJob) (h : Host) :
    j.Ticks h (j.execute.run h).1 (j.execute.run h).2 := by
  have hdiscover : Thread.alone ∘ j.discoverThread = j.discoverTask :=
    funext j.alone_discoverThread
  have hreconcile : Thread.alone ∘ j.reconcileTaskThread = j.reconcileTask :=
    funext j.alone_reconcileTaskThread
  rw [MonitorJob.execute_run]
  rcases hread : (readStore (·.allRunning)).run h with ⟨e | records, h₁⟩
  · exact .readFails hread
  · have hfound := group_sideBySide
      ((j.nodes.filter fun n => !records.any (·.nodeName == n.name)).map j.discoverThread) h₁
    rw [List.map_map, hdiscover] at hfound
    have hrefresh := group_sideBySide (records.map j.reconcileTaskThread)
      ((group ((j.nodes.filter fun n => !records.any (·.nodeName == n.name)).map
        j.discoverTask)).run h₁).2
    rw [List.map_map, hreconcile] at hrefresh
    exact .runs hread hfound hrefresh

end SnapshotAgent.Agent
