import Mathlib
import SnapshotAgent.Proofs.Agent.MonitorTasks
/-!
# Discovery side by side

The first group of a monitor tick discovers the configured nodes that have no running upload:
the discovery of a node asks the tool for the report on it, collects the node's metrics when the
tool reports an upload running, and records that upload. The discoveries of a group run side by
side, so their questions, collections and records interleave in any order, and the group answers
them in the order they finish.

Each discovery is at a stage of its program (`DiscoveryStage`), kept in a function of the node's
name; `MonitorJob.discoveryAt` is what is left of it at a stage, with one lemma per stage saying
what its next step does. `DiscoveryLedger` is what a group keeps true: the host holds the
questions asked and the state written; the uploads recorded are of nodes the tool reports
running, seeded from their reports, with ids above every id before and growing in the order of
the records; and each stage fits what the tool answered. A record needs no running upload of its
node, and the other records are of other nodes, so none is refused (`DiscoveryLedger.record`).

`MonitorJob.discovery_sideBySide`: however the discoveries interleave, the tool is asked once
about each node, one upload is recorded per node the tool reports running, and the answers name
exactly these uploads, in some order.
-/

namespace SnapshotAgent.Agent

open SnapshotAgent.Upload SnapshotAgent.Store SnapshotAgent.Time SnapshotAgent.Tool

/-! ## Discovery side by side -/

/-- Where the discovery of a node stands. -/
inductive DiscoveryStage where
  /-- The tool has not been asked yet. -/
  | waiting
  /-- The tool has answered with `report`. -/
  | reported (report : Except Failure Snapshot)
  /-- The tool reported the upload `s` running, and the node's metrics `data` are collected. -/
  | collected (s : Snapshot) (data : ProtocolData)
  /-- The upload is recorded with the id `id`. -/
  | recorded (id : Int)

/-- What a discovery that has finished at a stage answers. -/
def DiscoveryStage.answer (node : Config.NodeSpec) :
    DiscoveryStage → String × Except Failure (Option Int)
  | .reported (.error e) => (node.name, .error e)
  | .recorded id => (node.name, .ok (some id))
  | _ => (node.name, .ok none)

/-- The id a discovery at a stage has recorded, if any. -/
def DiscoveryStage.recordedId : DiscoveryStage → Option Int
  | .recorded id => some id
  | _ => none

theorem DiscoveryStage.recordedId_eq_some {st : DiscoveryStage} {id : Int} :
    st.recordedId = some id ↔ st = .recorded id := by
  cases st <;> simp [DiscoveryStage.recordedId]

/-- The ids the answers of discoveries name: those of the nodes whose discovery recorded one. -/
theorem discoveredPairs_answers (nodes : List Config.NodeSpec) (stage : String → DiscoveryStage) :
    discoveredPairs (nodes.map fun x => (stage x.name).answer x) =
      nodes.filterMap fun x => (stage x.name).recordedId.map (x.name, ·) := by
  unfold discoveredPairs
  rw [List.filterMap_map]
  apply List.filterMap_congr
  intro x _
  rw [Function.comp_apply]
  rcases stage x.name with _ | ⟨e | s⟩ | ⟨s, data⟩ | id <;> rfl

/-- The answer of a discovery's record: the new id, nothing on a conflict, else the failure. -/
def recordAnswer : Except Failure Int → Except Failure (Option Int)
  | .ok id => .ok (some id)
  | .error e => if e.isConflict then .ok none else .error e

namespace MonitorJob

variable (j : MonitorJob) (node : Config.NodeSpec)

/-- What is left of the discovery of `node` at a stage. -/
def discoveryAt : DiscoveryStage → Thread (String × Except Failure (Option Int))
  | .waiting => j.discoverThread node
  | .reported report =>
    (Thread.afterOk (j.afterDiscoveryReport node) report).bind fun r => .done (node.name, r)
  | .collected s data => (recordSteps node s data).run.bind fun r => .done (node.name, r)
  | .recorded id => .done (node.name, .ok (some id))

/-- A discovery that has not asked asks the tool for the node's report. -/
theorem discoveryAt_waiting :
    j.discoveryAt node .waiting =
      .step (fun h => ((j.manager.checkStatus node.name).run h).2)
        fun h => j.discoveryAt node (.reported ((j.manager.checkStatus node.name).run h).1) := by
  rw [discoveryAt, discoverThread, discoverSteps, Thread.run_bind_afterOk, Thread.bind_assoc]
  rfl

/-- Once the tool reported the upload running, the discovery collects the node's metrics. -/
theorem discoveryAt_running {s : Snapshot} (hs : s.isRunning = true) :
    j.discoveryAt node (.reported (.ok s)) =
      .step (fun h => ((j.discoveryData node).run h).2)
        fun h => (Thread.afterOk (recordSteps node s) ((j.discoveryData node).run h).1).bind
          fun r => .done (node.name, r) := by
  rw [discoveryAt, Thread.afterOk, afterDiscoveryReport]
  simp only [hs, Bool.not_true, Bool.false_eq_true, if_false]
  rw [Thread.run_bind_afterOk, Thread.bind_assoc]
  rfl

/-- A node the tool reports idle is done with. -/
theorem discoveryAt_idle {s : Snapshot} (hs : s.isRunning = false) :
    j.discoveryAt node (.reported (.ok s)) = .done (node.name, .ok none) := by
  rw [discoveryAt, Thread.afterOk, afterDiscoveryReport]
  simp only [hs, Bool.not_false, if_true]
  rfl

/-- With the metrics collected, the discovery records the upload and answers what the store made
of it. -/
theorem discoveryAt_collected (s : Snapshot) (data : ProtocolData) :
    j.discoveryAt node (.collected s data) =
      .step (fun h =>
          ((Manager.createRecord (UploadRequest.forNode node .discovered data) (some s)).run h).2)
        fun h => .done (node.name, recordAnswer
          ((Manager.createRecord (UploadRequest.forNode node .discovered data) (some s)).run h).1) := by
  rw [discoveryAt, recordSteps, ExceptT.run_tryCatch, ExceptT.run_map]
  show Thread.step _ _ = Thread.step _ _
  congr 1
  funext h
  dsimp only [StateT.run]
  rcases ((Manager.createRecord (UploadRequest.forNode node .discovered data) (some s)).run h).1
    with e | id
  · -- a conflict is nothing found, any other failure fails the discovery
    cases hc : e.isConflict <;>
      simp only [Thread.done_bind, Function.comp_apply, Except.map, hc, recordAnswer] <;> rfl
  · rfl

variable {j node}

/-- A discovery that has finished answers what its stage says, and stands where nothing is left to
do: past the question and the record, with an idle report, a failed one, or its upload recorded. -/
theorem discoveryAt_done {st : DiscoveryStage} {a : String × Except Failure (Option Int)}
    (hdone : j.discoveryAt node st = .done a) :
    a = st.answer node ∧ st ≠ .waiting ∧ (∀ s data, st ≠ .collected s data) ∧
      ∀ s, st = .reported (.ok s) → s.isRunning = false := by
  cases st with
  | waiting =>
    rw [discoveryAt_waiting] at hdone
    cases hdone
  | reported report =>
    rcases report with e | s
    · cases hdone
      exact ⟨rfl, nofun, (fun _ _ h => nomatch h), fun _ h => nomatch h⟩
    · cases hs : s.isRunning
      · rw [discoveryAt_idle j node hs] at hdone
        cases hdone
        exact ⟨rfl, nofun, (fun _ _ h => nomatch h), fun s' h => by cases h; exact hs⟩
      · rw [discoveryAt_running j node hs] at hdone
        cases hdone
  | collected s data =>
    rw [discoveryAt_collected] at hdone
    cases hdone
  | recorded id =>
    cases hdone
    exact ⟨rfl, nofun, (fun _ _ h => nomatch h), fun _ h => nomatch h⟩

end MonitorJob

/-- What a discovery at a stage has learnt: the tool's report on its node, and once collected, the
metrics it records over the network `net`. -/
def DiscoveryStage.Fits (j : MonitorJob) (answer : List String → Except CommandError Output)
    (net : Network.Responder) (node : Config.NodeSpec) : DiscoveryStage → Prop
  | .waiting => True
  | .reported report => report = reportFor answer node.name
  | .collected s data =>
    reportFor answer node.name = .ok s ∧ s.isRunning = true ∧ data = j.discoveredData net node
  | .recorded _ => True

/-- The tool's question about a node. -/
def Manager.infoCall (m : Manager) (node : Config.NodeSpec) : List String := m.tool :: infoArgs node.name

/-- A discovery group over `nodes`, started on the host `h₀` over the state `S`, as it stands with
its discoveries at `stage`: the nodes `asked` have asked the tool, in that order; the uploads
`created` are recorded, in that order, each of a node the tool reports running, with its report
and its id; the store holds the sound state `S'`. -/
structure DiscoveryLedger (j : MonitorJob) (answer : List String → Except CommandError Output)
    (nodes : List Config.NodeSpec) (h₀ : Host) (S : UploadTables)
    (stage : String → DiscoveryStage) (asked : List Config.NodeSpec)
    (created : List (Config.NodeSpec × Snapshot × Int)) (S' : UploadTables) (h : Host) : Prop where
  host : h = { h₀ with calls := h₀.calls ++ asked.map j.manager.infoCall,
                       store := { h₀.store with db := S'.db } }
  asked_nodup : asked.Nodup
  asked_mem : ∀ n ∈ asked, n ∈ nodes
  asked_iff : ∀ n ∈ nodes, n ∈ asked ↔ stage n.name ≠ .waiting
  sound : S'.Sound
  uploads : S'.uploads = S.uploads ++
    created.map fun c => j.discoveredRow h₀.network h₀.clock (c.1, c.2.1) c.2.2
  created_mem : ∀ c ∈ created,
    c.1 ∈ nodes ∧ reportFor answer c.1.name = .ok c.2.1 ∧ c.2.1.isRunning = true
  created_nodup : (created.map (·.1)).Nodup
  created_iff : ∀ n ∈ nodes, ∀ id, stage n.name = .recorded id ↔ ∃ s, (n, s, id) ∈ created
  ids_above : ∀ o ∈ S.uploads, ∀ c ∈ created, o.id < c.2.2
  ids_sorted : (created.map (·.2.2)).Pairwise (· < ·)
  roomU : S'.nextId S'.uploadsT ≤ S.nextId S.uploadsT + created.length
  roomP : S'.nextId S'.progressT ≤ S.nextId S.progressT + created.length
  fits : ∀ n ∈ nodes, (stage n.name).Fits j answer h₀.network n

namespace DiscoveryLedger

variable {j : MonitorJob} {answer : List String → Except CommandError Output}
  {nodes : List Config.NodeSpec} {h₀ : Host} {S : UploadTables}
  {stage : String → DiscoveryStage} {asked : List Config.NodeSpec}
  {created : List (Config.NodeSpec × Snapshot × Int)} {S' : UploadTables} {h : Host}
  {x : Config.NodeSpec}

/-- The group starts with nothing asked and nothing recorded. -/
theorem start (hS : S.Sound) (hdb : h₀.store.db = S.db) :
    DiscoveryLedger j answer nodes h₀ S (fun _ => .waiting) [] [] S h₀ where
  host := by
    rw [List.map_nil, List.append_nil, ← hdb]
  asked_nodup := List.nodup_nil
  asked_mem := fun _ h => nomatch h
  asked_iff := fun _ _ => ⟨nofun, fun h => absurd rfl h⟩
  sound := hS
  uploads := by rw [List.map_nil, List.append_nil]
  created_mem := fun _ h => nomatch h
  created_nodup := List.nodup_nil
  created_iff := fun _ _ _ => ⟨nofun, fun ⟨_, h⟩ => nomatch h⟩
  ids_above := fun _ _ _ h => nomatch h
  ids_sorted := List.Pairwise.nil
  roomU := by omega
  roomP := by omega
  fits := fun _ _ => trivial

/-- A node asks the tool: its question is recorded, and its discovery holds the report. -/
theorem ask (hl : DiscoveryLedger j answer nodes h₀ S stage asked created S' h)
    (hnames : (nodes.map (·.name)).Nodup) (hx : x ∈ nodes) (hst : stage x.name = .waiting) :
    DiscoveryLedger j answer nodes h₀ S
      (Function.update stage x.name (.reported (reportFor answer x.name))) (asked ++ [x]) created
      S' (h.called (j.manager.infoCall x)) where
  host := by
    rw [hl.host, List.map_append, List.map_singleton, ← List.append_assoc]
    rfl
  asked_nodup := List.nodup_append.2 ⟨hl.asked_nodup, List.nodup_singleton x, fun a ha b hb hab => by
    rw [List.mem_singleton.1 hb] at hab
    exact ((hl.asked_iff x hx).1 (hab ▸ ha)) hst⟩
  asked_mem := fun n hn => by
    rcases List.mem_append.1 hn with hn | hn
    · exact hl.asked_mem n hn
    · rw [List.mem_singleton.1 hn]
      exact hx
  asked_iff := forall_update_keyed
    (P := fun (n : Config.NodeSpec) (st : DiscoveryStage) => n ∈ asked ++ [x] ↔ st ≠ .waiting)
    hnames hx ⟨(fun _ h => by cases h), fun _ => List.mem_append_right _ (List.mem_singleton_self _)⟩
    fun n hn hne => by rw [← hl.asked_iff n hn, List.mem_append, List.mem_singleton, or_iff_left hne]
  sound := hl.sound
  uploads := hl.uploads
  created_mem := hl.created_mem
  created_nodup := hl.created_nodup
  -- a node that had not asked has recorded nothing
  created_iff := forall_update_keyed
    (P := fun (n : Config.NodeSpec) (st : DiscoveryStage) =>
      ∀ id, st = .recorded id ↔ ∃ s, (n, s, id) ∈ created) hnames hx
    (fun id => by
      rw [← hl.created_iff x hx id, hst]
      exact ⟨(fun h => by cases h), fun h => by cases h⟩)
    fun n hn _ => hl.created_iff n hn
  ids_above := hl.ids_above
  ids_sorted := hl.ids_sorted
  roomU := hl.roomU
  roomP := hl.roomP
  fits := forall_update_keyed
    (P := fun (n : Config.NodeSpec) (st : DiscoveryStage) => st.Fits j answer h₀.network n)
    hnames hx rfl fun n hn _ => hl.fits n hn

/-- A node the tool reports running collects its metrics. -/
theorem collect (hl : DiscoveryLedger j answer nodes h₀ S stage asked created S' h)
    (hnames : (nodes.map (·.name)).Nodup) (hx : x ∈ nodes) {s : Snapshot}
    (hst : stage x.name = .reported (.ok s)) (hrun : s.isRunning = true) :
    DiscoveryLedger j answer nodes h₀ S
      (Function.update stage x.name (.collected s (j.discoveredData h₀.network x))) asked created
      S' h where
  host := hl.host
  asked_nodup := hl.asked_nodup
  asked_mem := hl.asked_mem
  asked_iff := forall_update_keyed
    (P := fun (n : Config.NodeSpec) (st : DiscoveryStage) => n ∈ asked ↔ st ≠ .waiting) hnames hx
    (by rw [hl.asked_iff x hx, hst]; exact ⟨(fun _ h => by cases h), fun _ h => by cases h⟩)
    fun n hn _ => hl.asked_iff n hn
  sound := hl.sound
  uploads := hl.uploads
  created_mem := hl.created_mem
  created_nodup := hl.created_nodup
  created_iff := forall_update_keyed
    (P := fun (n : Config.NodeSpec) (st : DiscoveryStage) =>
      ∀ id, st = .recorded id ↔ ∃ s, (n, s, id) ∈ created) hnames hx
    (fun id => by
      rw [← hl.created_iff x hx id, hst]
      exact ⟨(fun h => by cases h), fun h => by cases h⟩)
    fun n hn _ => hl.created_iff n hn
  ids_above := hl.ids_above
  ids_sorted := hl.ids_sorted
  roomU := hl.roomU
  roomP := hl.roomP
  -- the report was the tool's, and it said running
  fits := forall_update_keyed
    (P := fun (n : Config.NodeSpec) (st : DiscoveryStage) => st.Fits j answer h₀.network n) hnames hx
    ⟨by have hfits := hl.fits x hx; rw [hst] at hfits; exact hfits.symm, hrun, rfl⟩
    fun n hn _ => hl.fits n hn

/-- A node the tool reports running, with its metrics collected, is recorded with the next id,
after every recorded upload: ids remain, and no running upload of its node stands in the way,
since the recorded ones are of other nodes. -/
theorem record (hl : DiscoveryLedger j answer nodes h₀ S stage asked created S' h)
    (hnames : (nodes.map (·.name)).Nodup) (hx : x ∈ nodes)
    (hfree : ∀ n ∈ nodes, ∀ o ∈ S.uploads, o.nodeName = n.name → o.status ≠ .running)
    (hroomU : S.nextId S.uploadsT + nodes.length ≤ maxInteger)
    (hroomP : S.nextId S.progressT + nodes.length ≤ maxInteger)
    {s : Snapshot} {data : ProtocolData} (hst : stage x.name = .collected s data) :
    ∃ S'', S'.create (j.discovered h₀.network h₀.clock x s) = .ok (S'', S'.nextId S'.uploadsT) ∧
      DiscoveryLedger j answer nodes h₀ S
        (Function.update stage x.name (.recorded (S'.nextId S'.uploadsT))) asked
        (created ++ [(x, s, S'.nextId S'.uploadsT)]) S''
        { h with store := { h.store with db := S''.db } } := by
  have hfits := hl.fits x hx
  rw [hst] at hfits
  obtain ⟨hrep, hrun, -⟩ := hfits
  have hs : s.WellFormed := reportOfAnswer_wellFormed hrep
  -- the node has recorded nothing, so fewer uploads are recorded than there are nodes
  have hnew : x ∉ created.map (·.1) := by
    intro hmem
    obtain ⟨c, hc, hcx⟩ := List.mem_map.1 hmem
    have hrec := (hl.created_iff x hx c.2.2).2 ⟨c.2.1, hcx ▸ hc⟩
    rw [hst] at hrec
    cases hrec
  have hfewer : created.length + 1 ≤ nodes.length := by
    have hsub : x :: created.map (·.1) ⊆ nodes := by
      intro n hn
      rcases List.mem_cons.1 hn with rfl | hn
      · exact hx
      · obtain ⟨c, hc, rfl⟩ := List.mem_map.1 hn
        exact (hl.created_mem c hc).1
    have hlen := (List.nodup_cons.2 ⟨hnew, hl.created_nodup⟩).length_le_of_subset hsub
    rw [List.length_cons, List.length_map] at hlen
    exact hlen
  -- no running upload of the node: none in the state, and the recorded ones are of other nodes
  have hfree' : ∀ o ∈ S'.uploads, o.nodeName = x.name → o.status ≠ .running := by
    intro o ho hname
    rw [hl.uploads, List.mem_append] at ho
    rcases ho with ho | ho
    · exact hfree x hx o ho hname
    · obtain ⟨c, hc, rfl⟩ := List.mem_map.1 ho
      have hcx : c.1 = x := List.inj_on_of_nodup_map hnames (hl.created_mem c hc).1 hx hname
      exact absurd (List.mem_map.2 ⟨c, hc, hcx⟩) hnew
  have hroomU' := hl.roomU
  have hroomP' := hl.roomP
  obtain ⟨S'', hcreate, hS'', hup, hnu, hnp⟩ := MonitorJob.create_discovered (j := j) hl.sound hs
    hfree' ⟨by omega, by omega⟩ h₀.network h₀.clock
  -- every recorded upload has an id below the next one
  have hbelow : ∀ c ∈ created, c.2.2 < S'.nextId S'.uploadsT := by
    intro c hc
    have hmem : j.discoveredRow h₀.network h₀.clock (c.1, c.2.1) c.2.2 ∈ S'.uploads := by
      rw [hl.uploads]
      exact List.mem_append_right _ (List.mem_map.2 ⟨c, hc, rfl⟩)
    exact S'.id_lt_nextId hmem
  refine ⟨S'', hcreate, ?_⟩
  exact {
    host := by rw [hl.host]
    asked_nodup := hl.asked_nodup
    asked_mem := hl.asked_mem
    asked_iff := forall_update_keyed
      (P := fun (n : Config.NodeSpec) (st : DiscoveryStage) => n ∈ asked ↔ st ≠ .waiting) hnames hx
      (by rw [hl.asked_iff x hx, hst]; exact ⟨(fun _ h => by cases h), fun _ h => by cases h⟩)
      fun n hn _ => hl.asked_iff n hn
    sound := hS''
    uploads := by
      rw [hup, hl.uploads, List.map_append, List.map_singleton, List.append_assoc]
    created_mem := fun c hc => by
      rcases List.mem_append.1 hc with hc | hc
      · exact hl.created_mem c hc
      · rw [List.mem_singleton.1 hc]
        exact ⟨hx, hrep, hrun⟩
    created_nodup := by
      rw [List.map_append, List.map_singleton]
      exact List.nodup_append.2 ⟨hl.created_nodup, List.nodup_singleton x, fun a ha b hb hab => by
        rw [List.mem_singleton.1 hb] at hab
        exact hnew (hab ▸ ha : (x, s, S'.nextId S'.uploadsT).1 ∈ _)⟩
    created_iff := forall_update_keyed
      (P := fun (n : Config.NodeSpec) (st : DiscoveryStage) =>
        ∀ id, st = .recorded id ↔ ∃ s', (n, s', id) ∈ created ++ [(x, s, S'.nextId S'.uploadsT)])
      hnames hx
      (fun id => by
        constructor
        · intro hid
          cases hid
          exact ⟨s, List.mem_append_right _ (List.mem_singleton_self _)⟩
        · -- the node had recorded nothing before, so its one record is the new one
          rintro ⟨s', hc⟩
          rcases List.mem_append.1 hc with hc | hc
          · have hrec := (hl.created_iff x hx id).2 ⟨s', hc⟩
            rw [hst] at hrec
            cases hrec
          · cases List.mem_singleton.1 hc
            rfl)
      fun n hn hne id => by
        rw [hl.created_iff n hn id]
        constructor
        · rintro ⟨s', hc⟩
          exact ⟨s', List.mem_append_left _ hc⟩
        · rintro ⟨s', hc⟩
          rcases List.mem_append.1 hc with hc | hc
          · exact ⟨s', hc⟩
          · cases List.mem_singleton.1 hc
            exact absurd rfl hne
    ids_above := fun o ho c hc => by
      rcases List.mem_append.1 hc with hc | hc
      · exact hl.ids_above o ho c hc
      · rw [List.mem_singleton.1 hc]
        exact S'.id_lt_nextId (by rw [hl.uploads]; exact List.mem_append_left _ ho)
    ids_sorted := by
      rw [List.map_append, List.map_singleton]
      refine List.pairwise_append.2 ⟨hl.ids_sorted, List.pairwise_singleton _ _, ?_⟩
      intro a ha b hb
      obtain ⟨c, hc, rfl⟩ := List.mem_map.1 ha
      rw [List.mem_singleton.1 hb]
      exact hbelow c hc
    roomU := by
      rw [List.length_append, List.length_singleton]
      omega
    roomP := by
      rw [List.length_append, List.length_singleton]
      omega
    fits := forall_update_keyed
      (P := fun (n : Config.NodeSpec) (st : DiscoveryStage) => st.Fits j answer h₀.network n)
      hnames hx trivial fun n hn _ => hl.fits n hn }

/-- Every step of a discovery keeps the ledger of its group, with its node gone on to the stage the
step reaches: the question, the collection of the metrics, or the record. -/
theorem step (hc : h₀.cancelled = false) (htool : h₀.tool.Answers j.manager.tool answer)
    (hnames : (nodes.map (·.name)).Nodup)
    (hfree : ∀ n ∈ nodes, ∀ o ∈ S.uploads, o.nodeName = n.name → o.status ≠ .running)
    (hroomU : S.nextId S.uploadsT + nodes.length ≤ maxInteger)
    (hroomP : S.nextId S.progressT + nodes.length ≤ maxInteger)
    (hl : DiscoveryLedger j answer nodes h₀ S stage asked created S' h) (hx : x ∈ nodes)
    {e : Host → Host} {n : Host → Thread (String × Except Failure (Option Int))}
    (hthread : j.discoveryAt x (stage x.name) = .step e n) :
    ∃ st, n h = j.discoveryAt x st ∧ ∃ asked' created' S'',
      DiscoveryLedger j answer nodes h₀ S (Function.update stage x.name st) asked' created' S''
        (e h) := by
  -- the host is the group's, with the questions asked and the state written
  have htool' : h.tool.Answers j.manager.tool answer := by rw [hl.host]; exact htool
  have hc' : h.cancelled = false := by rw [hl.host]; exact hc
  cases hst : stage x.name with
  | waiting =>
    rw [hst, MonitorJob.discoveryAt_waiting] at hthread
    obtain ⟨rfl, rfl⟩ := Thread.step.inj hthread
    have hask := checkStatus_answers htool' hc' x.name
    refine ⟨.reported (reportFor answer x.name), ?_, asked ++ [x], created, S', ?_⟩
    · dsimp only
      rw [hask]
      rfl
    · dsimp only
      rw [hask]
      exact hl.ask hnames hx hst
  | reported report =>
    have hrep : report = reportFor answer x.name := by
      have := hl.fits x hx
      rw [hst] at this
      exact this
    rw [hst] at hthread
    rcases report with err | s
    · cases hthread
    cases hrun : s.isRunning
    · rw [MonitorJob.discoveryAt_idle j x hrun] at hthread
      cases hthread
    rw [MonitorJob.discoveryAt_running j x hrun] at hthread
    obtain ⟨rfl, rfl⟩ := Thread.step.inj hthread
    -- the metrics are collected over the group's network, leaving the host as it was
    have hdata := j.discoveryData_run x hc'
    have hnet : h.network = h₀.network := by rw [hl.host]
    refine ⟨.collected s (j.discoveredData h₀.network x), ?_, asked, created, S', ?_⟩
    · dsimp only
      rw [hdata, hnet]
      rfl
    · dsimp only
      rw [hdata]
      exact hl.collect hnames hx hst hrun
  | collected s data =>
    have hdata : data = j.discoveredData h₀.network x := by
      have := hl.fits x hx
      rw [hst] at this
      exact this.2.2
    rw [hst, MonitorJob.discoveryAt_collected] at hthread
    obtain ⟨rfl, rfl⟩ := Thread.step.inj hthread
    obtain ⟨S'', hcreate, hl'⟩ := hl.record hnames hx hfree hroomU hroomP hst
    -- the record is the creation on the typed state, at the group's clock
    have hdb : h.store.db = S'.db := by rw [hl.host]
    have hclock : h.clock = h₀.clock := by rw [hl.host]
    have hrecord : (Manager.createRecord (UploadRequest.forNode x .discovered data) (some s)).run h =
        (.ok (S'.nextId S'.uploadsT), { h with store := { h.store with db := S''.db } }) := by
      rw [Manager.createRecord, Manager.insert_some_run,
        writeStore_createUpload hl.sound hdb hc', hclock, hdata]
      rw [show (UploadRequest.forNode x .discovered (j.discoveredData h₀.network x)).seeded s
          h₀.clock = j.discovered h₀.network h₀.clock x s from rfl, hcreate]
    refine ⟨.recorded (S'.nextId S'.uploadsT), ?_, asked, created ++ [(x, s, S'.nextId S'.uploadsT)],
      S'', ?_⟩
    · dsimp only
      rw [hrecord]
      rfl
    · dsimp only
      rw [hrecord]
      exact hl'
  | recorded id =>
    rw [hst] at hthread
    cases hthread

end DiscoveryLedger


/-! ### The group of discoveries -/

/-- A node's upload is among the running reports exactly when the node is one of the group's and
the tool reports the upload running. -/
theorem mem_runningReports {answer : List String → Except CommandError Output}
    {nodes : List Config.NodeSpec} {n : Config.NodeSpec} {s : Snapshot} :
    (n, s) ∈ runningReports answer nodes ↔
      n ∈ nodes ∧ reportFor answer n.name = .ok s ∧ s.isRunning = true := by
  unfold runningReports
  rw [List.mem_filterMap]
  constructor
  · rintro ⟨m, hm, hsome⟩
    rcases hrep : reportFor answer m.name with e | s'
    · rw [hrep] at hsome
      cases hsome
    · rw [hrep] at hsome
      dsimp only at hsome
      split at hsome
      · next hrun =>
        cases hsome
        exact ⟨hm, hrep, hrun⟩
      · cases hsome
  · rintro ⟨hn, hrep, hrun⟩
    refine ⟨n, hn, ?_⟩
    rw [hrep]
    dsimp only
    rw [if_pos hrun]

theorem runningReports_nodup {answer : List String → Except CommandError Output}
    {nodes : List Config.NodeSpec} (hnodes : nodes.Nodup) : (runningReports answer nodes).Nodup := by
  refine List.Nodup.filterMap (fun a a' b hb hb' => ?_) hnodes
  -- a running report names its own node
  obtain ⟨n, s⟩ := b
  have hown : ∀ m, (n, s) ∈ runningReports answer [m] → n = m := fun m hm =>
    List.mem_singleton.1 (mem_runningReports.1 hm).1
  exact (hown a (List.mem_filterMap.2 ⟨a, List.mem_singleton_self a, hb⟩)).symm.trans
    (hown a' (List.mem_filterMap.2 ⟨a', List.mem_singleton_self a', hb'⟩))

/-- The discoveries of `nodes`, side by side on a calm host over a sound state in which none of the
nodes has a running upload, with room for an upload of each: every node asks the tool once, and
the uploads recorded are exactly one per node the tool reports running, seeded from its report,
each with a new id above every id before, the ids growing in the order of the records; the
answers name exactly these uploads, in the order the discoveries finished. -/
theorem MonitorJob.discovery_sideBySide {j : MonitorJob}
    {answer : List String → Except CommandError Output} {nodes : List Config.NodeSpec}
    {S : UploadTables} {h : Host} (hS : S.Sound) (hdb : h.store.db = S.db)
    (hc : h.cancelled = false) (hdue : h.cancelDue = false)
    (htool : h.tool.Answers j.manager.tool answer) (hnames : (nodes.map (·.name)).Nodup)
    (hfree : ∀ n ∈ nodes, ∀ o ∈ S.uploads, o.nodeName = n.name → o.status ≠ .running)
    (hroomU : S.nextId S.uploadsT + nodes.length ≤ maxInteger)
    (hroomP : S.nextId S.progressT + nodes.length ≤ maxInteger)
    {found : List (String × Except Failure (Option Int))} {h' : Host}
    (hrun : SideBySide (nodes.map j.discoverThread) h found h') :
    ∃ (asked : List Config.NodeSpec) (created : List (Config.NodeSpec × Snapshot × Int))
      (S' : UploadTables),
      h' = { h with calls := h.calls ++ asked.map j.manager.infoCall,
                    store := { h.store with db := S'.db }, inGroup := false } ∧
      asked.Perm nodes ∧ S'.Sound ∧
      (created.map fun c => (c.1, c.2.1)).Perm (runningReports answer nodes) ∧
      (∀ o ∈ S.uploads, ∀ c ∈ created, o.id < c.2.2) ∧ (created.map (·.2.2)).Pairwise (· < ·) ∧
      S'.uploads = S.uploads ++
        created.map (fun c => j.discoveredRow h.network h.clock (c.1, c.2.1) c.2.2) ∧
      (discoveredPairs found).Perm (created.map fun c => (c.1.name, c.2.2)) ∧
      S'.nextId S'.progressT ≤ S.nextId S.progressT + nodes.length := by
  obtain ⟨results, h₁, hinter, hperm, rfl⟩ := hrun
  have hnodes : nodes.Nodup := hnames.of_map _
  have hstart : DiscoveryLedger j answer nodes { h with inGroup := true } S (fun _ => .waiting) [] []
      S { h with inGroup := true } := DiscoveryLedger.start hS hdb
  -- every step of a discovery keeps the ledger, so it holds at the end
  obtain ⟨stage, hend, asked, created, S', hl⟩ :=
    @Interleaving.staged (String × Except Failure (Option Int)) Config.NodeSpec String DiscoveryStage _
      (·.name) nodes hnames j.discoveryAt
      (fun stage h₂ => ∃ asked created S', DiscoveryLedger j answer nodes { h with inGroup := true }
        S stage asked created S' h₂)
      (fun _ _ _ _ _ hx ⟨_, _, _, hl⟩ hthread => hl.step
        (show ({ h with inGroup := true } : Host).cancelled = false from hc)
        (show ({ h with inGroup := true } : Host).tool.Answers j.manager.tool answer from htool)
        hnames hfree hroomU hroomP hx hthread)
      (fun _ => .waiting) _ _ _ hinter ⟨[], [], S, hstart⟩
  -- at the end every discovery has finished
  have hdone : ∀ x ∈ nodes, j.discoveryAt x (stage x.name) = .done ((stage x.name).answer x) ∧
      stage x.name ≠ .waiting ∧ (∀ s data, stage x.name ≠ .collected s data) ∧
      ∀ s, stage x.name = .reported (.ok s) → s.isRunning = false := by
    intro x hx
    obtain ⟨a, ha⟩ := Interleaving.done_of_finished hend hx
    obtain ⟨rfl, hfacts⟩ := MonitorJob.discoveryAt_done ha
    exact ⟨ha, hfacts⟩
  have hresults : results = nodes.map fun x => (stage x.name).answer x :=
    Interleaving.results_of_finished hend fun x hx => (hdone x hx).1
  -- a node is recorded exactly when the tool reports it running
  have hrecorded : ∀ x ∈ nodes, ∀ s, reportFor answer x.name = .ok s → s.isRunning = true →
      ∃ id, stage x.name = .recorded id := by
    intro x hx s hrep hrun
    have hfits := hl.fits x hx
    cases hst : stage x.name with
    | waiting => exact absurd hst (hdone x hx).2.1
    | reported report =>
      rw [hst] at hfits
      have hoff := (hdone x hx).2.2.2 s (by rw [hst, hfits, hrep])
      rw [hrun] at hoff
      cases hoff
    | collected s' data => exact absurd hst ((hdone x hx).2.2.1 s' data)
    | recorded id => exact ⟨id, rfl⟩
  -- the recorded uploads, by node, are the nodes whose discovery recorded an id
  have hrecordedNodes : (created.map fun c => (c.1, c.2.2)).Perm
      (nodes.filterMap fun x => (stage x.name).recordedId.map (x, ·)) := by
    refine (List.perm_ext_iff_of_nodup ?_ ?_).2 fun p => ?_
    · refine List.Nodup.of_map Prod.fst ?_
      rw [List.map_map]
      exact hl.created_nodup
    · refine List.Nodup.filterMap (fun a a' b hb hb' => ?_) hnodes
      obtain ⟨id, -, rfl⟩ := Option.map_eq_some_iff.1 hb
      obtain ⟨id', -, hb'⟩ := Option.map_eq_some_iff.1 hb'
      exact (Prod.mk.inj hb').1.symm
    · obtain ⟨x, id⟩ := p
      rw [List.mem_map, List.mem_filterMap]
      constructor
      · rintro ⟨c, hc, hceq⟩
        have hx := (hl.created_mem c hc).1
        obtain ⟨rfl, rfl⟩ := Prod.mk.inj hceq
        refine ⟨c.1, hx, ?_⟩
        rw [(hl.created_iff c.1 hx c.2.2).2 ⟨c.2.1, hc⟩]
        rfl
      · rintro ⟨y, hy, hsome⟩
        obtain ⟨id', hid, hpair⟩ := Option.map_eq_some_iff.1 hsome
        obtain ⟨rfl, rfl⟩ := Prod.mk.inj hpair
        obtain ⟨s, hs⟩ := (hl.created_iff y hy id').1 (DiscoveryStage.recordedId_eq_some.1 hid)
        exact ⟨_, hs, rfl⟩
  refine ⟨asked, created, S', ?_, ?_, hl.sound, ?_, hl.ids_above, hl.ids_sorted, hl.uploads, ?_, ?_⟩
  · -- the group ends where its discoveries left the host
    rw [hl.host]
    refine (Host.endGroup_eq ?_ ?_).trans rfl
    · exact hc
    · exact hdue
  · exact (List.perm_ext_iff_of_nodup hl.asked_nodup hnodes).2 fun n =>
      ⟨hl.asked_mem n, fun hn => (hl.asked_iff n hn).2 (hdone n hn).2.1⟩
  · refine (List.perm_ext_iff_of_nodup ?_ (runningReports_nodup hnodes)).2 fun p => ?_
    · refine List.Nodup.of_map Prod.fst ?_
      rw [List.map_map]
      exact hl.created_nodup
    · obtain ⟨n, s⟩ := p
      rw [mem_runningReports, List.mem_map]
      constructor
      · rintro ⟨c, hc, hceq⟩
        obtain ⟨rfl, rfl⟩ := Prod.mk.inj hceq
        exact hl.created_mem c hc
      · rintro ⟨hn, hrep, hrun⟩
        obtain ⟨id, hid⟩ := hrecorded n hn s hrep hrun
        obtain ⟨s', hs'⟩ := (hl.created_iff n hn id).1 hid
        have hrep' := (hl.created_mem _ hs').2.1
        rw [hrep] at hrep'
        cases hrep'
        exact ⟨_, hs', rfl⟩
  · -- the answers name the recorded uploads, in the order the discoveries finished
    have hfound : (discoveredPairs found).Perm (discoveredPairs results) := hperm.filterMap _
    refine hfound.trans ?_
    rw [hresults, discoveredPairs_answers]
    have hpairs : (nodes.filterMap fun x => (stage x.name).recordedId.map (x.name, ·)) =
        (nodes.filterMap fun x => (stage x.name).recordedId.map (x, ·)).map
          fun p => (p.1.name, p.2) := by
      rw [List.map_filterMap]
      simp only [Option.map_map]
      rfl
    have hnamed := (hrecordedNodes.map fun p => (p.1.name, p.2)).symm
    rw [List.map_map] at hnamed
    rw [hpairs]
    exact hnamed
  · -- at most one upload is recorded per node
    have hsub : created.map (·.1) ⊆ nodes := fun n hn => by
      obtain ⟨c, hc, rfl⟩ := List.mem_map.1 hn
      exact (hl.created_mem c hc).1
    have hlen := hl.created_nodup.length_le_of_subset hsub
    rw [List.length_map] at hlen
    have := hl.roomP
    omega


end SnapshotAgent.Agent
