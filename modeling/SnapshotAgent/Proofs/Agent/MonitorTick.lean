import Mathlib
import SnapshotAgent.Proofs.Agent.DiscoveryGroup
import SnapshotAgent.Proofs.Agent.ReconcileGroup
/-!
# The monitor tick

A monitor tick reads the running uploads, discovers the configured nodes none of them is of, then
reconciles the uploads it read, and reports what both groups answered. The tasks of each group run
side by side and answer in the order they finish, so the tick is stated over all its runs
(`MonitorJob.Ticks`), of which the program's, with each group's tasks run in turn, is one
(`MonitorJob.execute_ticks`).

`monitor_tick_contract`: on a calm host over a sound store whose rows all read back, in every run
of the tick, the tool is asked once about each configured node with no running upload and once
about the node of each running upload, and about nothing else; the running rows are refreshed
from the tool's reports and no other row changes; one upload is recorded per untracked node the
tool reports running, seeded from its report, with fresh ids in increasing order; and the report
lists exactly these uploads as discovered, in the order their discoveries finished.

The two groups meet only in the store, and over disjoint rows: discovery appends rows of nodes
with no running upload, while reconciliation patches the running rows read before discovery,
whose ids are all below the new ones.
-/

namespace SnapshotAgent.Agent

open SnapshotAgent.Upload SnapshotAgent.Store SnapshotAgent.Time SnapshotAgent.Tool

section Tick

variable {j : MonitorJob} {answer : List String → Except CommandError Output}

/-- The monitor tick on a calm host over a sound store whose rows all read back, with room for an
upload of each configured node and a reading of each running upload. The program's run is a run
of the tick; and every run of the tick, however its tasks interleave, answers a report, asks the
tool about each untracked node and each running upload once, refreshes the running rows, records
one upload per untracked node the tool reports running, and lists those uploads as discovered. -/
theorem monitor_tick_contract {h : Host} {S : UploadTables} (hS : S.Sound)
    (hstore : h.store = { db := S.db }) (hc : h.cancelled = false) (hdue : h.cancelDue = false)
    (htool : h.tool.Answers j.manager.tool answer) (hnames : (j.nodes.map (·.name)).Nodup)
    (hroomU : S.nextId S.uploadsT + j.nodes.length ≤ maxInteger)
    (hroomP : S.nextId S.progressT + j.nodes.length + S.uploads.length ≤ maxInteger)
    (hread : ∀ o ∈ S.uploads, ∃ r, ResultRow.toRecord ⟨uploadColumns, o.cells⟩ = .ok r) :
    j.Ticks h (j.execute.run h).1 (j.execute.run h).2 ∧
    ∀ res h', j.Ticks h res h' →
      ∃ (report : MonitorReport) (asked refreshed : List (List String)) (S' : UploadTables)
        (created : List (Config.NodeSpec × Snapshot × Int)),
        res = .ok report ∧
        h'.calls = h.calls ++ asked ++ refreshed ∧
        asked.Perm ((j.untracked S).map j.manager.infoCall) ∧
        refreshed.Perm ((S.uploads.filter (·.status == .running)).map
          fun o => j.manager.tool :: infoArgs o.nodeName) ∧
        S'.Sound ∧ h'.store.db = S'.db ∧
        (created.map fun c => (c.1, c.2.1)).Perm (runningReports answer (j.untracked S)) ∧
        (∀ o ∈ S.uploads, ∀ c ∈ created, o.id < c.2.2) ∧ (created.map (·.2.2)).Pairwise (· < ·) ∧
        S'.uploads = S.uploads.map (fun o =>
            if o.status = .running then j.manager.refreshed answer h.clock o else o) ++
          created.map (fun c => j.discoveredRow h.network h.clock (c.1, c.2.1) c.2.2) ∧
        report.discovered.Perm (created.map fun c => (c.1.name, c.2.2)) := by
  refine ⟨j.execute_ticks h, fun res h' hticks => ?_⟩
  choose! rec hrec using hread
  obtain ⟨rows, hperm, hall⟩ := S.allRunning_perm
  have hmem : ∀ o ∈ rows, o ∈ S.uploads ∧ o.status = .running := fun o ho => by
    simpa using hperm.subset ho
  have hdb : h.store.db = S.db := by rw [hstore]
  -- the tick reads the running rows, and leaves the configured nodes with none
  have hreadrun : (readStore (·.allRunning)).run h = (.ok (rows.map rec), h) := by
    have hrecords : S.db.allRunning = .ok (rows.map rec) := by
      rw [hall]
      exact mapM_eq_pure _ rec rows fun o ho => hrec o (hmem o ho).1
    rw [readStore_run, hc]
    simp [UploadStore.allRunning, hstore, hrecords]
  have hfilter : (j.nodes.filter fun n => !(rows.map rec).any (·.nodeName == n.name)) =
      j.untracked S := by
    simp only [any_nodeName_running hrec hperm]
    rfl
  cases hticks with
  | readFails hfail =>
    rw [hreadrun] at hfail
    cases hfail
  | runs hread' hdiscover hreconcile =>
    rw [hreadrun] at hread'
    obtain ⟨hrecords, rfl⟩ := Prod.mk.inj hread'
    cases hrecords
    rw [hfilter] at hdiscover
    -- discovery, over the untracked nodes
    have hnamesU : ((j.untracked S).map (·.name)).Nodup :=
      hnames.sublist (List.filter_sublist.map _)
    have hfree : ∀ n ∈ j.untracked S, ∀ o ∈ S.uploads, o.nodeName = n.name →
        o.status ≠ .running := by
      intro n hn o ho hname hrun
      have hruns : S.runsNode n.name = true := List.any_eq_true.2 ⟨o, ho, by simp [hname, hrun]⟩
      simp [MonitorJob.untracked, hruns] at hn
    have hlenU : (j.untracked S).length ≤ j.nodes.length := List.length_filter_le _ _
    obtain ⟨askedD, created, SD, rfl, haskedD, hSD, hcreated, hlt, hsorted, hupD, hpairs, hnpD⟩ :=
      MonitorJob.discovery_sideBySide hS hdb hc hdue htool hnamesU hfree (by omega) (by omega)
        hdiscover
    -- reconciliation, over the rows read before discovery, all still running
    have hidsR : ((rows.map rec).map (·.id)).Nodup := by
      rw [List.map_map]
      refine (List.map_congr_left fun o ho =>
        (UploadRow.toRecord_ok (hrec o (hmem o ho).1)).1 : rows.map _ = rows.map (·.id)) ▸ ?_
      apply (hperm.map (·.id)).nodup_iff.2
      exact List.pairwise_map.2 ((hS.ids_sorted.filter _).imp ne_of_lt)
    have hrowsR : ∀ r ∈ rows.map rec, ∃ o ∈ SD.uploads, o.id = r.id ∧ o.nodeName = r.nodeName ∧
        o.status = .running := by
      intro r hr
      obtain ⟨o, ho, rfl⟩ := List.mem_map.1 hr
      obtain ⟨hid, hname, -⟩ := UploadRow.toRecord_ok (hrec o (hmem o ho).1)
      exact ⟨o, by rw [hupD]; exact List.mem_append_left _ (hmem o ho).1, hid.symm, hname.symm,
        (hmem o ho).2⟩
    have hlenR : rows.length ≤ S.uploads.length := hperm.length_eq ▸ List.length_filter_le _ _
    obtain ⟨askedR, SR, ds, rfl, haskedR, hSR, hupR, -, -⟩ :=
      MonitorJob.reconciliation_sideBySide
        (h := { h with calls := h.calls ++ askedD.map j.manager.infoCall,
                       store := { h.store with db := SD.db }, inGroup := false })
        hSD rfl hc hdue htool hidsR hrowsR (by rw [List.length_map]; omega) hreconcile
    -- a row of the state is reconciled exactly when it is running; a discovered row never is
    have hreconciled : ∀ x ∈ S.uploads, x.id ∈ (rows.map rec).map (·.id) ↔
        x.status = .running := by
      intro x hx
      rw [List.map_map]
      constructor
      · intro hid
        obtain ⟨o, ho, hoid⟩ := List.mem_map.1 hid
        rw [Function.comp_apply, (UploadRow.toRecord_ok (hrec o (hmem o ho).1)).1] at hoid
        rw [← eq_of_id_eq hS.ids_sorted (hmem o ho).1 hx hoid]
        exact (hmem o ho).2
      · intro hrun
        have ho : x ∈ rows := hperm.mem_iff.2 (List.mem_filter.2 ⟨hx, by simp [hrun]⟩)
        refine List.mem_map.2 ⟨x, ho, ?_⟩
        rw [Function.comp_apply, (UploadRow.toRecord_ok (hrec x hx)).1]
    have hfresh : ∀ c ∈ created, (j.discoveredRow h.network h.clock (c.1, c.2.1) c.2.2).id ∉
        (rows.map rec).map (·.id) := by
      intro c hc hid
      rw [List.map_map] at hid
      obtain ⟨o, ho, hoid⟩ := List.mem_map.1 hid
      have hbelow := hlt o (hmem o ho).1 c hc
      rw [Function.comp_apply, (UploadRow.toRecord_ok (hrec o (hmem o ho).1)).1] at hoid
      rw [hoid] at hbelow
      exact lt_irrefl _ hbelow
    refine ⟨_, askedD.map j.manager.infoCall, askedR.map j.manager.recordCall, SR, created, rfl,
      rfl, haskedD.map _, ?_, hSR, rfl, hcreated, hlt, hsorted, ?_, ?_⟩
    · -- the questions of the reconciliations are about the nodes of the running rows
      have hcalls : (rows.map rec).map j.manager.recordCall =
          rows.map fun o => j.manager.tool :: infoArgs o.nodeName := by
        rw [List.map_map]
        exact List.map_congr_left fun o ho => by
          rw [Function.comp_apply, Manager.recordCall,
            (UploadRow.toRecord_ok (hrec o (hmem o ho).1)).2.1]
      have hasked := haskedR.map j.manager.recordCall
      rw [hcalls] at hasked
      exact hasked.trans (hperm.map _)
    · rw [hupR, hupD, List.map_append]
      congr 1
      · exact List.map_congr_left fun x hx => by simp only [hreconciled x hx]
      · rw [List.map_map]
        exact List.map_congr_left fun c hc => by
          rw [Function.comp_apply]
          exact if_neg (hfresh c hc)
    · rw [MonitorReport.foldl_addReconciled_discovered, MonitorReport.foldl_addFound_discovered,
        List.nil_append]
      exact hpairs

end Tick

/-! ## A tick over a tracked and an untracked node -/

/-- The tool's report of a job that is running. -/
def runningReport : String := "status: Running\n"

/-- A store holding one upload, running, of `eth`. -/
def trackedStore : UploadTables := UploadTables.run [.create ethUpload]

/-- A tool reporting the jobs of `eth` and of `btc` running. -/
def bothRunning : Testing.Script :=
  { standing := [("node job eth info upload", .stdout runningReport),
      ("node job btc info upload", .stdout runningReport)] }

/-- What that tool answers. -/
def bothRunningAnswer (args : List String) : Except CommandError Output :=
  ((scriptedAnswer "bv" (" ".intercalate args)
    ((bothRunning.standing.find? (·.1 == " ".intercalate args)).map (·.2))).run default).1

/-- A host over that store, with that tool. -/
def trackedHost : Host :=
  { store := { db := trackedStore.db }, tool := .scripted bothRunning, clock := noonOfDay20000 }

/-- A monitor job configured with `eth`, which the store tracks, and `btc`, which it does not. -/
def twoNodeJob : MonitorJob :=
  { nodes := [{ name := "eth", protocol := "ethereum", nodeType := "archive",
                url := "http://127.0.0.1:8545", beaconUrl := none, schedule := none,
                notifications := none },
              { name := "btc", protocol := "bitcoin", nodeType := "full",
                url := "http://127.0.0.1:8332", beaconUrl := none, schedule := none,
                notifications := none }],
    manager := { tool := "bv" }, protocols := Metrics.Protocols.defaults,
    notifiers := Notify.Notifiers.defaults }

/-- A tick over a store with a running upload of `eth`, `btc` configured and untracked, and a tool
reporting both jobs running: the store has one running row to reconcile, the tool reports the
untracked node running, and every run of the tick refreshes that row, records one upload of
`btc`, and lists it as discovered. -/
theorem monitor_tick_on_new_store :
    (trackedStore.uploads.filter (·.status == .running)).length = 1 ∧
    (runningReports bothRunningAnswer (twoNodeJob.untracked trackedStore)).map (·.1.name) =
      ["btc"] ∧
    trackedStore.Sound ∧ (twoNodeJob.nodes.map (·.name)).Nodup ∧
    trackedStore.nextId trackedStore.uploadsT + twoNodeJob.nodes.length ≤ maxInteger ∧
    trackedStore.nextId trackedStore.progressT + twoNodeJob.nodes.length +
      trackedStore.uploads.length ≤ maxInteger ∧
    twoNodeJob.Ticks trackedHost (twoNodeJob.execute.run trackedHost).1
      (twoNodeJob.execute.run trackedHost).2 ∧
    ∀ res h', twoNodeJob.Ticks trackedHost res h' →
      ∃ (report : MonitorReport) (asked refreshed : List (List String)) (S' : UploadTables)
        (created : List (Config.NodeSpec × Snapshot × Int)),
        res = .ok report ∧
        h'.calls = trackedHost.calls ++ asked ++ refreshed ∧
        asked.Perm ((twoNodeJob.untracked trackedStore).map twoNodeJob.manager.infoCall) ∧
        refreshed.Perm ((trackedStore.uploads.filter (·.status == .running)).map
          fun o => twoNodeJob.manager.tool :: infoArgs o.nodeName) ∧
        S'.Sound ∧ h'.store.db = S'.db ∧
        (created.map fun c => (c.1, c.2.1)).Perm
          (runningReports bothRunningAnswer (twoNodeJob.untracked trackedStore)) ∧
        (∀ o ∈ trackedStore.uploads, ∀ c ∈ created, o.id < c.2.2) ∧
        (created.map (·.2.2)).Pairwise (· < ·) ∧
        S'.uploads = trackedStore.uploads.map (fun o =>
            if o.status = .running then
              twoNodeJob.manager.refreshed bothRunningAnswer trackedHost.clock o
            else o) ++
          created.map (fun c =>
            twoNodeJob.discoveredRow trackedHost.network trackedHost.clock (c.1, c.2.1) c.2.2) ∧
        report.discovered.Perm (created.map fun c => (c.1.name, c.2.2)) := by
  have hdata : Json.Canonical (.obj []) := Json.Canonical.obj [] (by simp) (by simp)
  have hreadable : ∀ w ∈ [StoreWrite.create ethUpload], w.Readable := by
    intro w hw
    rw [List.mem_singleton.1 hw]
    exact ⟨noonOfDay20000_storable, (fun _ h => nomatch h), hdata, by decide⟩
  have hwait : ∀ key, (key, Testing.Reply.hang) ∉ bothRunning.standing := by
    intro key hkey
    simp [bothRunning] at hkey
  have hroomU : trackedStore.nextId trackedStore.uploadsT + twoNodeJob.nodes.length ≤
      maxInteger := by decide +kernel
  have hroomP : trackedStore.nextId trackedStore.progressT + twoNodeJob.nodes.length +
      trackedStore.uploads.length ≤ maxInteger := by decide +kernel
  have hnames : (twoNodeJob.nodes.map (·.name)).Nodup := by decide
  exact ⟨by decide +kernel, by decide +kernel, UploadTables.run_sound _, hnames, hroomU, hroomP,
    monitor_tick_contract (UploadTables.run_sound _) rfl rfl rfl
      (ToolHost.answers_scripted bothRunning rfl hwait "bv") hnames hroomU hroomP
      fun o ho => (UploadTables.run_decodable hreadable o ho).toRecord_ok⟩

end SnapshotAgent.Agent
