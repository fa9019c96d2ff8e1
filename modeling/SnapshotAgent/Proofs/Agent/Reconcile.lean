import SnapshotAgent.Proofs.Agent.Host
import SnapshotAgent.Proofs.Store.Outcomes
/-!
# Reconciling one upload

`Manager.monitorProgress` asks the tool for the node's report and writes one patch, chosen by the
report: a running job refreshes the progress, an ended one finishes the upload with the status
the failure policy gives. What it answers is decided by whether the store applied the patch.
`Manager.monitorProgress_eq` states the operation in those three parts, `reconcilePatch`,
`writeStore` and `reconciled`, so the statements below never unfold it again.

## The store's side

On a sound store the patch of a report is always accepted: the report is well formed, so the
patch names both chunk counts or neither and passes validation. Applying it then has three
outcomes (`UploadTables.update_reconcilePatch`): no running row of the id, and nothing changes;
the running row is merged; or, only when the history has used up its row ids, the store refuses
with its "database or disk is full".

## Main statement

`reconciliation_behaviour`: for every host and every sound store, a failed report fails the
reconciliation and leaves the store; a report leads to exactly one write, of the patch it calls
for, and the answer is `running` or the finishing status exactly when the upload was running, and
`unchanged` otherwise.
-/

namespace SnapshotAgent.Agent

open SnapshotAgent.Upload SnapshotAgent.Store SnapshotAgent.Time

/-! ## The three parts of a reconciliation -/

/-- The status an ended job finishes its upload with: failed when the policy counts a non-zero
exit code as a failure and the job exited with one. -/
def Manager.finishStatus (m : Manager) (s : Snapshot) : Status :=
  if m.nonzeroExitIsFailure && s.exitedWithFailure then .failed else .completed

/-- The patch a reconciliation writes once the tool reported `s` at `t`. -/
def Manager.reconcilePatch (m : Manager) (id : Int) (s : Snapshot) (t : Instant) : Patch :=
  if s.isRunning then Patch.progress id s t else Patch.finish id (m.finishStatus s) t s

/-- What a reconciliation answers once the store told whether its patch applied. -/
def Manager.reconciled (m : Manager) (s : Snapshot) (applied : Bool) : Reconciled :=
  if !applied then .unchanged
  else if s.isRunning then .running
  else if m.finishStatus s = .failed then .failed else .completed

theorem Manager.finishStatus_ne_running (m : Manager) (s : Snapshot) :
    m.finishStatus s ≠ .running := by
  unfold Manager.finishStatus
  split <;> simp

/-- A finished upload fails exactly when the policy counts a non-zero exit code as a failure and
the report's exit code is one. -/
theorem Manager.finishStatus_eq_failed (m : Manager) (s : Snapshot) :
    m.finishStatus s = .failed ↔ m.nonzeroExitIsFailure = true ∧ ∃ c, s.exitCode = some c ∧ c ≠ 0 := by
  unfold Manager.finishStatus Snapshot.exitedWithFailure
  cases s.exitCode with
  | none => simp
  | some c => by_cases hc : c = 0 <;> simp [hc]

/-- A reconciliation is the report, the clock, one write and the answer it decides. -/
theorem Manager.monitorProgress_eq (m : Manager) (id : Int) (node : String) :
    m.monitorProgress id node = do
      let s ← m.checkStatus node
      let t ← now
      let applied ← writeStore (·.updateUpload (m.reconcilePatch id s t) t)
      return m.reconciled s applied := by
  unfold Manager.monitorProgress
  congr 1
  funext s
  congr 1
  funext t
  by_cases hs : s.isRunning
  · simp only [hs, if_true, Manager.reconcilePatch, Manager.reconciled]
    congr 1
    funext applied
    cases applied <;> rfl
  · simp only [hs, Bool.false_eq_true, if_false, Manager.reconcilePatch, Manager.reconciled]
    congr 1
    funext applied
    cases applied <;> rfl

/-- A reconciliation on a host: a failed report ends it; otherwise the patch is written at the
host's time, and the write's answer decides the outcome. -/
theorem Manager.monitorProgress_run (m : Manager) (id : Int) (node : String) (h : Host) :
    (m.monitorProgress id node).run h =
      match (m.checkStatus node).run h with
      | (.error e, h₁) => (.error e, h₁)
      | (.ok s, h₁) =>
        match (writeStore (·.updateUpload (m.reconcilePatch id s h₁.clock) h₁.clock)).run h₁ with
        | (.ok applied, h₂) => (.ok (m.reconciled s applied), h₂)
        | (.error e, h₂) => (.error e, h₂) := by
  rw [Manager.monitorProgress_eq, run_bind]
  rcases (m.checkStatus node).run h with ⟨_ | s, h₁⟩
  · rfl
  · dsimp only
    rw [run_bind, run_liftM, now_run]
    dsimp only
    rw [run_bind]
    rcases (writeStore (·.updateUpload (m.reconcilePatch id s h₁.clock) h₁.clock)).run h₁ with
      ⟨_ | applied, h₂⟩ <;> rfl

/-! ## The store's side -/

variable {S : UploadTables}

/-- A write of the store from a host that has not cancelled, on the database of a sound state, is
the write on the typed state. -/
theorem writeStore_updateUpload {h : Host} (hS : S.Sound) (hdb : h.store.db = S.db)
    (hc : h.cancelled = false) (p : Patch) (t : Instant) :
    (writeStore (·.updateUpload p t)).run h =
      match S.update p t with
      | .ok (S', applied) => (.ok applied, { h with store := { h.store with db := S'.db } })
      | .error e => (.error (.store e), h) := by
  rw [writeStore_run, hc, if_neg Bool.false_ne_true, hdb, Database.updateUpload_eq hS]
  cases S.update p t <;> rfl

/-- The patch of a well-formed report is accepted and names both chunk counts or neither. -/
theorem reconcilePatch_accepted (m : Manager) (id : Int) {s : Snapshot} (hs : s.WellFormed)
    (t : Instant) :
    (m.reconcilePatch id s t).refusal = none ∧
      (m.reconcilePatch id s t).chunksCompleted.isSome =
        (m.reconcilePatch id s t).chunksTotal.isSome := by
  unfold Manager.reconcilePatch
  split
  · exact ⟨Patch.refusal_progress hs id t, hs.paired⟩
  · exact ⟨Patch.refusal_finish hs id (m.finishStatus_ne_running s) t, hs.paired⟩

/-- The patch of a report is applied exactly when its upload is running: with no running row of
its id nothing changes; with one, the merge replaces it, unless the history has used up its row
ids and the patch carries progress, when the store refuses and nothing changes either. -/
theorem update_reconcilePatch (hS : S.Sound) (m : Manager) (id : Int) {s : Snapshot}
    (hs : s.WellFormed) (t : Instant) :
    ((¬∃ r ∈ S.uploads, r.id = id ∧ r.status = .running) →
      S.update (m.reconcilePatch id s t) t = .ok (S, false)) ∧
    ∀ r ∈ S.uploads, r.id = id → r.status = .running →
      (∃ S', S.update (m.reconcilePatch id s t) t = .ok (S', true) ∧
        S'.uploads = (S.setUpload (r.patch (m.reconcilePatch id s t))).uploads) ∨
      ((m.reconcilePatch id s t).hasProgress = true ∧ maxInteger < S.nextId S.progressT ∧
        S.update (m.reconcilePatch id s t) t =
          .error (.database (engineError 13 "database or disk is full"))) := by
  obtain ⟨hp, hpair⟩ := reconcilePatch_accepted m id hs t
  have hid : (m.reconcilePatch id s t).id = id := by
    unfold Manager.reconcilePatch
    split <;> rfl
  rw [UploadTables.update_accepted hS hp hpair]
  refine ⟨fun hnone => ?_, fun r hr hrid hrun => ?_⟩
  · -- no running row has the id, so the patch finds no target
    rw [UploadTables.target_eq_none_iff.2 (by rw [hid]; exact hnone)]
  · -- the running row of the id is the target, the only row of that id
    rw [UploadTables.target_eq_some hS hr (hrid.trans hid.symm) hrun]
    dsimp only
    split
    · next hprog =>
      unfold UploadTables.appendReading
      split
      · next hfull =>
        rw [UploadTables.nextId_progress_setUpload] at hfull
        exact .inr ⟨hprog, hfull, rfl⟩
      · exact .inl ⟨_, rfl, rfl⟩
    · exact .inl ⟨_, rfl, rfl⟩

/-- A report's patch carries progress exactly when the report does. -/
theorem hasProgress_reconcilePatch (m : Manager) (id : Int) (s : Snapshot) (t : Instant) :
    (m.reconcilePatch id s t).hasProgress = s.hasProgress := by
  unfold Manager.reconcilePatch
  split <;> rfl

/-! ## A reconciliation on a host -/

section Host

variable {m : Manager} {u : Int} {n : String} {h : Host}

/-- After a report, the reconciliation's one write is the report's patch, applied to the typed
state at the host's time. -/
theorem monitorProgress_of_report (hS : S.Sound) (hdb : h.store.db = S.db) {s : Snapshot}
    {h₁ : Host} (hr : (m.checkStatus n).run h = (.ok s, h₁)) :
    (m.monitorProgress u n).run h =
      match S.update (m.reconcilePatch u s h.clock) h.clock with
      | .ok (S', applied) =>
        (.ok (m.reconciled s applied), { h₁ with store := { h₁.store with db := S'.db } })
      | .error e => (.error (.store e), h₁) := by
  have hb := checkStatus_beside m n h
  rw [hr] at hb
  obtain ⟨-, hc, -⟩ := checkStatus_ok hr
  rw [Manager.monitorProgress_run, hr]
  dsimp only
  rw [← hb.clock, writeStore_updateUpload hS (hb.store ▸ hdb) hc]
  cases S.update (m.reconcilePatch u s h₁.clock) h₁.clock with
  | ok r => rfl
  | error e => rfl

/-- Reconciling upload `u` of node `n`, on every host over a sound store, under either failure
policy and whatever the tool answers. A failed report fails the reconciliation and leaves the
store. A report leads to one write, of the patch it calls for, at the host's time: a running job
refreshes the progress and keeps the status and the completion time; an ended job finishes the
upload, as failed exactly when the policy counts a non-zero exit code as a failure and the job
gave one, with its counts, its status line and the time. The answer is `unchanged`, with the
store as it was, when `u` is not running; when it is, the merge replaces the row and the answer
is `running` or the finishing status, unless the history has used up its row ids and the report
carries progress, when the store refuses and nothing changes. -/
theorem reconciliation_behaviour (hS : S.Sound) (hdb : h.store.db = S.db) :
    (∀ e h₁, (m.checkStatus n).run h = (.error e, h₁) →
      (m.monitorProgress u n).run h = (.error e, h₁) ∧ h₁.store = h.store) ∧
    ∀ s h₁, (m.checkStatus n).run h = (.ok s, h₁) →
      (m.monitorProgress u n).run h =
          (match S.update (m.reconcilePatch u s h.clock) h.clock with
            | .ok (S', applied) =>
              (.ok (m.reconciled s applied), { h₁ with store := { h₁.store with db := S'.db } })
            | .error e => (.error (.store e), h₁)) ∧
      (s.isRunning = true → m.reconcilePatch u s h.clock = Patch.progress u s h.clock ∧
        ∀ r : UploadRow, (r.patch (Patch.progress u s h.clock)).status = r.status ∧
          (r.patch (Patch.progress u s h.clock)).completedAt = r.completedAt) ∧
      (s.isRunning = false →
        m.reconcilePatch u s h.clock = Patch.finish u (m.finishStatus s) h.clock s ∧
        (m.finishStatus s = .failed ↔
          m.nonzeroExitIsFailure = true ∧ ∃ c, s.exitCode = some c ∧ c ≠ 0) ∧
        (Patch.finish u (m.finishStatus s) h.clock s).completedAt = some h.clock ∧
        (Patch.finish u (m.finishStatus s) h.clock s).lastProgressCheck = some h.clock ∧
        (Patch.finish u (m.finishStatus s) h.clock s).progressPercent = s.progressPercent ∧
        (Patch.finish u (m.finishStatus s) h.clock s).chunksCompleted = s.chunksCompleted ∧
        (Patch.finish u (m.finishStatus s) h.clock s).chunksTotal = s.chunksTotal ∧
        (Patch.finish u (m.finishStatus s) h.clock s).totalChunks = s.chunksTotal ∧
        (Patch.finish u (m.finishStatus s) h.clock s).completionMessage = s.statusLine ∧
        (Patch.finish u (m.finishStatus s) h.clock s).errorMessage =
          if m.finishStatus s = .failed then s.statusLine else none) ∧
      ((¬∃ r ∈ S.uploads, r.id = u ∧ r.status = .running) →
        (m.monitorProgress u n).run h = (.ok .unchanged, h₁)) ∧
      ∀ r ∈ S.uploads, r.id = u → r.status = .running →
        (∃ S' : UploadTables,
          S'.uploads = (S.setUpload (r.patch (m.reconcilePatch u s h.clock))).uploads ∧
          (m.monitorProgress u n).run h =
            (.ok (if s.isRunning then .running
                else if m.finishStatus s = .failed then .failed else .completed),
              { h₁ with store := { h₁.store with db := S'.db } })) ∨
        (s.hasProgress = true ∧ maxInteger < S.nextId S.progressT ∧
          (m.monitorProgress u n).run h =
            (.error (.store (.database (engineError 13 "database or disk is full"))), h₁)) := by
  refine ⟨fun e h₁ hr => ⟨?_, ?_⟩, fun s h₁ hr => ?_⟩
  · rw [Manager.monitorProgress_run, hr]
  · have hb := checkStatus_beside m n h
    rw [hr] at hb
    exact hb.store
  have hrun := monitorProgress_of_report (u := u) hS hdb hr
  obtain ⟨hs, -, -⟩ := checkStatus_ok hr
  have hdb₁ : h₁.store.db = S.db := by
    have hb := checkStatus_beside m n h
    rw [hr] at hb
    rw [hb.store, hdb]
  obtain ⟨hnone, hsome⟩ := update_reconcilePatch hS m u hs h.clock
  refine ⟨hrun, fun hr' => ⟨by simp [Manager.reconcilePatch, hr'], fun r => ⟨rfl, rfl⟩⟩,
    fun hr' => ⟨by simp [Manager.reconcilePatch, hr'], m.finishStatus_eq_failed s, rfl, rfl, rfl,
      rfl, rfl, rfl, rfl, rfl⟩, fun hn => ?_, fun r hr hid hrunning => ?_⟩
  · -- nothing applied: the store is written back as it was
    rw [hrun, hnone hn]
    dsimp only
    rw [← hdb₁]
    rfl
  · rcases hsome r hr hid hrunning with ⟨S', hupd, hup⟩ | ⟨hprog, hfull, hupd⟩
    · -- the merge replaced the row: the answer is the report's outcome
      refine .inl ⟨S', hup, ?_⟩
      rw [hrun, hupd]
      simp [Manager.reconciled]
    · rw [hasProgress_reconcilePatch] at hprog
      refine .inr ⟨hprog, hfull, ?_⟩
      rw [hrun, hupd]

end Host

/-- Reconciling the upload just created for node `n`, under the policy that counts a non-zero exit
code as a failure. -/
theorem reconciliation_on_new_store :
    let created : NewUpload :=
      { nodeName := "n", protocol := "p", nodeType := "t", startedAt := ⟨0, 0, 0⟩,
        trigger := .manual }
    let S₀ := UploadTables.run [.create created]
    let h₀ : Host := { store := ⟨S₀.db, false⟩, tool := .scripted {}, clock := ⟨0, 60, 0⟩ }
    let m₀ : Manager := { tool := "bv", nonzeroExitIsFailure := true }
    (S₀.Sound ∧ h₀.store.db = S₀.db) ∧
    (∀ e h₁, (m₀.checkStatus "n").run h₀ = (.error e, h₁) →
      (m₀.monitorProgress 1 "n").run h₀ = (.error e, h₁) ∧ h₁.store = h₀.store) ∧
    ∀ s h₁, (m₀.checkStatus "n").run h₀ = (.ok s, h₁) →
      (m₀.monitorProgress 1 "n").run h₀ =
          (match S₀.update (m₀.reconcilePatch 1 s h₀.clock) h₀.clock with
            | .ok (S', applied) =>
              (.ok (m₀.reconciled s applied), { h₁ with store := { h₁.store with db := S'.db } })
            | .error e => (.error (.store e), h₁)) ∧
      (s.isRunning = true → m₀.reconcilePatch 1 s h₀.clock = Patch.progress 1 s h₀.clock ∧
        ∀ r : UploadRow, (r.patch (Patch.progress 1 s h₀.clock)).status = r.status ∧
          (r.patch (Patch.progress 1 s h₀.clock)).completedAt = r.completedAt) ∧
      (s.isRunning = false →
        m₀.reconcilePatch 1 s h₀.clock = Patch.finish 1 (m₀.finishStatus s) h₀.clock s ∧
        (m₀.finishStatus s = .failed ↔
          m₀.nonzeroExitIsFailure = true ∧ ∃ c, s.exitCode = some c ∧ c ≠ 0) ∧
        (Patch.finish 1 (m₀.finishStatus s) h₀.clock s).completedAt = some h₀.clock ∧
        (Patch.finish 1 (m₀.finishStatus s) h₀.clock s).lastProgressCheck = some h₀.clock ∧
        (Patch.finish 1 (m₀.finishStatus s) h₀.clock s).progressPercent = s.progressPercent ∧
        (Patch.finish 1 (m₀.finishStatus s) h₀.clock s).chunksCompleted = s.chunksCompleted ∧
        (Patch.finish 1 (m₀.finishStatus s) h₀.clock s).chunksTotal = s.chunksTotal ∧
        (Patch.finish 1 (m₀.finishStatus s) h₀.clock s).totalChunks = s.chunksTotal ∧
        (Patch.finish 1 (m₀.finishStatus s) h₀.clock s).completionMessage = s.statusLine ∧
        (Patch.finish 1 (m₀.finishStatus s) h₀.clock s).errorMessage =
          if m₀.finishStatus s = .failed then s.statusLine else none) ∧
      ((¬∃ r ∈ S₀.uploads, r.id = 1 ∧ r.status = .running) →
        (m₀.monitorProgress 1 "n").run h₀ = (.ok .unchanged, h₁)) ∧
      ∀ r ∈ S₀.uploads, r.id = 1 → r.status = .running →
        (∃ S' : UploadTables,
          S'.uploads = (S₀.setUpload (r.patch (m₀.reconcilePatch 1 s h₀.clock))).uploads ∧
          (m₀.monitorProgress 1 "n").run h₀ =
            (.ok (if s.isRunning then .running
                else if m₀.finishStatus s = .failed then .failed else .completed),
              { h₁ with store := { h₁.store with db := S'.db } })) ∨
        (s.hasProgress = true ∧ maxInteger < S₀.nextId S₀.progressT ∧
          (m₀.monitorProgress 1 "n").run h₀ =
            (.error (.store (.database (engineError 13 "database or disk is full"))), h₁)) := by
  intro created S₀ h₀ m₀
  exact ⟨⟨UploadTables.run_sound _, rfl⟩, reconciliation_behaviour (UploadTables.run_sound _) rfl⟩

/-- The tool's report of a running job with its first chunks uploaded. -/
def chunkReport : String :=
  "status:           2025-12-07 12:00:00 UTC| Running\nprogress:         (1/10 multi-client upload)\n"

/-- A host over a store whose history has used up its ids, with the running upload 1 of node
`n`; its tool reports that running job for `n`. -/
def chunkHost : Host :=
  { store := ⟨UploadTables.historyUsedUp.db, false⟩,
    tool := .scripted { standing := [("node job n info upload", .stdout chunkReport)] },
    clock := ⟨0, 60, 0⟩ }

/-- Once the history has used up its ids, reconciling a running upload with a report of a running
job and its progress is not answered `running`: the progress patch's reading finds no id, and the
reconciliation fails with the store's refusal, nothing written. -/
theorem reconciliation_refused_when_history_ids_used_up :
    (Snapshot.parse chunkReport).isRunning = true ∧
      ∃ h₁, (({ tool := "bv" } : Manager).checkStatus "n").run chunkHost =
          (.ok (Snapshot.parse chunkReport), h₁) ∧
        (({ tool := "bv" } : Manager).monitorProgress 1 "n").run chunkHost =
          (.error (.store UploadTables.fullError), h₁) := by
  -- the report, read once: a running job with progress
  have hreport : (Snapshot.parse chunkReport).isRunning = true ∧
      (Snapshot.parse chunkReport).hasProgress = true := by decide +kernel
  have hr : (({ tool := "bv" } : Manager).checkStatus "n").run chunkHost =
      (.ok (Snapshot.parse chunkReport),
        ((({ tool := "bv" } : Manager).checkStatus "n").run chunkHost).2) :=
    Prod.ext (by rfl) rfl
  have hpatch : ({ tool := "bv" } : Manager).reconcilePatch 1 (Snapshot.parse chunkReport)
      chunkHost.clock = Patch.progress 1 (Snapshot.parse chunkReport) chunkHost.clock := by
    simp [Manager.reconcilePatch, hreport.1]
  -- the patch of a well-formed report is valid and its merge keeps the row consistent
  obtain ⟨hp, hpair⟩ := reconcilePatch_accepted ({ tool := "bv" } : Manager) 1
    (checkStatus_ok hr).1 chunkHost.clock
  rw [hpatch] at hp hpair
  have hprog : (Patch.progress 1 (Snapshot.parse chunkReport) chunkHost.clock).hasProgress = true := by
    rw [← hpatch, hasProgress_reconcilePatch]
    exact hreport.2
  -- it carries progress, and the history has no id left for its reading
  have hfull : UploadTables.historyUsedUp.update
      (Patch.progress 1 (Snapshot.parse chunkReport) chunkHost.clock) chunkHost.clock =
        .error UploadTables.fullError :=
    UploadTables.update_of_full UploadTables.historyUsedUp_sound hp (List.mem_singleton_self _) rfl
      rfl (UploadRow.patch_consistent
        (UploadTables.historyUsedUp_sound.consistent _ (List.mem_singleton_self _)) rfl hp hpair)
      hprog UploadTables.historyUsedUp_full _
  refine ⟨hreport.1, _, hr, ?_⟩
  rw [monitorProgress_of_report UploadTables.historyUsedUp_sound rfl hr, hpatch, hfull]

end SnapshotAgent.Agent
