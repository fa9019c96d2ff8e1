import SnapshotAgent.Proofs.Agent.InitiationRace
import SnapshotAgent.Proofs.Agent.MonitorTasks
/-!
# Racing reconciliations: one finish, one notice

Monitor ticks may overlap, so two reconciliations of one upload can run side by side: both read
the same running row, both hear from the tool that the upload has ended, both write a patch that
finishes it. What decides between them is the store: a patch applies only to a running row, so
the second finishing patch finds none and the reconciliation that wrote it is `unchanged`.

## Steps that finish nothing

`UploadStore.FinishesNone` is a change of the store that moves no upload out of running: none at
all, an accepted creation, or an accepted patch that leaves its row's status as it was or applies
to no row. On typed states such a step leaves a later state with the same finished uploads
(`UploadStore.FinishesNone.typed`). Node ticks, manual uploads and discovery take only such steps
(`NodeJob.task_finishesNoUpload`, `MonitorJob.discoverSteps_finishesNoUpload`): they are the
environment of a race of reconciliations.

## The protocol of one reconciliation

`MonitorJob.Reconciles`: before the step whose patch finishes the upload of its record, a
reconciliation finishes no upload and delivers nothing; that step goes on with the notice of a
terminal outcome (`MonitorJob.noticed`), which leaves the store as it was; a reconciliation that
finishes without it answers no terminal outcome. The payload of the notice of a record names the
record's upload (`finishedPayload_namesUpload`), so a notice naming an upload comes from a
reconciliation of that upload.

## The race

`FinishLedger` is what a race keeps true, with a ghost `finisher` that names for each upload id the
reconciliation that finished it: that reconciliation is notifying or done, every other one has not
committed, and an upload finished since the start was finished by its finisher.

## Main statement

`reconciliation_race_one_finish`: every reconciliation, cut into its steps, is the reconciliation;
it follows its protocol, and its notice names its upload; node ticks and discovery finish no
upload; and under every interleaving of reconciliations with such steps over a sound store, each
upload finished meanwhile has exactly one finisher, whose patch moved it out of running. At most one reconciliation of an id answers a
terminal outcome, every other one answers `running`, `unchanged` or fails, and once all are done
the finisher of every upload finished meanwhile has answered its terminal outcome and run its
notice.
-/

namespace SnapshotAgent.Store

open SnapshotAgent.Upload SnapshotAgent.Time

/-! ## Finished uploads -/

namespace UploadTables

variable {S : UploadTables}

/-- The upload of id `id` has finished: its row is there and no longer running. -/
def Finished (S : UploadTables) (id : Int) : Prop :=
  ∃ o ∈ S.uploads, o.id = id ∧ o.status ≠ .running

/-- A finished upload stays finished in every later state. -/
theorem Later.finished {S' : UploadTables} (hl : S.Later S') {id : Int} (hf : S.Finished id) :
    S'.Finished id := by
  obtain ⟨o, ho, hid, hfin⟩ := hf
  obtain ⟨o', ho', hrev⟩ := hl.rows o ho
  rw [hrev.frozen hfin] at ho'
  exact ⟨o, ho', hid, hfin⟩

/-- A creation finishes no upload: the new row is running. -/
theorem finished_of_create {u : NewUpload} {S' : UploadTables} {k : Int}
    (h : S.create u = .ok (S', k)) {id : Int} (hf : S'.Finished id) : S.Finished id := by
  obtain ⟨-, -, -, hrows, -⟩ := create_ok h
  obtain ⟨o, ho, hid, hfin⟩ := hf
  rw [hrows, List.mem_append, List.mem_singleton] at ho
  rcases ho with ho | rfl
  · exact ⟨o, ho, hid, hfin⟩
  · exact absurd rfl hfin

/-- A patch that leaves its row's status, or applies to none, finishes no upload. -/
theorem finished_of_update (hS : S.Sound) {p : Patch} {t : Instant} {S' : UploadTables} {b : Bool}
    (h : S.update p t = .ok (S', b)) (hstays : p.status = none ∨ b = false) {id : Int}
    (hf : S'.Finished id) : S.Finished id := by
  rcases update_ok h with ⟨-, rfl⟩ | ⟨rfl, u, hu, -, hrows, -⟩
  · exact hf
  obtain ⟨o, ho, hid, hfin⟩ := hf
  rw [hrows] at ho
  rcases mem_setUpload_cases ho with rfl | ⟨ho, -⟩
  · -- the merged row keeps the running status of its target
    have hnone : p.status = none := hstays.resolve_right (by decide)
    exact absurd (by rw [UploadRow.patch, hnone]; exact (target_spec hu).2.2) hfin
  · exact ⟨o, ho, hid, hfin⟩

/-- An applied patch with a status other than running finishes its upload, which was running,
and no other. -/
theorem update_finishes (hS : S.Sound) {p : Patch} {t : Instant} {S' : UploadTables}
    (h : S.update p t = .ok (S', true)) {st : Status} (hst : p.status = some st)
    (hend : st ≠ .running) :
    ¬ S.Finished p.id ∧ S'.Finished p.id ∧
      ∀ id, id ≠ p.id → S'.Finished id → S.Finished id := by
  rcases update_ok h with ⟨hb, -⟩ | ⟨-, u, hu, -, hrows, -⟩
  · cases hb
  obtain ⟨hmem, hid, hrun⟩ := target_spec hu
  refine ⟨fun ⟨o, ho, hoid, hfin⟩ => ?_, ⟨u.patch p, ?_, hid, ?_⟩,
    fun id hne ⟨o, ho, hoid, hfin⟩ => ?_⟩
  · -- the only row of the id is the running target
    exact hfin (eq_of_id_eq hS.ids_sorted ho hmem (hoid.trans hid.symm) ▸ hrun)
  · rw [hrows]
    exact mem_setUpload _ hmem rfl
  · rw [UploadRow.patch, hst]
    exact hend
  · rw [hrows] at ho
    rcases mem_setUpload_cases ho with rfl | ⟨ho, -⟩
    · exact absurd (hoid.symm.trans hid) hne
    · exact ⟨o, ho, hoid, hfin⟩

/-- The upload read by an id is the upload of that id. -/
theorem getUpload_id {id : Int} {rec : Record} (h : S.db.getUpload id = .ok (some rec)) :
    rec.id = id := by
  rw [getUpload_eq] at h
  split at h
  · next o ho =>
    obtain ⟨rec', hrec, hsome⟩ := except_map_eq_ok h
    cases hsome
    rw [(UploadRow.toRecord_ok hrec).1]
    simpa using (List.mem_filter.1 (List.mem_of_mem_head? ho)).2
  · cases h

end UploadTables

/-! ## Store steps that finish nothing -/

/-- A change of the store that finishes no upload: none at all, an accepted creation, or an
accepted patch that leaves its row's status as it was or applies to no row. -/
inductive UploadStore.FinishesNone : UploadStore → UploadStore → Prop
  | kept (s : UploadStore) : UploadStore.FinishesNone s s
  | create {s : UploadStore} {u : NewUpload} {db : Database} {id : Int}
      (hcreate : s.db.createUpload u = .ok (db, id)) : UploadStore.FinishesNone s { s with db }
  | patch {s : UploadStore} {p : Patch} {t : Instant} {db : Database} {applied : Bool}
      (hpatch : s.db.updateUpload p t = .ok (db, applied))
      (hstays : p.status = none ∨ applied = false) : UploadStore.FinishesNone s { s with db }

/-- On the database of a sound state, a step that finishes no upload leaves a sound, later state
with the same finished uploads. -/
theorem UploadStore.FinishesNone.typed {s s' : UploadStore} (hstep : s.FinishesNone s')
    {S : UploadTables} (hS : S.Sound) (hdb : s.db = S.db) :
    ∃ S', S'.Sound ∧ s'.db = S'.db ∧ S.Later S' ∧
      ∀ id, S'.Finished id → S.Finished id := by
  cases hstep with
  | kept => exact ⟨S, hS, hdb, .refl S, fun _ hf => hf⟩
  | create hcreate =>
    rw [hdb, Database.createUpload_eq hS.owned] at hcreate
    obtain ⟨⟨S', k⟩, hc, hpair⟩ := except_map_eq_ok hcreate
    cases hpair
    exact ⟨S', hS.create hc, rfl, UploadTables.later_create hc,
      fun _ hf => UploadTables.finished_of_create hc hf⟩
  | patch hpatch hstays =>
    rw [hdb, Database.updateUpload_eq hS] at hpatch
    obtain ⟨⟨S', b⟩, hu, hpair⟩ := except_map_eq_ok hpatch
    cases hpair
    exact ⟨S', hS.update hu, rfl, UploadTables.later_update hS hu,
      fun _ hf => UploadTables.finished_of_update hS hu hstays hf⟩

end SnapshotAgent.Store

namespace SnapshotAgent.Notify

/-- A payload names the upload `id` in its "upload_id" detail. -/
def Payload.NamesUpload (id : Int) (p : Payload) : Prop :=
  p.details.lookup "upload_id" = some (.int id)

end SnapshotAgent.Notify

namespace SnapshotAgent.Agent

open SnapshotAgent.Store SnapshotAgent.Upload SnapshotAgent.Notify SnapshotAgent.Time

/-! ## Steps of the host -/

/-- A step that finishes no upload. -/
def FinishesNoUpload (h h' : Host) : Prop := h.store.FinishesNone h'.store

/-- A step that finishes no upload and delivers nothing. -/
def QuietStep (h h' : Host) : Prop := FinishesNoUpload h h' ∧ h'.deliveries = h.deliveries

theorem StoreKept.finishesNoUpload {h h' : Host} (hk : StoreKept h h') : FinishesNoUpload h h' := by
  unfold FinishesNoUpload
  rw [hk]
  exact .kept _

theorem Host.Beside.quietStep {h h' : Host} (hb : h.Beside h') : QuietStep h h' :=
  ⟨StoreKept.finishesNoUpload hb.store, hb.deliveries⟩

/-- A step that finishes the upload of id `id`: a patch of the id with a status other than
running is applied, and the thread goes on as `cont` decides from the terminal outcome. -/
def FinishesUpload {β : Type} (id : Int) (cont : Reconciled → Thread β) (h h' : Host)
    (c : Thread β) : Prop :=
  ∃ (p : Patch) (t : Instant) (db : Database) (st : Status) (o : Reconciled), p.id = id ∧
    p.status = some st ∧ st ≠ .running ∧ h.store.db.updateUpload p t = .ok (db, true) ∧
    h'.store = { h.store with db } ∧ o.isTerminal = true ∧ c = cont o

theorem FinishesUpload.bind {β γ : Type} {id : Int} {cont : Reconciled → Thread β}
    {cont' : Reconciled → Thread γ} {k : β → Thread γ} (hk : ∀ o, (cont o).bind k = cont' o)
    {h h' : Host} {c : Thread β} (hc : FinishesUpload id cont h h' c) :
    FinishesUpload id cont' h h' (c.bind k) := by
  obtain ⟨p, t, db, st, o, hid, hst, hend, hpatch, hstore, hterm, rfl⟩ := hc
  exact ⟨p, t, db, st, o, hid, hst, hend, hpatch, hstore, hterm, hk o⟩

/-- On the database of a sound state, the finishing step leaves a sound, later state in which
exactly the upload `id` has newly finished; the outcome it goes on with is terminal. -/
theorem FinishesUpload.typed {β : Type} {id : Int} {cont : Reconciled → Thread β} {h h' : Host}
    {c : Thread β} (hc : FinishesUpload id cont h h' c) {S : UploadTables} (hS : S.Sound)
    (hdb : h.store.db = S.db) :
    ∃ (S' : UploadTables) (o : Reconciled), S'.Sound ∧ h'.store.db = S'.db ∧ S.Later S' ∧
      ¬ S.Finished id ∧ S'.Finished id ∧
      (∀ id', id' ≠ id → S'.Finished id' → S.Finished id') ∧
      o.isTerminal = true ∧ c = cont o := by
  obtain ⟨p, t, db, st, o, rfl, hst, hend, hpatch, hstore, hterm, rfl⟩ := hc
  rw [hdb, Database.updateUpload_eq hS] at hpatch
  obtain ⟨⟨S', b⟩, hu, hpair⟩ := except_map_eq_ok hpatch
  cases hpair
  obtain ⟨hbefore, hafter, hothers⟩ := UploadTables.update_finishes hS hu hst hend
  exact ⟨S', o, hS.update hu, by rw [hstore], UploadTables.later_update hS hu, hbefore, hafter,
    hothers, hterm, rfl⟩

/-! ## The protocol of a reconciliation -/

@[simp] theorem Manager.reconcilePatch_id (m : Manager) (id : Int) (s : Snapshot) (t : Instant) :
    (m.reconcilePatch id s t).id = id := by
  unfold Manager.reconcilePatch
  split <;> rfl

/-- The patch of a running report leaves the status; that of an ended one sets the finishing
status. -/
theorem Manager.reconcilePatch_status (m : Manager) (id : Int) (s : Snapshot) (t : Instant) :
    (m.reconcilePatch id s t).status = if s.isRunning then none else some (m.finishStatus s) := by
  unfold Manager.reconcilePatch
  split <;> rfl

/-- A reconciliation is terminal exactly when its patch applied and the report had ended. -/
theorem Manager.reconciled_isTerminal (m : Manager) (s : Snapshot) (applied : Bool) :
    (m.reconciled s applied).isTerminal = (applied && !s.isRunning) := by
  unfold Manager.reconciled
  cases applied with
  | false => rfl
  | true =>
    cases s.isRunning with
    | true => rfl
    | false =>
      show (if m.finishStatus s = .failed then Reconciled.failed else .completed).isTerminal = true
      split <;> rfl

/-- The write of a reconciliation on a host: refused by a cancelled caller, else the report's
patch at the host's time, whose answer decides the outcome. -/
theorem Manager.writePatch_run (m : Manager) (id : Int) (s : Snapshot) (h : Host) :
    (m.patchWrite id s).run h =
      if h.cancelled then (.error .cancelled, h)
      else match h.store.db.updateUpload (m.reconcilePatch id s h.clock) h.clock with
        | .ok (db, applied) => (.ok (m.reconciled s applied), { h with store := { h.store with db } })
        | .error e => (.error (.store e), h) := by
  rw [Manager.patchWrite, run_bind, run_liftM, now_run]
  dsimp only
  rw [run_bind, writeStore_run]
  by_cases hc : h.cancelled = true
  · simp only [hc, if_true]
  · simp only [hc, Bool.false_eq_true, if_false]
    rcases h.store.db.updateUpload (m.reconcilePatch id s h.clock) h.clock with _ | ⟨db, a⟩ <;> rfl

/-- A reconciliation's call to the manager commits at most once, by the patch that finishes the
upload; before, it finishes nothing and delivers nothing, and without it the answer is no
terminal outcome. -/
theorem Manager.monitorSteps_commitsOnce (m : Manager) (id : Int) (node : String) :
    (m.monitorSteps id node).run.CommitsOnce QuietStep (FinishesUpload id fun o => .done (.ok o))
      fun res => ∀ o, res = .ok o → o.isTerminal = false := by
  unfold Manager.monitorSteps Manager.writeSteps
  refine Thread.Every.run_bind (Thread.Every.atomic fun h => (checkStatus_beside m node h).quietStep)
    (fun s => Thread.CommitsOnce.atomic fun h => ?_) fun _ _ h => by cases h
  simp only [StateT.run]
  rw [Manager.writePatch_run]
  split
  · exact .inr ⟨(Host.Beside.refl h).quietStep, fun _ h => by cases h⟩
  split
  · next db applied hpatch =>
    by_cases hfin : applied = true ∧ s.isRunning = false
    · -- an ended report whose patch applied finishes the upload
      obtain ⟨rfl, hend⟩ := hfin
      refine .inl ⟨_, h.clock, db, m.finishStatus s, m.reconciled s true, by simp, ?_,
        m.finishStatus_ne_running s, hpatch, rfl, by simp [Manager.reconciled_isTerminal, hend], rfl⟩
      rw [Manager.reconcilePatch_status, hend]
      rfl
    · refine .inr ⟨⟨.patch hpatch ?_, rfl⟩, fun o ho => ?_⟩
      · rw [Manager.reconcilePatch_status]
        cases hs : s.isRunning
        · exact .inr (by simpa [hs] using hfin)
        · exact .inl rfl
      · cases ho
        simpa [Manager.reconciled_isTerminal] using hfin
  · exact .inr ⟨(Host.Beside.refl h).quietStep, fun _ h => by cases h⟩

/-- The notice of an outcome that is not terminal is nothing. -/
theorem MonitorJob.noticeThread_of_not_terminal (j : MonitorJob) (r : Record) {o : Reconciled}
    (ho : o.isTerminal = false) : j.noticeThread r o = pure () := by
  cases o with
  | running => rfl
  | unchanged => rfl
  | completed | failed => cases ho

/-- A notice only delivers: it reads the finished upload back and hands its payload to the
node's transports. -/
theorem MonitorJob.noticeThread_delivers (j : MonitorJob) (r : Record) (o : Reconciled) :
    (j.noticeThread r o).Every Delivers := by
  -- only a terminal outcome is notified, by a read of the store and a dispatch
  cases o with
  | running | unchanged => exact .done trivial
  | completed | failed =>
    unfold MonitorJob.noticeThread
    dsimp only
    split
    · refine (Thread.Every.atomic fun h => ⟨[], ?_⟩).bind fun p =>
        (dispatchThread_delivers _ _ p).bind fun _ => .done trivial
      rw [finishedPayload_host, Host.notified_nil]
    · exact .done trivial

/-- A notice leaves the store as it was. -/
theorem MonitorJob.noticeThread_every (j : MonitorJob) (r : Record) (o : Reconciled) :
    (j.noticeThread r o).Every StoreKept :=
  (j.noticeThread_delivers r o).mono fun _ _ hd => hd.storeKept

/-- What a reconciliation of `r` does once its call answered `o`: the notice, then the answer. -/
def MonitorJob.noticed (j : MonitorJob) (r : Record) (o : Reconciled) : Thread (Option Reconciled) :=
  (j.noticeThread r o).bind fun _ => .done (some o)

theorem MonitorJob.noticed_every (j : MonitorJob) (r : Record) (o : Reconciled) :
    (j.noticed r o).Every StoreKept := by
  unfold MonitorJob.noticed
  exact (j.noticeThread_every r o).bind fun _ => .done trivial

theorem HostM.answer_bind {α β : Type} {x : HostM α} {f : α → HostM β} {Q : α → Prop}
    {P : β → Prop} {h : Host} (hx : Q (x.run h).1) (hf : ∀ a h', Q a → P ((f a).run h').1) :
    P ((x >>= f).run h).1 :=
  hf _ _ hx

theorem HostM.answer_pure {α : Type} {P : α → Prop} {a : α} (ha : P a) (h : Host) :
    P ((pure a : HostM α).run h).1 :=
  ha

/-- The payload of a finished upload names the upload of the record it was asked for: the row
the store reads back by that id, or the record itself. -/
theorem finishedPayload_namesUpload (event : Event) (r : Record) {h : Host} {S : UploadTables}
    (hdb : h.store.db = S.db) : ((finishedPayload event r).run h).1.NamesUpload r.id := by
  unfold finishedPayload
  refine HostM.answer_bind (Q := fun (stored : Except Failure (Option Record)) =>
      ∀ row : Record, stored = .ok (some row) → row.id = r.id)
    (fun row hrow => ?_) fun stored h' hstored => ?_
  · change ((readStore (·.db.getUpload r.id)).run h).1 = _ at hrow
    rw [readStore_run] at hrow
    split at hrow
    · cases hrow
    · split at hrow
      · next rec hget =>
        cases hrow
        rw [hdb] at hget
        exact UploadTables.getUpload_id hget
      · cases hrow
  · refine HostM.answer_bind (Q := fun _ => True) trivial fun t h'' _ => HostM.answer_pure ?_ h''
    -- the finished record is `r` or the stored row of its id
    rcases stored with e | _ | row <;> dsimp only <;> split <;> split <;>
      simp [Payload.NamesUpload, Payload.lookup_withDetail, hstored]

/-- The protocol of a reconciliation of `r`: before the step whose patch finishes the upload of
`r.id`, it finishes no upload and delivers nothing; that step goes on with the notice of the
terminal outcome; a reconciliation that finishes without it answers no terminal outcome. -/
def MonitorJob.Reconciles (j : MonitorJob) (r : Record) (t : Thread (Option Reconciled)) : Prop :=
  t.CommitsOnce QuietStep (FinishesUpload r.id (j.noticed r))
    fun res => ∀ o, res = some o → o.isTerminal = false

theorem MonitorJob.reconcileThread_reconciles (j : MonitorJob) (r : Record) :
    j.Reconciles r (j.reconcileThread r) := by
  unfold MonitorJob.Reconciles MonitorJob.reconcileThread
  refine (j.manager.monitorSteps_commitsOnce r.id r.nodeName).bind
    (fun _ _ _ hc => hc.bind fun _ => rfl) fun res hres => ?_
  cases res with
  | error e => exact .done fun _ h => by cases h
  | ok o =>
    -- an outcome that is not terminal is answered without a notice
    have ho := hres o rfl
    dsimp only [MonitorJob.afterOutcome]
    rw [j.noticeThread_of_not_terminal r ho]
    exact .done fun o' h => by cases h; exact ho

/-! ## Other jobs finish no upload -/

/-- A node tick finishes no upload: it at most records a running one. -/
theorem NodeJob.task_finishesNoUpload (job : NodeJob) : job.task.Every FinishesNoUpload :=
  (job.task_recordsOnce).every (fun _ _ hk => StoreKept.finishesNoUpload hk)
    fun h h' c ⟨u, db, id, _, _, hcreate, hstore, hc⟩ => by
      refine ⟨?_, hc ▸ .done trivial⟩
      unfold FinishesNoUpload
      rw [hstore]
      exact .create hcreate

/-- Discovery finishes no upload: it at most records a running one. -/
theorem MonitorJob.discoverSteps_finishesNoUpload (j : MonitorJob) (node : Config.NodeSpec) :
    (j.discoverSteps node).run.Every FinishesNoUpload := by
  unfold MonitorJob.discoverSteps
  refine Thread.Every.run_bind
    (Thread.Every.atomic fun h =>
      StoreKept.finishesNoUpload (checkStatus_beside j.manager node.name h).store)
    (fun s => ?_) fun _ => trivial
  unfold MonitorJob.afterDiscoveryReport
  split
  · exact .done trivial
  -- collecting the metrics leaves the host as it was
  refine Thread.Every.run_bind (Thread.Every.atomic fun h => StoreKept.finishesNoUpload
      (congrArg Host.store (j.discoveryData_host node h))) (fun data => ?_) fun _ => trivial
  · unfold MonitorJob.recordSteps
    rw [ExceptT.run_tryCatch, ExceptT.run_map]
    refine Thread.Every.bind ((Thread.Every.atomic fun h => ?_).bind fun _ => .done trivial)
      fun r => ?_
    · show FinishesNoUpload h ((Manager.createRecord _ (some s)).run h).2
      unfold Manager.createRecord FinishesNoUpload
      rw [Manager.insert_some_run, writeStore_run]
      split
      · exact .kept _
      · split
        · next hcreate => exact .create hcreate
        · exact .kept _
    · cases r with
      | ok a => exact .done trivial
      | error e =>
        dsimp only
        split <;> exact .done trivial

/-! ## The race -/

/-- Where reconciliation `i` of the pool, of record `x.2` by job `x.1`, stands in a race whose
ghost `finisher` names the reconciliation that finished each upload: it is its upload's finisher
and has answered a terminal outcome, notifying or done; or it is not, and has not committed. -/
def ReconcileStage (finisher : Int → Option Nat) (i : Nat) (x : MonitorJob × Record)
    (t : Thread (Option Reconciled)) : Prop :=
  (finisher x.2.id = some i ∧ ∃ o, o.isTerminal = true ∧ (x.1.noticed x.2 o).Reaches t) ∨
    (finisher x.2.id ≠ some i ∧ x.1.Reconciles x.2 t)

/-- What a race of the reconciliations `pool` from the state `S₀` has left in the state `S`, with
`finisher` naming the reconciliation that finished each upload: each reconciliation stands as
its stage says; an upload with a finisher was finished by it since the start, by a
reconciliation of its id; and every upload finished since the start has a finisher. -/
structure FinishLedger (pool : List (MonitorJob × Record)) (S₀ S : UploadTables)
    (finisher : Int → Option Nat) (ts : List (Thread (Option Reconciled))) : Prop where
  threads : ∀ (i : Nat) x t, pool[i]? = some x → ts[i]? = some t → ReconcileStage finisher i x t
  finished : ∀ id (i : Nat), finisher id = some i →
    (∃ x, pool[i]? = some x ∧ x.2.id = id) ∧ S.Finished id ∧ ¬ S₀.Finished id
  accounted : ∀ id, S.Finished id → ¬ S₀.Finished id → (finisher id).isSome

/-- A race of reconciliations as it stands on a host. -/
structure FinishState (pool : List (MonitorJob × Record)) (S₀ : UploadTables)
    (ts : List (Thread (Option Reconciled))) (h : Host) : Prop where
  length : ts.length = pool.length
  ledger : ∃ (S : UploadTables) (finisher : Int → Option Nat), S.Sound ∧ h.store.db = S.db ∧
    S₀.Later S ∧ FinishLedger pool S₀ S finisher ts

namespace FinishLedger

variable {pool : List (MonitorJob × Record)} {S₀ S : UploadTables} {finisher : Int → Option Nat}
  {ts : List (Thread (Option Reconciled))}

/-- A change of the store that finishes no upload keeps the ledger. -/
theorem store_step (hl : FinishLedger pool S₀ S finisher ts) {S' : UploadTables}
    (hlater : S.Later S') (hback : ∀ id, S'.Finished id → S.Finished id) :
    FinishLedger pool S₀ S' finisher ts where
  threads := hl.threads
  finished := fun id i hi => by
    obtain ⟨hx, hS, hS₀⟩ := hl.finished id i hi
    exact ⟨hx, hlater.finished hS, hS₀⟩
  accounted := fun id hf hf₀ => hl.accounted id (hback id hf) hf₀

/-- A reconciliation that moves on within its stage keeps the ledger. -/
theorem set_thread (hl : FinishLedger pool S₀ S finisher ts) {i : Nat}
    {t : Thread (Option Reconciled)}
    (hstage : ∀ x, pool[i]? = some x → ReconcileStage finisher i x t) :
    FinishLedger pool S₀ S finisher (ts.set i t) where
  threads := fun k x t' hx hk => by
    rcases getElem?_set_eq_some hk with ⟨rfl, rfl⟩ | ⟨-, hk⟩
    · exact hstage x hx
    · exact hl.threads k x t' hx hk
  finished := hl.finished
  accounted := hl.accounted

/-- A reconciliation done with a terminal answer is its upload's finisher. -/
theorem finisher_of_done (hl : FinishLedger pool S₀ S finisher ts) {i : Nat}
    {x : MonitorJob × Record} {o : Reconciled} (hx : pool[i]? = some x)
    (hi : ts[i]? = some (.done (some o))) (ho : o.isTerminal = true) :
    finisher x.2.id = some i := by
  rcases hl.threads i x _ hx hi with ⟨hfin, -⟩ | ⟨-, hrec⟩
  · exact hfin
  · exact absurd (Thread.CommitsOnce.answer hrec o rfl) (by rw [ho]; decide)

end FinishLedger

/-- A stage after the finishing step of another reconciliation of an upload that had no
finisher: the finisher is now that one, and the stage is unchanged. -/
theorem ReconcileStage.of_finish {finisher : Int → Option Nat} {i k : Nat} {id : Int}
    (hnone : finisher id = none) (hki : k ≠ i) {y : MonitorJob × Record}
    {t : Thread (Option Reconciled)} (hs : ReconcileStage finisher k y t) :
    ReconcileStage (Function.update finisher id (some i)) k y t := by
  by_cases hid : y.2.id = id
  · -- the upload had no finisher, so `k` had not committed
    rcases hs with ⟨hfin, -⟩ | ⟨-, hrec⟩
    · rw [hid, hnone] at hfin
      cases hfin
    · refine .inr ⟨?_, hrec⟩
      rw [hid, Function.update_self]
      exact fun h => hki (Option.some.inj h).symm
  · unfold ReconcileStage
    rw [Function.update_of_ne hid]
    exact hs

/-- A list as long as another has an entry wherever the other has one. -/
theorem exists_getElem?_of_length_eq {α β : Type} {l : List α} {l' : List β}
    (hlen : l.length = l'.length) {i : Nat} {a : α} (h : l[i]? = some a) :
    ∃ b, l'[i]? = some b :=
  ⟨_, List.getElem?_eq_getElem (hlen ▸ (List.getElem?_eq_some_iff.1 h).1)⟩

namespace FinishState

variable {pool : List (MonitorJob × Record)} {S₀ : UploadTables}
  {ts : List (Thread (Option Reconciled))} {h : Host}

/-- A race starts with every reconciliation at its first step and no finisher. -/
theorem start (hS : S₀.Sound) (hdb : h.store.db = S₀.db) :
    FinishState pool S₀ (pool.map fun x => x.1.reconcileThread x.2) h := by
  refine ⟨List.length_map _, S₀, fun _ => none, hS, hdb, .refl S₀, ⟨fun i x t hx ht => ?_,
    fun _ _ hi => (by cases hi), fun _ hf hf₀ => absurd hf hf₀⟩⟩
  rw [List.getElem?_map, hx] at ht
  cases ht
  exact .inr ⟨by simp, x.1.reconcileThread_reconciles x.2⟩

/-- A step of the environment that finishes no upload keeps the race as it stands. -/
theorem env_step {h₁ : Host} (hr : FinishState pool S₀ ts h) (henv : FinishesNoUpload h h₁) :
    FinishState pool S₀ ts h₁ := by
  obtain ⟨hlen, S, finisher, hS, hdb, hlater, hl⟩ := hr
  obtain ⟨S', hS', hdb', hlater', hback⟩ := UploadStore.FinishesNone.typed henv hS hdb
  exact ⟨hlen, S', finisher, hS', hdb', hlater.trans hlater', hl.store_step hlater' hback⟩

/-- The finishing step of reconciliation `i` makes it its upload's finisher: the upload had none,
since it was running. -/
theorem finish_step {i : Nat} {e : Host → Host} {next : Host → Thread (Option Reconciled)}
    {x : MonitorJob × Record} (hr : FinishState pool S₀ ts h) (hx : pool[i]? = some x)
    (hc : FinishesUpload x.2.id (x.1.noticed x.2) h (e h) (next h)) :
    FinishState pool S₀ (ts.set i (next h)) (e h) := by
  obtain ⟨hlen, S, finisher, hS, hdb, hlater, hl⟩ := hr
  obtain ⟨S', o, hS', hdb', hlater', hbefore, hafter, hothers, hterm, hnext⟩ := hc.typed hS hdb
  have hnone : finisher x.2.id = none := by
    cases hf : finisher x.2.id with
    | none => rfl
    | some k => exact absurd (hl.finished _ k hf).2.1 hbefore
  refine ⟨by rw [List.length_set, hlen], S', Function.update finisher x.2.id (some i), hS', hdb',
    hlater.trans hlater', ⟨fun k y t hy hk => ?_, fun id k hk => ?_, fun id hf hf₀ => ?_⟩⟩
  · rcases getElem?_set_eq_some hk with ⟨rfl, rfl⟩ | ⟨hki, hk⟩
    · -- the finisher goes on with its notice
      rw [hx] at hy
      cases hy
      exact .inl ⟨Function.update_self .., o, hterm, hnext ▸ .refl _⟩
    · exact (hl.threads k y t hy hk).of_finish hnone hki
  · by_cases hid : id = x.2.id
    · subst hid
      rw [Function.update_self] at hk
      cases hk
      exact ⟨⟨x, hx, rfl⟩, hafter, fun hf₀ => hbefore (hlater.finished hf₀)⟩
    · rw [Function.update_of_ne hid] at hk
      obtain ⟨hy, hf, hf₀⟩ := hl.finished id k hk
      exact ⟨hy, hlater'.finished hf, hf₀⟩
  · by_cases hid : id = x.2.id
    · subst hid
      simp
    · rw [Function.update_of_ne hid]
      exact hl.accounted id (hothers id hid hf) hf₀

/-- Every step of a reconciliation keeps the race as it stands. -/
theorem thread_step {i : Nat} {e : Host → Host} {next : Host → Thread (Option Reconciled)}
    (hr : FinishState pool S₀ ts h) (hi : ts[i]? = some (.step e next)) :
    FinishState pool S₀ (ts.set i (next h)) (e h) := by
  obtain ⟨x, hx⟩ := exists_getElem?_of_length_eq hr.length hi
  obtain ⟨hlen, S, finisher, hS, hdb, hlater, hl⟩ := hr
  rcases hl.threads i x _ hx hi with ⟨hfin, o, hterm, hreach⟩ | ⟨hfin, hrec⟩
  · -- the finisher's notice leaves the store as it was
    have hkept : StoreKept h (e h) := by
      cases hreach.every (x.1.noticed_every x.2 o) with
      | step hk _ => exact hk h not_false
    refine ⟨by rw [List.length_set, hlen], S, finisher, hS, by rw [hkept, hdb], hlater,
      hl.set_thread fun y hy => ?_⟩
    rw [hx] at hy
    cases hy
    exact .inl ⟨hfin, o, hterm, hreach.tail rfl h⟩
  · cases hrec with
    | step hkeep hnext =>
      by_cases hc : FinishesUpload x.2.id (x.1.noticed x.2) h (e h) (next h)
      · exact finish_step ⟨hlen, S, finisher, hS, hdb, hlater, hl⟩ hx hc
      · -- a step before the commit finishes no upload
        obtain ⟨S', hS', hdb', hlater', hback⟩ :=
          UploadStore.FinishesNone.typed (hkeep h hc).1 hS hdb
        refine ⟨by rw [List.length_set, hlen], S', finisher, hS', hdb', hlater.trans hlater',
          (hl.store_step hlater' hback).set_thread fun y hy => ?_⟩
        rw [hx] at hy
        cases hy
        exact .inr ⟨hfin, hnext h hc⟩

end FinishState

/-! ## The race over whole runs -/

/-- Reconciliations, cut into their atomic steps, are the reconciliations when each runs alone,
and each follows its protocol, whose notice sends a payload naming the record's upload; node
ticks and discovery finish no upload. Under every
interleaving of reconciliations with steps that finish no upload, over a sound store, every
upload finished meanwhile has exactly one finisher: a reconciliation of its id whose patch moved
it out of running, and which has answered a terminal outcome and goes on with its notice; every
other reconciliation has not committed. So at most one reconciliation of an upload answers a
terminal outcome, and once all are done, each upload finished meanwhile has one that did. -/
theorem reconciliation_race_one_finish :
    (∀ (j : MonitorJob) (r : Record), (j.reconcileThread r).alone = j.reconcileRecord r) ∧
    (∀ (j : MonitorJob) (r : Record), j.Reconciles r (j.reconcileThread r)) ∧
    (∀ (event : Event) (r : Record) (h : Host) (S : UploadTables), h.store.db = S.db →
      ((finishedPayload event r).run h).1.NamesUpload r.id) ∧
    (∀ job : NodeJob, job.task.Every FinishesNoUpload) ∧
    (∀ (j : MonitorJob) (node : Config.NodeSpec),
      (j.discoverSteps node).run.Every FinishesNoUpload) ∧
    ∀ (pool : List (MonitorJob × Record)) (S₀ : UploadTables) (h₀ : Host), S₀.Sound →
      h₀.store.db = S₀.db → ∀ ts h,
      Interleaving FinishesNoUpload (pool.map fun x => x.1.reconcileThread x.2) h₀ ts h →
      ∃ (S : UploadTables) (finisher : Int → Option Nat), S.Sound ∧ h.store.db = S.db ∧
        S₀.Later S ∧ FinishLedger pool S₀ S finisher ts ∧
        (∀ (i k : Nat) x y o o', pool[i]? = some x → pool[k]? = some y → x.2.id = y.2.id →
          ts[i]? = some (.done (some o)) → ts[k]? = some (.done (some o')) →
          o.isTerminal = true → o'.isTerminal = true → i = k) ∧
        ((∀ (i : Nat) t, ts[i]? = some t → ∃ a, t = .done a) →
          ∀ id, S.Finished id → ¬ S₀.Finished id →
            ∃ (i : Nat) (x : MonitorJob × Record) (o : Reconciled), pool[i]? = some x ∧
            x.2.id = id ∧ ts[i]? = some (.done (some o)) ∧ o.isTerminal = true) := by
  refine ⟨MonitorJob.alone_reconcileThread, MonitorJob.reconcileThread_reconciles,
    fun event r _ _ hdb => finishedPayload_namesUpload event r hdb, NodeJob.task_finishesNoUpload,
    MonitorJob.discoverSteps_finishesNoUpload,
    fun pool S₀ h₀ hS hdb ts h hrun => ?_⟩
  obtain ⟨hlen, S, finisher, hS', hdb', hlater, hl⟩ :=
    hrun.invariant (fun _ _ _ _ _ hr hi => FinishState.thread_step hr hi)
      (fun _ _ _ hr henv => hr.env_step henv) (FinishState.start hS hdb)
  refine ⟨S, finisher, hS', hdb', hlater, hl, fun i k x y o o' hx hy hid hi hk ho ho' => ?_,
    fun hdone id hf hf₀ => ?_⟩
  · -- both are the finisher of the one upload
    have hfi := hl.finisher_of_done hx hi ho
    have hfk := hl.finisher_of_done hy hk ho'
    rw [hid, hfk] at hfi
    exact (Option.some.inj hfi).symm
  · -- the finisher is done, and its notice ends in its terminal answer
    obtain ⟨i, hi⟩ := Option.isSome_iff_exists.1 (hl.accounted id hf hf₀)
    obtain ⟨⟨x, hx, rfl⟩, -, -⟩ := hl.finished _ i hi
    obtain ⟨t, ht⟩ := exists_getElem?_of_length_eq hlen.symm hx
    obtain ⟨a, rfl⟩ := hdone i t ht
    rcases hl.threads i x _ hx ht with ⟨-, o, hterm, hreach⟩ | ⟨hfin, -⟩
    · exact ⟨i, x, o, hx, rfl, by rw [ht, Thread.Reaches.bind_answer hreach], hterm⟩
    · exact absurd hi hfin

/-- The tool's report of a job that has completed. -/
def doneReport : String :=
  "status: Completed\n"

/-- An upload of node `eth`, recorded as running on a new store with id 1. -/
def ethRunning : NewUpload :=
  { nodeName := "eth", protocol := "ethereum", nodeType := "archive", startedAt := ⟨0, 0, 0⟩,
    trigger := .scheduled }

/-- The record a monitor tick reads for that upload. -/
def ethRecord : Record :=
  { id := 1, nodeName := "eth", protocol := "ethereum", nodeType := "archive",
    startedAt := ⟨0, 0, 0⟩, completedAt := none, status := .running, trigger := .scheduled,
    protocolData := [], progressPercent := none, chunksCompleted := none, chunksTotal := none,
    lastProgressCheck := none, totalChunks := none, completionMessage := none,
    errorMessage := none }

/-- A host over the store holding only that upload; its tool reports the job of `eth` completed. -/
def finishHost : Host :=
  { store := ⟨(UploadTables.run [.create ethRunning]).db, false⟩,
    tool := .scripted { standing := [("node job eth info upload", .stdout doneReport)] },
    clock := ⟨0, 60, 0⟩ }

/-- A monitor job with no configured node, so that its reconciliations send no notice. -/
def finishJob : MonitorJob :=
  { manager := { tool := "bv" }, nodes := [], protocols := ⟨[]⟩, notifiers := ⟨[]⟩ }

/-- Two reconciliations of the running upload of `eth` both hear the tool report the job
completed before either writes; the first then finishes the upload, and the second finds no
running row and answers `unchanged`. The race keeps its ledger throughout. -/
theorem two_reconciliations_race_on_finished_job :
    (Snapshot.parse doneReport).isRunning = false ∧
    ∃ h₁ h,
      Interleaving FinishesNoUpload
        ([(finishJob, ethRecord), (finishJob, ethRecord)].map fun x => x.1.reconcileThread x.2)
        finishHost
        [finishJob.afterReport ethRecord (.ok (Snapshot.parse doneReport)),
          finishJob.afterReport ethRecord (.ok (Snapshot.parse doneReport))] h₁ ∧
      Interleaving FinishesNoUpload
        [finishJob.afterReport ethRecord (.ok (Snapshot.parse doneReport)),
          finishJob.afterReport ethRecord (.ok (Snapshot.parse doneReport))] h₁
        [.done (some .completed), .done (some .unchanged)] h ∧
      ∃ (S : UploadTables) (finisher : Int → Option Nat), S.Sound ∧ h.store.db = S.db ∧
        (UploadTables.run [.create ethRunning]).Later S ∧
        FinishLedger [(finishJob, ethRecord), (finishJob, ethRecord)]
          (UploadTables.run [.create ethRunning]) S finisher
          [.done (some .completed), .done (some .unchanged)] := by
  have hcheck₁ : ((Thread.atomic (finishJob.manager.checkStatus ethRecord.nodeName).run).alone
      finishHost).1 = .ok (Snapshot.parse doneReport) := by rfl
  have hcheck₂ : ((Thread.atomic (finishJob.manager.checkStatus ethRecord.nodeName).run).alone
      ((Thread.atomic (finishJob.manager.checkStatus ethRecord.nodeName).run).alone
        finishHost).2).1 = .ok (Snapshot.parse doneReport) := by rfl
  -- the report and the two writes, evaluated together so that each host is computed once
  have hruns : (Snapshot.parse doneReport).isRunning = false ∧
      ((finishJob.afterReport ethRecord (.ok (Snapshot.parse doneReport))).alone
        ((Thread.atomic (finishJob.manager.checkStatus ethRecord.nodeName).run).alone
          ((Thread.atomic (finishJob.manager.checkStatus ethRecord.nodeName).run).alone
            finishHost).2).2).1 = some .completed ∧
      ((finishJob.afterReport ethRecord (.ok (Snapshot.parse doneReport))).alone
        ((finishJob.afterReport ethRecord (.ok (Snapshot.parse doneReport))).alone
          ((Thread.atomic (finishJob.manager.checkStatus ethRecord.nodeName).run).alone
            ((Thread.atomic (finishJob.manager.checkStatus ethRecord.nodeName).run).alone
              finishHost).2).2).2).1 = some .unchanged := by
    decide +kernel
  obtain ⟨hreport, hfirst, hsecond⟩ := hruns
  -- both reconciliations hear the report before either writes
  have i₁ : Interleaving FinishesNoUpload _ _ _ _ := Interleaving.bind_alone _
    ([(finishJob, ethRecord), (finishJob, ethRecord)].map fun x => x.1.reconcileThread x.2) 0
    (by rw [List.map_cons, List.getElem?_cons_zero, MonitorJob.reconcileThread_eq])
    finishHost
  rw [hcheck₁] at i₁
  have i₂ : Interleaving FinishesNoUpload _ _ _ _ := Interleaving.bind_alone _
    [finishJob.afterReport ethRecord (.ok (Snapshot.parse doneReport)),
      finishJob.reconcileThread ethRecord] 1
    (by rw [List.getElem?_cons_succ, List.getElem?_cons_zero,
      MonitorJob.reconcileThread_eq])
    ((Thread.atomic (finishJob.manager.checkStatus ethRecord.nodeName).run).alone finishHost).2
  rw [hcheck₂] at i₂
  -- then the first writes its finishing patch, and the second finds the row finished
  have i₃ : Interleaving FinishesNoUpload _ _ _ _ := Interleaving.alone
    [finishJob.afterReport ethRecord (.ok (Snapshot.parse doneReport)),
      finishJob.afterReport ethRecord (.ok (Snapshot.parse doneReport))] 0 rfl
    ((Thread.atomic (finishJob.manager.checkStatus ethRecord.nodeName).run).alone
      ((Thread.atomic (finishJob.manager.checkStatus ethRecord.nodeName).run).alone
        finishHost).2).2
  rw [hfirst] at i₃
  have i₄ : Interleaving FinishesNoUpload _ _ _ _ := Interleaving.alone
    [.done (some .completed), finishJob.afterReport ethRecord (.ok (Snapshot.parse doneReport))]
    1 rfl
    ((finishJob.afterReport ethRecord (.ok (Snapshot.parse doneReport))).alone
      ((Thread.atomic (finishJob.manager.checkStatus ethRecord.nodeName).run).alone
        ((Thread.atomic (finishJob.manager.checkStatus ethRecord.nodeName).run).alone
          finishHost).2).2).2
  rw [hsecond] at i₄
  have hreports := i₁.trans i₂
  have hwrites := i₃.trans i₄
  obtain ⟨S, finisher, hS, hdb, hlater, hl, -, -⟩ :=
    reconciliation_race_one_finish.2.2.2.2.2 [(finishJob, ethRecord), (finishJob, ethRecord)]
      (UploadTables.run [.create ethRunning]) finishHost (UploadTables.run_sound _) rfl _ _
      (hreports.trans hwrites)
  exact ⟨hreport, _, _, hreports, hwrites, S, finisher, hS, hdb, hlater, hl⟩

end SnapshotAgent.Agent
