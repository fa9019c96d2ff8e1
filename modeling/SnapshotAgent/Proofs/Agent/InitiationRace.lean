import SnapshotAgent.Proofs.Agent.AtomicSteps
import SnapshotAgent.Proofs.Agent.Tick
/-!
# Racing node ticks: at most one winner

Node ticks for one node can run side by side: the schedule's tick, a manual upload, another
tick. Both may find no running upload in the store, both may hear from the tool that nothing
runs, both may start the tool's upload: the checks and the start are separate steps. What keeps
the race fair is the store: it refuses a second running upload of a node, and a tick that loses
there is a skip.

## The protocol of one tick

`NodeJob.task_recordsOnce`: every step of a node tick leaves the store as it was, except at most
one, its commit, which records a running upload of its node with its trigger; the tick is then
initiated with the new upload's id. A tick that finishes without committing is not initiated.
The statement is about each step from every host, so it holds whatever the other ticks do.

## The race

`RaceState` is what a race keeps true as it goes: each tick has not committed or has been
initiated, and the store is a sound state with at most one new upload, the initiated tick's. A
tick's commit needs the store to have no running upload of the node, and after it there is one,
which nothing in the race finishes: so a second commit is refused (`RaceState.thread_step`).

## Main statement

`initiation_race_one_winner`: every node tick, cut into its steps, is the tick; and under every
interleaving of ticks for one node over a sound store, with no other writer, at most one tick is
initiated, and the store has gained exactly one upload, running, of the node, with the winner's
trigger and id, if one is, and none otherwise.
-/

namespace SnapshotAgent.Agent

open SnapshotAgent.Store SnapshotAgent.Upload SnapshotAgent.Notify

/-! ## Steps that keep the store -/

/-- A step that leaves the store as it was. -/
def StoreKept (h h' : Host) : Prop := h'.store = h.store

/-- A step that only hands payloads to transports: the host gains deliveries and nothing else. -/
def Delivers (h h' : Host) : Prop := ∃ ds, h' = h.notified ds

theorem Delivers.storeKept {h h' : Host} (hd : Delivers h h') : StoreKept h h' := by
  obtain ⟨ds, rfl⟩ := hd
  rfl

section StoreKept

open Thread

/-- A dispatch only delivers. -/
theorem dispatchThread_delivers (notifiers : Notifiers) (settings : Option Config.NotificationConfig)
    (p : Payload) : (dispatchThread notifiers settings p).Every Delivers := by
  unfold dispatchThread
  cases settings with
  | none => exact .done trivial
  | some c =>
    dsimp only
    split
    · exact .done trivial
    · refine (Every.mapM (fun t => ?_) _).bind fun _ => .done trivial
      cases notifiers.find t.1 with
      | error e => exact .done trivial
      | ok n => exact (Every.atomic fun h => ⟨_, deliver_run n t.2 p h⟩).bind fun _ => .done trivial

theorem dispatchThread_every (notifiers : Notifiers) (settings : Option Config.NotificationConfig)
    (p : Payload) : (dispatchThread notifiers settings p).Every StoreKept :=
  (dispatchThread_delivers notifiers settings p).mono fun _ _ hd => hd.storeKept

theorem NodeJob.payload_every (j : NodeJob) (event : Event) (message : String) :
    (atomic (j.payload event message)).Every StoreKept :=
  Every.atomic fun _ => rfl

theorem NodeJob.notifySkipThread_every (j : NodeJob) (message : String) :
    (j.notifySkipThread message).Every StoreKept :=
  (j.payload_every .skip message).bind fun _ =>
    (dispatchThread_every _ _ _).bind fun _ => .done trivial

theorem NodeJob.notifyFailureThread_every (j : NodeJob) (message : String) (e : Failure) :
    (j.notifyFailureThread message e).Every StoreKept := by
  unfold NodeJob.notifyFailureThread
  split
  · exact .done trivial
  · exact (j.payload_every .failure message).bind fun _ =>
      (dispatchThread_every _ _ _).bind fun _ => .done trivial

theorem Manager.shouldSkipSteps_every (m : Manager) (node : String) :
    (m.shouldSkipSteps node).run.Every StoreKept := by
  unfold Manager.shouldSkipSteps
  refine Every.run_bind (Every.atomic fun h => ?_) (fun r => ?_) fun _ => trivial
  · show ((readStore (·.runningFor node)).run h).2.store = h.store
    rw [readStore_run]
    split
    · rfl
    · split <;> rfl
  · split
    · exact .done trivial
    · exact Every.run_bind (Every.atomic fun h => (checkStatus_beside m node h).store)
        (fun _ => .done trivial) fun _ => trivial

theorem NodeJob.protocolData_every (j : NodeJob) :
    (atomicRun j.protocolData).run.Every StoreKept :=
  Every.atomic fun h => by
    show (j.protocolData.run h).2.store = h.store
    rw [NodeJob.protocolData_run]

theorem invokeOk_every (program : String) (args : List String) :
    (atomicRun (invokeOk program args)).run.Every StoreKept :=
  Every.atomic fun h => by
    show ((invokeOk program args).run h).2.store = h.store
    rw [invokeOk_run]
    have hb := (invoke_beside program args h).store
    revert hb
    rcases (invoke program args).run h with ⟨_ | _, h₁⟩ <;> exact id

end StoreKept

/-! ## Recording an upload -/

/-- A step that records a new running upload of node `n` with trigger `tr`, after which the
thread answers what `result` makes of the new upload's id. -/
def RecordsUpload {α : Type} (n : String) (tr : Upload.Trigger) (result : Int → α) (h h' : Host)
    (c : Thread α) : Prop :=
  ∃ u db id, u.nodeName = n ∧ u.trigger = tr ∧ h.store.db.createUpload u = .ok (db, id) ∧
    h'.store = { h.store with db } ∧ c = .done (result id)

theorem RecordsUpload.bind {α β : Type} {n : String} {tr : Upload.Trigger} {result : Int → α}
    {result' : Int → β} {k : α → Thread β} (hk : ∀ id, k (result id) = .done (result' id))
    {h h' : Host} {c : Thread α} (hc : RecordsUpload n tr result h h' c) :
    RecordsUpload n tr result' h h' (c.bind k) := by
  obtain ⟨u, db, id, hn, ht, hcreate, hstore, rfl⟩ := hc
  exact ⟨u, db, id, hn, ht, hcreate, hstore, hk id⟩

/-- Recording an upload carries over to what follows it, when that keeps the answer's id. -/
theorem RecordsUpload.commitsOnce_bind {α β : Type} {n : String} {tr : Upload.Trigger}
    {result : Int → α} {result' : Int → β} {uncommitted : α → Prop} {uncommitted' : β → Prop}
    {t : Thread α} {k : α → Thread β}
    (ht : t.CommitsOnce StoreKept (RecordsUpload n tr result) uncommitted)
    (hk : ∀ id, k (result id) = .done (result' id))
    (hrest : ∀ a, uncommitted a →
      (k a).CommitsOnce StoreKept (RecordsUpload n tr result') uncommitted') :
    (t.bind k).CommitsOnce StoreKept (RecordsUpload n tr result') uncommitted' :=
  ht.bind (fun _ _ _ hc => hc.bind hk) hrest

/-- Recording an upload is the commit of a node tick: a write that the store accepts records the
upload; a write refused, or not made because the caller cancelled, leaves the store as it was. -/
theorem insert_commitsOnce (req : UploadRequest) :
    (Thread.atomicRun (Manager.insert req none)).run.CommitsOnce StoreKept
      (RecordsUpload req.node req.trigger .ok) fun r => ∀ id, r ≠ .ok id := by
  refine Thread.CommitsOnce.atomic fun h => ?_
  simp only [StateT.run]
  rw [Manager.insert_none_run, writeStore_run]
  split
  · exact .inr ⟨rfl, fun _ h => by cases h⟩
  · split
    · next db id hcreate => exact .inl ⟨req.unseeded h.clock, db, id, rfl, rfl, hcreate, rfl, rfl⟩
    · exact .inr ⟨rfl, fun _ h => by cases h⟩

theorem Manager.initiateSteps_commitsOnce (m : Manager) (req : UploadRequest) :
    (m.initiateSteps req).run.CommitsOnce StoreKept (RecordsUpload req.node req.trigger .ok)
      fun r => ∀ id, r ≠ .ok id := by
  unfold Manager.initiateSteps
  split
  · exact .done fun _ h => by cases h
  · exact Thread.Every.run_bind (invokeOk_every _ _) (fun _ => insert_commitsOnce req)
      fun _ _ h => by cases h

/-- An initiation commits at most once, by recording the upload it answers. -/
theorem Manager.initiated_commitsOnce (m : Manager) (req : UploadRequest) :
    (JobOutcome.initiated <$> m.initiateSteps req).run.CommitsOnce StoreKept
      (RecordsUpload req.node req.trigger fun id => .ok (.initiated id))
      fun r => ∀ id, r ≠ .ok (.initiated id) := by
  rw [ExceptT.run_map, map_eq_pure_bind, Thread.bind_eq]
  refine RecordsUpload.commitsOnce_bind (m.initiateSteps_commitsOnce req) (fun _ => rfl)
    fun r hr => .done ?_
  cases r with
  | ok id => exact absurd rfl (hr id)
  | error e => exact fun _ h => by cases h

/-- The protocol of a node tick for node `n` with trigger `tr`: it records at most one upload, a
running one of `n` with trigger `tr`, and is then initiated with its id; before, it leaves the
store as it was; finished without recording, it is not initiated. -/
def RecordsOnce (n : String) (tr : Upload.Trigger) (t : Thread (Except Failure JobOutcome)) : Prop :=
  t.CommitsOnce StoreKept (RecordsUpload n tr fun id => .ok (.initiated id))
    fun r => ∀ id, r ≠ .ok (.initiated id)

theorem RecordsOnce.ne_initiated {n : String} {tr : Upload.Trigger} {t : Thread (Except Failure JobOutcome)}
    (ht : RecordsOnce n tr t) (id : Int) : t ≠ .done (.ok (.initiated id)) := by
  rintro rfl
  exact Thread.CommitsOnce.answer ht id rfl

/-- A node tick records at most one upload, a running one of its node with its trigger, and is
then initiated with the new upload's id. -/
theorem NodeJob.task_recordsOnce (j : NodeJob) : RecordsOnce j.node.name j.trigger j.task := by
  unfold RecordsOnce NodeJob.task NodeJob.steps NodeJob.checkSteps NodeJob.afterCheck
  refine Thread.Every.run_bind ?_ (fun skip => ?_) fun _ _ h => by cases h
  · -- the skip check, whose failure is notified
    rw [ExceptT.run_tryCatch]
    refine (j.manager.shouldSkipSteps_every j.node.name).bind fun r => ?_
    cases r with
    | ok a => exact .done trivial
    | error e =>
      exact Thread.Every.run_bind (Thread.Every.run_lift (j.notifyFailureThread_every _ e))
        (fun _ => .done trivial) fun _ => trivial
  split
  · exact Thread.Every.run_bind (Thread.Every.run_lift (j.notifySkipThread_every _))
      (fun _ => .done fun _ h => by cases h) fun _ _ h => by cases h
  refine Thread.Every.run_bind j.protocolData_every (fun data => ?_) fun _ _ h => by cases h
  -- the initiation commits, and its failures are notified
  rw [ExceptT.run_tryCatch, Thread.bind_eq]
  refine RecordsUpload.commitsOnce_bind
    (j.manager.initiated_commitsOnce (UploadRequest.forNode j.node j.trigger data)) (fun _ => ?_)
    fun r hr => ?_
  · rfl
  cases r with
  | ok a => exact .done hr
  | error e =>
    dsimp only
    split
    · exact Thread.Every.run_bind (Thread.Every.run_lift (j.notifySkipThread_every _))
        (fun _ => .done fun _ h => by cases h) fun _ _ h => by cases h
    · exact Thread.Every.run_bind (Thread.Every.run_lift (j.notifyFailureThread_every _ e))
        (fun _ => .done fun _ h => by cases h) fun _ _ h => by cases h

/-! ## The race -/

/-- What a race of node ticks for node `n` has left: no new upload and no tick initiated; or
exactly one new upload, running, of node `n`, recorded by the one tick that was initiated, with
that tick's trigger and the id it answered. -/
def RaceOutcome (n : String) (jobs : List NodeJob) (S₀ S : UploadTables)
    (ts : List (Thread (Except Failure JobOutcome))) : Prop :=
  (S.uploads = S₀.uploads ∧ ∀ (i : Nat) (id : Int), ts[i]? ≠ some (.done (.ok (.initiated id)))) ∨
  ∃ (i : Nat) (j : NodeJob) (r : UploadRow), jobs[i]? = some j ∧
    ts[i]? = some (.done (.ok (.initiated r.id))) ∧
    S.uploads = S₀.uploads ++ [r] ∧ r.nodeName = n ∧ r.status = .running ∧
    r.trigger = j.trigger ∧ ∀ (k : Nat) (id : Int), ts[k]? = some (.done (.ok (.initiated id))) → k = i

/-- A race of node ticks for node `n` as it stands: each tick has not recorded its upload, or
has been initiated; the store is a sound state, and what the race has left is a `RaceOutcome`. -/
structure RaceState (n : String) (jobs : List NodeJob) (S₀ : UploadTables)
    (ts : List (Thread (Except Failure JobOutcome))) (h : Host) : Prop where
  length : ts.length = jobs.length
  threads : ∀ (i : Nat) t, ts[i]? = some t → ∃ j, jobs[i]? = some j ∧
    (RecordsOnce n j.trigger t ∨ ∃ id, t = .done (.ok (.initiated id)))
  store : ∃ S, S.Sound ∧ h.store.db = S.db ∧ RaceOutcome n jobs S₀ S ts

theorem getElem?_set_eq_some {β : Type} {l : List β} {i k : Nat} {a b : β}
    (h : (l.set i a)[k]? = some b) : (k = i ∧ b = a) ∨ (k ≠ i ∧ l[k]? = some b) := by
  rw [List.getElem?_set] at h
  split at h
  · split at h
    · exact .inl ⟨by omega, (Option.some.inj h).symm⟩
    · cases h
  · exact .inr ⟨by omega, h⟩

namespace RaceState

variable {n : String} {jobs : List NodeJob} {S₀ : UploadTables}
  {ts : List (Thread (Except Failure JobOutcome))} {h : Host}

/-- A race starts with every tick at its first step. -/
theorem start (hnode : ∀ j ∈ jobs, j.node.name = n) (hS : S₀.Sound) (hdb : h.store.db = S₀.db) :
    RaceState n jobs S₀ (jobs.map NodeJob.task) h := by
  -- each tick follows its protocol, so none is initiated yet
  have hthread : ∀ (i : Nat) t, (jobs.map NodeJob.task)[i]? = some t →
      ∃ j, jobs[i]? = some j ∧ RecordsOnce n j.trigger t := by
    intro i t hi
    rw [List.getElem?_map] at hi
    obtain ⟨j, hj, rfl⟩ := Option.map_eq_some_iff.1 hi
    exact ⟨j, hj, hnode j (List.mem_of_getElem? hj) ▸ j.task_recordsOnce⟩
  refine ⟨List.length_map _, fun i t hi => ?_, S₀, hS, hdb, .inl ⟨rfl, fun i id hi => ?_⟩⟩
  · obtain ⟨j, hj, ht⟩ := hthread i t hi
    exact ⟨j, hj, .inl ht⟩
  · obtain ⟨j, -, ht⟩ := hthread i _ hi
    exact ht.ne_initiated id rfl

/-- Every step of the environment keeps a race as it stands, when it leaves the store as it was. -/
theorem env_step {h₁ : Host} (hr : RaceState n jobs S₀ ts h) (henv : StoreKept h h₁) :
    RaceState n jobs S₀ ts h₁ := by
  obtain ⟨hlen, hthreads, S, hS, hdb, hout⟩ := hr
  exact ⟨hlen, hthreads, S, hS, henv ▸ hdb, hout⟩

/-- A step of a tick that keeps the store keeps the race as it stands: the tick has not recorded
its upload yet, so it is not initiated, and the winner, if any, is another tick. -/
theorem keep_step {i : Nat} {e : Host → Host} {next : Host → Thread (Except Failure JobOutcome)}
    {j : NodeJob} (hr : RaceState n jobs S₀ ts h) (hi : ts[i]? = some (.step e next))
    (hj : jobs[i]? = some j) (hkeep : StoreKept h (e h)) (hnext : RecordsOnce n j.trigger (next h)) :
    RaceState n jobs S₀ (ts.set i (next h)) (e h) := by
  obtain ⟨hlen, hthreads, S, hS, hdb, hout⟩ := hr
  have hnot : ∀ (k : Nat) (id : Int), (ts.set i (next h))[k]? = some (.done (.ok (.initiated id))) →
      ts[k]? = some (.done (.ok (.initiated id))) := by
    intro k id hk
    rcases getElem?_set_eq_some hk with ⟨-, heq⟩ | ⟨-, hk⟩
    · exact absurd heq.symm (hnext.ne_initiated id)
    · exact hk
  refine ⟨by rw [List.length_set, hlen], fun k t hk => ?_, S, hS, by rw [hkeep, hdb], ?_⟩
  · rcases getElem?_set_eq_some hk with ⟨rfl, rfl⟩ | ⟨-, hk⟩
    · exact ⟨j, hj, .inl hnext⟩
    · exact hthreads k t hk
  · rcases hout with ⟨hrows, hnone⟩ | ⟨w, jw, r, hjw, hw, hrows, hnode, hrun, htrig, honly⟩
    · exact .inl ⟨hrows, fun k id hk => hnone k id (hnot k id hk)⟩
    · -- the winner has finished, so it is not the tick that stepped
      have hwi : w ≠ i := by
        rintro rfl
        rw [hi] at hw
        cases hw
      refine .inr ⟨w, jw, r, hjw, ?_, hrows, hnode, hrun, htrig, fun k id hk => honly k id (hnot k id hk)⟩
      rw [List.getElem?_set_ne (Ne.symm hwi)]
      exact hw

/-- A tick's commit wins the race: no tick had recorded an upload before, since the store had no
running upload of the node, and the tick's new upload is the race's one new upload. -/
theorem commit_step {i : Nat} {e : Host → Host} {next : Host → Thread (Except Failure JobOutcome)}
    {j : NodeJob} (hr : RaceState n jobs S₀ ts h) (hi : ts[i]? = some (.step e next))
    (hj : jobs[i]? = some j)
    (hc : RecordsUpload n j.trigger (fun id => .ok (.initiated id)) h (e h) (next h)) :
    RaceState n jobs S₀ (ts.set i (next h)) (e h) := by
  obtain ⟨hlen, hthreads, S, hS, hdb, hout⟩ := hr
  obtain ⟨u, db, id, hun, hut, hcreate, hstore, hnext⟩ := hc
  -- the store accepts the creation in the typed state
  rw [hdb, Database.createUpload_eq hS.owned] at hcreate
  obtain ⟨⟨S', id'⟩, hcreated, hpair⟩ := except_map_eq_ok hcreate
  obtain ⟨hdb', hid⟩ := Prod.mk.inj hpair
  obtain ⟨hnextId, -, hfree, hrows', -⟩ := UploadTables.create_ok hcreated
  have hnew : (S.newRow u).id = id := hid ▸ hnextId.symm
  -- no upload was new before: it would be a running upload of the node
  obtain ⟨hrows, hnone⟩ : S.uploads = S₀.uploads ∧
      ∀ (k : Nat) (id : Int), ts[k]? ≠ some (.done (.ok (.initiated id))) := by
    rcases hout with hout | ⟨w, jw, r, -, -, hrows, hnode, hrun, -, -⟩
    · exact hout
    · exact absurd (hun ▸ hnode) (hfree r (hrows ▸ List.mem_append_right _ (.head _)) hrun)
  refine ⟨by rw [List.length_set, hlen], fun k t hk => ?_, S', hS.create hcreated,
    by rw [hstore, ← hdb'], .inr ⟨i, j, S.newRow u, hj, ?_, by rw [hrows', hrows], hun, rfl, hut,
      fun k id hk => ?_⟩⟩
  · rcases getElem?_set_eq_some hk with ⟨rfl, rfl⟩ | ⟨-, hk⟩
    · exact ⟨j, hj, .inr ⟨id, hnext⟩⟩
    · exact hthreads k t hk
  · rw [List.getElem?_set_self (List.getElem?_eq_some_iff.1 hi).1, hnext, hnew]
  · rcases getElem?_set_eq_some hk with ⟨rfl, -⟩ | ⟨-, hk⟩
    · rfl
    · exact absurd hk (hnone k id)

/-- Every step of a tick keeps the race as it stands. -/
theorem thread_step {i : Nat} {e : Host → Host} {next : Host → Thread (Except Failure JobOutcome)}
    (hr : RaceState n jobs S₀ ts h) (hi : ts[i]? = some (.step e next)) :
    RaceState n jobs S₀ (ts.set i (next h)) (e h) := by
  obtain ⟨j, hj, hproto⟩ := hr.threads i _ hi
  rcases hproto with hproto | ⟨id, hdone⟩
  · cases hproto with
    | step hkeep hnext =>
      by_cases hc : RecordsUpload n j.trigger (fun id => .ok (.initiated id)) h (e h) (next h)
      · exact hr.commit_step hi hj hc
      · exact hr.keep_step hi hj (hkeep h hc) (hnext h hc)
  · cases hdone

end RaceState

/-! ## The race over whole runs -/

/-- Node ticks for one node, cut into their atomic steps, are the ticks when each runs alone.
Under every interleaving of such ticks over a sound store, with nothing else writing to it, at
most one tick is initiated. If one is, the store has gained exactly one upload, running, of the
node, with that tick's trigger and the id it answered; if none is, the store has gained no
upload. Every other tick that finished was skipped or failed, and left no upload behind. -/
theorem initiation_race_one_winner :
    (∀ j : NodeJob, j.task.alone = j.execute.run) ∧
    ∀ (n : String) (jobs : List NodeJob), (∀ j ∈ jobs, j.node.name = n) →
      ∀ (S₀ : UploadTables) (h₀ : Host), S₀.Sound → h₀.store.db = S₀.db →
      ∀ ts h, Interleaving StoreKept (jobs.map NodeJob.task) h₀ ts h →
        ∃ S, S.Sound ∧ h.store.db = S.db ∧ RaceOutcome n jobs S₀ S ts := by
  refine ⟨NodeJob.alone_task, fun n jobs hnode S₀ h₀ hS hdb ts h hrun => ?_⟩
  have hrace := hrun.invariant (fun _ _ _ _ _ hr hi => RaceState.thread_step hr hi)
    (fun _ _ _ hr henv => hr.env_step henv) (RaceState.start hnode hS hdb)
  exact hrace.store

/-- A node tick of `eth` with the given trigger, with no protocol module and no transport. -/
def raceTick (trigger : Upload.Trigger) : NodeJob :=
  { node := { name := "eth", protocol := "ethereum", nodeType := "archive", url := "",
              beaconUrl := none, schedule := none, notifications := none },
    trigger, manager := { tool := "bv" }, protocols := ⟨[]⟩, notifiers := ⟨[]⟩ }

/-- A new store, and a tool that runs no job for `eth` and starts its upload when asked. -/
def raceHost : Host :=
  { store := ⟨UploadTables.empty.db, false⟩,
    tool := .scripted { standing := [
      ("node job eth info upload", .exit 1 "" "Error: job 'upload' not found"),
      ("node run upload eth", .stdout "upload started")] },
    clock := ⟨0, 0, 0⟩ }

/-- A scheduled and a manual tick of `eth` on a new store: both pass their skip check, the store
having no running upload and the tool no job; then the scheduled tick starts the upload and
records it, and the manual one starts it too but is refused by the store, and skips. The race
ends with one new upload, the scheduled tick's. -/
theorem two_ticks_race_on_new_store :
    ∃ h₁ h,
      Interleaving StoreKept ([raceTick .scheduled, raceTick .manual].map NodeJob.task) raceHost
        [((raceTick .scheduled).afterCheck false).run, ((raceTick .manual).afterCheck false).run]
        h₁ ∧
      Interleaving StoreKept
        [((raceTick .scheduled).afterCheck false).run, ((raceTick .manual).afterCheck false).run] h₁
        [.done (.ok (.initiated 1)), .done (.ok .skipped)] h ∧
      ∃ S, S.Sound ∧ h.store.db = S.db ∧
        RaceOutcome "eth" [raceTick .scheduled, raceTick .manual] UploadTables.empty S
          [.done (.ok (.initiated 1)), .done (.ok .skipped)] := by
  -- the four runs, evaluated together so that each one's host is computed once
  have hruns : ((raceTick .scheduled).checkSteps.run.alone raceHost).1 = .ok false ∧
      ((raceTick .manual).checkSteps.run.alone
        ((raceTick .scheduled).checkSteps.run.alone raceHost).2).1 = .ok false ∧
      (((raceTick .scheduled).afterCheck false).run.alone
        ((raceTick .manual).checkSteps.run.alone
          ((raceTick .scheduled).checkSteps.run.alone raceHost).2).2).1 = .ok (.initiated 1) ∧
      (((raceTick .manual).afterCheck false).run.alone
        (((raceTick .scheduled).afterCheck false).run.alone
          ((raceTick .manual).checkSteps.run.alone
            ((raceTick .scheduled).checkSteps.run.alone raceHost).2).2).2).1 = .ok .skipped := by
    decide +kernel
  obtain ⟨hcheck₁, hcheck₂, hrun₁, hrun₂⟩ := hruns
  -- the two skip checks, one after the other: each thread goes on to what follows a `false`
  have i₁ : Interleaving StoreKept _ _ _ _ := Interleaving.bind_alone _
    ([raceTick .scheduled, raceTick .manual].map NodeJob.task) 0
    (by rw [List.map_cons, List.getElem?_cons_zero, NodeJob.task_eq]) raceHost
  rw [hcheck₁] at i₁
  have i₂ : Interleaving StoreKept _ _ _ _ := Interleaving.bind_alone _
    [((raceTick .scheduled).afterCheck false).run, (raceTick .manual).task] 1
    (by rw [List.getElem?_cons_succ, List.getElem?_cons_zero, NodeJob.task_eq])
    ((raceTick .scheduled).checkSteps.run.alone raceHost).2
  rw [hcheck₂] at i₂
  -- then the scheduled tick runs to its end, and the manual one to its own
  have i₃ : Interleaving StoreKept _ _ _ _ := Interleaving.alone
    [((raceTick .scheduled).afterCheck false).run, ((raceTick .manual).afterCheck false).run]
    0 rfl ((raceTick .manual).checkSteps.run.alone
        ((raceTick .scheduled).checkSteps.run.alone raceHost).2).2
  rw [hrun₁] at i₃
  have i₄ : Interleaving StoreKept _ _ _ _ := Interleaving.alone
    [.done (.ok (.initiated 1)), ((raceTick .manual).afterCheck false).run] 1 rfl (((raceTick .scheduled).afterCheck false).run.alone
        ((raceTick .manual).checkSteps.run.alone
          ((raceTick .scheduled).checkSteps.run.alone raceHost).2).2).2
  rw [hrun₂] at i₄
  have hchecks := i₁.trans i₂
  have hends := i₃.trans i₄
  have hnode : ∀ j ∈ [raceTick .scheduled, raceTick .manual], j.node.name = "eth" := by
    simp [raceTick]
  exact ⟨_, _, hchecks, hends, initiation_race_one_winner.2 "eth" _ hnode UploadTables.empty
    raceHost UploadTables.empty_sound rfl _ _ (hchecks.trans hends)⟩

end SnapshotAgent.Agent
