import Mathlib
import SnapshotAgent.Proofs.Agent.MonitorTasks
import SnapshotAgent.Proofs.Agent.FinishRace
/-!
# Reconciliation side by side

The second group of a monitor tick reconciles the running uploads it read: the reconciliation of
each record asks the tool for the report on its node, writes the patch the report calls for, and
notifies a finished upload. The reconciliations of a group run side by side, so their questions,
writes and deliveries interleave in any order, and the group answers them in the order they
finish.

Each reconciliation is at a stage of its program (`RefreshStage`), kept in a function of the
record's id; `MonitorJob.refreshAt` is what is left of it at a stage, with one lemma per stage
saying what its next step does. A written reconciliation carries what is left of its notice,
whose steps only deliver (`MonitorJob.noticeThread_delivers`).

`RefreshLedger` is what a group keeps true: the host holds the questions asked, the state written
and some deliveries; the rows whose patch is written are the refreshed forms of the rows read, and
every other row is as it was. A row is written by its own reconciliation only, and until then it
is running, so each patch applies (`RefreshLedger.write`).

`MonitorJob.reconciliation_sideBySide`: however the reconciliations interleave, the tool is asked
once about the node of each record, each row read is replaced by its refreshed form and no other
row changes, and the answers are the outcomes of the reports, in some order.
-/

namespace SnapshotAgent.Agent

open SnapshotAgent.Upload SnapshotAgent.Store SnapshotAgent.Time SnapshotAgent.Tool

/-- What reconciling a running upload of node `node` answers: nothing when the tool's report
fails, else the outcome of the patch of the report on the running row. -/
def Manager.outcome (m : Manager) (answer : List String → Except CommandError Output)
    (node : String) : Option Reconciled :=
  match reportFor answer node with
  | .ok s => some (m.reconciled s true)
  | .error _ => none

/-- The tool's question about the node of a record. -/
def Manager.recordCall (m : Manager) (r : Record) : List String := m.tool :: infoArgs r.nodeName

/-- Where the reconciliation of a record stands. -/
inductive RefreshStage where
  /-- The tool has not been asked yet. -/
  | waiting
  /-- The tool has answered with `report`, and nothing is written. -/
  | reported (report : Except Failure Snapshot)
  /-- The patch is written with outcome `outcome`; `rest` is what is left of its notice. -/
  | noticing (outcome : Reconciled) (rest : Thread Unit)

/-- Whether a reconciliation at a stage has written its patch. -/
def RefreshStage.wrote : RefreshStage → Bool
  | .noticing _ _ => true
  | _ => false

namespace MonitorJob

variable (j : MonitorJob) (r : Record)

/-- What is left of the reconciliation of `r` at a stage. -/
def refreshAt : RefreshStage → Thread (Int × Option Reconciled)
  | .waiting => j.reconcileTaskThread r
  | .reported report => (j.afterReport r report).bind fun out => .done (r.id, out)
  | .noticing o rest => rest.bind fun _ => .done (r.id, some o)

/-- A reconciliation that has not asked asks the tool for the report on its node. -/
theorem refreshAt_waiting :
    j.refreshAt r .waiting =
      .step (fun h => ((j.manager.checkStatus r.nodeName).run h).2)
        fun h => j.refreshAt r (.reported ((j.manager.checkStatus r.nodeName).run h).1) := by
  rw [refreshAt, reconcileTaskThread, reconcileThread_eq, Thread.bind_assoc]
  rfl

/-- A failed report ends the reconciliation with no answer. -/
theorem refreshAt_failed (e : Failure) : j.refreshAt r (.reported (.error e)) = .done (r.id, none) :=
  rfl

/-- On a report, the reconciliation writes the patch, then notices the outcome of the write. -/
theorem refreshAt_reported (s : Snapshot) :
    j.refreshAt r (.reported (.ok s)) =
      .step (fun h => ((j.manager.patchWrite r.id s).run h).2) fun h =>
        match ((j.manager.patchWrite r.id s).run h).1 with
        | .ok o => j.refreshAt r (.noticing o (j.noticeThread r o))
        | .error _ => .done (r.id, none) := by
  rw [refreshAt, afterReport, Thread.afterOk, Thread.bind_assoc]
  show Thread.step _ _ = Thread.step _ _
  congr 1
  funext h
  dsimp only [StateT.run]
  rcases ((j.manager.patchWrite r.id s).run h).1 with e | o
  · rfl
  · -- the notice, then the answer
    rw [Thread.done_bind]
    show ((j.noticeThread r o).bind fun _ => Thread.done (some o)).bind _ = _
    rw [Thread.bind_assoc]
    rfl

/-- A notice goes on one step at a time. -/
theorem refreshAt_noticing (o : Reconciled) (e : Host → Host) (n : Host → Thread Unit) :
    j.refreshAt r (.noticing o (.step e n)) = .step e fun h => j.refreshAt r (.noticing o (n h)) :=
  rfl

variable {j r}

/-- A reconciliation that has finished has asked and, with a report, written its patch and run its
notice: it stands at a failed report or at a written patch, and answers what stands there. -/
theorem refreshAt_done {st : RefreshStage} {a : Int × Option Reconciled}
    (hdone : j.refreshAt r st = .done a) :
    (∃ e, st = .reported (.error e) ∧ a = (r.id, none)) ∨
      ∃ o u, st = .noticing o (.done u) ∧ a = (r.id, some o) := by
  cases st with
  | waiting =>
    rw [refreshAt_waiting] at hdone
    cases hdone
  | reported report =>
    rcases report with e | s
    · rw [refreshAt_failed] at hdone
      cases hdone
      exact .inl ⟨e, rfl, rfl⟩
    · rw [refreshAt_reported] at hdone
      cases hdone
  | noticing o rest =>
    cases rest with
    | done u =>
      cases hdone
      exact .inr ⟨o, u, rfl, rfl⟩
    | step e n =>
      rw [refreshAt_noticing] at hdone
      cases hdone

end MonitorJob

/-- What a reconciliation at a stage has learnt: the tool's report on its node, and once written,
the outcome of the report's patch on the running row, with what is left of its notice. -/
def RefreshStage.Fits (j : MonitorJob) (answer : List String → Except CommandError Output)
    (r : Record) : RefreshStage → Prop
  | .waiting => True
  | .reported report => report = reportFor answer r.nodeName
  | .noticing o rest => ∃ s, reportFor answer r.nodeName = .ok s ∧ o = j.manager.reconciled s true ∧
      (j.noticeThread r o).Reaches rest

/-- A reconciliation group over `records`, started on the host `h₀` over the state `S`, as it stands
with its reconciliations at `stage`: the records `asked` have asked the tool, in that order; the
ids `written` have had their patch written; the store holds the sound state `S'`, where each
written row is refreshed and every other row is as in `S`; the host has gained deliveries. -/
structure RefreshLedger (j : MonitorJob) (answer : List String → Except CommandError Output)
    (records : List Record) (h₀ : Host) (S : UploadTables) (stage : Int → RefreshStage)
    (asked : List Record) (written : List Int) (S' : UploadTables) (h : Host) : Prop where
  host : ∃ ds, h = { h₀ with calls := h₀.calls ++ asked.map j.manager.recordCall,
                             store := { h₀.store with db := S'.db },
                             deliveries := h₀.deliveries ++ ds }
  asked_nodup : asked.Nodup
  asked_mem : ∀ r ∈ asked, r ∈ records
  asked_iff : ∀ r ∈ records, r ∈ asked ↔ stage r.id ≠ .waiting
  sound : S'.Sound
  uploads : S'.uploads = S.uploads.map fun x =>
    if x.id ∈ written then j.manager.refreshed answer h₀.clock x else x
  written_nodup : written.Nodup
  written_mem : ∀ id ∈ written, ∃ r ∈ records, r.id = id
  written_iff : ∀ r ∈ records, r.id ∈ written ↔ (stage r.id).wrote = true
  roomP : S'.nextId S'.progressT ≤ S.nextId S.progressT + written.length
  fits : ∀ r ∈ records, (stage r.id).Fits j answer r

namespace RefreshLedger

variable {j : MonitorJob} {answer : List String → Except CommandError Output}
  {records : List Record} {h₀ : Host} {S : UploadTables} {stage : Int → RefreshStage}
  {asked : List Record} {written : List Int} {S' : UploadTables} {h : Host} {x : Record}

/-- The group starts with nothing asked and nothing written. -/
theorem start (hS : S.Sound) (hdb : h₀.store.db = S.db) :
    RefreshLedger j answer records h₀ S (fun _ => .waiting) [] [] S h₀ where
  host := ⟨[], by rw [List.map_nil, List.append_nil, List.append_nil, ← hdb]⟩
  asked_nodup := List.nodup_nil
  asked_mem := fun _ h => nomatch h
  asked_iff := fun _ _ => ⟨nofun, fun h => absurd rfl h⟩
  sound := hS
  uploads := by
    conv => lhs; rw [← List.map_id S.uploads]
    exact List.map_congr_left fun _ _ => (if_neg List.not_mem_nil).symm
  written_nodup := List.nodup_nil
  written_mem := fun _ h => nomatch h
  written_iff := fun _ _ => ⟨(fun h => nomatch h), fun h => by cases h⟩
  roomP := by omega
  fits := fun _ _ => trivial

/-- A record asks the tool: its question is recorded, and its reconciliation holds the report. -/
theorem ask (hl : RefreshLedger j answer records h₀ S stage asked written S' h)
    (hids : (records.map (·.id)).Nodup) (hx : x ∈ records) (hst : stage x.id = .waiting) :
    RefreshLedger j answer records h₀ S
      (Function.update stage x.id (.reported (reportFor answer x.nodeName))) (asked ++ [x]) written
      S' (h.called (j.manager.recordCall x)) where
  host := by
    obtain ⟨ds, rfl⟩ := hl.host
    refine ⟨ds, ?_⟩
    rw [List.map_append, List.map_singleton, ← List.append_assoc]
    rfl
  asked_nodup := List.nodup_append.2 ⟨hl.asked_nodup, List.nodup_singleton x, fun a ha b hb hab => by
    rw [List.mem_singleton.1 hb] at hab
    exact ((hl.asked_iff x hx).1 (hab ▸ ha)) hst⟩
  asked_mem := fun r hr => by
    rcases List.mem_append.1 hr with hr | hr
    · exact hl.asked_mem r hr
    · rw [List.mem_singleton.1 hr]
      exact hx
  asked_iff := forall_update_keyed
    (P := fun (r : Record) (st : RefreshStage) => r ∈ asked ++ [x] ↔ st ≠ .waiting) hids hx
    ⟨(fun _ h => by cases h), fun _ => List.mem_append_right _ (List.mem_singleton_self _)⟩
    fun r hr hne => by rw [← hl.asked_iff r hr, List.mem_append, List.mem_singleton, or_iff_left hne]
  sound := hl.sound
  uploads := hl.uploads
  written_nodup := hl.written_nodup
  written_mem := hl.written_mem
  -- a record that had not asked has written nothing
  written_iff := forall_update_keyed
    (P := fun (r : Record) (st : RefreshStage) => r.id ∈ written ↔ st.wrote = true) hids hx
    (by rw [hl.written_iff x hx, hst]; rfl) fun r hr _ => hl.written_iff r hr
  roomP := hl.roomP
  fits := forall_update_keyed
    (P := fun (r : Record) (st : RefreshStage) => st.Fits j answer r) hids hx rfl
    fun r hr _ => hl.fits r hr

/-- A record the tool reported on writes the patch of the report. Its row is still running, since
only its own reconciliation writes it, and ids remain, since each record writes once: so the
patch applies, the row is refreshed, and the outcome is the report's. -/
theorem write (hl : RefreshLedger j answer records h₀ S stage asked written S' h) (hS : S.Sound)
    (hc : h₀.cancelled = false) (hids : (records.map (·.id)).Nodup)
    (hrows : ∀ r ∈ records, ∃ o ∈ S.uploads, o.id = r.id ∧ o.nodeName = r.nodeName ∧
      o.status = .running)
    (hroom : S.nextId S.progressT + records.length ≤ maxInteger) (hx : x ∈ records) {s : Snapshot}
    (hst : stage x.id = .reported (.ok s)) :
    ∃ S'', (j.manager.patchWrite x.id s).run h =
        (.ok (j.manager.reconciled s true), { h with store := { h.store with db := S''.db } }) ∧
      RefreshLedger j answer records h₀ S
        (Function.update stage x.id
          (.noticing (j.manager.reconciled s true) (j.noticeThread x (j.manager.reconciled s true))))
        asked (written ++ [x.id]) S'' { h with store := { h.store with db := S''.db } } := by
  have hrep : reportFor answer x.nodeName = .ok s := by
    have hfits := hl.fits x hx
    rw [hst] at hfits
    exact hfits.symm
  have hs : s.WellFormed := reportOfAnswer_wellFormed hrep
  obtain ⟨o, ho, hoid, honame, horun⟩ := hrows x hx
  have hnew : x.id ∉ written := fun hw => by
    have hwrote := (hl.written_iff x hx).1 hw
    rw [hst] at hwrote
    cases hwrote
  -- the row of the record is as it was read: running
  have ho' : o ∈ S'.uploads := by
    rw [hl.uploads]
    exact List.mem_map.2 ⟨o, ho, by rw [hoid, if_neg hnew]⟩
  -- fewer patches are written than there are records
  have hfewer : written.length + 1 ≤ records.length := by
    have hsub : x.id :: written ⊆ records.map (·.id) := by
      intro i hi
      rcases List.mem_cons.1 hi with rfl | hi
      · exact List.mem_map_of_mem hx
      · obtain ⟨r, hr, rfl⟩ := hl.written_mem i hi
        exact List.mem_map_of_mem hr
    have hlen := (List.nodup_cons.2 ⟨hnew, hl.written_nodup⟩).length_le_of_subset hsub
    rw [List.length_cons, List.length_map] at hlen
    exact hlen
  have hroomP := hl.roomP
  obtain ⟨ds, hhost⟩ := hl.host
  have hclock : h.clock = h₀.clock := by rw [hhost]
  have hdb : h.store.db = S'.db := by rw [hhost]
  rcases (update_reconcilePatch hl.sound j.manager x.id hs h₀.clock).2 o ho' hoid horun with
    ⟨S'', hupd, hup⟩ | ⟨-, hfull, -⟩
  swap
  · exact absurd (by omega) (Int.not_le.2 hfull)
  have hupdate : h.store.db.updateUpload (j.manager.reconcilePatch x.id s h.clock) h.clock =
      .ok (S''.db, true) := by
    rw [hdb, hclock, Database.updateUpload_eq hl.sound, hupd]
    rfl
  have hcancel : h.cancelled = false := by rw [hhost]; exact hc
  refine ⟨S'', ?_, ?_⟩
  · rw [Manager.writePatch_run, hcancel, if_neg Bool.false_ne_true, hupdate]
  have hnp := (UploadTables.update_nextIds hupd).2
  exact {
    host := ⟨ds, by rw [hhost]⟩
    asked_nodup := hl.asked_nodup
    asked_mem := hl.asked_mem
    asked_iff := forall_update_keyed
      (P := fun (r : Record) (st : RefreshStage) => r ∈ asked ↔ st ≠ .waiting) hids hx
      (by rw [hl.asked_iff x hx, hst]; exact ⟨(fun _ h => by cases h), fun _ h => by cases h⟩)
      fun r hr _ => hl.asked_iff r hr
    sound := hl.sound.update hupd
    uploads := by
      -- the patch replaces the record's row only, which was as read
      rw [hup]
      unfold UploadTables.setUpload
      dsimp only
      rw [hl.uploads, List.map_map]
      apply List.map_congr_left
      intro y hy
      dsimp only [Function.comp_apply]
      by_cases hw : y.id ∈ written
      · -- a row written before, of another record
        have hyx : y.id ≠ x.id := fun heq => hnew (heq ▸ hw)
        rw [if_pos hw, if_pos (List.mem_append_left _ hw),
          if_neg (by rw [Manager.refreshed_id, UploadRow.patch_id, hoid]; exact hyx)]
      · rw [if_neg hw]
        by_cases hyx : y.id = x.id
        · -- the record's own row
          obtain rfl : y = o := eq_of_id_eq hS.ids_sorted hy ho (hyx.trans hoid.symm)
          rw [if_pos (UploadRow.patch_id y _).symm,
            if_pos (List.mem_append_right _ (List.mem_singleton.2 hyx)), Manager.refreshed, honame,
            hrep, hoid]
        · rw [if_neg (by rw [UploadRow.patch_id, hoid]; exact hyx),
            if_neg (by simp [hw, hyx])]
    written_nodup := List.nodup_append.2 ⟨hl.written_nodup, List.nodup_singleton _,
      fun a ha b hb hab => by
        rw [List.mem_singleton.1 hb] at hab
        exact hnew (hab ▸ ha)⟩
    written_mem := fun i hi => by
      rcases List.mem_append.1 hi with hi | hi
      · exact hl.written_mem i hi
      · exact ⟨x, hx, (List.mem_singleton.1 hi).symm⟩
    written_iff := forall_update_keyed
      (P := fun (r : Record) (st : RefreshStage) => r.id ∈ written ++ [x.id] ↔ st.wrote = true) hids hx
      ⟨fun _ => rfl, fun _ => List.mem_append_right _ (List.mem_singleton_self _)⟩
      fun r hr hne => by
        have hidne : r.id ≠ x.id := fun heq => hne (List.inj_on_of_nodup_map hids hr hx heq)
        rw [List.mem_append, List.mem_singleton, or_iff_left hidne]
        exact hl.written_iff r hr
    roomP := by
      rw [List.length_append, List.length_singleton]
      omega
    fits := forall_update_keyed
      (P := fun (r : Record) (st : RefreshStage) => st.Fits j answer r) hids hx
      ⟨s, hrep, rfl, .refl _⟩ fun r hr _ => hl.fits r hr }

/-- A step of a notice only delivers, and the notice goes on. -/
theorem notice (hl : RefreshLedger j answer records h₀ S stage asked written S' h)
    (hids : (records.map (·.id)).Nodup) (hx : x ∈ records) {o : Reconciled} {e : Host → Host}
    {n : Host → Thread Unit} (hst : stage x.id = .noticing o (.step e n)) :
    RefreshLedger j answer records h₀ S (Function.update stage x.id (.noticing o (n h))) asked
      written S' (e h) := by
  have hfits := hl.fits x hx
  rw [hst] at hfits
  obtain ⟨s, hrep, ho, hreach⟩ := hfits
  -- what is left of the notice only delivers, so its step does
  have hdelivers : Delivers h (e h) := by
    cases hreach.every (j.noticeThread_delivers x o) with
    | step hkeep _ => exact hkeep h not_false
  obtain ⟨ds', hds'⟩ := hdelivers
  obtain ⟨ds, hhost⟩ := hl.host
  exact {
    host := ⟨ds ++ ds', by rw [hds', hhost, Host.notified, List.append_assoc]⟩
    asked_nodup := hl.asked_nodup
    asked_mem := hl.asked_mem
    asked_iff := forall_update_keyed
      (P := fun (r : Record) (st : RefreshStage) => r ∈ asked ↔ st ≠ .waiting) hids hx
      (by rw [hl.asked_iff x hx, hst]; exact ⟨(fun _ h => by cases h), fun _ h => by cases h⟩)
      fun r hr _ => hl.asked_iff r hr
    sound := hl.sound
    uploads := hl.uploads
    written_nodup := hl.written_nodup
    written_mem := hl.written_mem
    written_iff := forall_update_keyed
      (P := fun (r : Record) (st : RefreshStage) => r.id ∈ written ↔ st.wrote = true) hids hx
      (by rw [hl.written_iff x hx, hst]; rfl) fun r hr _ => hl.written_iff r hr
    roomP := hl.roomP
    fits := forall_update_keyed
      (P := fun (r : Record) (st : RefreshStage) => st.Fits j answer r) hids hx
      ⟨s, hrep, ho, hreach.tail rfl h⟩ fun r hr _ => hl.fits r hr }

/-- Every step of a reconciliation keeps the ledger of its group, with its record gone on to the
stage the step reaches: the question, the write, or a step of the notice. -/
theorem step (hS : S.Sound) (hc : h₀.cancelled = false)
    (htool : h₀.tool.Answers j.manager.tool answer) (hids : (records.map (·.id)).Nodup)
    (hrows : ∀ r ∈ records, ∃ o ∈ S.uploads, o.id = r.id ∧ o.nodeName = r.nodeName ∧
      o.status = .running)
    (hroom : S.nextId S.progressT + records.length ≤ maxInteger)
    (hl : RefreshLedger j answer records h₀ S stage asked written S' h) (hx : x ∈ records)
    {e : Host → Host} {n : Host → Thread (Int × Option Reconciled)}
    (hthread : j.refreshAt x (stage x.id) = .step e n) :
    ∃ st, n h = j.refreshAt x st ∧ ∃ asked' written' S'',
      RefreshLedger j answer records h₀ S (Function.update stage x.id st) asked' written' S''
        (e h) := by
  obtain ⟨ds, hhost⟩ := hl.host
  have htool' : h.tool.Answers j.manager.tool answer := by rw [hhost]; exact htool
  have hc' : h.cancelled = false := by rw [hhost]; exact hc
  cases hst : stage x.id with
  | waiting =>
    rw [hst, MonitorJob.refreshAt_waiting] at hthread
    obtain ⟨rfl, rfl⟩ := Thread.step.inj hthread
    have hask := checkStatus_answers htool' hc' x.nodeName
    refine ⟨.reported (reportFor answer x.nodeName), ?_, asked ++ [x], written, S', ?_⟩
    · dsimp only
      rw [hask]
      rfl
    · dsimp only
      rw [hask]
      exact hl.ask hids hx hst
  | reported report =>
    rw [hst] at hthread
    rcases report with err | s
    · rw [MonitorJob.refreshAt_failed] at hthread
      cases hthread
    · rw [MonitorJob.refreshAt_reported] at hthread
      obtain ⟨rfl, rfl⟩ := Thread.step.inj hthread
      obtain ⟨S'', hwrite, hl'⟩ := hl.write hS hc hids hrows hroom hx hst
      refine ⟨.noticing (j.manager.reconciled s true) (j.noticeThread x (j.manager.reconciled s true)),
        ?_, asked, written ++ [x.id], S'', ?_⟩
      · dsimp only
        rw [hwrite]
      · dsimp only
        rw [hwrite]
        exact hl'
  | noticing o rest =>
    rw [hst] at hthread
    cases rest with
    | done u => cases hthread
    | step e' n' =>
      rw [MonitorJob.refreshAt_noticing] at hthread
      obtain ⟨rfl, rfl⟩ := Thread.step.inj hthread
      exact ⟨.noticing o (n' h), rfl, asked, written, S', hl.notice hids hx hst⟩

end RefreshLedger


/-- The reconciliations of `records`, side by side on a calm host over a sound state in which each
record is of a running row, with room for a reading of each: every record asks the tool once
about its node; each row read is replaced by its refreshed form and no other row changes; the
host gains only deliveries besides; and the answers are the outcomes of the reports, in the order
the reconciliations finished. -/
theorem MonitorJob.reconciliation_sideBySide {j : MonitorJob}
    {answer : List String → Except CommandError Output} {records : List Record}
    {S : UploadTables} {h : Host} (hS : S.Sound) (hdb : h.store.db = S.db)
    (hc : h.cancelled = false) (hdue : h.cancelDue = false)
    (htool : h.tool.Answers j.manager.tool answer) (hids : (records.map (·.id)).Nodup)
    (hrows : ∀ r ∈ records, ∃ o ∈ S.uploads, o.id = r.id ∧ o.nodeName = r.nodeName ∧
      o.status = .running)
    (hroom : S.nextId S.progressT + records.length ≤ maxInteger)
    {reconciled : List (Int × Option Reconciled)} {h' : Host}
    (hrun : SideBySide (records.map j.reconcileTaskThread) h reconciled h') :
    ∃ (asked : List Record) (S' : UploadTables) (ds : List Delivery),
      h' = { h with calls := h.calls ++ asked.map j.manager.recordCall,
                    store := { h.store with db := S'.db }, deliveries := h.deliveries ++ ds,
                    inGroup := false } ∧
      asked.Perm records ∧ S'.Sound ∧
      S'.uploads = S.uploads.map (fun o =>
        if o.id ∈ records.map (·.id) then j.manager.refreshed answer h.clock o else o) ∧
      reconciled.Perm (records.map fun r => (r.id, j.manager.outcome answer r.nodeName)) ∧
      S'.nextId S'.progressT ≤ S.nextId S.progressT + records.length := by
  obtain ⟨results, h₁, hinter, hperm, rfl⟩ := hrun
  have hnodup : records.Nodup := hids.of_map _
  have hstart : RefreshLedger j answer records { h with inGroup := true } S (fun _ => .waiting) [] []
      S { h with inGroup := true } := RefreshLedger.start hS hdb
  -- every step of a reconciliation keeps the ledger, so it holds at the end
  obtain ⟨stage, hend, asked, written, S', hl⟩ :=
    @Interleaving.staged (Int × Option Reconciled) Record Int RefreshStage _
      (·.id) records hids j.refreshAt
      (fun stage h₂ => ∃ asked written S', RefreshLedger j answer records { h with inGroup := true }
        S stage asked written S' h₂)
      (fun _ _ _ _ _ hx ⟨_, _, _, hl⟩ hthread => hl.step hS
        (show ({ h with inGroup := true } : Host).cancelled = false from hc)
        (show ({ h with inGroup := true } : Host).tool.Answers j.manager.tool answer from htool)
        hids hrows hroom hx hthread)
      (fun _ => .waiting) _ _ _ hinter ⟨[], [], S, hstart⟩
  -- at the end every reconciliation has finished, at a failed report or after its notice, and
  -- answers the outcome of its report; it has written exactly when the report came
  have hfinal : ∀ x ∈ records,
      j.refreshAt x (stage x.id) = .done (x.id, j.manager.outcome answer x.nodeName) ∧
      stage x.id ≠ .waiting ∧ (x.id ∈ written ↔ (j.manager.outcome answer x.nodeName).isSome) := by
    intro x hx
    obtain ⟨a, ha⟩ := Interleaving.done_of_finished hend hx
    have hfits := hl.fits x hx
    have hwritten := hl.written_iff x hx
    rcases MonitorJob.refreshAt_done ha with ⟨e, hst, rfl⟩ | ⟨o, u, hst, rfl⟩
    · rw [hst] at hfits hwritten
      have hout : j.manager.outcome answer x.nodeName = none := by
        rw [Manager.outcome, ← hfits]
      rw [hout]
      exact ⟨ha, (by rw [hst]; exact fun h => by cases h), by rw [hwritten]; rfl⟩
    · rw [hst] at hfits hwritten
      obtain ⟨s, hrep, rfl, -⟩ := hfits
      have hout : j.manager.outcome answer x.nodeName = some (j.manager.reconciled s true) := by
        rw [Manager.outcome, hrep]
      rw [hout]
      exact ⟨ha, (by rw [hst]; exact fun h => by cases h), by rw [hwritten]; rfl⟩
  have hresults : results = records.map fun r => (r.id, j.manager.outcome answer r.nodeName) :=
    Interleaving.results_of_finished hend fun x hx => (hfinal x hx).1
  have hwritten_sub : written ⊆ records.map (·.id) := fun i hi => by
    obtain ⟨r, hr, rfl⟩ := hl.written_mem i hi
    exact List.mem_map_of_mem hr
  obtain ⟨ds, hhost⟩ := hl.host
  refine ⟨asked, S', ds, ?_, ?_, hl.sound, ?_, ?_, ?_⟩
  · -- the group ends where its reconciliations left the host
    rw [hhost]
    refine (Host.endGroup_eq ?_ ?_).trans rfl
    · exact hc
    · exact hdue
  · exact (List.perm_ext_iff_of_nodup hl.asked_nodup hnodup).2 fun r =>
      ⟨hl.asked_mem r, fun hr => (hl.asked_iff r hr).2 (hfinal r hr).2.1⟩
  · -- a row read and not written had a failed report, so its refreshed form is itself
    rw [hl.uploads]
    refine List.map_congr_left fun o ho => ?_
    by_cases hw : o.id ∈ written
    · rw [if_pos hw, if_pos (hwritten_sub hw)]
    · rw [if_neg hw]
      split
      · next hread =>
        obtain ⟨r, hr, hrid⟩ := List.mem_map.1 hread
        obtain ⟨o', ho', ho'id, ho'name, -⟩ := hrows r hr
        obtain rfl : o' = o := eq_of_id_eq hS.ids_sorted ho' ho (ho'id.trans hrid)
        have hnone : (j.manager.outcome answer r.nodeName).isSome = false := by
          rw [← Bool.not_eq_true, ← (hfinal r hr).2.2, hrid]
          exact hw
        unfold Manager.outcome at hnone
        unfold Manager.refreshed
        rw [ho'name]
        split
        · next s hrep => rw [hrep] at hnone; cases hnone
        · rfl
      · rfl
  · rw [← hresults]
    exact hperm
  · -- each record writes at most once
    have hlen := hl.written_nodup.length_le_of_subset hwritten_sub
    rw [List.length_map] at hlen
    have := hl.roomP
    omega

end SnapshotAgent.Agent
