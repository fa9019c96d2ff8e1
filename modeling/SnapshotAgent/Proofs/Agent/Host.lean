import SnapshotAgent.Proofs.Upload.Report
import SnapshotAgent.Agent.Jobs
/-!
# The host's primitives, one equation each

An agent operation is a state function of the `Host`. Each primitive gets one lemma saying what it
answers and what host it leaves, so the operations' statements are chains of these equations and
never unfold a primitive again.

The tool's invocation touches only the record of calls, the script and the cancellation: the
store, the deliveries, the network, the clock and the grouping are as they were (`Host.Beside`). An invocation
that succeeds was made by a caller that had not cancelled, is recorded, and leaves the caller not
cancelled (`invoke_ok`). The report of the node's upload job is a well-formed snapshot
(`Manager.checkStatus_ok`).
-/

namespace SnapshotAgent.Agent

open SnapshotAgent.Upload SnapshotAgent.Tool

/-- Two hosts that differ at most in what the tool's invocations touch: the calls, the script
and the cancellation. -/
structure Host.Beside (h h' : Host) : Prop where
  store : h'.store = h.store
  deliveries : h'.deliveries = h.deliveries
  network : h'.network = h.network
  clock : h'.clock = h.clock
  inGroup : h'.inGroup = h.inGroup

theorem Host.Beside.refl (h : Host) : h.Beside h := ⟨rfl, rfl, rfl, rfl, rfl⟩

theorem Host.Beside.trans {h h₁ h₂ : Host} (h₁₂ : h.Beside h₁) (h₂₃ : h₁.Beside h₂) :
    h.Beside h₂ :=
  ⟨h₂₃.store.trans h₁₂.store, h₂₃.deliveries.trans h₁₂.deliveries, h₂₃.network.trans h₁₂.network,
    h₂₃.clock.trans h₁₂.clock, h₂₃.inGroup.trans h₁₂.inGroup⟩

/-! ## Sequencing -/

/-- A step that fails ends the operation with the host it left; otherwise the rest runs on it. -/
theorem run_bind {α β : Type} (x : Run α) (f : α → Run β) (h : Host) :
    (x >>= f).run h =
      match x.run h with
      | (.ok a, h₁) => (f a).run h₁
      | (.error e, h₁) => (.error e, h₁) := by
  show StateT.run (ExceptT.run (x >>= f)) h = match StateT.run (ExceptT.run x) h with
      | (.ok a, h₁) => (f a).run h₁
      | (.error e, h₁) => (.error e, h₁)
  rw [ExceptT.run_bind, StateT.run_bind]
  rcases StateT.run (ExceptT.run x) h with ⟨_ | a, h₁⟩ <;> rfl

/-- A step that cannot fail, inside an operation that can. -/
theorem run_liftM {α : Type} (x : HostM α) (h : Host) :
    (liftM x : Run α).run h = (.ok (x.run h).1, (x.run h).2) := rfl

theorem run_pure {α : Type} (a : α) (h : Host) : (pure a : Run α).run h = (.ok a, h) := rfl

theorem run_map {α β : Type} (f : α → β) (x : Run α) (h : Host) :
    (f <$> x).run h =
      match x.run h with
      | (.ok a, h₁) => (.ok (f a), h₁)
      | (.error e, h₁) => (.error e, h₁) := by
  rw [map_eq_pure_bind, run_bind]
  rcases x.run h with ⟨_ | a, h₁⟩ <;> rfl

/-- A handler runs on the failure of its step, from the host the step left. -/
theorem run_tryCatch {α : Type} (x : Run α) (handle : Failure → Run α) (h : Host) :
    (tryCatch x handle).run h =
      match x.run h with
      | (.ok a, h₁) => (.ok a, h₁)
      | (.error e, h₁) => (handle e).run h₁ := by
  show StateT.run (ExceptT.run (tryCatch x handle)) h =
    match StateT.run (ExceptT.run x) h with
    | (.ok a, h₁) => (.ok a, h₁)
    | (.error e, h₁) => (handle e).run h₁
  rw [ExceptT.run_tryCatch, StateT.run_bind]
  rcases StateT.run (ExceptT.run x) h with ⟨_ | a, h₁⟩ <;> rfl

/-! ## Reading the clock and the store -/

theorem now_run (h : Host) : now.run h = (h.clock, h) := rfl

theorem writeStore_run {α : Type} (f : Store.Database → Except Store.StoreError (Store.Database × α))
    (h : Host) :
    (writeStore f).run h =
      if h.cancelled then (.error .cancelled, h)
      else match f h.store.db with
        | .ok (db, a) => (.ok a, { h with store := { h.store with db } })
        | .error e => (.error (.store e), h) := by
  obtain ⟨store, tool, calls, deliveries, cancelled, cancelDue, inGroup, network, clock⟩ := h
  cases cancelled
  · -- the write's answer decides the rest, once the state is read
    have hrun : (writeStore f).run ⟨store, tool, calls, deliveries, false, cancelDue, inGroup, network, clock⟩ =
        (match f store.db with
          | .ok (db, a) => ((fun _ => a) <$> (set (⟨{ store with db }, tool, calls, deliveries,
              false, cancelDue, inGroup, network, clock⟩ : Host) : Run Unit))
          | .error e => (throw (Failure.store e) : Run α)).run
            ⟨store, tool, calls, deliveries, false, cancelDue, inGroup, network, clock⟩ := rfl
    rw [hrun, if_neg Bool.false_ne_true]
    cases f store.db with
    | ok r => rfl
    | error e => rfl
  · rfl

theorem readStore_run {α : Type} (f : Store.UploadStore → Except Store.StoreError α) (h : Host) :
    (readStore f).run h =
      if h.cancelled then (.error .cancelled, h)
      else match f h.store with
        | .ok a => (.ok a, h)
        | .error e => (.error (.store e), h) := by
  obtain ⟨store, tool, calls, deliveries, cancelled, cancelDue, inGroup, network, clock⟩ := h
  cases cancelled
  · have hrun : (readStore f).run ⟨store, tool, calls, deliveries, false, cancelDue, inGroup, network, clock⟩ =
        (match f store with
          | .ok a => (pure a : Run α)
          | .error e => (throw (Failure.store e) : Run α)).run
            ⟨store, tool, calls, deliveries, false, cancelDue, inGroup, network, clock⟩ := rfl
    rw [hrun, if_neg Bool.false_ne_true]
    cases f store with
    | ok a => rfl
    | error e => rfl
  · rfl

/-! ## Invoking the tool -/

theorem awaitCancellation_beside (h : Host) : h.Beside (awaitCancellation.run h).2 := by
  obtain ⟨store, tool, calls, deliveries, cancelled, cancelDue, inGroup, network, clock⟩ := h
  cases inGroup <;> exact ⟨rfl, rfl, rfl, rfl, rfl⟩

theorem scriptedAnswer_beside (program key : String) (r : Option Testing.Reply) (h : Host) :
    h.Beside ((scriptedAnswer program key r).run h).2 := by
  cases r with
  | none => exact .refl h
  | some r =>
    cases r with
    | hang => exact awaitCancellation_beside h
    | _ => exact .refl h

/-- A scripted answer that succeeds is the script's output, and changes nothing. -/
theorem scriptedAnswer_ok {program key : String} {r : Option Testing.Reply} {h h' : Host}
    {out : Output} (hr : (scriptedAnswer program key r).run h = (.ok out, h')) :
    r = some (.stdout out.stdout) ∧ out.stderr = "" ∧ h' = h := by
  rcases r with _ | ⟨text⟩ | ⟨code, o, e⟩ | _ | _ | ⟨limit⟩ <;> cases hr
  exact ⟨rfl, rfl, rfl⟩

/-- A scripted invocation by a caller that has not cancelled is recorded, takes the key's reply
from the script, and answers it. -/
theorem invoke_scripted (program : String) (args : List String) {h : Host}
    {script : Testing.Script} (ht : h.tool = .scripted script) (hc : h.cancelled = false) :
    (invoke program args).run h =
      (scriptedAnswer program (" ".intercalate args) (script.take (" ".intercalate args)).1).run
        { h with calls := h.calls ++ [program :: args],
                 tool := .scripted (script.take (" ".intercalate args)).2 } := by
  obtain ⟨store, tool, calls, deliveries, cancelled, cancelDue, inGroup, network, clock⟩ := h
  simp only at ht hc
  subst ht hc
  rfl

/-- An invocation of a child process answers what the process gives; it is recorded unless the
caller has cancelled. -/
theorem invoke_processes (program : String) (args : List String) {h : Host}
    {standIn : Option String} {limit : Option Time.Duration} (ht : h.tool = .processes standIn limit) :
    (invoke program args).run h =
      (Tool.runCommand standIn h.cancelled limit program args,
        if h.cancelled then h else { h with calls := h.calls ++ [program :: args] }) := by
  obtain ⟨store, tool, calls, deliveries, cancelled, cancelDue, inGroup, network, clock⟩ := h
  simp only at ht
  subst ht
  cases cancelled <;> rfl

/-- An invocation changes nothing but the calls, the script and the cancellation. -/
theorem invoke_beside (program : String) (args : List String) (h : Host) :
    h.Beside ((invoke program args).run h).2 := by
  cases ht : h.tool with
  | scripted script =>
    cases hc : h.cancelled
    · rw [invoke_scripted program args ht hc]
      refine Host.Beside.trans ?_ (scriptedAnswer_beside _ _ _ _)
      exact ⟨rfl, rfl, rfl, rfl, rfl⟩
    · obtain ⟨store, tool, calls, deliveries, cancelled, cancelDue, inGroup, network, clock⟩ := h
      simp only at ht hc
      subst ht hc
      exact ⟨rfl, rfl, rfl, rfl, rfl⟩
  | processes standIn limit =>
    rw [invoke_processes program args ht]
    cases h.cancelled <;> exact ⟨rfl, rfl, rfl, rfl, rfl⟩

/-- A scripted answer other than a cancellation changes nothing. -/
theorem scriptedAnswer_answered {program key : String} {r : Option Testing.Reply} {h h' : Host}
    {a : Except CommandError Output} (hr : (scriptedAnswer program key r).run h = (a, h'))
    (hnc : ∀ p, a ≠ .error (.cancelled p)) : h' = h := by
  rcases r with _ | ⟨text⟩ | ⟨code, o, e⟩ | _ | _ | ⟨limit⟩
  · exact (Prod.mk.inj hr).2.symm
  · exact (Prod.mk.inj hr).2.symm
  · exact (Prod.mk.inj hr).2.symm
  · exact (Prod.mk.inj hr).2.symm
  · -- waiting for the deadline ends in a cancellation
    exact absurd (Prod.mk.inj hr).1.symm (hnc program)
  · exact (Prod.mk.inj hr).2.symm

/-- An invocation that answers anything but a cancellation came from a caller that had not
cancelled: it is recorded, and the caller is still not cancelled. -/
theorem invoke_answered {program : String} {args : List String} {h h' : Host}
    {a : Except CommandError Output} (hr : (invoke program args).run h = (a, h'))
    (hnc : ∀ p, a ≠ .error (.cancelled p)) :
    h.cancelled = false ∧ h'.cancelled = false ∧ h'.calls = h.calls ++ [program :: args] := by
  cases hc : h.cancelled
  · cases ht : h.tool with
    | scripted script =>
      rw [invoke_scripted program args ht hc] at hr
      rw [scriptedAnswer_answered hr hnc]
      exact ⟨rfl, hc, rfl⟩
    | processes standIn limit =>
      rw [invoke_processes program args ht, hc] at hr
      simp only [Bool.false_eq_true, if_false] at hr
      obtain ⟨-, rfl⟩ := Prod.mk.inj hr
      exact ⟨rfl, rfl, rfl⟩
  · -- a cancelled caller's invocation answers a cancellation
    exfalso
    cases ht : h.tool with
    | scripted script =>
      obtain ⟨store, tool, calls, deliveries, cancelled, cancelDue, inGroup, network, clock⟩ := h
      simp only at ht hc
      subst ht hc
      exact hnc program (Prod.mk.inj hr).1.symm
    | processes standIn limit =>
      rw [invoke_processes program args ht, hc, Tool.runCommand_cancelled] at hr
      exact hnc program (Prod.mk.inj hr).1.symm

/-- An invocation that must succeed fails the operation with the tool's error. -/
theorem invokeOk_run (program : String) (args : List String) (h : Host) :
    (invokeOk program args).run h =
      match (invoke program args).run h with
      | (.ok out, h₁) => (.ok out, h₁)
      | (.error e, h₁) => (.error (.command e), h₁) := by
  unfold invokeOk
  rw [run_bind, run_liftM]
  rcases (invoke program args).run h with ⟨e | out, h₁⟩ <;> rfl

/-! ## The report of the node's upload job -/

section Report

variable (m : Manager) (node : String) (h : Host)

/-- Asking for the report is the invocation, then a reading of its answer. -/
theorem checkStatus_run :
    (m.checkStatus node).run h =
      (match ((invoke m.tool (infoArgs node)).run h).1 with
        | .ok out => (pure (Snapshot.parse out.stdout) : Run Snapshot)
        | .error (.exit program code stdout stderr) =>
          if hasSentinel stderr || hasSentinel stdout then
            pure (Snapshot.notRunning (Text.trim
              (if (Text.trim stderr).isEmpty then stdout else stderr)))
          else throw (Failure.command (.exit program code stdout stderr))
        | .error e => throw (Failure.command e)).run ((invoke m.tool (infoArgs node)).run h).2 := rfl

/-- Asking for the report changes nothing but what the invocation touches. -/
theorem checkStatus_beside : h.Beside ((m.checkStatus node).run h).2 := by
  rw [checkStatus_run]
  have hb := invoke_beside m.tool (infoArgs node) h
  generalize (invoke m.tool (infoArgs node)).run h = r at hb ⊢
  obtain ⟨a, h₁⟩ := r
  rcases a with ⟨e⟩ | ⟨out⟩
  · -- a failure is read without touching the host, whether it names an idle node or not
    cases e with
    | exit program code stdout stderr =>
      dsimp only
      split <;> exact hb
    | _ => exact hb
  · exact hb

variable {m node h}

/-- A report comes from an answered invocation: it is well formed, the invocation is recorded,
and the caller has not cancelled. -/
theorem checkStatus_ok {s : Snapshot} {h' : Host} (hr : (m.checkStatus node).run h = (.ok s, h')) :
    s.WellFormed ∧ h'.cancelled = false ∧ h'.calls = h.calls ++ [m.tool :: infoArgs node] := by
  rw [checkStatus_run] at hr
  cases hinv : (invoke m.tool (infoArgs node)).run h with
  | mk a h₁ =>
  rw [hinv] at hr
  have hdone := fun hnc => invoke_answered hinv hnc
  rcases a with ⟨⟩ | ⟨out⟩
  · next e =>
    cases e with
    | exit program code stdout stderr =>
      dsimp only at hr
      split at hr
      · obtain ⟨h1, rfl⟩ := Prod.mk.inj hr
        rw [← Except.ok.inj h1]
        exact ⟨Snapshot.wellFormed_notRunning _, (hdone fun _ h => by cases h).2⟩
      · cases hr
    | _ => cases hr
  · obtain ⟨h1, rfl⟩ := Prod.mk.inj hr
    -- the report is the snapshot read from the output; unifying it by `cases` would unfold it
    rw [← (Except.ok.inj h1 : Snapshot.parse out.stdout = s)]
    exact ⟨Snapshot.wellFormed_parse _, (hdone fun _ h => by cases h).2⟩

end Report

end SnapshotAgent.Agent
