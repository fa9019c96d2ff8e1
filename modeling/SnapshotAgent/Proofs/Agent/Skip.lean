import SnapshotAgent.Proofs.Agent.Host
/-!
# Whether a node's upload is skipped

Three sources decide whether a new upload may start on a node, consulted in a fixed order: the
store's running row, the tool's exit status, and the tool's text.

`Manager.checkStatus` reads the tool's answer to `node job <node> info upload`
(`checkStatus_of_answer`): a successful run is parsed; a non-zero exit whose output names no job,
on either stream, reads as an idle node, taking the error stream as its text when it is not
blank; every other failure fails the check. A report that the job runs therefore only ever comes
from a successful run's output (`checkStatus_isRunning`): an ambiguous failure is never read as
"not running", and an exit is never read as "running".

`Manager.shouldSkip` asks the store first (`shouldSkip_run`). A running row decides at once, and a
failed lookup fails the decision, both without a call to the tool; only when the store has no
running row for the node is the tool asked, once, and its report decides.

## Main statement

`skip_decision`: for every host and every answer of the tool, the check reads the answer as
above, and the skip decision is taken from the store alone exactly when it finds a running row.
-/

namespace SnapshotAgent.Agent

open SnapshotAgent.Upload SnapshotAgent.Tool

/-! ## Calls of the tool -/

/-- A scripted answer leaves the record of calls. -/
theorem scriptedAnswer_calls (program key : String) (r : Option Testing.Reply) (h : Host) :
    ((scriptedAnswer program key r).run h).2.calls = h.calls := by
  cases r with
  | none => rfl
  | some r =>
    cases r with
    | hang =>
      -- waiting for the deadline touches the cancellation only
      obtain ⟨store, tool, calls, deliveries, cancelled, cancelDue, inGroup, network, clock⟩ := h
      cases inGroup <;> rfl
    | _ => rfl

/-- An invocation by a caller that has not cancelled is recorded once, whatever it answers. -/
theorem invoke_calls (program : String) (args : List String) {h : Host}
    (hc : h.cancelled = false) :
    ((invoke program args).run h).2.calls = h.calls ++ [program :: args] := by
  cases ht : h.tool with
  | scripted script =>
    rw [invoke_scripted program args ht hc, scriptedAnswer_calls]
  | processes standIn limit =>
    rw [invoke_processes program args ht, hc]
    rfl

/-! ## Reading the tool's answer -/

section Check

variable {m : Manager} {node : String} {h h₁ : Host} {R : Except CommandError Output}

/-- What the check makes of the tool's answer: a successful run's output is parsed; an exit whose
output names no job on either stream is an idle node, read from the error stream unless it is
blank; any other failure fails the check. -/
def reportOfAnswer : Except CommandError Output → Except Failure Snapshot
  | .ok out => .ok (Snapshot.parse out.stdout)
  | .error (.exit program code stdout stderr) =>
    if hasSentinel stderr || hasSentinel stdout then
      .ok (Snapshot.notRunning (Text.trim (if (Text.trim stderr).isEmpty then stdout else stderr)))
    else .error (.command (.exit program code stdout stderr))
  | .error e => .error (.command e)

/-- The report is read from the tool's answer alone, and the host is the one the invocation
left. -/
theorem checkStatus_of_answer (hinv : (invoke m.tool (infoArgs node)).run h = (R, h₁)) :
    (m.checkStatus node).run h = (reportOfAnswer R, h₁) := by
  rw [checkStatus_run, hinv]
  rcases R with e | out
  · cases e with
    | exit program code stdout stderr =>
      dsimp only [reportOfAnswer]
      split <;> rfl
    | _ => rfl
  · rfl

/-- A report that the job runs comes from a successful run: it is the parse of its output. -/
theorem checkStatus_isRunning (hinv : (invoke m.tool (infoArgs node)).run h = (R, h₁))
    {s : Snapshot} {h' : Host} (hr : (m.checkStatus node).run h = (.ok s, h'))
    (hrun : s.isRunning = true) : ∃ out, R = .ok out ∧ s = Snapshot.parse out.stdout := by
  rw [checkStatus_of_answer hinv] at hr
  rcases R with e | out
  · cases e with
    | exit program code stdout stderr =>
      dsimp only [reportOfAnswer] at hr
      split at hr
      · -- an idle node's report does not run
        obtain ⟨hs, -⟩ := Prod.mk.inj hr
        rw [← Except.ok.inj hs] at hrun
        cases hrun
      · cases hr
    | _ => cases hr
  · obtain ⟨hs, -⟩ := Prod.mk.inj hr
    exact ⟨out, rfl, (Except.ok.inj hs).symm⟩

/-- The check calls the tool once: a caller that has not cancelled finds the call on the record. -/
theorem checkStatus_calls (hc : h.cancelled = false) :
    ((m.checkStatus node).run h).2.calls = h.calls ++ [m.tool :: infoArgs node] := by
  have hcalls := invoke_calls m.tool (infoArgs node) hc
  rcases hinv : (invoke m.tool (infoArgs node)).run h with ⟨R, h₁⟩
  rw [checkStatus_of_answer hinv]
  rw [hinv] at hcalls
  exact hcalls

end Check

/-! ## The skip decision -/

/-- The decision asks the store first; only when it has no running row for the node is the tool
asked, and the report decides. -/
theorem shouldSkip_run (m : Manager) (node : String) (h : Host) :
    (m.shouldSkip node).run h =
      if h.cancelled then (.error .cancelled, h)
      else match h.store.runningFor node with
        | .ok (some _) => (.ok true, h)
        | .error e => (.error (.store e), h)
        | .ok none =>
          match (m.checkStatus node).run h with
          | (.ok s, h₁) => (.ok s.isRunning, h₁)
          | (.error e, h₁) => (.error e, h₁) := by
  unfold Manager.shouldSkip
  rw [run_bind, readStore_run]
  cases h.cancelled
  · rw [if_neg Bool.false_ne_true, if_neg Bool.false_ne_true]
    rcases h.store.runningFor node with e | (_ | r)
    · rfl
    · -- no running row: the tool is asked
      simp only [Option.isSome_none, Bool.false_eq_true, if_false]
      rw [run_bind]
      rcases (m.checkStatus node).run h with ⟨_ | s, h₁⟩ <;> rfl
    · rfl
  · rfl

/-- The decision touches neither the store nor the deliveries, and calls the tool at most once,
for the report. -/
theorem shouldSkip_frame (m : Manager) (node : String) (h : Host) :
    h.Beside ((m.shouldSkip node).run h).2 ∧
      (((m.shouldSkip node).run h).2.calls = h.calls ∨
        ((m.shouldSkip node).run h).2.calls = h.calls ++ [m.tool :: infoArgs node]) := by
  rw [shouldSkip_run]
  cases hc : h.cancelled
  · rw [if_neg Bool.false_ne_true]
    rcases h.store.runningFor node with e | (_ | r)
    · exact ⟨.refl h, .inl rfl⟩
    · -- no running row: the report's invocation is the only call
      dsimp only
      have hb := checkStatus_beside m node h
      have hcalls : ((m.checkStatus node).run h).2.calls = h.calls ++ [m.tool :: infoArgs node] :=
        checkStatus_calls hc
      rcases hres : (m.checkStatus node).run h with ⟨_ | s, h₁⟩ <;> rw [hres] at hb hcalls <;>
        exact ⟨hb, .inr hcalls⟩
    · exact ⟨.refl h, .inl rfl⟩
  · rw [if_pos rfl]
    exact ⟨.refl h, .inl rfl⟩

/-- A decision not to skip comes from a report: the caller had not cancelled, still has not, and
the tool was asked once. -/
theorem shouldSkip_false {m : Manager} {node : String} {h h₁ : Host}
    (hr : (m.shouldSkip node).run h = (.ok false, h₁)) :
    h.cancelled = false ∧ h₁.cancelled = false ∧
      h₁.calls = h.calls ++ [m.tool :: infoArgs node] := by
  rw [shouldSkip_run] at hr
  cases hc : h.cancelled <;> rw [hc] at hr
  · rw [if_neg Bool.false_ne_true] at hr
    rcases hl : h.store.runningFor node with e | (_ | r) <;> rw [hl] at hr
    · cases hr
    · dsimp only at hr
      rcases hres : (m.checkStatus node).run h with ⟨_ | s, h₂⟩ <;> rw [hres] at hr
      · cases hr
      · obtain ⟨-, rfl⟩ := Prod.mk.inj hr
        obtain ⟨-, hc₂, hcalls⟩ := checkStatus_ok hres
        exact ⟨rfl, hc₂, hcalls⟩
    · cases hr
  · rw [if_pos rfl] at hr
    cases hr

/-- The skip decision of node `node` on every host, for every answer `R` of the tool to
`node job <node> info upload`. The check parses a successful run's output; reads an exit whose
output names no job, on either stream, as an idle node with the trimmed error stream, or the
output when the error stream is blank; and fails on every other answer. So a running job is only
ever reported from a successful run's output. The decision is `true` with the host untouched
exactly when the store, asked first, has a running row for the node; a failed lookup fails the
decision without a call to the tool. Otherwise the tool is called exactly once, and the decision
is the report's running flag, or the check's failure. -/
theorem skip_decision (m : Manager) (node : String) (h : Host) {R : Except CommandError Output}
    {h₁ : Host} (hinv : (invoke m.tool (infoArgs node)).run h = (R, h₁)) :
    (∀ out, R = .ok out → (m.checkStatus node).run h = (.ok (Snapshot.parse out.stdout), h₁)) ∧
    (∀ program code stdout stderr, R = .error (.exit program code stdout stderr) →
      (hasSentinel stderr || hasSentinel stdout) = true →
      (m.checkStatus node).run h =
        (.ok (Snapshot.notRunning (Text.trim
          (if (Text.trim stderr).isEmpty then stdout else stderr))), h₁)) ∧
    (∀ e, R = .error e →
      (∀ program code stdout stderr, e = .exit program code stdout stderr →
        (hasSentinel stderr || hasSentinel stdout) = false) →
      (m.checkStatus node).run h = (.error (.command e), h₁)) ∧
    (∀ s h', (m.checkStatus node).run h = (.ok s, h') → s.isRunning = true →
      ∃ out, R = .ok out ∧ s = Snapshot.parse out.stdout) ∧
    ((m.shouldSkip node).run h = (.ok true, h) ↔
      h.cancelled = false ∧ ∃ r, h.store.runningFor node = .ok (some r)) ∧
    (h.cancelled = true → (m.shouldSkip node).run h = (.error .cancelled, h)) ∧
    (∀ e, h.cancelled = false → h.store.runningFor node = .error e →
      (m.shouldSkip node).run h = (.error (.store e), h)) ∧
    (h.cancelled = false → h.store.runningFor node = .ok none →
      ((m.checkStatus node).run h).2.calls = h.calls ++ [m.tool :: infoArgs node] ∧
      (m.shouldSkip node).run h =
        match (m.checkStatus node).run h with
        | (.ok s, h₁) => (.ok s.isRunning, h₁)
        | (.error e, h₁) => (.error e, h₁)) := by
  have hcheck := checkStatus_of_answer hinv
  refine ⟨fun out hR => ?_, fun program code stdout stderr hR hs => ?_, fun e hR hns => ?_,
    fun s h' hr hrun => checkStatus_isRunning hinv hr hrun,
    ⟨fun hskip => ?_, fun ⟨hc, r, hr⟩ => ?_⟩, fun hc => ?_, fun e hc he => ?_,
    fun hc hnone => ⟨?_, ?_⟩⟩
  · rw [hcheck, hR]
    rfl
  · rw [hcheck, hR]
    simp only [reportOfAnswer, hs, if_true]
  · -- an answer that names no idle node fails the check with the tool's error
    rw [hcheck, hR]
    cases e with
    | exit program code stdout stderr =>
      simp only [reportOfAnswer, hns program code stdout stderr rfl, Bool.false_eq_true, if_false]
    | _ => rfl
  · -- a decision that left the host as it was cannot have called the tool
    rw [shouldSkip_run] at hskip
    cases hc : h.cancelled
    · refine ⟨rfl, ?_⟩
      rw [hc, if_neg Bool.false_ne_true] at hskip
      rcases hl : h.store.runningFor node with e | (_ | r)
      · rw [hl] at hskip
        cases hskip
      · rw [hl] at hskip
        dsimp only at hskip
        -- the tool was asked, and its call is on the record
        have hcalls : ((m.checkStatus node).run h).2.calls = h.calls ++ [m.tool :: infoArgs node] :=
          checkStatus_calls hc
        rcases hres : (m.checkStatus node).run h with ⟨_ | s, h₁⟩ <;>
          rw [hres] at hskip hcalls <;> obtain ⟨hans, rfl⟩ := Prod.mk.inj hskip
        · cases hans
        · simp at hcalls
      · exact ⟨r, rfl⟩
    · rw [hc, if_pos rfl] at hskip
      cases hskip
  · rw [shouldSkip_run, hc, if_neg Bool.false_ne_true, hr]
  · rw [shouldSkip_run, hc, if_pos rfl]
  · rw [shouldSkip_run, hc, if_neg Bool.false_ne_true, he]
  · exact checkStatus_calls hc
  · rw [shouldSkip_run, hc, if_neg Bool.false_ne_true, hnone]
    rfl

/-- The decision on a new store, with a tool that has no answer scripted: the store has no running
row, so the tool is asked, and its failure fails the check. -/
theorem skip_decision_on_new_store :
    let h₀ : Host := { store := { db := Store.Database.freshUploads }, tool := .scripted {},
                       clock := ⟨0, 0, 0⟩ }
    let m₀ : Manager := { tool := "bv" }
    ∃ R h₁, (invoke m₀.tool (infoArgs "n")).run h₀ = (R, h₁) ∧
      (∀ out, R = .ok out → (m₀.checkStatus "n").run h₀ = (.ok (Snapshot.parse out.stdout), h₁)) ∧
      (∀ program code stdout stderr, R = .error (.exit program code stdout stderr) →
        (hasSentinel stderr || hasSentinel stdout) = true →
        (m₀.checkStatus "n").run h₀ =
          (.ok (Snapshot.notRunning (Text.trim
            (if (Text.trim stderr).isEmpty then stdout else stderr))), h₁)) ∧
      (∀ e, R = .error e →
        (∀ program code stdout stderr, e = .exit program code stdout stderr →
          (hasSentinel stderr || hasSentinel stdout) = false) →
        (m₀.checkStatus "n").run h₀ = (.error (.command e), h₁)) ∧
      (∀ s h', (m₀.checkStatus "n").run h₀ = (.ok s, h') → s.isRunning = true →
        ∃ out, R = .ok out ∧ s = Snapshot.parse out.stdout) ∧
      ((m₀.shouldSkip "n").run h₀ = (.ok true, h₀) ↔
        h₀.cancelled = false ∧ ∃ r, h₀.store.runningFor "n" = .ok (some r)) ∧
      (h₀.cancelled = true → (m₀.shouldSkip "n").run h₀ = (.error .cancelled, h₀)) ∧
      (∀ e, h₀.cancelled = false → h₀.store.runningFor "n" = .error e →
        (m₀.shouldSkip "n").run h₀ = (.error (.store e), h₀)) ∧
      (h₀.cancelled = false → h₀.store.runningFor "n" = .ok none →
        ((m₀.checkStatus "n").run h₀).2.calls = h₀.calls ++ [m₀.tool :: infoArgs "n"] ∧
        (m₀.shouldSkip "n").run h₀ =
          match (m₀.checkStatus "n").run h₀ with
          | (.ok s, h₁) => (.ok s.isRunning, h₁)
          | (.error e, h₁) => (.error e, h₁)) := by
  intro h₀ m₀
  exact ⟨_, _, rfl, skip_decision m₀ "n" h₀ rfl⟩

end SnapshotAgent.Agent
