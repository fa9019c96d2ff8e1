import SnapshotAgent.Proofs.Store.Invariant
import SnapshotAgent.Proofs.Upload.Report
/-!
# Merging an accepted patch

The table checks every merged row again, because validation only sees the patch: a patch that
sets one chunk count and leaves the other to the stored row can pass validation and still give a
row with more chunks done than in all. When the patch carries both counts or neither, this cannot
happen: a patch that validation accepts keeps every running row consistent
(`UploadRow.patch_consistent`), and applying it to a sound state has only two outcomes besides
exhausted history ids, no running row or the merge (`UploadTables.update_accepted`).

The tool's reports give such patches: a well-formed snapshot carries both counts or neither.
`report_patches_keep_constraints` gathers what every report guarantees: the snapshot's own laws,
and that both patches built from it pass validation and keep every running row consistent.
-/

namespace SnapshotAgent.Store

open SnapshotAgent.Upload SnapshotAgent.Time

section PatchParts

variable {r : UploadRow} {p : Patch}

/-- A status comes with a completion time, and without either a running row stays running: the
merge keeps the completion time in step with the status. -/
theorem UploadRow.patch_completion (hnone : r.completedAt = none) (hrun : r.status = .running)
    (hnr : p.status ≠ some .running) (hsc : p.status.isSome = p.completedAt.isSome) :
    ((r.patch p).completedAt = none ↔ (r.patch p).status = .running) := by
  simp only [UploadRow.patch]
  cases hs : p.status with
  | none =>
    have hc : p.completedAt = none := by
      rw [hs] at hsc
      simpa using hsc.symm
    simp [hc, hnone, hrun]
  | some st =>
    obtain ⟨t, hc⟩ := Option.isSome_iff_exists.1 (hs ▸ hsc).symm
    have hst : st ≠ .running := fun h => hnr (hs.trans (congrArg some h))
    simp [hc, hst]

/-- A percentage is no `NaN`, so the merge keeps it, and the table's range lets it through. -/
theorem UploadRow.patch_percent
    (hrp : ∀ x, r.progressPercent = some x →
      (storedReal x).compare (.integer 0) ≠ .lt ∧ (storedReal x).compare (.integer 100) ≠ .gt)
    (hpct : ∀ x, p.progressPercent = some x → isPercent x = true) :
    ∀ x, (r.patch p).progressPercent = some x →
      (storedReal x).compare (.integer 0) ≠ .lt ∧ (storedReal x).compare (.integer 100) ≠ .gt := by
  intro x hx
  simp only [UploadRow.patch] at hx
  cases hpp : p.progressPercent with
  | none =>
    rw [hpp] at hx
    exact hrp x hx
  | some y =>
    have hy := hpct y hpp
    have hnan : y.isNaN = false := by
      unfold isPercent at hy
      simp only [Bool.and_eq_true, Bool.not_eq_true'] at hy
      exact hy.1.1.1
    rw [hpp] at hx
    simp only [storablePercent, hnan, Bool.false_eq_true, if_false, Option.some_or,
      Option.some.injEq] at hx
    subst hx
    simpa [percentAllowed] using percentAllowed_of_isPercent hy

/-- A patch that names both chunk counts brings them in order, and one that names neither keeps
the row's. -/
theorem UploadRow.patch_chunks
    (hrc : ∀ c t, r.chunksCompleted = some c → r.chunksTotal = some t → c ≤ t)
    (hord : ∀ c t, p.chunksCompleted = some c → p.chunksTotal = some t → c ≤ t)
    (hpair : p.chunksCompleted.isSome = p.chunksTotal.isSome) :
    ∀ c t, (r.patch p).chunksCompleted = some c → (r.patch p).chunksTotal = some t → c ≤ t := by
  intro c t hc ht
  simp only [UploadRow.patch] at hc ht
  cases hpc : p.chunksCompleted with
  | none =>
    have hpt : p.chunksTotal = none := by
      rw [hpc] at hpair
      simpa using hpair.symm
    rw [hpc] at hc
    rw [hpt] at ht
    exact hrc c t hc ht
  | some c' =>
    obtain ⟨t', hpt⟩ := Option.isSome_iff_exists.1 (hpc ▸ hpair).symm
    rw [hpc, Option.some_or, Option.some.injEq] at hc
    rw [hpt, Option.some_or, Option.some.injEq] at ht
    subst hc ht
    exact hord c' t' hpc hpt

end PatchParts

/-- A merge keeps a running row consistent when the patch is accepted and names both chunk counts
or neither. -/
theorem UploadRow.patch_consistent {r : UploadRow} (hr : r.consistent = true)
    (hrun : r.status = .running) {p : Patch} (hp : p.refusal = none)
    (hpair : p.chunksCompleted.isSome = p.chunksTotal.isSome) : (r.patch p).consistent = true := by
  obtain ⟨⟨hnr, hsc⟩, hpct, hord⟩ := (Patch.refusal_eq_none_iff p).1 hp
  obtain ⟨hcomp, hrp, hrc⟩ := (UploadRow.consistent_iff r).1 hr
  rw [UploadRow.consistent_iff]
  exact ⟨UploadRow.patch_completion (hcomp.2 hrun) hrun hnr hsc, UploadRow.patch_percent hrp hpct,
    UploadRow.patch_chunks hrc hord hpair⟩

namespace UploadTables

variable {s : UploadTables}

/-- A patch finds no target exactly when no running row has its id. -/
theorem target_eq_none_iff {p : Patch} :
    s.target p = none ↔ ¬∃ r ∈ s.uploads, r.id = p.id ∧ r.status = .running := by
  rw [target, List.find?_eq_none]
  constructor
  · rintro h ⟨r, hr, hid, hrun⟩
    exact h r hr (by simp [hid, hrun])
  · intro h o ho hq
    simp only [Bool.and_eq_true, beq_iff_eq] at hq
    exact h ⟨o, ho, hq⟩

/-- In a sound state, the running row with a patch's id is the patch's target. -/
theorem target_eq_some (hs : s.Sound) {p : Patch} {r : UploadRow} (hr : r ∈ s.uploads)
    (hid : r.id = p.id) (hrun : r.status = .running) : s.target p = some r := by
  cases ht : s.target p with
  | none => exact absurd ⟨r, hr, hid, hrun⟩ (target_eq_none_iff.1 ht)
  | some x =>
    obtain ⟨hx, hxid, -⟩ := target_spec ht
    rw [eq_of_id_eq hs.ids_sorted hx hr (hxid.trans hid.symm)]

/-- Applying an accepted patch that names both chunk counts or neither: no running row of its id
changes nothing; otherwise the merge replaces the row, and a patch carrying progress appends a
reading. -/
theorem update_accepted (hs : s.Sound) {p : Patch} (hp : p.refusal = none)
    (hpair : p.chunksCompleted.isSome = p.chunksTotal.isSome) (now : Instant) :
    s.update p now =
      match s.target p with
      | none => .ok (s, false)
      | some r =>
        if p.hasProgress then
          (·, true) <$> (s.setUpload (r.patch p)).appendReading p.id
            ((p.lastProgressCheck.orElse fun _ => p.completedAt).getD now) p.progressPercent
            p.chunksCompleted p.chunksTotal
        else .ok (s.setUpload (r.patch p), true) := by
  unfold update
  rw [hp]
  cases ht : s.target p with
  | none => rfl
  | some r =>
    obtain ⟨hmem, -, hrun⟩ := target_spec ht
    have hk := (UploadRow.brokenCheck_eq_none _).2
      (UploadRow.patch_consistent (hs.consistent r hmem) hrun hp hpair)
    simp only [hk]

end UploadTables

/-! ## The patches of a report -/

section Report

open SnapshotAgent.Text

theorem completionMessage_eq (s : Snapshot) : s.completionMessage = s.statusLine := rfl

/-- A percentage is a finite double between 0 and 100. -/
theorem isPercent_iff (x : Float) :
    isPercent x = true ↔ x.isNaN = false ∧ x.isInf = false ∧ 0.0 ≤ x ∧ x ≤ 100.0 := by
  unfold isPercent
  simp only [Bool.and_eq_true, Bool.not_eq_true', decide_eq_true_eq, and_assoc]

/-- What every report of the tool reads as, whatever its text: the snapshot keeps the trimmed
text, knows both chunk counts or neither, with `0 ≤ done ≤ total`, holds a percentage only when it
is finite and between 0 and 100, and records its status line as its completion message. The
patches built from it, refreshing the progress or finishing with any status but running, pass
validation, and merged into any running row that keeps the table's constraints they give a row
that keeps them too. -/
theorem report_patches_keep_constraints (output : String) :
    (Snapshot.parse output).rawOutput = trim output ∧
    (Snapshot.parse output).chunksCompleted.isSome = (Snapshot.parse output).chunksTotal.isSome ∧
    (∀ c t, (Snapshot.parse output).chunksCompleted = some c →
      (Snapshot.parse output).chunksTotal = some t → 0 ≤ c ∧ c ≤ t) ∧
    (∀ x, (Snapshot.parse output).progressPercent = some x →
      x.isNaN = false ∧ x.isInf = false ∧ 0.0 ≤ x ∧ x ≤ 100.0) ∧
    (Snapshot.parse output).completionMessage = (Snapshot.parse output).statusLine ∧
    ∀ (id : Int) (t : Instant) (st : Status), st ≠ .running →
      (Patch.progress id (Snapshot.parse output) t).refusal = none ∧
      (Patch.finish id st t (Snapshot.parse output)).refusal = none ∧
      ∀ r : UploadRow, r.consistent = true → r.status = .running →
        (r.patch (Patch.progress id (Snapshot.parse output) t)).consistent = true ∧
        (r.patch (Patch.finish id st t (Snapshot.parse output))).consistent = true := by
  have hw := Snapshot.wellFormed_parse output
  have hraw := Snapshot.rawOutput_parse output
  have hnonneg := Snapshot.chunksCompleted_parse_nonneg output
  -- from here on the snapshot is any one with these laws; unfolding the parse is never needed
  generalize Snapshot.parse output = s at hw hraw hnonneg ⊢
  refine ⟨hraw, hw.paired, ?_, ?_, completionMessage_eq s, ?_⟩
  · intro c t hc ht
    exact ⟨hnonneg c hc, hw.ordered c t hc ht⟩
  · intro x hx
    exact (isPercent_iff x).1 (hw.percent x hx)
  intro id t st hst
  have hprog := Patch.refusal_progress hw id t
  have hfin := Patch.refusal_finish hw id hst t
  -- both patches carry the snapshot's counts, which come as a pair
  refine ⟨hprog, hfin, fun r hr hrun => ⟨?_, ?_⟩⟩
  · exact UploadRow.patch_consistent hr hrun hprog hw.paired
  · exact UploadRow.patch_consistent hr hrun hfin hw.paired

/-- The finished report of the tool's usual form, finishing a running row as completed. -/
theorem finished_report_patches :
    Status.completed ≠ .running ∧
      ((Snapshot.parse "status: Finished with exit code 0\nprogress: 100.00% (3/3 done)").rawOutput =
        trim "status: Finished with exit code 0\nprogress: 100.00% (3/3 done)" ∧
      (Patch.finish 7 .completed ⟨0, 0, 0⟩
        (Snapshot.parse "status: Finished with exit code 0\nprogress: 100.00% (3/3 done)")).refusal =
        none) :=
  ⟨by decide,
    (report_patches_keep_constraints _).1,
    (((report_patches_keep_constraints _).2.2.2.2.2 7 ⟨0, 0, 0⟩ .completed (by decide)).2.1)⟩

end Report

end SnapshotAgent.Store
