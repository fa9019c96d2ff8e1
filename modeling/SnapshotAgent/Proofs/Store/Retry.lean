import SnapshotAgent.Store.Retry
/-!
# What a retried operation does

`RetryPolicy.run` calls an operation until an outcome ends the run or the attempts allowed,
`max attempts 1`, are used up. Only a transient failure of the database is tried again
(`retriesOn`); success and every other failure end the run at once.

## The run

`retryFrom` is the loop. `retryFrom_of_retried` says what a stretch of retried outcomes does:
each costs one call and one wait, and the loop goes on from the next attempt. Both ways the run
can end follow from it: at the first outcome that is not retried (`retryFrom_of_first`), or with
the last allowed attempt (`retryFrom_of_all`).

## The waits

The wait after attempt `i` is `baseDelay * 2^(i-1)`, with the power saturating at the largest
32-bit number and the product at the longest duration. It is therefore exact while it fits, never
beyond what a duration can hold, and it never shrinks from one attempt to the next.

## Main statement

`run_retries_transient_failures`: with `A = max attempts 1`, the run ends at the first outcome
that is not retried when it comes among the first `A`, answering it after as many calls; when
all `A` are retried it makes `A` calls and reports the last failure as exhausted. The waits
between calls are the policy's delays in order.
-/

namespace SnapshotAgent.Store

open SnapshotAgent.Time

/-- Whether the policy tries an outcome again: only a transient failure of the database. -/
def retriesOn {α : Type} : Except StoreError α → Bool
  | .error (.database e) => e.isTransient
  | _ => false

/-- Contention is exactly a lost connection, a pool timeout, garbled data, or an engine code
whose low byte is `BUSY` or `LOCKED`. -/
theorem DbError.isTransient_iff (e : DbError) :
    e.isTransient = true ↔ e = .poolTimedOut ∨ (∃ m, e = .io m) ∨ (∃ m, e = .protocol m) ∨
      ∃ code m, e = .engine code m ∧ (code % 256 = 5 ∨ code % 256 = 6) := by
  cases e <;> simp [DbError.isTransient]

theorem retriesOn_iff {α : Type} (r : Except StoreError α) :
    retriesOn r = true ↔ ∃ e, r = .error (.database e) ∧ e.isTransient = true := by
  rcases r with (_ | _ | _ | _ | _ | _) | _ <;> simp [retriesOn]

/-! ## The loop -/

section Loop

variable {α : Type} (p : RetryPolicy) (op : Nat → Except StoreError α)

/-- The waits made after attempts `k + 1`, …, `k + j` (counted from 1). -/
def waitsAfter (k j : Nat) : List Duration :=
  (List.range j).map fun i => p.delayFor (k + i + 1)

theorem waitsAfter_succ (k j : Nat) :
    waitsAfter p k (j + 1) = p.delayFor (k + 1) :: waitsAfter p (k + 1) j := by
  simp only [waitsAfter, List.range_succ_eq_map, List.map_cons, List.map_map]
  congr 2
  funext i
  simp only [Function.comp, Nat.succ_eq_add_one]
  congr 1
  omega

/-- An outcome that is not retried ends the loop at once. -/
theorem retryFrom_stop {k : Nat} (h : retriesOn (op k) = false) (left : Nat) :
    retryFrom p op k left = ⟨op k, k + 1, []⟩ := by
  cases left with
  | zero => rfl
  | succ left =>
    simp only [retryFrom]
    split
    · simp_all
    · rename_i e he
      rw [he] at h
      simp only [retriesOn] at h
      simp [h, he]
    · simp_all

/-- A retried outcome with attempts left costs one call and one wait. -/
theorem retryFrom_retry {k left : Nat} (h : retriesOn (op k) = true) :
    retryFrom p op k (left + 1) =
      { retryFrom p op (k + 1) left with
        waits := p.delayFor (k + 1) :: (retryFrom p op (k + 1) left).waits } := by
  obtain ⟨e, he, ht⟩ := (retriesOn_iff _).1 h
  simp [retryFrom, he, ht]

/-- A stretch of `j` retried outcomes: the loop goes on from attempt `k + j` with `j` attempts
fewer, after the `j` waits. -/
theorem retryFrom_of_retried {k left j : Nat} (hj : j ≤ left)
    (hretry : ∀ i < j, retriesOn (op (k + i)) = true) :
    retryFrom p op k left =
      { retryFrom p op (k + j) (left - j) with
        waits := waitsAfter p k j ++ (retryFrom p op (k + j) (left - j)).waits } := by
  induction j generalizing k left with
  | zero => simp [waitsAfter]
  | succ j ih =>
    obtain ⟨left, rfl⟩ : ∃ l, left = l + 1 := ⟨left - 1, by omega⟩
    have hk : retriesOn (op k) = true := by simpa using hretry 0 (by omega)
    have hrest : ∀ i < j, retriesOn (op (k + 1 + i)) = true := fun i hi => by
      simpa [Nat.add_assoc, Nat.add_comm 1 i] using hretry (i + 1) (by omega)
    rw [retryFrom_retry p op hk, ih (by omega) hrest, waitsAfter_succ]
    simp only [Nat.add_assoc, Nat.add_comm 1 j, Nat.add_sub_add_right, List.cons_append]

/-- The loop ends at the first outcome that is not retried, when attempts reach it. -/
theorem retryFrom_of_first {k left j : Nat} (hj : j ≤ left)
    (hretry : ∀ i < j, retriesOn (op (k + i)) = true) (hstop : retriesOn (op (k + j)) = false) :
    retryFrom p op k left = ⟨op (k + j), k + j + 1, waitsAfter p k j⟩ := by
  rw [retryFrom_of_retried p op hj hretry, retryFrom_stop p op hstop]
  simp

/-- When every attempt is retried, the loop makes them all and keeps the last outcome. -/
theorem retryFrom_of_all {k left : Nat} (hretry : ∀ i < left, retriesOn (op (k + i)) = true) :
    retryFrom p op k left = ⟨op (k + left), k + left + 1, waitsAfter p k left⟩ := by
  rw [retryFrom_of_retried p op (Nat.le_refl left) hretry]
  simp [retryFrom]

/-- An outcome of the loop that is not retried is the outcome of the run. -/
theorem run_of_settled (h : retriesOn (retryFrom p op 0 (max p.attempts 1 - 1)).outcome = false) :
    p.run op = retryFrom p op 0 (max p.attempts 1 - 1) := by
  unfold RetryPolicy.run
  dsimp only
  split
  · rename_i e he
    rw [he] at h
    simp only [retriesOn] at h
    simp [h]
  · rfl

end Loop

/-! ## The waits -/

/-- The power saturates at the largest 32-bit number. -/
theorem pow2Saturating_eq (e : Nat) : pow2Saturating e = min (Nat.pow 2 e) 4294967295 := by
  unfold pow2Saturating
  split
  · rename_i h
    have : Nat.pow 2 e ≤ Nat.pow 2 31 := Nat.pow_le_pow_right (by decide) (by omega)
    have h31 : Nat.pow 2 31 = 2147483648 := by decide
    omega
  · rename_i h
    have : Nat.pow 2 32 ≤ Nat.pow 2 e := Nat.pow_le_pow_right (by decide) (by omega)
    have h32 : Nat.pow 2 32 = 4294967296 := by decide
    omega

theorem pow2Saturating_mono {a b : Nat} (h : a ≤ b) : pow2Saturating a ≤ pow2Saturating b := by
  rw [pow2Saturating_eq, pow2Saturating_eq]
  have : Nat.pow 2 a ≤ Nat.pow 2 b := Nat.pow_le_pow_right (by decide) h
  omega

/-- The wait after attempt `i` is the base delay times the saturated power, or the longest
duration when that does not fit. -/
theorem RetryPolicy.delayFor_totalNanos (p : RetryPolicy) (i : Nat) :
    (p.delayFor i).totalNanos =
      min (p.baseDelay.totalNanos * pow2Saturating (i - 1)) Duration.max.totalNanos :=
  Duration.saturatingMul_totalNanos _ _

/-- The waits never shrink from one attempt to a later one. -/
theorem RetryPolicy.delayFor_mono (p : RetryPolicy) {i j : Nat} (h : i ≤ j) :
    (p.delayFor i).totalNanos ≤ (p.delayFor j).totalNanos := by
  rw [p.delayFor_totalNanos, p.delayFor_totalNanos]
  have : p.baseDelay.totalNanos * pow2Saturating (i - 1) ≤
      p.baseDelay.totalNanos * pow2Saturating (j - 1) :=
    Nat.mul_le_mul_left _ (pow2Saturating_mono (by omega))
  omega

/-- The standard policy waits 100 ms, then 200 ms. -/
example : RetryPolicy.standard.delayFor 1 = Duration.ofMillis 100 ∧
    RetryPolicy.standard.delayFor 2 = Duration.ofMillis 200 := by
  decide

/-! ## The run -/

/-- The behaviour of a retried operation over every policy and every sequence of outcomes. With
`A = max attempts 1` attempts allowed: the first outcome that is not retried, when it comes among
the first `A`, is the answer, after as many calls; when the first `A` outcomes are all transient
failures, the run makes `A` calls and reports the last as exhausted. The run waits between calls
`i` and `i + 1` exactly the policy's delay for `i`, which is `baseDelay * 2^(i-1)` saturated
twice, never beyond the longest duration and never shorter than the wait before it. -/
theorem run_retries_transient_failures {α : Type} (p : RetryPolicy)
    (op : Nat → Except StoreError α) :
    (∀ j < max p.attempts 1, (∀ i < j, retriesOn (op i) = true) → retriesOn (op j) = false →
      p.run op = ⟨op j, j + 1, (List.range j).map fun i => p.delayFor (i + 1)⟩) ∧
    ((∀ i < max p.attempts 1, retriesOn (op i) = true) →
      ∃ e, op (max p.attempts 1 - 1) = .error (.database e) ∧ e.isTransient = true ∧
        p.run op = ⟨.error (.exhausted (max p.attempts 1) e), max p.attempts 1,
          (List.range (max p.attempts 1 - 1)).map fun i => p.delayFor (i + 1)⟩) ∧
    (∀ i, (p.delayFor i).totalNanos =
        min (p.baseDelay.totalNanos * min (Nat.pow 2 (i - 1)) 4294967295)
          Duration.max.totalNanos ∧
      (p.delayFor i).secs ≤ Duration.maxSecs ∧ (p.delayFor i).nanos < 1000000000) ∧
    (∀ i j, i ≤ j → (p.delayFor i).totalNanos ≤ (p.delayFor j).totalNanos) ∧
    (∀ e : DbError, e.isTransient = true ↔ e = .poolTimedOut ∨ (∃ m, e = .io m) ∨
      (∃ m, e = .protocol m) ∨ ∃ code m, e = .engine code m ∧ (code % 256 = 5 ∨ code % 256 = 6)) := by
  have hwaits : ∀ j, waitsAfter p 0 j = (List.range j).map fun i => p.delayFor (i + 1) := by
    intro j
    simp [waitsAfter]
  refine ⟨?first, ?exhausted, ?delay, fun i j h => p.delayFor_mono h, DbError.isTransient_iff⟩
  case first =>
    intro j hj hretry hstop
    have hloop := @retryFrom_of_first _ p op 0 (max p.attempts 1 - 1) j
      (by omega) (by simpa using hretry) (by simpa using hstop)
    rw [run_of_settled p op (by rw [hloop]; simpa using hstop), hloop, hwaits]
    simp
  case exhausted =>
    intro hretry
    have hloop := @retryFrom_of_all _ p op 0 (max p.attempts 1 - 1)
      (fun i hi => by simpa using hretry i (by omega))
    obtain ⟨e, he, ht⟩ := (retriesOn_iff _).1 (hretry (max p.attempts 1 - 1) (by omega))
    refine ⟨e, he, ht, ?_⟩
    unfold RetryPolicy.run
    simp only [hloop, Nat.zero_add, he, ht, if_true, hwaits]
    congr 1
    omega
  case delay =>
    intro i
    rw [p.delayFor_totalNanos, pow2Saturating_eq]
    exact ⟨rfl, Duration.saturatingMul_fits _ _⟩

end SnapshotAgent.Store
