import Mathlib
import SnapshotAgent.Time.Instant
/-!
# The order of instants

`Instant.before` compares instants by day, then second, then nanosecond. It is a strict total
order, and `Instant.latest` picks the later of two instants.
-/

namespace SnapshotAgent.Time

theorem Instant.before_irrefl (a : Instant) : a.before a = false := by
  simp [Instant.before]

theorem Instant.before_trans {a b c : Instant} (hab : a.before b = true) (hbc : b.before c = true) :
    a.before c = true := by
  simp only [Instant.before, Bool.or_eq_true, Bool.and_eq_true, decide_eq_true_eq,
    beq_iff_eq] at *
  omega

theorem Instant.ne_of_before {a b : Instant} (h : a.before b = true) : a ≠ b := by
  rintro rfl
  rw [Instant.before_irrefl] at h
  cases h

theorem Instant.before_asymm {a b : Instant} (hab : a.before b = true) : b.before a = false := by
  simp only [Instant.before, Bool.or_eq_true, Bool.and_eq_true, decide_eq_true_eq,
    beq_iff_eq, Bool.or_eq_false_iff, Bool.and_eq_false_imp, decide_eq_false_iff_not] at *
  omega

theorem Instant.before_trichotomy (a b : Instant) :
    a.before b = true ∨ a = b ∨ b.before a = true := by
  obtain ⟨d, s, n⟩ := a
  obtain ⟨d', s', n'⟩ := b
  simp only [Instant.before, Bool.or_eq_true, Bool.and_eq_true, decide_eq_true_eq, beq_iff_eq,
    Instant.mk.injEq]
  omega

/-- An instant not after `b` is before everything `b` is before. -/
theorem Instant.before_of_not_before_of_before {a b c : Instant} (hba : b.before a = false)
    (hbc : b.before c = true) : a.before c = true := by
  rcases Instant.before_trichotomy a b with hab | rfl | hba'
  · exact Instant.before_trans hab hbc
  · exact hbc
  · rw [hba] at hba'
    cases hba'

/-- The later of two instants is before neither. -/
theorem Instant.latest_not_before (a b : Instant) :
    (a.latest b).before a = false ∧ (a.latest b).before b = false := by
  unfold Instant.latest
  split
  · rename_i hab
    exact ⟨Instant.before_asymm hab, Instant.before_irrefl b⟩
  · rename_i hab
    exact ⟨Instant.before_irrefl a, by simpa using hab⟩

theorem Instant.latest_of_before {a b : Instant} (hba : b.before a = true) : a.latest b = a := by
  simp [Instant.latest, Instant.before_asymm hba]

end SnapshotAgent.Time
