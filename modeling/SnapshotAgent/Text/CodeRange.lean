/-!
# Ranges of code points

Character properties are stored as sorted lists of closed ranges of code points. A character has
the property when one range holds its code point.
-/

namespace SnapshotAgent.Text

/-- True when some closed range `(lo, hi)` of the list holds `n`. -/
def inRanges (rs : List (Nat × Nat)) (n : Nat) : Bool :=
  rs.any fun r => r.1 ≤ n && n ≤ r.2

theorem inRanges_iff (rs : List (Nat × Nat)) (n : Nat) :
    inRanges rs n = true ↔ ∃ r ∈ rs, r.1 ≤ n ∧ n ≤ r.2 := by
  simp [inRanges]

end SnapshotAgent.Text
