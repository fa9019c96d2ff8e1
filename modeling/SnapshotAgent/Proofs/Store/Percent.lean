import Mathlib
import SnapshotAgent.Proofs.Store.Evaluation
/-!
# The range of a percentage

The tool's percentages are checked twice. Reading a report keeps a value only when it is finite
and between `0.0` and `100.0` as doubles compare (`parsePercent`), and a patch is refused unless
its value is a percentage in that sense (`isPercent`). The table checks it a third time, in its
own way: the stored real is compared with the integers 0 and 100 exactly (`percentAllowed`,
through `Binary64.ofFloat`).

`percentAllowed_of_isPercent` proves that the table never refuses what the first two checks let
through. The doubles' comparison is Lean's own model of a double (`Float.toModel`), so the proof
first shows that `Binary64.ofFloat` takes a double apart exactly as that model does
(`ofFloat_eq_ofUnpacked`); a percentage is then `m · 2^q` with `(q, m)` lexicographically at most
`(-46, 100 · 2^46)`, the parts of `100.0`.
-/

namespace SnapshotAgent.Number

open Float.Model

/-- A value of the model of a double, as the store's decoding writes it; a zero is the finite
value with no significand. -/
def Binary64.ofUnpacked : UnpackedFloat → Binary64
  | .notANumber => .nan
  | .infinity s => .infinite (s == .negative)
  | .zero s => .finite (s == .negative) 0 (-1074)
  | .finite s m q _ => .finite (s == .negative) m q

theorem toNat_unpackMantissa (x : Float) :
    (@UnpackedFloat.unpackMantissa Format.binary64 x.toBits.toBitVec).toNat = fractionBits x := by
  simp only [UnpackedFloat.unpackMantissa, fractionBits, Nat.pow_eq]
  rfl

theorem toNat_unpackExponent (x : Float) :
    (@UnpackedFloat.unpackExponent Format.binary64 x.toBits.toBitVec).toNat = exponentBits x := by
  simp only [UnpackedFloat.unpackExponent, exponentBits, BitVec.toNat_cast, BitVec.extractLsb_toNat,
    Nat.shiftRight_eq_div_pow, Nat.pow_eq]
  rfl

theorem ofBitVec_unpackSign (x : Float) :
    (UnpackedFloat.Sign.ofBitVec (@UnpackedFloat.unpackSign Format.binary64 x.toBits.toBitVec) ==
      .negative) = signBit x := by
  have hlt : x.toBits.toNat < Nat.pow 2 64 := x.toBits.toBitVec.isLt
  have hs : (@UnpackedFloat.unpackSign Format.binary64 x.toBits.toBitVec).toNat =
      x.toBits.toNat / Nat.pow 2 63 := by
    simp only [UnpackedFloat.unpackSign, BitVec.toNat_cast, BitVec.extractLsb_toNat,
      Nat.shiftRight_eq_div_pow, UInt64.toNat_toBitVec]
    simp only [Nat.pow_eq] at hlt ⊢
    omega
  unfold UnpackedFloat.Sign.ofBitVec signBit
  by_cases h : x.toBits.toNat / Nat.pow 2 63 = 1
  · have hne : @UnpackedFloat.unpackSign Format.binary64 x.toBits.toBitVec ≠ 0#1 := by
      intro h0
      rw [h0, h] at hs
      cases hs
    rw [if_neg hne, h]
    rfl
  · -- the top bit is then zero
    have h0 : @UnpackedFloat.unpackSign Format.binary64 x.toBits.toBitVec = 0#1 := by
      apply BitVec.eq_of_toNat_eq
      rw [hs, BitVec.toNat_ofNat]
      simp only [Nat.pow_eq] at hlt h ⊢
      omega
    rw [if_pos h0, beq_false_of_ne h]
    rfl

theorem toNat_one_append (M : BitVec 52) : (1#1 ++ M).toNat = M.toNat + 2 ^ 52 := by
  rw [BitVec.toNat_append, Nat.or_comm, BitVec.toNat_ofNat, Nat.one_mod, Nat.one_shiftLeft,
    Nat.or_two_pow_eq_add_of_lt M.isLt]

/-- Taking a double apart into its sign, significand and exponent agrees with Lean's model of a
double. -/
theorem ofFloat_eq_ofUnpacked (x : Float) :
    Binary64.ofFloat x = Binary64.ofUnpacked x.toModel.unpack := by
  have hb : x.toModel.unpack = UnpackedFloat.unpack Format.binary64 x.toBits.toBitVec := rfl
  -- each test the model makes on a bit vector is a test on the field it holds
  have hones : (@UnpackedFloat.unpackExponent Format.binary64 x.toBits.toBitVec =
      -BitVec.ofNat Format.binary64.exponentBits 1) ↔ exponentBits x = 2047 := by
    rw [BitVec.toNat_eq, toNat_unpackExponent]
    rfl
  have hzero : (@UnpackedFloat.unpackExponent Format.binary64 x.toBits.toBitVec =
      BitVec.ofNat Format.binary64.exponentBits 0) ↔ exponentBits x = 0 := by
    rw [BitVec.toNat_eq, toNat_unpackExponent]
    rfl
  have hfrac : (@UnpackedFloat.unpackMantissa Format.binary64 x.toBits.toBitVec =
      BitVec.ofNat Format.binary64.mantissaBitsWithoutImplicit 0) ↔ fractionBits x = 0 := by
    rw [BitVec.toNat_eq, toNat_unpackMantissa]
    rfl
  have hbias : ((Format.binary64.exponentBias : Nat) : Int) +
      (Format.binary64.mantissaBitsWithoutImplicit : Nat) = 1075 := rfl
  rw [hb]
  unfold UnpackedFloat.unpack Binary64.ofFloat
  simp only [hones, hzero, hfrac, hbias]
  -- the same fields decide both: all ones, all zeros, or a normal exponent
  by_cases h1 : exponentBits x = 2047
  · by_cases h2 : fractionBits x = 0
    · simp only [if_pos h1, if_pos h2, Binary64.ofUnpacked, ofBitVec_unpackSign]
    · simp only [if_pos h1, if_neg h2, Binary64.ofUnpacked]
  · by_cases h3 : exponentBits x = 0
    · by_cases h2 : fractionBits x = 0
      · simp only [if_neg h1, if_pos h3, dif_pos h2, Binary64.ofUnpacked, ofBitVec_unpackSign]
        rw [h2]
      · simp only [if_neg h1, if_pos h3, dif_neg h2, Binary64.ofUnpacked, ofBitVec_unpackSign,
          toNat_unpackMantissa, toNat_unpackExponent]
        rw [h3]
        rfl
    · simp only [if_neg h1, if_neg h3, Binary64.ofUnpacked, ofBitVec_unpackSign,
        toNat_unpackMantissa, toNat_unpackExponent, toNat_one_append, Nat.pow_eq]

/-- The significand of a finite double has at most 53 bits. -/
theorem ofFloat_finite_lt {x : Float} {neg : Bool} {m : Nat} {q : Int}
    (h : Binary64.ofFloat x = .finite neg m q) : m < 2 ^ 53 := by
  unfold Binary64.ofFloat fractionBits at h
  dsimp only at h
  have hf : x.toBits.toNat % Nat.pow 2 52 < 2 ^ 52 := Nat.mod_lt _ (by decide)
  split at h
  · split at h <;> cases h
  · split at h
    · cases h
      simp only [Nat.pow_eq] at hf ⊢
      omega
    · cases h
      simp only [Nat.pow_eq] at hf ⊢
      omega

end SnapshotAgent.Number

namespace SnapshotAgent.Store

open Float.Model SnapshotAgent.Number SnapshotAgent.Upload

theorem zero_unpack : (0.0 : Float).toModel.unpack = .zero .positive := rfl

theorem hundred_unpack :
    (100.0 : Float).toModel.unpack = .finite .positive (100 * 2 ^ 46) (-46) (by decide) := rfl

theorem float_le_iff (a b : Float) : a ≤ b ↔ a.toModel.unpack.le b.toModel.unpack = true := by
  show Float.le a b = true ↔ _
  exact ⟨of_decide_eq_true, decide_eq_true⟩

/-- A percentage is finite: it is neither `NaN` nor infinite. -/
theorem isPercent_of_isFinite {x : Float}
    (h : (x.isFinite && 0.0 ≤ x && x ≤ 100.0) = true) : isPercent x = true := by
  simp only [Bool.and_eq_true] at h
  obtain ⟨⟨hfin, hlo⟩, hhi⟩ := h
  have hparts : x.isNaN = false ∧ x.isInf = false := by
    change x.toModel.unpack.isFinite = true at hfin
    change x.toModel.unpack.isNaN = false ∧ x.toModel.unpack.isInf = false
    generalize x.toModel.unpack = u at hfin ⊢
    cases u <;> simp_all [UnpackedFloat.isFinite, UnpackedFloat.isNaN, UnpackedFloat.isInf]
  unfold isPercent
  rw [hparts.1, hparts.2, hlo, hhi]
  rfl

/-- A value the report's reading keeps is a percentage. -/
theorem parsePercent_isPercent {s : String} {x : Float} (h : parsePercent s = some x) :
    isPercent x = true := by
  unfold parsePercent at h
  dsimp only at h
  split at h
  · split at h
    · cases h
      exact isPercent_of_isFinite ‹_›
    · cases h
  · cases h

/-- A positive finite double at most `100.0`, which is `100 · 2^46 · 2^-46`, has an exponent
below `-46`, or `-46` with a significand at most `100 · 2^46`. -/
theorem parts_of_le_hundred {m : Nat} {q : Int} {hm : 0 < m}
    (hhi : (UnpackedFloat.finite .positive m q hm).le
      (.finite .positive (100 * 2 ^ 46) (-46) (by decide)) = true) :
    q < -46 ∨ (q = -46 ∧ m ≤ 100 * 2 ^ 46) := by
  simp only [UnpackedFloat.le, UnpackedFloat.compare, Option.any_some] at hhi
  cases hc : compare q (-46) with
  | lt => exact .inl (Int.compare_eq_lt.1 hc)
  | eq =>
    rw [hc, Ordering.eq_then] at hhi
    exact .inr ⟨Int.compare_eq_eq.1 hc, Nat.compare_ne_gt.1 (Ordering.isLE_iff_ne_gt.1 hhi)⟩
  | gt =>
    rw [hc] at hhi
    cases hhi

/-- Such a double, `m / 2^(-q)`, is at most 100: a significand has at most 53 bits. -/
theorem significand_le_hundred {m : Nat} {q : Int} (hbits : m < 2 ^ 53)
    (hq : q < -46 ∨ (q = -46 ∧ m ≤ 100 * 2 ^ 46)) : m ≤ 100 * 2 ^ (-q).toNat := by
  rcases hq with hq | ⟨rfl, hm'⟩
  · have h47 : 2 ^ 47 ≤ 2 ^ (-q).toNat := Nat.pow_le_pow_right (by decide) (by omega)
    omega
  · simpa using hm'

/-- The table's range check lets every percentage through. -/
theorem percentAllowed_of_isPercent {x : Float} (h : isPercent x = true) :
    percentAllowed (some x) = true := by
  unfold isPercent at h
  simp only [Bool.and_eq_true, Bool.not_eq_true', decide_eq_true_eq, float_le_iff, zero_unpack,
    hundred_unpack] at h
  obtain ⟨⟨⟨hnan, hinf⟩, hlo⟩, hhi⟩ := h
  change x.toModel.unpack.isNaN = false at hnan
  change x.toModel.unpack.isInf = false at hinf
  have hof := ofFloat_eq_ofUnpacked x
  have hbeq : (x == 0.0) = UnpackedFloat.beq x.toModel.unpack (.zero .positive) := by
    rw [← zero_unpack]
    rfl
  show ((storedReal x).compare (.integer 0) != .lt &&
    (storedReal x).compare (.integer 100) != .gt) = true
  generalize x.toModel.unpack = u at hnan hinf hlo hhi hof hbeq
  cases u with
  | notANumber => cases hnan
  | infinity s => cases hinf
  | zero s =>
    -- either zero is stored as `0.0`
    have hz : storedReal x = storedReal 0.0 := by
      unfold storedReal
      rw [hbeq]
      cases s <;> rfl
    rw [hz]
    decide +kernel
  | finite s m q hm =>
    cases s with
    | negative => cases hlo
    | positive =>
    have hr : storedReal x = .real x := by
      unfold storedReal
      rw [hbeq]
      rfl
    have hq := parts_of_le_hundred hhi
    have hle := significand_le_hundred (ofFloat_finite_lt hof) hq
    -- a negative exponent: the value is `m / 2^(-q)`, compared with the integers exactly
    have hscale : scaleByTwo m 1 q = (m, 2 ^ (-q).toNat) := by
      simp only [scaleByTwo, Nat.pow_eq, Nat.one_mul]
      rw [if_neg (by omega)]
    have hpos : (UnpackedFloat.Sign.positive == UnpackedFloat.Sign.negative) = false := rfl
    rw [hr]
    simp only [Cell.compare, Cell.compareWith, compareIntReal, hof, Binary64.ofUnpacked, hscale,
      hpos, Bool.false_eq_true, if_false, Int.zero_mul, Bool.and_eq_true, bne_iff_ne, ne_eq,
      Ordering.swap_eq_lt, Ordering.swap_eq_gt]
    generalize 2 ^ (-q).toNat = d at hle
    exact ⟨Int.compare_ne_gt.2 (by omega), Int.compare_ne_lt.2 (by omega)⟩

end SnapshotAgent.Store
