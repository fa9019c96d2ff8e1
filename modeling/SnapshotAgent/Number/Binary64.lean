/-!
# Binary64 values as exact numbers

A double is taken apart into its sign and the exact number `m · 2^q` it stands for, and an exact
positive ratio is put back into the nearest double. Everything in between is `Nat` arithmetic, so
the rules that numbers are read and printed by can be stated and checked exactly.

`nearest` rounds to the nearest double and, between two equally near ones, to the one with an
even last bit; values of `2^1024` and more round to infinity, and values below half the least
positive double round to zero.
-/

namespace SnapshotAgent.Number

/-- What a double stands for: not a number, an infinity, or a finite `m · 2^q` with a sign. -/
inductive Binary64 where
  | nan
  | infinite (negative : Bool)
  | finite (negative : Bool) (m : Nat) (q : Int)
  deriving Repr, DecidableEq

/-- The fraction field of a double: its low 52 bits. -/
def fractionBits (x : Float) : Nat := x.toBits.toNat % Nat.pow 2 52

/-- The biased exponent field of a double: bits 52 to 62. -/
def exponentBits (x : Float) : Nat := (x.toBits.toNat / Nat.pow 2 52) % Nat.pow 2 11

/-- The sign bit of a double. -/
def signBit (x : Float) : Bool := x.toBits.toNat / Nat.pow 2 63 == 1

/-- Takes a double apart. A subnormal has exponent `-1074`; a normal one carries its hidden bit. -/
def Binary64.ofFloat (x : Float) : Binary64 :=
  let f := fractionBits x
  let e := exponentBits x
  if e = 2047 then (if f = 0 then .infinite (signBit x) else .nan)
  else if e = 0 then .finite (signBit x) f (-1074)
  else .finite (signBit x) (f + Nat.pow 2 52) ((e : Int) - 1075)

/-- The double with the given sign, biased exponent and fraction fields. -/
def assemble (negative : Bool) (biased fraction : Nat) : Float :=
  Float.ofBits (UInt64.ofNat ((if negative then Nat.pow 2 63 else 0) + biased * Nat.pow 2 52 + fraction))

/-- An infinity of the given sign. -/
def infinity (negative : Bool) : Float := assemble negative 2047 0

/-- A zero of the given sign. -/
def zero (negative : Bool) : Float := assemble negative 0 0

/-- `num / den`, multiplied by `2 ^ e` for an integer `e`, as a ratio of naturals. -/
def scaleByTwo (num den : Nat) (e : Int) : Nat × Nat :=
  if 0 ≤ e then (num * Nat.pow 2 e.toNat, den) else (num, den * Nat.pow 2 (-e).toNat)

/-- The integer `k` with `2^k ≤ num / den < 2^(k+1)`, for positive `num` and `den`. -/
def floorLog2 (num den : Nat) : Int :=
  let k : Int := (num.log2 : Int) - den.log2
  let r := scaleByTwo den 1 k
  -- `den · 2^k ≤ num` decides between `k` and `k - 1`
  if r.1 ≤ num * r.2 then k else k - 1

/-- Divides `num` by `den` and rounds to the nearest integer, a tie going to the even one. -/
def divRoundEven (num den : Nat) : Nat :=
  let q := num / den
  let r := num % den
  if 2 * r > den then q + 1
  else if 2 * r < den then q
  else if q % 2 = 0 then q else q + 1

/-- The double nearest to `num / den` with the given sign, for positive `num` and `den`. -/
def nearest (negative : Bool) (num den : Nat) : Float :=
  let e0 := floorLog2 num den - 52
  let e := if e0 < -1074 then -1074 else e0
  -- the significand at exponent `e`: `num / (den · 2^e)`, rounded
  let r := scaleByTwo num den (-e)
  let m := divRoundEven r.1 r.2
  let (m, e) := if m = Nat.pow 2 53 then (Nat.pow 2 52, e + 1) else (m, e)
  if m < Nat.pow 2 52 then assemble negative 0 m
  else
    let biased := e + 1075
    if 2047 ≤ biased then infinity negative
    else assemble negative biased.toNat (m - Nat.pow 2 52)

/-- Rounding an integer division to even differs from the quotient by at most one. -/
theorem divRoundEven_le (num den : Nat) : divRoundEven num den ≤ num / den + 1 := by
  simp only [divRoundEven]
  split <;> (try split) <;> (try split) <;> omega

end SnapshotAgent.Number
