/-!
# Reading integers

Integers are read from text in a fixed radix into a bounded range, the way the tool's numbers,
durations and hex quantities are read:

* an optional single sign (`+`, or `-` when the range has negative numbers) comes first, and a
  sign alone is an invalid digit;
* digits are read from the left; the first character that is no digit of the radix stops the
  reading with `invalidDigit`, and the first step that leaves the range stops it with `tooLarge`
  or `tooSmall`, whichever comes first;
* digits are ASCII; letters stand for digits above nine, in either case.
-/

namespace SnapshotAgent.Number

/-- Why a text is not an integer of the wanted range. -/
inductive IntegerError where
  | empty
  | invalidDigit
  | tooLarge
  | tooSmall
  deriving DecidableEq, Repr

/-- The message of each failure, as it is shown to users. -/
def IntegerError.message : IntegerError → String
  | .empty => "cannot parse integer from empty string"
  | .invalidDigit => "invalid digit found in string"
  | .tooLarge => "number too large to fit in target type"
  | .tooSmall => "number too small to fit in target type"

/-- The value of an ASCII digit or letter in a radix up to 36. -/
def digitValue (radix : Nat) (c : Char) : Option Nat :=
  let n := c.toNat
  let v :=
    if 0x30 ≤ n && n ≤ 0x39 then n - 0x30
    else if 0x61 ≤ n && n ≤ 0x7A then n - 0x61 + 10
    else if 0x41 ≤ n && n ≤ 0x5A then n - 0x41 + 10
    else 36
  if v < radix then some v else none

/-- Reads the digits of a non-negative number onto `acc`, staying at most `hi`. -/
def readUp (radix : Nat) (hi : Int) (acc : Int) : List Char → Except IntegerError Int
  | [] => .ok acc
  | c :: cs =>
    match digitValue radix c with
    | none => .error .invalidDigit
    | some d =>
      if acc * radix > hi then .error .tooLarge
      else if acc * radix + d > hi then .error .tooLarge
      else readUp radix hi (acc * radix + d) cs

/-- Reads the digits of a non-positive number onto `acc`, staying at least `lo`. -/
def readDown (radix : Nat) (lo : Int) (acc : Int) : List Char → Except IntegerError Int
  | [] => .ok acc
  | c :: cs =>
    match digitValue radix c with
    | none => .error .invalidDigit
    | some d =>
      if acc * radix < lo then .error .tooSmall
      else if acc * radix - d < lo then .error .tooSmall
      else readDown radix lo (acc * radix - d) cs

/-- Reads an integer of radix `radix` that must lie in `[lo, hi]`; `lo < 0` allows a minus sign. -/
def readInRange (radix : Nat) (lo hi : Int) (s : String) : Except IntegerError Int :=
  match s.toList with
  | [] => .error .empty
  | ['+'] => .error .invalidDigit
  | ['-'] => .error .invalidDigit
  | '+' :: cs => readUp radix hi 0 cs
  | '-' :: cs => if lo < 0 then readDown radix lo 0 cs else readUp radix hi 0 ('-' :: cs)
  | cs => readUp radix hi 0 cs

/-- The least signed 64-bit integer. -/
def i64Min : Int := -9223372036854775808

/-- The greatest signed 64-bit integer. -/
def i64Max : Int := 9223372036854775807

/-- The greatest unsigned 64-bit integer. -/
def u64Max : Int := 18446744073709551615

/-- Reads a signed 64-bit decimal integer. -/
def readI64 (s : String) : Except IntegerError Int :=
  readInRange 10 i64Min i64Max s

/-- Reads an unsigned 64-bit decimal integer. -/
def readU64 (s : String) : Except IntegerError Nat :=
  (readInRange 10 0 u64Max s).map Int.toNat

/-- Reads a signed 32-bit decimal integer. -/
def readI32 (s : String) : Except IntegerError Int :=
  readInRange 10 (-2147483648) 2147483647 s

/-- Reads a signed 64-bit hexadecimal integer. -/
def readHexI64 (s : String) : Except IntegerError Int :=
  readInRange 16 i64Min i64Max s

/-- A value read upwards never leaves the range. -/
theorem readUp_le (radix : Nat) (hi acc : Int) (cs : List Char) (v : Int)
    (hacc : acc ≤ hi) (h : readUp radix hi acc cs = .ok v) : v ≤ hi := by
  induction cs generalizing acc with
  | nil => simp [readUp] at h; omega
  | cons c cs ih =>
    simp only [readUp] at h
    split at h
    · simp at h
    · split at h
      · simp at h
      · split at h
        · simp at h
        · exact ih _ (by omega) h

/-- A value read downwards never leaves the range. -/
theorem le_readDown (radix : Nat) (lo acc : Int) (cs : List Char) (v : Int)
    (hacc : lo ≤ acc) (h : readDown radix lo acc cs = .ok v) : lo ≤ v := by
  induction cs generalizing acc with
  | nil => simp [readDown] at h; omega
  | cons c cs ih =>
    simp only [readDown] at h
    split at h
    · simp at h
    · split at h
      · simp at h
      · split at h
        · simp at h
        · exact ih _ (by omega) h

end SnapshotAgent.Number
