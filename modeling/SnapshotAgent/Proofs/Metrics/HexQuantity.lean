import Mathlib
import SnapshotAgent.Metrics.Quantity
import SnapshotAgent.Proofs.Text.Join
/-!
# The grammar of hexadecimal quantities

Execution nodes answer block numbers as hexadecimal quantities. `parseHexQuantity` trims the
text, takes off one `0x` or `0X`, and reads what is left as a signed 64-bit integer in radix 16.
This file states the texts it accepts without the reader: a numeral (`HexNumeral`) is an
optional `+` or `-` followed by one or more hexadecimal digits of either case, related to the
number it denotes, and a quantity (`HexQuantity`) is a text whose trimmed, unprefixed rest is a
numeral of a 64-bit number.

The prefix goes before the sign is looked at, so `0x-1` is read and `-0x1` is not; a second
prefix is a stray `x`.

The reader takes the digits from the left and stops at the first one that leaves the range. The
number only moves away from zero with each digit, so a reading that leaves the range on the way
ends outside it too, and stopping early refuses exactly the numerals whose number does not fit
(`readUp_hexDigits`, `readDown_hexDigits`).

## Main statement

`hexQuantity_grammar`: a text reads as `v` exactly when it is a quantity denoting `v`; in
particular every non-negative 64-bit number reads back from its lower-case digits behind `0x`
and from its upper-case digits alone.
-/

namespace SnapshotAgent.Metrics

open SnapshotAgent.Number SnapshotAgent.Text

/-! ## Numerals -/

/-- The value of a hexadecimal digit: `0`–`9`, then `A`–`F` or `a`–`f` for ten to fifteen. -/
def hexDigitValue (c : Char) : Nat :=
  if c ≤ '9' then c.toNat - '0'.toNat
  else if c ≤ 'F' then c.toNat - 'A'.toNat + 10
  else c.toNat - 'a'.toNat + 10

/-- A number with one more hexadecimal digit on its right. -/
def hexStep (n : Nat) (c : Char) : Nat := 16 * n + hexDigitValue c

/-- The number a run of hexadecimal digits denotes, the most significant first. -/
def hexValue (ds : List Char) : Nat := ds.foldl hexStep 0

/-- A hexadecimal numeral and the number it denotes: an optional `+` or `-`, then one or more
hexadecimal digits of either case. -/
inductive HexNumeral : List Char → Int → Prop
  | unsigned {ds : List Char} : ds ≠ [] → (∀ c ∈ ds, c.isHexDigit) →
      HexNumeral ds (hexValue ds)
  | plus {ds : List Char} : ds ≠ [] → (∀ c ∈ ds, c.isHexDigit) →
      HexNumeral ('+' :: ds) (hexValue ds)
  | minus {ds : List Char} : ds ≠ [] → (∀ c ∈ ds, c.isHexDigit) →
      HexNumeral ('-' :: ds) (-(hexValue ds : Int))

/-- A text less one leading `0x` or `0X`. -/
def dropHexPrefix : List Char → List Char
  | '0' :: 'x' :: rest => rest
  | '0' :: 'X' :: rest => rest
  | cs => cs

/-- A hexadecimal quantity denoting `v`: the text, trimmed and less one `0x` or `0X`, is a
numeral of `v`, and `v` is a signed 64-bit integer. -/
def HexQuantity (s : String) (v : Int) : Prop :=
  HexNumeral (dropHexPrefix (trim s).toList) v ∧ i64Min ≤ v ∧ v ≤ i64Max

/-- The lower-case hexadecimal digits of a number. -/
def lowerHex (n : Nat) : String := String.ofList (Nat.toDigits 16 n)

/-- The upper-case hexadecimal digits of a number. -/
def upperHex (n : Nat) : String := String.ofList ((Nat.toDigits 16 n).map Char.toUpper)

/-! ## Digits -/

theorem isHexDigit_iff (c : Char) : c.isHexDigit = true ↔
    48 ≤ c.toNat ∧ c.toNat ≤ 57 ∨ 97 ≤ c.toNat ∧ c.toNat ≤ 102 ∨ 65 ≤ c.toNat ∧ c.toNat ≤ 70 := by
  simp only [Char.isHexDigit, Char.isDigit, Bool.or_eq_true, Bool.and_eq_true, decide_eq_true_eq,
    UInt32.le_iff_toNat_le, ge_iff_le, or_assoc]
  rfl

theorem char_le_iff (c d : Char) : c ≤ d ↔ c.toNat ≤ d.toNat := by
  rw [Char.le_def, UInt32.le_iff_toNat_le]
  rfl

/-- In radix 16 the reader's digits are the hexadecimal digits, with their values. -/
theorem digitValue_sixteen (c : Char) :
    digitValue 16 c = if c.isHexDigit then some (hexDigitValue c) else none := by
  have hhex := isHexDigit_iff c
  unfold digitValue hexDigitValue
  simp only [char_le_iff, show '9'.toNat = 57 from rfl, show 'F'.toNat = 70 from rfl,
    show '0'.toNat = 48 from rfl, show 'A'.toNat = 65 from rfl, show 'a'.toNat = 97 from rfl]
  simp only [Bool.and_eq_true, decide_eq_true_eq, hhex]
  -- three ranges on each side, compared by their code points
  split_ifs <;> grind

theorem hexDigitValue_lt {c : Char} (h : c.isHexDigit = true) : hexDigitValue c < 16 := by
  have hc := (isHexDigit_iff c).1 h
  unfold hexDigitValue
  simp only [char_le_iff, show '9'.toNat = 57 from rfl, show 'F'.toNat = 70 from rfl,
    show '0'.toNat = 48 from rfl, show 'A'.toNat = 65 from rfl, show 'a'.toNat = 97 from rfl]
  split_ifs <;> omega

/-- A hexadecimal digit is no blank. -/
theorem isBlank_of_isHexDigit {c : Char} (h : c.isHexDigit = true) : isBlank c = false := by
  have hc := (isHexDigit_iff c).1 h
  simp only [isBlank, Bool.or_eq_false_iff, Bool.and_eq_false_iff, decide_eq_false_iff_not,
    beq_eq_false_iff_ne, ne_eq]
  omega

theorem hexValue_append (ds : List Char) (c : Char) :
    hexValue (ds ++ [c]) = 16 * hexValue ds + hexDigitValue c := by
  simp [hexValue, hexStep, List.foldl_append]

/-- Digits only make a number larger. -/
theorem le_foldl_hexStep (ds : List Char) (acc : Nat) : acc ≤ ds.foldl hexStep acc := by
  induction ds generalizing acc with
  | nil => exact le_refl acc
  | cons c cs ih =>
    calc acc ≤ hexStep acc c := by unfold hexStep; omega
      _ ≤ (c :: cs).foldl hexStep acc := ih _

/-! ## Reading digits -/

/-- Reading hexadecimal digits upwards from a number that fits gives their value, unless that
value passes the bound: then the reading stops with `tooLarge`. -/
theorem readUp_hexDigits {hi : Int} :
    ∀ {ds : List Char} {acc : Nat}, (∀ c ∈ ds, c.isHexDigit) → (acc : Int) ≤ hi →
      readUp 16 hi acc ds =
        if hi < ((ds.foldl hexStep acc : Nat) : Int) then .error .tooLarge
        else .ok ((ds.foldl hexStep acc : Nat) : Int)
  | [], acc, _, hacc => by
    rw [List.foldl_nil, if_neg (by omega)]
    rfl
  | c :: cs, acc, hds, hacc => by
    have hc := hds c List.mem_cons_self
    have hcs : ∀ c ∈ cs, c.isHexDigit = true := fun c' h => hds c' (List.mem_cons_of_mem c h)
    have hgrow := le_foldl_hexStep cs (hexStep acc c)
    rw [readUp, digitValue_sixteen, if_pos hc, List.foldl_cons]
    dsimp only
    have hnext : (acc : Int) * (16 : Nat) + (hexDigitValue c : Int) = (hexStep acc c : Nat) := by
      simp only [hexStep]
      push_cast
      ring
    by_cases hstep : (acc : Int) * (16 : Nat) > hi
    · rw [if_pos hstep, if_pos (by push_cast [hexStep] at hstep hgrow ⊢; omega)]
    rw [if_neg hstep]
    by_cases hdigit : (acc : Int) * (16 : Nat) + (hexDigitValue c : Int) > hi
    · rw [if_pos hdigit, if_pos (by rw [hnext] at hdigit; omega)]
    rw [if_neg hdigit, hnext]
    exact readUp_hexDigits hcs (by omega)

/-- Reading hexadecimal digits downwards from the negation of a number that fits gives the
negation of their value, unless it passes the bound: then the reading stops with `tooSmall`. -/
theorem readDown_hexDigits {lo : Int} :
    ∀ {ds : List Char} {acc : Nat}, (∀ c ∈ ds, c.isHexDigit) → lo ≤ -(acc : Int) →
      readDown 16 lo (-(acc : Int)) ds =
        if -((ds.foldl hexStep acc : Nat) : Int) < lo then .error .tooSmall
        else .ok (-((ds.foldl hexStep acc : Nat) : Int))
  | [], acc, _, hacc => by
    rw [List.foldl_nil, if_neg (by omega)]
    rfl
  | c :: cs, acc, hds, hacc => by
    have hc := hds c List.mem_cons_self
    have hcs : ∀ c ∈ cs, c.isHexDigit = true := fun c' h => hds c' (List.mem_cons_of_mem c h)
    have hgrow := le_foldl_hexStep cs (hexStep acc c)
    rw [readDown, digitValue_sixteen, if_pos hc, List.foldl_cons]
    dsimp only
    have hnext : -(acc : Int) * (16 : Nat) - (hexDigitValue c : Int) = -((hexStep acc c : Nat) : Int) := by
      simp only [hexStep]
      push_cast
      ring
    by_cases hstep : -(acc : Int) * (16 : Nat) < lo
    · rw [if_pos hstep, if_pos (by push_cast [hexStep] at hstep hgrow ⊢; omega)]
    rw [if_neg hstep]
    by_cases hdigit : -(acc : Int) * (16 : Nat) - (hexDigitValue c : Int) < lo
    · rw [if_pos hdigit, if_pos (by rw [hnext] at hdigit; omega)]
    rw [if_neg hdigit, hnext]
    exact readDown_hexDigits hcs (by omega)

/-- A run with a character that is no hexadecimal digit is never read upwards. -/
theorem readUp_of_not_hexDigit {hi : Int} {v : Int} :
    ∀ {ds : List Char} {acc : Int}, (∃ c ∈ ds, c.isHexDigit = false) →
      readUp 16 hi acc ds ≠ .ok v
  | [], _, ⟨_, hc, _⟩ => absurd hc (List.not_mem_nil)
  | c :: cs, acc, ⟨d, hd, hbad⟩ => by
    rw [readUp, digitValue_sixteen]
    by_cases hc : c.isHexDigit = true
    · have hcs : ∃ c ∈ cs, c.isHexDigit = false := by
        rcases List.mem_cons.1 hd with rfl | hd
        · rw [hc] at hbad; cases hbad
        · exact ⟨d, hd, hbad⟩
      rw [if_pos hc]
      dsimp only
      split
      · exact fun h => by cases h
      · split
        · exact fun h => by cases h
        · exact readUp_of_not_hexDigit hcs
    · rw [if_neg hc]
      exact fun h => by cases h

/-- A run with a character that is no hexadecimal digit is never read downwards. -/
theorem readDown_of_not_hexDigit {lo : Int} {v : Int} :
    ∀ {ds : List Char} {acc : Int}, (∃ c ∈ ds, c.isHexDigit = false) →
      readDown 16 lo acc ds ≠ .ok v
  | [], _, ⟨_, hc, _⟩ => absurd hc (List.not_mem_nil)
  | c :: cs, acc, ⟨d, hd, hbad⟩ => by
    rw [readDown, digitValue_sixteen]
    by_cases hc : c.isHexDigit = true
    · have hcs : ∃ c ∈ cs, c.isHexDigit = false := by
        rcases List.mem_cons.1 hd with rfl | hd
        · rw [hc] at hbad; cases hbad
        · exact ⟨d, hd, hbad⟩
      rw [if_pos hc]
      dsimp only
      split
      · exact fun h => by cases h
      · split
        · exact fun h => by cases h
        · exact readDown_of_not_hexDigit hcs
    · rw [if_neg hc]
      exact fun h => by cases h

/-- Over hexadecimal digits, reading a non-negative number upwards gives their value exactly when
it fits. -/
theorem readUp_sixteen_eq_ok_iff {hi v : Int} {ds : List Char} (hhi : 0 ≤ hi) :
    readUp 16 hi 0 ds = .ok v ↔ (∀ c ∈ ds, c.isHexDigit) ∧ v = hexValue ds ∧ v ≤ hi := by
  by_cases hall : ∀ c ∈ ds, c.isHexDigit
  · rw [show (0 : Int) = ((0 : Nat) : Int) from rfl, readUp_hexDigits hall (by omega)]
    split
    · simp only [reduceCtorEq, false_iff, not_and]
      intro _ hv
      rw [hv, hexValue]
      omega
    · rw [Except.ok.injEq, and_iff_right hall, hexValue]
      constructor
      · rintro rfl
        exact ⟨rfl, by omega⟩
      · rintro ⟨rfl, -⟩
        rfl
  · have hbad : ∃ c ∈ ds, c.isHexDigit = false := by
      simpa only [not_forall, Bool.not_eq_true, exists_prop] using hall
    simp only [hall, false_and, iff_false]
    exact readUp_of_not_hexDigit hbad

/-- Over hexadecimal digits, reading a non-positive number downwards gives the negation of their
value exactly when it fits. -/
theorem readDown_sixteen_eq_ok_iff {lo v : Int} {ds : List Char} (hlo : lo ≤ 0) :
    readDown 16 lo 0 ds = .ok v ↔
      (∀ c ∈ ds, c.isHexDigit) ∧ v = -(hexValue ds : Int) ∧ lo ≤ v := by
  by_cases hall : ∀ c ∈ ds, c.isHexDigit
  · rw [show (0 : Int) = -((0 : Nat) : Int) from rfl, readDown_hexDigits hall (by omega)]
    split
    · simp only [reduceCtorEq, false_iff, not_and]
      intro _ hv
      rw [hv, hexValue]
      omega
    · rw [Except.ok.injEq, and_iff_right hall, hexValue]
      constructor
      · rintro rfl
        exact ⟨rfl, by omega⟩
      · rintro ⟨rfl, -⟩
        rfl
  · have hbad : ∃ c ∈ ds, c.isHexDigit = false := by
      simpa only [not_forall, Bool.not_eq_true, exists_prop] using hall
    simp only [hall, false_and, iff_false]
    exact readDown_of_not_hexDigit hbad

/-! ## Signs -/

section Signs

variable {radix : Nat} {lo hi : Int}

theorem readInRange_nil : readInRange radix lo hi (String.ofList []) = .error .empty := rfl

theorem readInRange_sign_alone {c : Char} (hc : c = '+' ∨ c = '-') :
    readInRange radix lo hi (String.ofList [c]) = .error .invalidDigit := by
  rcases hc with rfl | rfl <;> rfl

theorem readInRange_plus {cs : List Char} (hcs : cs ≠ []) :
    readInRange radix lo hi (String.ofList ('+' :: cs)) = readUp radix hi 0 cs := by
  unfold readInRange
  rw [String.toList_ofList]
  split <;> simp_all

theorem readInRange_minus {cs : List Char} (hcs : cs ≠ []) (hlo : lo < 0) :
    readInRange radix lo hi (String.ofList ('-' :: cs)) = readDown radix lo 0 cs := by
  unfold readInRange
  rw [String.toList_ofList]
  split <;> simp_all

theorem readInRange_unsigned {c : Char} {cs : List Char} (hplus : c ≠ '+') (hminus : c ≠ '-') :
    readInRange radix lo hi (String.ofList (c :: cs)) = readUp radix hi 0 (c :: cs) := by
  unfold readInRange
  rw [String.toList_ofList]
  split
  · contradiction
  · simp_all
  · simp_all
  · simp_all
  · simp_all
  · rfl

end Signs

theorem hexNumeral_nil {v : Int} : ¬ HexNumeral [] v := by
  rintro (⟨hne, -⟩ | _ | _)
  exact hne rfl

theorem hexNumeral_plus_iff {ds : List Char} {v : Int} :
    HexNumeral ('+' :: ds) v ↔ ds ≠ [] ∧ (∀ c ∈ ds, c.isHexDigit) ∧ v = hexValue ds := by
  constructor
  · intro h
    generalize hcs : '+' :: ds = cs at h
    cases h with
    | unsigned _ hall =>
      subst hcs
      exact absurd (hall '+' List.mem_cons_self) (by decide)
    | plus hne hall =>
      obtain ⟨-, rfl⟩ := List.cons.inj hcs
      exact ⟨hne, hall, rfl⟩
    | minus =>
      exact absurd (List.cons.inj hcs).1 (by decide)
  · rintro ⟨hne, hall, rfl⟩
    exact .plus hne hall

theorem hexNumeral_minus_iff {ds : List Char} {v : Int} :
    HexNumeral ('-' :: ds) v ↔ ds ≠ [] ∧ (∀ c ∈ ds, c.isHexDigit) ∧ v = -(hexValue ds : Int) := by
  constructor
  · intro h
    generalize hcs : '-' :: ds = cs at h
    cases h with
    | unsigned _ hall =>
      subst hcs
      exact absurd (hall '-' List.mem_cons_self) (by decide)
    | plus =>
      exact absurd (List.cons.inj hcs).1 (by decide)
    | minus hne hall =>
      obtain ⟨-, rfl⟩ := List.cons.inj hcs
      exact ⟨hne, hall, rfl⟩
  · rintro ⟨hne, hall, rfl⟩
    exact .minus hne hall

theorem hexNumeral_unsigned_iff {c : Char} {cs : List Char} {v : Int} (hplus : c ≠ '+')
    (hminus : c ≠ '-') :
    HexNumeral (c :: cs) v ↔ (∀ d ∈ c :: cs, d.isHexDigit) ∧ v = hexValue (c :: cs) := by
  constructor
  · intro h
    generalize hcs : c :: cs = ds at h
    cases h with
    | unsigned _ hall =>
      subst hcs
      exact ⟨hall, rfl⟩
    | plus => exact absurd (List.cons.inj hcs).1 hplus
    | minus => exact absurd (List.cons.inj hcs).1 hminus
  · rintro ⟨hall, rfl⟩
    exact .unsigned (List.cons_ne_nil c cs) hall

/-- A text reads as a signed 64-bit hexadecimal integer exactly when it is a numeral of it. -/
theorem readHexI64_eq_ok_iff (cs : List Char) (v : Int) :
    readHexI64 (String.ofList cs) = .ok v ↔ HexNumeral cs v ∧ i64Min ≤ v ∧ v ≤ i64Max := by
  have hlo : i64Min < 0 := by decide
  have hhi : 0 ≤ i64Max := by decide
  unfold readHexI64
  rcases cs with _ | ⟨c, cs⟩
  · rw [readInRange_nil]
    simp [hexNumeral_nil]
  by_cases hplus : c = '+'
  · subst hplus
    by_cases hcs : cs = []
    · subst hcs
      rw [readInRange_sign_alone (.inl rfl), hexNumeral_plus_iff]
      simp
    rw [readInRange_plus hcs, readUp_sixteen_eq_ok_iff hhi, hexNumeral_plus_iff]
    constructor
    · rintro ⟨hall, rfl, hv⟩
      exact ⟨⟨hcs, hall, rfl⟩, by omega, hv⟩
    · rintro ⟨⟨-, hall, rfl⟩, -, hv⟩
      exact ⟨hall, rfl, hv⟩
  by_cases hminus : c = '-'
  · subst hminus
    by_cases hcs : cs = []
    · subst hcs
      rw [readInRange_sign_alone (.inr rfl), hexNumeral_minus_iff]
      simp
    rw [readInRange_minus hcs hlo, readDown_sixteen_eq_ok_iff hlo.le, hexNumeral_minus_iff]
    constructor
    · rintro ⟨hall, rfl, hv⟩
      exact ⟨⟨hcs, hall, rfl⟩, hv, by omega⟩
    · rintro ⟨⟨-, hall, rfl⟩, hv, -⟩
      exact ⟨hall, rfl, hv⟩
  rw [readInRange_unsigned hplus hminus, readUp_sixteen_eq_ok_iff hhi,
    hexNumeral_unsigned_iff hplus hminus]
  constructor
  · rintro ⟨hall, rfl, hv⟩
    exact ⟨⟨hall, rfl⟩, by omega, hv⟩
  · rintro ⟨⟨hall, rfl⟩, -, hv⟩
    exact ⟨hall, rfl, hv⟩

/-! ## The prefix -/

theorem dropHexPrefix_of_marked {cs : List Char} (h : ['0', 'x'] <+: cs ∨ ['0', 'X'] <+: cs) :
    dropHexPrefix cs = cs.drop 2 := by
  rcases h with ⟨r, rfl⟩ | ⟨r, rfl⟩ <;> rfl

theorem dropHexPrefix_of_unmarked {cs : List Char} (hx : ¬ ['0', 'x'] <+: cs)
    (hX : ¬ ['0', 'X'] <+: cs) : dropHexPrefix cs = cs := by
  unfold dropHexPrefix
  split
  · exact absurd (List.prefix_append ['0', 'x'] _) hx
  · exact absurd (List.prefix_append ['0', 'X'] _) hX
  · rfl

/-- A quantity's digits are read from its text trimmed and less one `0x` or `0X`. -/
theorem parseHexQuantity_eq_ok_iff_read (s : String) (v : Int) :
    parseHexQuantity s = .ok v ↔
      readHexI64 (String.ofList (dropHexPrefix (trim s).toList)) = .ok v := by
  have hx : "0x".toList = ['0', 'x'] := rfl
  have hX : "0X".toList = ['0', 'X'] := rfl
  have hdigits : (if (trim s).startsWith "0x" || (trim s).startsWith "0X" then
      ((trim s).drop 2).toString else trim s) = String.ofList (dropHexPrefix (trim s).toList) := by
    rw [← String.toList_inj, String.toList_ofList]
    split
    · next h =>
      simp only [Bool.or_eq_true, String.startsWith_string_iff, hx, hX] at h
      rw [dropHexPrefix_of_marked h]
      simp
    · next h =>
      simp only [Bool.or_eq_true, String.startsWith_string_iff, hx, hX, not_or] at h
      rw [dropHexPrefix_of_unmarked h.1 h.2]
  unfold parseHexQuantity
  dsimp only
  rw [hdigits]
  split
  · next w hw => simp [hw]
  · next e he => simp [he]

/-- Reading accepts exactly the quantities, with the number they denote. -/
theorem parseHexQuantity_eq_ok_iff (s : String) (v : Int) :
    parseHexQuantity s = .ok v ↔ HexQuantity s v := by
  rw [parseHexQuantity_eq_ok_iff_read, readHexI64_eq_ok_iff]
  rfl

/-! ## Written numbers read back -/

/-- The sixteen digits numbers are written with are hexadecimal digits of their values, and so
are their upper-case forms. -/
theorem digitChar_hex : ∀ k, k < 16 →
    (Nat.digitChar k).isHexDigit ∧ hexDigitValue (Nat.digitChar k) = k ∧
      (Nat.digitChar k).toUpper.isHexDigit ∧ hexDigitValue (Nat.digitChar k).toUpper = k := by
  decide

theorem mem_toDigits_sixteen {n : Nat} {c : Char} (h : c ∈ Nat.toDigits 16 n) :
    ∃ k < 16, c = Nat.digitChar k := by
  induction n using Nat.strong_induction_on with
  | _ n ih =>
    rw [Nat.toDigits_eq_if (by decide)] at h
    split at h
    · exact ⟨n, ‹_›, List.mem_singleton.1 h⟩
    · rcases List.mem_append.1 h with h | h
      · exact ih (n / 16) (by omega) h
      · exact ⟨n % 16, Nat.mod_lt _ (by decide), List.mem_singleton.1 h⟩

/-- The lower-case digits of a number denote it. -/
theorem hexValue_toDigits (n : Nat) : hexValue (Nat.toDigits 16 n) = n := by
  induction n using Nat.strong_induction_on with
  | _ n ih =>
    rw [Nat.toDigits_eq_if (by decide)]
    split
    · next hn =>
      show hexStep 0 (Nat.digitChar n) = n
      rw [hexStep, (digitChar_hex n hn).2.1]
      omega
    · next hn =>
      rw [hexValue_append, ih (n / 16) (by omega),
        (digitChar_hex _ (Nat.mod_lt _ (by decide))).2.1]
      omega

/-- The upper-case digits of a number denote it too. -/
theorem hexValue_toDigits_toUpper (n : Nat) :
    hexValue ((Nat.toDigits 16 n).map Char.toUpper) = n := by
  conv_rhs => rw [← hexValue_toDigits n]
  unfold hexValue
  rw [List.foldl_map]
  refine List.foldl_ext _ _ 0 fun acc c hc => ?_
  obtain ⟨k, hk, rfl⟩ := mem_toDigits_sixteen hc
  simp only [hexStep, (digitChar_hex k hk).2.1, (digitChar_hex k hk).2.2.2]

theorem dropBlanks_of_not_blank {cs : List Char} (h : ∀ c ∈ cs, isBlank c = false) :
    dropBlanks cs = cs := by
  cases cs with
  | nil => rfl
  | cons c cs => rw [dropBlanks_cons, if_neg (by simp [h c List.mem_cons_self])]

/-- A text without blanks is its own trimmed form. -/
theorem trim_of_not_blank {cs : List Char} (h : ∀ c ∈ cs, isBlank c = false) :
    (trim (String.ofList cs)).toList = cs := by
  rw [toList_trim, String.toList_ofList, dropBlanks_of_not_blank h, dropTrailingBlanks,
    dropBlanks_of_not_blank (fun c hc => h c (List.mem_reverse.1 hc)), List.reverse_reverse]

/-- Hexadecimal digits have no prefix to drop. -/
theorem dropHexPrefix_of_hexDigits {cs : List Char} (h : ∀ c ∈ cs, c.isHexDigit) :
    dropHexPrefix cs = cs := by
  have hx : ∀ r, cs ≠ '0' :: 'x' :: r := fun r hr =>
    absurd (h 'x' (by simp [hr])) (by decide)
  have hX : ∀ r, cs ≠ '0' :: 'X' :: r := fun r hr =>
    absurd (h 'X' (by simp [hr])) (by decide)
  exact dropHexPrefix_of_unmarked (fun ⟨r, hr⟩ => hx r hr.symm) (fun ⟨r, hr⟩ => hX r hr.symm)

theorem hexQuantity_lowerHex {n : Nat} (hn : (n : Int) ≤ i64Max) :
    HexQuantity ("0x" ++ lowerHex n) n := by
  have hall : ∀ c ∈ Nat.toDigits 16 n, c.isHexDigit := fun c hc => by
    obtain ⟨k, hk, rfl⟩ := mem_toDigits_sixteen hc
    exact (digitChar_hex k hk).1
  have htext : ("0x" ++ lowerHex n) = String.ofList ('0' :: 'x' :: Nat.toDigits 16 n) := by
    rw [← String.toList_inj]
    simp only [String.toList_append, lowerHex, String.toList_ofList]
    rfl
  have hblank : ∀ c ∈ '0' :: 'x' :: Nat.toDigits 16 n, isBlank c = false := by
    intro c hc
    rcases List.mem_cons.1 hc with rfl | hc
    · decide
    rcases List.mem_cons.1 hc with rfl | hc
    · decide
    exact isBlank_of_isHexDigit (hall c hc)
  refine ⟨?_, le_trans (by decide) (Int.natCast_nonneg n), hn⟩
  rw [htext, trim_of_not_blank hblank]
  have hnum := HexNumeral.unsigned (Nat.toDigits_ne_nil (n := n) (b := 16)) hall
  rwa [hexValue_toDigits] at hnum

theorem hexQuantity_upperHex {n : Nat} (hn : (n : Int) ≤ i64Max) :
    HexQuantity (upperHex n) n := by
  have hall : ∀ c ∈ (Nat.toDigits 16 n).map Char.toUpper, c.isHexDigit := fun c hc => by
    obtain ⟨d, hd, rfl⟩ := List.mem_map.1 hc
    obtain ⟨k, hk, rfl⟩ := mem_toDigits_sixteen hd
    exact (digitChar_hex k hk).2.2.1
  refine ⟨?_, le_trans (by decide) (Int.natCast_nonneg n), hn⟩
  rw [upperHex, trim_of_not_blank fun c hc => isBlank_of_isHexDigit (hall c hc),
    dropHexPrefix_of_hexDigits hall]
  have hnum := HexNumeral.unsigned (by simp) hall
  rwa [hexValue_toDigits_toUpper] at hnum

/-! ## The grammar -/

/-- A text reads as a hexadecimal quantity `v` exactly when, trimmed and less one `0x` or `0X`, it
is an optional sign and one or more hexadecimal digits of either case denoting `v`, and `v` is a
signed 64-bit integer. In particular every non-negative 64-bit number reads back from its
lower-case digits behind `0x`, and from its upper-case digits alone. -/
theorem hexQuantity_grammar :
    (∀ (s : String) (v : Int), parseHexQuantity s = .ok v ↔ HexQuantity s v) ∧
    ∀ v : Int, 0 ≤ v → v ≤ i64Max →
      parseHexQuantity ("0x" ++ lowerHex v.toNat) = .ok v ∧
        parseHexQuantity (upperHex v.toNat) = .ok v := by
  refine ⟨parseHexQuantity_eq_ok_iff, fun v hv hmax => ?_⟩
  obtain ⟨n, rfl⟩ := Int.eq_ofNat_of_zero_le hv
  rw [Int.toNat_natCast]
  exact ⟨(parseHexQuantity_eq_ok_iff _ _).2 (hexQuantity_lowerHex hmax),
    (parseHexQuantity_eq_ok_iff _ _).2 (hexQuantity_upperHex hmax)⟩

/-- A block number as an execution node answers it reads back in both spellings. -/
theorem block_number_reads_back :
    ((0 : Int) ≤ 21000000 ∧ (21000000 : Int) ≤ i64Max) ∧
      parseHexQuantity ("0x" ++ lowerHex 21000000) = .ok 21000000 ∧
        parseHexQuantity (upperHex 21000000) = .ok 21000000 :=
  ⟨⟨by decide, by decide⟩, hexQuantity_grammar.2 21000000 (by decide) (by decide)⟩

-- The prefix goes before the sign, a second prefix is refused, and the least number is read.
example : parseHexQuantity "0x-1" = .ok (-1) := by decide +kernel
example : (parseHexQuantity "-0x1").isOk = false := by decide +kernel
example : (parseHexQuantity "0x0x1").isOk = false := by decide +kernel
example : parseHexQuantity "-8000000000000000" = .ok i64Min := by decide +kernel

end SnapshotAgent.Metrics
