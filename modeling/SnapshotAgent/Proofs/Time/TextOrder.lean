import Mathlib
import SnapshotAgent.Time.Text
import SnapshotAgent.Proofs.Time.Calendar
import SnapshotAgent.Proofs.Time.InstantOrder
/-!
# The order of stored timestamps

The store keeps an instant as its RFC 3339 text with zone `+00:00` and sorts rows by that text,
comparing it character by character. This file proves that, for the instants the clock library
can hold in the years 0000 to 9999 (`Instant.Storable`), comparing the texts is comparing the
instants.

Two things make it true. Every field up to the seconds is written with a fixed number of digits,
so the texts compare field by field, and the fields of the calendar compare as the day counts do
(`Date.ofDays_before_iff`). The fraction of a second has 3, 6 or 9 digits, the fewest that hold
it, so texts of different lengths meet: after the fewer digits comes the zone's `+`, which sorts
below `.` and below every digit, just as the digits left out would be zeros
(`fraction_append_lt_iff`).
-/

namespace SnapshotAgent.Time

/-! ## Lists of characters -/

/-- Two lists that start with parts of one length compare by those parts first. -/
theorem append_lt_append_iff {α : Type} [LT α] {l₁ l₂ r₁ r₂ : List α}
    (h : l₁.length = l₂.length) :
    l₁ ++ r₁ < l₂ ++ r₂ ↔ l₁ < l₂ ∨ (l₁ = l₂ ∧ r₁ < r₂) := by
  induction l₁ generalizing l₂ with
  | nil =>
    obtain rfl : l₂ = [] := List.eq_nil_of_length_eq_zero h.symm
    simp
  | cons a l₁ ih =>
    obtain ⟨b, l₂, rfl⟩ := List.exists_cons_of_length_eq_add_one h.symm
    simp only [List.cons_append, List.cons_lt_cons_iff, List.cons.injEq,
      ih (by simpa using h)]
    tauto

/-! ## Numbers written with a fixed number of digits -/

/-- The last `w` decimal digits of `n`, the most significant first. -/
def fixedDigits : Nat → Nat → List Char
  | 0, _ => []
  | w + 1, n => fixedDigits w (n / 10) ++ [Nat.digitChar (n % 10)]

@[simp] theorem length_fixedDigits (w n : Nat) : (fixedDigits w n).length = w := by
  induction w generalizing n with
  | zero => rfl
  | succ w ih => simp [fixedDigits, ih]

theorem fixedDigits_zero (w : Nat) : fixedDigits w 0 = List.replicate w '0' := by
  induction w with
  | zero => rfl
  | succ w ih => simp [fixedDigits, ih, List.replicate_succ', Nat.digitChar]

theorem char_lt_iff_toNat_lt (a b : Char) : a < b ↔ a.toNat < b.toNat := by
  rw [Char.lt_def, UInt32.lt_iff_toNat_lt]
  rfl

theorem digitChar_lt_iff {a b : Nat} (ha : a < 10) (hb : b < 10) :
    Nat.digitChar a < Nat.digitChar b ↔ a < b := by
  rw [char_lt_iff_toNat_lt, Nat.toNat_digitChar_of_lt_ten ha, Nat.toNat_digitChar_of_lt_ten hb]
  omega

theorem digitChar_inj {a b : Nat} (ha : a < 10) (hb : b < 10) :
    Nat.digitChar a = Nat.digitChar b ↔ a = b := by
  rw [← Char.toNat_inj, Nat.toNat_digitChar_of_lt_ten ha, Nat.toNat_digitChar_of_lt_ten hb]
  omega

/-- The last digit of a number that fits `w + 1` digits, and the number its other digits make. -/
theorem div_ten_lt {w n : Nat} (hn : n < 10 ^ (w + 1)) : n / 10 < 10 ^ w := by
  rw [Nat.div_lt_iff_lt_mul (by omega), ← Nat.pow_succ]
  exact hn

theorem fixedDigits_inj {w a b : Nat} (ha : a < 10 ^ w) (hb : b < 10 ^ w) :
    fixedDigits w a = fixedDigits w b ↔ a = b := by
  induction w generalizing a b with
  | zero =>
    simp only [Nat.pow_zero, Nat.lt_one_iff] at ha hb
    subst ha hb
    simp [fixedDigits]
  | succ w ih =>
    simp only [fixedDigits]
    constructor
    · intro h
      obtain ⟨hhead, hlast⟩ := List.append_inj' h rfl
      rw [ih (div_ten_lt ha) (div_ten_lt hb)] at hhead
      simp only [List.cons.injEq, and_true] at hlast
      rw [digitChar_inj (by omega) (by omega)] at hlast
      omega
    · rintro rfl
      rfl

/-- `padded` writes a number that fits its width as its last `width` digits. -/
theorem toDigits_padded {w n : Nat} (hw : 0 < w) (hn : n < 10 ^ w) :
    List.replicate (w - (Nat.toDigits 10 n).length) '0' ++ Nat.toDigits 10 n = fixedDigits w n := by
  induction w generalizing n with
  | zero => omega
  | succ w ih =>
    by_cases hn10 : n < 10
    · rw [Nat.toDigits_of_lt_base hn10, fixedDigits, Nat.div_eq_of_lt hn10, Nat.mod_eq_of_lt hn10,
        fixedDigits_zero]
      simp
    · have hw0 : 0 < w := by
        rcases Nat.eq_zero_or_pos w with rfl | h
        · omega
        · exact h
      rw [Nat.toDigits_of_base_le (by omega) (by omega), fixedDigits, ← ih hw0 (div_ten_lt hn)]
      simp only [List.length_append, List.length_singleton, List.append_assoc]
      congr 2
      omega

theorem toList_padded {w n : Nat} (hw : 0 < w) (hn : n < 10 ^ w) :
    (padded w n).toList = fixedDigits w n := by
  rw [← toDigits_padded hw hn]
  simp [padded, String.length]

/-- Numbers of at most `w` digits compare as their texts of `w` digits. -/
theorem fixedDigits_lt_iff {w a b : Nat} (ha : a < 10 ^ w) (hb : b < 10 ^ w) :
    fixedDigits w a < fixedDigits w b ↔ a < b := by
  induction w generalizing a b with
  | zero =>
    simp only [Nat.pow_zero, Nat.lt_one_iff] at ha hb
    subst ha hb
    simp [fixedDigits]
  | succ w ih =>
    simp only [fixedDigits]
    rw [append_lt_append_iff (by simp), ih (div_ten_lt ha) (div_ten_lt hb),
      fixedDigits_inj (div_ten_lt ha) (div_ten_lt hb)]
    simp only [List.cons_lt_cons_iff, List.not_lt_nil, and_false, or_false,
      digitChar_lt_iff (Nat.mod_lt a (by omega)) (Nat.mod_lt b (by omega))]
    omega

/-- The digits of `n` below the last `v` make its last `w + v` digits together with them. -/
theorem fixedDigits_add (w v n : Nat) :
    fixedDigits (w + v) n = fixedDigits w (n / 10 ^ v) ++ fixedDigits v n := by
  induction v generalizing n with
  | zero => simp [fixedDigits]
  | succ v ih =>
    rw [← Nat.add_assoc, fixedDigits, ih, fixedDigits, Nat.div_div_eq_div_mul, ← Nat.pow_succ',
      List.append_assoc]

/-- A number whose last `v` digits are zeros. -/
theorem fixedDigits_of_dvd {v n : Nat} (h : 10 ^ v ∣ n) : fixedDigits v n = List.replicate v '0' := by
  induction v generalizing n with
  | zero => rfl
  | succ v ih =>
    have hpow : 10 ^ (v + 1) = 10 * 10 ^ v := Nat.pow_succ'
    have h10 : 10 ∣ n := Nat.dvd_trans ⟨_, hpow⟩ h
    have hrest : 10 ^ v ∣ n / 10 := Nat.dvd_div_of_mul_dvd (hpow ▸ h)
    rw [fixedDigits, ih hrest, Nat.mod_eq_zero_of_dvd h10, List.replicate_succ']
    rfl

theorem le_of_mem_fixedDigits {w n : Nat} {x : Char} (hx : x ∈ fixedDigits w n) : 48 ≤ x.toNat := by
  induction w generalizing n with
  | zero => simp [fixedDigits] at hx
  | succ w ih =>
    simp only [fixedDigits, List.mem_append, List.mem_singleton] at hx
    rcases hx with hx | rfl
    · exact ih hx
    · rw [Nat.toNat_digitChar_of_lt_ten (Nat.mod_lt n (by omega))]
      omega

/-! ## The fraction of a second -/

/-- The digits written after the point for a fraction `n` of a second: 3, 6 or 9 of them, the
fewest that hold it. -/
def fractionDigitChars (n : Nat) : List Char :=
  if n % 1000000 = 0 then fixedDigits 3 (n / 1000000)
  else if n % 1000 = 0 then fixedDigits 6 (n / 1000)
  else fixedDigits 9 n

/-- The text of a fraction `n` of a second: nothing when it is zero. -/
def fractionChars (n : Nat) : List Char := if n = 0 then [] else '.' :: fractionDigitChars n

theorem toList_fractionText (nano : Nat) :
    (fractionText nano).toList = fractionChars (nano % nanosPerSecond) := by
  have hlt : nano % nanosPerSecond < 1000000000 := Nat.mod_lt _ (by decide)
  unfold fractionText
  dsimp only
  unfold fractionChars fractionDigitChars
  split
  · rfl
  · split
    · rw [String.toList_append, toList_padded (by omega) (by norm_num; omega)]
      rfl
    · split
      · rw [String.toList_append, toList_padded (by omega) (by norm_num; omega)]
        rfl
      · rw [String.toList_append, toList_padded (by omega) (by norm_num; omega)]
        rfl

/-- The digits written for a fraction are its nine digits with the trailing zeros cut. -/
theorem fractionDigitChars_append_zeros (n : Nat) :
    fractionDigitChars n ++ List.replicate (9 - (fractionDigitChars n).length) '0' = fixedDigits 9 n := by
  unfold fractionDigitChars
  split
  · rw [show 9 = 3 + 6 from rfl, fixedDigits_add 3 6 n,
      fixedDigits_of_dvd (v := 6) (n := n) (Nat.dvd_of_mod_eq_zero (by norm_num; omega))]
    simp
  · split
    · rw [show 9 = 6 + 3 from rfl, fixedDigits_add 6 3 n,
        fixedDigits_of_dvd (v := 3) (n := n) (Nat.dvd_of_mod_eq_zero (by norm_num; omega))]
      simp
    · simp

theorem length_fractionDigitChars_le (n : Nat) : (fractionDigitChars n).length ≤ 9 := by
  unfold fractionDigitChars
  split <;> (try split) <;> simp

/-- A list of digits is never below zeros of its own length. -/
theorem not_lt_zeros : ∀ {l : List Char}, (∀ x ∈ l, 48 ≤ x.toNat) →
    ¬ l < List.replicate l.length '0'
  | [], _ => List.lt_irrefl []
  | x :: l, hl => by
    rw [List.length_cons, List.replicate_succ, List.cons_lt_cons_iff, not_or, not_and]
    refine ⟨fun h => ?_, fun _ => not_lt_zeros (fun y hy => hl y (List.mem_cons_of_mem x hy))⟩
    have := hl x List.mem_cons_self
    rw [char_lt_iff_toNat_lt, show ('0' : Char).toNat = 48 from rfl] at h
    omega

/-- Digits cut after different numbers of places and followed by a mark below every digit compare
as the digits with zeros put back in the places cut. -/
theorem append_mark_lt {c : Char} (hc : c.toNat < 48) (r : List Char) :
    ∀ {a b : List Char} {i j : Nat}, (∀ x ∈ a, 48 ≤ x.toNat) → (∀ x ∈ b, 48 ≤ x.toNat) →
      a.length + i = b.length + j →
      a ++ List.replicate i '0' < b ++ List.replicate j '0' → a ++ c :: r < b ++ c :: r
  | [], [], i, j, _, _, hlen, hlt => by
    simp only [List.length_nil, Nat.zero_add] at hlen
    subst hlen
    exact absurd hlt (List.lt_irrefl _)
  | [], y :: b, _, _, _, hb, _, _ => by
    -- the mark meets a digit
    have := hb y List.mem_cons_self
    exact List.cons_lt_cons_iff.2 (.inl ((char_lt_iff_toNat_lt _ _).2 (by omega)))
  | x :: a, [], i, j, ha, _, hlen, hlt => by
    -- digits are never below zeros
    have hl : (x :: a ++ List.replicate i '0').length = j := by simp at hlen ⊢; omega
    rw [← hl] at hlt
    refine absurd hlt (not_lt_zeros fun z hz => ?_)
    rcases List.mem_append.1 hz with hz | hz
    · exact ha z hz
    · rw [List.eq_of_mem_replicate hz]
      decide
  | x :: a, y :: b, i, j, ha, hb, hlen, hlt => by
    simp only [List.cons_append, List.cons_lt_cons_iff] at hlt ⊢
    rcases hlt with hxy | ⟨rfl, hlt⟩
    · exact .inl hxy
    · exact .inr ⟨rfl, append_mark_lt hc r (fun z hz => ha z (List.mem_cons_of_mem _ hz))
        (fun z hz => hb z (List.mem_cons_of_mem _ hz)) (by simp at hlen; omega) hlt⟩

theorem le_of_mem_fractionDigitChars {n : Nat} {x : Char} (hx : x ∈ fractionDigitChars n) :
    48 ≤ x.toNat := by
  unfold fractionDigitChars at hx
  split at hx
  · exact le_of_mem_fixedDigits hx
  · split at hx
    · exact le_of_mem_fixedDigits hx
    · exact le_of_mem_fixedDigits hx

/-- The fractions of a second, each followed by the zone's `+`, compare as the fractions. -/
theorem fraction_append_lt_of_lt {n n' : Nat} (hn' : n' < 10 ^ 9) (h : n < n') (z : List Char) :
    fractionChars n ++ '+' :: z < fractionChars n' ++ '+' :: z := by
  unfold fractionChars
  rw [if_neg (show n' ≠ 0 by omega)]
  split
  · -- no fraction: the zone's `+` sorts below the point
    exact List.cons_lt_cons_iff.2 (.inl (by decide))
  · have hdigits : fixedDigits 9 n < fixedDigits 9 n' := (fixedDigits_lt_iff (by omega) hn').2 h
    rw [← fractionDigitChars_append_zeros n, ← fractionDigitChars_append_zeros n'] at hdigits
    have hlen := length_fractionDigitChars_le n
    have hlen' := length_fractionDigitChars_le n'
    rw [List.cons_append, List.cons_append, List.cons_lt_cons_iff]
    exact .inr ⟨rfl, append_mark_lt (by decide) z (fun _ => le_of_mem_fractionDigitChars)
      (fun _ => le_of_mem_fractionDigitChars) (by omega) hdigits⟩

theorem fraction_append_lt_iff {n n' : Nat} (hn : n < 10 ^ 9) (hn' : n' < 10 ^ 9) (z : List Char) :
    fractionChars n ++ '+' :: z < fractionChars n' ++ '+' :: z ↔ n < n' := by
  refine ⟨fun h => ?_, fun h => fraction_append_lt_of_lt hn' h z⟩
  rcases Nat.lt_trichotomy n n' with hlt | rfl | hgt
  · exact hlt
  · exact absurd h (List.lt_irrefl _)
  · exact absurd h (List.lt_asymm (fraction_append_lt_of_lt hn hgt z))

/-! ## The fields of a stored timestamp -/

/-- An instant as the clock library holds one, in a year written with four digits: a second of
the day, and a nanosecond below one second except in a leap second, which is the last second of
a minute. -/
structure Instant.Storable (t : Instant) : Prop where
  second_lt : t.second < 86400
  nano_lt : t.nano < 2 * nanosPerSecond
  leap : nanosPerSecond ≤ t.nano → t.second % 60 = 59
  year_nonneg : 0 ≤ t.date.year
  year_le : t.date.year ≤ 9999

/-- The second of the minute as written: 60 in a leap second. -/
def Instant.writtenSecond (t : Instant) : Nat :=
  if t.nano ≥ nanosPerSecond then 60 else t.secondOfMinute

/-- The numbers a stored timestamp writes, in the order it writes them: year, month, day, hour,
minute, second, and the fraction of the second in nanoseconds. -/
def Instant.fields (t : Instant) : List Nat :=
  [t.date.year.toNat, t.date.month, t.date.day, t.hour, t.minute, t.writtenSecond,
    t.nano % nanosPerSecond]

/-- The characters of a stored timestamp: each field up to the seconds with a fixed number of
digits, then the fraction and the zone. -/
def stampChars (y mo d h mi s n : Nat) : List Char :=
  fixedDigits 4 y ++ '-' :: fixedDigits 2 mo ++ '-' :: fixedDigits 2 d ++ 'T' :: fixedDigits 2 h ++
    ':' :: fixedDigits 2 mi ++ ':' :: fixedDigits 2 s ++ fractionChars n ++ "+00:00".toList

theorem Instant.Storable.date_bounds {t : Instant} (ht : t.Storable) :
    t.date.year.toNat < 10 ^ 4 ∧ t.date.month < 10 ^ 2 ∧ t.date.day < 10 ^ 2 := by
  have hvalid := Date.ofDays_isValid t.days
  simp only [Date.isValid, Bool.and_eq_true, decide_eq_true_eq] at hvalid
  have := daysInMonth_le t.date.year t.date.month
  have := ht.year_le
  unfold Instant.date at *
  omega

theorem Instant.Storable.time_bounds {t : Instant} (ht : t.Storable) :
    t.hour < 10 ^ 2 ∧ t.minute < 10 ^ 2 ∧ t.writtenSecond < 10 ^ 2 ∧
      t.nano % nanosPerSecond < 10 ^ 9 := by
  have := ht.second_lt
  unfold Instant.hour Instant.minute Instant.writtenSecond Instant.secondOfMinute nanosPerSecond
  split <;> omega

theorem Instant.toList_rfc3339Offset {t : Instant} (ht : t.Storable) :
    t.rfc3339Offset.toList = stampChars t.date.year.toNat t.date.month t.date.day t.hour t.minute
      t.writtenSecond (t.nano % nanosPerSecond) := by
  obtain ⟨hy, hmo, hd⟩ := ht.date_bounds
  obtain ⟨hh, hmi, hs, -⟩ := ht.time_bounds
  have hyear : yearText t.date.year = padded 4 t.date.year.toNat := by
    unfold yearText
    rw [if_neg (by have := ht.year_nonneg; omega), if_neg (by have := ht.year_le; omega)]
  have hsec : (if t.nano ≥ nanosPerSecond then 60 else t.secondOfMinute) = t.writtenSecond := rfl
  simp only [Instant.rfc3339Offset, Instant.dateTimeText, hyear, hsec, String.toList_append,
    toList_padded (by omega) hy, toList_padded (by omega) hmo, toList_padded (by omega) hd,
    toList_padded (by omega) hh, toList_padded (by omega) hmi, toList_padded (by omega) hs,
    toList_fractionText, stampChars]
  simp

theorem fixedDigits_append_lt_iff {w a b : Nat} (ha : a < 10 ^ w) (hb : b < 10 ^ w)
    {r r' : List Char} : fixedDigits w a ++ r < fixedDigits w b ++ r' ↔ a < b ∨ (a = b ∧ r < r') := by
  rw [append_lt_append_iff (by simp), fixedDigits_lt_iff ha hb, fixedDigits_inj ha hb]

theorem cons_lt_cons_same (c : Char) (r r' : List Char) : c :: r < c :: r' ↔ r < r' := by
  simp

/-- Stored timestamps compare field by field. -/
theorem stampChars_lt_iff {y mo d h mi s n y' mo' d' h' mi' s' n' : Nat}
    (hy : y < 10 ^ 4) (hmo : mo < 10 ^ 2) (hd : d < 10 ^ 2) (hh : h < 10 ^ 2) (hmi : mi < 10 ^ 2)
    (hs : s < 10 ^ 2) (hn : n < 10 ^ 9) (hy' : y' < 10 ^ 4) (hmo' : mo' < 10 ^ 2) (hd' : d' < 10 ^ 2)
    (hh' : h' < 10 ^ 2) (hmi' : mi' < 10 ^ 2) (hs' : s' < 10 ^ 2) (hn' : n' < 10 ^ 9) :
    stampChars y mo d h mi s n < stampChars y' mo' d' h' mi' s' n' ↔
      [y, mo, d, h, mi, s, n] < [y', mo', d', h', mi', s', n'] := by
  have hzone : "+00:00".toList = '+' :: "00:00".toList := rfl
  simp only [stampChars, List.append_assoc, List.cons_append, hzone,
    fixedDigits_append_lt_iff hy hy', fixedDigits_append_lt_iff hmo hmo',
    fixedDigits_append_lt_iff hd hd', fixedDigits_append_lt_iff hh hh',
    fixedDigits_append_lt_iff hmi hmi', fixedDigits_append_lt_iff hs hs', cons_lt_cons_same,
    fraction_append_lt_iff hn hn']
  simp only [List.cons_lt_cons_iff, List.not_lt_nil, and_false, or_false]

/-- The time of day as written, down to the nanosecond, compares as the second of the day and
the nanosecond: a leap second is written as the 60th second of its minute, whose last second it
is. -/
theorem timeOfDay_lt_iff {s s' n n' : Nat} (hs : s < 86400) (hs' : s' < 86400)
    (hn : n < 2000000000) (hn' : n' < 2000000000) (hl : 1000000000 ≤ n → s % 60 = 59)
    (hl' : 1000000000 ≤ n' → s' % 60 = 59) :
    [s / 3600, s / 60 % 60, if n ≥ 1000000000 then 60 else s % 60, n % 1000000000] <
        [s' / 3600, s' / 60 % 60, if n' ≥ 1000000000 then 60 else s' % 60, n' % 1000000000] ↔
      s < s' ∨ (s = s' ∧ n < n') := by
  simp only [List.cons_lt_cons_iff, List.not_lt_nil, and_false, or_false]
  by_cases h : 1000000000 ≤ n <;> by_cases h' : 1000000000 ≤ n' <;>
    simp only [ge_iff_le, h, h', if_true, if_false, true_implies, false_implies, true_and,
      lt_self_iff_false, false_or] at hl hl' ⊢ <;>
    omega

theorem timeFields_lt_iff {a b : Instant} (ha : a.Storable) (hb : b.Storable) :
    [a.hour, a.minute, a.writtenSecond, a.nano % nanosPerSecond] <
        [b.hour, b.minute, b.writtenSecond, b.nano % nanosPerSecond] ↔
      a.second < b.second ∨ (a.second = b.second ∧ a.nano < b.nano) :=
  timeOfDay_lt_iff ha.second_lt hb.second_lt ha.nano_lt hb.nano_lt ha.leap hb.leap

/-- The date as written compares as the day count. -/
theorem dateFields_lt_iff {a b : Instant} (ha : a.Storable) (hb : b.Storable) :
    [a.date.year.toNat, a.date.month, a.date.day] < [b.date.year.toNat, b.date.month, b.date.day] ↔
      a.days < b.days := by
  rw [← Date.ofDays_before_iff]
  have := ha.year_nonneg
  have := hb.year_nonneg
  unfold Instant.date at *
  simp only [List.cons_lt_cons_iff, List.not_lt_nil, and_false, or_false, Date.before,
    Bool.or_eq_true, Bool.and_eq_true, decide_eq_true_eq, beq_iff_eq]
  omega

theorem dateFields_eq_iff {a b : Instant} (ha : a.Storable) (hb : b.Storable) :
    [a.date.year.toNat, a.date.month, a.date.day] = [b.date.year.toNat, b.date.month, b.date.day] ↔
      a.days = b.days := by
  have := ha.year_nonneg
  have := hb.year_nonneg
  constructor
  · intro h
    simp only [List.cons.injEq, and_true] at h
    have hdate : a.date = b.date := by
      obtain ⟨hy, hm, hd⟩ := h
      show (⟨a.date.year, a.date.month, a.date.day⟩ : Date) = ⟨b.date.year, b.date.month, b.date.day⟩
      rw [hm, hd, show a.date.year = b.date.year by omega]
    unfold Instant.date at hdate
    rw [← Date.toDays_ofDays a.days, hdate, Date.toDays_ofDays]
  · intro h
    simp [Instant.date, h]

/-- Stored timestamps compare as the instants they write. -/
theorem Instant.before_iff_fields_lt {a b : Instant} (ha : a.Storable) (hb : b.Storable) :
    a.before b = true ↔ a.fields < b.fields := by
  have hsplit : ∀ t : Instant, t.fields = [t.date.year.toNat, t.date.month, t.date.day] ++
      [t.hour, t.minute, t.writtenSecond, t.nano % nanosPerSecond] := fun t => rfl
  rw [hsplit, hsplit, append_lt_append_iff (by simp), dateFields_lt_iff ha hb, dateFields_eq_iff ha hb,
    timeFields_lt_iff ha hb]
  simp only [Instant.before, Bool.or_eq_true, Bool.and_eq_true, decide_eq_true_eq, beq_iff_eq]

/-- Comparing the stored texts of two instants is comparing the instants. -/
theorem Instant.rfc3339Offset_lt_iff {a b : Instant} (ha : a.Storable) (hb : b.Storable) :
    a.rfc3339Offset < b.rfc3339Offset ↔ a.before b = true := by
  obtain ⟨hy, hmo, hd⟩ := ha.date_bounds
  obtain ⟨hh, hmi, hs, hn⟩ := ha.time_bounds
  obtain ⟨hy', hmo', hd'⟩ := hb.date_bounds
  obtain ⟨hh', hmi', hs', hn'⟩ := hb.time_bounds
  show a.rfc3339Offset.toList < b.rfc3339Offset.toList ↔ _
  rw [Instant.toList_rfc3339Offset ha, Instant.toList_rfc3339Offset hb,
    stampChars_lt_iff hy hmo hd hh hmi hs hn hy' hmo' hd' hh' hmi' hs' hn',
    Instant.before_iff_fields_lt ha hb]
  rfl

/-- Two instants have the same stored text only when they are the same instant. -/
theorem Instant.rfc3339Offset_inj {a b : Instant} (ha : a.Storable) (hb : b.Storable) :
    a.rfc3339Offset = b.rfc3339Offset ↔ a = b := by
  refine ⟨fun h => ?_, fun h => h ▸ rfl⟩
  rcases Instant.before_trichotomy a b with hab | hab | hba
  · have := (Instant.rfc3339Offset_lt_iff ha hb).2 hab
    rw [h] at this
    exact absurd this (List.lt_irrefl _)
  · exact hab
  · have := (Instant.rfc3339Offset_lt_iff hb ha).2 hba
    rw [h] at this
    exact absurd this (List.lt_irrefl _)

theorem string_compare_eq (x y : String) : compare x y = compareOfLessAndEq x y := rfl

/-- The store's comparison of two stored timestamps is the comparison of the instants. -/
theorem Instant.compare_rfc3339Offset {a b : Instant} (ha : a.Storable) (hb : b.Storable) :
    compare a.rfc3339Offset b.rfc3339Offset =
      if a.before b then .lt else if a = b then .eq else .gt := by
  rw [string_compare_eq, compareOfLessAndEq]
  by_cases hab : a.before b = true
  · rw [if_pos ((Instant.rfc3339Offset_lt_iff ha hb).2 hab), if_pos hab]
  · rw [if_neg (mt (Instant.rfc3339Offset_lt_iff ha hb).1 hab), if_neg hab]
    by_cases he : a = b
    · rw [if_pos ((Instant.rfc3339Offset_inj ha hb).2 he), if_pos he]
    · rw [if_neg (mt (Instant.rfc3339Offset_inj ha hb).1 he), if_neg he]

end SnapshotAgent.Time
