import Mathlib
import SnapshotAgent.Proofs.Time.TextOrder
import SnapshotAgent.Time.Layout
/-!
# Reading stored timestamps back

The store writes an instant as RFC 3339 text with zone `+00:00` (`Instant.rfc3339Offset`) and
reads a stored timestamp with `decodeStamp`, which tries the RFC 3339 reader first. This file
proves that, for the instants the store can write (`Instant.Storable`), the reader answers the
instant the text was written from.

The reader takes the fields in the order they are written, each with a fixed number of digits
(`takeDigits_fixedDigits`). The fraction of a second is written with its trailing zeros cut and
read back with zeros put in their places (`takeFraction_fractionDigitChars`), and a leap second,
written as second 60, is read back into the nanoseconds (`Instant.Storable.toInstant_fields`).
-/

namespace SnapshotAgent.Time

/-! ## Digits -/

/-- One decimal step of the digit readers. -/
theorem takeDigits_succ_cons (n : Nat) (c : Char) (cs : List Char) (acc : Nat)
    (hc : c.isDigit = true) :
    takeDigits (n + 1) (c :: cs) acc = takeDigits n cs (acc * 10 + (c.toNat - 48)) := by
  rw [takeDigits, if_pos hc]

/-- Reading as many digits as a list of digits holds reads the whole list. -/
theorem takeDigits_append {l : List Char} (hl : ∀ c ∈ l, c.isDigit = true) (rest : List Char)
    (acc : Nat) :
    takeDigits l.length (l ++ rest) acc =
      some (l.foldl (fun acc c => acc * 10 + (c.toNat - 48)) acc, rest) := by
  induction l generalizing acc with
  | nil => rfl
  | cons c l ih =>
    rw [List.length_cons, List.cons_append, takeDigits_succ_cons _ _ _ _ (hl c List.mem_cons_self),
      ih (fun x hx => hl x (List.mem_cons_of_mem c hx)), List.foldl_cons]

theorem isDigit_digitChar : ∀ d < 10, (Nat.digitChar d).isDigit = true := by decide

theorem isDigit_of_mem_fixedDigits {w n : Nat} {c : Char} (hc : c ∈ fixedDigits w n) :
    c.isDigit = true := by
  induction w generalizing n with
  | zero => simp [fixedDigits] at hc
  | succ w ih =>
    simp only [fixedDigits, List.mem_append, List.mem_singleton] at hc
    rcases hc with hc | rfl
    · exact ih hc
    · exact isDigit_digitChar _ (Nat.mod_lt n (by omega))

theorem foldl_fixedDigits (w n acc : Nat) :
    (fixedDigits w n).foldl (fun acc c => acc * 10 + (c.toNat - 48)) acc =
      acc * 10 ^ w + n % 10 ^ w := by
  induction w generalizing n with
  | zero => simp [fixedDigits, Nat.mod_one]
  | succ w ih =>
    rw [fixedDigits, List.foldl_append, ih, List.foldl_cons, List.foldl_nil,
      Nat.toNat_digitChar_of_lt_ten (Nat.mod_lt n (by omega)), Nat.pow_succ,
      Nat.mul_comm (10 ^ w) 10, Nat.mod_mul]
    simp only [Nat.add_sub_cancel_left]
    ring

/-- A number written with `w` digits reads back as its last `w` digits. -/
theorem takeDigits_fixedDigits (w n : Nat) (rest : List Char) (acc : Nat) :
    takeDigits w (fixedDigits w n ++ rest) acc = some (acc * 10 ^ w + n % 10 ^ w, rest) := by
  have h := takeDigits_append (fun _ => isDigit_of_mem_fixedDigits) rest acc (l := fixedDigits w n)
  rwa [length_fixedDigits, foldl_fixedDigits] at h

/-! ## The fraction of a second -/

theorem foldl_zeros (k acc : Nat) :
    (List.replicate k '0').foldl (fun acc c => acc * 10 + (c.toNat - 48)) acc = acc * 10 ^ k := by
  induction k generalizing acc with
  | zero => simp
  | succ k ih =>
    rw [List.replicate_succ, List.foldl_cons, ih, Nat.pow_succ']
    simp only [show ('0' : Char).toNat - 48 = 0 from rfl, Nat.add_zero, Nat.mul_assoc]

theorem isDigit_of_mem_fractionDigitChars {n : Nat} {c : Char} (hc : c ∈ fractionDigitChars n) :
    c.isDigit = true := by
  unfold fractionDigitChars at hc
  split at hc
  · exact isDigit_of_mem_fixedDigits hc
  · split at hc
    · exact isDigit_of_mem_fixedDigits hc
    · exact isDigit_of_mem_fixedDigits hc

theorem fractionDigitChars_ne_nil (n : Nat) : fractionDigitChars n ≠ [] := by
  apply List.ne_nil_of_length_pos
  unfold fractionDigitChars
  split
  · rw [length_fixedDigits]; decide
  · split
    · rw [length_fixedDigits]; decide
    · rw [length_fixedDigits]; decide

/-- The digits written for a fraction read back as the fraction. -/
theorem takeFraction_fractionDigitChars {n : Nat} (hn : n < 10 ^ 9) (z : List Char) :
    takeFraction (fractionDigitChars n ++ '+' :: z) = some (n, '+' :: z) := by
  have hdigits : ∀ c ∈ fractionDigitChars n, c.isDigit = true :=
    fun _ => isDigit_of_mem_fractionDigitChars
  have hplus : ('+' : Char).isDigit = false := rfl
  have htake :
      (fractionDigitChars n ++ '+' :: z).takeWhile Char.isDigit = fractionDigitChars n := by
    rw [List.takeWhile_append_of_pos hdigits, List.takeWhile_cons_of_neg (by simp [hplus]),
      List.append_nil]
  have hdrop : (fractionDigitChars n ++ '+' :: z).dropWhile Char.isDigit = '+' :: z := by
    rw [List.dropWhile_append_of_pos hdigits, List.dropWhile_cons_of_neg (by simp [hplus])]
  -- the digits with the cut zeros put back are the nine digits of the fraction
  have hvalue := foldl_fixedDigits 9 n 0
  rw [← fractionDigitChars_append_zeros n, List.foldl_append, foldl_zeros] at hvalue
  unfold takeFraction
  rw [htake, hdrop, if_neg (by simpa using fractionDigitChars_ne_nil n),
    List.take_of_length_le (length_fractionDigitChars_le n)]
  dsimp only
  rw [Nat.pow_eq, hvalue, Nat.mod_eq_of_lt hn, Nat.zero_mul, Nat.zero_add]

/-! ## Date, time and zone -/

theorem expectChar_cons_self (c : Char) (cs : List Char) : expectChar c (c :: cs) = some cs := by
  rw [expectChar, if_pos rfl]

theorem takeDigits_fixedDigits_of_lt {w n : Nat} (hn : n < 10 ^ w) (rest : List Char) :
    takeDigits w (fixedDigits w n ++ rest) 0 = some (n, rest) := by
  rw [takeDigits_fixedDigits, Nat.zero_mul, Nat.zero_add, Nat.mod_eq_of_lt hn]

/-- The date and time of a stored timestamp read back as the fields written. -/
theorem readDateTime_stampChars {y mo d h mi s : Nat} (hy : y < 10 ^ 4) (hmo : mo < 10 ^ 2)
    (hd : d < 10 ^ 2) (hh : h < 10 ^ 2) (hmi : mi < 10 ^ 2) (hs : s < 10 ^ 2) (n : Nat) :
    readDateTime (stampChars y mo d h mi s n) ['T', 't', ' '] =
      some (⟨y, mo, d, h, mi, s, 0⟩, fractionChars n ++ "+00:00".toList) := by
  have hchars : stampChars y mo d h mi s n = fixedDigits 4 y ++ '-' :: (fixedDigits 2 mo ++ '-' ::
      (fixedDigits 2 d ++ 'T' :: (fixedDigits 2 h ++ ':' :: (fixedDigits 2 mi ++ ':' ::
        (fixedDigits 2 s ++ (fractionChars n ++ "+00:00".toList)))))) := by
    simp only [stampChars, List.append_assoc, List.cons_append]
  rw [hchars]
  unfold readDateTime
  rw [takeDigits_fixedDigits_of_lt hy]
  dsimp only [Option.bind_eq_bind, Option.bind_some]
  rw [expectChar_cons_self]
  dsimp only [Option.bind_some]
  rw [takeDigits_fixedDigits_of_lt hmo]
  dsimp only [Option.bind_some]
  rw [expectChar_cons_self]
  dsimp only [Option.bind_some]
  rw [takeDigits_fixedDigits_of_lt hd]
  dsimp only [Option.bind_some]
  rw [if_pos (by decide), takeDigits_fixedDigits_of_lt hh]
  dsimp only [Option.bind_some]
  rw [expectChar_cons_self]
  dsimp only [Option.bind_some]
  rw [takeDigits_fixedDigits_of_lt hmi]
  dsimp only [Option.bind_some]
  rw [expectChar_cons_self]
  dsimp only [Option.bind_some]
  rw [takeDigits_fixedDigits_of_lt hs]
  rfl

/-- The fields a stored timestamp writes name the instant again. -/
theorem Instant.Storable.toInstant_fields {t : Instant} (ht : t.Storable) :
    DateTimeFields.toInstant ⟨t.date.year.toNat, t.date.month, t.date.day, t.hour, t.minute,
      t.writtenSecond, t.nano % nanosPerSecond⟩ 0 = some t := by
  have hdate :
      ({ year := (t.date.year.toNat : Int), month := t.date.month, day := t.date.day } : Date) =
        t.date := by
    rw [Int.toNat_of_nonneg ht.year_nonneg]
  have hvalid : t.date.isValid = true := Date.ofDays_isValid t.days
  have htoDays : t.date.toDays = t.days := Date.toDays_ofDays t.days
  have hs := ht.second_lt
  have hn := ht.nano_lt
  have hh : t.hour ≤ 23 := by unfold Instant.hour; omega
  have hmi : t.minute ≤ 59 := by unfold Instant.minute; omega
  -- a second of the day read back as itself
  have hday : ∀ wall : Int, wall = t.second →
      some (⟨t.date.toDays + (wall - 0) / 86400, ((wall - 0) % 86400).toNat, t.nano⟩ : Instant)
        = some t := by
    rintro wall rfl
    rw [Int.sub_zero, htoDays, Int.ediv_eq_zero_of_lt (by omega) (by omega),
      Int.emod_eq_of_lt (by omega) (by omega), Int.add_zero, Int.toNat_natCast]
  have hrange : ∀ sec ≤ 60,
      (!true || decide (t.hour > 23) || decide (t.minute > 59) || decide (sec > 60)) = false := by
    intro sec hsec
    simp only [Bool.not_true, Bool.false_or, Bool.or_eq_false_iff, decide_eq_false_iff_not]
    omega
  unfold DateTimeFields.toInstant Instant.writtenSecond
  dsimp only
  rw [hdate, hvalid]
  unfold nanosPerSecond at *
  by_cases hleap : t.nano ≥ 1000000000
  · -- a leap second is written as second 60 and read back into the nanoseconds
    have h59 := ht.leap hleap
    have hnano : t.nano % 1000000000 + 1000000000 = t.nano := by omega
    rw [if_pos hleap, hrange 60 le_rfl, if_neg Bool.false_ne_true, if_pos rfl]
    dsimp only
    rw [hnano]
    exact hday _ (by unfold Instant.hour Instant.minute; omega)
  · have hnano : t.nano % 1000000000 = t.nano := by omega
    have hsec : t.secondOfMinute < 60 := Nat.mod_lt _ (by omega)
    rw [if_neg hleap, hrange _ (by omega), if_neg Bool.false_ne_true, if_neg (by omega)]
    dsimp only
    rw [hnano]
    exact hday _ (by unfold Instant.hour Instant.minute Instant.secondOfMinute; omega)

/-! ## The whole timestamp -/

theorem readZone_utc : readZone "+00:00".toList = some (0, []) := rfl

/-- A stored timestamp reads back as the instant it was written from. -/
theorem Instant.readRfc3339_rfc3339Offset {t : Instant} (ht : t.Storable) :
    Instant.readRfc3339 t.rfc3339Offset = some t := by
  obtain ⟨hy, hmo, hd⟩ := ht.date_bounds
  obtain ⟨hh, hmi, hs, hn⟩ := ht.time_bounds
  unfold Instant.readRfc3339
  rw [Instant.toList_rfc3339Offset ht, readDateTime_stampChars hy hmo hd hh hmi hs]
  have hf := ht.toInstant_fields
  have hutc : "+00:00".toList = '+' :: "00:00".toList := rfl
  -- the fraction is written only when it is not zero
  by_cases h0 : t.nano % nanosPerSecond = 0
  · have hnone : fractionChars (t.nano % nanosPerSecond) = [] := by rw [h0]; rfl
    rw [hnone, List.nil_append]
    dsimp only [Option.bind_eq_bind, Option.bind_some]
    rw [h0] at hf
    split
    next r heq => simp [hutc] at heq
    next =>
      rw [readZone_utc, Option.bind_some, if_neg (by decide)]
      exact hf
  · simp only [fractionChars, h0, if_neg, not_false_eq_true, List.cons_append, Option.bind_eq_bind,
      Option.bind_some, hutc, takeFraction_fractionDigitChars hn, Option.map_some]
    rw [← hutc, readZone_utc, Option.bind_some, if_neg (by decide)]
    exact hf

/-- A stored timestamp is decoded as the instant it was written from: its first reader, RFC 3339,
already answers. -/
theorem decodeStamp_rfc3339Offset {t : Instant} (ht : t.Storable) :
    decodeStamp t.rfc3339Offset = some t := by
  unfold decodeStamp
  rw [Instant.readRfc3339_rfc3339Offset ht]

end SnapshotAgent.Time
