import Mathlib
import SnapshotAgent.Config.Duration
import SnapshotAgent.Proofs.Text.Join
import SnapshotAgent.Proofs.Json.ReadBack
/-!
# The grammar of durations

`parseDuration` reads a count and a unit. This file says which texts it accepts and how it
refuses the others, in terms of the parts of the trimmed text: its leading run of ASCII digits
(`countDigits`), the rest (`unitChars`) and that rest trimmed and lower-cased (`unitWord`).

* A text denotes a duration (`DenotesDuration`) when both parts are present, the count fits
  64 bits and the unit word names a `DurationUnit` whose scaling of the count fits (`DurationUnit.scale`).
* Any other text is refused for its first defect, in the order empty, missing unit, bad number,
  unknown unit, too large (`durationDefect`).

The fact about the integer reader that carries this is `readU64_digits`: over ASCII digits it
answers their decimal value, or `tooLarge` exactly when that value does not fit in 64 bits, so a
count with leading zeros reads like its short form. The split between count and unit is taken on
characters, and the count is all digits, so no position in it falls inside a character.
-/

namespace SnapshotAgent.Config

open SnapshotAgent.Text SnapshotAgent.Number SnapshotAgent.Time

/-! ## Reading a run of digits -/

theorem digitValue_of_isDigit {c : Char} (h : c.isDigit = true) :
    digitValue 10 c = some (c.toNat - '0'.toNat) := by
  have hc := Json.isDigit_toNat h
  unfold digitValue
  dsimp only
  rw [if_pos (show (0x30 ≤ c.toNat && c.toNat ≤ 0x39) = true by simp; omega), if_pos (by omega)]
  rfl

/-- Reading digits upwards from a count that fits gives their decimal value, unless that value
passes the bound: then the reading stops with `tooLarge`. The value only grows with each digit,
so the first step past the bound is followed by no step back under it. -/
theorem readUp_digits {hi : Int} :
    ∀ {ds : List Char} {acc : Nat}, (∀ c ∈ ds, c.isDigit = true) → (acc : Int) ≤ hi →
      readUp 10 hi acc ds =
        if hi < Nat.ofDigitChars 10 ds acc then .error .tooLarge
        else .ok (Nat.ofDigitChars 10 ds acc)
  | [], acc, _, hacc => by
    rw [Nat.ofDigitChars_nil, if_neg (by omega)]
    rfl
  | c :: cs, acc, hds, hacc => by
    have hc := hds c List.mem_cons_self
    have hcs : ∀ c ∈ cs, c.isDigit = true := fun c' h => hds c' (List.mem_cons_of_mem c h)
    have hgrow := Json.le_ofDigitChars cs (10 * acc + (c.toNat - '0'.toNat))
    rw [readUp, digitValue_of_isDigit hc, Nat.ofDigitChars_cons]
    dsimp only
    by_cases hstep : (acc : Int) * (10 : Nat) > hi
    · rw [if_pos hstep, if_pos (by push_cast at hstep hgrow ⊢; omega)]
    rw [if_neg hstep]
    by_cases hdigit : (acc : Int) * (10 : Nat) + ((c.toNat - '0'.toNat : Nat) : Int) > hi
    · rw [if_pos hdigit, if_pos (by push_cast at hdigit hgrow ⊢; omega)]
    rw [if_neg hdigit]
    have hnext : (acc : Int) * (10 : Nat) + ((c.toNat - '0'.toNat : Nat) : Int) =
        ((10 * acc + (c.toNat - '0'.toNat) : Nat) : Int) := by
      push_cast
      ring
    rw [hnext]
    exact readUp_digits hcs (by omega)

/-- A non-empty run of ASCII digits reads as a 64-bit count exactly when its value fits. -/
theorem readU64_digits {ds : List Char} (hne : ds ≠ []) (hds : ∀ c ∈ ds, c.isDigit = true) :
    readU64 (String.ofList ds) =
      if u64Max < Nat.ofDigitChars 10 ds 0 then .error .tooLarge
      else .ok (Nat.ofDigitChars 10 ds 0) := by
  obtain ⟨c, cs, rfl⟩ := List.exists_cons_of_ne_nil hne
  have hc := Json.isDigit_toNat (hds c List.mem_cons_self)
  have hplus : c ≠ '+' := fun h => by subst h; simp at hc
  have hminus : c ≠ '-' := fun h => by subst h; simp at hc
  have hread : readInRange 10 0 u64Max (String.ofList (c :: cs)) =
      readUp 10 u64Max ((0 : Nat) : Int) (c :: cs) := by
    unfold readInRange
    rw [String.toList_ofList]
    split
    · contradiction
    · simp_all
    · simp_all
    · simp_all
    · simp_all
    · rfl
  rw [readU64, hread, readUp_digits hds (by unfold u64Max; omega)]
  split <;> rfl

/-! ## The parts of a duration text -/

/-- The leading run of ASCII digits of the trimmed text. -/
def countDigits (s : String) : List Char := (trim s).toList.takeWhile Char.isDigit

/-- What follows the leading digits of the trimmed text. -/
def unitChars (s : String) : List Char := (trim s).toList.dropWhile Char.isDigit

/-- The unit as it is compared: what follows the digits, trimmed and lower-cased. -/
def unitWord (s : String) : String := lower (trim (String.ofList (unitChars s)))

/-- The decimal value of the leading digits. -/
def durationCount (s : String) : Nat := Nat.ofDigitChars 10 (countDigits s) 0

theorem isDigit_of_mem_countDigits {s : String} {c : Char} (h : c ∈ countDigits s) :
    c.isDigit = true :=
  List.mem_takeWhile_imp h

/-- The units a duration may be written in. -/
inductive DurationUnit where
  | millis
  | seconds
  | minutes
  | hours
  deriving DecidableEq, Repr

/-- The word of each unit. -/
def DurationUnit.word : DurationUnit → String
  | .millis => "ms"
  | .seconds => "s"
  | .minutes => "m"
  | .hours => "h"

/-- The unit a lower-case word names, if any. -/
def DurationUnit.ofWord? (w : String) : Option DurationUnit :=
  if w = "ms" then some .millis
  else if w = "s" then some .seconds
  else if w = "m" then some .minutes
  else if w = "h" then some .hours
  else none

/-- A count of seconds, if it fits 64 bits. -/
def secondsIfFit (n : Nat) : Option Duration :=
  if n ≤ maxSeconds then some (.ofSecs n) else none

/-- The duration of a count of a unit: milliseconds always, and seconds, minutes and hours when
their number of seconds fits 64 bits. -/
def DurationUnit.scale : DurationUnit → Nat → Option Duration
  | .millis, n => some (.ofMillis n)
  | .seconds, n => secondsIfFit n
  | .minutes, n => secondsIfFit (n * 60)
  | .hours, n => secondsIfFit (n * 3600)

theorem DurationUnit.ofWord?_word (u : DurationUnit) : DurationUnit.ofWord? u.word = some u := by
  cases u <;> decide

theorem DurationUnit.lower_word (u : DurationUnit) : lower u.word = u.word := by
  cases u <;> decide

/-- What a text denotes as the grammar reads it: a count of at most 64 bits followed by a unit
whose scaling of the count fits. -/
def DenotesDuration (s : String) (d : Duration) : Prop :=
  countDigits s ≠ [] ∧ unitChars s ≠ [] ∧ (durationCount s : Int) ≤ u64Max ∧
    ∃ u, DurationUnit.ofWord? (unitWord s) = some u ∧ u.scale (durationCount s) = some d

/-- The first defect of a duration text, in the order they are looked for; none when the text
denotes a duration. -/
def durationDefect (s : String) : Option DurationError :=
  if trim s = "" then some .empty
  else if unitChars s = [] then some (.missingUnit (trim s))
  else if countDigits s = [] then some (.badNumber "" .empty)
  else if u64Max < durationCount s then some (.badNumber (String.ofList (countDigits s)) .tooLarge)
  else match DurationUnit.ofWord? (unitWord s) with
    | none => some (.badUnit (unitWord s))
    | some u => if u.scale (durationCount s) = none then some (.tooLarge (trim s)) else none

/-- The reader's overflow test for a count of seconds is `secondsIfFit`'s. -/
theorem seconds_eq_secondsIfFit (n : Nat) (e : DurationError) :
    (if n > maxSeconds then .error e else .ok (Duration.ofSecs n) : Except DurationError Duration) =
      match secondsIfFit n with
      | some d => .ok d
      | none => .error e := by
  unfold secondsIfFit
  by_cases h : n ≤ maxSeconds
  · rw [if_neg (not_lt.2 h), if_pos h]
  · rw [if_pos (not_le.1 h), if_neg h]

section Parts

variable {s : String}

theorem parseDuration_of_count (ht : trim s ≠ "") (hu : unitChars s ≠ [])
    (hd : countDigits s ≠ []) (hc : (durationCount s : Int) ≤ u64Max) :
    parseDuration s =
      match DurationUnit.ofWord? (unitWord s) with
      | none => .error (.badUnit (unitWord s))
      | some u =>
        match u.scale (durationCount s) with
        | some d => .ok d
        | none => .error (.tooLarge (trim s)) := by
  have hread : readU64 (String.ofList ((trim s).toList.takeWhile Char.isDigit)) =
      .ok (durationCount s) := by
    unfold durationCount at hc ⊢
    rw [show (trim s).toList.takeWhile Char.isDigit = countDigits s from rfl,
      readU64_digits hd (fun _ => isDigit_of_mem_countDigits), if_neg (not_lt.2 hc)]
  have hempty : (trim s).isEmpty = false := by simpa [String.isEmpty_iff] using ht
  have hunit : ((trim s).toList.dropWhile Char.isDigit).isEmpty = false := by
    simpa [unitChars] using hu
  unfold parseDuration
  simp only [hempty, hunit, Bool.false_eq_true, if_false, hread]
  rw [show lower (trim (String.ofList ((trim s).toList.dropWhile Char.isDigit))) = unitWord s
    from rfl]
  unfold DurationUnit.ofWord?
  by_cases hms : unitWord s = "ms"
  · rw [if_pos hms, if_pos hms]
    rfl
  rw [if_neg hms, if_neg hms]
  by_cases hsec : unitWord s = "s"
  · rw [if_pos hsec, if_pos hsec, Nat.mul_one, seconds_eq_secondsIfFit]
    simp only [DurationUnit.scale]
  rw [if_neg hsec, if_neg hsec]
  by_cases hmin : unitWord s = "m"
  · rw [if_pos hmin, if_pos hmin, seconds_eq_secondsIfFit]
    simp only [DurationUnit.scale]
  rw [if_neg hmin, if_neg hmin]
  by_cases hhour : unitWord s = "h"
  · rw [if_pos hhour, if_pos hhour, seconds_eq_secondsIfFit]
    simp only [DurationUnit.scale]
  rw [if_neg hhour, if_neg hhour]

theorem parseDuration_of_trim_empty (ht : trim s = "") : parseDuration s = .error .empty := by
  have hempty : (trim s).isEmpty = true := by rw [ht]; rfl
  unfold parseDuration
  dsimp only
  rw [if_pos hempty]

theorem parseDuration_of_unitChars_nil (ht : trim s ≠ "") (hu : unitChars s = []) :
    parseDuration s = .error (.missingUnit (trim s)) := by
  have hempty : (trim s).isEmpty = false := by simpa [String.isEmpty_iff] using ht
  have hunit : ((trim s).toList.dropWhile Char.isDigit).isEmpty = true := by
    simpa [unitChars] using hu
  unfold parseDuration
  simp only [hempty, hunit, Bool.false_eq_true, if_false, if_true]

/-- With a unit present, a count that cannot be read is refused with the reader's own error. -/
theorem parseDuration_of_bad_count (ht : trim s ≠ "") (hu : unitChars s ≠ []) {e : IntegerError}
    (hread : readU64 (String.ofList (countDigits s)) = .error e) :
    parseDuration s = .error (.badNumber (String.ofList (countDigits s)) e) := by
  have hempty : (trim s).isEmpty = false := by simpa [String.isEmpty_iff] using ht
  have hunit : ((trim s).toList.dropWhile Char.isDigit).isEmpty = false := by
    simpa [unitChars] using hu
  unfold parseDuration
  simp only [hempty, hunit, Bool.false_eq_true, if_false]
  rw [show (trim s).toList.takeWhile Char.isDigit = countDigits s from rfl, hread]

/-- A text with a defect is refused for the first one. -/
theorem parseDuration_of_defect {e : DurationError} (h : durationDefect s = some e) :
    parseDuration s = .error e := by
  unfold durationDefect at h
  split_ifs at h with ht hu hd hc
  · cases h
    exact parseDuration_of_trim_empty ht
  · cases h
    exact parseDuration_of_unitChars_nil ht hu
  · cases h
    have hread := parseDuration_of_bad_count ht hu (e := .empty) (by rw [hd]; rfl)
    rwa [hd] at hread
  · cases h
    apply parseDuration_of_bad_count ht hu
    unfold durationCount at hc
    rw [readU64_digits hd (fun _ => isDigit_of_mem_countDigits), if_pos hc]
  · rw [parseDuration_of_count ht hu hd (not_lt.1 hc)]
    split at h
    · cases h
      rfl
    · split_ifs at h with hscale
      cases h
      rw [hscale]

/-- A text that denotes a duration reads as it. -/
theorem parseDuration_of_denotes {d : Duration} (h : DenotesDuration s d) :
    parseDuration s = .ok d := by
  obtain ⟨hd, hu, hc, u, hw, hscale⟩ := h
  have ht : trim s ≠ "" := by
    intro ht
    apply hu
    simp [unitChars, ht]
  rw [parseDuration_of_count ht hu hd hc, hw]
  simp only [hscale]

/-- A text without a defect denotes a duration. -/
theorem denotes_of_durationDefect_none (h : durationDefect s = none) :
    ∃ d, DenotesDuration s d := by
  unfold durationDefect at h
  split_ifs at h with ht hu hd hc
  split at h
  · cases h
  · rename_i u hw
    split_ifs at h with hscale
    obtain ⟨d, hd'⟩ := Option.ne_none_iff_exists'.1 hscale
    exact ⟨d, hd, hu, not_lt.1 hc, u, hw, hd'⟩

end Parts

/-! ## A count followed by a unit -/

theorem isBlank_of_isDigit {c : Char} (h : c.isDigit = true) : isBlank c = false := by
  have hc := Json.isDigit_toNat h
  simp only [isBlank, Bool.or_eq_false_iff, Bool.and_eq_false_iff, beq_eq_false_iff_ne, ne_eq,
    decide_eq_false_iff_not, not_le]
  omega

/-- A unit word starts with no digit, ends with no blank and is its own trimmed form. -/
theorem DurationUnit.word_parts (u : DurationUnit) :
    u.word.toList.takeWhile Char.isDigit = [] ∧
      u.word.toList.dropWhile Char.isDigit = u.word.toList ∧
      u.word.toList ≠ [] ∧ u.word.toList.all isBlank = false ∧
      dropTrailingBlanks u.word.toList = u.word.toList ∧ trim u.word = u.word := by
  cases u <;> decide

/-- A count written in decimal followed by a unit word denotes the unit's scaling of the count. -/
theorem denotes_toString_word (n : UInt64) (u : DurationUnit) {d : Duration}
    (h : u.scale n.toNat = some d) : DenotesDuration (toString n ++ u.word) d := by
  obtain ⟨htake, hdrop, hne, hblank, hend, htrim⟩ := u.word_parts
  have hdigits : ∀ ch ∈ Nat.toDigits 10 n.toNat, ch.isDigit = true :=
    fun ch hch => Nat.isDigit_of_mem_toDigits (by decide) (by decide) hch
  obtain ⟨d0, ds, hds⟩ :=
    List.exists_cons_of_ne_nil (Nat.toDigits_ne_nil (n := n.toNat) (b := 10))
  have htext : (toString n ++ u.word).toList = Nat.toDigits 10 n.toNat ++ u.word.toList := by
    rw [String.toList_append, show toString n = n.toNat.repr from rfl, Nat.toList_repr]
  have hfront : dropBlanks (Nat.toDigits 10 n.toNat ++ u.word.toList) =
      Nat.toDigits 10 n.toNat ++ u.word.toList := by
    rw [hds, List.cons_append, dropBlanks_cons,
      if_neg (by rw [isBlank_of_isDigit (hdigits d0 (by simp [hds]))]; decide)]
  have htrimmed :
      (trim (toString n ++ u.word)).toList = Nat.toDigits 10 n.toNat ++ u.word.toList := by
    rw [toList_trim, htext, hfront, dropTrailingBlanks_append, hblank, if_neg (by decide), hend]
  have hcount : countDigits (toString n ++ u.word) = Nat.toDigits 10 n.toNat := by
    rw [countDigits, htrimmed, List.takeWhile_append_of_pos hdigits, htake, List.append_nil]
  have hunit : unitChars (toString n ++ u.word) = u.word.toList := by
    rw [unitChars, htrimmed, List.dropWhile_append_of_pos hdigits, hdrop]
  have hvalue : durationCount (toString n ++ u.word) = n.toNat := by
    rw [durationCount, hcount, Nat.ofDigitChars_ten_toDigits]
  refine ⟨by rw [hcount]; exact Nat.toDigits_ne_nil, by rw [hunit]; exact hne, ?_, u, ?_, ?_⟩
  · have := n.toNat_lt
    rw [hvalue]
    unfold u64Max
    omega
  · rw [unitWord, hunit, String.ofList_toList, htrim, u.lower_word, u.ofWord?_word]
  · rw [hvalue, h]

/-- The grammar of durations. A text reads as a duration exactly when it denotes one, and is
refused exactly for its first defect; in particular a 64-bit count in decimal followed by a unit
word reads as the unit's scaling of the count whenever that fits. -/
theorem parseDuration_grammar :
    (∀ s d, parseDuration s = .ok d ↔ DenotesDuration s d) ∧
    (∀ s e, parseDuration s = .error e ↔ durationDefect s = some e) ∧
    (∀ (n : UInt64) (u : DurationUnit) d, u.scale n.toNat = some d →
      parseDuration (toString n ++ u.word) = .ok d) := by
  refine ⟨fun s d => ⟨fun h => ?_, parseDuration_of_denotes⟩, fun s e => ⟨fun h => ?_,
    parseDuration_of_defect⟩,
    fun n u d h => parseDuration_of_denotes (denotes_toString_word n u h)⟩
  · -- a reading that succeeds meets no defect, so the text denotes what it reads as
    cases hdef : durationDefect s with
    | some e => rw [parseDuration_of_defect hdef] at h; cases h
    | none =>
      obtain ⟨d', hd'⟩ := denotes_of_durationDefect_none hdef
      rw [parseDuration_of_denotes hd'] at h
      cases h
      exact hd'
  · cases hdef : durationDefect s with
    | some e' => rw [parseDuration_of_defect hdef] at h; cases h; rfl
    | none =>
      obtain ⟨d', hd'⟩ := denotes_of_durationDefect_none hdef
      rw [parseDuration_of_denotes hd'] at h
      cases h

/-- An hour and a half written in minutes. -/
theorem ninety_minutes_read :
    DurationUnit.minutes.scale (90 : UInt64).toNat = some (.ofSecs 5400) ∧
    parseDuration (toString (90 : UInt64) ++ DurationUnit.minutes.word) = .ok (.ofSecs 5400) :=
  ⟨by decide, parseDuration_grammar.2.2 90 .minutes _ (by decide)⟩

end SnapshotAgent.Config
