import Mathlib
import SnapshotAgent.Upload.Report
import SnapshotAgent.Proofs.Time.TextOrder
/-!
# Elapsed times

The status report shows how long an upload has run as hours, minutes and seconds, dropping the
leading units that are zero: `5s`, `1m05s`, `1h02m03s`. It counts whole seconds, truncated
towards zero, and a time that has not started counts none (`shownSeconds`).

This file describes the texts it writes without the printer: `ElapsedText t n` says that `t` is
the leading unit in decimal, without leading zeros, then each smaller unit in two digits, and
that the units add up to `n`. It reads them back with `readElapsed`, which adds up each number by
the unit letter that follows it, so a text names one count of seconds and two elapsed times are
written alike exactly when they show the same count.

## Main statement

`elapsed_text_encoding`: every elapsed time is written in the three-unit, two-unit or one-unit
form that its count calls for, and reads back as that count; two times have the same text
exactly when they show the same count; a text starts with the digit zero only for a count of
zero; and a time of no whole seconds, or fewer, is `0s`.
-/

namespace SnapshotAgent.Upload

open SnapshotAgent.Time

/-! ## The texts -/

/-- The whole seconds an elapsed time shows: none for a time that is negative. -/
def shownSeconds (d : Span) : Nat := (max d.wholeSeconds 0).toNat

/-- The texts of an elapsed time and the seconds they stand for: the leading unit in decimal,
without leading zeros and not zero unless it is the seconds, then the smaller units in two
digits each, each below sixty. -/
inductive ElapsedText : List Char → Nat → Prop
  | hours {h m s : Nat} : 0 < h → m < 60 → s < 60 →
      ElapsedText (Nat.toDigits 10 h ++ 'h' :: (fixedDigits 2 m ++ 'm' :: (fixedDigits 2 s ++ ['s'])))
        (3600 * h + 60 * m + s)
  | minutes {m s : Nat} : 0 < m → m < 60 → s < 60 →
      ElapsedText (Nat.toDigits 10 m ++ 'm' :: (fixedDigits 2 s ++ ['s'])) (60 * m + s)
  | seconds {s : Nat} : s < 60 → ElapsedText (Nat.toDigits 10 s ++ ['s']) s

/-- One character of an elapsed time, read onto the seconds so far and the number being read: a
unit letter adds the number in its unit, a digit extends the number. -/
def elapsedStep (acc : Nat × Nat) (c : Char) : Nat × Nat :=
  if c = 'h' then (acc.1 + 3600 * acc.2, 0)
  else if c = 'm' then (acc.1 + 60 * acc.2, 0)
  else if c = 's' then (acc.1 + acc.2, 0)
  else (acc.1, 10 * acc.2 + (c.toNat - '0'.toNat))

/-- The seconds an elapsed time's text stands for. -/
def readElapsed (t : List Char) : Nat := (t.foldl elapsedStep (0, 0)).1

/-! ## Reading back -/

theorem elapsedStep_digit {c : Char} (hc : c.isDigit = true) (tot cur : Nat) :
    elapsedStep (tot, cur) c = (tot, 10 * cur + (c.toNat - '0'.toNat)) := by
  have hh : c ≠ 'h' := fun h => by subst h; simp at hc
  have hm : c ≠ 'm' := fun h => by subst h; simp at hc
  have hs : c ≠ 's' := fun h => by subst h; simp at hc
  simp [elapsedStep, hh, hm, hs]

theorem elapsedStep_hours (tot cur : Nat) : elapsedStep (tot, cur) 'h' = (tot + 3600 * cur, 0) := by
  simp [elapsedStep]

theorem elapsedStep_minutes (tot cur : Nat) : elapsedStep (tot, cur) 'm' = (tot + 60 * cur, 0) := by
  simp [elapsedStep]

theorem elapsedStep_seconds (tot cur : Nat) : elapsedStep (tot, cur) 's' = (tot + cur, 0) := by
  simp [elapsedStep]

/-- A run of digits is read as its decimal value, with the seconds so far left alone. -/
theorem foldl_elapsedStep_digits {ds : List Char} (hds : ∀ c ∈ ds, c.isDigit) (tot cur : Nat) :
    ds.foldl elapsedStep (tot, cur) = (tot, Nat.ofDigitChars 10 ds cur) := by
  induction ds generalizing cur with
  | nil => rfl
  | cons c cs ih =>
    rw [List.foldl_cons, elapsedStep_digit (hds c List.mem_cons_self),
      ih (fun c' h => hds c' (List.mem_cons_of_mem c h)), Nat.ofDigitChars_cons]

theorem isDigit_of_mem_fixedDigits {w n : Nat} {c : Char} (h : c ∈ fixedDigits w n) :
    c.isDigit = true := by
  induction w generalizing n with
  | zero => simp [fixedDigits] at h
  | succ w ih =>
    rcases List.mem_append.1 h with h | h
    · exact ih h
    · rw [List.mem_singleton.1 h, Nat.isDigit_digitChar]
      exact decide_eq_true (Nat.mod_lt _ (by decide))

theorem ofDigitChars_fixedDigits {w n : Nat} (hn : n < 10 ^ w) :
    Nat.ofDigitChars 10 (fixedDigits w n) 0 = n := by
  induction w generalizing n with
  | zero => simp_all [fixedDigits]
  | succ w ih =>
    rw [fixedDigits, Nat.ofDigitChars_append, ih (div_ten_lt hn),
      Nat.ofDigitChars_cons_digitChar_of_lt_ten (Nat.mod_lt _ (by decide)), Nat.ofDigitChars_nil]
    omega

/-- A number followed by its unit letter adds it in that unit. -/
theorem foldl_number_unit {ds : List Char} (hds : ∀ c ∈ ds, c.isDigit) (tot : Nat) (u : Char)
    (rest : List Char) :
    (ds ++ u :: rest).foldl elapsedStep (tot, 0) =
      rest.foldl elapsedStep (elapsedStep (tot, Nat.ofDigitChars 10 ds 0) u) := by
  rw [List.foldl_append, foldl_elapsedStep_digits hds, List.foldl_cons]

/-- Every elapsed time's text reads back as its seconds. -/
theorem readElapsed_of_elapsedText {t : List Char} {n : Nat} (h : ElapsedText t n) :
    readElapsed t = n := by
  have hdec : ∀ k, ∀ c ∈ Nat.toDigits 10 k, c.isDigit = true := fun _ _ hc =>
    Nat.isDigit_of_mem_toDigits (by decide) (by decide) hc
  have hfix : ∀ w k, ∀ c ∈ fixedDigits w k, c.isDigit = true := fun _ _ _ hc =>
    isDigit_of_mem_fixedDigits hc
  cases h with
  | hours hh hm hs =>
    rw [readElapsed, foldl_number_unit (hdec _), Nat.ofDigitChars_ten_toDigits, elapsedStep_hours,
      foldl_number_unit (hfix 2 _), ofDigitChars_fixedDigits (by omega), elapsedStep_minutes,
      foldl_number_unit (hfix 2 _) _ 's' [], ofDigitChars_fixedDigits (by omega),
      elapsedStep_seconds, List.foldl_nil]
    omega
  | minutes hm hm' hs =>
    rw [readElapsed, foldl_number_unit (hdec _), Nat.ofDigitChars_ten_toDigits,
      elapsedStep_minutes, foldl_number_unit (hfix 2 _) _ 's' [],
      ofDigitChars_fixedDigits (by omega), elapsedStep_seconds, List.foldl_nil]
    omega
  | seconds hs =>
    rw [readElapsed, foldl_number_unit (hdec _) 0 's' [], Nat.ofDigitChars_ten_toDigits,
      elapsedStep_seconds, List.foldl_nil]
    omega

/-! ## Leading zeros -/

/-- A positive number's decimal digits do not start with zero. -/
theorem head_toDigits_ne_zero {n : Nat} (hn : 0 < n) : (Nat.toDigits 10 n).head? ≠ some '0' := by
  induction n using Nat.strong_induction_on with
  | _ n ih =>
    rw [Nat.toDigits_eq_if (by decide)]
    split
    · next hlt =>
      rw [List.head?_cons, Ne, Option.some.injEq, show '0' = Nat.digitChar 0 from rfl,
        digitChar_inj hlt (by decide)]
      omega
    · next hge =>
      obtain ⟨c, cs, hcs⟩ := List.exists_cons_of_ne_nil (Nat.toDigits_ne_nil (b := 10) (n := n / 10))
      have hhead := ih (n / 10) (by omega) (by omega)
      rw [hcs] at hhead ⊢
      simpa using hhead

theorem head?_toDigits_append (n : Nat) (l : List Char) :
    (Nat.toDigits 10 n ++ l).head? = (Nat.toDigits 10 n).head? := by
  obtain ⟨c, cs, hcs⟩ := List.exists_cons_of_ne_nil (Nat.toDigits_ne_nil (b := 10) (n := n))
  rw [hcs]
  rfl

/-- A text starts with the digit zero only when it stands for no seconds. -/
theorem eq_zero_of_head_zero {t : List Char} {n : Nat} (h : ElapsedText t n)
    (h0 : t.head? = some '0') : n = 0 := by
  cases h with
  | hours hh =>
    rw [head?_toDigits_append] at h0
    exact absurd h0 (head_toDigits_ne_zero hh)
  | minutes hm =>
    rw [head?_toDigits_append] at h0
    exact absurd h0 (head_toDigits_ne_zero hm)
  | @seconds s _ =>
    rw [head?_toDigits_append] at h0
    by_contra hs
    exact head_toDigits_ne_zero (Nat.pos_of_ne_zero hs) h0

/-! ## The printer -/

/-- The report writes an elapsed time in the form its count of seconds calls for. -/
theorem elapsedText_formatElapsed (d : Span) :
    ElapsedText (formatElapsed d).toList (shownSeconds d) := by
  have hpad := fun k (hk : k < 60) => toList_padded (w := 2) (n := k) (by decide) (by omega)
  have hsplit := Nat.div_add_mod (shownSeconds d) 3600
  have hsplit' := Nat.div_add_mod (shownSeconds d % 3600) 60
  unfold formatElapsed
  rw [← shownSeconds]
  dsimp only
  split
  · next hh =>
    simp only [String.toList_append, Nat.toString_eq_repr, Nat.toList_repr,
      hpad _ (by omega : shownSeconds d % 3600 / 60 < 60), hpad _ (Nat.mod_lt _ (by decide))]
    have hform := ElapsedText.hours hh (by omega : shownSeconds d % 3600 / 60 < 60)
      (Nat.mod_lt (shownSeconds d) (by decide : 60 > 0))
    rw [show 3600 * (shownSeconds d / 3600) + 60 * (shownSeconds d % 3600 / 60) +
      shownSeconds d % 60 = shownSeconds d by omega] at hform
    simpa using hform
  split
  · next hh hm =>
    simp only [String.toList_append, Nat.toString_eq_repr, Nat.toList_repr,
      hpad _ (Nat.mod_lt _ (by decide))]
    have hform := ElapsedText.minutes hm (by omega : shownSeconds d % 3600 / 60 < 60)
      (Nat.mod_lt (shownSeconds d) (by decide : 60 > 0))
    rw [show 60 * (shownSeconds d % 3600 / 60) + shownSeconds d % 60 = shownSeconds d by omega]
      at hform
    simpa using hform
  · next hh hm =>
    simp only [String.toList_append, Nat.toString_eq_repr, Nat.toList_repr]
    have hform := ElapsedText.seconds (Nat.mod_lt (shownSeconds d) (by decide : 60 > 0))
    rw [show shownSeconds d % 60 = shownSeconds d by omega] at hform ⊢
    simpa using hform

/-- The text depends on the shown seconds alone. -/
theorem formatElapsed_congr {d₁ d₂ : Span} (h : shownSeconds d₁ = shownSeconds d₂) :
    formatElapsed d₁ = formatElapsed d₂ := by
  unfold formatElapsed
  rw [← shownSeconds, ← shownSeconds, h]

/-! ## The encoding -/

/-- Elapsed times are written faithfully: each in the form its shown seconds call for, reading
back as them, so two times are written alike exactly when they show the same seconds; a text
starts with the digit zero only when it shows none, and a time of no whole seconds, or fewer, is
written `0s`. -/
theorem elapsed_text_encoding :
    (∀ d : Span, ElapsedText (formatElapsed d).toList (shownSeconds d) ∧
      readElapsed (formatElapsed d).toList = shownSeconds d) ∧
    (∀ d₁ d₂ : Span, formatElapsed d₁ = formatElapsed d₂ ↔ shownSeconds d₁ = shownSeconds d₂) ∧
    (∀ d : Span, (formatElapsed d).toList.head? = some '0' → shownSeconds d = 0) ∧
    ∀ d : Span, d.wholeSeconds ≤ 0 → formatElapsed d = "0s" := by
  have hread : ∀ d : Span, readElapsed (formatElapsed d).toList = shownSeconds d := fun d =>
    readElapsed_of_elapsedText (elapsedText_formatElapsed d)
  refine ⟨fun d => ⟨elapsedText_formatElapsed d, hread d⟩, fun d₁ d₂ => ⟨fun h => ?_,
    formatElapsed_congr⟩, fun d => eq_zero_of_head_zero (elapsedText_formatElapsed d),
    formatElapsed_neg⟩
  rw [← hread d₁, ← hread d₂, h]

/-- A negative time shows no seconds and is written `0s`. -/
theorem negative_elapsed_is_zero :
    ((formatElapsed (Span.ofSeconds (-3))).toList.head? = some '0' ∧
      (Span.ofSeconds (-3)).wholeSeconds ≤ 0) ∧
    shownSeconds (Span.ofSeconds (-3)) = 0 ∧ formatElapsed (Span.ofSeconds (-3)) = "0s" :=
  have hzero : (formatElapsed (Span.ofSeconds (-3))).toList.head? = some '0' := by decide +kernel
  have hneg : (Span.ofSeconds (-3)).wholeSeconds ≤ 0 := by decide
  ⟨⟨hzero, hneg⟩, elapsed_text_encoding.2.2.1 _ hzero, elapsed_text_encoding.2.2.2 _ hneg⟩

example : formatElapsed (Span.ofSeconds 3723) = "1h02m03s" := by decide +kernel
example : formatElapsed (Span.ofSeconds 65) = "1m05s" := by decide +kernel
example : formatElapsed ⟨5999999999⟩ = "5s" := by decide +kernel

end SnapshotAgent.Upload
