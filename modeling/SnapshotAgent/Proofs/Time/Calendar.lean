import Mathlib
import SnapshotAgent.Time.Civil
/-!
# The civil calendar

`Date.toDays` and `Date.ofDays` count days through eras of 400 years, each year taken to begin on
the first of March so that a leap day is the last day of its year. This file proves that the two
are inverse and that both keep the order of dates:

* `Date.ofDays_isValid`, `Date.toDays_ofDays`: every day count names a valid date, and counting
  the days of that date gives the count back.
* `Date.toDays_lt_toDays`: of two valid dates, the earlier one has the smaller count.
* `Date.ofDays_before`: a smaller count names an earlier date.

The arithmetic is split where the algorithm splits: an era into its years (`yearOfEra_spec`),
a year into its months (`monthOfYear_spec`). Each piece is linear once the quotients it needs are
named, and `omega` closes it; it does not find those quotients on its own.
-/

namespace SnapshotAgent.Time

/-! ## Years and months counted from March -/

/-- The year of its era that a day of an era falls in, from 0. -/
def yearOfEra (doe : Int) : Int := (doe - doe / 1460 + doe / 36524 - doe / 146096) / 365

/-- The first day of a year of an era, counted from the era's first day. -/
def yearStart (yoe : Int) : Int := 365 * yoe + yoe / 4 - yoe / 100

/-- The month, from 0 for March, that a day of a year counted from March falls in. -/
def monthOfYear (doy : Int) : Int := (5 * doy + 2) / 153

/-- The first day of a month, from 0 for March, counted from the first of March. -/
def monthStart (mp : Int) : Int := (153 * mp + 2) / 5

/-- The days from 0000-03-01 to the first of March of a year. -/
def marchYearStart (y : Int) : Int := 365 * y + y / 4 - y / 100 + y / 400

/-- A day of the first 399 years of an era that is not a leap day: its year is found by its
century, its four years in the century and its year in the four. -/
theorem yearOfEra_of_common {p q r d : Int} (hp : 0 ≤ p ∧ p ≤ 3) (hq : 0 ≤ q ∧ q ≤ 24)
    (hr : 0 ≤ r ∧ r ≤ 3) (hd : 0 ≤ d ∧ d ≤ 364) :
    yearOfEra (36524 * p + 1461 * q + 365 * r + d) = 100 * p + 4 * q + r := by
  unfold yearOfEra
  have hc : (36524 * p + 1461 * q + 365 * r + d) / 36524 = p := by omega
  have h4 : (36524 * p + 1461 * q + 365 * r + d) / 146096 = 0 := by omega
  -- a leap day is dropped for each four years, and one more once the days pass the fourth year
  have hy : 25 * p + q ≤ (36524 * p + 1461 * q + 365 * r + d) / 1460 ∧
      (36524 * p + 1461 * q + 365 * r + d) / 1460 ≤ 25 * p + q + 1 := by omega
  have hy' : (36524 * p + 1461 * q + 365 * r + d) / 1460 = 25 * p + q + 1 → 1 ≤ d := by omega
  omega

/-- The leap day that ends a fourth year inside a century. -/
theorem yearOfEra_of_leapDay {p q : Int} (hp : 0 ≤ p ∧ p ≤ 3) (hq : 0 ≤ q ∧ q ≤ 23) :
    yearOfEra (36524 * p + 1461 * q + 1460) = 100 * p + 4 * q + 3 := by
  unfold yearOfEra
  have hc : (36524 * p + 1461 * q + 1460) / 36524 = p := by omega
  have h4 : (36524 * p + 1461 * q + 1460) / 146096 = 0 := by omega
  have hy : (36524 * p + 1461 * q + 1460) / 1460 = 25 * p + q + 1 := by omega
  omega

/-- The first day of a year of an era, from its century, four years and year in the four. -/
theorem yearStart_of_parts {p q r : Int} (hq : 0 ≤ q ∧ q ≤ 24) (hr : 0 ≤ r ∧ r ≤ 3) :
    yearStart (100 * p + 4 * q + r) = 36524 * p + 1461 * q + 365 * r := by
  unfold yearStart
  have h4 : (100 * p + 4 * q + r) / 4 = 25 * p + q := by omega
  have h100 : (100 * p + 4 * q + r) / 100 = p := by omega
  omega

/-- A day of an era is a common day, a leap day inside a century, or the era's last day. -/
theorem dayOfEra_cases {doe : Int} (h0 : 0 ≤ doe) (h1 : doe ≤ 146096) :
    (∃ p q r d, (0 ≤ p ∧ p ≤ 3) ∧ (0 ≤ q ∧ q ≤ 24) ∧ (0 ≤ r ∧ r ≤ 3) ∧ (0 ≤ d ∧ d ≤ 364) ∧
      doe = 36524 * p + 1461 * q + 365 * r + d) ∨
    (∃ p q, (0 ≤ p ∧ p ≤ 3) ∧ (0 ≤ q ∧ q ≤ 23) ∧ doe = 36524 * p + 1461 * q + 1460) ∨
    doe = 146096 := by
  by_cases hlast : doe = 146096
  · exact .inr (.inr hlast)
  -- the century, the four years inside it, and the day inside those
  have hcen : doe / 36524 ≤ 3 := by omega
  by_cases hleap : doe % 36524 % 1461 = 1460
  · refine .inr (.inl ⟨doe / 36524, doe % 36524 / 1461, by omega, by omega, by omega⟩)
  · refine .inl ⟨doe / 36524, doe % 36524 / 1461, doe % 36524 % 1461 / 365,
      doe % 36524 % 1461 % 365, by omega, by omega, by omega, by omega, by omega⟩

/-- The year of an era that a day falls in starts on or before it and lasts at most 366 days;
its 366th day is a leap day, so the calendar year it ends in is a leap year. -/
theorem yearOfEra_spec {doe : Int} (h0 : 0 ≤ doe) (h1 : doe ≤ 146096) :
    0 ≤ yearOfEra doe ∧ yearOfEra doe ≤ 399 ∧ yearStart (yearOfEra doe) ≤ doe ∧
      doe ≤ yearStart (yearOfEra doe) + 365 ∧
      (doe = yearStart (yearOfEra doe) + 365 →
        (yearOfEra doe + 1) % 4 = 0 ∧ ((yearOfEra doe + 1) % 100 ≠ 0 ∨ yearOfEra doe = 399)) := by
  rcases dayOfEra_cases h0 h1 with ⟨p, q, r, d, hp, hq, hr, hd, rfl⟩ | ⟨p, q, hp, hq, rfl⟩ | rfl
  · rw [yearOfEra_of_common hp hq hr hd, yearStart_of_parts hq hr]
    omega
  · rw [yearOfEra_of_leapDay hp hq, yearStart_of_parts (by omega) (by omega)]
    omega
  · have : yearOfEra 146096 = 399 := by decide
    rw [this]
    decide

/-- A day of a year counted from March falls in a month that starts on or before it and, except
for the last month, ends after it. -/
theorem monthOfYear_spec (doy : Int) (h0 : 0 ≤ doy) (h1 : doy ≤ 365) :
    0 ≤ monthOfYear doy ∧ monthOfYear doy ≤ 11 ∧ monthStart (monthOfYear doy) ≤ doy ∧
      (monthOfYear doy < 11 → doy < monthStart (monthOfYear doy + 1)) := by
  unfold monthStart
  have hm : 0 ≤ monthOfYear doy ∧ monthOfYear doy ≤ 11 := by unfold monthOfYear; omega
  obtain ⟨m, hmeq⟩ : ∃ m, monthOfYear doy = m := ⟨_, rfl⟩
  rw [hmeq] at hm ⊢
  unfold monthOfYear at hmeq
  have : m = 0 ∨ m = 1 ∨ m = 2 ∨ m = 3 ∨ m = 4 ∨ m = 5 ∨ m = 6 ∨ m = 7 ∨ m = 8 ∨ m = 9 ∨
    m = 10 ∨ m = 11 := by omega
  rcases this with rfl | rfl | rfl | rfl | rfl | rfl | rfl | rfl | rfl | rfl | rfl | rfl <;> omega

/-- The month of a date counted from March: 0 for March, 11 for February. -/
def marchMonth (m : Nat) : Int := if m > 2 then (m : Int) - 3 else (m : Int) + 9

/-- The year counted from March that a date falls in: January and February belong to the year
before. -/
def marchYear (d : Date) : Int := if d.month ≤ 2 then d.year - 1 else d.year

/-- Eras of 400 years have 146097 days each. -/
theorem marchYearStart_era (era yoe : Int) (h0 : 0 ≤ yoe) (h1 : yoe ≤ 399) :
    marchYearStart (era * 400 + yoe) = era * 146097 + yearStart yoe := by
  unfold marchYearStart yearStart
  have h4 : (era * 400 + yoe) / 4 = era * 100 + yoe / 4 := by omega
  have h100 : (era * 400 + yoe) / 100 = era * 4 + yoe / 100 := by omega
  have h400 : (era * 400 + yoe) / 400 = era := by omega
  omega

/-- The day count of a date: the days to the first of March of its year counted from March, then
to the first of its month, then to its day. -/
theorem Date.toDays_eq (d : Date) :
    d.toDays = marchYearStart (marchYear d) + monthStart (marchMonth d.month) + d.day - 1 - 719468 := by
  have hera := marchYearStart_era (marchYear d / 400) (marchYear d - marchYear d / 400 * 400)
    (by omega) (by omega)
  rw [show marchYear d / 400 * 400 + (marchYear d - marchYear d / 400 * 400) = marchYear d by ring]
    at hera
  rw [hera]
  simp only [Date.toDays, marchYear, marchMonth, monthStart, yearStart]
  split <;> split <;> omega

/-! ## From a day count to a date -/

/-- `Date.ofDays` in the words of this file. -/
theorem Date.ofDays_eq (z : Int) : Date.ofDays z =
    let era := (z + 719468) / 146097
    let doe := z + 719468 - era * 146097
    let doy := doe - yearStart (yearOfEra doe)
    let mp := monthOfYear doy
    let month := if mp < 10 then mp + 3 else mp - 9
    ⟨yearOfEra doe + era * 400 + (if month ≤ 2 then 1 else 0), month.toNat,
      (doy - monthStart mp + 1).toNat⟩ := rfl

/-- The pieces a day count splits into: its era, the year of the era, the day of that year and
the month, with the bounds each lies in. -/
theorem Date.ofDays_parts (z : Int) : ∃ era yoe doy mp,
    z + 719468 = era * 146097 + yearStart yoe + doy ∧ (0 ≤ yoe ∧ yoe ≤ 399) ∧
    (0 ≤ doy ∧ doy ≤ 365) ∧ (doy = 365 → (yoe + 1) % 4 = 0 ∧ ((yoe + 1) % 100 ≠ 0 ∨ yoe = 399)) ∧
    (0 ≤ mp ∧ mp ≤ 11) ∧ monthStart mp ≤ doy ∧ (mp < 11 → doy < monthStart (mp + 1)) ∧
    Date.ofDays z = ⟨yoe + era * 400 + (if mp < 10 then 0 else 1),
      (if mp < 10 then mp + 3 else mp - 9).toNat, (doy - monthStart mp + 1).toNat⟩ := by
  rw [Date.ofDays_eq]
  dsimp only
  generalize hera : (z + 719468) / 146097 = era
  generalize hdoe : z + 719468 - era * 146097 = doe
  have hdoe' : 0 ≤ doe ∧ doe ≤ 146096 := by omega
  obtain ⟨hy0, hy1, hstart, hend, hleap⟩ := yearOfEra_spec hdoe'.1 hdoe'.2
  generalize yearOfEra doe = yoe at *
  generalize hdoy : doe - yearStart yoe = doy
  obtain ⟨hm0, hm1, hmstart, hmend⟩ := monthOfYear_spec doy (by omega) (by omega)
  generalize monthOfYear doy = mp at *
  refine ⟨era, yoe, doy, mp, by omega, ⟨hy0, hy1⟩, ⟨by omega, by omega⟩, fun h => hleap (by omega),
    ⟨hm0, hm1⟩, hmstart, hmend, ?_⟩
  by_cases h : mp < 10
  · simp only [h, if_true, show ¬ mp + 3 ≤ 2 by omega, if_false]
  · simp only [h, if_false, show mp - 9 ≤ 2 by omega, if_true]

/-- The days of each month but February, counted from March. -/
theorem monthStart_succ_sub (y mp : Int) (h0 : 0 ≤ mp) (h1 : mp ≤ 10) :
    monthStart (mp + 1) - monthStart mp =
      (daysInMonth y (if mp < 10 then mp + 3 else mp - 9).toNat : Int) := by
  have : mp = 0 ∨ mp = 1 ∨ mp = 2 ∨ mp = 3 ∨ mp = 4 ∨ mp = 5 ∨ mp = 6 ∨ mp = 7 ∨ mp = 8 ∨
    mp = 9 ∨ mp = 10 := by omega
  rcases this with rfl | rfl | rfl | rfl | rfl | rfl | rfl | rfl | rfl | rfl | rfl <;> rfl

/-- Every day count names a valid date. -/
theorem Date.ofDays_isValid (z : Int) : (Date.ofDays z).isValid = true := by
  obtain ⟨era, yoe, doy, mp, -, -, hdoy, hleap, hmp, hstart, hend, hof⟩ := Date.ofDays_parts z
  rw [hof]
  simp only [Date.isValid, Bool.and_eq_true, decide_eq_true_eq]
  refine ⟨⟨⟨by split <;> omega, by split <;> omega⟩, by omega⟩, ?_⟩
  by_cases hfeb : mp = 11
  · -- February: its 29th day is the last day of a year counted from March, so of a leap year
    subst hfeb
    have h337 : monthStart 11 = 337 := rfl
    simp only [show ¬ (11 : Int) < 10 by decide, if_false, show (11 - 9 : Int).toNat = 2 from rfl,
      daysInMonth, isLeapYear]
    split
    · omega
    · rename_i hnot
      simp only [Bool.and_eq_true, beq_iff_eq, Bool.or_eq_true, bne_iff_ne, ne_eq] at hnot
      have : doy ≠ 365 := fun h => hnot (by omega)
      omega
  · have hlen := monthStart_succ_sub (yoe + era * 400 + (if mp < 10 then 0 else 1)) mp hmp.1
      (by omega : mp ≤ 10)
    have := hend (by omega)
    omega

/-- Counting the days of the date a day count names gives the count back. -/
theorem Date.toDays_ofDays (z : Int) : (Date.ofDays z).toDays = z := by
  obtain ⟨era, yoe, doy, mp, hz, hyoe, hdoy, -, hmp, hstart, -, hof⟩ := Date.ofDays_parts z
  rw [hof, Date.toDays_eq]
  have hY : marchYear ⟨yoe + era * 400 + (if mp < 10 then 0 else 1),
      (if mp < 10 then mp + 3 else mp - 9).toNat, (doy - monthStart mp + 1).toNat⟩ =
      era * 400 + yoe := by
    simp only [marchYear]
    split <;> split <;> omega
  have hM : marchMonth (if mp < 10 then mp + 3 else mp - 9).toNat = mp := by
    simp only [marchMonth]
    split <;> split <;> omega
  rw [hY, hM, marchYearStart_era era yoe hyoe.1 hyoe.2]
  dsimp only
  omega

/-! ## The order of dates -/

/-- `a` is an earlier date than `b`: by year, then month, then day. -/
def Date.before (a b : Date) : Bool :=
  a.year < b.year || (a.year == b.year && (a.month < b.month || (a.month == b.month && a.day < b.day)))

theorem Date.before_trichotomy (a b : Date) : a.before b = true ∨ a = b ∨ b.before a = true := by
  obtain ⟨y, m, d⟩ := a
  obtain ⟨y', m', d'⟩ := b
  simp only [Date.before, Bool.or_eq_true, Bool.and_eq_true, decide_eq_true_eq, beq_iff_eq,
    Date.mk.injEq]
  omega

/-- The day of its year counted from March that a date is, from 0. -/
def dayOfMarchYear (d : Date) : Int := monthStart (marchMonth d.month) + d.day - 1

/-- A year counted from March has 366 days when the calendar year it ends in is a leap year,
else 365. -/
theorem marchYearStart_succ (y : Int) :
    marchYearStart (y + 1) = marchYearStart y + 365 + (if isLeapYear (y + 1) then 1 else 0) := by
  unfold marchYearStart isLeapYear
  split
  · rename_i h
    simp only [Bool.and_eq_true, beq_iff_eq, Bool.or_eq_true, bne_iff_ne, ne_eq] at h
    omega
  · rename_i h
    simp only [Bool.and_eq_true, beq_iff_eq, Bool.or_eq_true, bne_iff_ne, ne_eq] at h
    omega

theorem marchYearStart_mono {a b : Int} (h : a ≤ b) : marchYearStart a ≤ marchYearStart b := by
  unfold marchYearStart
  omega

theorem monthStart_mono {a b : Int} (h : a ≤ b) : monthStart a ≤ monthStart b := by
  unfold monthStart
  omega

theorem marchMonth_bounds {m : Nat} (h1 : 1 ≤ m) (h12 : m ≤ 12) :
    (2 < m → marchMonth m = m - 3) ∧ (m ≤ 2 → marchMonth m = m + 9) := by
  unfold marchMonth
  constructor <;> intro h <;> split <;> omega

/-- A day of a valid date in any month but February ends before the next month starts. -/
theorem monthEnd_le {d : Date} (hd : d.isValid = true) (hfeb : d.month ≠ 2) :
    monthStart (marchMonth d.month) + d.day ≤ monthStart (marchMonth d.month + 1) := by
  simp only [Date.isValid, Bool.and_eq_true, decide_eq_true_eq] at hd
  obtain ⟨⟨⟨hm1, hm12⟩, -⟩, hdim⟩ := hd
  have hmm := marchMonth_bounds hm1 hm12
  have hlen := monthStart_succ_sub d.year (marchMonth d.month) (by omega) (by omega)
  have hback : (if marchMonth d.month < 10 then marchMonth d.month + 3
      else marchMonth d.month - 9).toNat = d.month := by
    split <;> omega
  rw [hback] at hlen
  omega

/-- A valid date lies inside its year counted from March. -/
theorem dayOfMarchYear_lt {d : Date} (hd : d.isValid = true) :
    0 ≤ dayOfMarchYear d ∧
      dayOfMarchYear d < marchYearStart (marchYear d + 1) - marchYearStart (marchYear d) := by
  have hvalid := hd
  simp only [Date.isValid, Bool.and_eq_true, decide_eq_true_eq] at hd
  obtain ⟨⟨⟨hm1, hm12⟩, hd1⟩, hdim⟩ := hd
  have hmm := marchMonth_bounds hm1 hm12
  have h0 : 0 ≤ monthStart (marchMonth d.month) := monthStart_mono (a := 0) (by omega)
  rw [marchYearStart_succ]
  unfold dayOfMarchYear marchYear
  by_cases hfeb : d.month = 2
  · -- February ends the year counted from March, with the leap day of a leap year
    have h337 : monthStart (marchMonth 2) = 337 := rfl
    simp only [hfeb, daysInMonth] at hdim
    simp only [hfeb, le_refl, if_true, sub_add_cancel, h337]
    split at hdim <;> split <;> simp_all <;> omega
  · -- every other month ends before February starts, 337 days into the year
    have hend := monthEnd_le hvalid hfeb
    have h337 : monthStart (marchMonth d.month + 1) ≤ monthStart 11 :=
      monthStart_mono (by omega)
    have : monthStart 11 = 337 := rfl
    split <;> split <;> omega

/-- Of two valid dates, the earlier one is earlier in the years counted from March, or in the
same such year and earlier in it. -/
theorem Date.before_marchYear {a b : Date} (ha : a.isValid = true) (hb : b.isValid = true)
    (h : a.before b = true) :
    marchYear a < marchYear b ∨ (marchYear a = marchYear b ∧ dayOfMarchYear a < dayOfMarchYear b) := by
  have enda := monthEnd_le ha
  have h10 : monthStart 10 = 306 := rfl
  simp only [Date.isValid, Bool.and_eq_true, decide_eq_true_eq] at ha hb
  obtain ⟨⟨⟨ha1, ha12⟩, hda⟩, -⟩ := ha
  obtain ⟨⟨⟨hb1, hb12⟩, hdb⟩, -⟩ := hb
  have hma := marchMonth_bounds ha1 ha12
  have hmb := marchMonth_bounds hb1 hb12
  simp only [Date.before, Bool.or_eq_true, Bool.and_eq_true, decide_eq_true_eq, beq_iff_eq] at h
  unfold dayOfMarchYear marchYear
  rcases h with hy | ⟨hy, hm | ⟨hm, hday⟩⟩
  · -- an earlier year: the same year counted from March only from March of `a` to February of `b`
    by_cases hsame : a.month ≤ 2 ∨ 2 < b.month
    · left
      split <;> split <;> omega
    · by_cases hgap : a.year + 1 < b.year
      · left
        split <;> split <;> omega
      · have hstep : monthStart (marchMonth a.month + 1) ≤ monthStart (marchMonth b.month) :=
          monthStart_mono (by omega)
        have := enda (by omega)
        right
        split <;> split <;> omega
  · -- an earlier month of the same year
    by_cases hcross : a.month ≤ 2 ∧ 2 < b.month
    · left
      split <;> split <;> omega
    · have hstep : monthStart (marchMonth a.month + 1) ≤ monthStart (marchMonth b.month) :=
        monthStart_mono (by omega)
      have := enda (by omega)
      right
      split <;> split <;> omega
  · right
    rw [hy, hm]
    split <;> omega

/-- Of two valid dates, the earlier one has the smaller day count. -/
theorem Date.toDays_lt_toDays {a b : Date} (ha : a.isValid = true) (hb : b.isValid = true)
    (h : a.before b = true) : a.toDays < b.toDays := by
  have hya := dayOfMarchYear_lt ha
  have hyb := dayOfMarchYear_lt hb
  rw [Date.toDays_eq, Date.toDays_eq]
  unfold dayOfMarchYear at hya hyb
  rcases Date.before_marchYear ha hb h with hlt | ⟨heq, hlt⟩
  · have := marchYearStart_mono (show marchYear a + 1 ≤ marchYear b by omega)
    omega
  · unfold dayOfMarchYear at hlt
    rw [heq]
    omega

/-- A smaller day count names an earlier date, and only a smaller one does. -/
theorem Date.ofDays_before_iff (z z' : Int) : (Date.ofDays z).before (Date.ofDays z') = true ↔ z < z' := by
  constructor
  · intro h
    have := Date.toDays_lt_toDays (Date.ofDays_isValid z) (Date.ofDays_isValid z') h
    rwa [Date.toDays_ofDays, Date.toDays_ofDays] at this
  · intro hlt
    rcases Date.before_trichotomy (Date.ofDays z) (Date.ofDays z') with h | h | h
    · exact h
    · have := congrArg Date.toDays h
      rw [Date.toDays_ofDays, Date.toDays_ofDays] at this
      omega
    · have := Date.toDays_lt_toDays (Date.ofDays_isValid z') (Date.ofDays_isValid z) h
      rw [Date.toDays_ofDays, Date.toDays_ofDays] at this
      omega

end SnapshotAgent.Time
