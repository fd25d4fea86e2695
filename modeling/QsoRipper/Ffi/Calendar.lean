/-
QsoRipper/Ffi/Calendar.lean

The calendar of the C bindings against the proleptic Gregorian one.  The texts of an instant
are right exactly where rounding its days towards zero is rounding them down, and what
`parse_datetime` reads is right up to the last day that fits 32 bits.
-/
import QsoRipper.Ffi.DateTime

namespace QsoRipper.Ffi

open Calendar

variable {d : Date}

/-! ### The date of an instant -/

/-- A division that rounds towards zero, after a shift of what is negative. -/
theorem tdiv_floor {a n : ℤ} (hn : 0 < n) :
    (if 0 ≤ a then a else a - (n - 1)).tdiv n = a / n := by
  split_ifs with h
  · exact Int.tdiv_eq_ediv_of_nonneg h
  · have hmod := Int.emod_add_mul_ediv a n
    have hlo := Int.emod_nonneg a hn.ne'
    have hhi := Int.emod_lt_of_pos a hn
    have hnegated : a - (n - 1) = -(n - 1 - a) := by ring
    have hpositive : (n - 1 - a) / n = -(a / n) := by
      rw [Int.ediv_eq_iff_of_pos hn]
      constructor <;> linarith
    rw [hnegated, Int.neg_tdiv, Int.tdiv_eq_ediv_of_nonneg (by omega), hpositive, neg_neg]

/-- The day that `timestamp_parts` counts. -/
def countedDay (totalSecs : ℤ) : ℤ := totalSecs.tdiv 86400

/-- The date is the one of the day that is counted. -/
theorem civilDate_eq (totalSecs : ℤ) : civilDate totalSecs = dateOfDay (countedDay totalSecs) := by
  rw [← civilFromDays_eq]
  unfold civilDate civilFromDays
  have hday : totalSecs.tdiv 86400 = countedDay totalSecs := rfl
  generalize countedDay totalSecs = n at hday
  obtain ⟨hdoe, hyoe, hdoy⟩ := dayOfEra_spec n
  have hera := tdiv_floor (a := n + 719468) (n := 146097) (by norm_num)
  norm_num at hera
  simp only [hday, hera]
  rw [← dayOfEra]
  have hyoeNum : 0 ≤ dayOfEra n - dayOfEra n / 1460 + dayOfEra n / 36524 - dayOfEra n / 146096 := by
    omega
  simp only [Int.tdiv_eq_ediv_of_nonneg hdoe]
  rw [Int.tdiv_eq_ediv_of_nonneg hyoeNum, ← yearOfEra]
  simp only [Int.tdiv_eq_ediv_of_nonneg hyoe]
  rw [← dayOfYear]
  have hmp : 0 ≤ 5 * dayOfYear (dayOfEra n) + 2 := by omega
  rw [Int.tdiv_eq_ediv_of_nonneg hmp]
  have hstart : 0 ≤ 153 * ((5 * dayOfYear (dayOfEra n) + 2) / 153) + 2 := by omega
  rw [Int.tdiv_eq_ediv_of_nonneg hstart]

/-- The day that is counted is the day of the instant, after the epoch and at midnight. -/
theorem countedDay_eq_iff (totalSecs : ℤ) :
    countedDay totalSecs = totalSecs / 86400 ↔ 0 ≤ totalSecs ∨ totalSecs % 86400 = 0 := by
  have hfloor := tdiv_floor (a := totalSecs) (n := 86400) (by norm_num)
  rw [countedDay, Int.tdiv_eq_ediv]
  split_ifs with h
  · refine iff_of_true (by omega) (h.imp_right fun hdvd => Int.emod_eq_zero_of_dvd hdvd)
  · rw [not_or, Int.dvd_iff_emod_eq_zero] at h
    refine iff_of_false ?_ (by omega)
    norm_num

/-- Before the epoch and not at midnight, it is the day after. -/
theorem countedDay_of_not {totalSecs : ℤ} (h : ¬ (0 ≤ totalSecs ∨ totalSecs % 86400 = 0)) :
    countedDay totalSecs = totalSecs / 86400 + 1 := by
  rw [countedDay, Int.tdiv_eq_ediv, if_neg]
  · norm_num
  · rwa [Int.dvd_iff_emod_eq_zero]

theorem timeOfDay_eq (totalSecs : ℤ) :
    timeOfDay totalSecs = (totalSecs % 86400 / 3600, totalSecs % 86400 % 3600 / 60) := by
  have hsecs : 0 ≤ totalSecs % 86400 := by omega
  unfold timeOfDay
  dsimp only
  rw [Int.tdiv_eq_ediv_of_nonneg hsecs, Int.tmod_eq_emod_of_nonneg hsecs,
    Int.tdiv_eq_ediv_of_nonneg (by omega)]

/-! ### The number of a date -/

theorem i32_bind {α : Type} {x : ℤ} (h : -2 ^ 31 ≤ x ∧ x < 2 ^ 31)
    (f : ℤ → Except DateTimeError α) : (i32 x >>= f) = f x := by
  rw [i32, if_pos h]
  rfl

theorem u32_bind {α : Type} {x : ℤ} (h : 0 ≤ x ∧ x < 2 ^ 32)
    (f : ℤ → Except DateTimeError α) : (u32 x >>= f) = f x := by
  rw [u32, if_pos h]
  rfl

/-- The last day whose number can be counted. -/
def lastDay : ℤ := 2 ^ 31 - 1 - 719468

/-- **The number of a date**, up to the last day that can be counted; the days behind it overflow. -/
theorem daysFromCivil_eq (h : d.Valid) (hyear : 0 ≤ d.year) (hyearLt : d.year < 2 ^ 31) :
    daysFromCivil d.year d.month d.day
      = if d.dayNumber ≤ lastDay then .ok d.dayNumber else .error .overflow := by
  obtain ⟨hdoy, hdoyLe, hleap, hmp⟩ := marchDay_spec h
  obtain ⟨hmonth, hmonthLe, hday, hdayLe⟩ := h
  have hdayLe' := hdayLe.trans (daysInMonth_le d.year d.month)
  have hyPos : -1 ≤ d.marchYear ∧ d.marchYear < 2 ^ 31 := by
    unfold Date.marchYear
    split_ifs <;> omega
  have hmpPos : 0 ≤ (if d.month > 2 then d.month - 3 else d.month + 9)
      ∧ (if d.month > 2 then d.month - 3 else d.month + 9) ≤ 11 := by
    split_ifs <;> omega
  have hera := tdiv_floor (a := d.marchYear) (n := 400) (by norm_num)
  norm_num at hera
  have hmarch : d.marchDay
      = (153 * (if d.month > 2 then d.month - 3 else d.month + 9) + 2) / 5 + d.day - 1 := rfl
  have hnumber : d.dayNumber = 146097 * (d.marchYear / 400) + (365 * (d.marchYear % 400)
      + d.marchYear % 400 / 4 - d.marchYear % 400 / 100 + d.marchDay) - 719468 := by
    unfold Date.dayNumber
    omega
  unfold daysFromCivil
  rw [← Date.marchYear]
  rw [i32_bind (by omega), i32_bind (by split_ifs <;> omega)]
  dsimp only
  rw [hera]
  generalize d.marchYear = y at hyPos hnumber
  generalize (if d.month > 2 then d.month - 3 else d.month + 9) = mp at hmpPos hmarch
  have hyoe : (y - y / 400 * 400) % 2 ^ 32 = y % 400 := by omega
  rw [i32_bind (by omega), i32_bind (by omega), hyoe]
  rw [u32_bind (by omega), u32_bind (by omega), u32_bind (by omega), u32_bind (by omega),
    u32_bind (by omega), u32_bind (by omega), u32_bind (by omega), u32_bind (by omega),
    u32_bind (by omega)]
  rw [← hmarch]
  generalize hdoe : y % 400 * 365 + y % 400 / 4 - y % 400 / 100 + d.marchDay = doe
  have hdoePos : 0 ≤ doe ∧ doe < 2 ^ 18 := by omega
  have hsigned : doe.bmod (2 ^ 32) = doe := by
    unfold Int.bmod
    norm_num
    omega
  rw [hsigned]
  by_cases hlast : d.dayNumber ≤ lastDay
  · rw [if_pos hlast]
    unfold lastDay at hlast
    rw [i32_bind (by omega), i32_bind (by omega), i32, if_pos (by omega)]
    congr 1
    omega
  · rw [if_neg hlast]
    unfold lastDay at hlast
    by_cases heraDays : y / 400 * 146097 < 2 ^ 31
    · rw [i32_bind (by omega), i32, if_neg (by omega)]
      rfl
    · rw [i32, if_neg (by omega)]
      rfl

end QsoRipper.Ffi
