/-
QsoRipper/Lib/Calendar.lean

The proleptic Gregorian calendar.  The date of a day is what counting from the epoch gives,
one date at a time (`dateOfDay`).  Closed formulas for both directions are compared with it:
the number of a day from its date (`dayNumber`), and the date from the number, by eras of 400
years that start in March (`civilFromDays`).
-/
import Mathlib

namespace Calendar

/-! ### Dates -/

/-- A year, a month and a day. -/
structure Date where
  year : ℤ
  month : ℤ
  day : ℤ
  deriving DecidableEq

/-- A year with a 29th of February. -/
def IsLeap (year : ℤ) : Prop := year % 4 = 0 ∧ (year % 100 ≠ 0 ∨ year % 400 = 0)

instance (year : ℤ) : Decidable (IsLeap year) := inferInstanceAs (Decidable (_ ∧ _))

/-- The length of a month. -/
def daysInMonth (year month : ℤ) : ℤ :=
  if month = 2 then if IsLeap year then 29 else 28
  else if month = 4 ∨ month = 6 ∨ month = 9 ∨ month = 11 then 30 else 31

namespace Date

/-- A date of the calendar. -/
structure Valid (d : Date) : Prop where
  month_pos : 1 ≤ d.month
  month_le : d.month ≤ 12
  day_pos : 1 ≤ d.day
  day_le : d.day ≤ daysInMonth d.year d.month

instance (d : Date) : Decidable d.Valid :=
  decidable_of_iff (1 ≤ d.month ∧ d.month ≤ 12 ∧ 1 ≤ d.day ∧ d.day ≤ daysInMonth d.year d.month)
    ⟨fun ⟨h₁, h₂, h₃, h₄⟩ => ⟨h₁, h₂, h₃, h₄⟩, fun ⟨h₁, h₂, h₃, h₄⟩ => ⟨h₁, h₂, h₃, h₄⟩⟩

/-- The day after. -/
def next (d : Date) : Date :=
  if d.day < daysInMonth d.year d.month then ⟨d.year, d.month, d.day + 1⟩
  else if d.month < 12 then ⟨d.year, d.month + 1, 1⟩
  else ⟨d.year + 1, 1, 1⟩

/-- The day before. -/
def previous (d : Date) : Date :=
  if 1 < d.day then ⟨d.year, d.month, d.day - 1⟩
  else if 1 < d.month then ⟨d.year, d.month - 1, daysInMonth d.year (d.month - 1)⟩
  else ⟨d.year - 1, 12, 31⟩

/-- The year that started in March. -/
def marchYear (d : Date) : ℤ := if d.month ≤ 2 then d.year - 1 else d.year

/-- The days since the first of March. -/
def marchDay (d : Date) : ℤ :=
  (153 * (if d.month > 2 then d.month - 3 else d.month + 9) + 2) / 5 + d.day - 1

/-- The number of a day, from the epoch. -/
def dayNumber (d : Date) : ℤ :=
  365 * d.marchYear + d.marchYear / 4 - d.marchYear / 100 + d.marchYear / 400 + d.marchDay - 719468

end Date

/-- The first of January 1970. -/
def epoch : Date := ⟨1970, 1, 1⟩

/-- The date of a day, counted from the epoch one by one. -/
def dateOfDay : ℤ → Date
  | .ofNat n => Date.next^[n] epoch
  | .negSucc n => Date.previous^[n + 1] epoch

variable {d : Date}

/-! ### Counting -/

theorem daysInMonth_pos (year month : ℤ) : 28 ≤ daysInMonth year month := by
  unfold daysInMonth
  split_ifs <;> omega

theorem daysInMonth_le (year month : ℤ) : daysInMonth year month ≤ 31 := by
  unfold daysInMonth
  split_ifs <;> omega

namespace Date.Valid

theorem next (h : d.Valid) : d.next.Valid := by
  obtain ⟨hmonth, hmonthLe, hday, hdayLe⟩ := h
  unfold Date.next
  split_ifs with hinside hyear
  · exact ⟨hmonth, hmonthLe, by dsimp only; omega, hinside⟩
  · have hpos := daysInMonth_pos d.year (d.month + 1)
    exact ⟨by dsimp only; omega, by dsimp only; omega, le_refl 1, by dsimp only; omega⟩
  · have hpos := daysInMonth_pos (d.year + 1) 1
    exact ⟨le_refl 1, by norm_num, le_refl 1, by dsimp only; omega⟩

theorem previous (h : d.Valid) : d.previous.Valid := by
  obtain ⟨hmonth, hmonthLe, hday, hdayLe⟩ := h
  unfold Date.previous
  split_ifs with hinside hyear
  · exact ⟨hmonth, hmonthLe, by dsimp only; omega, by dsimp only; omega⟩
  · have hpos := daysInMonth_pos d.year (d.month - 1)
    exact ⟨by dsimp only; omega, by dsimp only; omega, by dsimp only; omega, le_refl _⟩
  · exact ⟨by norm_num, le_refl 12, by norm_num, le_refl 31⟩

end Date.Valid

theorem Date.eq_of {d : Date} {year month day : ℤ} (hyear : d.year = year)
    (hmonth : d.month = month) (hday : d.day = day) : d = ⟨year, month, day⟩ := by
  cases d
  cases hyear
  cases hmonth
  cases hday
  rfl

/-- The day after the day before. -/
theorem next_previous (h : d.Valid) : d.previous.next = d := by
  obtain ⟨hmonth, hmonthLe, hday, hdayLe⟩ := h
  unfold Date.previous
  split_ifs with hinside hyear
  · have hbefore : d.day - 1 < daysInMonth d.year d.month := by omega
    simp only [Date.next, if_pos hbefore]
    exact (Date.eq_of rfl rfl (by omega)).symm
  · have hbefore : d.month - 1 < 12 := by omega
    simp only [Date.next, lt_irrefl, if_false, if_pos hbefore]
    exact (Date.eq_of rfl (by omega) (by omega)).symm
  · have hlast : daysInMonth (d.year - 1) 12 = 31 := rfl
    simp only [Date.next, hlast, lt_irrefl, if_false]
    exact (Date.eq_of (by omega) (by omega) (by omega)).symm

/-- **The number of the day after** is one more. -/
theorem dayNumber_next (h : d.Valid) : d.next.dayNumber = d.dayNumber + 1 := by
  obtain ⟨hmonth, hmonthLe, hday, hdayLe⟩ := h
  obtain ⟨year, month, day⟩ := d
  dsimp only at hmonth hmonthLe hday hdayLe
  unfold Date.next
  dsimp only
  by_cases hinside : day < daysInMonth year month
  · rw [if_pos hinside]
    simp only [Date.dayNumber, Date.marchYear, Date.marchDay]
    omega
  · rw [if_neg hinside]
    obtain rfl : day = daysInMonth year month := by omega
    simp only [Date.dayNumber, Date.marchYear, Date.marchDay, daysInMonth, IsLeap]
    -- the month that ends
    have hcases : month = 1 ∨ month = 2 ∨ month = 3 ∨ month = 4 ∨ month = 5 ∨ month = 6 ∨ month = 7
      ∨ month = 8 ∨ month = 9 ∨ month = 10 ∨ month = 11 ∨ month = 12 := by omega
    rcases hcases with rfl | rfl | rfl | rfl | rfl | rfl | rfl | rfl | rfl | rfl | rfl | rfl
    all_goals norm_num
    all_goals try omega

theorem dayNumber_previous (h : d.Valid) : d.previous.dayNumber = d.dayNumber - 1 := by
  have hnext := dayNumber_next h.previous
  rw [next_previous h] at hnext
  omega

theorem valid_epoch : epoch.Valid := by decide

/-- **The day that is counted has its number.** -/
theorem dateOfDay_spec (n : ℤ) : (dateOfDay n).Valid ∧ (dateOfDay n).dayNumber = n := by
  have hforth (n : ℕ) : (Date.next^[n] epoch).Valid ∧ (Date.next^[n] epoch).dayNumber = n := by
    induction n with
    | zero => exact ⟨valid_epoch, rfl⟩
    | succ n ih =>
        rw [Function.iterate_succ_apply']
        refine ⟨ih.1.next, ?_⟩
        rw [dayNumber_next ih.1, ih.2]
        rfl
  have hback (n : ℕ) :
      (Date.previous^[n] epoch).Valid ∧ (Date.previous^[n] epoch).dayNumber = -n := by
    induction n with
    | zero => exact ⟨valid_epoch, rfl⟩
    | succ n ih =>
        rw [Function.iterate_succ_apply']
        refine ⟨ih.1.previous, ?_⟩
        rw [dayNumber_previous ih.1, ih.2]
        push_cast
        ring
  cases n with
  | ofNat n => exact hforth n
  | negSucc n =>
      refine ⟨(hback (n + 1)).1, (hback (n + 1)).2.trans ?_⟩
      rw [Int.negSucc_eq]
      push_cast
      ring

/-! ### The date from the number -/

/-- The day within the era of 400 years. -/
def dayOfEra (n : ℤ) : ℤ := n + 719468 - (n + 719468) / 146097 * 146097

/-- The year of the era, from the day of the era. -/
def yearOfEra (doe : ℤ) : ℤ := (doe - doe / 1460 + doe / 36524 - doe / 146096) / 365

/-- The day of that year. -/
def dayOfYear (doe : ℤ) : ℤ :=
  doe - (365 * yearOfEra doe + yearOfEra doe / 4 - yearOfEra doe / 100)

/-- The date from the number of a day: 400 years are an era of 146097 days. -/
def civilFromDays (n : ℤ) : Date :=
  let doy := dayOfYear (dayOfEra n)
  let mp := (5 * doy + 2) / 153
  let month := if mp < 10 then mp + 3 else mp - 9
  let year := yearOfEra (dayOfEra n) + (n + 719468) / 146097 * 400
  ⟨if month ≤ 2 then year + 1 else year, month, doy - (153 * mp + 2) / 5 + 1⟩

theorem yearOfEra_eq {yoe doy doe : ℤ} (hyoe : 0 ≤ yoe) (hyoeLt : yoe < 400) (hdoy : 0 ≤ doy)
    (hdoyLe : doy ≤ 365) (hleap : doy = 365 → IsLeap (yoe + 1))
    (hdoe : doe = 365 * yoe + yoe / 4 - yoe / 100 + doy) : yearOfEra doe = yoe := by
  unfold IsLeap at hleap
  unfold yearOfEra
  -- the last day of the era, or a day of a century
  have hend : yoe = 399 ∧ doy = 365 ∨ doe ≤ 36524 * (yoe / 100) + 36523 := by
    by_cases hlong : doy = 365
    · obtain ⟨hfour, hcentury⟩ := hleap hlong
      have hlast : yoe = 399 ∨ yoe % 100 ≤ 98 := by omega
      omega
    · omega
  rcases hend with ⟨rfl, rfl⟩ | hend
  · rw [hdoe]
    norm_num
  have hstart : 36524 * (yoe / 100) ≤ doe := by omega
  have hcentury : doe / 36524 = yoe / 100 := by omega
  have hera : doe / 146096 = 0 := by omega
  have hfour : 0 ≤ yoe / 4 + doy - doe / 1460 ∧ yoe / 4 + doy - doe / 1460 ≤ 364 := by
    by_cases hlong : doy = 365
    · have hyear := hleap hlong
      omega
    · omega
  omega

/-- A date within the year that starts in March. -/
theorem marchDay_spec (h : d.Valid) :
    0 ≤ d.marchDay ∧ d.marchDay ≤ 365 ∧ (d.marchDay = 365 → IsLeap (d.marchYear + 1))
      ∧ (5 * d.marchDay + 2) / 153 = (if d.month > 2 then d.month - 3 else d.month + 9) := by
  obtain ⟨hmonth, hmonthLe, hday, hdayLe⟩ := h
  obtain ⟨year, month, day⟩ := d
  dsimp only at hmonth hmonthLe hday hdayLe
  unfold daysInMonth at hdayLe
  simp only [Date.marchDay, Date.marchYear]
  have hcases : month = 1 ∨ month = 2 ∨ month = 3 ∨ month = 4 ∨ month = 5 ∨ month = 6 ∨ month = 7
    ∨ month = 8 ∨ month = 9 ∨ month = 10 ∨ month = 11 ∨ month = 12 := by omega
  rcases hcases with rfl | rfl | rfl | rfl | rfl | rfl | rfl | rfl | rfl | rfl | rfl | rfl
  case inr.inl =>
    by_cases hleap : IsLeap year
    · norm_num [hleap] at hdayLe ⊢
      omega
    · norm_num [hleap] at hdayLe ⊢
      omega
  all_goals norm_num at hdayLe ⊢; omega

/-- The number of a day, by eras. -/
theorem era_dayNumber (h : d.Valid) :
    (d.dayNumber + 719468) / 146097 = d.marchYear / 400
      ∧ dayOfEra d.dayNumber = 365 * (d.marchYear % 400) + d.marchYear % 400 / 4
        - d.marchYear % 400 / 100 + d.marchDay := by
  obtain ⟨hdoy, hdoyLe, hleap, -⟩ := marchDay_spec h
  unfold IsLeap at hleap
  have hera : (d.dayNumber + 719468) / 146097 = d.marchYear / 400 := by
    unfold Date.dayNumber
    omega
  refine ⟨hera, ?_⟩
  rw [dayOfEra, hera]
  unfold Date.dayNumber
  omega

theorem yearOfEra_dayNumber (h : d.Valid) :
    yearOfEra (dayOfEra d.dayNumber) = d.marchYear % 400 := by
  obtain ⟨hdoy, hdoyLe, hleap, -⟩ := marchDay_spec h
  have hyoe : (d.marchYear % 400 + 1) % 4 = (d.marchYear + 1) % 4
      ∧ (d.marchYear % 400 + 1) % 100 = (d.marchYear + 1) % 100
      ∧ (d.marchYear % 400 + 1) % 400 = (d.marchYear + 1) % 400 := by omega
  apply yearOfEra_eq (by omega) (by omega) hdoy hdoyLe ?_ (era_dayNumber h).2
  intro hlong
  have hlast := hleap hlong
  unfold IsLeap at hlast ⊢
  rwa [hyoe.1, hyoe.2.1, hyoe.2.2]

theorem dayOfYear_dayNumber (h : d.Valid) : dayOfYear (dayOfEra d.dayNumber) = d.marchDay := by
  rw [dayOfYear, yearOfEra_dayNumber h, (era_dayNumber h).2]
  omega

/-- **The date is read off the number.** -/
theorem civilFromDays_dayNumber (h : d.Valid) : civilFromDays d.dayNumber = d := by
  unfold civilFromDays
  dsimp only
  rw [dayOfYear_dayNumber h, yearOfEra_dayNumber h, (era_dayNumber h).1, (marchDay_spec h).2.2.2]
  obtain ⟨hmonthPos, hmonthLe, -, -⟩ := h
  refine (Date.eq_of ?_ ?_ ?_).symm
  · unfold Date.marchYear
    split_ifs <;> omega
  · split_ifs <;> omega
  · unfold Date.marchDay
    split_ifs <;> omega

/-- **Two dates with one number are one date**, the one that is counted. -/
theorem eq_dateOfDay (h : d.Valid) : d = dateOfDay d.dayNumber := by
  have hspec := dateOfDay_spec d.dayNumber
  calc d = civilFromDays d.dayNumber := (civilFromDays_dayNumber h).symm
    _ = civilFromDays (dateOfDay d.dayNumber).dayNumber := by rw [hspec.2]
    _ = dateOfDay d.dayNumber := civilFromDays_dayNumber hspec.1

theorem civilFromDays_eq (n : ℤ) : civilFromDays n = dateOfDay n := by
  have hspec := dateOfDay_spec n
  conv_lhs => rw [← hspec.2]
  exact civilFromDays_dayNumber hspec.1

/-- What is taken apart is never negative. -/
theorem dayOfEra_spec (n : ℤ) :
    0 ≤ dayOfEra n ∧ 0 ≤ yearOfEra (dayOfEra n) ∧ 0 ≤ dayOfYear (dayOfEra n) := by
  obtain ⟨hvalid, hnumber⟩ := dateOfDay_spec n
  have hera := era_dayNumber hvalid
  have hyear := yearOfEra_dayNumber hvalid
  have hday := dayOfYear_dayNumber hvalid
  have hmarch := (marchDay_spec hvalid).1
  rw [hnumber] at hera hyear hday
  omega

end Calendar
