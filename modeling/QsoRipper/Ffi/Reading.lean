/-
QsoRipper/Ffi/Reading.lean

What `parse_datetime` makes of a text: the date and the time of day that stand in it, where
they exist, up to the last day that can be counted.
-/
import QsoRipper.Ffi.Calendar

namespace QsoRipper.Ffi

open Calendar

variable {d : Date} {time : ℤ × ℤ × ℤ} {text s : String} {ts : Timestamp}

/-! ### What stands in a text -/

/-- The date that a text gives, whether it exists or not. -/
def readDate (datePart : String) : Option Date :=
  match Text.segments '-' datePart with
  | [y, m, d] => do
      let year ← parseI32 y
      let month ← parseU32 m
      let day ← parseU32 d
      pure ⟨year, month, day⟩
  | _ => none

/-- The seconds of a time, where it has any. -/
def readSecond : List String → Option ℤ
  | [] => some 0
  | [s] => parseU32 s
  | _ => none

/-- The time that a text gives. -/
def readTime (timePart : String) : Option (ℤ × ℤ × ℤ) :=
  match Text.segments ':' timePart with
  | h :: m :: rest => do
      let hour ← parseU32 h
      let minute ← parseU32 m
      let second ← readSecond rest
      pure (hour, minute, second)
  | _ => none

/-- The date and the time of a text of two words. -/
def readMoment (text : String) : Option (Date × ℤ × ℤ × ℤ) :=
  match Text.words (Text.trim text) with
  | [datePart, timePart] => do
      let date ← readDate datePart
      let time ← readTime timePart
      pure (date, time)
  | _ => none

/-- A time of day. -/
def TimeOfDay (time : ℤ × ℤ × ℤ) : Prop := time.1 ≤ 23 ∧ time.2.1 ≤ 59 ∧ time.2.2 ≤ 59

instance (time : ℤ × ℤ × ℤ) : Decidable (TimeOfDay time) := inferInstanceAs (Decidable (_ ∧ _ ∧ _))

/-- The second of the day. -/
def secondOfDay (time : ℤ × ℤ × ℤ) : ℤ := time.1 * 3600 + time.2.1 * 60 + time.2.2

/-! ### The numbers -/

theorem parseU32_bounds {value : ℤ} (h : parseU32 s = some value) : 0 ≤ value ∧ value < 2 ^ 32 := by
  obtain ⟨n, hn, rfl⟩ := Option.map_eq_some_iff.mp h
  have hlt := Text.parseUnsigned_lt hn
  exact ⟨Int.natCast_nonneg n, Int.ofNat_lt.mpr hlt⟩

/-- A year behind no minus sign. -/
theorem parseI32_bounds {value : ℤ} (hminus : '-' ∉ s.toList) (h : parseI32 s = some value) :
    0 ≤ value ∧ value < 2 ^ 31 := by
  unfold parseI32 at h
  split at h
  · rename_i digits hdigits
    rw [hdigits] at hminus
    exact absurd List.mem_cons_self hminus
  · obtain ⟨n, hn, rfl⟩ := Option.map_eq_some_iff.mp h
    have hlt := Text.parseUnsigned_lt hn
    exact ⟨Int.natCast_nonneg n, Int.ofNat_lt.mpr hlt⟩

/-- The year that a text gives is never negative: a minus sign cuts the text. -/
theorem readDate_year (h : readDate s = some d) : 0 ≤ d.year ∧ d.year < 2 ^ 31 := by
  unfold readDate at h
  split at h
  · rename_i y m day hsegments
    obtain ⟨year, hyear, month, -, dayNumber, -, rfl⟩ :
        ∃ year, parseI32 y = some year ∧ ∃ month, parseU32 m = some month
          ∧ ∃ dayNumber, parseU32 day = some dayNumber ∧ (⟨year, month, dayNumber⟩ : Date) = d := by
      simpa [Option.bind_eq_some_iff] using h
    apply parseI32_bounds ?_ hyear
    apply Text.notMem_of_mem_segments (s := s)
    rw [hsegments]
    exact List.mem_cons_self
  · cases h

theorem readTime_bounds (h : readTime s = some time) :
    0 ≤ time.1 ∧ 0 ≤ time.2.1 ∧ 0 ≤ time.2.2 := by
  unfold readTime at h
  split at h
  · rename_i hour minute rest hsegments
    obtain ⟨hourNumber, hhour, minuteNumber, hminute, second, hsecond, rfl⟩ :
        ∃ hourNumber, parseU32 hour = some hourNumber
          ∧ ∃ minuteNumber, parseU32 minute = some minuteNumber
            ∧ ∃ second, readSecond rest = some second
              ∧ (hourNumber, minuteNumber, second) = time := by
      simpa [Option.bind_eq_some_iff] using h
    refine ⟨(parseU32_bounds hhour).1, (parseU32_bounds hminute).1, ?_⟩
    dsimp only
    unfold readSecond at hsecond
    split at hsecond
    · cases hsecond
      exact le_refl 0
    · exact (parseU32_bounds hsecond).1
    · cases hsecond
  · cases h

/-! ### The checks -/

/-- What a reading of a part comes to: the value, where it stands there and exists, and a
message otherwise. -/
def Checked {α : Type} (result : Except DateTimeError α) (value : Option α) (Exists : α → Prop) :
    Prop :=
  (∃ a, value = some a ∧ Exists a ∧ result = .ok a)
    ∨ ((∀ a, value = some a → ¬ Exists a) ∧ ∃ message, result = .error (.message message))

section

variable {α : Type} {a : α} {result : Except DateTimeError α} {value : Option α} {Exists : α → Prop}
  {message : String}

theorem ok_bind {β : Type} (f : α → Except DateTimeError β) : (.ok a >>= f) = f a := rfl

theorem checked_none (hvalue : value = none) :
    Checked (.error (.message message)) value Exists := by
  refine .inr ⟨?_, message, rfl⟩
  rw [hvalue]
  nofun

theorem checked_not (hvalue : value = some a) (hnot : ¬ Exists a) :
    Checked (.error (.message message)) value Exists := by
  refine .inr ⟨?_, message, rfl⟩
  rw [hvalue]
  rintro b ⟨⟩
  exact hnot

theorem check_not {β : Type} {condition : Bool} (h : ¬ condition = true)
    (f : Unit → Except DateTimeError β) :
    (check condition message >>= f) = .error (.message message) := by
  rw [check, if_neg h]
  rfl

theorem check_bind {β : Type} {condition : Bool} (h : condition = true)
    (f : Unit → Except DateTimeError β) : (check condition message >>= f) = f () := by
  rw [check, if_pos h]
  rfl

end

theorem parseDate_checked (datePart : String) :
    Checked (parseDate datePart) (readDate datePart) Date.Valid := by
  unfold parseDate readDate
  rcases Text.segments '-' datePart with _ | ⟨y, _ | ⟨m, _ | ⟨day, _ | ⟨extra, rest⟩⟩⟩⟩
  case cons.cons.cons.cons => exact checked_none rfl
  case nil => exact checked_none rfl
  case cons.nil => exact checked_none rfl
  case cons.cons.nil => exact checked_none rfl
  dsimp only
  cases parseI32 y with
  | none => exact checked_none rfl
  | some year =>
  cases parseU32 m with
  | none => exact checked_none rfl
  | some month =>
  cases parseU32 day with
  | none => exact checked_none rfl
  | some dayNumber =>
  by_cases hmonth : (1 ≤ month && month ≤ 12) = true
  swap
  · have hnot : ¬ (⟨year, month, dayNumber⟩ : Date).Valid := by
      intro hvalid
      simp [hvalid.month_pos, hvalid.month_le] at hmonth
    simp only [orMessage, ok_bind, check_not hmonth]
    exact checked_not rfl hnot
  by_cases hday : (1 ≤ dayNumber && dayNumber ≤ daysInMonth year month) = true
  swap
  · have hnot : ¬ (⟨year, month, dayNumber⟩ : Date).Valid := by
      intro hvalid
      simp [hvalid.day_pos, hvalid.day_le] at hday
    simp only [orMessage, ok_bind, check_bind hmonth, check_not hday]
    exact checked_not rfl hnot
  simp only [orMessage, ok_bind, check_bind hmonth, check_bind hday]
  rw [Bool.and_eq_true, decide_eq_true_eq, decide_eq_true_eq] at hmonth hday
  exact .inl ⟨⟨year, month, dayNumber⟩, rfl, ⟨hmonth.1, hmonth.2, hday.1, hday.2⟩, rfl⟩

theorem parseTime_checked (timePart : String) :
    Checked (parseTime timePart) (readTime timePart) TimeOfDay := by
  unfold parseTime readTime
  rcases Text.segments ':' timePart with _ | ⟨h, _ | ⟨m, rest⟩⟩
  case nil => exact checked_none rfl
  case cons.nil => exact checked_none rfl
  dsimp only
  cases hhour : parseU32 h with
  | none =>
      split_ifs
      · exact checked_none rfl
      · exact checked_none rfl
  | some hour =>
  cases hminute : parseU32 m with
  | none =>
      split_ifs
      · exact checked_none rfl
      · exact checked_none rfl
  | some minute =>
  simp only [orMessage, ok_bind]
  have hsecond (second : ℤ) : Checked
      (check (hour ≤ 23) ("Hour out of range: " ++ toString hour) >>= fun _ =>
        check (minute ≤ 59) ("Minute out of range: " ++ toString minute) >>= fun _ =>
          check (second ≤ 59) ("Second out of range: " ++ toString second) >>= fun _ =>
            pure (hour, minute, second))
      (some (hour, minute, second)) TimeOfDay := by
    by_cases hhour : decide (hour ≤ 23) = true
    swap
    · rw [check_not hhour]
      exact checked_not rfl fun htime => hhour (decide_eq_true htime.1)
    by_cases hminute : decide (minute ≤ 59) = true
    swap
    · rw [check_bind hhour, check_not hminute]
      exact checked_not rfl fun htime => hminute (decide_eq_true htime.2.1)
    by_cases hsecond : decide (second ≤ 59) = true
    swap
    · rw [check_bind hhour, check_bind hminute, check_not hsecond]
      exact checked_not rfl fun htime => hsecond (decide_eq_true htime.2.2)
    rw [check_bind hhour, check_bind hminute, check_bind hsecond]
    exact .inl ⟨_, rfl, ⟨of_decide_eq_true hhour, of_decide_eq_true hminute,
      of_decide_eq_true hsecond⟩, rfl⟩
  rcases rest with _ | ⟨s, _ | ⟨extra, rest⟩⟩
  · exact hsecond 0
  · cases hs : parseU32 s with
    | none =>
        dsimp only [parseSecond, readSecond]
        rw [hs]
        exact checked_none rfl
    | some second =>
        dsimp only [parseSecond, readSecond]
        rw [hs]
        exact hsecond second
  · exact checked_none rfl

/-! ### The instant -/

/-- **`parse_datetime`**: the seconds of the date and the time of day that stand in the text,
up to the last day that can be counted.  Behind it a 32-bit operation overflows. -/
theorem parseDatetime_spec (text : String) :
    (∃ date time, readMoment text = some (date, time) ∧ date.Valid ∧ TimeOfDay time
        ∧ (0 ≤ time.1 ∧ 0 ≤ time.2.1 ∧ 0 ≤ time.2.2)
        ∧ parseDatetime text = if date.dayNumber ≤ lastDay
            then .ok ⟨date.dayNumber * 86400 + secondOfDay time, 0⟩ else .error .overflow)
      ∨ ((∀ date time, readMoment text = some (date, time) → ¬ (date.Valid ∧ TimeOfDay time))
        ∧ ∃ message, parseDatetime text = .error (.message message)) := by
  unfold parseDatetime readMoment
  generalize Text.trim text = s
  dsimp only
  by_cases hempty : s.isEmpty = true
  · refine .inr ⟨?_, _, if_pos hempty⟩
    obtain rfl : s = "" := String.isEmpty_iff.mp hempty
    have hwords : Text.words "" = [] := by decide +kernel
    rw [hwords]
    nofun
  rw [if_neg hempty]
  rcases Text.words s with _ | ⟨datePart, _ | ⟨timePart, _ | ⟨extra, rest⟩⟩⟩
  case nil => exact .inr ⟨nofun, _, rfl⟩
  case cons.nil => exact .inr ⟨nofun, _, rfl⟩
  case cons.cons.cons => exact .inr ⟨nofun, _, rfl⟩
  dsimp only
  rcases parseDate_checked datePart with ⟨date, hdate, hvalid, hparse⟩ | ⟨hnone, message, hparse⟩
  swap
  · refine .inr ⟨?_, message, by rw [hparse]; rfl⟩
    cases hdate : readDate datePart with
    | none => nofun
    | some date =>
        cases readTime timePart with
        | none => nofun
        | some time =>
            rintro _ _ ⟨⟩ ⟨hvalid, -⟩
            exact hnone date hdate hvalid
  rw [hparse, hdate, ok_bind]
  rcases parseTime_checked timePart with ⟨time, htime, hexists, hparse⟩ | ⟨hnone, message, hparse⟩
  swap
  · refine .inr ⟨?_, message, by rw [hparse]; rfl⟩
    cases htime : readTime timePart with
    | none => nofun
    | some time =>
        rintro _ _ ⟨⟩ ⟨-, hexists⟩
        exact hnone time htime hexists
  rw [hparse, htime, ok_bind]
  obtain ⟨hyear, hyearLt⟩ := readDate_year hdate
  refine .inl ⟨date, time, rfl, hvalid, hexists, readTime_bounds htime, ?_⟩
  rw [daysFromCivil_eq hvalid hyear hyearLt]
  by_cases hlast : date.dayNumber ≤ lastDay
  · rw [if_pos hlast, if_pos hlast, ok_bind, secondOfDay]
    congr 2
    ring
  · rw [if_neg hlast, if_neg hlast]
    rfl

end QsoRipper.Ffi
