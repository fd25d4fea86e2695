/-
QsoRipper/Ffi/Exactness.lean

The calendar of the C bindings is exact but for two defects: an instant before 1970 that is no
midnight is given the date after its own, and the number of a date that lies too far ahead
overflows.
-/
import QsoRipper.Ffi.Reading

namespace QsoRipper.Ffi

open Calendar

variable {d : Date} {n : ℤ}

/-! ### Numbers and their texts -/

theorem padded_eq (width : ℕ) (h : 0 ≤ n) : padded width n
    = String.ofList (List.replicate (width - (Nat.toDigits 10 n.natAbs).length) '0'
      ++ Nat.toDigits 10 n.natAbs) := by
  rw [padded, if_neg (by omega)]

theorem isDigit_padded {width : ℕ} (h : 0 ≤ n) : ∀ c ∈ (padded width n).toList, c.isDigit = true := by
  intro c hc
  rw [padded_eq width h, String.toList_ofList] at hc
  rcases List.mem_append.mp hc with hc | hc
  · rw [List.eq_of_mem_replicate hc]
    decide
  · exact Nat.isDigit_of_mem_toDigits (by decide) (by decide) hc

theorem padded_ne (width : ℕ) (h : 0 ≤ n) : padded width n ≠ "" := by
  intro hempty
  have hlist := congrArg String.toList hempty
  rw [padded_eq width h, String.toList_ofList] at hlist
  exact Nat.toDigits_ne_nil (List.append_eq_nil_iff.mp hlist).2

theorem notMem_padded {c : Char} (width : ℕ) (h : 0 ≤ n) (hc : c.isDigit = false) :
    c ∉ (padded width n).toList := by
  intro hmem
  rw [isDigit_padded h c hmem] at hc
  cases hc

/-- A number of few digits fills its columns exactly. -/
theorem length_padded {width : ℕ} (hwidth : 0 < width) (h : 0 ≤ n) (hlt : n < 10 ^ width) :
    (padded width n).toList.length = width := by
  rw [padded_eq width h, String.toList_ofList, List.length_append, List.length_replicate]
  have hdigits : (Nat.toDigits 10 n.natAbs).length ≤ width := by
    rw [Nat.length_toDigits_le_iff (by decide) hwidth]
    zify
    rwa [abs_of_nonneg h]
  omega

theorem parseUnsigned_paddedText {bound width : ℕ} (h : 0 ≤ n) (hlt : n < bound) :
    Text.parseUnsigned bound (padded width n) = some n.natAbs := by
  rw [padded_eq width h]
  exact Text.parseUnsigned_padded _ (by omega)

theorem parseU32_padded {width : ℕ} (h : 0 ≤ n) (hlt : n < 2 ^ 32) :
    parseU32 (padded width n) = some n := by
  rw [parseU32, parseUnsigned_paddedText h (by exact_mod_cast hlt), Option.map_some]
  congr 1
  exact Int.natAbs_of_nonneg h

theorem parseI32_padded {width : ℕ} (h : 0 ≤ n) (hlt : n < 2 ^ 31) :
    parseI32 (padded width n) = some n := by
  have hminus := notMem_padded width h (show '-'.isDigit = false by decide)
  unfold parseI32
  split
  · rename_i digits hdigits
    rw [hdigits] at hminus
    exact absurd List.mem_cons_self hminus
  · rw [parseUnsigned_paddedText h (by exact_mod_cast hlt), Option.map_some]
    congr 1
    exact Int.natAbs_of_nonneg h

/-! ### Reading what is written -/

theorem dateText_eq (d : Date) : dateText d
    = (String.singleton '-').intercalate [padded 4 d.year, padded 2 d.month, padded 2 d.day] := by
  apply String.toList_inj.mp
  simp [dateText]

theorem timeText_eq (hour minute : ℤ) : timeText (hour, minute)
    = (String.singleton ':').intercalate [padded 2 hour, padded 2 minute] := by
  apply String.toList_inj.mp
  simp [timeText]

/-- **A date is read back from its text.** -/
theorem readDate_dateText (h : d.Valid) (hyear : 0 ≤ d.year) (hyearLt : d.year < 2 ^ 31) :
    readDate (dateText d) = some d := by
  have hdayLe := h.day_le.trans (daysInMonth_le d.year d.month)
  obtain ⟨hmonth, hmonthLe, hday, -⟩ := h
  have hsegments : Text.segments '-' (dateText d)
      = [padded 4 d.year, padded 2 d.month, padded 2 d.day] := by
    rw [dateText_eq]
    apply Text.segments_intercalate
    · simp only [List.mem_cons, List.not_mem_nil, or_false, forall_eq_or_imp, forall_eq]
      exact ⟨notMem_padded 4 hyear (by decide), notMem_padded 2 (by omega) (by decide),
        notMem_padded 2 (by omega) (by decide)⟩
    · exact List.cons_ne_nil _ _
  unfold readDate
  rw [hsegments]
  dsimp only
  rw [parseI32_padded hyear hyearLt, parseU32_padded (by omega) (by omega),
    parseU32_padded (by omega) (by omega)]
  rfl

theorem readTime_timeText {hour minute : ℤ} (hhour : 0 ≤ hour) (hhourLe : hour ≤ 23)
    (hminute : 0 ≤ minute) (hminuteLe : minute ≤ 59) :
    readTime (timeText (hour, minute)) = some (hour, minute, 0) := by
  have hsegments : Text.segments ':' (timeText (hour, minute))
      = [padded 2 hour, padded 2 minute] := by
    rw [timeText_eq]
    apply Text.segments_intercalate
    · simp only [List.mem_cons, List.not_mem_nil, or_false, forall_eq_or_imp, forall_eq]
      exact ⟨notMem_padded 2 hhour (by decide), notMem_padded 2 hminute (by decide)⟩
    · exact List.cons_ne_nil _ _
  unfold readTime
  rw [hsegments]
  dsimp only
  rw [parseU32_padded hhour (by omega), parseU32_padded hminute (by omega)]
  rfl

/-- The characters of a date are digits and dashes. -/
theorem mem_dateText (h : d.Valid) (hyear : 0 ≤ d.year) :
    ∀ c ∈ (dateText d).toList, c.isDigit = true ∨ c = '-' := by
  obtain ⟨hmonth, -, hday, -⟩ := h
  intro c hc
  simp only [dateText, String.toList_append, List.mem_append, or_assoc] at hc
  rcases hc with hc | hc | hc | hc | hc
  · exact .inl (isDigit_padded hyear c hc)
  · exact .inr (by simpa using hc)
  · exact .inl (isDigit_padded (by omega) c hc)
  · exact .inr (by simpa using hc)
  · exact .inl (isDigit_padded (by omega) c hc)

theorem mem_timeText {hour minute : ℤ} (hhour : 0 ≤ hour) (hminute : 0 ≤ minute) :
    ∀ c ∈ (timeText (hour, minute)).toList, c.isDigit = true ∨ c = ':' := by
  intro c hc
  simp only [timeText, String.toList_append, List.mem_append, or_assoc] at hc
  rcases hc with hc | hc | hc
  · exact .inl (isDigit_padded hhour c hc)
  · exact .inr (by simpa using hc)
  · exact .inl (isDigit_padded hminute c hc)

theorem isWhitespace_dateText (h : d.Valid) (hyear : 0 ≤ d.year) :
    ∀ c ∈ (dateText d).toList, Text.isWhitespace c = false := by
  intro c hc
  rcases mem_dateText h hyear c hc with hdigit | rfl
  · exact Text.isWhitespace_of_isDigit hdigit
  · decide

theorem isWhitespace_timeText {hour minute : ℤ} (hhour : 0 ≤ hour) (hminute : 0 ≤ minute) :
    ∀ c ∈ (timeText (hour, minute)).toList, Text.isWhitespace c = false := by
  intro c hc
  rcases mem_timeText hhour hminute c hc with hdigit | rfl
  · exact Text.isWhitespace_of_isDigit hdigit
  · decide

/-- **A date and a time are read back.** -/
theorem readMoment_text {hour minute : ℤ} (h : d.Valid) (hyear : 0 ≤ d.year)
    (hyearLt : d.year < 2 ^ 31) (hhour : 0 ≤ hour) (hhourLe : hour ≤ 23) (hminute : 0 ≤ minute)
    (hminuteLe : minute ≤ 59) :
    readMoment (dateText d ++ " " ++ timeText (hour, minute)) = some (d, hour, minute, 0) := by
  have hdate := isWhitespace_dateText h hyear
  have htime := isWhitespace_timeText hhour hminute
  have hdateNe : (dateText d).toList ≠ [] := by simp [dateText]
  have htimeNe : (timeText (hour, minute)).toList ≠ [] := by simp [timeText]
  have htrim : Text.trim (dateText d ++ " " ++ timeText (hour, minute))
      = dateText d ++ " " ++ timeText (hour, minute) := by
    apply Text.trim_eq_self_iff.mpr
    simp only [String.toList_append]
    constructor
    · intro c hc
      rw [List.append_assoc, List.head?_append_of_ne_nil _ hdateNe] at hc
      exact hdate c (List.mem_of_mem_head? hc)
    · intro c hc
      rw [List.getLast?_append_of_ne_nil _ htimeNe] at hc
      exact htime c (List.mem_of_mem_getLast? hc)
  have hwords := Text.words_pair (fun hempty => hdateNe (by rw [hempty]; rfl))
    (fun hempty => htimeNe (by rw [hempty]; rfl)) hdate htime
  unfold readMoment
  rw [htrim, hwords]
  dsimp only
  rw [readDate_dateText h hyear hyearLt, readTime_timeText hhour hhourLe hminute hminuteLe]
  rfl

/-! ### Exactness -/

/-- The text that a C program reads in a buffer. -/
def cText (buffer : List UInt8) : List UInt8 := buffer.takeWhile (· != 0)

theorem cText_strToBuf {size : ℕ} {s : String} (hsize : s.toList.length < size)
    (hascii : ∀ c ∈ s.toList, 0 < c.toNat ∧ c.toNat < 128) :
    cText (strToBuf size s) = Utf8.encode s.toList := by
  have hencode := Utf8.encode_ascii fun c hc => (hascii c hc).2
  have hlength : (Utf8.encode s.toList).length = s.toList.length := by
    rw [hencode, List.length_map]
  have htake : (Utf8.encode s.toList).take (size - 1) = Utf8.encode s.toList :=
    List.take_of_length_le (by omega)
  have hnonzero : ∀ b ∈ Utf8.encode s.toList, (b != 0) = true := by
    intro b hb
    rw [hencode] at hb
    obtain ⟨c, hc, rfl⟩ := List.mem_map.mp hb
    obtain ⟨hpos, hlt⟩ := hascii c hc
    simp only [bne_iff_ne, ne_eq, ← UInt8.toNat_inj]
    simp
    omega
  obtain ⟨k, hk⟩ : ∃ k, size - (Utf8.encode s.toList).length = k + 1 :=
    Nat.exists_eq_succ_of_ne_zero (by omega)
  unfold cText strToBuf
  dsimp only
  rw [htake, List.takeWhile_append_of_pos hnonzero, hk, List.replicate_succ]
  simp

/-- The UTC date of an instant. -/
def utcDate (ts : Timestamp) : Date := dateOfDay (ts.seconds / 86400)

/-- Its hour and minute. -/
def utcTime (ts : Timestamp) : ℤ × ℤ :=
  (ts.seconds % 86400 / 3600, ts.seconds % 86400 % 3600 / 60)

/-- The texts of an instant show its date and time, and are read back as its minute. -/
structure ExactInstant (ts : Timestamp) : Prop where
  detail_date : cText (populateDateTime ts).1 = Utf8.encode (dateText (utcDate ts)).toList
  detail_time : cText (populateDateTime ts).2 = Utf8.encode (timeText (utcTime ts)).toList
  date : timestampDate ts = dateText (utcDate ts)
  datetime : timestampDatetime ts = dateText (utcDate ts) ++ " " ++ timeText (utcTime ts)
  read_back : parseDatetime (timestampDatetime ts) = .ok ⟨ts.seconds / 60 * 60, 0⟩

/-- What is read is a date and a time that exist, with their seconds, and no operation
overflows. -/
structure SoundReading (text : String) : Prop where
  exact : ∀ ts, parseDatetime text = .ok ts → ∃ date time, readMoment text = some (date, time)
    ∧ date.Valid ∧ TimeOfDay time ∧ utcDate ts = date ∧ ts.seconds % 86400 = secondOfDay time
    ∧ ts.nanos = 0
  fits : parseDatetime text ≠ .error .overflow

/-- The date that a text gives can be counted in 32 bits. -/
def Countable (text : String) : Prop :=
  ∀ date time, readMoment text = some (date, time) → date.Valid → TimeOfDay time →
    date.dayNumber ≤ lastDay

variable {ts : Timestamp} {text : String}

/-- The date after the date of a day. -/
theorem dateOfDay_succ (n : ℤ) : dateOfDay (n + 1) = (dateOfDay n).next := by
  obtain ⟨hvalid, hnumber⟩ := dateOfDay_spec n
  rw [eq_dateOfDay hvalid.next, dayNumber_next hvalid, hnumber]

theorem year_next (d : Date) : d.year ≤ d.next.year ∧ d.next.year ≤ d.year + 1 := by
  unfold Date.next
  split_ifs
  · exact ⟨le_refl _, Int.le_add_one (le_refl _)⟩
  · exact ⟨le_refl _, Int.le_add_one (le_refl _)⟩
  · exact ⟨Int.le_add_one (le_refl _), le_refl _⟩

theorem utcTime_bounds (ts : Timestamp) : 0 ≤ (utcTime ts).1 ∧ (utcTime ts).1 ≤ 23
    ∧ 0 ≤ (utcTime ts).2 ∧ (utcTime ts).2 ≤ 59 := by
  unfold utcTime
  refine ⟨?_, ?_, ?_, ?_⟩
  all_goals dsimp only; omega

theorem cText_dateText (h : d.Valid) (hyear : 0 ≤ d.year) (hyearLe : d.year ≤ 9999) :
    cText (strToBuf 16 (dateText d)) = Utf8.encode (dateText d).toList := by
  have hchars := mem_dateText h hyear
  have hdayLe := h.day_le.trans (daysInMonth_le d.year d.month)
  obtain ⟨hmonth, hmonthLe, hday, -⟩ := h
  apply cText_strToBuf
  · simp only [dateText, String.toList_append, List.length_append]
    rw [length_padded (by norm_num) hyear (by omega),
      length_padded (by norm_num) (by omega) (by omega),
      length_padded (by norm_num) (by omega) (by omega)]
    decide
  · intro c hc
    rcases hchars c hc with hdigit | rfl
    · rw [Char.isDigit_iff_toNat] at hdigit
      have hbounds : 48 ≤ c.toNat ∧ c.toNat ≤ 57 := hdigit
      omega
    · decide

theorem cText_timeText {hour minute : ℤ} (hhour : 0 ≤ hour) (hhourLe : hour ≤ 23)
    (hminute : 0 ≤ minute) (hminuteLe : minute ≤ 59) :
    cText (strToBuf 16 (timeText (hour, minute))) = Utf8.encode (timeText (hour, minute)).toList := by
  have hchars := mem_timeText hhour hminute
  apply cText_strToBuf
  · simp only [timeText, String.toList_append, List.length_append]
    rw [length_padded (by norm_num) hhour (by omega),
      length_padded (by norm_num) hminute (by omega)]
    decide
  · intro c hc
    rcases hchars c hc with hdigit | rfl
    · rw [Char.isDigit_iff_toNat] at hdigit
      have hbounds : 48 ≤ c.toNat ∧ c.toNat ≤ 57 := hdigit
      omega
    · decide

/-- A year of four digits can be counted. -/
theorem dayNumber_le (h : d.Valid) (hyear : d.year ≤ 9999) : d.dayNumber ≤ lastDay := by
  obtain ⟨-, hmarch, -, -⟩ := marchDay_spec h
  have hmarchYear : d.marchYear ≤ d.year := by
    unfold Date.marchYear
    split_ifs <;> omega
  unfold Date.dayNumber lastDay
  omega

/-- **An instant is shown exactly**, after the epoch and at midnight. -/
theorem exactInstant_iff (hyear : 0 ≤ (utcDate ts).year) (hyearLe : (utcDate ts).year ≤ 9999) :
    ExactInstant ts ↔ 0 ≤ ts.seconds ∨ ts.seconds % 86400 = 0 := by
  obtain ⟨hvalid, hnumber⟩ := dateOfDay_spec (ts.seconds / 86400)
  obtain ⟨hhour, hhourLe, hminute, hminuteLe⟩ := utcTime_bounds ts
  constructor
  · intro h
    by_contra hnot
    -- the text shows the next day
    have htext := h.date
    have hyears := year_next (utcDate ts)
    rw [timestampDate, civilDate_eq, countedDay_of_not hnot, dateOfDay_succ] at htext
    have hread := readDate_dateText hvalid.next (hyear.trans hyears.1)
      (by have := hyears.2; unfold utcDate at *; omega)
    have hsame : readDate (dateText (utcDate ts)) = some (utcDate ts) :=
      readDate_dateText hvalid hyear (by omega)
    rw [htext, hsame] at hread
    have hnext := dayNumber_next hvalid
    rw [← Option.some.inj hread] at hnext
    exact absurd hnext (by unfold utcDate; omega)
  · intro h
    have hdate : civilDate ts.seconds = utcDate ts := by
      rw [civilDate_eq, (countedDay_eq_iff _).mpr h]
      rfl
    have htime : timeOfDay ts.seconds = utcTime ts := timeOfDay_eq _
    have hdatetime : timestampDatetime ts
        = dateText (utcDate ts) ++ " " ++ timeText (utcTime ts) := by
      rw [timestampDatetime, hdate, htime]
    refine ⟨?_, ?_, ?_, hdatetime, ?_⟩
    · rw [populateDateTime, hdate]
      exact cText_dateText hvalid hyear hyearLe
    · rw [populateDateTime, htime]
      exact cText_timeText hhour hhourLe hminute hminuteLe
    · rw [timestampDate, hdate]
    · have hread := readMoment_text hvalid hyear (by unfold utcDate at hyearLe; omega) hhour
        hhourLe hminute hminuteLe
      rw [hdatetime]
      have hexists : TimeOfDay ((utcTime ts).1, (utcTime ts).2, 0) :=
        ⟨hhourLe, hminuteLe, by norm_num⟩
      rcases parseDatetime_spec (dateText (utcDate ts) ++ " " ++ timeText (utcTime ts)) with
        ⟨date, time, hmoment, -, -, -, hparse⟩ | ⟨hnone, -⟩
      · have hpair := Option.some.inj (hread.symm.trans hmoment)
        obtain ⟨rfl, rfl⟩ := Prod.mk.inj hpair
        rw [hparse, if_pos (dayNumber_le hvalid hyearLe), hnumber]
        congr 2
        unfold secondOfDay utcTime
        dsimp only
        omega
      · exact absurd ⟨hvalid, hexists⟩ (hnone _ _ hread)

/-- **A text is read soundly** where its date can be counted. -/
theorem soundReading_iff : SoundReading text ↔ Countable text := by
  rcases parseDatetime_spec text with
    ⟨date, time, hread, hvalid, hexists, hbounds, hparse⟩ | ⟨hnone, message, hparse⟩
  · have hcount : Countable text ↔ date.dayNumber ≤ lastDay := by
      constructor
      · exact fun h => h date time hread hvalid hexists
      · intro h date' time' hread' _ _
        obtain ⟨rfl, rfl⟩ := Prod.mk.inj (Option.some.inj (hread.symm.trans hread'))
        exact h
    rw [hcount]
    constructor
    · intro h
      by_contra hlast
      rw [if_neg hlast] at hparse
      exact h.fits hparse
    · intro hlast
      rw [if_pos hlast] at hparse
      refine ⟨?_, by rw [hparse]; nofun⟩
      intro ts hts
      rw [hparse] at hts
      cases hts
      obtain ⟨hhour, hminute, hsecond⟩ := hbounds
      obtain ⟨hhourLe, hminuteLe, hsecondLe⟩ := hexists
      refine ⟨date, time, hread, hvalid, ⟨hhourLe, hminuteLe, hsecondLe⟩, ?_, ?_, rfl⟩
      · refine (congrArg dateOfDay ?_).trans (eq_dateOfDay hvalid).symm
        unfold secondOfDay
        dsimp only
        omega
      · unfold secondOfDay
        dsimp only
        omega
  · constructor
    · intro _ date time hread hvalid hexists
      exact absurd ⟨hvalid, hexists⟩ (hnone date time hread)
    · intro _
      refine ⟨?_, by rw [hparse]; nofun⟩
      intro ts hts
      rw [hparse] at hts
      cases hts

/-- **The calendar of the C bindings**: what it shows of an instant of the years 0000 to 9999,
and what it reads in any text. -/
theorem calendar_exact_iff (ts : Timestamp) (text : String) (hyear : 0 ≤ (utcDate ts).year)
    (hyearLe : (utcDate ts).year ≤ 9999) :
    (ExactInstant ts ↔ 0 ≤ ts.seconds ∨ ts.seconds % 86400 = 0)
      ∧ (SoundReading text ↔ Countable text) :=
  ⟨exactInstant_iff hyear hyearLe, soundReading_iff⟩

theorem calendar_exact_leap :
    ExactInstant ⟨-86400, 0⟩ ∧ SoundReading "2024-02-29 23:59" := by
  have hread : readMoment "2024-02-29 23:59" = some (⟨2024, 2, 29⟩, 23, 59, 0) := by decide +kernel
  have h := calendar_exact_iff ⟨-86400, 0⟩ "2024-02-29 23:59" (by decide) (by decide)
  refine ⟨h.1.mpr (.inr (by decide)), h.2.mpr ?_⟩
  intro date time hmoment _ _
  rw [hread] at hmoment
  cases hmoment
  decide

/-- The last second of 1969 is shown in 1970, and a year that the text may name overflows. -/
theorem calendar_inexact : timestampDatetime ⟨-1, 0⟩ = "1970-01-01 23:59"
    ∧ ¬ ExactInstant ⟨-1, 0⟩ ∧ parseDatetime "9999999-01-01 00:00" = .error .overflow
    ∧ ¬ SoundReading "9999999-01-01 00:00" := by
  have hread : parseDatetime "9999999-01-01 00:00" = .error .overflow := by decide +kernel
  refine ⟨by decide +kernel, ?_, hread, fun h => h.fits hread⟩
  rw [exactInstant_iff (by decide) (by decide)]
  decide

end QsoRipper.Ffi
