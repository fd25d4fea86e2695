/-
QsoRipper/Tui/Texts.lean

Each formatter of the form with the parser that reads it back, and what survives the
two.
-/
import QsoRipper.Tui.Grpc

namespace QsoRipper.Tui

/-! ### Texts and numbers -/

theorem optString_eq_iff {x : Option String} : optString (x.getD "") = x ↔ x ≠ some "" := by
  cases x with
  | none => simp [optString]
  | some s =>
      by_cases hs : s = ""
      · subst hs
        simp [optString]
      · simp [optString, hs]

theorem optString_toUppercase_eq_iff {x : Option String} :
    optString (Text.toUppercase (x.getD "")) = x
      ↔ x ≠ some "" ∧ ∀ s ∈ x, Text.toUppercase s = s := by
  have hempty : Text.toUppercase "" = "" := by
    rw [← String.toList_inj, Text.toList_toUppercase]
    rfl
  cases x with
  | none => simp [optString, hempty]
  | some s =>
      by_cases hs : s = ""
      · subst hs
        simp [optString, hempty]
      · by_cases hupper : Text.toUppercase s = ""
        · have hne : "" ≠ s := fun h => hs h.symm
          simp [optString, hupper, hs, hne]
        · simp [optString, hupper, hs]

theorem toString_digits (n : ℕ) : ∀ c ∈ (toString n).toList, c.isDigit = true := by
  rw [Nat.toString_eq_ofList_toDigits, String.toList_ofList]
  exact fun c hc => Nat.isDigit_of_mem_toDigits (by decide) (by decide) hc

theorem optU32_formatNumber {x : Option ℕ} (h : ∀ n ∈ x, n < 2 ^ 32) :
    optU32 (formatNumber x) = x := by
  cases x with
  | none => decide +kernel
  | some n =>
      show Text.parseUnsigned (2 ^ 32) (Text.trim (toString n)) = some n
      rw [Text.trim_eq_self fun c hc => Text.isWhitespace_of_isDigit (toString_digits n c hc)]
      exact Text.parseUnsigned_toString (h n rfl)

/-! ### Codes -/

theorem parseQslStatus_formatQslStatus (status : ℤ) :
    parseQslStatus (formatQslStatus status)
      = .ok ((QslStatus.tryFrom status).getD .unspecified) := by
  rw [formatQslStatus]
  cases QslStatus.tryFrom status with
  | none => decide +kernel
  | some status => cases status <;> decide +kernel

theorem qslStatus_toI32_eq_iff {status : ℤ} :
    ((QslStatus.tryFrom status).getD .unspecified).toI32 = status
      ↔ (QslStatus.tryFrom status).isSome := by
  constructor
  · intro h
    rw [← h, Adif.tryFrom_toI32]
    rfl
  · intro h
    unfold QslStatus.tryFrom at h ⊢
    split at h <;> first | rfl | cases h

theorem parseOptionalBool_formatOptionalBool (value : Option Bool) :
    parseOptionalBool (formatOptionalBool value) = .ok value := by
  rcases value with - | - | - <;> decide +kernel

/-! ### Dates and times -/

/-- **Dates and times read back.**  A time in range has a date and a time; the date is
read as its midnight, and the time as its minute. -/
structure Readers.Reads (readers : Readers) (formats : Formats) : Prop where
  time_of_date : ∀ s, (formats.time s).isSome = (formats.date s).isSome
  date : ∀ s text, formats.date s = some text →
    readers.date text = some (s / 86400 * 86400) ∧ Text.trim text = text ∧ text ≠ ""
  time : ∀ s text, formats.time s = some text →
    readers.time (text ++ ":00") = some (s % 86400 / 60 * 60) ∧ text ≠ ""
  noTime : readers.time ":00" = none
  midnight : ∀ text s, readers.date text = some s → s % 86400 = 0
  /-- The text of a coordinate is exact. -/
  float : ∀ x, readers.float (Text.trim (formats.float x)) = some x

section Times

variable {readers : Readers} {formats : Formats}

/-- A midnight that can be written as a date. -/
def Formats.IsMidnight (formats : Formats) (ts : Timestamp) : Prop :=
  (formats.date ts.seconds).isSome = true ∧ ts.seconds % 86400 = 0 ∧ ts.nanos = 0

/-- A minute that can be written as a date and a time. -/
def Formats.IsMinute (formats : Formats) (ts : Timestamp) : Prop :=
  (formats.date ts.seconds).isSome = true ∧ ts.seconds % 60 = 0 ∧ ts.nanos = 0

theorem parseOptionalDate_formatOptional (h : readers.Reads formats) (ts : Option Timestamp) :
    ∃ ts', parseOptionalDate readers (formatOptional formats.date ts) = .ok ts'
      ∧ (ts' = ts ↔ ∀ t ∈ ts, formats.IsMidnight t) := by
  have hblank : parseOptionalDate readers "" = .ok none := by
    rw [parseOptionalDate, Text.trim_empty]
    rfl
  rcases ts with - | ⟨seconds, nanos⟩
  · exact ⟨none, hblank, by simp⟩
  · cases hdate : formats.date seconds with
    | none =>
        refine ⟨none, ?_, by simp [Formats.IsMidnight, hdate]⟩
        simp only [formatOptional, Option.bind_some, hdate, Option.getD_none]
        exact hblank
    | some text =>
        obtain ⟨hread, htrim, hne⟩ := h.date seconds text hdate
        refine ⟨some { seconds := seconds / 86400 * 86400 }, ?_, ?_⟩
        · simp only [formatOptional, Option.bind_some, hdate, Option.getD_some, parseOptionalDate,
            htrim, if_neg hne, hread]
        · simp only [Option.some.injEq, Timestamp.mk.injEq, Option.mem_def, forall_eq',
            Formats.IsMidnight, hdate, Option.isSome_some, true_and]
          constructor
          · rintro ⟨hseconds, rfl⟩
            exact ⟨by omega, rfl⟩
          · rintro ⟨hmidnight, rfl⟩
            exact ⟨by omega, rfl⟩

/-- The date that is shown for a time, or today's. -/
def shownDate (formats : Formats) (now : Now) (ts : Option Timestamp) : String :=
  (ts.bind fun ts => formats.date ts.seconds).getD now.date

theorem parseTimestamp_start (h : readers.Reads formats) (now : Now) (ts : Option Timestamp) :
    parseTimestamp readers (shownDate formats now ts) (formatOptional formats.time ts) = ts
      ↔ ∀ t ∈ ts, formats.IsMinute t := by
  have hblank (date : String) : parseTimestamp readers date "" = none := by
    rw [parseTimestamp, String.empty_append, h.noTime]
    cases readers.date date <;> rfl
  rcases ts with - | ⟨seconds, nanos⟩
  · simp [formatOptional, hblank]
  · have hsome := h.time_of_date seconds
    cases hdate : formats.date seconds with
    | none =>
        rw [hdate, Option.isSome_none, Option.isSome_eq_false_iff, Option.isNone_iff_eq_none]
          at hsome
        simp [formatOptional, hsome, hblank, Formats.IsMinute, hdate]
    | some date =>
        rw [hdate, Option.isSome_some, Option.isSome_iff_exists] at hsome
        obtain ⟨time, htime⟩ := hsome
        have hsum : seconds / 86400 * 86400 + seconds % 86400 / 60 * 60 = seconds / 60 * 60 := by
          omega
        simp only [shownDate, formatOptional, Option.bind_some, hdate, htime, Option.getD_some,
          parseTimestamp, (h.date seconds date hdate).1, (h.time seconds time htime).1,
          Option.map_some, hsum, Option.some.injEq, Timestamp.mk.injEq, Option.mem_def,
          forall_eq', Formats.IsMinute, Option.isSome_some, true_and]
        constructor
        · rintro ⟨hseconds, rfl⟩
          exact ⟨by omega, rfl⟩
        · rintro ⟨hminute, rfl⟩
          exact ⟨by omega, rfl⟩

theorem parseTimestamp_end (h : readers.Reads formats) (date : String) (ts : Option Timestamp) :
    (if formatOptional formats.time ts = "" then none
      else parseTimestamp readers date (formatOptional formats.time ts)) = ts
      ↔ ∀ t ∈ ts, formats.IsMinute t ∧ readers.date date = some (t.seconds / 86400 * 86400) := by
  rcases ts with - | ⟨seconds, nanos⟩
  · simp [formatOptional]
  · have hsome := h.time_of_date seconds
    cases htime : formats.time seconds with
    | none =>
        rw [htime, Option.isSome_none] at hsome
        simp [formatOptional, htime, Formats.IsMinute, ← hsome]
    | some time =>
        rw [htime, Option.isSome_some] at hsome
        obtain ⟨hread, hne⟩ := h.time seconds time htime
        simp only [formatOptional, Option.bind_some, htime, Option.getD_some, if_neg hne,
          parseTimestamp, hread, Option.map_some, Option.mem_def, Option.some.injEq, forall_eq',
          Formats.IsMinute, ← hsome, true_and]
        cases hdate : readers.date date with
        | none => simp
        | some midnight =>
            have hmidnight := h.midnight date midnight hdate
            simp only [Option.bind_some, Option.some.injEq, Timestamp.mk.injEq]
            constructor
            · rintro ⟨hseconds, rfl⟩
              have hday : midnight = seconds / 86400 * 86400 := by omega
              exact ⟨⟨by omega, rfl⟩, hday⟩
            · rintro ⟨⟨hminute, rfl⟩, rfl⟩
              exact ⟨by omega, rfl⟩

end Times

/-! ### Frequencies -/

theorem toDigits_length {n : ℕ} (h : n < 1000) : (Nat.toDigits 10 n).length ≤ 3 :=
  (Nat.length_toDigits_le_iff (by decide) (by decide)).mpr h

theorem threeDigits_toList (n : ℕ) :
    (threeDigits n).toList
      = List.replicate (3 - (Nat.toDigits 10 n).length) '0' ++ Nat.toDigits 10 n := by
  rw [threeDigits, Nat.toString_eq_ofList_toDigits]
  simp [String.length_ofList]

theorem threeDigits_digits (n : ℕ) : ∀ c ∈ (threeDigits n).toList, c.isDigit = true := by
  rw [threeDigits_toList]
  intro c hc
  rcases List.mem_append.mp hc with hc | hc
  · rw [List.eq_of_mem_replicate hc]
    decide
  · exact Nat.isDigit_of_mem_toDigits (by decide) (by decide) hc

theorem parse_threeDigits {n : ℕ} (h : n < 1000) :
    Text.parseUnsigned (2 ^ 64) (threeDigits n) = some n := by
  have hbound : n < 2 ^ 64 := by omega
  rw [← @String.ofList_toList (threeDigits n), threeDigits_toList]
  exact Text.parseUnsigned_padded _ hbound

/-- A text of digits has one byte for each. -/
theorem utf8ByteSize_digits {s : String} (h : ∀ c ∈ s.toList, c.isDigit = true) :
    s.utf8ByteSize = s.toList.length := by
  rw [← @String.ofList_toList s, String.toList_ofList, String.utf8ByteSize_ofList]
  generalize s.toList = cs at h
  induction cs with
  | nil => rfl
  | cons c cs ih =>
      have hdigit : c.isDigit = true := h c List.mem_cons_self
      have hsize : c.utf8Size = 1 := by
        rw [Char.utf8Size_eq_one_iff, UInt32.le_iff_toNat_le]
        rw [Char.isDigit_iff_toNat] at hdigit
        exact hdigit.2.trans (by decide)
      rw [String.utf8Len, ih fun c hc => h c (List.mem_cons_of_mem _ hc), hsize, List.length_cons]

theorem threeDigits_utf8ByteSize {n : ℕ} (h : n < 1000) : (threeDigits n).utf8ByteSize = 3 := by
  rw [utf8ByteSize_digits (threeDigits_digits n), threeDigits_toList,
    List.length_append, List.length_replicate]
  have hlength := toDigits_length h
  omega

theorem parseFrequencyMhz_formatFrequencyMhz {readers : Readers} {hz : ℕ} (h : hz < 2 ^ 64) :
    parseFrequencyMhz readers (formatFrequencyMhz hz) = some hz := by
  have hmhz : Text.parseUnsigned (2 ^ 64) (toString (hz / 1000000)) = some (hz / 1000000) :=
    Text.parseUnsigned_toString (by omega)
  have hkhz : hz % 1000000 / 1000 < 1000 := by omega
  have htail : hz % 1000 < 1000 := by omega
  have hdots : ∀ {n : ℕ}, '.' ∉ (threeDigits n).toList := fun h =>
    absurd (threeDigits_digits _ '.' h) (by decide)
  have hdot : '.' ∉ (toString (hz / 1000000)).toList := fun h =>
    absurd (toString_digits _ '.' h) (by decide)
  have hlist : (formatFrequencyMhz hz).toList
      = (toString (hz / 1000000)).toList ++ '.' :: ((threeDigits (hz % 1000000 / 1000)).toList
        ++ '.' :: (threeDigits (hz % 1000)).toList) := by
    simp [formatFrequencyMhz]
  have hparts : ((formatFrequencyMhz hz).toList.splitOn '.').map String.ofList
      = [toString (hz / 1000000), threeDigits (hz % 1000000 / 1000), threeDigits (hz % 1000)] := by
    rw [hlist, List.splitOn_append_cons_self_of_not_mem hdot,
      List.splitOn_append_cons_self_of_not_mem hdots, List.splitOn_eq_singleton hdots]
    simp only [List.map_cons, String.ofList_toList, List.map_nil]
  have htrim : Text.trim (formatFrequencyMhz hz) = formatFrequencyMhz hz := by
    refine Text.trim_eq_self ?_
    rw [hlist]
    intro c hc
    simp only [List.mem_append, List.mem_cons] at hc
    rcases hc with hc | rfl | hc | rfl | hc
    · exact Text.isWhitespace_of_isDigit (toString_digits _ c hc)
    · decide
    · exact Text.isWhitespace_of_isDigit (threeDigits_digits _ c hc)
    · decide
    · exact Text.isWhitespace_of_isDigit (threeDigits_digits _ c hc)
  have hne : formatFrequencyMhz hz ≠ "" := by
    intro hempty
    rw [hempty] at hlist
    exact absurd hlist.symm (by simp)
  have hradio : parseRadioStyleFrequency (formatFrequencyMhz hz) = some hz := by
    unfold parseRadioStyleFrequency
    rw [hparts]
    have hsize := threeDigits_utf8ByteSize htail
    have htailNe : threeDigits (hz % 1000) ≠ "" := by
      intro hempty
      rw [hempty] at hsize
      exact absurd hsize (by decide)
    have hvalid : ¬(999 < hz % 1000000 / 1000 ∨ threeDigits (hz % 1000) = ""
        ∨ 3 < (threeDigits (hz % 1000)).utf8ByteSize ∨ 999 < hz % 1000) := by
      rw [hsize]
      simp only [htailNe, false_or]
      omega
    have hsum : hz / 1000000 * 1000000 + hz % 1000000 / 1000 * 1000 + hz % 1000 = hz := by omega
    simp only [hmhz, parse_threeDigits hkhz, parse_threeDigits htail]
    have hlong : ¬(3 ≤ 2) := by decide
    rw [if_neg hvalid, hsize, if_neg hlong, hsum, if_pos h]
  unfold parseFrequencyMhz
  dsimp only
  rw [htrim, if_neg hne, hradio, Option.some_or]

end QsoRipper.Tui
