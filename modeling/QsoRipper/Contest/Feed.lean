/-
QsoRipper/Contest/Feed.lean

What a contest feed comes to: every contest with an end after its start, or the message of the
first item that is not parsed.
-/
import QsoRipper.Contest.Wa7bnm

namespace QsoRipper.Contest

open Calendar

variable {year : ℤ} {description value part : String}

/-! ### Parsing the items of a list -/

section

variable {α β ε : Type} {f : α → Except ε β}

/-- A list is parsed as a whole, or the first failure is the result. -/
theorem mapM_cases (f : α → Except ε β) (l : List α) :
    (∃ values, l.mapM f = .ok values ∧ List.Forall₂ (fun a b => f a = .ok b) l values)
      ∨ ∃ before a after e, l = before ++ a :: after ∧ (∀ b ∈ before, ∃ c, f b = .ok c)
        ∧ f a = .error e ∧ l.mapM f = .error e := by
  induction l with
  | nil => exact .inl ⟨[], rfl, List.Forall₂.nil⟩
  | cons a l ih =>
      rw [List.mapM_cons]
      cases ha : f a with
      | error e => exact .inr ⟨[], a, l, e, rfl, nofun, ha, rfl⟩
      | ok b =>
          rcases ih with ⟨values, hvalues, hall⟩ | ⟨before, a', after, e, rfl, hbefore, ha', he⟩
          · rw [hvalues]
            exact .inl ⟨b :: values, rfl, List.Forall₂.cons ha hall⟩
          · rw [he]
            refine .inr ⟨a :: before, a', after, e, rfl, ?_, ha', rfl⟩
            exact List.forall_mem_cons.mpr ⟨⟨b, ha⟩, hbefore⟩

end

/-! ### Slices -/

/-- A time of four bytes whose second half starts within a character. -/
def Torn (value : String) : Prop :=
  (Utf8.encode (trimZ value).toList).length = 4 ∧ sliceAt 2 (trimZ value).toList = none

instance (value : String) : Decidable (Torn value) := inferInstanceAs (Decidable (_ ∧ _))

/-- Reading a number does not panic. -/
theorem orMessage_bind_ne_panic {α β : Type} {value : Option α} {text : String}
    {f : α → Except ParseFailure β} (h : ∀ a, f a ≠ .error .panic) :
    (orMessage value text >>= f) ≠ .error .panic := by
  cases value with
  | none => nofun
  | some a => exact h a

theorem parseMonthDay_ne_panic (value : String) (year : ℤ) :
    parseMonthDay value year ≠ .error .panic := by
  unfold parseMonthDay
  split
  · nofun
  · nofun
  · refine orMessage_bind_ne_panic fun day => orMessage_bind_ne_panic fun month => ?_
    dsimp only
    split_ifs <;> nofun

/-- **A time panics exactly if it is torn.** -/
theorem parseUtcTime_panic_iff : parseUtcTime value = .error .panic ↔ Torn value := by
  unfold parseUtcTime Torn
  dsimp only
  by_cases hlength : (Utf8.encode (trimZ value).toList).length = 4
  · rw [if_neg (not_not.mpr hlength)]
    cases hslice : sliceAt 2 (trimZ value).toList with
    | none => exact iff_of_true rfl ⟨hlength, rfl⟩
    | some parts =>
        refine iff_of_false ?_ (fun h => nomatch h.2)
        refine orMessage_bind_ne_panic fun hour => orMessage_bind_ne_panic fun minute => ?_
        split_ifs <;> nofun
  · rw [if_pos hlength]
    exact iff_of_false nofun fun h => hlength h.1

/-- A time of day. -/
theorem parseUtcTime_bounds {time : ℤ} (h : parseUtcTime value = .ok time) :
    0 ≤ time ∧ time < 86400 := by
  unfold parseUtcTime at h
  dsimp only at h
  split_ifs at h
  split at h
  · cases h
  · rename_i hour minute _
    cases hhour : Text.parseUnsigned (2 ^ 32) (String.ofList hour) with
    | none =>
        rw [hhour] at h
        cases h
    | some hourNumber =>
    cases hminute : Text.parseUnsigned (2 ^ 32) (String.ofList minute) with
    | none =>
        rw [hhour, hminute] at h
        cases h
    | some minuteNumber =>
        rw [hhour, hminute] at h
        dsimp only [orMessage, bind, Except.bind] at h
        split_ifs at h with hbounds
        have htime := Except.ok.inj h
        omega

/-- A date that is read exists in its year. -/
theorem parseMonthDay_spec {date : Date} (h : parseMonthDay value year = .ok date) :
    date.Valid ∧ date.year = year := by
  unfold parseMonthDay at h
  split at h
  · cases h
  · cases h
  · rename_i month day _ _
    cases hday : Text.parseUnsigned (2 ^ 32) day with
    | none =>
        rw [hday] at h
        cases h
    | some dayNumber =>
    cases hmonth : monthNumber month with
    | none =>
        rw [hday, hmonth] at h
        cases h
    | some month =>
        rw [hday, hmonth] at h
        dsimp only [orMessage, bind, Except.bind] at h
        split_ifs at h with hvalid
        rw [← Except.ok.inj h]
        exact ⟨hvalid.1, rfl⟩

/-! ### What a schedule means -/

/-- The times of a schedule. -/
def timeTexts (description : String) : List String :=
  match splitMultiDay description with
  | some (startPart, endPart) =>
      [startPart, endPart].filterMap fun part =>
        (Text.splitOnce ',' part).map fun parts => Text.trim parts.1
  | none =>
      match Text.splitOnce ',' description with
      | none => []
      | some (times, _) =>
          match Text.splitOnce '-' (Text.trim times) with
          | none => []
          | some (startTime, endTime) => [Text.trim startTime, Text.trim endTime]

/-- When a contest starts and ends.  With one date, an end that is not after the start is on the
next day. -/
def Means (year : ℤ) (description : String) (start stop : ℤ) : Prop :=
  match splitMultiDay description with
  | some (startPart, endPart) =>
      parseTimeAndDate startPart year = .ok start ∧ parseTimeAndDate endPart year = .ok stop
        ∧ start < stop
  | none => ∃ times dateText startText endText date startTime endTime,
      Text.splitOnce ',' description = some (times, dateText)
        ∧ Text.splitOnce '-' (Text.trim times) = some (startText, endText)
        ∧ parseMonthDay (Text.trim dateText) year = .ok date
        ∧ parseUtcTime (Text.trim startText) = .ok startTime
        ∧ parseUtcTime (Text.trim endText) = .ok endTime
        ∧ start = dateTime date startTime
        ∧ if startTime < endTime then stop = dateTime date endTime
          else stop = dateTime date.next endTime ∧ stop ≤ latest

/-- No time is torn, and two dates are neither equal nor December and January. -/
structure Clean (year : ℤ) (description : String) : Prop where
  whole : ∀ time ∈ timeTexts description, ¬ Torn time
  apart : ∀ startPart endPart start stop, splitMultiDay description = some (startPart, endPart) →
    parseTimeAndDate startPart year = .ok start → parseTimeAndDate endPart year = .ok stop →
    start ≠ stop ∧ ¬ ((dateOfDay (start / 86400)).month = 12 ∧ (dateOfDay (stop / 86400)).month = 1)

theorem lt_of_means {start stop : ℤ} (h : Means year description start stop) : start < stop := by
  unfold Means at h
  split at h
  · exact h.2.2
  · obtain ⟨times, dateText, startText, endText, date, startTime, endTime, -, -, hdate, hstart,
      hend, rfl, h⟩ := h
    have hnext := dayNumber_next (parseMonthDay_spec hdate).1
    have hstartBounds := parseUtcTime_bounds hstart
    have hendBounds := parseUtcTime_bounds hend
    split_ifs at h with horder
    · rw [h]
      unfold dateTime
      omega
    · rw [h.1]
      unfold dateTime
      omega

/-- What does not panic is read, or has a message. -/
theorem ok_or_message {α : Type} {result : Except ParseFailure α} (h : result ≠ .error .panic) :
    (∃ a, result = .ok a) ∨ ∃ message, result = .error (.message message) := by
  cases result with
  | ok a => exact .inl ⟨a, rfl⟩
  | error e =>
      cases e with
      | message text => exact .inr ⟨text, rfl⟩
      | panic => exact absurd rfl h

theorem parseTimeAndDate_ne_panic (year : ℤ)
    (h : ∀ parts, Text.splitOnce ',' part = some parts → ¬ Torn (Text.trim parts.1)) :
    parseTimeAndDate part year ≠ .error .panic := by
  unfold parseTimeAndDate
  cases hsplit : Text.splitOnce ',' part with
  | none => nofun
  | some parts =>
      dsimp only
      rcases ok_or_message (parseMonthDay_ne_panic (Text.trim parts.2) year) with
        ⟨date, hdate⟩ | ⟨message, hdate⟩
      · rw [hdate]
        rcases ok_or_message (parseUtcTime_panic_iff.not.mpr (h parts hsplit)) with
          ⟨time, htime⟩ | ⟨message, htime⟩
        · rw [htime]
          nofun
        · rw [htime]
          nofun
      · rw [hdate]
        nofun

/-- Two dates: what comes of them. -/
theorem parseSchedule_twoDates {startPart endPart : String}
    (hsplit : splitMultiDay description = some (startPart, endPart))
    (h : Clean year description) :
    (∃ start stop, parseSchedule description year = .ok (start, stop)
        ∧ Means year description start stop)
      ∨ (∃ message, parseSchedule description year = .error (.message message))
        ∧ ∀ start stop, ¬ Means year description start stop := by
  obtain ⟨hwhole, hapart⟩ := h
  unfold timeTexts at hwhole
  rw [hsplit] at hwhole
  have hpart : ∀ part ∈ [startPart, endPart], ∀ parts, Text.splitOnce ',' part = some parts →
      ¬ Torn (Text.trim parts.1) := by
    intro part hmem parts hparts
    apply hwhole
    refine List.mem_filterMap.mpr ⟨part, hmem, ?_⟩
    rw [hparts]
    rfl
  unfold parseSchedule Means
  rw [hsplit]
  dsimp only
  rcases ok_or_message (parseTimeAndDate_ne_panic year (hpart startPart (by simp))) with
    ⟨start, hstart⟩ | ⟨message, hstart⟩
  swap
  · rw [hstart]
    exact .inr ⟨⟨message, rfl⟩, fun _ _ hmeans => nomatch hmeans.1⟩
  rcases ok_or_message (parseTimeAndDate_ne_panic year (hpart endPart (by simp))) with
    ⟨stop, hstop⟩ | ⟨message, hstop⟩
  swap
  · rw [hstart, hstop]
    exact .inr ⟨⟨message, rfl⟩, fun _ _ hmeans => nomatch hmeans.2.1⟩
  obtain ⟨hne, -⟩ := hapart startPart endPart start stop hsplit hstart hstop
  rw [hstart, hstop]
  by_cases horder : stop < start
  · refine .inr ⟨⟨_, if_pos horder⟩, ?_⟩
    rintro _ _ ⟨⟨⟩, ⟨⟩, hlt⟩
    omega
  · exact .inl ⟨start, stop, if_neg horder, rfl, rfl, by omega⟩

/-- One date: the end is on it or on the day after. -/
theorem parseSchedule_oneDate (hsplit : splitMultiDay description = none)
    (h : Clean year description) :
    (∃ start stop, parseSchedule description year = .ok (start, stop)
        ∧ Means year description start stop)
      ∨ (∃ message, parseSchedule description year = .error (.message message))
        ∧ ∀ start stop, ¬ Means year description start stop := by
  have hwhole := h.whole
  unfold timeTexts at hwhole
  rw [hsplit] at hwhole
  unfold parseSchedule Means
  rw [hsplit]
  dsimp only at hwhole ⊢
  cases hcomma : Text.splitOnce ',' description with
  | none =>
      refine .inr ⟨⟨_, rfl⟩, ?_⟩
      rintro _ _ ⟨times, dateText, startText, endText, date, startTime, endTime, hsome, -⟩
      cases hsome
  | some parts =>
  obtain ⟨times, dateText⟩ := parts
  rw [hcomma] at hwhole
  dsimp only at hwhole ⊢
  cases hdash : Text.splitOnce '-' (Text.trim times) with
  | none =>
      refine .inr ⟨⟨_, rfl⟩, ?_⟩
      rintro _ _ ⟨_, _, startText, endText, date, startTime, endTime, ⟨⟩, hsome, -⟩
      rw [hdash] at hsome
      cases hsome
  | some texts =>
  obtain ⟨startText, endText⟩ := texts
  rw [hdash] at hwhole
  dsimp only at hwhole ⊢
  have hstartWhole : ¬ Torn (Text.trim startText) := hwhole _ (by simp)
  have hendWhole : ¬ Torn (Text.trim endText) := hwhole _ (by simp)
  rcases ok_or_message (parseMonthDay_ne_panic (Text.trim dateText) year) with
    ⟨date, hdate⟩ | ⟨message, hdate⟩
  swap
  · rw [hdate]
    refine .inr ⟨⟨message, rfl⟩, ?_⟩
    rintro _ _ ⟨_, _, _, _, date, startTime, endTime, ⟨⟩, -, hsome, -⟩
    rw [hdate] at hsome
    cases hsome
  rcases ok_or_message (parseUtcTime_panic_iff.not.mpr hstartWhole) with
    ⟨startTime, hstart⟩ | ⟨message, hstart⟩
  swap
  · rw [hdate, hstart]
    refine .inr ⟨⟨message, rfl⟩, ?_⟩
    rintro _ _ ⟨_, _, _, _, date', startTime, endTime, ⟨⟩, htexts, -, hsome, -⟩
    rw [hdash] at htexts
    cases htexts
    rw [hstart] at hsome
    cases hsome
  rcases ok_or_message (parseUtcTime_panic_iff.not.mpr hendWhole) with
    ⟨endTime, hend⟩ | ⟨message, hend⟩
  swap
  · rw [hdate, hstart, hend]
    refine .inr ⟨⟨message, rfl⟩, ?_⟩
    rintro _ _ ⟨_, _, _, _, date', startTime, endTime, ⟨⟩, htexts, -, -, hsome, -⟩
    rw [hdash] at htexts
    cases htexts
    rw [hend] at hsome
    cases hsome
  rw [hdate, hstart, hend]
  have hnext := dayNumber_next (parseMonthDay_spec hdate).1
  by_cases horder : startTime < endTime
  · have hlater : ¬ dateTime date endTime ≤ dateTime date startTime := by
      unfold dateTime
      omega
    refine .inl ⟨_, _, if_neg hlater, times, dateText, startText, endText, date, startTime, endTime,
      rfl, hdash, hdate, hstart, hend, rfl, ?_⟩
    rw [if_pos horder]
  · have hearlier : dateTime date endTime ≤ dateTime date startTime := by
      unfold dateTime
      omega
    have htomorrow : dateTime date.next endTime = dateTime date endTime + 86400 := by
      unfold dateTime
      omega
    by_cases hlatest : dateTime date endTime + 86400 ≤ latest
    · refine .inl ⟨_, _, (if_pos hearlier).trans (if_pos hlatest), times, dateText, startText,
        endText, date, startTime, endTime, rfl, hdash, hdate, hstart, hend, rfl, ?_⟩
      rw [if_neg horder, htomorrow]
      exact ⟨rfl, hlatest⟩
    · refine .inr ⟨⟨_, (if_pos hearlier).trans (if_neg hlatest)⟩, ?_⟩
      rintro _ _ ⟨_, _, _, _, date', startTime', endTime', ⟨⟩, htexts, hdate', hstart', hend', -,
        hmeans⟩
      rw [hdash] at htexts
      cases htexts
      cases hdate.symm.trans hdate'
      cases hstart.symm.trans hstart'
      cases hend.symm.trans hend'
      rw [if_neg horder, htomorrow] at hmeans
      obtain ⟨rfl, hle⟩ := hmeans
      exact hlatest hle

/-- **What comes of a schedule** whose times are not torn. -/
theorem parseSchedule_clean (h : Clean year description) :
    (∃ start stop, parseSchedule description year = .ok (start, stop)
        ∧ Means year description start stop)
      ∨ (∃ message, parseSchedule description year = .error (.message message))
        ∧ ∀ start stop, ¬ Means year description start stop := by
  cases hsplit : splitMultiDay description with
  | none => exact parseSchedule_oneDate hsplit h
  | some parts => exact parseSchedule_twoDates hsplit h

/-! ### The feed -/

/-- A contest that is returned for an item. -/
structure Lists (year : ℤ) (item : Item) (entry : ContestCalendarEntry) : Prop where
  name : entry.name = item.title
  times : Means year item.description entry.startTimeUtc.seconds entry.endTimeUtc.seconds
  forward : entry.startTimeUtc.seconds < entry.endTimeUtc.seconds

/-- A contest over the night of New Year. -/
def newYearFeed : List Item := [⟨"Night", none, "2300Z-0100Z, Dec 31"⟩]

end QsoRipper.Contest
