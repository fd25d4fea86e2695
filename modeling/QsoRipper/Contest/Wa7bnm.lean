/-
QsoRipper/Contest/Wa7bnm.lean

The contest feed: the schedule of an item, which is one date with two times or two dates with a
time each, and the contests of a feed.  The feed is parsed as a whole or refused as a whole.
-/
import QsoRipper.Domain.Record
import QsoRipper.Lib.Calendar
import QsoRipper.Lib.Number
import QsoRipper.Lib.Replace
import QsoRipper.Lib.Segments
import QsoRipper.Lib.Utf8

namespace QsoRipper.Contest

open Calendar

/-! ### Texts -/

/-- Why a text is not parsed: `ContestCalendarProviderError::parse`, or a slice within a
character. -/
inductive ParseFailure where
  | message (text : String)
  | panic
  deriving DecidableEq

/-- `str::split_once`, with a text. -/
def splitOnceText (separator s : String) : Option (String × String) :=
  (Text.find separator.toList s.toList).map fun i =>
    (String.ofList (s.toList.take i), String.ofList (s.toList.drop (i + separator.toList.length)))

/-- The characters before a byte and from it on, unless it stands within a character. -/
def sliceAt : ℕ → List Char → Option (List Char × List Char)
  | 0, cs => some ([], cs)
  | _ + 1, [] => none
  | n + 1, c :: cs =>
      if c.utf8Size ≤ n + 1 then
        (sliceAt (n + 1 - c.utf8Size) cs).map fun parts => (c :: parts.1, parts.2)
      else none

/-! ### Dates and times -/

/-- A year that `NaiveDate` has. -/
def InRange (year : ℤ) : Prop := -262143 ≤ year ∧ year ≤ 262142

instance (year : ℤ) : Decidable (InRange year) := inferInstanceAs (Decidable (_ ∧ _))

/-- A `NaiveDateTime`, as its seconds. -/
def dateTime (date : Date) (time : ℤ) : ℤ := date.dayNumber * 86400 + time

/-- The last one. -/
def latest : ℤ := dateTime ⟨262142, 12, 31⟩ 86399

/-- The number of a month. -/
def monthNumber (month : String) : Option ℤ :=
  if month = "Jan" ∨ month = "January" then some 1
  else if month = "Feb" ∨ month = "February" then some 2
  else if month = "Mar" ∨ month = "March" then some 3
  else if month = "Apr" ∨ month = "April" then some 4
  else if month = "May" then some 5
  else if month = "Jun" ∨ month = "June" then some 6
  else if month = "Jul" ∨ month = "July" then some 7
  else if month = "Aug" ∨ month = "August" then some 8
  else if month = "Sep" ∨ month = "Sept" ∨ month = "September" then some 9
  else if month = "Oct" ∨ month = "October" then some 10
  else if month = "Nov" ∨ month = "November" then some 11
  else if month = "Dec" ∨ month = "December" then some 12
  else none

/-- What is read, or a message. -/
def orMessage {α : Type} (value : Option α) (text : String) : Except ParseFailure α :=
  match value with
  | some value => .ok value
  | none => .error (.message text)

/-- `parse_month_day`. -/
def parseMonthDay (value : String) (year : ℤ) : Except ParseFailure Date :=
  match Text.words value with
  | [] => .error (.message ("missing month in '" ++ value ++ "'"))
  | [_] => .error (.message ("missing day in '" ++ value ++ "'"))
  | month :: day :: _ => do
      let day ← orMessage (Text.parseUnsigned (2 ^ 32) day) ("invalid day in '" ++ value ++ "'")
      let month ← orMessage (monthNumber month) ("invalid month '" ++ month ++ "'")
      let date : Date := ⟨year, month, day⟩
      if date.Valid ∧ InRange year then .ok date
      else .error (.message ("invalid date '" ++ value ++ "'"))

/-- `trim_end_matches('Z')`. -/
def trimZ (value : String) : String := String.ofList (value.toList.rdropWhile (· == 'Z'))

/-- `parse_utc_time`, as the second of the day. -/
def parseUtcTime (value : String) : Except ParseFailure ℤ :=
  let value := trimZ value
  if (Utf8.encode value.toList).length ≠ 4 then
    .error (.message ("invalid UTC time '" ++ value ++ "'"))
  else
    match sliceAt 2 value.toList with
    | none => .error .panic
    | some (hour, minute) => do
        let hour ← orMessage (Text.parseUnsigned (2 ^ 32) (String.ofList hour))
          ("invalid UTC hour '" ++ value ++ "'")
        let minute ← orMessage (Text.parseUnsigned (2 ^ 32) (String.ofList minute))
          ("invalid UTC minute '" ++ value ++ "'")
        if hour < 24 ∧ minute < 60 then .ok (hour * 3600 + minute * 60)
        else .error (.message ("invalid UTC time '" ++ value ++ "'"))

/-- `parse_time_and_date`. -/
def parseTimeAndDate (part : String) (year : ℤ) : Except ParseFailure ℤ :=
  match Text.splitOnce ',' part with
  | none => .error (.message ("missing comma in schedule part '" ++ part ++ "'"))
  | some (time, date) => do
      let date ← parseMonthDay (Text.trim date) year
      let time ← parseUtcTime (Text.trim time)
      .ok (dateTime date time)

/-! ### Schedules -/

/-- `split_multi_day`. -/
def splitMultiDay (description : String) : Option (String × String) :=
  [" to ", " - ", " thru ", " through "].findSome? fun separator =>
    (splitOnceText separator description).bind fun parts =>
      if ',' ∈ parts.1.toList ∧ ',' ∈ parts.2.toList then
        some (Text.trim parts.1, Text.trim parts.2)
      else none

/-- `parse_schedule`. -/
def parseSchedule (description : String) (year : ℤ) : Except ParseFailure (ℤ × ℤ) :=
  match splitMultiDay description with
  | some (startPart, endPart) => do
      let start ← parseTimeAndDate startPart year
      let stop ← parseTimeAndDate endPart year
      if stop < start then
        .error (.message ("contest end precedes start in schedule '" ++ description ++ "'"))
      else .ok (start, stop)
  | none =>
      match Text.splitOnce ',' description with
      | none => .error (.message ("missing comma in schedule '" ++ description ++ "'"))
      | some (times, date) =>
          match Text.splitOnce '-' (Text.trim times) with
          | none => .error (.message ("missing time range in schedule '" ++ description ++ "'"))
          | some (startTime, endTime) => do
              let date ← parseMonthDay (Text.trim date) year
              let start ← parseUtcTime (Text.trim startTime)
              let stop ← parseUtcTime (Text.trim endTime)
              if dateTime date stop ≤ dateTime date start then
                -- `checked_add_signed` of a day
                if dateTime date stop + 86400 ≤ latest then
                  .ok (dateTime date start, dateTime date stop + 86400)
                else .error (.message "contest end overflow")
              else .ok (dateTime date start, dateTime date stop)

/-! ### The feed -/

/-- `Item`. -/
structure Item where
  title : String
  link : Option String
  description : String

/-- `ContestCalendarEntry`, without what is the same for every contest of the feed. -/
structure ContestCalendarEntry where
  contestId : String
  name : String
  startTimeUtc : Timestamp
  endTimeUtc : Timestamp
  sourceUrl : String
  deriving DecidableEq

/-- `stable_contest_id`. -/
def stableContestId (name : String) (start : ℤ) : String :=
  let input := Text.toAsciiUppercase (Text.trim name) ++ "\n" ++ toString start
  let hash := (Utf8.encode input.toList).foldl
    (fun (hash : UInt64) byte => (hash ^^^ byte.toUInt64) * 1099511628211) 14695981039346656037
  let digits := Nat.toDigits 16 hash.toNat
  "wa7bnm-" ++ String.ofList (List.replicate (16 - digits.length) '0' ++ digits)

/-- `entry_from_item`. -/
def entryFromItem (sourceYear : ℤ) (fallbackSourceUrl : String) (item : Item) :
    Except ParseFailure ContestCalendarEntry := do
  let (start, stop) ← parseSchedule item.description sourceYear
  .ok {
    contestId := stableContestId item.title start
    name := item.title
    startTimeUtc := ⟨start, 0⟩
    endTimeUtc := ⟨stop, 0⟩
    sourceUrl := item.link.getD fallbackSourceUrl }

/-- `parse_wa7bnm_rss`, from the items that the XML reader returns. -/
def parseWa7bnmRss (sourceYear : ℤ) (sourceUrl : String) (items : List Item) :
    Except ParseFailure (List ContestCalendarEntry) :=
  items.mapM (entryFromItem sourceYear sourceUrl)

example : parseSchedule "2300Z-0100Z, Dec 31" 2026 = .ok (1798758000, 1798765200) := by
  decide +kernel

end QsoRipper.Contest
