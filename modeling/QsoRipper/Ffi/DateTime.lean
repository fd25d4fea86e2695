/-
QsoRipper/Ffi/DateTime.lean

The calendar of the C bindings: `timestamp_parts` with the texts made of it, and
`parse_datetime` with `days_from_civil` behind it.  The divisions round towards zero, and the
32-bit operations of `days_from_civil` are checked one by one.
-/
import QsoRipper.Domain.Record
import QsoRipper.Lib.Calendar
import QsoRipper.Lib.Number
import QsoRipper.Lib.Segments
import QsoRipper.Lib.Utf8

namespace QsoRipper.Ffi

open Calendar

/-! ### Writing -/

/-- `{n:0width}`. -/
def padded (width : ℕ) (n : ℤ) : String :=
  let digits := Nat.toDigits 10 n.natAbs
  if n < 0 then
    String.ofList ('-' :: (List.replicate (width - 1 - digits.length) '0' ++ digits))
  else String.ofList (List.replicate (width - digits.length) '0' ++ digits)

/-- The date that `timestamp_parts` and `populate_qso_detail` come to. -/
def civilDate (totalSecs : ℤ) : Date :=
  let days := totalSecs.tdiv 86400 + 719468
  let era := (if 0 ≤ days then days else days - 146096).tdiv 146097
  let doe := days - era * 146097
  let yoe := (doe - doe.tdiv 1460 + doe.tdiv 36524 - doe.tdiv 146096).tdiv 365
  let y := yoe + era * 400
  let doy := doe - (365 * yoe + yoe.tdiv 4 - yoe.tdiv 100)
  let mp := (5 * doy + 2).tdiv 153
  let d := doy - (153 * mp + 2).tdiv 5 + 1
  let m := if mp < 10 then mp + 3 else mp - 9
  ⟨if m ≤ 2 then y + 1 else y, m, d⟩

/-- The hour and the minute of the day. -/
def timeOfDay (totalSecs : ℤ) : ℤ × ℤ :=
  let daySecs := totalSecs % 86400
  (daySecs.tdiv 3600, (daySecs.tmod 3600).tdiv 60)

/-- `{y:04}-{m:02}-{d:02}`. -/
def dateText (d : Date) : String :=
  padded 4 d.year ++ "-" ++ padded 2 d.month ++ "-" ++ padded 2 d.day

/-- `{h:02}:{min:02}`. -/
def timeText (time : ℤ × ℤ) : String := padded 2 time.1 ++ ":" ++ padded 2 time.2

/-- `timestamp_date`. -/
def timestampDate (ts : Timestamp) : String := dateText (civilDate ts.seconds)

/-- `timestamp_datetime`. -/
def timestampDatetime (ts : Timestamp) : String :=
  dateText (civilDate ts.seconds) ++ " " ++ timeText (timeOfDay ts.seconds)

/-- `str_to_buf`, into a buffer of `size` bytes. -/
def strToBuf (size : ℕ) (s : String) : List UInt8 :=
  let bytes := (Utf8.encode s.toList).take (size - 1)
  bytes ++ List.replicate (size - bytes.length) 0

/-- The date and the time that `populate_qso_detail` writes. -/
def populateDateTime (ts : Timestamp) : List UInt8 × List UInt8 :=
  (strToBuf 16 (dateText (civilDate ts.seconds)), strToBuf 16 (timeText (timeOfDay ts.seconds)))

/-! ### Reading -/

/-- What `parse_datetime` answers instead, or an operation that overflows. -/
inductive DateTimeError where
  | message (text : String)
  | overflow
  deriving DecidableEq

/-- The value of an `i32` operation. -/
def i32 (x : ℤ) : Except DateTimeError ℤ :=
  if -2 ^ 31 ≤ x ∧ x < 2 ^ 31 then .ok x else .error .overflow

/-- The value of a `u32` operation. -/
def u32 (x : ℤ) : Except DateTimeError ℤ :=
  if 0 ≤ x ∧ x < 2 ^ 32 then .ok x else .error .overflow

/-- `days_from_civil`. -/
def daysFromCivil (year month day : ℤ) : Except DateTimeError ℤ := do
  let y ← i32 (if month ≤ 2 then year - 1 else year)
  let numerator ← i32 (if 0 ≤ y then y else y - 399)
  let era := numerator.tdiv 400
  let eraYears ← i32 (era * 400)
  let yoeSigned ← i32 (y - eraYears)
  let yoe := yoeSigned % 2 ^ 32
  let mp ← u32 (if month > 2 then month - 3 else month + 9)
  let monthDays ← u32 (153 * mp)
  let monthDays ← u32 (monthDays + 2)
  let dayOfYear ← u32 (monthDays / 5 + day)
  let doy ← u32 (dayOfYear - 1)
  let yearDays ← u32 (yoe * 365)
  let yearDays ← u32 (yearDays + yoe / 4)
  let yearDays ← u32 (yearDays - yoe / 100)
  let doe ← u32 (yearDays + doy)
  let eraDays ← i32 (era * 146097)
  let days ← i32 (eraDays + doe.bmod (2 ^ 32))
  i32 (days - 719468)

/-- `str::parse::<i32>`. -/
def parseI32 (s : String) : Option ℤ :=
  match s.toList with
  | '-' :: digits =>
      if digits.isEmpty || !digits.all Char.isDigit then none
      else if Text.decimalValue digits ≤ 2 ^ 31 then some (-Text.decimalValue digits) else none
  | _ => (Text.parseUnsigned (2 ^ 31) s).map Int.ofNat

/-- `str::parse::<u32>`. -/
def parseU32 (s : String) : Option ℤ := (Text.parseUnsigned (2 ^ 32) s).map Int.ofNat

/-- What is read, or the message. -/
def orMessage (value : Option ℤ) (text : String) : Except DateTimeError ℤ :=
  match value with
  | some value => .ok value
  | none => .error (.message text)

/-- A bound of a component. -/
def check (condition : Bool) (text : String) : Except DateTimeError Unit :=
  if condition then .ok () else .error (.message text)

/-- The date of `parse_datetime`. -/
def parseDate (datePart : String) : Except DateTimeError Date :=
  match Text.segments '-' datePart with
  | [y, m, d] => do
      let year ← orMessage (parseI32 y) ("Invalid year: " ++ y)
      let month ← orMessage (parseU32 m) ("Invalid month: " ++ m)
      let day ← orMessage (parseU32 d) ("Invalid day: " ++ d)
      check (1 ≤ month && month ≤ 12) ("Month out of range: " ++ toString month)
      check (1 ≤ day && day ≤ daysInMonth year month) ("Day out of range: " ++ toString day)
      pure ⟨year, month, day⟩
  | _ => .error (.message ("Invalid date: " ++ datePart))

/-- The seconds of `parse_datetime`, from what is behind the minutes. -/
def parseSecond : List String → Except DateTimeError ℤ
  | s :: _ => orMessage (parseU32 s) ("Invalid second: " ++ s)
  | [] => .ok 0

/-- The time of `parse_datetime`. -/
def parseTime (timePart : String) : Except DateTimeError (ℤ × ℤ × ℤ) :=
  match Text.segments ':' timePart with
  | h :: m :: rest =>
      if 1 < rest.length then .error (.message ("Invalid time: " ++ timePart))
      else do
        let hour ← orMessage (parseU32 h) ("Invalid hour: " ++ h)
        let minute ← orMessage (parseU32 m) ("Invalid minute: " ++ m)
        let second ← parseSecond rest
        check (hour ≤ 23) ("Hour out of range: " ++ toString hour)
        check (minute ≤ 59) ("Minute out of range: " ++ toString minute)
        check (second ≤ 59) ("Second out of range: " ++ toString second)
        pure (hour, minute, second)
  | _ => .error (.message ("Invalid time: " ++ timePart))

/-- `parse_datetime`. -/
def parseDatetime (text : String) : Except DateTimeError Timestamp :=
  let s := Text.trim text
  if s.isEmpty then .error (.message "Empty datetime")
  else
    match Text.words s with
    | [datePart, timePart] => do
        let date ← parseDate datePart
        let (hour, minute, second) ← parseTime timePart
        let days ← daysFromCivil date.year date.month date.day
        pure ⟨days * 86400 + hour * 3600 + minute * 60 + second, 0⟩
    | _ => .error (.message ("Invalid datetime format: " ++ s))

example : parseDatetime "2024-02-29 23:59" = .ok ⟨1709251140, 0⟩ := by decide +kernel

end QsoRipper.Ffi
