/-
QsoRipper/Tui/Grpc.lean

The record that the terminal client sends for an edited contact: what it reads back
from each field of the form, laid over the record that was loaded.
-/
import QsoRipper.Adif.LotwColumns
import QsoRipper.Lib.Lines
import QsoRipper.Lib.Number
import QsoRipper.Tui.App

namespace QsoRipper.Tui

/-! ### Data -/

/-- What is read outside this repository: a date `%Y-%m-%d` as its midnight, a time
`%H:%M:%S` as the seconds of the day, a double, and a double number of MHz in Hz. -/
structure Readers where
  date : String → Option ℤ
  time : String → Option ℤ
  float : String → Option Float64
  mhz : String → Option ℕ

/-- A row of the list, as `list_recent_qsos` makes it. -/
def RecentQso.ofRecord (formats : Formats) (qso : QsoRecord) : RecentQso where
  localId := qso.localId
  date := formatOptional formats.date qso.utcTimestamp
  utc := formatOptional formats.time qso.utcTimestamp
  callsign := qso.workedCallsign
  band := ((Band.tryFrom qso.band).bind Adif.bandToAdif).getD "?"
  mode := ((Mode.tryFrom qso.mode).bind Adif.modeToAdif).getD "?"
  rstSent := (qso.rstSent.map (·.raw)).getD ""
  rstRcvd := (qso.rstReceived.map (·.raw)).getD ""
  country := qso.workedCountry
  grid := qso.workedGrid
  name := qso.workedOperatorName
  sourceRecord := qso

/-! ### Codes -/

/-- `band_from_adif`. -/
def bandFromAdif (s : String) : Option Band :=
  let upper := Text.toUppercase s
  ((List.range 34).map Band.ofNat).find? fun band => Adif.bandToAdif band == some upper

/-- `mode_from_adif`; two names of the import stand for another mode. -/
def modeFromAdif (s : String) : Option Mode :=
  let upper := Text.toUppercase s
  let listed :=
    ((List.range 46).map Mode.ofNat).find? fun mode => Adif.modeToAdif mode == some upper
  listed.or (if upper = "C4FM" ∨ upper = "DSTAR" then some .digitalvoice else none)

/-- `resolve_mode`. -/
def resolveMode (modeStr : String) : Mode × Option String :=
  if modeStr = "FT4" then (.mfsk, some "FT4")
  else if modeStr = "PSK31" then (.psk, some "PSK31")
  else ((modeFromAdif modeStr).getD .unspecified, none)

/-! ### Parsers -/

/-- `opt_string`. -/
def optString (s : String) : Option String := if s = "" then none else some s

/-- `opt_u32`. -/
def optU32 (s : String) : Option ℕ := Text.parseUnsigned (2 ^ 32) (Text.trim s)

/-- `opt_f64`. -/
def optF64 (readers : Readers) (s : String) : Except String (Option Float64) :=
  let trimmed := Text.trim s
  if trimmed = "" then .ok none
  else
    match readers.float trimmed with
    | some x => .ok (some x)
    | none => .error ("invalid number: " ++ trimmed)

/-- `parse_qsl_status`. -/
def parseQslStatus (s : String) : Except String QslStatus :=
  let trimmed := Text.trim s
  if trimmed = "" then .ok .unspecified
  else
    match Adif.qslStatusFromAdif trimmed with
    | .unspecified =>
        .error ("invalid QSL status: " ++ trimmed ++ "; use N, Y, R, Q, I, or blank")
    | status => .ok status

/-- `parse_optional_bool`. -/
def parseOptionalBool (s : String) : Except String (Option Bool) :=
  let upper := Text.toAsciiUppercase (Text.trim s)
  if upper = "" then .ok none
  else if upper ∈ ["Y", "YES", "TRUE", "1"] then .ok (some true)
  else if upper ∈ ["N", "NO", "FALSE", "0"] then .ok (some false)
  else .error ("invalid boolean value: " ++ upper ++ "; use Y, N, or blank")

/-- `parse_optional_date`. -/
def parseOptionalDate (readers : Readers) (s : String) : Except String (Option Timestamp) :=
  let trimmed := Text.trim s
  if trimmed = "" then .ok none
  else
    match readers.date trimmed with
    | some midnight => .ok (some { seconds := midnight })
    | none => .error "invalid QSL date"

/-- `parse_timestamp(..).ok()`. -/
def parseTimestamp (readers : Readers) (date time : String) : Option Timestamp :=
  (readers.date date).bind fun midnight =>
    (readers.time (time ++ ":00")).map fun seconds => { seconds := midnight + seconds }

/-- `parse_radio_style_frequency`. -/
def parseRadioStyleFrequency (value : String) : Option ℕ :=
  match (value.toList.splitOn '.').map String.ofList with
  | [mhz, khz, tail] =>
      match Text.parseUnsigned (2 ^ 64) mhz, Text.parseUnsigned (2 ^ 64) khz,
        Text.parseUnsigned (2 ^ 64) tail with
      | some mhz, some khz, some fractional =>
          if 999 < khz ∨ tail = "" ∨ 3 < tail.utf8ByteSize ∨ 999 < fractional then none
          else
            let hz := mhz * 1000000 + khz * 1000
              + if tail.utf8ByteSize ≤ 2 then fractional * 10 else fractional
            if hz < 2 ^ 64 then some hz else none
      | _, _, _ => none
  | _ => none

/-- `parse_frequency_mhz`. -/
def parseFrequencyMhz (readers : Readers) (value : String) : Option ℕ :=
  let trimmed := Text.trim value
  if trimmed = "" then none else (parseRadioStyleFrequency trimmed).or (readers.mhz trimmed)

/-- The numbers that the digits of a report give. -/
def rstDigits (raw : String) : Option ℕ × Option ℕ × Option ℕ :=
  match (raw.toList.filter Char.isDigit).map fun c => c.toNat - '0'.toNat with
  | [r, st] => (some r, some st, none)
  | [r, st, t] => (some r, some st, some t)
  | _ => (none, none, none)

/-- `parse_rst`. -/
def parseRst (s : String) : Option RstReport :=
  if s = "" then none
  else
    let (readability, strength, tone) := rstDigits s
    some { readability, strength, tone, raw := s }

/-- One line of `parse_extra_fields`. -/
def parseExtraLine (fields : Std.ExtTreeMap String String) (line : String × ℕ) :
    Except String (Std.ExtTreeMap String String) :=
  let trimmed := Text.trim line.1
  let invalid := "invalid extra ADIF field on line " ++ toString (line.2 + 1)
  if trimmed = "" then .ok fields
  else
    match Text.splitOnce '=' trimmed with
    | none => .error (invalid ++ ": use KEY=value")
    | some (key, value) =>
        let key := Text.toAsciiUppercase (Text.trim key)
        if key = "" then .error (invalid ++ ": key is empty")
        else .ok (fields.insert key (Text.trim value))

/-- `parse_extra_fields`. -/
def parseExtraFields (text : String) : Except String (Std.ExtTreeMap String String) :=
  (Text.lines text).zipIdx.foldlM parseExtraLine ∅

/-- The fields of a station snapshot. -/
def snapshotFields : List Field :=
  [.snapshotProfileName, .snapshotStationCallsign, .snapshotOperatorCallsign,
    .snapshotOperatorName, .snapshotGrid, .snapshotCountry, .snapshotState, .snapshotCounty,
    .snapshotArrlSection, .snapshotDxcc, .snapshotCqZone, .snapshotItuZone, .snapshotLatitude,
    .snapshotLongitude]

/-- `station_snapshot_from_form`. -/
def stationSnapshotFromForm (readers : Readers) (form : LogForm) :
    Except String (Option StationSnapshot) :=
  let text := form.text
  if (snapshotFields.any fun f => Text.trim (text f) != "") = false then .ok none
  else do
    let latitude ← optF64 readers (text .snapshotLatitude)
    let longitude ← optF64 readers (text .snapshotLongitude)
    return some
      { profileName := optString (text .snapshotProfileName)
        stationCallsign := Text.toUppercase (text .snapshotStationCallsign)
        operatorCallsign := optString (Text.toUppercase (text .snapshotOperatorCallsign))
        operatorName := optString (text .snapshotOperatorName)
        grid := optString (text .snapshotGrid)
        county := optString (text .snapshotCounty)
        state := optString (text .snapshotState)
        country := optString (text .snapshotCountry)
        dxcc := optU32 (text .snapshotDxcc)
        cqZone := optU32 (text .snapshotCqZone)
        ituZone := optU32 (text .snapshotItuZone)
        latitude
        longitude
        arrlSection := optString (text .snapshotArrlSection)
        altitudeMeters := none
        gridsquareExt := none }

/-! ### The update -/

/-- `update_qso`: the record that is sent. -/
def updateQso (readers : Readers) (localId : String) (form : LogForm) (lookup : LookupEnrichment)
    (base : Option QsoRecord) : Except String QsoRecord := do
  let text := form.text
  let (mode, submode) := resolveMode (modes form.modeIdx)
  let (lookupGrid, lookupCountry, lookupCqZone, lookupDxcc) :=
    lookup.getD (none, none, none, none)
  let qslSentStatus ← parseQslStatus (text .qslSentStatus)
  let qslReceivedStatus ← parseQslStatus (text .qslReceivedStatus)
  let lotwSent ← parseOptionalBool (text .lotwSent)
  let lotwReceived ← parseOptionalBool (text .lotwReceived)
  let eqslSent ← parseOptionalBool (text .eqslSent)
  let eqslReceived ← parseOptionalBool (text .eqslReceived)
  let qslSentDate ← parseOptionalDate readers (text .qslSentDate)
  let qslReceivedDate ← parseOptionalDate readers (text .qslReceivedDate)
  let stationSnapshot ← stationSnapshotFromForm readers form
  let extraFields ← parseExtraFields (text .extraFields)
  return { base.getD {} with
    localId
    workedCallsign := Text.toUppercase (text .callsign)
    stationCallsign := Text.toUppercase (text .stationCallsign)
    band := ((bandFromAdif (bands form.bandIdx)).getD .unspecified).toI32
    mode := mode.toI32
    utcTimestamp := parseTimestamp readers (text .date) (text .time)
    utcEndTimestamp :=
      if text .timeOff = "" then none else parseTimestamp readers (text .date) (text .timeOff)
    frequencyHz := parseFrequencyMhz readers (text .frequencyMhz)
    frequencyRxHz := form.rigFrequencyRxHz
    bandRx := ((form.rigBandRx.bind bandFromAdif).map Band.toI32).getD 0
    submode := if text .submode = "" then submode else some (text .submode)
    rstSent := parseRst (text .rstSent)
    rstReceived := parseRst (text .rstRcvd)
    comment := optString (text .comment)
    notes := optString (text .notes)
    txPower := optString (text .txPower)
    qslSentStatus := qslSentStatus.toI32
    qslReceivedStatus := qslReceivedStatus.toI32
    lotwSent
    lotwReceived
    eqslSent
    eqslReceived
    qslSentDate
    qslReceivedDate
    qrzLogid := optString (text .qrzLogId)
    qrzBookid := optString (text .qrzBookId)
    contestId := optString (text .contestId)
    serialSent := optString (text .serialSent)
    serialReceived := optString (text .serialRcvd)
    exchangeSent := optString (text .exchangeSent)
    exchangeReceived := optString (text .exchangeRcvd)
    workedGrid := (optString (text .workedGrid)).or lookupGrid
    workedCountry := (optString (text .workedCountry)).or lookupCountry
    workedCqZone := (optU32 (text .workedCqZone)).or lookupCqZone
    workedDxcc := (optU32 (text .workedDxcc)).or lookupDxcc
    workedItuZone := optU32 (text .workedItuZone)
    workedContinent := optString (text .workedContinent)
    workedOperatorCallsign := optString (Text.toUppercase (text .workedOperatorCallsign))
    workedOperatorName := optString (text .workedName)
    workedIota := optString (text .iota)
    workedArrlSection := optString (text .arrlSection)
    workedState := optString (text .workedState)
    workedCounty := optString (text .workedCounty)
    skcc := optString (text .skcc)
    propMode := optString (text .propMode)
    satName := optString (text .satName)
    satMode := optString (text .satMode)
    stationSnapshot
    extraFields
    cwDecodeRxWpm := optU32 (text .cwDecodeRxWpm)
    cwDecodeTranscript := optString (text .cwDecodeTranscript) }

/-- The update that a save of an edited contact sends. -/
def Save.update (readers : Readers) (save : Save) (localId : String) : Except String QsoRecord :=
  updateQso readers localId save.formSnap save.lookup save.baseRecord

end QsoRipper.Tui
