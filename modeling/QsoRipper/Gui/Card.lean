/-
QsoRipper/Gui/Card.lean

`FullQsoCardViewModel`: the card on which every field of a contact can be typed.  It is
filled from a stored record or from the panel, it follows the lookups of the callsign, and
a save reads its texts back into a record.

As in the panel, what lies between two awaits is one step.  What is only shown (the status
texts, the times of the record, the selected tab) is left out.
-/
import QsoRipper.Domain.Station
import QsoRipper.Gui.Logger
import QsoRipper.Lib.Lines

namespace QsoRipper.Gui

/-! ### Bands, modes and reports -/

/-- The names of `Band`, as `ProtoEnumDisplay.FormatEnumValue` writes them. -/
def bandLabels : List String :=
  ["-", "2190M", "630M", "560M", "160M", "80M", "60M", "40M", "30M", "20M", "17M", "15M", "12M",
    "10M", "8M", "6M", "5M", "4M", "2M", "1.25M", "70CM", "33CM", "23CM", "13CM", "9CM", "6CM",
    "3CM", "1.25CM", "6MM", "4MM", "2.5MM", "2MM", "1MM", "SUBMM"]

/-- The names of `Mode`. -/
def modeLabels : List String :=
  ["-", "AM", "ARDOP", "ATV", "CHIP", "CLO", "CONTESTI", "CW", "DIGITALVOICE", "DOMINO", "DYNAMIC",
    "FAX", "FM", "FSK", "FT8", "HELL", "ISCAT", "JT4", "JT9", "JT44", "JT65", "MFSK", "MTONE",
    "MSK144", "OFDM", "OLIVIA", "OPERA", "PAC", "PAX", "PKT", "PSK", "Q15", "QRA64", "ROS", "RTTY",
    "RTTYM", "SSB", "SSTV", "T10", "THOR", "THRB", "TOR", "V4", "VOI", "WINMOR", "WSPR"]

/-- `ProtoEnumDisplay.ForBand`; a code without a name is shown as a number. -/
def forBand (code : ℤ) : String :=
  match Band.tryFrom code with
  | some band => bandLabels.getD band.ctorIdx ""
  | none => toString code

/-- `ProtoEnumDisplay.ForMode`. -/
def forMode (code : ℤ) : String :=
  match Mode.tryFrom code with
  | some mode => modeLabels.getD mode.ctorIdx ""
  | none => toString code

/-- `ProtoEnumDisplay.NormalizeToken`, of a label: these are ASCII. -/
def enumToken (value : String) : String :=
  NetText.toUpperInvariant (String.ofList (value.toList.filter Char.isAlphanum))

/-- `ProtoEnumDisplay.TryParseEnum`: the code of a label, apart from that of "unspecified". -/
def tryParseEnum (labels : List String) (value : String) : Option ℤ :=
  let input := enumToken value
  if input.isEmpty then none
  else
    (labels.zipIdx.drop 1).findSome? fun (label, code) =>
      if enumToken label = input then some (code : ℤ) else none

/-- `SignalReportFormatter.Format`. -/
def formatRst (report : Option RstReport) : String :=
  match report with
  | none => ""
  | some report =>
      let raw := Text.trim report.raw
      if raw.isEmpty then
        match report.readability, report.strength with
        | some readability, some strength =>
            toString readability ++ toString strength ++ (report.tone.map toString).getD ""
        | _, _ => ""
      else raw

/-- Are these one or two digits? -/
def shortNumber (value : List Char) : Bool :=
  (value.length == 1 || value.length == 2) && value.all Char.isDigit

/-- `SignalReportFormatter.IsSignedDigitalReport`. -/
def isSignedDigitalReport (value : String) : Bool :=
  match value.toList with
  | '+' :: digits => shortNumber digits && Nat.ofDigitChars 10 digits 0 ≤ 49
  | '-' :: digits => shortNumber digits && Nat.ofDigitChars 10 digits 0 ≤ 50
  | _ => false

/-- `SignalReportFormatter.TryParse`. -/
def tryParseRst (value : String) : Option RstReport :=
  let normalized := Text.trim value
  if isSignedDigitalReport normalized then some { raw := normalized }
  else
    match normalized.toList with
    | [r, s] =>
        if r.isDigit && s.isDigit then
          some
            { readability := some (r.toNat - 48), strength := some (s.toNat - 48)
              raw := normalized }
        else none
    | [r, s, t] =>
        if r.isDigit && s.isDigit && t.isDigit then
          some
            { readability := some (r.toNat - 48), strength := some (s.toNat - 48)
              tone := some (t.toNat - 48), raw := normalized }
        else none
    | _ => none

/-! ### Texts -/

/-- How .NET writes and reads the times and coordinates of a card. -/
structure CardTexts extends NumberTexts where
  /-- `"yyyy-MM-dd HH:mm"` of a time, in seconds. -/
  minute : ℤ → String
  /-- `"yyyy-MM-dd"` of a time, in seconds. -/
  date : ℤ → String
  /-- `DateTimeOffset.TryParseExact`, else `DateTimeOffset.TryParse`, on a trimmed text. -/
  time : String → Option Timestamp
  /-- `double.ToString("0.####", CultureInfo.InvariantCulture)`. -/
  coordinate : Float64 → String
  /-- `double.TryParse(…, NumberStyles.Float, …)`. -/
  double : String → Option Float64
  /-- `Environment.NewLine`. -/
  newLine : String

/-- `NormalizeToken`. -/
def normalizeToken (value : String) (uppercase : Bool) : String :=
  let normalized := Text.trim value
  if uppercase then NetText.toUpperInvariant normalized else normalized

/-- `NoteOrNull`. -/
def noteOrNull (value : String) : Option String :=
  if NetText.isWhiteSpace value then none else some (Text.trim value)

/-- `FirstNonBlank`. -/
def firstNonBlank (values : List String) : Option String := values.findSome? noteOrNull

/-- `DateTimeOffset.MinValue`. -/
def minTime : Timestamp := { seconds := -62135596800 }

/-- `Timestamp.IsNormalized`: a time that has a `DateTimeOffset`. -/
def isNormalized (ts : Timestamp) : Bool :=
  decide (-62135596800 ≤ ts.seconds ∧ ts.seconds ≤ 253402300799 ∧ 0 ≤ ts.nanos
    ∧ ts.nanos ≤ 999999999)

/-- `FormatTimestamp`. -/
def formatTimestamp (texts : CardTexts) (ts : Option Timestamp) : String :=
  (ts.map fun ts => texts.minute ts.seconds).getD ""

/-- `FormatDate`. -/
def formatDate (texts : CardTexts) (ts : Option Timestamp) : String :=
  (ts.map fun ts => texts.date ts.seconds).getD ""

/-- `FormatQslStatus`. -/
def formatQslStatus (status : ℤ) : String :=
  match QslStatus.tryFrom status with
  | some .no => "No"
  | some .yes => "Yes"
  | some .requested => "Requested"
  | some .queued => "Queued"
  | some .ignore => "Ignore"
  | _ => "-"

/-- `ParseQslStatus`. -/
def parseQslStatus (value : String) : QslStatus :=
  let token := normalizeToken value true
  if token = "NO" then .no
  else if token = "YES" then .yes
  else if token = "REQUESTED" then .requested
  else if token = "QUEUED" then .queued
  else if token = "IGNORE" then .ignore
  else .unspecified

/-- A number, if there is one. -/
def formatNumber (n : Option ℕ) : String := (n.map toString).getD ""

/-- `uint.TryParse(…, NumberStyles.None, …)`. -/
def parseUInt (s : String) : Option ℕ := (parseDigits s).filter (· < 2 ^ 32)

/-- `FormatExtraFields`. -/
def formatExtraFields (texts : CardTexts) (fields : Std.ExtTreeMap String String) : String :=
  texts.newLine.intercalate
    ((fields.toList.mergeSort fun a b => NetText.ordinalLe a.1 b.1).map fun entry =>
      entry.1 ++ "=" ++ entry.2)

/-- One line of `TryApplyExtraFields`. -/
def tryApplyExtraField (fields : Std.ExtTreeMap String String) (rawLine : String) :
    Except String (Std.ExtTreeMap String String) :=
  let line := Text.trim rawLine
  if line.isEmpty then .ok fields
  else
    match Text.splitOnce '=' line with
    | none => .error ("Invalid extra field entry: " ++ line ++ ". Use KEY=value.")
    | some (name, value) =>
        if name.isEmpty then
          .error ("Invalid extra field entry: " ++ line ++ ". Use KEY=value.")
        else
          let key := normalizeToken name true
          if key.isEmpty then .error ("Invalid extra field key: " ++ line ++ ".")
          else .ok (fields.insert key (Text.trim value))

/-- `TryApplyExtraFields`. -/
def tryApplyExtraFields (text : String) : Except String (Std.ExtTreeMap String String) :=
  if NetText.isWhiteSpace text then .ok ∅
  else
    (((text.toList.filter (· ≠ '\r')).splitOn '\n').map String.ofList).foldlM tryApplyExtraField ∅

/-! ### Parsers of single fields -/

/-- `TryParseTimestamp`; a blank text that is not required stands for `MinValue`. -/
def tryParseTimestamp (texts : CardTexts) (value : String) (required : Bool) : Option Timestamp :=
  match noteOrNull value with
  | none => if required then none else some minTime
  | some normalized => texts.time normalized

/-- `TryApplyOptionalTimestamp`. -/
def optionalTimestamp (texts : CardTexts) (value fieldName : String) :
    Except String (Option Timestamp) :=
  match tryParseTimestamp texts value false with
  | none => .error ("Invalid " ++ fieldName ++ ": " ++ value ++ ".")
  | some parsed => .ok (if parsed = minTime then none else some parsed)

/-- `TryApplyFrequency`. -/
def optionalFrequency (texts : CardTexts) (value : String) : Except String (Option ℕ) :=
  match noteOrNull value with
  | none => .ok none
  | some normalized =>
      match tryParseMhzToHz texts.toNumberTexts normalized with
      | some hz => .ok (some hz)
      | none => .error ("Invalid frequency: " ++ value ++ ". Use MHz such as 14.074.")

/-- `TryApplyOptionalRst`. -/
def optionalRst (value fieldName : String) : Except String (Option RstReport) :=
  match noteOrNull value with
  | none => .ok none
  | some normalized =>
      match tryParseRst normalized with
      | some report => .ok (some report)
      | none =>
          .error ("Invalid " ++ fieldName ++ ": " ++ value ++
            ". Use 59, 599, or a signed digital report such as -10.")

/-- `TryApplyOptionalUInt`. -/
def optionalUInt (value fieldName : String) : Except String (Option ℕ) :=
  match noteOrNull value with
  | none => .ok none
  | some normalized =>
      match parseUInt normalized with
      | some parsed => .ok (some parsed)
      | none => .error ("Invalid " ++ fieldName ++ ": " ++ value ++ ".")

/-- `TryApplyOptionalDouble`. -/
def optionalDouble (texts : CardTexts) (value fieldName : String) :
    Except String (Option Float64) :=
  match noteOrNull value with
  | none => .ok none
  | some normalized =>
      match texts.double normalized with
      | some parsed => .ok (some parsed)
      | none => .error ("Invalid " ++ fieldName ++ ": " ++ value ++ ".")

/-- `ApplyOptionalString`. -/
def optionalString (value : String) (uppercase : Bool := false) : Option String :=
  let normalized := normalizeToken value uppercase
  if normalized.isEmpty then none else some normalized

/-! ### The card -/

/-- The fields of the card that hold a text. -/
inductive CardField where
  | workedCallsign | stationCallsign | utcStart | utcEnd | band | mode | submode | frequencyMhz
  | rstSent | rstReceived | txPower | workedOperatorCallsign | workedOperatorName | workedGrid
  | workedCountry | workedDxcc | workedState | workedCqZone | workedItuZone | workedCounty
  | workedIota | workedContinent | workedArrlSection | skcc | qslSentStatus | qslReceivedStatus
  | qslSentDate | qslReceivedDate | qrzLogId | qrzBookId | contestId | serialSent
  | serialReceived | exchangeSent | exchangeReceived | propMode | satName | satMode | notes
  | comment | cwDecodeRxWpm | cwDecodeTranscript | snapshotProfileName
  | snapshotStationCallsign | snapshotOperatorCallsign | snapshotOperatorName | snapshotGrid
  | snapshotCounty | snapshotState | snapshotCountry | snapshotDxcc | snapshotCqZone
  | snapshotItuZone | snapshotLatitude | snapshotLongitude | snapshotArrlSection | extraFields
  deriving DecidableEq

/-- `FullQsoCardViewModel`. -/
structure Card where
  text : CardField → String
  lotwSent : Option Bool := none
  lotwReceived : Option Bool := none
  eqslSent : Option Bool := none
  eqslReceived : Option Bool := none
  /-- The record that is edited; `none` on a card for a new contact. -/
  sourceQso : Option QsoRecord := none
  lastAutoWorkedOperatorCallsign : String := ""
  lastLookupRecord : Option CallsignRecord := none
  /-- The debounced lookups, the latest first; `_lookupCts` is that of the first. -/
  lookups : List LookupTask := []
  /-- The callsign of the lookup by hand, while `IsLookingUp`. -/
  lookingUp : Option String := none
  isSaving : Bool := false

/-- The card before it is filled. -/
def Card.initial (sourceQso : Option QsoRecord) : Card where
  text
    | .band => bandLabels.getD 1 ""
    | .mode => modeLabels.getD 1 ""
    | .qslSentStatus => "-"
    | .qslReceivedStatus => "-"
    | _ => ""
  sourceQso

/-! ### What lookups fill in -/

/-- The fields that a lookup fills in, apart from the callsign of the operator. -/
inductive LookupField where
  | name | grid | country | dxcc | state | cqZone | ituZone | county | iota | continent
  deriving DecidableEq

/-- Its field on the card. -/
def LookupField.field : LookupField → CardField
  | name => .workedOperatorName
  | grid => .workedGrid
  | country => .workedCountry
  | dxcc => .workedDxcc
  | state => .workedState
  | cqZone => .workedCqZone
  | ituZone => .workedItuZone
  | county => .workedCounty
  | iota => .workedIota
  | continent => .workedContinent

/-- The lookup field that a field is. -/
def CardField.lookupField : CardField → Option LookupField
  | .workedOperatorName => some .name
  | .workedGrid => some .grid
  | .workedCountry => some .country
  | .workedDxcc => some .dxcc
  | .workedState => some .state
  | .workedCqZone => some .cqZone
  | .workedItuZone => some .ituZone
  | .workedCounty => some .county
  | .workedIota => some .iota
  | .workedContinent => some .continent
  | _ => none

/-- `BuildName`. -/
def CallsignRecord.buildName (record : CallsignRecord) : String :=
  (firstNonBlank
    [record.formattedName,
      " ".intercalate
        ([record.firstName, record.lastName].filter fun part => !NetText.isWhiteSpace part)]).getD ""

/-- What a record has for a field. -/
def CallsignRecord.value (record : CallsignRecord) : LookupField → Option String
  | .name => some record.buildName
  | .grid => some record.gridSquare
  | .country => firstNonBlank [record.dxccCountryName, record.country]
  | .dxcc => if record.dxccEntityId = 0 then none else some (toString record.dxccEntityId)
  | .state => some record.state
  | .cqZone => record.cqZone.map toString
  | .ituZone => record.ituZone.map toString
  | .county => some record.county
  | .iota => some record.iota
  | .continent => some record.dxccContinent

/-- Is this a record of the callsign? -/
def CallsignRecord.isOf (record : CallsignRecord) (callsign : String) : Bool :=
  equalsIgnoreCase
    (firstNonBlank [record.callsign, record.crossRef, record.baseCallsign]) (some callsign)

/-- A number, which is left as it is where there is one already. -/
def LookupField.isNumber : LookupField → Bool
  | dxcc => true
  | cqZone => true
  | ituZone => true
  | _ => false

/-- What `ApplyLookup` makes of a field. -/
def CallsignRecord.fill (record : CallsignRecord) (f : LookupField) (current : String) : String :=
  if f.isNumber then
    if NetText.isWhiteSpace current then (record.value f).getD current else current
  else (firstNonBlank (current :: (record.value f).toList)).getD ""

namespace Card

/-- A property setter without a handler. -/
def set (s : Card) (f : CardField) (value : String) : Card :=
  { s with text := Function.update s.text f value }

/-- The setter of `WorkedOperatorCallsign`. -/
def setWorkedOperatorCallsign (s : Card) (value : String) : Card :=
  if s.text .workedOperatorCallsign = value then s
  else
    { s.set .workedOperatorCallsign value with
      lastAutoWorkedOperatorCallsign :=
        if NetText.isWhiteSpace value then "" else s.lastAutoWorkedOperatorCallsign }

/-- `ApplyLookup`. -/
def applyLookup (s : Card) (record : CallsignRecord) : Card :=
  let operator :=
    (firstNonBlank
      [s.text .workedOperatorCallsign, record.callsign, record.crossRef,
        s.text .workedCallsign]).getD ""
  { s with
    text := fun f =>
      if f = .workedOperatorCallsign then operator
      else
        match f.lookupField with
        | some l => record.fill l (s.text f)
        | none => s.text f
    lastAutoWorkedOperatorCallsign := operator
    lastLookupRecord := some record }

/-- `ClearAutoField`. -/
def clearAutoField (current : String) (appliedValue : Option String) : String :=
  match appliedValue with
  | some applied => if !NetText.isWhiteSpace applied && current == applied then "" else current
  | none => current

/-- `ClearAppliedLookupFields`. -/
def clearAppliedLookupFields (s : Card) : Card :=
  match s.lastLookupRecord with
  | none => s
  | some record =>
      { s with
        text := fun f =>
          match f.lookupField with
          | some l => clearAutoField (s.text f) (record.value l)
          | none => s.text f
        lastLookupRecord := none }

/-- `PrepareForLookup`. -/
def prepareForLookup (s : Card) (lookupCallsign : String) : Card :=
  match s.lastLookupRecord with
  | none => s
  | some record =>
      if record.isOf lookupCallsign then s else s.clearAppliedLookupFields

/-- `DisposeLookupCts`. -/
def disposeLookupCts (s : Card) : Card :=
  { s with
    lookups :=
      match s.lookups with
      | [] => []
      | lookup :: older => { lookup with cancelled := true } :: older }

/-- `RestartLookupForWorkedCallsign`. -/
def restartLookup (s : Card) (workedCallsign : String) : Card :=
  let s := s.disposeLookupCts
  if (NetText.utf16 workedCallsign).length < 3 then s.clearAppliedLookupFields
  else { s with lookups := { callsign := workedCallsign } :: s.lookups }

/-- `OnWorkedCallsignChanged`, of a normalized callsign. -/
def onWorkedCallsignChanged (s : Card) : Card :=
  let normalized := s.text .workedCallsign
  let s :=
    if NetText.isWhiteSpace (s.text .workedOperatorCallsign)
        || s.text .workedOperatorCallsign == s.lastAutoWorkedOperatorCallsign then
      { s.set .workedOperatorCallsign normalized with
        lastAutoWorkedOperatorCallsign := normalized }
    else s
  s.restartLookup normalized

/-- The setter of `WorkedCallsign`.  A text that is not normalized is set once more,
normalized. -/
def setWorkedCallsign (s : Card) (value : String) : Card :=
  if s.text .workedCallsign = value then s
  else onWorkedCallsignChanged (s.set .workedCallsign (normalizeToken value true))

/-- The operator changes a text. -/
def edit (s : Card) (f : CardField) (value : String) : Card :=
  match f with
  | .workedCallsign => s.setWorkedCallsign value
  | .workedOperatorCallsign => s.setWorkedOperatorCallsign value
  | _ => s.set f value

end Card

/-! ### Filling the card -/

/-- What `SeedFromQso` puts into the fields of the station. -/
def snapshotText (texts : CardTexts) (snapshot : StationSnapshot) : CardField → String
  | .snapshotProfileName => snapshot.profileName.getD ""
  | .snapshotStationCallsign => snapshot.stationCallsign
  | .snapshotOperatorCallsign => snapshot.operatorCallsign.getD ""
  | .snapshotOperatorName => snapshot.operatorName.getD ""
  | .snapshotGrid => snapshot.grid.getD ""
  | .snapshotCounty => snapshot.county.getD ""
  | .snapshotState => snapshot.state.getD ""
  | .snapshotCountry => snapshot.country.getD ""
  | .snapshotDxcc => formatNumber snapshot.dxcc
  | .snapshotCqZone => formatNumber snapshot.cqZone
  | .snapshotItuZone => formatNumber snapshot.ituZone
  | .snapshotLatitude => (snapshot.latitude.map texts.coordinate).getD ""
  | .snapshotLongitude => (snapshot.longitude.map texts.coordinate).getD ""
  | .snapshotArrlSection => snapshot.arrlSection.getD ""
  | _ => ""

/-- The frequency that `SeedFromQso` shows; the product is one of `ulong`. -/
def formatFrequency (qso : QsoRecord) : String :=
  match qso.frequencyHz, qso.frequencyKhz with
  | some hz, _ => formatMhz hz
  | none, some khz => formatMhz (khz * 1000 % 2 ^ 64)
  | none, none => ""

/-- What `SeedFromQso` puts into each field. -/
def seededText (texts : CardTexts) (qso : QsoRecord) : CardField → String
  | .workedCallsign => normalizeToken qso.workedCallsign true
  | .stationCallsign => qso.stationCallsign
  | .utcStart => formatTimestamp texts qso.utcTimestamp
  | .utcEnd => formatTimestamp texts qso.utcEndTimestamp
  | .band => forBand qso.band
  | .mode => forMode qso.mode
  | .submode => qso.submode.getD ""
  | .frequencyMhz => formatFrequency qso
  | .rstSent => formatRst qso.rstSent
  | .rstReceived => formatRst qso.rstReceived
  | .txPower => qso.txPower.getD ""
  | .workedOperatorCallsign =>
      (firstNonBlank [qso.workedOperatorCallsign.getD "", qso.workedCallsign]).getD ""
  | .workedOperatorName => qso.workedOperatorName.getD ""
  | .workedGrid => qso.workedGrid.getD ""
  | .workedCountry => qso.workedCountry.getD ""
  | .workedDxcc => formatNumber qso.workedDxcc
  | .workedState => qso.workedState.getD ""
  | .workedCqZone => formatNumber qso.workedCqZone
  | .workedItuZone => formatNumber qso.workedItuZone
  | .workedCounty => qso.workedCounty.getD ""
  | .workedIota => qso.workedIota.getD ""
  | .workedContinent => qso.workedContinent.getD ""
  | .workedArrlSection => qso.workedArrlSection.getD ""
  | .skcc => qso.skcc.getD ""
  | .qslSentStatus => formatQslStatus qso.qslSentStatus
  | .qslReceivedStatus => formatQslStatus qso.qslReceivedStatus
  | .qslSentDate => formatDate texts qso.qslSentDate
  | .qslReceivedDate => formatDate texts qso.qslReceivedDate
  | .qrzLogId => qso.qrzLogid.getD ""
  | .qrzBookId => qso.qrzBookid.getD ""
  | .contestId => qso.contestId.getD ""
  | .serialSent => qso.serialSent.getD ""
  | .serialReceived => qso.serialReceived.getD ""
  | .exchangeSent => qso.exchangeSent.getD ""
  | .exchangeReceived => qso.exchangeReceived.getD ""
  | .propMode => qso.propMode.getD ""
  | .satName => qso.satName.getD ""
  | .satMode => qso.satMode.getD ""
  | .notes => qso.notes.getD ""
  | .comment => qso.comment.getD ""
  | .cwDecodeRxWpm => formatNumber qso.cwDecodeRxWpm
  | .cwDecodeTranscript => qso.cwDecodeTranscript.getD ""
  | .extraFields => formatExtraFields texts qso.extraFields
  | f => (qso.stationSnapshot.map fun snapshot => snapshotText texts snapshot f).getD ""

/-- The times of a record that `SeedFromQso` shows. -/
def shownTimes (qso : QsoRecord) : List (Option Timestamp) :=
  [qso.utcTimestamp, qso.utcEndTimestamp, qso.qslSentDate, qso.qslReceivedDate, qso.createdAt,
    qso.updatedAt]

/-- `SeedFromQso`; the callsign is set first and starts its lookup. -/
def Card.seedFromQso (texts : CardTexts) (s : Card) (qso : QsoRecord) : Card :=
  { s.setWorkedCallsign qso.workedCallsign with
    text := seededText texts qso
    lotwSent := qso.lotwSent
    lotwReceived := qso.lotwReceived
    eqslSent := qso.eqslSent
    eqslReceived := qso.eqslReceived
    lastAutoWorkedOperatorCallsign := seededText texts qso .workedOperatorCallsign }

/-- `ForEdit`.  A time without a `DateTimeOffset` throws. -/
def Card.forEdit (texts : CardTexts) (qso : QsoRecord) : Option Card :=
  if (shownTimes qso).all fun ts => ts.all isNormalized then
    some ((Card.initial (some qso)).seedFromQso texts qso)
  else none

/-- What `SeedFromLogger` puts into each field. -/
def loggerText (texts : CardTexts) (logger : LoggerState) (utcNow : Timestamp) (s : Card) :
    CardField → String
  | .workedOperatorCallsign => s.text .workedCallsign
  | .band => forBand (bands.get logger.selectedBandIndex).protoBand.toI32
  | .mode => forMode (modes.get logger.selectedModeIndex).protoMode.toI32
  | .submode => (modes.get logger.selectedModeIndex).submode.getD ""
  | .frequencyMhz => logger.frequencyMhz
  | .rstSent => logger.rstSent
  | .rstReceived => logger.rstRcvd
  | .contestId => logger.contestId
  | .exchangeSent => logger.exchangeSent
  | .comment => logger.comment
  | .notes => logger.notes
  | .utcStart => texts.minute (logger.timer.getD utcNow).seconds
  | .utcEnd => texts.minute utcNow.seconds
  | f => s.text f

/-- `SeedFromLogger`. -/
def Card.seedFromLogger (texts : CardTexts) (logger : LoggerState) (utcNow : Timestamp)
    (s : Card) : Card :=
  let s := s.setWorkedCallsign (NetText.toUpperInvariant (Text.trim logger.callsign))
  let s :=
    { s with
      text := loggerText texts logger utcNow s
      lastAutoWorkedOperatorCallsign := s.text .workedCallsign }
  match logger.lastLookupRecord with
  | some record => s.applyLookup record
  | none => s

/-- What `SeedFromStationProfile` puts into each field. -/
def profileText (texts : CardTexts) (profile : StationProfile) (s : Card) (f : CardField) :
    String :=
  let text (value : String) := (firstNonBlank [s.text f, value]).getD ""
  let number (value : Option String) :=
    if NetText.isWhiteSpace (s.text f) then value.getD (s.text f) else s.text f
  match f with
  | .stationCallsign => text profile.stationCallsign
  | .snapshotProfileName => text (profile.profileName.getD "")
  | .snapshotStationCallsign => text profile.stationCallsign
  | .snapshotOperatorCallsign => text (profile.operatorCallsign.getD "")
  | .snapshotOperatorName => text (profile.operatorName.getD "")
  | .snapshotGrid => text (profile.grid.getD "")
  | .snapshotCounty => text (profile.county.getD "")
  | .snapshotState => text (profile.state.getD "")
  | .snapshotCountry => text (profile.country.getD "")
  | .snapshotArrlSection => text (profile.arrlSection.getD "")
  | .snapshotDxcc => number (profile.dxcc.map toString)
  | .snapshotCqZone => number (profile.cqZone.map toString)
  | .snapshotItuZone => number (profile.ituZone.map toString)
  | .snapshotLatitude => number (profile.latitude.map texts.coordinate)
  | .snapshotLongitude => number (profile.longitude.map texts.coordinate)
  | _ => s.text f

/-- `SeedFromStationProfile`. -/
def Card.seedFromStationProfile (texts : CardTexts) (profile : Option StationProfile) (s : Card) :
    Card :=
  match profile with
  | none => s
  | some profile => { s with text := profileText texts profile s }

/-- `ForNew`. -/
def Card.forNew (texts : CardTexts) (logger : LoggerState) (profile : Option StationProfile)
    (utcNow : Timestamp) : Card :=
  ((Card.initial none).seedFromLogger texts logger utcNow).seedFromStationProfile texts profile

/-! ### Reading the card -/

/-- The texts of the station. -/
def snapshotFields : List CardField :=
  [.snapshotProfileName, .snapshotStationCallsign, .snapshotOperatorCallsign,
    .snapshotOperatorName, .snapshotGrid, .snapshotCounty, .snapshotState, .snapshotCountry,
    .snapshotDxcc, .snapshotCqZone, .snapshotItuZone, .snapshotLatitude, .snapshotLongitude,
    .snapshotArrlSection]

/-- `TryApplyStationSnapshot`. -/
def tryApplyStationSnapshot (texts : CardTexts) (text : CardField → String)
    (snapshot : Option StationSnapshot) : Except String (Option StationSnapshot) := do
  if snapshotFields.all fun f => NetText.isWhiteSpace (text f) then return none
  let dxcc ← optionalUInt (text .snapshotDxcc) "snapshot DXCC"
  let cqZone ← optionalUInt (text .snapshotCqZone) "snapshot CQ zone"
  let ituZone ← optionalUInt (text .snapshotItuZone) "snapshot ITU zone"
  let latitude ← optionalDouble texts (text .snapshotLatitude) "snapshot latitude"
  let longitude ← optionalDouble texts (text .snapshotLongitude) "snapshot longitude"
  return some { snapshot.getD {} with
    stationCallsign := normalizeToken (text .snapshotStationCallsign) true
    profileName := optionalString (text .snapshotProfileName)
    operatorCallsign := optionalString (text .snapshotOperatorCallsign) true
    operatorName := optionalString (text .snapshotOperatorName)
    grid := optionalString (text .snapshotGrid) true
    county := optionalString (text .snapshotCounty)
    state := optionalString (text .snapshotState)
    country := optionalString (text .snapshotCountry)
    arrlSection := optionalString (text .snapshotArrlSection) true
    dxcc
    cqZone
    ituZone
    latitude
    longitude }

/-- `TryBuildQso`. -/
def Card.tryBuildQso (texts : CardTexts) (s : Card) : Except String QsoRecord := do
  let text := s.text
  let working := s.sourceQso.getD {}
  let some utcStart := tryParseTimestamp texts (text .utcStart) true
    | throw "Invalid UTC start. Use yyyy-MM-dd HH:mm or an ISO-8601 timestamp."
  let workedCallsign := normalizeToken (text .workedCallsign) true
  if workedCallsign.isEmpty then throw "Callsign is required."
  let some band := tryParseEnum bandLabels (text .band)
    | throw ("Invalid band: " ++ text .band ++ ".")
  let some mode := tryParseEnum modeLabels (text .mode)
    | throw ("Invalid mode: " ++ text .mode ++ ".")
  let utcEnd ← optionalTimestamp texts (text .utcEnd) "UTC end"
  let hz ← optionalFrequency texts (text .frequencyMhz)
  let rstSent ← optionalRst (text .rstSent) "RST sent"
  let rstReceived ← optionalRst (text .rstReceived) "RST received"
  let qslSentDate ← optionalTimestamp texts (text .qslSentDate) "QSL sent date"
  let qslReceivedDate ← optionalTimestamp texts (text .qslReceivedDate) "QSL received date"
  let workedDxcc ← optionalUInt (text .workedDxcc) "DXCC"
  let workedCqZone ← optionalUInt (text .workedCqZone) "CQ zone"
  let workedItuZone ← optionalUInt (text .workedItuZone) "ITU zone"
  let stationSnapshot ← tryApplyStationSnapshot texts text working.stationSnapshot
  let extraFields ← tryApplyExtraFields (text .extraFields)
  return { working with
    workedCallsign
    stationCallsign := normalizeToken (text .stationCallsign) true
    utcTimestamp := some utcStart
    band
    mode
    utcEndTimestamp := utcEnd
    frequencyHz := hz
    frequencyKhz := hz.map toKhz
    rstSent
    rstReceived
    qslSentDate
    qslReceivedDate
    workedDxcc
    workedCqZone
    workedItuZone
    submode := optionalString (text .submode) true
    txPower := optionalString (text .txPower)
    workedOperatorCallsign := optionalString (text .workedOperatorCallsign) true
    workedOperatorName := optionalString (text .workedOperatorName)
    workedGrid := optionalString (text .workedGrid) true
    workedCountry := optionalString (text .workedCountry)
    workedState := optionalString (text .workedState)
    workedCounty := optionalString (text .workedCounty)
    workedIota := optionalString (text .workedIota) true
    workedContinent := optionalString (text .workedContinent) true
    workedArrlSection := optionalString (text .workedArrlSection) true
    skcc := optionalString (text .skcc) true
    qrzLogid := optionalString (text .qrzLogId)
    qrzBookid := optionalString (text .qrzBookId)
    contestId := optionalString (text .contestId)
    serialSent := optionalString (text .serialSent)
    serialReceived := optionalString (text .serialReceived)
    exchangeSent := optionalString (text .exchangeSent)
    exchangeReceived := optionalString (text .exchangeReceived)
    propMode := optionalString (text .propMode) true
    satName := optionalString (text .satName) true
    satMode := optionalString (text .satMode) true
    notes := optionalString (text .notes)
    comment := optionalString (text .comment)
    cwDecodeTranscript := optionalString (text .cwDecodeTranscript)
    cwDecodeRxWpm := (parseUInt (text .cwDecodeRxWpm)).filter (0 < ·)
    qslSentStatus := (parseQslStatus (text .qslSentStatus)).toI32
    qslReceivedStatus := (parseQslStatus (text .qslReceivedStatus)).toI32
    lotwSent := s.lotwSent
    lotwReceived := s.lotwReceived
    eqslSent := s.eqslSent
    eqslReceived := s.eqslReceived
    stationSnapshot
    extraFields }

/-- The request of `SaveAsync`: an edited contact is updated, a new one is logged with what
the decoder has heard. -/
def Card.request (texts : CardTexts) (utcNow : Timestamp) (decoder : CwDecoder) (s : Card) :
    Except String QsoRecord := do
  let qso ← s.tryBuildQso texts
  if s.sourceQso.isSome then return qso
  else
    return enrichFromCwDecoder qso decoder (qso.utcTimestamp.getD utcNow)
      (qso.utcEndTimestamp.getD utcNow)

end QsoRipper.Gui
