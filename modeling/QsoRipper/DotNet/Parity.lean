/-
QsoRipper/DotNet/Parity.lean

`ManagedQsoParity`: what the managed engine does to a record before it stores
it, and when it takes two records for the same contact.

A getter of an optional field shows its default when the field is absent, and a
setter makes it present, so a normalised text is present even when it is empty.
-/
import QsoRipper.Domain.Station
import QsoRipper.DotNet.Storage

namespace QsoRipper.DotNet

/-! ### Texts and numbers -/

/-- `TrimmedNonEmpty`. -/
def trimmedNonEmpty (value : Option String) : Option String :=
  if NetText.isNullOrWhiteSpace value then none else value.map Text.trim

/-- `NormalizeOptionalString`, assigned. -/
def normalizeOptionalString (value : Option String) : Option String :=
  some ((trimmedNonEmpty value).getD "")

/-- `MergeOptionalString`. -/
def mergeOptionalString (source target : Option String) : Option String :=
  (trimmedNonEmpty source).or target

/-- `MergeOptionalUInt32`, `MergeOptionalUInt64`. -/
def mergeOptionalUInt (source target : Option ℕ) : Option ℕ :=
  (source.filter fun n => decide (0 < n)).or target

/-- Is a number shown as greater than zero? -/
def isPositive (value : Option ℕ) : Bool := decide (0 < value.getD 0)

/-- Is a double shown as other than zero? -/
def isNonZero (value : Option Float64) : Bool := value.any fun x => !x.isZero

/-! ### Station snapshots -/

/-- `NormalizeStationSnapshot`. -/
def normalizeStationSnapshot (snapshot : StationSnapshot) : StationSnapshot :=
  { snapshot with
    profileName := normalizeOptionalString snapshot.profileName
    stationCallsign := Text.trim snapshot.stationCallsign
    operatorCallsign := normalizeOptionalString snapshot.operatorCallsign
    operatorName := normalizeOptionalString snapshot.operatorName
    grid := normalizeOptionalString snapshot.grid
    county := normalizeOptionalString snapshot.county
    state := normalizeOptionalString snapshot.state
    country := normalizeOptionalString snapshot.country
    arrlSection := normalizeOptionalString snapshot.arrlSection
    gridsquareExt := normalizeOptionalString snapshot.gridsquareExt }

/-- `StationSnapshotHasValues`. -/
def stationSnapshotHasValues (snapshot : StationSnapshot) : Bool :=
  (trimmedNonEmpty (some snapshot.stationCallsign)).isSome
    || (trimmedNonEmpty snapshot.profileName).isSome
    || (trimmedNonEmpty snapshot.operatorCallsign).isSome
    || (trimmedNonEmpty snapshot.operatorName).isSome
    || (trimmedNonEmpty snapshot.grid).isSome
    || (trimmedNonEmpty snapshot.county).isSome
    || (trimmedNonEmpty snapshot.state).isSome
    || (trimmedNonEmpty snapshot.country).isSome
    || isPositive snapshot.dxcc
    || isPositive snapshot.cqZone
    || isPositive snapshot.ituZone
    || isNonZero snapshot.latitude
    || isNonZero snapshot.longitude
    || isNonZero snapshot.altitudeMeters
    || (trimmedNonEmpty snapshot.gridsquareExt).isSome
    || (trimmedNonEmpty snapshot.arrlSection).isSome

/-- The snapshot, if it has values. -/
def snapshotWithValues (snapshot : StationSnapshot) : Option StationSnapshot :=
  if stationSnapshotHasValues snapshot then some snapshot else none

/-- `StationSnapshotFromProfile`. -/
def stationSnapshotFromProfile (profile : StationProfile) : Option StationSnapshot :=
  snapshotWithValues <| normalizeStationSnapshot
    { profileName := normalizeOptionalString profile.profileName
      stationCallsign := Text.trim profile.stationCallsign
      operatorCallsign := normalizeOptionalString profile.operatorCallsign
      operatorName := normalizeOptionalString profile.operatorName
      grid := normalizeOptionalString profile.grid
      county := normalizeOptionalString profile.county
      state := normalizeOptionalString profile.state
      country := normalizeOptionalString profile.country
      dxcc := if isPositive profile.dxcc then profile.dxcc else none
      cqZone := if isPositive profile.cqZone then profile.cqZone else none
      ituZone := if isPositive profile.ituZone then profile.ituZone else none
      latitude := if isNonZero profile.latitude then profile.latitude else none
      longitude := if isNonZero profile.longitude then profile.longitude else none
      arrlSection := normalizeOptionalString profile.arrlSection }

/-- `MergeStationSnapshot`, without clearing blank texts. -/
def mergeStationSnapshot (target overlay : StationSnapshot) : StationSnapshot :=
  { target with
    profileName := mergeOptionalString overlay.profileName target.profileName
    stationCallsign := (trimmedNonEmpty (some overlay.stationCallsign)).getD target.stationCallsign
    operatorCallsign := mergeOptionalString overlay.operatorCallsign target.operatorCallsign
    operatorName := mergeOptionalString overlay.operatorName target.operatorName
    grid := mergeOptionalString overlay.grid target.grid
    county := mergeOptionalString overlay.county target.county
    state := mergeOptionalString overlay.state target.state
    country := mergeOptionalString overlay.country target.country
    arrlSection := mergeOptionalString overlay.arrlSection target.arrlSection
    dxcc := mergeOptionalUInt overlay.dxcc target.dxcc
    cqZone := mergeOptionalUInt overlay.cqZone target.cqZone
    ituZone := mergeOptionalUInt overlay.ituZone target.ituZone
    latitude := if isNonZero overlay.latitude then overlay.latitude else target.latitude
    longitude := if isNonZero overlay.longitude then overlay.longitude else target.longitude
    altitudeMeters := (overlay.altitudeMeters.filter Float64.isFinite).or target.altitudeMeters
    gridsquareExt := mergeOptionalString overlay.gridsquareExt target.gridsquareExt }

/-- `MaterializeStationSnapshotForCreate`. -/
def materializeStationSnapshotForCreate (qso : QsoRecord) (activeProfile : Option StationProfile) :
    QsoRecord :=
  let base := (activeProfile.bind stationSnapshotFromProfile).getD {}
  let snapshot := qso.stationSnapshot.elim base (mergeStationSnapshot base)
  let effectiveCallsign :=
    ((trimmedNonEmpty (some qso.stationCallsign)).or
      ((trimmedNonEmpty (qso.stationSnapshot.map (·.stationCallsign))).or
        (trimmedNonEmpty (some snapshot.stationCallsign)))).getD ""
  let snapshot :=
    if effectiveCallsign.isEmpty then snapshot
    else { snapshot with stationCallsign := effectiveCallsign }
  { qso with
    stationCallsign := effectiveCallsign
    stationSnapshot := snapshotWithValues (normalizeStationSnapshot snapshot) }

/-- `QsoHasStationContext`. -/
def qsoHasStationContext (qso : QsoRecord) : Bool :=
  !NetText.isWhiteSpace qso.stationCallsign || qso.stationSnapshot.any stationSnapshotHasValues

/-- `StationProfileLabel`. -/
def stationProfileLabel (profile : StationProfile) : String :=
  ((trimmedNonEmpty profile.profileName).or (trimmedNonEmpty (some profile.stationCallsign))).getD
    "active station profile"

/-! ### Validation -/

/-- `NormalizeQsoForPersistence`. -/
def normalizeQsoForPersistence (qso : QsoRecord) : QsoRecord :=
  { qso with
    stationCallsign := NetText.toUpperInvariant (Text.trim qso.stationCallsign)
    workedCallsign := NetText.toUpperInvariant (Text.trim qso.workedCallsign) }

/-- `ValidateQsoForPersistence`: the message of what it throws. -/
def validateQsoForPersistence (qso : QsoRecord) : Option String :=
  if NetText.isWhiteSpace qso.stationCallsign then some "station_callsign is required."
  else if NetText.isWhiteSpace qso.workedCallsign then some "worked_callsign is required."
  else if qso.utcTimestamp.isNone then some "utc_timestamp is required."
  else if (Band.tryFrom qso.band).isNone then some "band is invalid."
  else if qso.band = Band.unspecified.toI32 then some "band is required."
  else if (Mode.tryFrom qso.mode).isNone then some "mode is invalid."
  else if qso.mode = Mode.unspecified.toI32 then some "mode is required."
  else none

/-- `InvalidImportReason`. -/
def invalidImportReason (qso : QsoRecord) : Option String :=
  if NetText.isWhiteSpace qso.stationCallsign then some "station_callsign is required."
  else if NetText.isWhiteSpace qso.workedCallsign then some "worked_callsign is required."
  else if qso.utcTimestamp.isNone then
    match qso.extraFields["QSO_DATE"]? with
    | some rawDate =>
        let suffix := (qso.extraFields["TIME_ON"]?).elim "" fun rawTime => "/" ++ rawTime
        some ("invalid ADIF date/time '" ++ rawDate ++ suffix ++ "'.")
    | none => some "utc_timestamp is required."
  else if (Band.tryFrom qso.band).isNone then some "band is invalid."
  else if qso.band = Band.unspecified.toI32 then
    some ((qso.extraFields["BAND"]?).elim "band is required." fun rawBand =>
      "unrecognized ADIF band '" ++ rawBand ++ "'.")
  else if (Mode.tryFrom qso.mode).isNone then some "mode is invalid."
  else if qso.mode = Mode.unspecified.toI32 then
    some ((qso.extraFields["MODE"]?).elim "mode is required." fun rawMode =>
      "unrecognized ADIF mode '" ++ rawMode ++ "'.")
  else none

/-! ### Duplicates -/

/-- `AdifDuplicateFrequencyToleranceHz`. -/
def adifDuplicateFrequencyToleranceHz : ℕ := 100

/-- `TimestampMinuteBucket`; `/` rounds towards zero, and the negative seconds
are shifted for it. -/
def timestampMinuteBucket (timestamp : Timestamp) : ℤ :=
  if 0 ≤ timestamp.seconds then timestamp.seconds.tdiv 60 else (timestamp.seconds - 59).tdiv 60

/-- `TimestampIsMinutePrecision`. -/
def timestampIsMinutePrecision (timestamp : Timestamp) : Bool :=
  timestamp.seconds.tmod 60 == 0 && timestamp.nanos == 0

/-- `TimestampsMatch`. -/
def timestampsMatch (left right : Option Timestamp) : Bool :=
  left == right || match left, right with
    | some left, some right =>
        timestampMinuteBucket left == timestampMinuteBucket right
          && (timestampIsMinutePrecision left || timestampIsMinutePrecision right)
    | _, _ => false

/-- `StringsEqualIgnoreAsciiCase`; the case of every letter is ignored. -/
def stringsEqualIgnoreAsciiCase (left right : String) : Bool :=
  NetText.equalsIgnoreCase (Text.trim left) (Text.trim right)

/-- `OptionalStringsCompatible`. -/
def optionalStringsCompatible (left right : Option String) : Bool :=
  match trimmedNonEmpty left, trimmedNonEmpty right with
  | some left, some right => NetText.equalsIgnoreCase left right
  | _, _ => true

/-- `OptionalUInt64Compatible`. -/
def optionalUInt64Compatible (left right : Option ℕ) : Bool :=
  match left, right with
  | some left, some right => left == right
  | _, _ => true

/-- `FrequenciesCompatible`. -/
def frequenciesCompatible (existing candidate : QsoRecord) : Bool :=
  match existing.frequencyHz, candidate.frequencyHz with
  | some f, some g =>
      if g < f then decide (f - g ≤ adifDuplicateFrequencyToleranceHz)
      else decide (g - f ≤ adifDuplicateFrequencyToleranceHz)
  | _, _ => optionalUInt64Compatible existing.frequencyKhz candidate.frequencyKhz

/-- `QsosMatchForDuplicate`. -/
def qsosMatchForDuplicate (existing candidate : QsoRecord) : Bool :=
  timestampsMatch existing.utcTimestamp candidate.utcTimestamp
    && existing.band == candidate.band
    && existing.mode == candidate.mode
    && stringsEqualIgnoreAsciiCase existing.stationCallsign candidate.stationCallsign
    && stringsEqualIgnoreAsciiCase existing.workedCallsign candidate.workedCallsign
    && optionalStringsCompatible existing.submode candidate.submode
    && frequenciesCompatible existing candidate

/-! ### Refreshing -/

/-- `MergeQsoForRefresh`. -/
def mergeQsoForRefresh (existing imported : QsoRecord) (now : Ticks) : QsoRecord :=
  { existing with
    stationCallsign := imported.stationCallsign
    workedCallsign := imported.workedCallsign
    utcTimestamp := imported.utcTimestamp
    band := imported.band
    mode := imported.mode
    frequencyKhz := mergeOptionalUInt imported.frequencyKhz existing.frequencyKhz
    frequencyHz := mergeOptionalUInt imported.frequencyHz existing.frequencyHz
    submode := mergeOptionalString imported.submode existing.submode
    utcEndTimestamp := imported.utcEndTimestamp.or existing.utcEndTimestamp
    stationSnapshot := imported.stationSnapshot.or existing.stationSnapshot
    rstSent := imported.rstSent.or existing.rstSent
    rstReceived := imported.rstReceived.or existing.rstReceived
    txPower := mergeOptionalString imported.txPower existing.txPower
    workedOperatorCallsign :=
      mergeOptionalString imported.workedOperatorCallsign existing.workedOperatorCallsign
    workedOperatorName := mergeOptionalString imported.workedOperatorName existing.workedOperatorName
    workedGrid := mergeOptionalString imported.workedGrid existing.workedGrid
    workedCountry := mergeOptionalString imported.workedCountry existing.workedCountry
    workedDxcc := mergeOptionalUInt imported.workedDxcc existing.workedDxcc
    workedState := mergeOptionalString imported.workedState existing.workedState
    workedCqZone := mergeOptionalUInt imported.workedCqZone existing.workedCqZone
    workedItuZone := mergeOptionalUInt imported.workedItuZone existing.workedItuZone
    workedCounty := mergeOptionalString imported.workedCounty existing.workedCounty
    workedIota := mergeOptionalString imported.workedIota existing.workedIota
    workedContinent := mergeOptionalString imported.workedContinent existing.workedContinent
    workedArrlSection := mergeOptionalString imported.workedArrlSection existing.workedArrlSection
    contestId := mergeOptionalString imported.contestId existing.contestId
    serialSent := mergeOptionalString imported.serialSent existing.serialSent
    serialReceived := mergeOptionalString imported.serialReceived existing.serialReceived
    exchangeSent := mergeOptionalString imported.exchangeSent existing.exchangeSent
    exchangeReceived := mergeOptionalString imported.exchangeReceived existing.exchangeReceived
    propMode := mergeOptionalString imported.propMode existing.propMode
    satName := mergeOptionalString imported.satName existing.satName
    satMode := mergeOptionalString imported.satMode existing.satMode
    notes := mergeOptionalString imported.notes existing.notes
    comment := mergeOptionalString imported.comment existing.comment
    extraFields := existing.extraFields.insertMany imported.extraFields.toList
    updatedAt := some (fromDateTimeOffset now) }

end QsoRipper.DotNet
