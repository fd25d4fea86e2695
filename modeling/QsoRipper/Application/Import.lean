/-
QsoRipper/Application/Import.lean

`LogbookEngine::import_adif_qsos`: the import of records that were mapped from
an ADIF file.  Each record gets its station context, is stamped with the
fingerprint of its contact, and is then looked for among the stored rows: by
the fingerprint, else by a fuzzy match within a minute.

A record that is found is skipped, or merged into its row when the import
refreshes; one that is not found is logged.
-/
import QsoRipper.Application.Logbook

namespace QsoRipper

open Interaction

/-! ### Outcomes -/

/-- `AdifImportOutcomeKind`. -/
inductive AdifImportOutcomeKind where
  | imported
  | updated
  | skipped
  deriving DecidableEq

/-- `AdifImportOutcome`. -/
structure AdifImportOutcome where
  kind : AdifImportOutcomeKind
  affectedQso : Option QsoRecord := none
  warnings : List String

/-- A warning about a record of the import. -/
def recordWarning (recordNumber : ℕ) (text : String) : String :=
  "Record " ++ toString recordNumber ++ ": " ++ text

/-- `AdifImportOutcome::skipped`. -/
def AdifImportOutcome.skip (warning : String) : AdifImportOutcome :=
  { kind := .skipped, warnings := [warning] }

/-- `AdifImportSummary`. -/
structure AdifImportSummary where
  recordsImported : ℕ := 0
  recordsSkipped : ℕ := 0
  recordsUpdated : ℕ := 0
  warnings : List String := []
  affectedQsos : List QsoRecord := []

/-- `u32::saturating_add(1)`. -/
def saturatingSucc (count : ℕ) : ℕ := min (count + 1) u32Max

/-- The summary after one more record. -/
def AdifImportSummary.add (summary : AdifImportSummary) (outcome : AdifImportOutcome) :
    AdifImportSummary where
  recordsImported :=
    if outcome.kind = .imported then saturatingSucc summary.recordsImported
    else summary.recordsImported
  recordsSkipped :=
    if outcome.kind = .skipped then saturatingSucc summary.recordsSkipped
    else summary.recordsSkipped
  recordsUpdated :=
    if outcome.kind = .updated then saturatingSucc summary.recordsUpdated
    else summary.recordsUpdated
  warnings := summary.warnings ++ outcome.warnings
  affectedQsos := summary.affectedQsos ++ outcome.affectedQso.toList

/-- `AdifImportDiagnostic`. -/
structure AdifImportDiagnostic where
  extraFieldKey : String
  notePrefix : String

/-- `set_import_diagnostic`. -/
def setImportDiagnostic (qso : QsoRecord) (diagnostic : AdifImportDiagnostic)
    (effectiveNote : String) : QsoRecord :=
  let kept := "\n".intercalate
    ((Text.lines (qso.notes.getD "")).filter fun line =>
      !Text.startsWith line diagnostic.notePrefix)
  { qso with
    notes := some ((if kept.isEmpty then kept else kept ++ "\n") ++ effectiveNote)
    extraFields := qso.extraFields.insert diagnostic.extraFieldKey effectiveNote }

/-! ### The station context -/

/-- `qso_has_station_context`. -/
def qsoHasStationContext (qso : QsoRecord) : Bool :=
  !(Text.trim qso.stationCallsign).isEmpty || qso.stationSnapshot.any stationSnapshotHasValues

/-- `station_profile_label`. -/
def stationProfileLabel (profile : StationProfile) : String :=
  ((profile.profileName.bind trimmedNonEmpty).or (trimmedNonEmpty profile.stationCallsign)).getD
    "active station profile"

/-- The record with its station context, and a warning where the profile was
applied; or why it has none. -/
def withStationContext (qso : QsoRecord) (activeStationProfile : Option StationProfile) :
    Except String (QsoRecord × List String) :=
  if qsoHasStationContext qso then .ok (materializeStationSnapshotForCreate qso none, [])
  else
    match activeStationProfile with
    | some profile =>
        .ok (materializeStationSnapshotForCreate qso (some profile),
          ["local-station history was absent in ADIF; applied active station profile '" ++
            stationProfileLabel profile ++ "'."])
    | none =>
        .error
          "local-station history was absent in ADIF and no active station profile is configured; skipped."

/-! ### Fingerprints -/

/-- `ADIF_IMPORT_FINGERPRINT_FIELD`. -/
def adifImportFingerprintField : String := "APP_QSORIPPER_IMPORT_FINGERPRINT"

/-- `{:09}`; the sign counts. -/
def padNanos (nanos : ℤ) : String :=
  let digits := toString nanos.natAbs
  if nanos < 0 then "-" ++ "".pushn '0' (8 - digits.length) ++ digits
  else "".pushn '0' (9 - digits.length) ++ digits

/-- `adif_import_fingerprint`. -/
def adifImportFingerprint (qso : QsoRecord) : String :=
  "\x1f".intercalate
    ["v1",
      Text.toAsciiUppercase (Text.trim qso.stationCallsign),
      Text.toAsciiUppercase (Text.trim qso.workedCallsign),
      qso.utcTimestamp.elim "" fun stamp => toString stamp.seconds ++ "." ++ padNanos stamp.nanos,
      toString qso.band,
      toString qso.mode,
      Text.toAsciiUppercase ((qso.submode.map Text.trim).getD ""),
      qso.frequencyHz.elim "" toString,
      qso.frequencyKhz.elim "" toString]

/-- `stamp_adif_import_fingerprint`. -/
def stampAdifImportFingerprint (qso : QsoRecord) : QsoRecord :=
  { qso with
    extraFields := qso.extraFields.insert adifImportFingerprintField (adifImportFingerprint qso) }

/-- `invalid_import_reason`. -/
def invalidImportReason (qso : QsoRecord) : Option String :=
  if (Text.trim qso.stationCallsign).isEmpty then some "station_callsign is required."
  else if (Text.trim qso.workedCallsign).isEmpty then some "worked_callsign is required."
  else if qso.utcTimestamp.isNone then
    match qso.extraFields["QSO_DATE"]? with
    | some rawDate =>
        some ("invalid ADIF date/time '" ++ rawDate ++
          qso.extraFields["TIME_ON"]?.elim "" (fun time => "/" ++ time) ++ "'.")
    | none => some "utc_timestamp is required."
  else
    match Band.tryFrom qso.band with
    | some .unspecified =>
        match qso.extraFields["BAND"]? with
        | some rawBand => some ("unrecognized ADIF band '" ++ rawBand ++ "'.")
        | none => some "band is required."
    | some _ =>
        match Mode.tryFrom qso.mode with
        | some .unspecified =>
            match qso.extraFields["MODE"]? with
            | some rawMode => some ("unrecognized ADIF mode '" ++ rawMode ++ "'.")
            | none => some "mode is required."
        | some _ => none
        | none => some "mode is invalid."
    | none => some "band is invalid."

/-- The record that is looked for among the rows, or why it is not imported. -/
def importCandidate (qso : QsoRecord) (activeStationProfile : Option StationProfile) :
    Except String (QsoRecord × List String) :=
  match withStationContext qso activeStationProfile with
  | .error reason => .error reason
  | .ok (qso, warnings) =>
      let qso := stampAdifImportFingerprint (normalizeQsoForPersistence qso)
      match invalidImportReason qso with
      | some reason => .error (reason ++ " Skipped.")
      | none => .ok (qso, warnings)

/-! ### Duplicates -/

/-- `timestamp_minute_bucket`. -/
def timestampMinuteBucket (timestamp : Timestamp) : ℤ := timestamp.seconds.ediv 60

/-- `timestamp_is_minute_precision`. -/
def timestampIsMinutePrecision (timestamp : Timestamp) : Bool :=
  timestamp.seconds.emod 60 == 0 && timestamp.nanos == 0

/-- `timestamps_match`. -/
def timestampsMatch : Option Timestamp → Option Timestamp → Bool
  | some left, some right =>
      left == right
        || timestampMinuteBucket left == timestampMinuteBucket right
          && (timestampIsMinutePrecision left || timestampIsMinutePrecision right)
  | _, _ => false

/-- `strings_equal_ignore_ascii_case`. -/
def stringsEqualIgnoreAsciiCase (left right : String) : Bool :=
  Text.eqIgnoreAsciiCase (Text.trim left) (Text.trim right)

/-- `optional_strings_compatible`. -/
def optionalStringsCompatible (left right : Option String) : Bool :=
  match left.bind trimmedNonEmpty, right.bind trimmedNonEmpty with
  | some left, some right => Text.eqIgnoreAsciiCase left right
  | _, _ => true

/-- `optional_u64_compatible`. -/
def optionalU64Compatible : Option ℕ → Option ℕ → Bool
  | some left, some right => left == right
  | _, _ => true

/-- `ADIF_DUPLICATE_FREQUENCY_TOLERANCE_HZ`. -/
def adifDuplicateFrequencyToleranceHz : ℕ := 100

/-- `frequencies_compatible`. -/
def frequenciesCompatible (existing candidate : QsoRecord) : Bool :=
  match existing.frequencyHz, candidate.frequencyHz with
  | some a, some b => decide (max a b - min a b ≤ adifDuplicateFrequencyToleranceHz)
  | _, _ => optionalU64Compatible existing.frequencyKhz candidate.frequencyKhz

/-- `qsos_match_for_duplicate`. -/
def qsosMatchForDuplicate (existing candidate : QsoRecord) : Bool :=
  timestampsMatch existing.utcTimestamp candidate.utcTimestamp
    && existing.band == candidate.band
    && existing.mode == candidate.mode
    && stringsEqualIgnoreAsciiCase existing.stationCallsign candidate.stationCallsign
    && stringsEqualIgnoreAsciiCase existing.workedCallsign candidate.workedCallsign
    && optionalStringsCompatible existing.submode candidate.submode
    && frequenciesCompatible existing candidate

/-- `ADIF_DUPLICATE_TIME_WINDOW_SECONDS`. -/
def adifDuplicateTimeWindowSeconds : ℤ := 59

/-- `offset_timestamp_seconds`. -/
def offsetTimestampSeconds (timestamp : Timestamp) (offsetSeconds : ℤ) : Timestamp :=
  { timestamp with seconds := saturateI64 (timestamp.seconds + offsetSeconds) }

/-- The rows a record is fuzzily looked for in. -/
def windowQuery (candidate : QsoRecord) (timestamp : Timestamp) : QsoListQuery :=
  { after := some (offsetTimestampSeconds timestamp (-adifDuplicateTimeWindowSeconds))
    before := some (offsetTimestampSeconds timestamp adifDuplicateTimeWindowSeconds)
    callsignFilter :=
      (trimmedNonEmpty candidate.workedCallsign).or (trimmedNonEmpty candidate.stationCallsign)
    deletedFilter := .all }

/-- `?` on a storage call. -/
def orStorageError {α : Type} (c : StoreCmd) (f : c.Value → Program (Except LogbookError α)) :
    Program (Except LogbookError α) := do
  match ← store c with
  | .error error => return .error (.storage error)
  | .ok value => f value

/-- `?` on a call of this module. -/
def orLogbookError {α β : Type} (p : Program (Except LogbookError α))
    (f : α → Program (Except LogbookError β)) : Program (Except LogbookError β) := do
  match ← p with
  | .error error => return .error error
  | .ok value => f value

/-- The second half of `find_duplicate_import`. -/
def findDuplicateInWindow (candidate : QsoRecord) :
    Program (Except LogbookError (Option QsoRecord)) :=
  match candidate.utcTimestamp with
  | none => return .ok none
  | some timestamp =>
      orStorageError (.listQsos (windowQuery candidate timestamp)) fun existing =>
        return .ok (existing.find? fun row => qsosMatchForDuplicate row candidate)

/-- Does the row carry the fingerprint? -/
def hasFingerprint (fingerprint : String) (row : QsoRecord) : Bool :=
  row.extraFields[adifImportFingerprintField]? == some fingerprint

/-- `find_duplicate_import`. -/
def findDuplicateImport (candidate : QsoRecord) :
    Program (Except LogbookError (Option QsoRecord)) :=
  match candidate.extraFields[adifImportFingerprintField]? with
  | some fingerprint =>
      orStorageError (.listQsos { deletedFilter := .all }) fun allQsos =>
        match allQsos.find? (hasFingerprint fingerprint) with
        | some existing => return .ok (some existing)
        | none => findDuplicateInWindow candidate
  | none => findDuplicateInWindow candidate

/-! ### Refreshing -/

/-- `merge_optional_str`. -/
def mergeOptionalStr (target source : Option String) : Option String :=
  (source.bind trimmedNonEmpty).or target

/-- `merge_optional_u32` and `merge_optional_u64`. -/
def mergeOptionalNat (target source : Option ℕ) : Option ℕ := (positive source).or target

/-- `merge_qso_for_refresh`. -/
def mergeQsoForRefresh (existing incoming : QsoRecord) (now : Timestamp) : QsoRecord :=
  { existing with
    stationCallsign := incoming.stationCallsign
    workedCallsign := incoming.workedCallsign
    utcTimestamp := incoming.utcTimestamp
    band := incoming.band
    mode := incoming.mode
    frequencyKhz := mergeOptionalNat existing.frequencyKhz incoming.frequencyKhz
    frequencyHz := mergeOptionalNat existing.frequencyHz incoming.frequencyHz
    submode := mergeOptionalStr existing.submode incoming.submode
    utcEndTimestamp := incoming.utcEndTimestamp.or existing.utcEndTimestamp
    stationSnapshot := incoming.stationSnapshot.or existing.stationSnapshot
    rstSent := incoming.rstSent.or existing.rstSent
    rstReceived := incoming.rstReceived.or existing.rstReceived
    txPower := mergeOptionalStr existing.txPower incoming.txPower
    workedOperatorCallsign :=
      mergeOptionalStr existing.workedOperatorCallsign incoming.workedOperatorCallsign
    workedOperatorName := mergeOptionalStr existing.workedOperatorName incoming.workedOperatorName
    workedGrid := mergeOptionalStr existing.workedGrid incoming.workedGrid
    workedCountry := mergeOptionalStr existing.workedCountry incoming.workedCountry
    workedDxcc := mergeOptionalNat existing.workedDxcc incoming.workedDxcc
    workedState := mergeOptionalStr existing.workedState incoming.workedState
    workedCqZone := mergeOptionalNat existing.workedCqZone incoming.workedCqZone
    workedItuZone := mergeOptionalNat existing.workedItuZone incoming.workedItuZone
    workedCounty := mergeOptionalStr existing.workedCounty incoming.workedCounty
    workedIota := mergeOptionalStr existing.workedIota incoming.workedIota
    workedContinent := mergeOptionalStr existing.workedContinent incoming.workedContinent
    workedArrlSection := mergeOptionalStr existing.workedArrlSection incoming.workedArrlSection
    contestId := mergeOptionalStr existing.contestId incoming.contestId
    serialSent := mergeOptionalStr existing.serialSent incoming.serialSent
    serialReceived := mergeOptionalStr existing.serialReceived incoming.serialReceived
    exchangeSent := mergeOptionalStr existing.exchangeSent incoming.exchangeSent
    exchangeReceived := mergeOptionalStr existing.exchangeReceived incoming.exchangeReceived
    propMode := mergeOptionalStr existing.propMode incoming.propMode
    satName := mergeOptionalStr existing.satName incoming.satName
    satMode := mergeOptionalStr existing.satMode incoming.satMode
    notes := mergeOptionalStr existing.notes incoming.notes
    comment := mergeOptionalStr existing.comment incoming.comment
    extraFields := existing.extraFields.insertMany incoming.extraFields.toList
    updatedAt := some now }

/-! ### One record -/

/-- The record with the diagnostic its row already has, or its own. -/
def withStoredDiagnostic (diagnostic : Option AdifImportDiagnostic) (existing qso : QsoRecord) :
    QsoRecord :=
  match diagnostic with
  | none => qso
  | some diagnostic =>
      match qso.extraFields[diagnostic.extraFieldKey]? with
      | none => qso
      | some currentNote =>
          setImportDiagnostic qso diagnostic
            (existing.extraFields[diagnostic.extraFieldKey]?.getD currentNote)

/-- The record with its own diagnostic. -/
def withOwnDiagnostic (diagnostic : Option AdifImportDiagnostic) (qso : QsoRecord) : QsoRecord :=
  match diagnostic with
  | none => qso
  | some diagnostic =>
      match qso.extraFields[diagnostic.extraFieldKey]? with
      | none => qso
      | some note => setImportDiagnostic qso diagnostic note

/-- The refresh branch of `import_single_adif_qso`. -/
def refreshDuplicate (recordNumber : ℕ) (existing qso : QsoRecord) (warnings : List String) :
    Program (Except LogbookError AdifImportOutcome) := do
  let now ← utcNow
  let merged := mergeQsoForRefresh existing qso now
  if { existing with updatedAt := merged.updatedAt } == merged then
    return .ok
      { kind := .skipped
        warnings := warnings ++ [recordWarning recordNumber
          "duplicate skipped; matched an existing QSO and import data did not change it."] }
  else
    orLogbookError (updateQso merged) fun updated => pure (.ok
      { kind := .updated
        affectedQso := some updated
        warnings := warnings ++ [recordWarning recordNumber
          ("refreshed existing record '" ++ updated.localId ++ "'.")] })

/-- A record whose duplicate has been found. -/
def importDuplicate (recordNumber : ℕ) (existing qso : QsoRecord) (warnings : List String)
    (refresh : Bool) (diagnostic : Option AdifImportDiagnostic) :
    Program (Except LogbookError AdifImportOutcome) :=
  if existing.deletedAt.isSome then
    return .ok
      { kind := .skipped
        warnings := warnings ++ [recordWarning recordNumber
          "duplicate skipped; matched a deleted existing QSO and was not resurrected."] }
  else if refresh then
    refreshDuplicate recordNumber existing (withStoredDiagnostic diagnostic existing qso) warnings
  else
    return .ok
      { kind := .skipped
        warnings := warnings ++ [recordWarning recordNumber
          "duplicate skipped; matched an existing QSO on station_callsign, worked_callsign, compatible utc_timestamp, band, mode, and compatible submode/frequency."] }

/-- `import_single_adif_qso`. -/
def importSingleAdifQso (recordNumber : ℕ) (qso : QsoRecord)
    (activeStationProfile : Option StationProfile) (refresh : Bool)
    (diagnostic : Option AdifImportDiagnostic) : Program (Except LogbookError AdifImportOutcome) :=
  match importCandidate qso activeStationProfile with
  | .error reason => return .ok (.skip (recordWarning recordNumber reason))
  | .ok (qso, warnings) =>
      let warnings := warnings.map (recordWarning recordNumber)
      orLogbookError (findDuplicateImport qso) fun
        | some existing =>
            importDuplicate recordNumber existing qso warnings refresh diagnostic
        | none =>
            orLogbookError (logQso (withOwnDiagnostic diagnostic qso)) fun stored => pure (.ok
              { kind := .imported, affectedQso := some stored, warnings })

/-! ### The whole import -/

/-- The loop of `import_adif_qsos_inner`, from a record number on. -/
def importAdifQsosFrom (activeStationProfile : Option StationProfile) (refresh : Bool)
    (diagnostic : Option AdifImportDiagnostic) :
    ℕ → List QsoRecord → AdifImportSummary → Program (Except LogbookError AdifImportSummary)
  | _, [], summary => return .ok summary
  | recordNumber, qso :: rest, summary =>
      orLogbookError (importSingleAdifQso recordNumber qso activeStationProfile refresh diagnostic)
        fun outcome =>
          importAdifQsosFrom activeStationProfile refresh diagnostic (recordNumber + 1) rest
            (summary.add outcome)

/-- `import_adif_qsos_inner`. -/
def importAdifQsosInner (qsos : List QsoRecord) (activeStationProfile : Option StationProfile)
    (refresh : Bool) (diagnostic : Option AdifImportDiagnostic) :
    Program (Except LogbookError AdifImportSummary) :=
  importAdifQsosFrom activeStationProfile refresh diagnostic 1 qsos {}

/-- `import_adif_qsos`. -/
def importAdifQsos (qsos : List QsoRecord) (activeStationProfile : Option StationProfile)
    (refresh : Bool) : Program (Except LogbookError AdifImportSummary) :=
  importAdifQsosInner qsos activeStationProfile refresh none

end QsoRipper
