/-
QsoRipper/DotNet/Import.lean

`ImportAdifDetailed` of the managed engine: the records of an ADIF file or of WSJT-X,
one after another, against a list of the active rows that was taken at the start.
-/
import QsoRipper.DotNet.Logbook

namespace QsoRipper.DotNet

open Interaction

/-! ### The diagnostic of WSJT-X -/

/-- An instant as ISO 8601, and a time span in whole milliseconds. -/
structure DiagnosticText where
  instant : Ticks → String
  milliseconds : Ticks → String

/-- `WsjtxImportDiagnostic.NotePrefix`. -/
def wsjtxNotePrefix : String := "QsoRipper WSJT-X import:"

/-- `WsjtxImportDiagnostic.ExtraFieldKey`. -/
def wsjtxExtraFieldKey : String := "APP_QSORIPPER_WSJTX_IMPORT"

/-- `QsoEndToImportMilliseconds`. -/
def qsoEndToImportMilliseconds (text : DiagnosticText) (qso : QsoRecord) (importedAt : Ticks) :
    Except EngineException String :=
  match qso.utcEndTimestamp with
  | none => .ok "unavailable"
  | some ts =>
      match toDateTimeOffset ts with
      | none => .error (.invalidOperation "Timestamp contains invalid values")
      | some endedAt => .ok (text.milliseconds (importedAt - endedAt))

/-- `WsjtxImportDiagnostic.Create`. -/
def createDiagnostic (text : DiagnosticText) (source : String) (qso : QsoRecord)
    (importedAt : Ticks) : Except EngineException String := do
  let endDelta ← qsoEndToImportMilliseconds text qso importedAt
  return wsjtxNotePrefix ++ " imported_at_utc=" ++ text.instant importedAt
    ++ ", qso_end_to_import_ms=" ++ endDelta ++ ", source=" ++ source ++ ", engine=dotnet"

/-- `WsjtxImportDiagnostic.Resolve`: the one that is stored, if it is not blank. -/
def resolveDiagnostic (existing : QsoRecord) (current : String) : String :=
  ((existing.extraFields[wsjtxExtraFieldKey]?).filter fun stored =>
    !NetText.isWhiteSpace stored).getD current

/-- `Replace("\r\n", "\n")`. -/
def unixLines : List Char → List Char
  | '\r' :: '\n' :: cs => '\n' :: unixLines cs
  | c :: cs => c :: unixLines cs
  | [] => []

/-- `WsjtxImportDiagnostic.Apply`. -/
def applyDiagnostic (qso : QsoRecord) (diagnostic : String) : QsoRecord :=
  let retainedLines := qso.notes.elim [] fun notes =>
    ((unixLines notes.toList).splitOn '\n').filter fun line =>
      !wsjtxNotePrefix.toList.isPrefixOf line
  let notes := String.ofList (['\n'].intercalate retainedLines)
  { qso with
    notes := some (if notes = "" then diagnostic else notes ++ "\n" ++ diagnostic)
    extraFields := qso.extraFields.insert wsjtxExtraFieldKey diagnostic }

/-! ### The import -/

/-- The station context of a record, with a warning where the profile was applied; or why
it has none. -/
def withStationContext (qso : QsoRecord) (activeProfile : Option StationProfile) :
    Except String (QsoRecord × List String) :=
  if qsoHasStationContext qso then .ok (materializeStationSnapshotForCreate qso none, [])
  else
    match activeProfile with
    | some profile =>
        .ok (materializeStationSnapshotForCreate qso (some profile),
          ["local-station history was absent in ADIF; applied active station profile '"
            ++ stationProfileLabel profile ++ "'."])
    | none =>
        .error ("local-station history was absent in ADIF and no active station profile is "
          ++ "configured; skipped.")

/-- What an import has done so far: its response, and the list it compares with.  It also
remembers the records it has inserted; nothing reads those. -/
structure ImportRun where
  allExisting : List QsoRecord
  recordsImported : ℕ := 0
  recordsUpdated : ℕ := 0
  recordsSkipped : ℕ := 0
  warnings : List String := []
  affected : List (String × String) := []
  inserted : List QsoRecord := []

/-- A warning about a record. -/
def ImportRun.warn (run : ImportRun) (recordNumber : ℕ) (text : String) : ImportRun :=
  { run with
    warnings := run.warnings ++ ["Record " ++ toString recordNumber ++ ": " ++ text] }

/-- A record is skipped. -/
def ImportRun.skip (run : ImportRun) (recordNumber : ℕ) (text : String) : ImportRun :=
  { run.warn recordNumber text with recordsSkipped := run.recordsSkipped + 1 }

/-- How a file is imported. -/
structure ImportMode where
  refresh : Bool
  wsjtxImportSource : Option String := none
  text : DiagnosticText

/-- The source of an import by WSJT-X. -/
def ImportMode.source (mode : ImportMode) : Option String :=
  mode.wsjtxImportSource.filter fun source => !NetText.isWhiteSpace source

/-- The record with its diagnostic, if WSJT-X imports it. -/
def withDiagnostic (mode : ImportMode) (importedAt : Ticks) (resolve : String → String)
    (qso : QsoRecord) : Except EngineException QsoRecord :=
  match mode.source with
  | none => .ok qso
  | some source => do
      let current ← createDiagnostic mode.text source qso importedAt
      return applyDiagnostic qso (resolve current)

/-- A duplicate is merged into the row it matches, or skipped. -/
def importDuplicate (mode : ImportMode) (importedAt : Ticks) (recordNumber : ℕ) (qso : QsoRecord)
    (index : ℕ) (existing : QsoRecord) (run : ImportRun) :
    NetProgram (Except EngineException ImportRun) :=
  if !mode.refresh then
    return .ok (run.skip recordNumber
      ("duplicate skipped; matched an existing QSO on station_callsign, worked_callsign, "
        ++ "compatible utc_timestamp, band, mode, and compatible submode/frequency."))
  else
    match withDiagnostic mode importedAt (resolveDiagnostic existing) qso with
    | .error ex => return .error ex
    | .ok qso => do
        let now ← utcNow
        let merged := mergeQsoForRefresh existing qso now
        callStore (.updateQso merged) fun _ =>
          return .ok
            { run.warn recordNumber ("refreshed existing record '" ++ merged.localId ++ "'.") with
              allExisting := run.allExisting.set index merged
              recordsUpdated := run.recordsUpdated + 1
              affected := run.affected ++ [(merged.localId, merged.workedCallsign)] }

/-- A record that matches no row is inserted. -/
def importNew (mode : ImportMode) (importedAt : Ticks) (source qso : QsoRecord) (run : ImportRun) :
    NetProgram (Except EngineException ImportRun) :=
  match withDiagnostic mode importedAt id qso with
  | .error ex => return .error ex
  | .ok qso =>
      match validateQsoForPersistence qso with
      | some message => return .error (.invalidOperation message)
      | none => do
          let qso ← finalizeQsoForWrite qso true
          let qso := { qso with syncStatus := SyncStatus.localOnly.toI32 }
          callStore (.insertQso qso) fun _ =>
            return .ok
              { run with
                allExisting := run.allExisting ++ [qso]
                affected := run.affected ++ [(qso.localId, qso.workedCallsign)]
                recordsImported := run.recordsImported + 1
                inserted := run.inserted ++ [source] }

/-- One record. -/
def importRecord (config : EngineConfig) (mode : ImportMode) (importedAt : Ticks)
    (recordNumber : ℕ) (qso : QsoRecord) (run : ImportRun) :
    NetProgram (Except EngineException ImportRun) :=
  match withStationContext qso config.activeProfile with
  | .error reason => return .ok (run.skip recordNumber reason)
  | .ok (candidate, warnings) =>
      let run := warnings.foldl (·.warn recordNumber ·) run
      let candidate := normalizeQsoForPersistence candidate
      match invalidImportReason candidate with
      | some reason => return .ok (run.skip recordNumber (reason ++ " Skipped."))
      | none =>
          match run.allExisting.findIdx? (qsosMatchForDuplicate · candidate) with
          | some index =>
              importDuplicate mode importedAt recordNumber candidate index
                (run.allExisting.getD index candidate) run
          | none => importNew mode importedAt qso candidate run

/-- The records of a file. -/
def importRecords (config : EngineConfig) (mode : ImportMode) (importedAt : Ticks) :
    ℕ → List QsoRecord → ImportRun → NetProgram (Except EngineException ImportRun)
  | _, [], run => return .ok run
  | recordNumber, qso :: qsos, run => do
      match ← importRecord config mode importedAt recordNumber qso run with
      | .error ex => return .error ex
      | .ok run => importRecords config mode importedAt (recordNumber + 1) qsos run

/-- `ImportAdifDetailed`, of the records of the file. -/
def importAdifDetailed (config : EngineConfig) (mode : ImportMode) (qsos : List QsoRecord) :
    NetProgram (Except EngineException ImportRun) := do
  let importedAt ← utcNow
  callStore (.listQsos {}) fun allExisting =>
    importRecords config mode importedAt 1 qsos { allExisting }

end QsoRipper.DotNet
