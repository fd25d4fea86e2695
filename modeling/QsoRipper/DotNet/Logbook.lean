/-
QsoRipper/DotNet/Logbook.lean

The operator's side of the managed engine, `ManagedEngineState`: `LogQso`,
`UpdateQso`, `DeleteQso`, `RestoreQso` and the uploads behind an import.
They run one at a time, under the gate of the engine; a QRZ or LoTW sync does
not take that gate while it works.
-/
import QsoRipper.DotNet.LotwSync
import QsoRipper.DotNet.Parity
import QsoRipper.DotNet.QrzSync

namespace QsoRipper.DotNet

open Interaction

/-- What an operation of the engine throws. -/
inductive EngineException where
  | noActiveStationProfile
  | invalidOperation (message : String)
  | argument (message : String)
  | keyNotFound (message : String)
  | softDeleted (localId : String)
  | storage (ex : StorageException)

/-- The configuration an operation runs under. -/
structure EngineConfig where
  activeProfile : Option StationProfile
  /-- `_hasQrzLogbookApiKey`. -/
  hasQrzKey : Bool
  /-- `_syncEngine is not null`. -/
  hasSyncEngine : Bool
  /-- What `CreateLotwSyncEngineNoLock` throws, if it does. -/
  lotwError : Option String

/-- Call the store, and throw what it throws. -/
def callStore {α : Type} (c : LogbookCmd) (f : c.Value → NetProgram (Except EngineException α)) :
    NetProgram (Except EngineException α) := do
  match ← logbook c with
  | .error ex => return .error (.storage ex)
  | .ok value => f value

/-! ### Uploads of one record -/

/-- What a save reports about its uploads. -/
structure SyncReport where
  syncSuccess : Bool := false
  syncError : Option String := none
  qrzLogid : Option String := none
  lotwSyncSuccess : Bool := false
  lotwSyncError : Option String := none

/-- `UploadSingleQsoAsync`. -/
def uploadSingleQso (qso : QsoRecord) : NetProgram (Except ApiException NetText.NonBlank) := do
  match ← logbook .getSyncMetadata with
  | .error ex => return .error (.other ex.message)
  | .ok metadata =>
      let upload (bookOwner : Option String) : NetProgram (Except ApiException NetText.NonBlank) := do
        match ← uploadRow qso bookOwner with
        | .error ex => return .error ex
        | .ok (logid, _) => return .ok logid
      match ← qrzApi .getStatus with
      | .ok status =>
          upload (if NetText.isWhiteSpace status.owner then none else some (Text.trim status.owner))
      | .error (.qrzLogbook _) => upload metadata.qrzLogbookOwner
      | .error (.other message) => return .error (.other message)

/-- The upload that `ApplySyncFlagsNoLock` makes when it is asked for one. -/
def uploadOnSave (config : EngineConfig) (qso : QsoRecord) :
    NetProgram (Except String NetText.NonBlank) :=
  if !config.hasQrzKey then return .error "QRZ logbook is not configured."
  else if !config.hasSyncEngine then return .error "QRZ logbook sync is unavailable."
  else do
    match ← uploadSingleQso qso with
    | .error ex => return .error ex.message
    | .ok logid => return .ok logid

/-- `ApplySyncFlagsNoLock`, and the patch after it: the record in memory has the
status `otherwise` when it was not uploaded. -/
def applySyncFlags (config : EngineConfig) (qso : QsoRecord) (syncToQrz : Bool) (otherwise : ℤ) :
    NetProgram (Except EngineException (QsoRecord × SyncReport)) :=
  if !syncToQrz then return .ok ({ qso with syncStatus := otherwise }, {})
  else do
    match ← uploadOnSave config qso with
    | .error message =>
        return .ok ({ qso with syncStatus := otherwise }, { syncError := some message })
    | .ok logid =>
        callStore (.updateQrzSyncMetadata qso.localId qso.updatedAt logid.val) fun _ =>
          return .ok ({ qso with syncStatus := SyncStatus.synced.toI32, qrzLogid := some logid.val },
            { syncSuccess := true, qrzLogid := some logid.val })

/-- `UploadSingleAsync` of the LoTW engine. -/
def uploadSingleLotw (snapshot : QsoRecord) : NetProgram (Except LotwException Unit) := do
  let fail (ex : LotwException) : NetProgram (Except LotwException Unit) :=
    andThen (patchUpload snapshot false) fun _ => return .error ex
  match ← lotwApi (.uploadQsos [snapshot]) with
  | .error ex => fail ex
  | .ok _ =>
      match ← patchUpload snapshot true with
      | .error ex => fail ex
      | .ok _ => return .ok ()

/-- `Exception.Message`. -/
def LotwException.message : LotwException → String
  | canceled => "The operation was canceled."
  | failed message => message

/-- `ApplyLotwSyncFlagNoLock`. -/
def applyLotwSyncFlag (config : EngineConfig) (qso : QsoRecord) (syncToLotw : Bool)
    (report : SyncReport) : NetProgram SyncReport :=
  if !syncToLotw then return report
  else
    match config.lotwError with
    | some message => return { report with lotwSyncError := some message }
    | none => do
        match ← uploadSingleLotw qso with
        | .ok () => return { report with lotwSyncSuccess := true }
        | .error ex => return { report with lotwSyncError := some ex.message }

/-- The uploads behind a save. -/
def uploadSaved (config : EngineConfig) (qso : QsoRecord) (syncToQrz syncToLotw : Bool)
    (otherwise : ℤ) : NetProgram (Except EngineException SyncReport) := do
  match ← applySyncFlags config qso syncToQrz otherwise with
  | .error ex => return .error ex
  | .ok (qso, report) =>
      let report ← applyLotwSyncFlag config qso syncToLotw report
      return .ok report

/-! ### Logging and updating -/

/-- `IsTimestampUnset`. -/
def isTimestampUnset (value : Option Timestamp) : Bool :=
  value.all fun ts => ts.seconds == 0 && ts.nanos == 0

/-- The clock, as a protobuf timestamp. -/
def timestampNow : NetProgram Timestamp := do
  let now ← utcNow
  return fromDateTimeOffset now

/-- The engine's own fields of a record that is logged. -/
def resetForCreate (qso : QsoRecord) (localId : String) (now : Timestamp) : QsoRecord :=
  { qso with
    localId
    stationCallsign := ""
    stationSnapshot := none
    syncStatus := SyncStatus.localOnly.toI32
    lotwSent := none
    lotwReceived := none
    lotwSentStatus := QslStatus.unspecified.toI32
    lotwReceivedStatus := QslStatus.unspecified.toI32
    lotwSentDate := none
    lotwReceivedDate := none
    lotwSyncStatus := LotwSyncStatus.localOnly.toI32
    qrzLogid := none
    qrzBookid := none
    createdAt := some now
    updatedAt := some now }

/-- The record `LogQso` inserts. -/
def loggedRow (config : EngineConfig) (qso : QsoRecord) (localId : String) (now : Timestamp) :
    QsoRecord :=
  normalizeQsoForPersistence
    (materializeStationSnapshotForCreate (resetForCreate qso localId now) config.activeProfile)

/-- `LogQso`: the id of the row, and what became of the uploads. -/
def logQso (config : EngineConfig) (qso : Option QsoRecord) (syncToQrz syncToLotw : Bool) :
    NetProgram (Except EngineException (String × SyncReport)) :=
  match qso with
  | none => return .error (.invalidOperation "qso is required.")
  | some qso =>
      if config.activeProfile.isNone then return .error .noActiveStationProfile
      else do
        let localId ← newGuid
        let now ← timestampNow
        let row := loggedRow config qso localId now
        match validateQsoForPersistence row with
        | some message => return .error (.invalidOperation message)
        | none =>
            callStore (.insertQso row) fun _ => do
              match ← uploadSaved config row syncToQrz syncToLotw SyncStatus.localOnly.toI32 with
              | .error ex => return .error ex
              | .ok report => return .ok (localId, report)

/-- What `UpdateQso` takes back from the stored row. -/
def carryStored (existing qso : QsoRecord) : QsoRecord :=
  { qso with
    localId := existing.localId
    stationCallsign := existing.stationCallsign
    stationSnapshot := existing.stationSnapshot
    createdAt := existing.createdAt
    qrzLogid := existing.qrzLogid
    qrzBookid := existing.qrzBookid
    deletedAt := existing.deletedAt
    pendingRemoteDelete := existing.pendingRemoteDelete
    lotwSent := existing.lotwSent
    lotwReceived := existing.lotwReceived
    lotwSentStatus := existing.lotwSentStatus
    lotwReceivedStatus := existing.lotwReceivedStatus
    lotwSentDate := existing.lotwSentDate
    lotwReceivedDate := existing.lotwReceivedDate
    lotwSyncStatus :=
      if existing.lotwSyncStatus = LotwSyncStatus.uploaded.toI32
          ∨ existing.lotwSyncStatus = LotwSyncStatus.confirmed.toI32 then
        LotwSyncStatus.modified.toI32
      else existing.lotwSyncStatus
    syncStatus :=
      if existing.syncStatus = SyncStatus.synced.toI32 then SyncStatus.modified.toI32
      else existing.syncStatus }

/-- `FinalizeQsoForWrite`; a contact at the epoch gets the time of the write, and
a new record its id and creation time where they are missing. -/
def finalizeQsoForWrite (qso : QsoRecord) (isNew : Bool) : NetProgram QsoRecord := do
  let localId ← if NetText.isWhiteSpace qso.localId then newGuid else pure qso.localId
  let utcTimestamp ←
    if isTimestampUnset qso.utcTimestamp then some <$> timestampNow else pure qso.utcTimestamp
  let createdAt ←
    if isNew && isTimestampUnset qso.createdAt then some <$> timestampNow else pure qso.createdAt
  let updatedAt ← timestampNow
  return { qso with localId, utcTimestamp, createdAt, updatedAt := some updatedAt }

/-- The row `UpdateQso` writes over `existing`, before it is stamped. -/
def updatedRow (existing qso : QsoRecord) : QsoRecord :=
  normalizeQsoForPersistence (carryStored existing qso)

/-- `UpdateQso` up to its write: the record it has stored. -/
def replaceQso (qso : Option QsoRecord) : NetProgram (Except EngineException QsoRecord) :=
  match qso with
  | none => return .error (.invalidOperation "qso is required.")
  | some qso =>
      let localId := Text.trim qso.localId
      if localId.isEmpty then return .error (.argument "local_id is required.")
      else
        callStore (.getQso localId) fun
          | none => return .error (.keyNotFound ("QSO '" ++ localId ++ "' was not found."))
          | some existing =>
              if existing.deletedAt.isSome then return .error (.softDeleted localId)
              else
                let row := updatedRow existing qso
                match validateQsoForPersistence row with
                | some message => return .error (.invalidOperation message)
                | none => do
                    let row ← finalizeQsoForWrite row false
                    callStore (.updateQso row) fun _ => return .ok row

/-- `UpdateQso`. -/
def updateQso (config : EngineConfig) (qso : Option QsoRecord) (syncToQrz syncToLotw : Bool) :
    NetProgram (Except EngineException SyncReport) := do
  match ← replaceQso qso with
  | .error ex => return .error ex
  | .ok row => uploadSaved config row syncToQrz syncToLotw row.syncStatus

/-! ### Deleting and restoring -/

/-- `DeleteQsoOutcome`. -/
structure DeleteQsoOutcome where
  found : Bool
  remoteDeleteQueued : Bool
  missingQrzLogid : Bool

/-- `DeleteQso`. -/
def deleteQso (localId : String) (queueRemoteDelete : Bool) :
    NetProgram (Except EngineException DeleteQsoOutcome) :=
  if NetText.isWhiteSpace localId then
    return .error (.argument whiteSpaceArgument.message)
  else
    let trimmed := Text.trim localId
    callStore (.getQso trimmed) fun
      | none =>
          return .ok { found := false, remoteDeleteQueued := false, missingQrzLogid := false }
      | some existing => do
          let pending := queueRemoteDelete && hasLogid existing
          let now ← utcNow
          callStore (.softDeleteQso trimmed now pending) fun _ =>
            return .ok
              { found := true
                remoteDeleteQueued := pending
                missingQrzLogid := queueRemoteDelete && !hasLogid existing }

/-- A row without a logid that counts as synced. -/
def isSyncedWithoutLogid (qso : QsoRecord) : Bool :=
  !hasLogid qso && qso.syncStatus == SyncStatus.synced.toI32

/-- The demotion of a row that was restored without a logid. -/
def demoteRestored (existing : QsoRecord) (localId : String) :
    NetProgram (Except EngineException Unit) :=
  if !(existing.deletedAt.isSome && isSyncedWithoutLogid existing) then return .ok ()
  else
    callStore (.getQso localId) fun
      | none => return .ok ()
      | some afterRestore =>
          if !isSyncedWithoutLogid afterRestore then return .ok ()
          else do
            let now ← timestampNow
            callStore
              (.updateQso
                { afterRestore with
                  syncStatus := SyncStatus.localOnly.toI32
                  updatedAt := some now })
              fun _ => return .ok ()

/-- `RestoreQso`: whether the row was found, and what it is now. -/
def restoreQso (localId : String) : NetProgram (Except EngineException (Bool × Option QsoRecord)) :=
  if NetText.isWhiteSpace localId then
    return .error (.argument whiteSpaceArgument.message)
  else
    let trimmed := Text.trim localId
    callStore (.getQso trimmed) fun
      | none => return .ok (false, none)
      | some existing =>
          callStore (.restoreQso trimmed) fun _ => do
            match ← demoteRestored existing trimmed with
            | .error ex => return .error ex
            | .ok () => callStore (.getQso trimmed) fun restored => return .ok (true, restored)

/-! ### Uploads after an import -/

/-- `WsjtxQrzSyncOutcome`. -/
structure WsjtxQrzSyncOutcome where
  localId : String
  workedCallsign : String
  success : Bool
  error : Option String

/-- Upload one imported row: the message of what is thrown, if anything. -/
def uploadImported (config : EngineConfig) (existing : QsoRecord) : NetProgram (Option String) :=
  if !config.hasQrzKey then return some "QRZ logbook is not configured."
  else if !config.hasSyncEngine then return some "QRZ logbook sync is unavailable."
  else do
    match ← uploadSingleQso existing with
    | .error ex => return some ex.message
    | .ok logid =>
        match ← logbook (.updateQrzSyncMetadata existing.localId existing.updatedAt logid.val) with
        | .error ex => return some ex.message
        | .ok _ => return none

/-- `SyncImportedQsosToQrz`. -/
def syncImportedQsosToQrz (config : EngineConfig) : List String →
    NetProgram (Except EngineException (List WsjtxQrzSyncOutcome))
  | [] => return .ok []
  | rawLocalId :: rest =>
      let localId := Text.trim rawLocalId
      if NetText.isWhiteSpace localId then syncImportedQsosToQrz config rest
      else
        callStore (.getQso localId) fun found => do
          let outcome ←
            match found with
            | none =>
                pure
                  { localId
                    workedCallsign := ""
                    success := false
                    error := some ("QSO '" ++ localId ++ "' was not found.") }
            | some existing => do
                let error ← uploadImported config existing
                pure
                  { localId
                    workedCallsign := existing.workedCallsign
                    success := error.isNone
                    error }
          match ← syncImportedQsosToQrz config rest with
          | .error ex => return .error ex
          | .ok outcomes => return .ok (outcome :: outcomes)

end QsoRipper.DotNet
