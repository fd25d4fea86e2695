/-
QsoRipper/DotNet/QrzSync.lean

The QRZ sync of the managed engine as a program, phase by phase as
`ExecuteSyncAsync` has them: push linked corrections, download and merge, upload
what is pending, push queued remote deletes, store the metadata.

What a downloaded record does to the row it is matched with is one function,
`mergeRemoteIntoLocal`; the generated `MergeFrom` and the filling of blanks do
what their namesakes in the other engine do.
-/
import QsoRipper.DotNet.Ports
import QsoRipper.Server.Merge

namespace QsoRipper.DotNet

open Interaction

/-- `ConflictPolicy`. -/
inductive ConflictPolicy where
  | unspecified
  | lastWriteWins
  | flagForReview
  deriving DecidableEq

/-! ### Uploads -/

/-- `UploadPassResult`, and the errors of the pass. -/
structure UploadPass where
  uploaded : ℕ := 0
  duplicateReplaces : ℕ := 0
  uploadedLogids : List String := []
  errors : List String := []

/-- `errors.Add`. -/
def UploadPass.addError (pass : UploadPass) (message : String) : UploadPass :=
  { pass with errors := pass.errors ++ [message] }

/-- `string.IsNullOrWhiteSpace(q.QrzLogid)`, negated. -/
def hasLogid (q : QsoRecord) : Bool := !NetText.isNullOrWhiteSpace q.qrzLogid

/-- `q.SyncStatus == SyncStatus.Modified && !string.IsNullOrWhiteSpace(q.QrzLogid)`. -/
def isLinkedCorrection (q : QsoRecord) : Bool :=
  q.syncStatus == SyncStatus.modified.toI32 && hasLogid q

/-- `q.SyncStatus is SyncStatus.LocalOnly or SyncStatus.Modified`. -/
def isPendingUpload (q : QsoRecord) : Bool :=
  q.syncStatus == SyncStatus.localOnly.toI32 || q.syncStatus == SyncStatus.modified.toI32

/-- `IsDuplicateError`. -/
def isDuplicateError (message : String) : Bool := NetText.containsIgnoreCase message "duplicate"

/-- The call that uploads a row: its logid, and whether a duplicate was
replaced. -/
def uploadRow (current : QsoRecord) (bookOwner : Option String) :
    NetProgram (Except ApiException (NetText.NonBlank × Bool)) :=
  if current.syncStatus == SyncStatus.modified.toI32 && hasLogid current then do
    match ← qrzApi (.updateQso current bookOwner) with
    | .error ex => return .error ex
    | .ok logid => return .ok (logid, false)
  else do
    match ← qrzApi (.uploadQso current bookOwner) with
    | .ok logid => return .ok (logid, false)
    | .error (.qrzLogbook message) =>
        if !hasLogid current && isDuplicateError message then
          match ← qrzApi (.uploadQsoWithReplace current bookOwner) with
          | .error ex => return .error ex
          | .ok logid => return .ok (logid, true)
        else return .error (.qrzLogbook message)
    | .error (.other message) => return .error (.other message)

/-- The patch after an upload. -/
def recordUpload (current : QsoRecord) (logid : NetText.NonBlank) (replaced : Bool)
    (pass : UploadPass) : NetProgram UploadPass := do
  let pass :=
    { pass with
      uploaded := pass.uploaded + 1
      duplicateReplaces := pass.duplicateReplaces + if replaced then 1 else 0 }
  match ← logbook (.updateQrzSyncMetadata current.localId current.updatedAt logid.val) with
  | .error ex =>
      return pass.addError ("Upload succeeded for " ++ current.workedCallsign
        ++ " but local update failed: " ++ ex.message)
  | .ok none =>
      return pass.addError ("Upload succeeded for " ++ current.workedCallsign
        ++ " but the local QSO no longer exists.")
  | .ok (some _) => return { pass with uploadedLogids := pass.uploadedLogids ++ [logid.val] }

/-- One row of `UploadPendingQsosAsync`. -/
def uploadOne (bookOwner : Option String) (shouldUpload : QsoRecord → Bool) (qso : QsoRecord)
    (pass : UploadPass) : NetProgram UploadPass := do
  match ← logbook (.getQso qso.localId) with
  | .error ex =>
      return pass.addError ("Upload failed for " ++ qso.workedCallsign ++ ": " ++ ex.message)
  | .ok none => return pass
  | .ok (some current) =>
      if current.deletedAt.isSome || !shouldUpload current then return pass
      else
        match ← uploadRow current bookOwner with
        | .error ex =>
            return pass.addError
              ("Upload failed for " ++ qso.workedCallsign ++ ": " ++ ex.message)
        | .ok (logid, replaced) => recordUpload current logid replaced pass

/-- The loop of `UploadPendingQsosAsync`. -/
def uploadAll (bookOwner : Option String) (shouldUpload : QsoRecord → Bool) :
    List QsoRecord → UploadPass → NetProgram UploadPass
  | [], pass => return pass
  | qso :: rest, pass => do
      let pass ← uploadOne bookOwner shouldUpload qso pass
      uploadAll bookOwner shouldUpload rest pass

/-- `UploadPendingQsosAsync`. -/
def uploadPendingQsos (bookOwner : Option String) (shouldUpload : QsoRecord → Bool) :
    NetProgram UploadPass := do
  match ← logbook (.listQsos { sort := .oldestFirst }) with
  | .error ex =>
      return { errors := ["Failed to list pending QSOs for upload: " ++ ex.message] }
  | .ok allQsos => uploadAll bookOwner shouldUpload (allQsos.filter shouldUpload) {}

/-! ### Matching -/

/-- `ExtractQrzLogid`: the dedicated field, then the extra fields. -/
def extractQrzLogid (qso : QsoRecord) : Option String :=
  let nonBlank (value : Option String) := value.filter fun s => !NetText.isWhiteSpace s
  ((nonBlank qso.qrzLogid).or (nonBlank qso.extraFields["APP_QRZLOG_LOGID"]?)).or
    (nonBlank qso.extraFields["APP_QRZ_LOGID"]?)

/-- The key of the fuzzy index: callsign, band, mode. -/
abbrev FuzzyKey := String × ℤ × ℤ

/-- `MakeFuzzyKey`. -/
def makeFuzzyKey (qso : QsoRecord) : FuzzyKey :=
  (NetText.toUpperInvariant qso.workedCallsign, qso.band, qso.mode)

/-- The two indexes; logids are looked up without regard to case. -/
structure LocalIndexes where
  byLogid : String → Option QsoRecord
  byKey : FuzzyKey → List QsoRecord

/-- `byLogid.TryAdd`. -/
def LocalIndexes.tryAdd (indexes : LocalIndexes) (logid : String) (qso : QsoRecord) :
    LocalIndexes :=
  let key := NetText.toUpperInvariant logid
  { indexes with
    byLogid := Function.update indexes.byLogid key (some ((indexes.byLogid key).getD qso)) }

/-- `byLogid[logid] = qso`. -/
def LocalIndexes.set (indexes : LocalIndexes) (logid : String) (qso : QsoRecord) : LocalIndexes :=
  { indexes with
    byLogid := Function.update indexes.byLogid (NetText.toUpperInvariant logid) (some qso) }

/-- File a record under its fuzzy key, behind those that are there. -/
def LocalIndexes.push (indexes : LocalIndexes) (qso : QsoRecord) : LocalIndexes :=
  { indexes with
    byKey := Function.update indexes.byKey (makeFuzzyKey qso)
      (indexes.byKey (makeFuzzyKey qso) ++ [qso]) }

/-- `BuildLocalIndexes`. -/
def buildLocalIndexes (localQsos : List QsoRecord) : LocalIndexes :=
  localQsos.foldl
    (fun indexes qso =>
      let indexes :=
        match extractQrzLogid qso with
        | none => indexes
        | some logid => indexes.tryAdd logid qso
      indexes.push qso)
    { byLogid := fun _ => none, byKey := fun _ => [] }

/-- `TimestampToleranceSeconds`. -/
def timestampToleranceSeconds : ℤ := 60

/-- `FuzzyMatch`; seconds are too small for `long` arithmetic to overflow. -/
def fuzzyMatch (remote : QsoRecord) (byKey : FuzzyKey → List QsoRecord) : Option QsoRecord :=
  let remoteTs := remote.utcTimestamp.elim 0 (·.seconds)
  (byKey (makeFuzzyKey remote)).find? fun mine =>
    mine.utcTimestamp.any fun ts => decide (|ts.seconds - remoteTs| ≤ timestampToleranceSeconds)

/-- The row a remote record is matched with: by logid, else fuzzily. -/
def LocalIndexes.match (indexes : LocalIndexes) (remote : QsoRecord) : Option QsoRecord :=
  ((extractQrzLogid remote).bind fun logid =>
    indexes.byLogid (NetText.toUpperInvariant logid)).or (fuzzyMatch remote indexes.byKey)

/-! ### Merging -/

/-- `MergeRemoteIntoLocal`: the merged row, and whether it needs review. -/
def mergeRemoteIntoLocal (mine remote : QsoRecord) (remoteLogid : Option String)
    (policy : ConflictPolicy) : QsoRecord × Bool :=
  let qrzLogid := some (remoteLogid.getD (mine.qrzLogid.getD ""))
  if mine.syncStatus ≠ SyncStatus.modified.toI32 then
    let nonConflict :=
      if mine.syncStatus = SyncStatus.synced.toI32 then mergeRemoteAuthoritative mine remote
      else if mine.syncStatus = SyncStatus.localOnly.toI32 then
        fillMissingRemoteEnrichment mine remote
      else mine
    ({ nonConflict with
        localId := mine.localId, syncStatus := SyncStatus.synced.toI32, qrzLogid }, false)
  else
    match policy with
    | .lastWriteWins =>
        ({ mergeRemoteAuthoritative mine remote with
            localId := mine.localId, syncStatus := SyncStatus.synced.toI32, qrzLogid }, false)
    | .flagForReview | .unspecified =>
        ({ mine with syncStatus := SyncStatus.conflict.toI32, qrzLogid }, true)

/-! ### Download -/

/-- The counters of a sync, and its errors. -/
structure SyncCounters where
  downloaded : ℕ := 0
  uploaded : ℕ := 0
  conflicts : ℕ := 0
  remoteDeletesPushed : ℕ := 0
  deletesSkippedRemote : ℕ := 0
  duplicateReplaces : ℕ := 0
  errors : List String := []

/-- `errors.Add`. -/
def SyncCounters.addError (counters : SyncCounters) (message : String) : SyncCounters :=
  { counters with errors := counters.errors ++ [message] }

/-- What a pass of uploads adds. -/
def SyncCounters.addPass (counters : SyncCounters) (pass : UploadPass) : SyncCounters :=
  { counters with
    uploaded := counters.uploaded + pass.uploaded
    duplicateReplaces := counters.duplicateReplaces + pass.duplicateReplaces
    errors := counters.errors ++ pass.errors }

/-- What the download loop carries from record to record. -/
structure DownloadState where
  indexes : LocalIndexes
  counters : SyncCounters

/-- What the loop is given. -/
structure DownloadContext where
  deletedLogids : List String
  freshlyUploadedLogids : List String
  policy : ConflictPolicy

/-- Is the logid among these, without regard to case? -/
def containsLogid (logids : List String) (logid : Option String) : Bool :=
  logid.any fun logid => logids.any (NetText.equalsIgnoreCase logid)

/-- `string.IsNullOrWhiteSpace(remote.WorkedCallsign) || remote.UtcTimestamp is null`. -/
def isGhost (remote : QsoRecord) : Bool :=
  NetText.isWhiteSpace remote.workedCallsign || remote.utcTimestamp.isNone

/-- The row that is made of a record nobody matched. -/
def newQso (remote : QsoRecord) (remoteLogid : Option String) (localId : String) : QsoRecord :=
  { remote with
    localId
    syncStatus := SyncStatus.synced.toI32
    qrzLogid := remoteLogid.or remote.qrzLogid }

/-- Insert the row that was made of a record, and file it. -/
def insertRow (remote row : QsoRecord) (st : DownloadState) : NetProgram DownloadState := do
  match ← logbook (.insertQso row) with
  | .error ex =>
      return { st with
        counters := st.counters.addError
          ("Insert failed for " ++ remote.workedCallsign ++ ": " ++ ex.message) }
  | .ok () =>
      let indexes :=
        match extractQrzLogid remote with
        | none => st.indexes
        | some logid => st.indexes.set logid row
      return { indexes := indexes.push row
               counters := { st.counters with downloaded := st.counters.downloaded + 1 } }

/-- Insert a record that nobody matched. -/
def insertRemote (remote : FetchedQso) (st : DownloadState) : NetProgram DownloadState := do
  let localId ← if remote.val.localId.isEmpty then newGuid else pure remote.val.localId
  insertRow remote.val (newQso remote.val (extractQrzLogid remote.val) localId) st

/-- Merge a record into the row it was matched with. -/
def mergeRemote (policy : ConflictPolicy) (mine remote : QsoRecord) (counters : SyncCounters) :
    NetProgram SyncCounters := do
  let (merged, isConflict) := mergeRemoteIntoLocal mine remote (extractQrzLogid remote) policy
  let counters := { counters with conflicts := counters.conflicts + if isConflict then 1 else 0 }
  match ← logbook (.updateQsoIfUnchanged mine merged) with
  | .error ex =>
      return counters.addError ("Merge failed for " ++ remote.workedCallsign ++ ": " ++ ex.message)
  | .ok true => return { counters with downloaded := counters.downloaded + 1 }
  | .ok false => return counters

/-- Is the record passed over, because it is a fragment or because the row it
belongs to was just uploaded? -/
def isPassedOver (ctx : DownloadContext) (remote : QsoRecord) : Bool :=
  isGhost remote || containsLogid ctx.freshlyUploadedLogids (extractQrzLogid remote)

/-- Does the record belong to a soft-deleted row? -/
def isDeletedLocally (ctx : DownloadContext) (remote : QsoRecord) : Bool :=
  containsLogid ctx.deletedLogids (extractQrzLogid remote)

/-- One downloaded record. -/
def processRemote (ctx : DownloadContext) (remote : FetchedQso) (st : DownloadState) :
    NetProgram DownloadState :=
  if isPassedOver ctx remote.val then return st
  else if isDeletedLocally ctx remote.val then
    return { st with
      counters :=
        { st.counters with deletesSkippedRemote := st.counters.deletesSkippedRemote + 1 } }
  else
    match st.indexes.match remote.val with
    | none => insertRemote remote st
    | some mine => do
        let counters ← mergeRemote ctx.policy mine remote.val st.counters
        return { st with counters }

/-- The loop over the downloaded records. -/
def processRemotes (ctx : DownloadContext) : List FetchedQso → DownloadState →
    NetProgram DownloadState
  | [], st => return st
  | remote :: rest, st => do
      let st ← processRemote ctx remote st
      processRemotes ctx rest st

/-! ### Queued remote deletes -/

/-- `q.PendingRemoteDelete && !string.IsNullOrWhiteSpace(q.QrzLogid)`. -/
def awaitsRemoteDelete (q : QsoRecord) : Bool := q.pendingRemoteDelete && hasLogid q

/-- The row a confirmed remote delete leaves. -/
def cleared (current : QsoRecord) : QsoRecord :=
  { current with
    qrzLogid := some ""
    pendingRemoteDelete := false
    syncStatus :=
      if current.deletedAt.isNone then SyncStatus.localOnly.toI32 else current.syncStatus }

/-- `CompleteRemoteDeleteAsync`, with the attempts that are left. -/
def completeRemoteDelete (deletedSnapshot : QsoRecord) :
    ℕ → NetProgram (Except StorageException Bool)
  | 0 => return .ok false
  | attempts + 1 => do
      match ← logbook (.getQso deletedSnapshot.localId) with
      | .error ex => return .error ex
      | .ok none => return .ok false
      | .ok (some current) =>
          if current.qrzLogid.getD "" ≠ deletedSnapshot.qrzLogid.getD "" then return .ok true
          else
            match ← logbook (.updateQsoIfUnchanged current (cleared current)) with
            | .error ex => return .error ex
            | .ok true => return .ok true
            | .ok false => completeRemoteDelete deletedSnapshot attempts

/-- The outcome of one queued remote delete, counted. -/
def countRemoteDelete (qso : QsoRecord) (outcome : Except StorageException Bool)
    (counters : SyncCounters) : SyncCounters :=
  match outcome with
  | .ok true => { counters with remoteDeletesPushed := counters.remoteDeletesPushed + 1 }
  | .ok false =>
      counters.addError ("Remote delete cleared for " ++ qso.workedCallsign
        ++ " could not be applied because the local QSO kept changing.")
  | .error ex =>
      counters.addError
        ("Remote delete cleared for " ++ qso.workedCallsign ++ " failed locally: " ++ ex.message)

/-- The loop over the queued remote deletes. -/
def pushRemoteDeletes : List QsoRecord → SyncCounters → NetProgram SyncCounters
  | [], counters => return counters
  | qso :: rest, counters => do
      match ← qrzApi (.deleteQso (qso.qrzLogid.getD "")) with
      | .ok () =>
          let outcome ← completeRemoteDelete qso 3
          pushRemoteDeletes rest (countRemoteDelete qso outcome counters)
      | .error ex =>
          pushRemoteDeletes rest (counters.addError
            ("Remote delete failed for " ++ qso.workedCallsign ++ ": " ++ ex.message))

/-- Phase 2.5. -/
def pushPendingRemoteDeletes (counters : SyncCounters) : NetProgram SyncCounters := do
  match ← logbook (.listQsos { sort := .oldestFirst, deletedFilter := .deletedOnly }) with
  | .error ex =>
      return counters.addError
        ("Failed to list deleted QSOs for remote-delete pass: " ++ ex.message)
  | .ok deletedRows => pushRemoteDeletes (deletedRows.filter awaitsRemoteDelete) counters

/-! ### Metadata -/

/-- `SyncResult`. -/
structure SyncResult where
  downloadedCount : ℕ := 0
  uploadedCount : ℕ := 0
  conflictCount : ℕ := 0
  remoteQsoCount : Option ℕ := none
  remoteOwner : Option String := none
  errorSummary : Option String := none
  remoteDeletesPushed : ℕ := 0
  deletesSkippedRemote : ℕ := 0
  duplicateReplaceCount : ℕ := 0

/-- The remote count to store: of `STATUS`, else estimated from local counts. -/
def countToPersist (metadata : SyncMetadata) (status : Except ApiException QrzLogbookStatus)
    (counters : SyncCounters) : NetProgram (ℕ × SyncCounters) := do
  match status with
  | .ok status => return (min status.qsoCount (2 ^ 31 - 1), counters)
  | .error _ =>
      match ← logbook .getCounts with
      | .ok counts => return (counts.localQsoCount - counts.pendingUploadCount, counters)
      | .error ex =>
          return (metadata.qrzQsoCount, counters.addError ("Local count refresh failed: " ++ ex.message))

/-- The owner to store. -/
def ownerToPersist (metadata : SyncMetadata) (status : Except ApiException QrzLogbookStatus) :
    Option String :=
  match status with
  | .ok status =>
      if NetText.isWhiteSpace status.owner then metadata.qrzLogbookOwner else some status.owner
  | .error _ => metadata.qrzLogbookOwner

/-- Phase 3. -/
def storeMetadata (metadata : SyncMetadata) (status : Except ApiException QrzLogbookStatus)
    (counters : SyncCounters) : NetProgram SyncCounters := do
  let counters :=
    match status with
    | .ok _ => counters
    | .error ex => counters.addError ("STATUS refresh failed: " ++ ex.message)
  let (qrzQsoCount, counters) ← countToPersist metadata status counters
  let now ← utcNow
  match ← logbook (.upsertSyncMetadata
      { qrzQsoCount
        lastSync := some (fromDateTimeOffset now)
        qrzLogbookOwner := ownerToPersist metadata status }) with
  | .ok () => return counters
  | .error ex => return counters.addError ("Failed to update sync metadata: " ++ ex.message)

/-- The result of a sync that has come to its end. -/
def syncResult (metadata : SyncMetadata) (status : Except ApiException QrzLogbookStatus)
    (counters : SyncCounters) : SyncResult where
  downloadedCount := counters.downloaded
  uploadedCount := counters.uploaded
  conflictCount := counters.conflicts
  remoteQsoCount := status.toOption.map (·.qsoCount)
  remoteOwner := (ownerToPersist metadata status).filter fun owner => !NetText.isWhiteSpace owner
  errorSummary :=
    if counters.errors.isEmpty then none else some ("; ".intercalate counters.errors)
  remoteDeletesPushed := counters.remoteDeletesPushed
  deletesSkippedRemote := counters.deletesSkippedRemote
  duplicateReplaceCount := counters.duplicateReplaces

/-! ### The whole sync -/

/-- The metadata a sync starts from. -/
def readMetadata : NetProgram (SyncMetadata × SyncCounters) := do
  match ← logbook .getSyncMetadata with
  | .ok metadata => return (metadata, {})
  | .error ex => return ({}, { errors := ["Failed to read sync metadata: " ++ ex.message] })

/-- The book owner of the uploads. -/
def resolveBookOwner (metadata : SyncMetadata) (status : Except ApiException QrzLogbookStatus) :
    Option String :=
  match status with
  | .ok status =>
      if NetText.isWhiteSpace status.owner then
        metadata.qrzLogbookOwner.filter fun owner => !NetText.isWhiteSpace owner
      else some (Text.trim status.owner)
  | .error _ => metadata.qrzLogbookOwner.filter fun owner => !NetText.isWhiteSpace owner

/-- Phase 0.5: push linked corrections first, unless remote copies win. -/
def pushCorrections (policy : ConflictPolicy) (bookOwner : Option String) :
    NetProgram UploadPass :=
  if policy = .lastWriteWins then return {}
  else uploadPendingQsos bookOwner isLinkedCorrection

/-- The logids of the soft-deleted rows. -/
def deletedLogids (localQsosAll : List QsoRecord) : List String :=
  (localQsosAll.filter fun qso => qso.deletedAt.isSome).filterMap extractQrzLogid

/-- The active rows. -/
def activeRows (localQsosAll : List QsoRecord) : List QsoRecord :=
  localQsosAll.filter fun qso => qso.deletedAt.isNone

/-- What a sync knows when it begins to download. -/
structure SyncStart where
  metadata : SyncMetadata
  status : Except ApiException QrzLogbookStatus
  freshlyUploadedLogids : List String
  counters : SyncCounters

/-- The phases before the download. -/
def startSync (policy : ConflictPolicy) : NetProgram SyncStart := do
  let (metadata, counters) ← readMetadata
  let status ← qrzApi .getStatus
  let pass ← pushCorrections policy (resolveBookOwner metadata status)
  return {
    metadata
    status
    freshlyUploadedLogids := pass.uploadedLogids
    counters := counters.addPass pass }

/-- What the download loop is given. -/
def downloadContext (policy : ConflictPolicy) (start : SyncStart) (localQsosAll : List QsoRecord) :
    DownloadContext where
  deletedLogids := deletedLogids localQsosAll
  freshlyUploadedLogids := start.freshlyUploadedLogids
  policy

section Sync

-- `ToString("yyyy-MM-dd")` of the last sync
variable (formatDate : Timestamp → String)

/-- The date of an incremental fetch. -/
def sinceDate (fullSync : Bool) (localQsos : List QsoRecord) (metadata : SyncMetadata) :
    Option String :=
  if fullSync || localQsos.isEmpty then none else metadata.lastSync.map formatDate

/-- Phase 1; on the left when it ends the sync. -/
def download (fullSync : Bool) (policy : ConflictPolicy) (start : SyncStart) :
    NetProgram (SyncResult ⊕ SyncCounters) := do
  match ← logbook (.listQsos { sort := .oldestFirst, deletedFilter := .all }) with
  | .error ex =>
      return .inl { errorSummary := some ("Failed to load local QSOs: " ++ ex.message) }
  | .ok localQsosAll =>
      let localQsos := activeRows localQsosAll
      match ← qrzApi (.fetchQsos (sinceDate formatDate fullSync localQsos start.metadata)) with
      | .error ex =>
          return .inl { errorSummary := some ("Failed to fetch QSOs from QRZ: " ++ ex.message) }
      | .ok remoteQsos => do
          let st ← processRemotes (downloadContext policy start localQsosAll) remoteQsos
            { indexes := buildLocalIndexes localQsos, counters := start.counters }
          return .inr st.counters

/-- The phases behind the download. -/
def finishSync (metadata : SyncMetadata) (status : Except ApiException QrzLogbookStatus)
    (bookOwner : Option String) (counters : SyncCounters) : NetProgram SyncResult := do
  let pass ← uploadPendingQsos bookOwner isPendingUpload
  let counters ← pushPendingRemoteDeletes (counters.addPass pass)
  let counters ← storeMetadata metadata status counters
  return syncResult metadata status counters

/-- `ExecuteSyncAsync`. -/
def executeSync (fullSync : Bool) (policy : ConflictPolicy) : NetProgram SyncResult := do
  let start ← startSync policy
  match ← download formatDate fullSync policy start with
  | .inl result => return result
  | .inr counters =>
      finishSync start.metadata start.status (resolveBookOwner start.metadata start.status) counters

end Sync

end QsoRipper.DotNet
