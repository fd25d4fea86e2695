/-
QsoRipper/Server/Sync.lean

The QRZ sync as a program: upload the operator's corrections, download and
merge the remote logbook, upload what is still pending, push queued remote
deletes, refresh the sync metadata.

Every store write goes through one of three operations: `insert_qso` for a
remote record nobody matched, `update_qso_if_unchanged` against the snapshot a
decision was made on, and `update_qrz_sync_metadata` after an upload.
-/
import QsoRipper.Server.Matching
import QsoRipper.Server.Merge
import QsoRipper.Server.Upload

namespace QsoRipper

open Interaction

/-- `ConflictPolicy`. -/
inductive ConflictPolicy where
  | unspecified
  | lastWriteWins
  | flagForReview
  deriving DecidableEq

/-! ### Merging a matched record -/

/-- The answer to a compare-and-swap, counted. -/
def countSwap (answer : Except StorageError Bool) (counters swapped : SyncCounters)
    (failure : String) : SyncCounters :=
  match answer with
  | .ok true => swapped
  | .ok false => counters
  | .error error => counters.pushError (failure ++ error.toText)

/-- A download that went in. -/
def SyncCounters.download (counters : SyncCounters) : SyncCounters :=
  { counters with downloaded := counters.downloaded + 1 }

/-- The row a remote record overwrites a local one with. -/
def overwritten (mine remote : QsoRecord) (remoteLogid : Option String) : QsoRecord :=
  { mergeRemoteAuthoritative mine remote with
    localId := mine.localId
    syncStatus := SyncStatus.synced.toI32
    qrzLogid := remoteLogid.or mine.qrzLogid }

/-- A local-only row linked to the remote record it was found to be. -/
def linked (mine remote : QsoRecord) (remoteLogid : Option String) : QsoRecord :=
  { fillMissingRemoteEnrichment mine remote with
    syncStatus := SyncStatus.synced.toI32
    qrzLogid := remoteLogid.or mine.qrzLogid }

/-- A row marked for review. -/
def conflicted (mine : QsoRecord) : QsoRecord :=
  { mine with syncStatus := SyncStatus.conflict.toI32 }

/-- `resolve_modified_conflict`. -/
def resolveModifiedConflict (mine remote : QsoRecord) (policy : ConflictPolicy)
    (counters : SyncCounters) : Program SyncCounters :=
  match policy with
  | .lastWriteWins =>
      let localTs := mine.updatedAt.elim 0 (·.seconds)
      let remoteTs := remote.updatedAt.elim 0 (·.seconds)
      if localTs ≤ remoteTs then do
        let updated := overwritten mine remote (extractQrzLogid remote)
        let answer ← store (.updateQsoIfUnchanged mine updated)
        return countSwap answer counters counters.download
          ("Overwrite failed for " ++ mine.workedCallsign ++ ": ")
      else return counters
  | .unspecified | .flagForReview => do
      let answer ← store (.updateQsoIfUnchanged mine (conflicted mine))
      return countSwap answer counters { counters with conflicts := counters.conflicts + 1 }
        ("Conflict mark failed for " ++ mine.workedCallsign ++ ": ")

/-- `merge_with_local`. -/
def mergeWithLocal (mine : QsoRecord) (remoteLogid : Option String) (remote : QsoRecord)
    (policy : ConflictPolicy) (counters : SyncCounters) : Program SyncCounters :=
  match SyncStatus.tryFrom mine.syncStatus with
  | some .synced => do
      let answer ← store (.updateQsoIfUnchanged mine (overwritten mine remote remoteLogid))
      return countSwap answer counters counters.download
        ("Update failed for " ++ mine.workedCallsign ++ ": ")
  | some .localOnly => do
      let answer ← store (.updateQsoIfUnchanged mine (linked mine remote remoteLogid))
      return countSwap answer counters counters.download
        ("Link failed for " ++ mine.workedCallsign ++ ": ")
  | some .modified => resolveModifiedConflict mine remote policy counters
  | some .conflict | none => return counters

/-! ### The download loop -/

/-- What the download loop carries from record to record. -/
structure DownloadState where
  indexes : LocalIndexes
  counters : SyncCounters

/-- What the loop is given. -/
structure DownloadContext where
  deletedLogids : Finset String
  freshlyUploadedLogids : Finset String
  conflictPolicy : ConflictPolicy

/-- The row a remote record becomes when nothing matched it. -/
def newRow (remote : QsoRecord) (remoteLogid : Option String) (localId : String) : QsoRecord :=
  { remote with
    localId
    syncStatus := SyncStatus.synced.toI32
    qrzLogid := remoteLogid.or remote.qrzLogid }

/-- A row that takes a logid from a remote record has that logid. -/
theorem extractQrzLogid_taken {a remote : QsoRecord} {logid : String} {own : Option String}
    (h : extractQrzLogid remote = some logid)
    (ha : a.qrzLogid = (extractQrzLogid remote).or own) : extractQrzLogid a = some logid := by
  rw [h, Option.some_or] at ha
  exact extractQrzLogid_of_field ha (extractQrzLogid_ne_empty h)

/-- A new row has the logid of its remote record. -/
theorem extractQrzLogid_newRow (remote : QsoRecord) (localId : String) :
    extractQrzLogid (newRow remote (extractQrzLogid remote) localId) = extractQrzLogid remote := by
  cases h : extractQrzLogid remote with
  | some logid => rw [← h, extractQrzLogid_taken h rfl, h]
  | none =>
      rw [← h]
      refine extractQrzLogid_congr ?_ fun key hkey => rfl
      simp only [newRow, h, Option.none_or]

/-- The insert of `insert_new_remote_qso`: a row that went in is filed in the
indexes for the records after it. -/
def insertRow (newQso : QsoRecord) (remoteLogid : Option String) (st : DownloadState) :
    Program DownloadState := do
  match ← store (.insertQso newQso) with
  | .ok () =>
      return { indexes := st.indexes.add remoteLogid newQso, counters := st.counters.download }
  | .error error =>
      return { st with
        counters := st.counters.pushError
          ("Insert failed for " ++ newQso.workedCallsign ++ ": " ++ error.toText) }

/-- `insert_new_remote_qso`. -/
def insertNewRemoteQso (remote : QsoRecord) (remoteLogid : Option String) (st : DownloadState) :
    Program DownloadState :=
  if remote.localId.isEmpty then do
    let localId ← newLocalId
    insertRow (newRow remote remoteLogid localId) remoteLogid st
  else insertRow (newRow remote remoteLogid remote.localId) remoteLogid st

/-- Does a record lack what matching and storage need? -/
def isFragment (remote : QsoRecord) : Bool :=
  (Text.trim remote.workedCallsign).isEmpty || remote.utcTimestamp.isNone

/-- One record of `process_remote_qsos`. -/
def processRemoteQso (ctx : DownloadContext) (remote : QsoRecord) (st : DownloadState) :
    Program DownloadState :=
  let remoteLogid := extractQrzLogid remote
  if isFragment remote then return st
  else if remoteLogid.any fun logid => decide (logid ∈ ctx.freshlyUploadedLogids) then return st
  else if remoteLogid.any fun logid => decide (logid ∈ ctx.deletedLogids) then
    return { st with
      counters :=
        { st.counters with deletesSkippedRemote := st.counters.deletesSkippedRemote + 1 } }
  else
    match st.indexes.match remoteLogid remote with
    | none => insertNewRemoteQso remote remoteLogid st
    | some mine => do
        let counters ← mergeWithLocal mine remoteLogid remote ctx.conflictPolicy st.counters
        return { st with counters }

/-- `process_remote_qsos`. -/
def processRemoteQsos (ctx : DownloadContext) :
    List QsoRecord → DownloadState → Program DownloadState
  | [], st => return st
  | remote :: rest, st => do
      let st ← processRemoteQso ctx remote st
      processRemoteQsos ctx rest st

/-! ### The download phase -/

/-- Did an incremental fetch come back empty although QRZ has more records? -/
def needsFullFetch (remoteQsos : List QsoRecord) (sinceDate : Option String)
    (remoteQsoCount : Option ℕ) (localQsoCount : ℕ) : Bool :=
  remoteQsos.isEmpty && sinceDate.isSome
    && remoteQsoCount.any fun count => decide (localQsoCount < count)

/-- `fetch_remote_qsos_for_download`. -/
def fetchRemoteQsosForDownload (sinceDate : Option String) (remoteQsoCount : Option ℕ)
    (localQsoCount : ℕ) (counters : SyncCounters) :
    Program (Except QrzLogbookError (List QsoRecord)) := do
  match ← qrz (.fetchQsos sinceDate) with
  | .error error => return .error error
  | .ok remoteQsos =>
      if needsFullFetch remoteQsos sinceDate remoteQsoCount localQsoCount then do
        sendProgress "Incremental QRZ fetch was empty; retrying a full fetch…"
          counters.downloaded counters.uploaded counters.conflicts
        qrz (.fetchQsos none)
      else return .ok remoteQsos

section Chrono

-- `chrono`: a Unix time as a `%Y-%m-%d` date, when it is in range.
variable (formatDate : ℤ → Option String)

/-- The `MODSINCE` date of an incremental fetch. -/
def sinceDate (fullSync : Bool) (activeLocal : List QsoRecord) (metadata : SyncMetadata) :
    Option String :=
  if fullSync || activeLocal.isEmpty then none
  else metadata.lastSync.bind fun ts => formatDate ts.seconds

/-- `download_phase`; `none` when it has already reported its failure. -/
def downloadPhase (metadata : SyncMetadata) (remoteQsoCount : Option ℕ) (fullSync : Bool)
    (conflictPolicy : ConflictPolicy) (freshlyUploadedLogids : Finset String)
    (counters : SyncCounters) : Program (Option SyncCounters) := do
  sendProgress "Fetching QSOs from QRZ…" 0 0 0
  match ← store (.listQsos { deletedFilter := .all }) with
  | .error error => do
      sendComplete {} (some ("Failed to load local QSOs: " ++ error.toText))
      return none
  | .ok localQsos =>
      let (activeLocal, deletedLogids) := partitionLocalForSync localQsos
      let since := sinceDate formatDate fullSync activeLocal metadata
      match ← fetchRemoteQsosForDownload since remoteQsoCount activeLocal.length counters with
      | .error error => do
          sendComplete {} (some ("Failed to fetch QSOs from QRZ: " ++ error.toText))
          return none
      | .ok remoteQsos => do
          sendProgress ("Processing " ++ toString remoteQsos.length ++ " downloaded QSOs…")
            counters.downloaded counters.uploaded counters.conflicts
          let st ← processRemoteQsos { deletedLogids, freshlyUploadedLogids, conflictPolicy }
            remoteQsos { indexes := buildLocalIndexes activeLocal, counters }
          return some st.counters

end Chrono

/-! ### Queued remote deletes -/

/-- The row a confirmed remote delete leaves. -/
def cleared (current : QsoRecord) : QsoRecord :=
  { current with
    qrzLogid := none
    pendingRemoteDelete := false
    syncStatus :=
      if current.deletedAt.isNone then SyncStatus.localOnly.toI32 else current.syncStatus }

/-- `complete_remote_delete`, with the attempts that are left. -/
def completeRemoteDelete (deletedSnapshot : QsoRecord) :
    ℕ → Program (Except StorageError Bool)
  | 0 => return .ok false
  | attempts + 1 => do
      match ← store (.getQso deletedSnapshot.localId) with
      | .error error => return .error error
      | .ok none => return .ok false
      | .ok (some current) =>
          if current.qrzLogid ≠ deletedSnapshot.qrzLogid then return .ok true
          else
            match ← store (.updateQsoIfUnchanged current (cleared current)) with
            | .error error => return .error error
            | .ok true => return .ok true
            | .ok false => completeRemoteDelete deletedSnapshot attempts

/-- Is a remote delete queued for the row? -/
def awaitsRemoteDelete (qso : QsoRecord) : Bool :=
  qso.pendingRemoteDelete && !(Text.trim (qso.qrzLogid.getD "")).isEmpty

/-- The outcome of one queued remote delete, counted. -/
def countRemoteDelete (qso : QsoRecord) (outcome : Except StorageError Bool)
    (counters : SyncCounters) : SyncCounters :=
  match outcome with
  | .ok true => { counters with remoteDeletesPushed := counters.remoteDeletesPushed + 1 }
  | .ok false =>
      counters.pushError ("Remote delete cleared for " ++ qso.workedCallsign ++
        " could not be applied because the local QSO kept changing.")
  | .error error =>
      counters.pushError ("Remote delete cleared for " ++ qso.workedCallsign ++
        " failed locally: " ++ error.toText)

/-- The loop of `push_pending_remote_deletes`. -/
def pushRemoteDeletes : List QsoRecord → SyncCounters → Program SyncCounters
  | [], counters => return counters
  | qso :: rest, counters => do
      match ← qrz (.deleteQso (qso.qrzLogid.getD "")) with
      | .ok () =>
          let outcome ← completeRemoteDelete qso 3
          pushRemoteDeletes rest (countRemoteDelete qso outcome counters)
      | .error error =>
          pushRemoteDeletes rest (counters.pushError
            ("Remote delete failed for " ++ qso.workedCallsign ++ ": " ++ error.toText))

/-- `push_pending_remote_deletes`. -/
def pushPendingRemoteDeletes (counters : SyncCounters) : Program SyncCounters := do
  match ← store (.listQsos { deletedFilter := .deletedOnly }) with
  | .error error =>
      return counters.pushError ("List deleted QSOs failed: " ++ error.toText)
  | .ok candidates =>
      let pending := candidates.filter awaitsRemoteDelete
      if pending.isEmpty then return counters
      else do
        sendProgress ("Pushing " ++ toString pending.length ++ " queued remote delete(s)…")
          counters.downloaded counters.uploaded counters.conflicts
        pushRemoteDeletes pending counters

/-! ### Metadata -/

/-- The remote QSO count to store when `STATUS` failed. -/
def fallbackCount (prevMetadata : SyncMetadata) : Program ℕ := do
  match ← store .qsoCounts with
  | .ok counts => return counts.localQsoCount - counts.pendingUploadCount
  | .error _ => return prevMetadata.qrzQsoCount

/-- The count and owner to store, and the counters after that. -/
def remoteStatus (prevMetadata : SyncMetadata)
    (statusResult : Except QrzLogbookError QrzLogbookStatus) (counters : SyncCounters) :
    Program (ℕ × Option String × SyncCounters) :=
  match statusResult with
  | .ok status =>
      return (status.qsoCount,
        if status.owner.isEmpty then prevMetadata.qrzLogbookOwner else some status.owner, counters)
  | .error error => do
      let count ← fallbackCount prevMetadata
      return (count, prevMetadata.qrzLogbookOwner,
        counters.pushError ("STATUS refresh failed: " ++ error.toText))

/-- The end of `update_metadata`. -/
def storeMetadata (updated : SyncMetadata) (counters : SyncCounters) : Program SyncCounters := do
  match ← store (.upsertSyncMetadata updated) with
  | .ok () => return counters
  | .error error =>
      return counters.pushError ("Failed to update sync metadata: " ++ error.toText)

/-- `update_metadata`. -/
def updateMetadata (prevMetadata : SyncMetadata)
    (statusResult : Except QrzLogbookError QrzLogbookStatus) (counters : SyncCounters) :
    Program SyncCounters := do
  let now ← utcNow
  let (qrzQsoCount, qrzLogbookOwner, counters) ← remoteStatus prevMetadata statusResult counters
  storeMetadata
    { qrzQsoCount
      lastSync := some { seconds := now.seconds, nanos := 0 }
      qrzLogbookOwner
      lotwLastSync := prevMetadata.lotwLastSync
      lotwLastQsl := prevMetadata.lotwLastQsl }
    counters

/-! ### The whole sync -/

/-- The metadata a sync starts from. -/
def readMetadata : Program (SyncMetadata × SyncCounters) := do
  match ← store .getSyncMetadata with
  | .ok metadata => return (metadata, {})
  | .error error =>
      return ({}, ({} : SyncCounters).pushError
        ("Failed to read sync metadata: " ++ error.toText))

/-- The callsign uploads are rewritten for. -/
def bookOwnerFor (metadata : SyncMetadata)
    (statusResult : Except QrzLogbookError QrzLogbookStatus) : Option String :=
  ((match statusResult with
    | .ok status =>
        if (Text.trim status.owner).isEmpty then metadata.qrzLogbookOwner else some status.owner
    | .error _ => metadata.qrzLogbookOwner).map Text.trim).filter fun s => !s.isEmpty

/-- The upload that precedes the download, unless the policy compares times. -/
def uploadBeforeDownload (bookOwner : Option String) (conflictPolicy : ConflictPolicy)
    (counters : SyncCounters) : Program (Finset String × SyncCounters) :=
  if conflictPolicy = .lastWriteWins then return (∅, counters)
  else uploadPhase bookOwner .modifiedWithLogid counters

/-- The phases after a successful download. -/
def finishSync (bookOwner : Option String) (metadata : SyncMetadata)
    (statusResult : Except QrzLogbookError QrzLogbookStatus) (counters : SyncCounters) :
    Program Unit := do
  let (_, counters) ← uploadPhase bookOwner .pending counters
  let counters ← pushPendingRemoteDeletes counters
  let counters ← updateMetadata metadata statusResult counters
  sendComplete counters
    (if counters.errors.isEmpty then none else some ("; ".intercalate counters.errors))

/-- The download phase, and what follows it when it succeeds. -/
def downloadAndFinish (formatDate : ℤ → Option String) (fullSync : Bool)
    (conflictPolicy : ConflictPolicy) (metadata : SyncMetadata)
    (statusResult : Except QrzLogbookError QrzLogbookStatus) (freshlyUploadedLogids : Finset String)
    (counters : SyncCounters) : Program Unit := do
  let remoteQsoCount := statusResult.toOption.map (·.qsoCount)
  match ← downloadPhase formatDate metadata remoteQsoCount fullSync conflictPolicy
      freshlyUploadedLogids counters with
  | none => return ()
  | some counters =>
      finishSync (bookOwnerFor metadata statusResult) metadata statusResult counters

/-- `execute_sync`. -/
def executeSync (formatDate : ℤ → Option String) (fullSync : Bool)
    (conflictPolicy : ConflictPolicy) : Program Unit := do
  let (metadata, counters) ← readMetadata
  let statusResult ← qrz .fetchStatus
  let (freshlyUploadedLogids, counters) ←
    uploadBeforeDownload (bookOwnerFor metadata statusResult) conflictPolicy counters
  downloadAndFinish formatDate fullSync conflictPolicy metadata statusResult
    freshlyUploadedLogids counters

end QsoRipper
