/-
QsoRipper/Server/Upload.lean

Pushing one local QSO to QRZ, and the upload phases of a sync.  The local row
is never rewritten here: the upload works on the row as it was read, and its
outcome is patched onto whatever row is stored by then.
-/
import QsoRipper.Lib.ReadModifyWrite
import QsoRipper.Ports

namespace QsoRipper

open Interaction

/-! ### Progress -/

/-- `SyncCounters`. -/
structure SyncCounters where
  downloaded : ℕ := 0
  uploaded : ℕ := 0
  conflicts : ℕ := 0
  deletesSkippedRemote : ℕ := 0
  remoteDeletesPushed : ℕ := 0
  duplicateReplaces : ℕ := 0
  errors : List String := []
  deriving DecidableEq

/-- `counters.errors.push`. -/
def SyncCounters.pushError (counters : SyncCounters) (message : String) : SyncCounters :=
  { counters with errors := counters.errors ++ [message] }

/-- `send_progress`. -/
def sendProgress (action : String) (downloaded uploaded conflicts : ℕ) : Program Unit :=
  send
    { totalRecords := downloaded + uploaded
      processedRecords := downloaded + uploaded
      uploadedRecords := uploaded
      downloadedRecords := downloaded
      conflictRecords := conflicts
      currentAction := some action
      complete := false
      error := none
      remoteDeletesPushed := 0
      deletesSkippedRemote := 0
      duplicateReplaces := 0 }

/-- `send_complete`. -/
def sendComplete (counters : SyncCounters) (error : Option String) : Program Unit :=
  send
    { totalRecords := counters.downloaded + counters.uploaded
      processedRecords := counters.downloaded + counters.uploaded
      uploadedRecords := counters.uploaded
      downloadedRecords := counters.downloaded
      conflictRecords := counters.conflicts
      currentAction := some "Sync complete"
      complete := true
      error := error
      remoteDeletesPushed := counters.remoteDeletesPushed
      deletesSkippedRemote := counters.deletesSkippedRemote
      duplicateReplaces := counters.duplicateReplaces }

/-! ### One QSO -/

/-- `SyncOutcome`. -/
structure SyncOutcome where
  qso : QsoRecord
  wasDuplicateReplace : Bool

/-- `is_duplicate_error`. -/
def isDuplicateError (reason : String) : Bool :=
  Text.contains (Text.toAsciiLowercase reason) "duplicate"

/-- Retry an upload that QRZ refused as a duplicate. -/
def retryWithReplace (qso : QsoRecord) (bookOwner : Option String) :
    Program (Except String (QrzUploadResult × Bool)) := do
  match ← qrz (.uploadQsoWithReplace qso bookOwner) with
  | .error error => return .error ("QRZ upload failed (REPLACE retry): " ++ error.toText)
  | .ok result => return .ok (result, true)

/-- `upload_single_qso`. -/
def uploadSingleQso (qso : QsoRecord) (bookOwner : Option String) :
    Program (Except String (QrzUploadResult × Bool)) :=
  match qso.qrzLogid.filter fun s => !s.isEmpty with
  | some logid => do
      match ← qrz (.replaceQso logid qso bookOwner) with
      | .error error => return .error ("QRZ upload failed: " ++ error.toText)
      | .ok result => return .ok (result, false)
  | none => do
      match ← qrz (.uploadQso qso bookOwner) with
      | .error (.apiError reason) =>
          if isDuplicateError reason then retryWithReplace qso bookOwner
          else return .error ("QRZ upload failed: " ++ (QrzLogbookError.apiError reason).toText)
      | .error error => return .error ("QRZ upload failed: " ++ error.toText)
      | .ok result => return .ok (result, false)

/-- The end of `sync_single_qso`: patch the outcome onto the stored row. -/
def recordUpload (current : QsoRecord) (result : QrzUploadResult) (wasDuplicateReplace : Bool) :
    Program (Except String SyncOutcome) := do
  match ← store (.updateQrzSyncMetadata current.localId current.updatedAt result.logid) with
  | .error error =>
      return .error ("QRZ upload succeeded but local metadata update failed: " ++ error.toText)
  | .ok none =>
      return .error
        ("QRZ upload succeeded but local QSO '" ++ current.localId ++ "' no longer exists.")
  | .ok (some patched) => return .ok { qso := patched, wasDuplicateReplace }

/-- `sync_single_qso`. -/
def syncSingleQso (qso : QsoRecord) (bookOwner : Option String) :
    Program (Except String SyncOutcome) := do
  match ← store (.getQso qso.localId) with
  | .error error =>
      return .error ("QRZ sync failed to read current local QSO: " ++ error.toText)
  | .ok none =>
      return .error
        ("QRZ sync skipped because local QSO '" ++ qso.localId ++ "' no longer exists.")
  | .ok (some current) =>
      if current.deletedAt.isSome then
        return .error
          ("QRZ sync skipped because local QSO '" ++ current.localId ++ "' is deleted.")
      else
        match ← uploadSingleQso current bookOwner with
        | .error error => return .error error
        | .ok (result, wasDuplicateReplace) => recordUpload current result wasDuplicateReplace

/-! ### The upload phases -/

/-- `UploadSelection`. -/
inductive UploadSelection where
  | modifiedWithLogid
  | pending

/-- `should_upload_qso`. -/
def shouldUploadQso (qso : QsoRecord) : UploadSelection → Bool
  | .modifiedWithLogid =>
      qso.syncStatus == SyncStatus.modified.toI32 && qso.qrzLogid.any fun s => !s.isEmpty
  | .pending =>
      qso.syncStatus == SyncStatus.localOnly.toI32 || qso.syncStatus == SyncStatus.modified.toI32

/-- What one upload adds to the phase's results. -/
def countUpload (qso : QsoRecord) (outcome : Except String SyncOutcome)
    (uploadedLogids : Finset String) (counters : SyncCounters) : Finset String × SyncCounters :=
  match outcome with
  | .ok outcome =>
      (match outcome.qso.qrzLogid.filter fun s => !s.isEmpty with
        | some logid => insert logid uploadedLogids
        | none => uploadedLogids,
        { counters with
          uploaded := counters.uploaded + 1
          duplicateReplaces :=
            counters.duplicateReplaces + if outcome.wasDuplicateReplace then 1 else 0 })
  | .error error =>
      (uploadedLogids,
        counters.pushError ("Upload failed for " ++ qso.workedCallsign ++ ": " ++ error))

/-- The loop of `upload_phase`. -/
def uploadAll (bookOwner : Option String) :
    List QsoRecord → Finset String → SyncCounters → Program (Finset String × SyncCounters)
  | [], uploadedLogids, counters => return (uploadedLogids, counters)
  | qso :: rest, uploadedLogids, counters => do
      let outcome ← syncSingleQso qso bookOwner
      let (uploadedLogids, counters) := countUpload qso outcome uploadedLogids counters
      uploadAll bookOwner rest uploadedLogids counters

/-- `upload_phase`. -/
def uploadPhase (bookOwner : Option String) (selection : UploadSelection)
    (counters : SyncCounters) : Program (Finset String × SyncCounters) := do
  sendProgress "Uploading local QSOs to QRZ…" counters.downloaded counters.uploaded
    counters.conflicts
  match ← store (.listQsos {}) with
  | .ok qsos =>
      uploadAll bookOwner (qsos.filter fun qso => shouldUploadQso qso selection) ∅ counters
  | .error error =>
      uploadAll bookOwner [] ∅
        (counters.pushError ("Failed to list pending QSOs: " ++ error.toText))

end QsoRipper
