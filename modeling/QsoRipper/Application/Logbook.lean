/-
QsoRipper/Application/Logbook.lean

The operator's side of the logbook: `LogbookEngine::log_qso`, `update_qso`,
`delete_qso` and `restore_qso`.  The last three are one `get_qso` followed by
one unconditional `update_qso` of the whole record, with nothing but the clock
in between; `OperatorCall.reads` states that shape together with everything
the written record keeps from the one that was read.
-/
import QsoRipper.Lib.ReadModifyWrite
import QsoRipper.Domain.Station
import QsoRipper.Ports

namespace QsoRipper

open Interaction

/-! ### Errors and validation -/

/-- `LogbookError`. -/
inductive LogbookError where
  | noActiveStationProfile
  | validation (message : String)
  | notFound (localId : String)
  | alreadyDeleted (localId : String)
  | storage (error : StorageError)
  deriving DecidableEq

/-- `normalize_qso_for_persistence`. -/
def normalizeQsoForPersistence (qso : QsoRecord) : QsoRecord :=
  { qso with
    stationCallsign := Text.toUppercase (Text.trim qso.stationCallsign)
    workedCallsign := Text.toUppercase (Text.trim qso.workedCallsign) }

/-- `validate_qso_for_persistence`: the first missing or invalid field. -/
def validateQsoForPersistence (qso : QsoRecord) : Option LogbookError :=
  if (Text.trim qso.stationCallsign).isEmpty then
    some (.validation "station_callsign is required.")
  else if (Text.trim qso.workedCallsign).isEmpty then
    some (.validation "worked_callsign is required.")
  else if qso.utcTimestamp.isNone then
    some (.validation "utc_timestamp is required.")
  else
    match Band.tryFrom qso.band with
    | some .unspecified => some (.validation "band is required.")
    | none => some (.validation "band is invalid.")
    | some _ =>
        match Mode.tryFrom qso.mode with
        | some .unspecified => some (.validation "mode is required.")
        | none => some (.validation "mode is invalid.")
        | some _ => none

/-- Is a logid present and not empty? -/
def hasLogid (qso : QsoRecord) : Bool := !(qso.qrzLogid.getD "").isEmpty

/-! ### Operations -/

/-- `log_qso`. -/
def logQso (qso : QsoRecord) : Program (Except LogbookError QsoRecord) :=
  let qso := normalizeQsoForPersistence (materializeStationSnapshotForCreate qso none)
  match validateQsoForPersistence qso with
  | some error => return .error error
  | none => do
      let localId ← if (Text.trim qso.localId).isEmpty then newLocalId else pure qso.localId
      let now ← utcNow
      let qso :=
        { qso with localId, createdAt := qso.createdAt.or (some now), updatedAt := some now }
      match ← store (.insertQso qso) with
      | .error error => return .error (.storage error)
      | .ok () => return .ok qso

/-- The fields `update_qso` takes back from the stored row before it
validates. -/
def carryStored (existing qso : QsoRecord) : QsoRecord :=
  { qso with
    localId := existing.localId
    stationCallsign := existing.stationCallsign
    stationSnapshot := existing.stationSnapshot
    deletedAt := existing.deletedAt
    pendingRemoteDelete := existing.pendingRemoteDelete
    lotwSent := existing.lotwSent
    lotwReceived := existing.lotwReceived
    lotwSentStatus := existing.lotwSentStatus
    lotwReceivedStatus := existing.lotwReceivedStatus
    lotwSentDate := existing.lotwSentDate
    lotwReceivedDate := existing.lotwReceivedDate
    lotwSyncStatus :=
      if existing.lotwSyncStatus = LotwSyncStatus.uploaded.toI32
          ∨ existing.lotwSyncStatus = LotwSyncStatus.confirmed.toI32 then
        LotwSyncStatus.modified.toI32
      else existing.lotwSyncStatus }

/-- The rest of the record `update_qso` writes, once it has validated. -/
def stampUpdate (existing qso : QsoRecord) (createdAt updatedAt : Timestamp) : QsoRecord :=
  { qso with
    createdAt := some createdAt
    updatedAt := some updatedAt
    syncStatus :=
      if existing.syncStatus = SyncStatus.synced.toI32 then SyncStatus.modified.toI32
      else existing.syncStatus
    qrzLogid := existing.qrzLogid
    qrzBookid := existing.qrzBookid }

/-- Write back and report, the way all three operations end. -/
def writeBack (localId : String) (qso : QsoRecord) : Program (Except LogbookError QsoRecord) := do
  match ← store (.updateQso qso) with
  | .error error => return .error (.storage error)
  | .ok false => return .error (.notFound localId)
  | .ok true => return .ok qso

/-- `update_qso`. -/
def updateQso (qso : QsoRecord) : Program (Except LogbookError QsoRecord) :=
  let localId := Text.trim qso.localId
  if localId.isEmpty then
    return .error (.validation "local_id is required when updating a QSO.")
  else do
    match ← store (.getQso localId) with
    | .error error => return .error (.storage error)
    | .ok none => return .error (.notFound localId)
    | .ok (some existing) =>
        if existing.deletedAt.isSome then return .error (.alreadyDeleted localId)
        else
          let qso := normalizeQsoForPersistence (carryStored existing { qso with localId })
          match validateQsoForPersistence qso with
          | some error => return .error error
          | none => do
              let createdAt ← match existing.createdAt with
                | some createdAt => pure createdAt
                | none => utcNow
              let updatedAt ← utcNow
              let qso := stampUpdate existing qso createdAt updatedAt
              writeBack qso.localId qso

/-- The row `delete_qso` writes. -/
def markDeleted (existing : QsoRecord) (now : Timestamp) (queueRemoteDelete : Bool) : QsoRecord :=
  { existing with
    deletedAt := existing.deletedAt.or (some now)
    pendingRemoteDelete :=
      existing.pendingRemoteDelete || (queueRemoteDelete && hasLogid existing)
    updatedAt := some now }

/-- `delete_qso`. -/
def deleteQso (localId : String) (queueRemoteDelete : Bool) :
    Program (Except LogbookError QsoRecord) :=
  if (Text.trim localId).isEmpty then
    return .error (.validation "local_id is required when deleting a QSO.")
  else do
    match ← store (.getQso localId) with
    | .error error => return .error (.storage error)
    | .ok none => return .error (.notFound localId)
    | .ok (some existing) =>
        let now ← utcNow
        writeBack localId (markDeleted existing now queueRemoteDelete)

/-- The row `restore_qso` writes. -/
def markRestored (existing : QsoRecord) (now : Timestamp) : QsoRecord :=
  { existing with
    deletedAt := none
    pendingRemoteDelete := false
    syncStatus :=
      if existing.deletedAt.isSome && existing.syncStatus == SyncStatus.synced.toI32
          && !hasLogid existing then
        SyncStatus.localOnly.toI32
      else existing.syncStatus
    updatedAt := some now }

/-- `restore_qso`. -/
def restoreQso (localId : String) : Program (Except LogbookError QsoRecord) :=
  if (Text.trim localId).isEmpty then
    return .error (.validation "local_id is required when restoring a QSO.")
  else do
    match ← store (.getQso localId) with
    | .error error => return .error (.storage error)
    | .ok none => return .error (.notFound localId)
    | .ok (some existing) =>
        let now ← utcNow
        writeBack localId (markRestored existing now)

/-! ### Operator calls -/

/-- A call of one of the operations that rewrite an existing row. -/
inductive OperatorCall where
  | update (qso : QsoRecord)
  | delete (localId : String) (queueRemoteDelete : Bool)
  | restore (localId : String)

namespace OperatorCall

/-- The program of a call. -/
def program : OperatorCall → Program (Except LogbookError QsoRecord)
  | update qso => updateQso qso
  | delete localId queueRemoteDelete => deleteQso localId queueRemoteDelete
  | restore localId => restoreQso localId

/-- The row a call is about. -/
def target : OperatorCall → String
  | update qso => Text.trim qso.localId
  | delete localId _ => localId
  | restore localId => localId

/-- What a call may write when it has read `existing`. -/
inductive Replaces : OperatorCall → QsoRecord → QsoRecord → Prop
  | update {qso existing written : QsoRecord} :
      existing.deletedAt = none → written.localId = existing.localId →
      written.qrzLogid = existing.qrzLogid → written.deletedAt = none →
      written.pendingRemoteDelete = existing.pendingRemoteDelete →
      written.syncStatus =
        (if existing.syncStatus = SyncStatus.synced.toI32 then SyncStatus.modified.toI32
          else existing.syncStatus) →
      Replaces (.update qso) existing written
  | delete {localId : String} {queueRemoteDelete : Bool} {existing : QsoRecord} (now : Timestamp) :
      Replaces (.delete localId queueRemoteDelete) existing
        (markDeleted existing now queueRemoteDelete)
  | restore {localId : String} {existing : QsoRecord} (now : Timestamp) :
      Replaces (.restore localId) existing (markRestored existing now)

variable {call : OperatorCall} {existing written : QsoRecord}

theorem Replaces.localId (h : call.Replaces existing written) :
    written.localId = existing.localId := by
  cases h with
  | update _ h => exact h
  | delete => rfl
  | restore => rfl

/-- No operator call changes the logid of the row it read. -/
theorem Replaces.qrzLogid (h : call.Replaces existing written) :
    written.qrzLogid = existing.qrzLogid := by
  cases h with
  | update _ _ h => exact h
  | delete => rfl
  | restore => rfl

/-- The commands of a call that do not concern the store. -/
def Quiet (c : Cmd) : Prop := c = .utcNow

/-- The write of a call, given the answer to its read. -/
def Write (call : OperatorCall) (answer : StoreCmd.Answer (.getQso call.target)) (c : Cmd) : Prop :=
  ∃ existing written, answer = .ok (some existing) ∧ call.Replaces existing written
    ∧ c = .store (.updateQso written)

theorem writeBack_writes {write : Cmd → Prop} {localId : String} {qso : QsoRecord}
    (h : write (.store (.updateQso qso))) : (writeBack localId qso).Writes Quiet write := by
  refine .write h fun r => ?_
  rcases r with e | b
  · trivial
  · cases b <;> trivial

theorem utcNow_writes {α : Type} {write : Cmd → Prop} {f : Timestamp → Program α}
    (h : ∀ now, (f now).Writes Quiet write) : (utcNow >>= f).Writes Quiet write :=
  .quiet rfl h

/-- **The shape of an operator call**: one read of its row, then at most one
unconditional write of a record derived from what it read. -/
theorem reads (call : OperatorCall) :
    call.program.Reads Quiet (.store (.getQso call.target)) call.Write := by
  cases call with
  | update qso =>
      show (updateQso qso).Reads _ _ _
      rw [updateQso]
      split
      · exact .pure _
      refine .read fun r => ?_
      rcases r with e | _ | existing
      · exact .pure _
      · exact .pure _
      show Prog.Writes Quiet _ (if existing.deletedAt.isSome then _ else _)
      split
      · exact .pure _
      rename_i hdel
      rw [Option.not_isSome_iff_eq_none] at hdel
      dsimp only
      split
      · exact .pure _
      have hw : ∀ createdAt updatedAt, Write (.update qso) (.ok (some existing))
          (.store (.updateQso (stampUpdate existing (normalizeQsoForPersistence
            (carryStored existing { qso with localId := Text.trim qso.localId }))
            createdAt updatedAt))) := by
        intro createdAt updatedAt
        refine ⟨existing, _, rfl, ?_, rfl⟩
        apply Replaces.update hdel <;>
          simp only [stampUpdate, normalizeQsoForPersistence, carryStored, hdel]
      cases existing.createdAt with
      | some createdAt => exact utcNow_writes fun updatedAt => writeBack_writes (hw _ _)
      | none =>
          exact utcNow_writes fun createdAt => utcNow_writes fun updatedAt =>
            writeBack_writes (hw _ _)
  | delete localId queueRemoteDelete =>
      show (deleteQso localId queueRemoteDelete).Reads _ _ _
      rw [deleteQso]
      split
      · exact .pure _
      refine .read fun r => ?_
      rcases r with e | _ | existing
      · exact .pure _
      · exact .pure _
      exact utcNow_writes fun now => writeBack_writes ⟨existing, _, rfl, .delete now, rfl⟩
  | restore localId =>
      show (restoreQso localId).Reads _ _ _
      rw [restoreQso]
      split
      · exact .pure _
      refine .read fun r => ?_
      rcases r with e | _ | existing
      · exact .pure _
      · exact .pure _
      exact utcNow_writes fun now => writeBack_writes ⟨existing, _, rfl, .restore now, rfl⟩

end OperatorCall

end QsoRipper
