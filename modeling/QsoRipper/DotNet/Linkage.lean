/-
QsoRipper/DotNet/Linkage.lean

One upload of the managed engine against one operator call on the same row.
The gate of the engine serialises the operator's calls with each other; a sync
runs beside them, and patches the logid onto whatever is stored by then.

`UpdateQso` writes the whole record back and takes the logid from the copy it
has read; `DeleteQso` decides from its copy whether a remote delete is owed;
`RestoreQso` carries nothing over.
-/
import QsoRipper.DotNet.Logbook
import QsoRipper.DotNet.SyncRun
import QsoRipper.Lib.Amend

namespace QsoRipper.DotNet

open Interaction

/-! ### The store as one slot -/

/-- What a command makes of the store, if it may change it. -/
def storeAmend : NetCmd → Option (MemoryState → MemoryState)
  | .logbook (.getQso _) | .logbook (.listQsos _) | .logbook (.listQsoHistory _ _)
  | .logbook .getCounts | .logbook .getSyncMetadata => none
  | .logbook c => some fun s => (MemoryStorage.exec c s).2
  | _ => none

/-- Is the command the read of the row? -/
def isRowRead (localId : String) : NetCmd → Bool
  | .logbook (.getQso id) => decide (id = localId)
  | _ => false

/-- The store, read through the row under `localId`. -/
def storeSlot {ε : Type} (env : NetEnvironment ε) (localId : String) :
    Slot (netHandle env) MemoryState where
  value w := w.1
  read := .logbook (.getQso localId)
  isRead := isRowRead localId
  isRead_iff c := by
    cases c with
    | logbook c => cases c <;> simp [isRowRead]
    | _ => simp [isRowRead]
  answer s := MemoryStorage.getQso s localId
  answer_read _ := rfl
  amend := storeAmend
  amend_read := rfl
  value_step c w := by
    obtain ⟨s, e⟩ := w
    cases c with
    | logbook c => cases c <;> rfl
    | _ => rfl

/-! ### The upload -/

/-- The record a QRZ call sends. -/
def QrzApiCmd.sent : QrzApiCmd → Option QsoRecord
  | uploadQso qso _ | uploadQsoWithReplace qso _ | updateQso qso _ => some qso
  | _ => none

/-- The record a command uploads. -/
def sentRow : NetCmd → Option QsoRecord
  | .qrz c => c.sent
  | _ => none

/-- What an upload may issue, given the store it has read the row from. -/
inductive UploadSays (localId : String) (s : MemoryState) : NetCmd → Prop
  | read : UploadSays localId s (.logbook (.getQso localId))
  | remote {current : QsoRecord} {c : QrzApiCmd} :
      MemoryStorage.getQso s localId = .ok (some current) → c.sent = some current →
      UploadSays localId s (.qrz c)
  | patch {current : QsoRecord} {logid : NetText.NonBlank} :
      MemoryStorage.getQso s localId = .ok (some current) → current.deletedAt = none →
      UploadSays localId s
        (.logbook (.updateQrzSyncMetadata current.localId current.updatedAt logid.val))

section Upload

variable {ε : Type} {env : NetEnvironment ε} {qso : QsoRecord} {pass : UploadPass}

/-- The call that uploads a row sends that row and nothing else. -/
theorem uploadRow_sends (current : QsoRecord) (bookOwner : Option String) :
    (uploadRow current bookOwner).Emits fun c => ∃ q, c = .qrz q ∧ q.sent = some current := by
  rw [uploadRow]
  split
  · refine .bind (.call ⟨_, rfl, rfl⟩) fun r => ?_
    rcases r with ex | logid <;> exact .pure _
  · refine .bind (.call ⟨_, rfl, rfl⟩) fun r => ?_
    rcases r with (message | message) | logid
    · show Prog.Emits _ (if !hasLogid current && isDuplicateError message then _ else _)
      split
      · refine .bind (.call ⟨_, rfl, rfl⟩) fun r => ?_
        rcases r with ex | logid <;> exact .pure _
      · exact .pure _
    · exact .pure _
    · exact .pure _

/-- **The shape of an upload**: one read, remote calls with the row that was
read, then at most one patch. -/
theorem uploadOne_calls (bookOwner : Option String) (shouldUpload : QsoRecord → Bool) :
    (storeSlot env qso.localId).Calls (fun _ => True) (UploadSays qso.localId)
      (uploadOne bookOwner shouldUpload qso pass) := by
  refine .read (fun _ => .read) fun s _ => ?_
  have hanswer : (storeSlot env qso.localId).answer s = MemoryStorage.getQso s qso.localId := rfl
  rw [hanswer]
  rcases hread : MemoryStorage.getQso s qso.localId with ex | - | current
  · exact .pure _
  · exact .pure _
  show (storeSlot env qso.localId).Holds _ s
    (if current.deletedAt.isSome || !shouldUpload current then _ else _)
  split
  · exact .pure _
  rename_i hskip
  rw [Bool.or_eq_true, not_or, Option.not_isSome_iff_eq_none] at hskip
  refine .bind ((uploadRow_sends current bookOwner).mono ?_) fun outcome => ?_
  · rintro c ⟨q, rfl, hsent⟩
    exact ⟨rfl, .remote hread hsent⟩
  rcases outcome with ex | ⟨logid, replaced⟩
  · exact .pure _
  · refine .amend rfl (.patch hread hskip.1) fun r => ?_
    rcases r with ex | - | patched <;> trivial

/-- Whether something was sent: a patch comes after that. -/
def sendsFirst : Contract NetCmd NetCmd.Answer Bool where
  allowed sent c := (storeAmend c).isSome → sent = true
  next sent c _ := sent || (sentRow c).isSome

theorem uploadOne_sendsFirst (bookOwner : Option String) (shouldUpload : QsoRecord → Bool) :
    (uploadOne bookOwner shouldUpload qso pass).Obeys sendsFirst (fun _ _ => True) false := by
  have hpatch (current : QsoRecord) (logid : NetText.NonBlank) (replaced : Bool) :
      (recordUpload current logid replaced pass).Obeys sendsFirst (fun _ _ => True) true := by
    refine ⟨fun _ => rfl, fun r => ?_⟩
    rcases r with ex | - | patched <;> trivial
  have hrow (current : QsoRecord) :
      (uploadRow current bookOwner).Obeys sendsFirst (fun t _ => t = true) false := by
    rw [uploadRow]
    split
    · refine ⟨fun hsent => absurd hsent Bool.false_ne_true, fun r => ?_⟩
      rcases r with ex | logid <;> rfl
    · refine ⟨fun hsent => absurd hsent Bool.false_ne_true, fun r => ?_⟩
      rcases r with (message | message) | logid
      · show Prog.Obeys _ _ (if !hasLogid current && isDuplicateError message then _ else _) _
        split
        · refine ⟨fun hsent => absurd hsent Bool.false_ne_true, fun r => ?_⟩
          rcases r with ex | logid <;> rfl
        · rfl
      · rfl
      · rfl
  refine ⟨fun hsent => absurd hsent Bool.false_ne_true, fun r => ?_⟩
  rcases r with ex | - | current
  · trivial
  · trivial
  show Prog.Obeys _ _ (if current.deletedAt.isSome || !shouldUpload current then _ else _) _
  split
  · trivial
  · show Prog.Obeys _ _ (uploadRow current bookOwner >>= _) false
    rw [Prog.obeys_bind]
    refine (hrow current).mono fun t outcome ht => ?_
    subst ht
    rcases outcome with ex | ⟨logid, replaced⟩
    · trivial
    · exact hpatch current logid replaced

end Upload

/-! ### The operator calls -/

/-- An operator call that changes a stored record. -/
inductive OperatorCall where
  | update (qso : QsoRecord)
  | delete (localId : String) (queueRemoteDelete : Bool)
  | restore (localId : String)

/-- The row a call is about. -/
def OperatorCall.target : OperatorCall → String
  | update qso => Text.trim qso.localId
  | delete localId _ => Text.trim localId
  | restore localId => Text.trim localId

/-- The call as a program; an update does not ask for uploads of its own. -/
def OperatorCall.program (config : EngineConfig) : OperatorCall → NetProgram Unit
  | update qso => updateQso config (some qso) false false >>= fun _ => return ()
  | delete localId queueRemoteDelete => deleteQso localId queueRemoteDelete >>= fun _ => return ()
  | restore localId => restoreQso localId >>= fun _ => return ()

/-- `written` is the record an update of `existing` with `qso` writes, up to its
time stamps. -/
def Rewrites (existing qso written : QsoRecord) : Prop :=
  ∃ utcTimestamp updatedAt,
    written = { updatedRow existing qso with utcTimestamp, updatedAt := some updatedAt }

/-- What a call may issue, given the store it has read the row from. -/
inductive OperatorSays (call : OperatorCall) (s : MemoryState) : NetCmd → Prop
  | clock : OperatorSays call s .utcNow
  | read : OperatorSays call s (.logbook (.getQso call.target))
  | write {qso existing written : QsoRecord} :
      call = .update qso → MemoryStorage.getQso s call.target = .ok (some existing) →
      existing.deletedAt = none → Rewrites existing qso written →
      OperatorSays call s (.logbook (.updateQso written))
  | softDelete {id : String} {queueRemoteDelete : Bool} {existing : QsoRecord} {now : Ticks} :
      call = .delete id queueRemoteDelete →
      MemoryStorage.getQso s call.target = .ok (some existing) →
      OperatorSays call s
        (.logbook (.softDeleteQso call.target now (queueRemoteDelete && hasLogid existing)))
  | restore {id : String} :
      call = .restore id → OperatorSays call s (.logbook (.restoreQso call.target))

/-- The row under `localId`, if the store has it, is active. -/
def ActiveAt (localId : String) (s : MemoryState) : Prop :=
  ∀ r, s.get localId = some r → r.deletedAt = none

section Operator

variable {ε : Type} {env : NetEnvironment ε} {said : MemoryState → NetCmd → Prop}
  {s : MemoryState} {localId : String}

/-- A reading of the clock before the rest of a call. -/
theorem holds_timestampNow {α : Type} {f : Timestamp → NetProgram α} (hclock : said s .utcNow)
    (hf : ∀ ts, (storeSlot env localId).Holds said s (f ts)) :
    (storeSlot env localId).Holds said s (timestampNow >>= f) :=
  .still rfl hclock fun _ => hf _

/-- The stamps of a record that has its id. -/
theorem finalizeQsoForWrite_eq {qso : QsoRecord} (h : NetText.isWhiteSpace qso.localId = false) :
    finalizeQsoForWrite qso false = do
      let utcTimestamp ←
        if isTimestampUnset qso.utcTimestamp then some <$> timestampNow else pure qso.utcTimestamp
      let updatedAt ← timestampNow
      return { qso with utcTimestamp, updatedAt := some updatedAt } := by
  simp [finalizeQsoForWrite, h]

/-- What comes before the write of a record only reads the clock. -/
theorem holds_finalizeQsoForWrite {α : Type} {qso : QsoRecord} {f : QsoRecord → NetProgram α}
    (h : NetText.isWhiteSpace qso.localId = false) (hclock : said s .utcNow)
    (hf : ∀ utcTimestamp updatedAt, (storeSlot env localId).Holds said s
      (f { qso with utcTimestamp, updatedAt := some updatedAt })) :
    (storeSlot env localId).Holds said s (finalizeQsoForWrite qso false >>= f) := by
  rw [finalizeQsoForWrite_eq h]
  by_cases hunset : isTimestampUnset qso.utcTimestamp = true
  · rw [if_pos hunset]
    refine .still rfl hclock fun now => ?_
    exact holds_timestampNow hclock fun updatedAt => hf _ updatedAt
  · rw [if_neg hunset]
    exact holds_timestampNow hclock fun updatedAt => hf _ updatedAt

/-- An id under which a row was found is not blank. -/
theorem isWhiteSpace_of_getQso {r : QsoRecord} (h : MemoryStorage.getQso s localId = .ok (some r)) :
    NetText.isWhiteSpace r.localId = false := by
  have hid := (get_of_getQso h).2
  rw [MemoryStorage.getQso] at h
  split at h
  · cases h
  · rename_i hblank
    rw [Bool.not_eq_true, NetText.isWhiteSpace] at hblank
    rw [hid, NetText.isWhiteSpace, Text.trim_trim]
    exact hblank

theorem updateQso_calls (config : EngineConfig) (qso : QsoRecord) :
    (storeSlot env (Text.trim qso.localId)).Calls (fun _ => True) (OperatorSays (.update qso))
      ((OperatorCall.update qso).program config) := by
  rw [OperatorCall.program, updateQso, replaceQso]
  dsimp only
  split
  · exact .pure _
  refine .read (fun _ => .read) fun s _ => ?_
  have hanswer : (storeSlot env (Text.trim qso.localId)).answer s
      = MemoryStorage.getQso s (Text.trim qso.localId) := rfl
  rw [hanswer]
  rcases hread : MemoryStorage.getQso s (Text.trim qso.localId) with ex | - | existing
  · exact .pure _
  · exact .pure _
  show (storeSlot env _).Holds _ s (Prog.bind (Prog.bind
    (if existing.deletedAt.isSome then _ else _) _) _)
  split
  · exact .pure _
  rename_i hdel
  rw [Option.not_isSome_iff_eq_none] at hdel
  split
  · exact .pure _
  show (storeSlot env _).Holds _ s (((finalizeQsoForWrite (updatedRow existing qso) false
    >>= _) >>= _) >>= _)
  rw [Prog.bind_assoc, Prog.bind_assoc]
  have hid : NetText.isWhiteSpace existing.localId = false := isWhiteSpace_of_getQso hread
  refine holds_finalizeQsoForWrite hid .clock fun utcTimestamp updatedAt => ?_
  refine .amend rfl (.write rfl hread hdel ⟨utcTimestamp, updatedAt, rfl⟩) fun r => ?_
  -- nothing is uploaded, whatever the write has answered
  rcases r with ex | found <;> trivial

theorem deleteQso_calls (config : EngineConfig) (id : String) (queueRemoteDelete : Bool) :
    (storeSlot env (Text.trim id)).Calls (fun _ => True) (OperatorSays (.delete id queueRemoteDelete))
      ((OperatorCall.delete id queueRemoteDelete).program config) := by
  rw [OperatorCall.program, deleteQso]
  split
  · exact .pure _
  refine .read (fun _ => .read) fun s _ => ?_
  have hanswer : (storeSlot env (Text.trim id)).answer s
      = MemoryStorage.getQso s (Text.trim id) := rfl
  rw [hanswer]
  rcases hread : MemoryStorage.getQso s (Text.trim id) with ex | - | existing
  · exact .pure _
  · exact .pure _
  refine .still rfl .clock fun now => ?_
  refine .amend rfl (.softDelete rfl hread) fun r => ?_
  rcases r with ex | found <;> trivial

/-- A restore of an active row has nothing to demote. -/
theorem restoreQso_calls (config : EngineConfig) (id : String) :
    (storeSlot env (Text.trim id)).Calls (ActiveAt (Text.trim id)) (OperatorSays (.restore id))
      ((OperatorCall.restore id).program config) := by
  rw [OperatorCall.program, restoreQso]
  split
  · exact .pure _
  refine .read (fun _ => .read) fun s hactive => ?_
  have hanswer : (storeSlot env (Text.trim id)).answer s
      = MemoryStorage.getQso s (Text.trim id) := rfl
  rw [hanswer]
  rcases hread : MemoryStorage.getQso s (Text.trim id) with ex | - | existing
  · exact .pure _
  · exact .pure _
  have hdel : existing.deletedAt = none := by
    obtain ⟨hget, hid⟩ := get_of_getQso hread
    rw [hid, Text.trim_trim] at hget
    exact hactive existing hget
  refine .amend rfl (.restore rfl) fun r => ?_
  rcases r with ex | found
  · trivial
  show Prog.Emits _ (((demoteRestored existing (Text.trim id) >>= _) >>= _))
  rw [demoteRestored, hdel]
  refine ⟨⟨rfl, .read⟩, fun r => ?_⟩
  rcases r with ex | restored <;> trivial

/-- **The shape of an operator call** on an active row: one read, then at most
one write. -/
theorem OperatorCall.calls (config : EngineConfig) (call : OperatorCall) :
    (storeSlot env call.target).Calls (ActiveAt call.target) (OperatorSays call)
      (call.program config) := by
  have hweaken {said : MemoryState → NetCmd → Prop} {p : NetProgram Unit}
      (hp : (storeSlot env call.target).Calls (fun _ => True) said p) :
      (storeSlot env call.target).Calls (ActiveAt call.target) said p :=
    hp.mono fun _ _ => trivial
  cases call with
  | update qso => exact hweaken (updateQso_calls config qso)
  | delete id queueRemoteDelete => exact hweaken (deleteQso_calls config id queueRemoteDelete)
  | restore id => exact restoreQso_calls config id

end Operator

/-! ### What is kept -/

/-- A record without the fields `UpdateQso` takes from the stored row, and
without the time stamp it sets. -/
def callerOwned (r : QsoRecord) : QsoRecord :=
  { r with
    localId := ""
    stationCallsign := ""
    stationSnapshot := none
    createdAt := none
    updatedAt := none
    qrzLogid := none
    qrzBookid := none
    deletedAt := none
    pendingRemoteDelete := false
    lotwSent := none
    lotwReceived := none
    lotwSentStatus := 0
    lotwReceivedStatus := 0
    lotwSentDate := none
    lotwReceivedDate := none
    lotwSyncStatus := 0
    syncStatus := 0 }

/-- Does the call ask for the contact to be deleted from QRZ? -/
def OperatorCall.queuesRemoteDelete : OperatorCall → Bool
  | delete _ queueRemoteDelete => queueRemoteDelete
  | _ => false

/-- The records an upload has sent. -/
def sentRows (ms : List (Move NetCmd NetCmd.Answer)) : List QsoRecord :=
  (Slot.commands true ms).filterMap sentRow

/-- The linkage of an upload of `uploaded` with the logid `logid` has survived in
the row. -/
structure KeepsLinkage (call : OperatorCall) (uploaded : List QsoRecord) (logid : String)
    (r : QsoRecord) : Prop where
  qrzLogid : r.qrzLogid = some logid
  pending : r.deletedAt.isSome → call.queuesRemoteDelete = true → r.pendingRemoteDelete = true
  uploaded : r.syncStatus = SyncStatus.synced.toI32 →
    ∀ u ∈ uploaded, callerOwned r = callerOwned u

/-- What a call that wrote from its copy `existing` needs of it. -/
def OperatorCall.Carries (existing : QsoRecord) (logid : String) : OperatorCall → Prop
  | update _ => existing.qrzLogid = some logid
  | delete _ queueRemoteDelete => queueRemoteDelete = true → hasLogid existing = true
  | restore _ => True

/-- What a write of a call makes of the row `r`, when it had read `existing`. -/
inductive Written (call : OperatorCall) (existing r : QsoRecord) : NetCmd → QsoRecord → Prop
  | update {qso written : QsoRecord} :
      call = .update qso → Rewrites existing qso written →
      Written call existing r (.logbook (.updateQso written)) written
  | softDelete {id : String} {queueRemoteDelete : Bool} {now : Ticks} :
      call = .delete id queueRemoteDelete →
      Written call existing r
        (.logbook (.softDeleteQso call.target now (queueRemoteDelete && hasLogid existing)))
        { r with
          deletedAt := some (fromDateTimeOffset now)
          pendingRemoteDelete := queueRemoteDelete && hasLogid existing }
  | restore {id : String} :
      call = .restore id →
      Written call existing r (.logbook (.restoreQso call.target))
        { r with deletedAt := none, pendingRemoteDelete := false }

section Rows

open MemoryStorage (patchSyncMetadata)

variable (r : QsoRecord) (expected : Option Timestamp) (logid : String)

@[simp] theorem localId_patchSyncMetadata :
    (patchSyncMetadata r expected logid).localId = r.localId := by
  rw [patchSyncMetadata]
  split <;> rfl

@[simp] theorem qrzLogid_patchSyncMetadata :
    (patchSyncMetadata r expected logid).qrzLogid = some logid := by
  rw [patchSyncMetadata]
  split <;> rfl

@[simp] theorem deletedAt_patchSyncMetadata :
    (patchSyncMetadata r expected logid).deletedAt = r.deletedAt := by
  rw [patchSyncMetadata]
  split <;> rfl

@[simp] theorem callerOwned_patchSyncMetadata :
    callerOwned (patchSyncMetadata r expected logid) = callerOwned r := by
  rw [patchSyncMetadata]
  split <;> rfl

/-- A tombstone gets its remote delete queued. -/
theorem pending_patchSyncMetadata (h : r.deletedAt.isSome) :
    (patchSyncMetadata r expected logid).pendingRemoteDelete = true := by
  rw [patchSyncMetadata]
  rw [if_pos h]

/-- A row becomes synced when it is active and as old as expected. -/
theorem synced_patchSyncMetadata :
    (patchSyncMetadata r expected logid).syncStatus = SyncStatus.synced.toI32
      ↔ r.deletedAt = none ∧ r.updatedAt = expected := by
  have hne : ¬ (if r.syncStatus ≠ SyncStatus.conflict.toI32 then SyncStatus.modified.toI32
      else r.syncStatus) = SyncStatus.synced.toI32 := by
    split
    · decide
    · rename_i h
      rw [not_not] at h
      rw [h]
      decide
  rw [patchSyncMetadata]
  by_cases hdel : r.deletedAt.isSome = true
  · rw [if_pos hdel]
    refine iff_of_false hne fun h => ?_
    rw [h.1] at hdel
    cases hdel
  · rw [if_neg hdel]
    have hnone : r.deletedAt = none := Option.not_isSome_iff_eq_none.mp hdel
    by_cases hold : r.updatedAt = expected
    · exact iff_of_true (if_pos hold) ⟨hnone, hold⟩
    · refine iff_of_false (fun h => hne ?_) fun h => hold h.2
      have hstatus := if_neg hold ▸ h
      exact hstatus

variable {r} {call : OperatorCall} {existing r' : QsoRecord} {c : NetCmd}

theorem not_synced_updatedRow (existing qso : QsoRecord) :
    (updatedRow existing qso).syncStatus ≠ SyncStatus.synced.toI32 := by
  show (if existing.syncStatus = SyncStatus.synced.toI32 then SyncStatus.modified.toI32
    else existing.syncStatus) ≠ SyncStatus.synced.toI32
  split
  · decide
  · assumption

theorem Written.localId (hw : Written call existing r c r') (hid : existing.localId = r.localId) :
    r'.localId = r.localId := by
  cases hw with
  | update _ hrw =>
      obtain ⟨utcTimestamp, updatedAt, rfl⟩ := hrw
      exact hid
  | softDelete => rfl
  | restore => rfl

/-- The call writes after the upload has patched the row. -/
theorem Written.keepsLinkage_iff {uploaded : List QsoRecord}
    (hw : Written call existing (patchSyncMetadata r expected logid) c r')
    (hdel : existing.deletedAt = none) (hsent : ∀ u ∈ uploaded, u = r) :
    KeepsLinkage call uploaded logid r' ↔ call.Carries existing logid := by
  cases hw with
  | @update qso written hcall hrw =>
      obtain ⟨utcTimestamp, updatedAt, rfl⟩ := hrw
      subst hcall
      constructor
      · intro hkeeps
        exact hkeeps.qrzLogid
      · intro hcarries
        refine ⟨hcarries, fun hsome => ?_, fun hsynced => ?_⟩
        · rw [show (updatedRow existing qso).deletedAt = existing.deletedAt from rfl, hdel] at hsome
          cases hsome
        · exact absurd hsynced (not_synced_updatedRow existing qso)
  | @softDelete id queueRemoteDelete now hcall =>
      subst hcall
      constructor
      · intro hkeeps hqueue
        have hpending := hkeeps.pending rfl hqueue
        rw [Bool.and_eq_true] at hpending
        exact hpending.2
      · intro hcarries
        refine ⟨qrzLogid_patchSyncMetadata .., fun _ hqueue => ?_, fun _ u hu => ?_⟩
        · have hqueue : queueRemoteDelete = true := hqueue
          rw [hqueue, hcarries hqueue]
          rfl
        · rw [hsent u hu]
          exact callerOwned_patchSyncMetadata r expected logid
  | @restore id hcall =>
      subst hcall
      refine iff_of_true ⟨qrzLogid_patchSyncMetadata .., nofun, fun _ u hu => ?_⟩ trivial
      rw [hsent u hu]
      exact callerOwned_patchSyncMetadata r expected logid

/-- The upload patches the row that the call has written over the uploaded one. -/
theorem Written.keepsLinkage_patch_iff {uploaded : List QsoRecord}
    (hw : Written call r r c r') (hact : r.deletedAt = none) (hsent : ∀ u ∈ uploaded, u = r)
    (hmem : r ∈ uploaded) :
    KeepsLinkage call uploaded logid (patchSyncMetadata r' r.updatedAt logid)
      ↔ ∀ written, c = .logbook (.updateQso written) → written.updatedAt = r.updatedAt →
          callerOwned written = callerOwned r := by
  constructor
  · rintro ⟨-, -, hup⟩ written rfl hold
    cases hw with
    | update hcall hrw =>
        have hdel : r'.deletedAt = none := by
          obtain ⟨utcTimestamp, updatedAt, rfl⟩ := hrw
          exact hact
        have hsame := hup ((synced_patchSyncMetadata ..).mpr ⟨hdel, hold⟩) r hmem
        rwa [callerOwned_patchSyncMetadata] at hsame
  · intro hsame
    refine ⟨qrzLogid_patchSyncMetadata .., fun hdel _ => ?_, fun hsynced u hu => ?_⟩
    · rw [deletedAt_patchSyncMetadata] at hdel
      exact pending_patchSyncMetadata _ _ _ hdel
    · obtain ⟨hdel, hold⟩ := (synced_patchSyncMetadata ..).mp hsynced
      rw [hsent u hu, callerOwned_patchSyncMetadata]
      cases hw with
      | update => exact hsame _ rfl hold
      | softDelete => cases hdel
      | restore => rfl

/-- The logid of the patch is there for the call to carry. -/
theorem carries_patchSyncMetadata (call : OperatorCall) (hlogid : NetText.isWhiteSpace logid = false) :
    call.Carries (patchSyncMetadata r expected logid) logid := by
  cases call with
  | update qso => exact qrzLogid_patchSyncMetadata ..
  | delete id queueRemoteDelete =>
      intro _
      rw [hasLogid, qrzLogid_patchSyncMetadata]
      simp [NetText.isNullOrWhiteSpace, hlogid]
  | restore id => trivial

/-- The upload has read what the call has written. -/
theorem keepsLinkage_patch {uploaded : List QsoRecord} (hact : r.deletedAt = none)
    (hsent : ∀ u ∈ uploaded, u = r) :
    KeepsLinkage call uploaded logid (patchSyncMetadata r expected logid) where
  qrzLogid := qrzLogid_patchSyncMetadata ..
  pending hdel _ := by
    rw [deletedAt_patchSyncMetadata, hact] at hdel
    cases hdel
  uploaded _ u hu := by
    rw [hsent u hu]
    exact callerOwned_patchSyncMetadata r expected logid

end Rows

@[simp] theorem OperatorCall.trim_target (call : OperatorCall) :
    Text.trim call.target = call.target := by
  cases call <;> exact Text.trim_trim _

/-! ### The run -/

/-- What decides: where the patch and the operator's write fall. -/
structure Harmless (call : OperatorCall) (r₀ : QsoRecord) (logid : String)
    (ms : List (Move NetCmd NetCmd.Answer)) (history : List (Bool × SlotMove)) : Prop where
  /-- Where the patch falls between the operator's read and write, the copy read
  had the logid the write needs. -/
  overtaken : Slot.Straddled history true → call.Carries r₀ logid
  /-- Where an update falls between the upload's read and its patch, it changed
  nothing or came with another time stamp. -/
  rewritten : Slot.Straddled history false →
    ∀ written, .logbook (.updateQso written) ∈ Slot.commands false ms →
      written.updatedAt = r₀.updatedAt → callerOwned written = callerOwned r₀

/-- What the upload (`true`) and the call (`false`) may issue. -/
def saying (call : OperatorCall) : Bool → MemoryState → NetCmd → Prop
  | true => UploadSays call.target
  | false => OperatorSays call

/-- The stores they cope with. -/
def coping (call : OperatorCall) : Bool → MemoryState → Prop
  | true => fun _ => True
  | false => ActiveAt call.target

section Run

open MemoryStorage (patchSyncMetadata)

variable {ε : Type} {env : NetEnvironment ε} {call : OperatorCall} {s v : MemoryState}
  {r current : QsoRecord} {c : NetCmd}

/-- The row that was read, when the store has it. -/
theorem eq_of_getQso {localId : String} (htrim : Text.trim localId = localId)
    (h : MemoryStorage.getQso s localId = .ok (some current)) : s.get localId = some current := by
  obtain ⟨hget, hid⟩ := get_of_getQso h
  rwa [hid, htrim] at hget

/-- An upload that amends has found the row. -/
theorem UploadSays.exists_row {localId : String} (hspeaks : UploadSays localId s c)
    (hamend : (storeAmend c).isSome) (htrim : Text.trim localId = localId) :
    ∃ current, s.get localId = some current := by
  cases hspeaks with
  | read => cases hamend
  | remote => cases hamend
  | patch hread => exact ⟨_, eq_of_getQso htrim hread⟩

/-- It has looked under an id that is not blank. -/
theorem UploadSays.not_blank {localId : String} (hspeaks : UploadSays localId s c)
    (hamend : (storeAmend c).isSome) (htrim : Text.trim localId = localId) :
    NetText.isWhiteSpace localId = false := by
  cases hspeaks with
  | read => cases hamend
  | remote => cases hamend
  | patch hread =>
      have hid := MemoryState.localId_of_get (eq_of_getQso htrim hread)
      rw [← hid]
      exact isWhiteSpace_of_getQso hread

/-- An amendment of an upload is the patch. -/
theorem UploadSays.amend {localId : String} (hspeaks : UploadSays localId s c)
    (hamend : (storeAmend c).isSome) (htrim : Text.trim localId = localId)
    (hrow : s.get localId = some current) :
    current.deletedAt = none ∧ ∃ logid : NetText.NonBlank,
      c = .logbook (.updateQrzSyncMetadata localId current.updatedAt logid.val)
      ∧ ∀ v r, v.get localId = some r → ((storeSlot env localId).applied c v).get localId
          = some (patchSyncMetadata r current.updatedAt logid.val) := by
  cases hspeaks with
  | read => cases hamend
  | remote => cases hamend
  | @patch row logid hread hdel =>
      obtain rfl : row = current := Option.some.inj ((eq_of_getQso htrim hread).symm.trans hrow)
      have hid : row.localId = localId := MemoryState.localId_of_get hrow
      have hblank : NetText.isWhiteSpace localId = false := by
        rw [← hid]
        exact isWhiteSpace_of_getQso hread
      rw [hid]
      refine ⟨hdel, logid, rfl, fun v r hr => ?_⟩
      show (MemoryStorage.updateQrzSyncMetadata v localId row.updatedAt logid.val).2.get localId = _
      rw [MemoryStorage.updateQrzSyncMetadata, hblank, logid.property, if_neg (by decide), htrim, hr]
      dsimp only
      rw [MemoryState.get_put, localId_patchSyncMetadata,
        if_pos (MemoryState.localId_of_get hr)]

/-- An amendment of the call writes the row. -/
theorem OperatorSays.amend (hspeaks : OperatorSays call s c) (hamend : (storeAmend c).isSome)
    (hblank : NetText.isWhiteSpace call.target = false)
    (hrow : s.get call.target = some current) (hr : v.get call.target = some r) :
    ∃ r', Written call current r c r'
      ∧ ((storeSlot env call.target).applied c v).get call.target = some r' := by
  have hid : r.localId = call.target := MemoryState.localId_of_get hr
  have hamended (f : QsoRecord → QsoRecord) (hf : (f r).localId = r.localId) :
      (MemoryStorage.amend v call.target f).2.get call.target = some (f r) := by
    rw [MemoryStorage.amend, hblank, if_neg (by decide), call.trim_target, hr]
    dsimp only
    rw [MemoryState.get_put, if_pos (hf.trans hid)]
  cases hspeaks with
  | clock => cases hamend
  | read => cases hamend
  | @write qso existing written hcall hread hdel hrw =>
      obtain rfl : existing = current := Option.some.inj ((eq_of_getQso call.trim_target hread).symm.trans hrow)
      have hw : Written call existing r (.logbook (.updateQso written)) written := .update hcall hrw
      have hwid : written.localId = call.target :=
        (hw.localId ((MemoryState.localId_of_get hrow).trans hid.symm)).trans hid
      refine ⟨written, hw, ?_⟩
      show (MemoryStorage.updateQso v written).2.get call.target = _
      rw [MemoryStorage.updateQso, hwid, hr, if_pos (by rfl)]
      dsimp only
      rw [MemoryState.get_put, if_pos hwid]
  | @softDelete id queueRemoteDelete existing now hcall hread =>
      obtain rfl : existing = current := Option.some.inj ((eq_of_getQso call.trim_target hread).symm.trans hrow)
      exact ⟨_, .softDelete hcall, hamended _ rfl⟩
  | restore hcall => exact ⟨_, .restore hcall, hamended _ rfl⟩

variable {config : EngineConfig} {bookOwner : Option String} {shouldUpload : QsoRecord → Bool}
  {qso r₀ : QsoRecord} {pass : UploadPass} {w : NetWorld ε} {ms : List (Move NetCmd NetCmd.Answer)}
  {q : Pool NetCmd NetCmd.Answer (NetWorld ε) UploadPass Unit}

/-- Before its patch the upload has sent something. -/
theorem exists_sentRow {others : List (NetProgram Unit)}
    (hrun : Pool.Run (netHandle env) ⟨uploadOne bookOwner shouldUpload qso pass, others, w⟩ ms q)
    (hc : c ∈ Slot.commands true ms) (hamend : (storeAmend c).isSome) :
    ∃ u, u ∈ sentRows ms := by
  have hobeys : (uploadOne bookOwner shouldUpload qso pass).Obeys sendsFirst (fun _ _ => True) false :=
    uploadOne_sendsFirst bookOwner shouldUpload
  have hstart : (false = true → ∃ u, u ∈ sentRows [])
      ∧ ∀ c ∈ Slot.commands true ([] : List (Move NetCmd NetCmd.Answer)),
        (storeAmend c).isSome → ∃ u, u ∈ sentRows [] :=
    ⟨fun h => absurd h (by decide), fun _ hc => absurd hc List.not_mem_nil⟩
  have hall := hrun.keeps (K := sendsFirst) (t := false) (Q := fun _ _ => True)
    (J := fun t ms _ _ => (t = true → ∃ u, u ∈ sentRows ms)
      ∧ ∀ c ∈ Slot.commands true ms, (storeAmend c).isSome → ∃ u, u ∈ sentRows ms)
    ?_ ?_ hobeys hstart
  · exact hall.2 c hc hamend
  · intro t ms others w c ⟨hsent, hpatched⟩ hallowed
    have hsnoc : Slot.commands true (ms ++ [Move.main ⟨c, (netHandle env c w).1⟩])
        = Slot.commands true ms ++ [c] := by
      simp [Slot.commands]
    have hmore : (∃ u, u ∈ sentRows ms) →
        ∃ u, u ∈ sentRows (ms ++ [Move.main ⟨c, (netHandle env c w).1⟩]) := by
      rintro ⟨u, hu⟩
      refine ⟨u, ?_⟩
      rw [sentRows, hsnoc, List.filterMap_append]
      exact List.mem_append_left _ hu
    refine ⟨fun hnext => ?_, fun c' hc' hamend => ?_⟩
    · have hnext : (t || (sentRow c).isSome) = true := hnext
      rw [Bool.or_eq_true] at hnext
      rcases hnext with ht | hnow
      · exact hmore (hsent ht)
      · obtain ⟨u, hu⟩ := Option.isSome_iff_exists.mp hnow
        refine ⟨u, ?_⟩
        rw [sentRows, hsnoc, List.filterMap_append]
        simp [hu]
    · rw [hsnoc, List.mem_append, List.mem_singleton] at hc'
      rcases hc' with hc' | rfl
      · exact hmore (hpatched c' hc' hamend)
      · exact hmore (hsent (hallowed hamend))
  · intro t ms i e q r hj _
    have hsnoc : Slot.commands true (ms ++ [Move.other i e]) = Slot.commands true ms := by
      simp [Slot.commands]
    rw [sentRows, hsnoc]
    exact hj

/-- After the patch a row that was active is still there for a restore. -/
theorem coping_after (hrow : w.1.get call.target = some r₀) (hact : r₀.deletedAt = none) (p : Bool)
    (c : NetCmd) (hc : saying call (!p) w.1 c) :
    coping call p ((storeSlot env call.target).applied c w.1) := by
  cases p with
  | true => trivial
  | false =>
      intro r hr
      by_cases hamend : (storeAmend c).isSome = true
      · obtain ⟨-, logid, -, hpatched⟩ :=
          UploadSays.amend hc hamend call.trim_target hrow
        have hrow' := hpatched w.1 r₀ hrow
        obtain rfl := Option.some.inj (hr.symm.trans hrow')
        rw [deletedAt_patchSyncMetadata]
        exact hact
      · have hsame : (storeSlot env call.target).applied c w.1 = w.1 := by
          show (storeAmend c).elim w.1 (fun f => f w.1) = w.1
          rw [Option.not_isSome_iff_eq_none.mp hamend]
          rfl
        rw [hsame, hrow] at hr
        cases hr
        exact hact

theorem exists_get {P : QsoRecord → Prop} {id : String} (h : s.get id = some r) :
    (∃ r, s.get id = some r ∧ P r) ↔ P r := by
  rw [h]
  simp

/-- The upload comes first, then the call. -/
theorem keepsLinkage_uploadFirst {s₁ : MemoryState} {history : List (Bool × SlotMove)}
    {uploaded : List QsoRecord} {logid : NetText.NonBlank}
    (hblank : NetText.isWhiteSpace call.target = false) (hrow : s.get call.target = some r₀)
    (hact : r₀.deletedAt = none)
    (hrow' : s₁.get call.target = some (patchSyncMetadata r₀ r₀.updatedAt logid.val))
    (hspeaks : OperatorSays call v c) (hamend : (storeAmend c).isSome)
    (hsent : ∀ u ∈ uploaded, u = r₀)
    (hv : v = s ∧ Slot.Straddled history true ∨ v = s₁ ∧ ¬ Slot.Straddled history true)
    (hns : ¬ Slot.Straddled history false) :
    (∃ r, ((storeSlot env call.target).applied c s₁).get call.target = some r
        ∧ KeepsLinkage call uploaded logid.val r)
      ↔ Harmless call r₀ logid.val ms history := by
  rcases hv with ⟨rfl, hstr⟩ | ⟨rfl, hnot⟩
  · -- the call writes from the copy without the logid
    obtain ⟨r', hw, hr'⟩ := hspeaks.amend hamend hblank hrow hrow'
    rw [exists_get hr', hw.keepsLinkage_iff _ _ hact hsent]
    constructor
    · intro hcarries
      exact ⟨fun _ => hcarries, fun h => absurd h hns⟩
    · intro h
      exact h.overtaken hstr
  · obtain ⟨r', hw, hr'⟩ := hspeaks.amend hamend hblank hrow' hrow'
    have hdel' : (patchSyncMetadata r₀ r₀.updatedAt logid.val).deletedAt = none := by
      rw [deletedAt_patchSyncMetadata, hact]
    rw [exists_get hr', hw.keepsLinkage_iff _ _ hdel' hsent]
    exact iff_of_true (carries_patchSyncMetadata _ _ call logid.property)
      ⟨fun h => absurd h hnot, fun h => absurd h hns⟩

/-- The call comes first, then the upload. -/
theorem keepsLinkage_callFirst {c' : NetCmd} {history : List (Bool × SlotMove)}
    {uploaded : List QsoRecord} {expected : Option Timestamp} {logid : String}
    (hblank : NetText.isWhiteSpace call.target = false) (hrow : s.get call.target = some r₀)
    (hact : r₀.deletedAt = none) (hspeaks : OperatorSays call s c) (hamend : (storeAmend c).isSome)
    (hc' : c' = .logbook (.updateQrzSyncMetadata call.target expected logid))
    (hsaid : UploadSays call.target v c')
    (hsent : ∀ current, v.get call.target = some current → ∀ u ∈ uploaded, u = current)
    (hmem : ∀ current, v.get call.target = some current → current ∈ uploaded)
    (hwritten : ∀ written, NetCmd.logbook (.updateQso written) ∈ Slot.commands false ms
      ↔ c = .logbook (.updateQso written))
    (hv : v = s ∧ Slot.Straddled history false
      ∨ v = (storeSlot env call.target).applied c s ∧ ¬ Slot.Straddled history false)
    (hns : ¬ Slot.Straddled history true) :
    (∃ r, ((storeSlot env call.target).applied c'
          ((storeSlot env call.target).applied c s)).get call.target = some r
        ∧ KeepsLinkage call uploaded logid r)
      ↔ Harmless call r₀ logid ms history := by
  have hamend' : (storeAmend c').isSome = true := by
    rw [hc']
    rfl
  rcases hv with ⟨rfl, hstr⟩ | ⟨rfl, hnot⟩
  · -- the upload has sent what the call has replaced
    obtain ⟨-, L, hc, hpatched⟩ := hsaid.amend hamend' call.trim_target hrow
    rw [hc] at hc'
    cases hc'
    obtain ⟨r', hw, hr'⟩ := hspeaks.amend hamend hblank hrow hrow
    rw [exists_get (hpatched _ r' hr'),
      hw.keepsLinkage_patch_iff _ hact (hsent r₀ hrow) (hmem r₀ hrow)]
    constructor
    · intro h
      refine ⟨fun h => absurd h hns, fun _ written hin => ?_⟩
      exact h written ((hwritten written).mp hin)
    · intro h written hc
      exact h.rewritten hstr written ((hwritten written).mpr hc)
  · obtain ⟨r', hr'⟩ := hsaid.exists_row hamend' call.trim_target
    obtain ⟨hdel', L, hc, hpatched⟩ := hsaid.amend hamend' call.trim_target hr'
    rw [hc] at hc'
    cases hc'
    rw [exists_get (hpatched _ r' hr')]
    exact iff_of_true (keepsLinkage_patch _ _ hdel' (hsent r' hr'))
      ⟨fun h => absurd h hns, fun h => absurd h hnot⟩

/-- **The linkage of an upload survives an operator call exactly when it is
harmless where the patch and the write fall.** -/
theorem uploadOne_linkage_iff (hqso : qso.localId = call.target)
    (hrow : w.1.get call.target = some r₀) (hact : r₀.deletedAt = none)
    (hrun : Pool.Run (netHandle env)
      ⟨uploadOne bookOwner shouldUpload qso pass, [call.program config], w⟩ ms q)
    {expected : Option Timestamp} {logid : String}
    (hpatch : NetCmd.logbook (.updateQrzSyncMetadata call.target expected logid)
      ∈ Slot.commands true ms) :
    (∃ r, q.state.1.get call.target = some r ∧ KeepsLinkage call (sentRows ms) logid r)
      ↔ Harmless call r₀ logid ms ((storeSlot env call.target).history ms) := by
  have hmain : (storeSlot env call.target).Calls (coping call true) (saying call true)
      (uploadOne bookOwner shouldUpload qso pass) := by
    rw [← hqso]
    show (storeSlot env qso.localId).Calls _ (UploadSays call.target) _
    rw [← hqso]
    exact uploadOne_calls bookOwner shouldUpload
  have hother : (storeSlot env call.target).Calls (coping call false) (saying call false)
      (call.program config) := call.calls config
  have hseen : ∀ p, coping call p w.1 := by
    intro p
    cases p with
    | true => trivial
    | false =>
        intro r hr
        rw [hrow] at hr
        cases hr
        exact hact
  obtain ⟨st, hmeet⟩ := Slot.meets_run hmain hother hseen (coping_after hrow hact) hrun
  have hmeet : (storeSlot env call.target).Meeting (saying call) w.1 ms st q.state.1 := hmeet
  obtain ⟨v, hst⟩ := (hmeet.amended true _).mp ⟨hpatch, rfl⟩
  have hspoken : ∀ c ∈ Slot.commands true ms, UploadSays call.target v c := by
    intro c hc
    have h := hmeet.spoken true c hc
    rw [hst] at h
    exact h
  have hsaid := hspoken _ hpatch
  have hblank := hsaid.not_blank rfl call.trim_target
  have hsent : ∀ current, v.get call.target = some current → ∀ u ∈ sentRows ms, u = current := by
    intro current hcurrent u hu
    obtain ⟨c, hc, hcu⟩ := List.mem_filterMap.mp hu
    have hcsaid := hspoken c hc
    cases hcsaid with
    | read => cases hcu
    | remote hread hsends =>
        have hget := eq_of_getQso call.trim_target hread
        rw [hcurrent] at hget
        cases hget
        exact Option.some.inj (hcu.symm.trans hsends)
    | patch => cases hcu
  have hmem : ∀ current, v.get call.target = some current → current ∈ sentRows ms := by
    intro current hcurrent
    obtain ⟨u, hu⟩ := exists_sentRow hrun hpatch rfl
    rwa [hsent current hcurrent u hu] at hu
  have hcases := hmeet.meets
  generalize hhist : (storeSlot env call.target).history ms = k at hcases ⊢
  generalize q.state.1 = s' at hcases ⊢
  cases hcases with
  | untouched hst' =>
      rcases hst' true with ⟨h, -⟩ | ⟨h, -⟩
      · rw [hst] at h
        cases h
      · rw [hst] at h
        cases h
  | @first p c hp hsaidp hin hnot hrest =>
      cases p with
      | false =>
          rcases hrest with ⟨h, -⟩ | ⟨h, -⟩ | ⟨h, -⟩
          all_goals
            rw [Bool.not_false, hst] at h
            cases h
      | true =>
          -- the call has not written yet
          rw [hst] at hp
          cases hp
          obtain ⟨-, L, hc, hpatched⟩ := hsaid.amend rfl call.trim_target hrow
          cases hc
          have hnone (b : Bool) : ¬ Slot.Straddled k b := by
            intro hstr
            apply hnot
            cases b
            · exact hstr.subset (by simp)
            · exact hstr.subset (by simp)
          refine iff_of_true ⟨_, hpatched w.1 r₀ hrow, ?_⟩ ⟨fun h => ?_, fun h => ?_⟩
          · exact keepsLinkage_patch _ _ hact (hsent r₀ hrow)
          · exact absurd h (hnone true)
          · exact absurd h (hnone false)
  | @second p c c' v' hp hsaidp hp' hsaidp' hv hns =>
      cases p with
      | true =>
          rw [hst] at hp
          cases hp
          obtain ⟨-, L, hc, hpatched⟩ := hsaid.amend rfl call.trim_target hrow
          cases hc
          obtain ⟨-, hamend⟩ := (hmeet.amended false c').mpr ⟨v', hp'⟩
          exact keepsLinkage_uploadFirst hblank hrow hact (hpatched w.1 r₀ hrow) hsaidp' hamend
            (hsent r₀ hrow) hv hns
      | false =>
          rw [Bool.not_false, hst] at hp'
          cases hp'
          obtain ⟨-, hamend⟩ := (hmeet.amended false c).mpr ⟨w.1, hp⟩
          have hwritten : ∀ written, NetCmd.logbook (.updateQso written) ∈ Slot.commands false ms
              ↔ c = .logbook (.updateQso written) := by
            intro written
            constructor
            · intro hin
              obtain ⟨v', hv'⟩ := (hmeet.amended false _).mp ⟨hin, rfl⟩
              rw [hp] at hv'
              cases hv'
              rfl
            · rintro rfl
              exact ((hmeet.amended false _).mpr ⟨w.1, hp⟩).1
          exact keepsLinkage_callFirst hblank hrow hact hsaidp hamend rfl hsaid hsent hmem hwritten
            hv hns

end Run

/-! ### Two schedules -/

theorem acceptedLogid_word : NetText.isWhiteSpace "900" = false := by decide +kernel

/-- QRZ takes every upload under the logid 900. -/
def acceptingQrz : NetEnvironment Unit where
  qrz
    | .fetchQsos _, e => (.ok [], e)
    | .uploadQso _ _, e => (.ok ⟨"900", acceptedLogid_word⟩, e)
    | .uploadQsoWithReplace _ _, e => (.ok ⟨"900", acceptedLogid_word⟩, e)
    | .updateQso _ _, e => (.ok ⟨"900", acceptedLogid_word⟩, e)
    | .getStatus, e => (.ok { owner := "K7RND", qsoCount := 0 }, e)
    | .deleteQso _, e => (.ok (), e)
  lotw
    | .uploadQsos _, e => (.error (.failed "refused"), e)
    | .fetchConfirmations _, e => (.error (.failed "refused"), e)
  newGuid e := ("00000000-0000-0000-0000-000000000000", e)
  utcNow e := (10000000, e)

/-- The row both schedules start from. -/
def freshRow : QsoRecord :=
  { localId := "a", stationCallsign := "K7RND", workedCallsign := "W1AW", band := 9, mode := 7,
    utcTimestamp := some ⟨60, 0⟩ }

/-- A configuration without services. -/
def offlineConfig : EngineConfig :=
  { activeProfile := none, hasQrzKey := false, hasSyncEngine := false, lotwError := none }

/-- A schedule of an upload and an operator call on `freshRow`. -/
def uploadBeside (call : OperatorCall) (turns : List Pool.Turn) :
    List (Move NetCmd NetCmd.Answer) × Pool NetCmd NetCmd.Answer (NetWorld Unit) UploadPass Unit :=
  Pool.schedule (netHandle acceptingQrz) turns
    ⟨uploadOne none isPendingUpload freshRow {}, [call.program offlineConfig],
      (MemoryState.empty.put freshRow, ())⟩

open Pool.Turn in
/-- The upload runs between the operator's read and write. -/
def overtaken : List Pool.Turn := other 0 :: List.replicate 3 main ++ List.replicate 2 (other 0)

open Pool.Turn in
/-- The operator call runs after the upload. -/
def afterwards : List Pool.Turn := List.replicate 3 main ++ List.replicate 3 (other 0)

/-- A delete that asks for the remote delete, after the upload. -/
theorem uploadOne_linkage_iff_delete :
    ∃ r, (uploadBeside (.delete "a" true) afterwards).2.state.1.get "a" = some r
      ∧ KeepsLinkage (.delete "a" true) (sentRows (uploadBeside (.delete "a" true) afterwards).1)
        "900" r := by
  have hqso : freshRow.localId = (OperatorCall.delete "a" true).target := by decide +kernel
  have hrow : (MemoryState.empty.put freshRow, ()).1.get (OperatorCall.delete "a" true).target
      = some freshRow := by decide +kernel
  have hpatch : NetCmd.logbook
      (.updateQrzSyncMetadata (OperatorCall.delete "a" true).target freshRow.updatedAt "900")
      ∈ Slot.commands true (uploadBeside (.delete "a" true) afterwards).1 := by decide +kernel
  have hiff := uploadOne_linkage_iff hqso hrow rfl (Pool.schedule_run afterwards _) hpatch
  have hkept := hiff.mpr ⟨fun h => absurd h (by decide +kernel), fun h => absurd h (by decide +kernel)⟩
  rwa [← hqso] at hkept

/-- The patch between the read and the write of an update is undone, and a
delete that read the row before the patch queues no remote delete. -/
theorem uploadOne_linkage_lost :
    (¬ ∃ r, (uploadBeside (.update freshRow) overtaken).2.state.1.get "a" = some r
        ∧ KeepsLinkage (.update freshRow) (sentRows (uploadBeside (.update freshRow) overtaken).1)
          "900" r)
      ∧ ¬ ∃ r, (uploadBeside (.delete "a" true) overtaken).2.state.1.get "a" = some r
        ∧ KeepsLinkage (.delete "a" true) (sentRows (uploadBeside (.delete "a" true) overtaken).1)
          "900" r := by
  constructor
  · rintro ⟨r, hr, hkeeps⟩
    have hlost : ((uploadBeside (.update freshRow) overtaken).2.state.1.get "a").map (·.qrzLogid)
        = some none := by decide +kernel
    rw [hr, Option.map_some, hkeeps.qrzLogid] at hlost
    cases hlost
  · rintro ⟨r, hr, hkeeps⟩
    have hlost : ((uploadBeside (.delete "a" true) overtaken).2.state.1.get "a").map
        (fun r => (r.deletedAt.isSome, r.pendingRemoteDelete)) = some (true, false) := by
      decide +kernel
    rw [hr, Option.map_some, Option.some.injEq, Prod.mk.injEq] at hlost
    have hpending := hkeeps.pending hlost.1 rfl
    rw [hlost.2] at hpending
    cases hpending

end QsoRipper.DotNet
