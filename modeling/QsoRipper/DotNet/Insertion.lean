/-
QsoRipper/DotNet/Insertion.lean

Every upload of the managed engine, and what it asks QRZ for.  The engine
replaces the remote record of a row when the row is in `Modified` and has a
logid; any other row is inserted, with or without a logid.

As in the other engine, the contract has one observation, the row at hand: the
one that was read or written last.
-/
import QsoRipper.DotNet.Linkage
import QsoRipper.Server.Insertion

namespace QsoRipper.DotNet

open Interaction

/-! ### The callers -/

/-- A call that may upload to QRZ. -/
inductive UploadCall where
  | sync (fullSync : Bool) (policy : ConflictPolicy)
  | log (config : EngineConfig) (qso : Option QsoRecord) (syncToQrz syncToLotw : Bool)
  | update (config : EngineConfig) (qso : Option QsoRecord) (syncToQrz syncToLotw : Bool)
  | imported (config : EngineConfig) (localIds : List String)

/-- The call as a program. -/
def UploadCall.program (formatDate : Timestamp → String) : UploadCall → NetProgram Unit
  | sync fullSync policy => executeSync formatDate fullSync policy >>= fun _ => return ()
  | log config qso syncToQrz syncToLotw =>
      logQso config qso syncToQrz syncToLotw >>= fun _ => return ()
  | update config qso syncToQrz syncToLotw =>
      updateQso config qso syncToQrz syncToLotw >>= fun _ => return ()
  | imported config localIds => syncImportedQsosToQrz config localIds >>= fun _ => return ()

/-! ### The contract -/

/-- The row that is at hand after a command. -/
def nextAtHand (row : Option QsoRecord) : (c : NetCmd) → c.Answer → Option QsoRecord
  | .logbook (.getQso _), .ok found => found
  | .logbook (.insertQso qso), .ok _ => some qso
  | .logbook (.updateQso qso), .ok _ => some qso
  | .logbook .getSyncMetadata, _ => row
  | .logbook _, _ => none
  | _, _ => row

/-- An upload sends the row at hand; it replaces the record of a logid when the
row is in `Modified`. -/
def uploadsRow : Contract NetCmd NetCmd.Answer (Option QsoRecord) where
  allowed row c := ∀ q, sentRow c = some q →
    row = some q ∧ (hasLogid q = true →
      (q.syncStatus = SyncStatus.modified.toI32 ↔ ∃ bookOwner, c = .qrz (.updateQso q bookOwner)))
  next := nextAtHand

theorem uploadsRow_allowed {c : NetCmd} (hc : sentRow c = none) (row : Option QsoRecord) :
    uploadsRow.allowed row c := by
  intro q hq
  rw [hc] at hq
  cases hq

section Programs

variable {α β : Type}

/-- A command that uploads nothing, before the rest of a program. -/
theorem always_cmd {c : NetCmd} {k : c.Answer → NetProgram α} (hc : sentRow c = none)
    (hk : ∀ r, (k r).Always uploadsRow) : Prog.Always uploadsRow (.cmd c k) :=
  .cmd (uploadsRow_allowed hc) hk

/-- The call that uploads the row at hand. -/
theorem uploadRow_uploadsRow (current : QsoRecord) (bookOwner : Option String) :
    (uploadRow current bookOwner).Obeys uploadsRow (fun _ _ => True) (some current) := by
  rw [uploadRow]
  split
  · rename_i hlinked
    rw [Bool.and_eq_true, beq_iff_eq] at hlinked
    refine ⟨?_, fun r => ?_⟩
    · intro q hq
      cases hq
      exact ⟨rfl, fun _ => iff_of_true hlinked.1 ⟨bookOwner, rfl⟩⟩
    · rcases r with ex | logid <;> trivial
  · rename_i hlinked
    rw [Bool.and_eq_true, beq_iff_eq] at hlinked
    refine ⟨?_, fun r => ?_⟩
    · intro q hq
      cases hq
      refine ⟨rfl, fun hlogid => iff_of_false (fun hmod => hlinked ⟨hmod, hlogid⟩) ?_⟩
      rintro ⟨bookOwner, h⟩
      cases h
    rcases r with (message | message) | logid
    · show Prog.Obeys _ _ (if !hasLogid current && isDuplicateError message then _ else _) _
      split
      · rename_i hretry
        rw [Bool.and_eq_true, Bool.not_eq_true'] at hretry
        refine ⟨?_, fun r => ?_⟩
        · intro q hq
          cases hq
          refine ⟨rfl, fun hlogid => ?_⟩
          rw [hretry.1] at hlogid
          cases hlogid
        · rcases r with ex | logid <;> trivial
      · trivial
    · trivial
    · trivial

/-! ### The sync -/

theorem uploadPendingQsos_always (bookOwner : Option String) (shouldUpload : QsoRecord → Bool) :
    (uploadPendingQsos bookOwner shouldUpload).Always uploadsRow := by
  have hone (qso : QsoRecord) (pass : UploadPass) :
      (uploadOne bookOwner shouldUpload qso pass).Always uploadsRow := by
    refine fun t => ⟨uploadsRow_allowed rfl t, fun r => ?_⟩
    rcases r with ex | - | current
    · trivial
    · trivial
    show Prog.Obeys _ _ (if current.deletedAt.isSome || !shouldUpload current then _ else _)
      (some current)
    split
    · trivial
    show Prog.Obeys _ _ (uploadRow current bookOwner >>= _) (some current)
    rw [Prog.obeys_bind]
    refine (uploadRow_uploadsRow current bookOwner).mono fun t outcome _ => ?_
    rcases outcome with ex | ⟨logid, replaced⟩
    · trivial
    · refine ⟨uploadsRow_allowed rfl t, fun r => ?_⟩
      rcases r with ex | - | patched <;> trivial
  have hall (qsos : List QsoRecord) (pass : UploadPass) :
      (uploadAll bookOwner shouldUpload qsos pass).Always uploadsRow := by
    induction qsos generalizing pass with
    | nil => exact .pure _
    | cons qso rest ih => exact (hone qso pass).bind fun pass => ih pass
  refine always_cmd rfl fun r => ?_
  rcases r with ex | allQsos
  · exact .pure _
  · exact hall _ _

theorem processRemotes_always (ctx : DownloadContext) (remotes : List FetchedQso)
    (st : DownloadState) : (processRemotes ctx remotes st).Always uploadsRow := by
  have hrow (remote row : QsoRecord) (st : DownloadState) :
      (insertRow remote row st).Always uploadsRow := by
    refine always_cmd rfl fun r => ?_
    rcases r with ex | ⟨⟩ <;> exact .pure _
  have hone (remote : FetchedQso) (st : DownloadState) :
      (processRemote ctx remote st).Always uploadsRow := by
    rw [processRemote]
    split
    · exact .pure _
    split
    · exact .pure _
    split
    · rw [insertRemote]
      split
      · exact always_cmd rfl fun _ => hrow _ _ _
      · exact hrow _ _ _
    · refine Prog.Always.bind ?_ fun _ => .pure _
      refine always_cmd rfl fun r => ?_
      rcases r with ex | swapped
      · exact .pure _
      · cases swapped <;> exact .pure _
  induction remotes generalizing st with
  | nil => exact .pure _
  | cons remote rest ih => exact (hone remote st).bind fun st => ih st

theorem pushPendingRemoteDeletes_always (counters : SyncCounters) :
    (pushPendingRemoteDeletes counters).Always uploadsRow := by
  have hcomplete (snapshot : QsoRecord) (attempts : ℕ) :
      (completeRemoteDelete snapshot attempts).Always uploadsRow := by
    induction attempts with
    | zero => exact .pure _
    | succ attempts ih =>
        refine always_cmd rfl fun r => ?_
        rcases r with ex | - | current
        · exact .pure _
        · exact .pure _
        show Prog.Always _ (if _ then _ else _)
        split
        · exact .pure _
        refine always_cmd rfl fun r => ?_
        rcases r with ex | swapped
        · exact .pure _
        · cases swapped with
          | true => exact .pure _
          | false => exact ih
  have hall (qsos : List QsoRecord) (counters : SyncCounters) :
      (pushRemoteDeletes qsos counters).Always uploadsRow := by
    induction qsos generalizing counters with
    | nil => exact .pure _
    | cons qso rest ih =>
        refine always_cmd rfl fun r => ?_
        rcases r with ex | ⟨⟩
        · exact ih _
        · exact (hcomplete qso 3).bind fun outcome => ih _
  refine always_cmd rfl fun r => ?_
  rcases r with ex | rows
  · exact .pure _
  · exact hall _ _

theorem storeMetadata_always (metadata : SyncMetadata)
    (status : Except ApiException QrzLogbookStatus) (counters : SyncCounters) :
    (storeMetadata metadata status counters).Always uploadsRow := by
  have hcount (counters : SyncCounters) :
      (countToPersist metadata status counters).Always uploadsRow := by
    cases status with
    | ok status => exact .pure _
    | error ex =>
        refine always_cmd rfl fun r => ?_
        rcases r with ex | counts <;> exact .pure _
  refine (hcount _).bind fun _ => always_cmd rfl fun now => always_cmd rfl fun r => ?_
  rcases r with ex | ⟨⟩ <;> exact .pure _

theorem executeSync_always (formatDate : Timestamp → String) (fullSync : Bool)
    (policy : ConflictPolicy) : (executeSync formatDate fullSync policy).Always uploadsRow := by
  have hstart : (startSync policy).Always uploadsRow := by
    have hread : readMetadata.Always uploadsRow := by
      refine always_cmd rfl fun r => ?_
      rcases r with ex | metadata <;> exact .pure _
    have hpush (bookOwner : Option String) : (pushCorrections policy bookOwner).Always uploadsRow := by
      rw [pushCorrections]
      split
      · exact .pure _
      · exact uploadPendingQsos_always _ _
    exact hread.bind fun _ => always_cmd rfl fun status => (hpush _).bind fun pass => .pure _
  have hdownload (start : SyncStart) :
      (download formatDate fullSync policy start).Always uploadsRow := by
    refine always_cmd rfl fun r => ?_
    rcases r with ex | rows
    · exact .pure _
    refine always_cmd rfl fun r => ?_
    rcases r with ex | remotes
    · exact .pure _
    · exact (processRemotes_always _ _ _).bind fun st => .pure _
  refine hstart.bind fun start => (hdownload start).bind fun outcome => ?_
  rcases outcome with result | counters
  · exact .pure _
  · exact (uploadPendingQsos_always _ _).bind fun pass =>
      (pushPendingRemoteDeletes_always _).bind fun counters =>
        (storeMetadata_always _ _ _).bind fun counters => .pure _

/-! ### Saves -/

theorem uploadRow_logid_uploadsRow (qso : QsoRecord) (bookOwner : Option String) :
    Prog.Obeys uploadsRow (fun _ _ => True) (do
      match ← uploadRow qso bookOwner with
      | .error ex => return .error ex
      | .ok (logid, _) => return .ok logid : NetProgram (Except ApiException NetText.NonBlank))
      (some qso) := by
  rw [Prog.obeys_bind]
  refine (uploadRow_uploadsRow qso bookOwner).mono fun t outcome _ => ?_
  rcases outcome with ex | ⟨logid, replaced⟩ <;> trivial

/-- The upload of a row that is at hand. -/
theorem uploadSingleQso_uploadsRow (qso : QsoRecord) :
    (uploadSingleQso qso).Obeys uploadsRow (fun _ _ => True) (some qso) := by
  have hupload := uploadRow_logid_uploadsRow qso
  refine ⟨uploadsRow_allowed rfl _, fun r => ?_⟩
  rcases r with ex | metadata
  · trivial
  refine ⟨uploadsRow_allowed rfl _, fun r => ?_⟩
  rcases r with (message | message) | status
  · exact hupload _
  · trivial
  · exact hupload _

/-- A patch of the LoTW fields. -/
theorem swapIn_always (localId : String) (skipsDeleted : Bool) {prepare : NetProgram Ticks}
    (hprepare : prepare.Always uploadsRow) (replacement : QsoRecord → Ticks → QsoRecord)
    (attempts : ℕ) :
    (swapIn localId skipsDeleted prepare replacement attempts).Always uploadsRow := by
  induction attempts with
  | zero => exact .pure _
  | succ attempts ih =>
      refine always_cmd rfl fun r => ?_
      rcases r with ex | - | current
      · exact .pure _
      · exact .pure _
      show Prog.Always _ (if skipsDeleted && current.deletedAt.isSome then _ else _)
      split
      · exact .pure _
      · refine hprepare.bind fun now => always_cmd rfl fun r => ?_
        rcases r with ex | swapped
        · exact .pure _
        · cases swapped with
          | true => exact .pure _
          | false => exact ih

theorem patchUpload_always (snapshot : QsoRecord) (success : Bool) :
    (patchUpload snapshot success).Always uploadsRow := by
  rw [patchUpload]
  split
  · exact swapIn_always _ _ (always_cmd rfl fun _ => .pure _) _ _
  · exact swapIn_always _ _ (.pure _) _ _

theorem applyLotwSyncFlag_always (config : EngineConfig) (qso : QsoRecord) (syncToLotw : Bool)
    (report : SyncReport) : (applyLotwSyncFlag config qso syncToLotw report).Always uploadsRow := by
  have hfail (ex : LotwException) :
      Prog.Always uploadsRow (andThen (patchUpload qso false) fun _ =>
        (return .error ex : NetProgram (Except LotwException Unit))) := by
    refine (patchUpload_always qso false).bind fun outcome => ?_
    rcases outcome with ex | swapped <;> exact .pure _
  have hsingle : (uploadSingleLotw qso).Always uploadsRow := by
    refine always_cmd rfl fun r => ?_
    rcases r with ex | count
    · exact hfail ex
    · refine (patchUpload_always qso true).bind fun outcome => ?_
      rcases outcome with ex | swapped
      · exact hfail ex
      · exact .pure _
  rw [applyLotwSyncFlag]
  split
  · exact .pure _
  split
  · exact .pure _
  · refine hsingle.bind fun outcome => ?_
    rcases outcome with ex | ⟨⟩ <;> exact .pure _

/-- The uploads behind a save of the row at hand. -/
theorem uploadSaved_uploadsRow (config : EngineConfig) (qso : QsoRecord)
    (syncToQrz syncToLotw : Bool) (otherwise : ℤ) :
    (uploadSaved config qso syncToQrz syncToLotw otherwise).Obeys uploadsRow (fun _ _ => True)
      (some qso) := by
  have honSave : (uploadOnSave config qso).Obeys uploadsRow (fun _ _ => True) (some qso) := by
    rw [uploadOnSave]
    split
    · trivial
    split
    · trivial
    · rw [Prog.obeys_bind]
      refine (uploadSingleQso_uploadsRow qso).mono fun t outcome _ => ?_
      rcases outcome with ex | logid <;> trivial
  have hflags : (applySyncFlags config qso syncToQrz otherwise).Obeys uploadsRow (fun _ _ => True)
      (some qso) := by
    rw [applySyncFlags]
    split
    · trivial
    · rw [Prog.obeys_bind]
      refine honSave.mono fun t outcome _ => ?_
      rcases outcome with message | logid
      · trivial
      · refine ⟨uploadsRow_allowed rfl t, fun r => ?_⟩
        rcases r with ex | patched <;> trivial
  rw [uploadSaved, Prog.obeys_bind]
  refine hflags.mono fun t outcome _ => ?_
  rcases outcome with ex | ⟨qso, report⟩
  · trivial
  · exact (applyLotwSyncFlag_always config qso syncToLotw report).bind (fun _ => .pure _) t

theorem logQso_always (config : EngineConfig) (qso : Option QsoRecord) (syncToQrz syncToLotw : Bool) :
    (logQso config qso syncToQrz syncToLotw).Always uploadsRow := by
  rcases qso with - | qso
  · exact .pure _
  show Prog.Always _ (if config.activeProfile.isNone then _ else _)
  split
  · exact .pure _
  refine always_cmd rfl fun localId => always_cmd rfl fun now => ?_
  dsimp only [Prog.bind, Pure.pure]
  split
  · exact .pure _
  -- the row that goes in is at hand for its upload
  refine fun t => ⟨uploadsRow_allowed rfl t, fun r => ?_⟩
  rcases r with ex | ⟨⟩
  · trivial
  show Prog.Obeys _ _ (uploadSaved config _ syncToQrz syncToLotw _ >>= _) (some _)
  rw [Prog.obeys_bind]
  refine (uploadSaved_uploadsRow config _ syncToQrz syncToLotw _).mono fun t outcome _ => ?_
  rcases outcome with ex | report <;> trivial

theorem finalizeQsoForWrite_always (qso : QsoRecord) (isNew : Bool) :
    (finalizeQsoForWrite qso isNew).Always uploadsRow := by
  have hend (f : Timestamp → QsoRecord) :
      Prog.Always uploadsRow (timestampNow >>= fun now => return f now) :=
    always_cmd rfl fun _ => .pure _
  have hcreated (localId : String) (utcTimestamp : Option Timestamp) :
      Prog.Always uploadsRow (do
        let createdAt ←
          if isNew && isTimestampUnset qso.createdAt then some <$> timestampNow
          else pure qso.createdAt
        let updatedAt ← timestampNow
        return { qso with localId, utcTimestamp, createdAt, updatedAt := some updatedAt }) := by
    split
    · exact always_cmd rfl fun _ => hend _
    · exact hend _
  have hstamped (localId : String) :
      Prog.Always uploadsRow (do
        let utcTimestamp ←
          if isTimestampUnset qso.utcTimestamp then some <$> timestampNow else pure qso.utcTimestamp
        let createdAt ←
          if isNew && isTimestampUnset qso.createdAt then some <$> timestampNow
          else pure qso.createdAt
        let updatedAt ← timestampNow
        return { qso with localId, utcTimestamp, createdAt, updatedAt := some updatedAt }) := by
    by_cases hunset : isTimestampUnset qso.utcTimestamp = true
    · rw [if_pos hunset]
      exact always_cmd rfl fun _ => hcreated _ _
    · rw [if_neg hunset]
      exact hcreated _ _
  rw [finalizeQsoForWrite]
  by_cases hblank : NetText.isWhiteSpace qso.localId = true
  · rw [if_pos hblank]
    exact always_cmd rfl fun localId => hstamped localId
  · rw [if_neg hblank]
    exact hstamped qso.localId

/-- The outcome of one row, put before those of the rows after it. -/
theorem syncImportedQsosToQrz_cons_always {config : EngineConfig} {rest : List String}
    (h : (syncImportedQsosToQrz config rest).Always uploadsRow) (outcome : WsjtxQrzSyncOutcome) :
    Prog.Always uploadsRow (do
      match ← syncImportedQsosToQrz config rest with
      | .error ex => return .error ex
      | .ok outcomes => return .ok (outcome :: outcomes) :
        NetProgram (Except EngineException (List WsjtxQrzSyncOutcome))) := by
  refine h.bind fun outcomes => ?_
  rcases outcomes with ex | outcomes <;> exact .pure _

/-- A row that an update has stored is at hand. -/
theorem replaceQso_uploadsRow (qso : Option QsoRecord) (t : Option QsoRecord) :
    (replaceQso qso).Obeys uploadsRow (fun t outcome => ∀ row, outcome = .ok row → t = some row)
      t := by
  have hthrown (ex : EngineException) (t : Option QsoRecord) :
      ∀ row, (.error ex : Except EngineException QsoRecord) = .ok row → t = some row := by
    intro row h
    cases h
  rcases qso with - | qso
  · exact hthrown _ _
  show Prog.Obeys _ _ (if (Text.trim qso.localId).isEmpty then _ else _) t
  split
  · exact hthrown _ _
  refine ⟨uploadsRow_allowed rfl t, fun r => ?_⟩
  rcases r with ex | - | existing
  · exact hthrown _ _
  · exact hthrown _ _
  show Prog.Obeys _ _ (if existing.deletedAt.isSome then _ else _) _
  split
  · exact hthrown _ _
  dsimp only [Prog.bind, Pure.pure]
  split
  · exact hthrown _ _
  · show Prog.Obeys _ _ (finalizeQsoForWrite _ false >>= _) _
    rw [Prog.obeys_bind]
    refine (finalizeQsoForWrite_always _ false _).mono fun t row _ => ?_
    refine ⟨uploadsRow_allowed rfl t, fun r => ?_⟩
    rcases r with ex | found
    · exact hthrown _ _
    · rintro row' ⟨⟩
      rfl

theorem updateQso_always (config : EngineConfig) (qso : Option QsoRecord)
    (syncToQrz syncToLotw : Bool) :
    (updateQso config qso syncToQrz syncToLotw).Always uploadsRow := by
  intro t
  rw [updateQso, Prog.obeys_bind]
  refine (replaceQso_uploadsRow qso t).mono fun t outcome hrow => ?_
  rcases outcome with ex | row
  · trivial
  · rw [hrow row rfl]
    exact uploadSaved_uploadsRow config row syncToQrz syncToLotw _

/-! ### Imports -/

theorem syncImportedQsosToQrz_always (config : EngineConfig) (localIds : List String) :
    (syncImportedQsosToQrz config localIds).Always uploadsRow := by
  have hone (existing : QsoRecord) :
      (uploadImported config existing).Obeys uploadsRow (fun _ _ => True) (some existing) := by
    rw [uploadImported]
    split
    · trivial
    split
    · trivial
    · rw [Prog.obeys_bind]
      refine (uploadSingleQso_uploadsRow existing).mono fun t outcome _ => ?_
      rcases outcome with ex | logid
      · trivial
      · refine ⟨uploadsRow_allowed rfl t, fun r => ?_⟩
        rcases r with ex | patched <;> trivial
  induction localIds with
  | nil => exact .pure _
  | cons rawLocalId rest ih =>
      have hrest := syncImportedQsosToQrz_cons_always ih
      rw [syncImportedQsosToQrz]
      dsimp only
      split
      · exact ih
      refine fun t => ⟨uploadsRow_allowed rfl t, fun r => ?_⟩
      rcases r with ex | - | existing
      · trivial
      · exact hrest _ _
      · show Prog.Obeys _ _ (uploadImported config existing >>= _) (some existing)
        rw [Prog.obeys_bind]
        exact (hone existing).mono fun t error _ => hrest _ t

theorem UploadCall.always (formatDate : Timestamp → String) (call : UploadCall) :
    (call.program formatDate).Always uploadsRow := by
  cases call with
  | sync fullSync policy => exact (executeSync_always _ _ _).bind fun _ => .pure _
  | log config qso syncToQrz syncToLotw => exact (logQso_always _ _ _ _).bind fun _ => .pure _
  | update config qso syncToQrz syncToLotw => exact (updateQso_always _ _ _ _).bind fun _ => .pure _
  | imported config localIds => exact (syncImportedQsosToQrz_always _ _).bind fun _ => .pure _

end Programs

/-! ### What is asked of QRZ -/

section Requests

variable {ε : Type}

/-- Every upload for a row that has a logid replaces the record under it. -/
def ReplacesLinked (env : NetEnvironment ε) (formatDate : Timestamp → String) (call : UploadCall)
    (w : NetWorld ε) : Prop :=
  ∀ m ∈ (call.program formatDate).trace (netHandle env) w, ∀ q, sentRow m.2.1 = some q →
    ∀ r, m.1.1.get q.localId = some r → hasLogid r = true →
      ∃ bookOwner, m.2.1 = .qrz (.updateQso r bookOwner)

/-- Every row that is uploaded although it has a logid is in `Modified`. -/
def UploadsOnlyModified (env : NetEnvironment ε) (formatDate : Timestamp → String)
    (call : UploadCall) (w : NetWorld ε) : Prop :=
  ∀ m ∈ (call.program formatDate).trace (netHandle env) w, ∀ q, sentRow m.2.1 = some q →
    ∀ r, m.1.1.get q.localId = some r → hasLogid r = true →
      r.syncStatus = SyncStatus.modified.toI32

variable {env : NetEnvironment ε}

/-- The row at hand is the one the store has. -/
theorem atHand_handle {row : Option QsoRecord} {w : NetWorld ε} (c : NetCmd)
    (h : ∀ q, row = some q → ∀ r, w.1.get q.localId = some r → r = q) :
    ∀ q, nextAtHand row c (netHandle env c w).1 = some q →
      ∀ r, (netHandle env c w).2.1.get q.localId = some r → r = q := by
  obtain ⟨s, e⟩ := w
  intro q hq r hr
  have hput (qso : QsoRecord) (hr : (s.put qso).get qso.localId = some r) : r = qso := by
    rw [MemoryState.get_put, if_pos rfl] at hr
    exact (Option.some.inj hr).symm
  cases c with
  | logbook c =>
      cases c with
      | getQso localId =>
          have hanswer : MemoryStorage.getQso s localId = .ok (some q) := by
            cases hget : MemoryStorage.getQso s localId with
            | error ex =>
                simp [nextAtHand, netHandle, MemoryStorage.exec, hget] at hq
            | ok found =>
                simp only [nextAtHand, netHandle, MemoryStorage.exec, hget] at hq
                rw [hq]
          have hstored : s.get q.localId = some q := (get_of_getQso hanswer).1
          exact Option.some.inj (hr.symm.trans hstored)
      | insertQso qso =>
          by_cases hget : (s.get qso.localId).isSome = true
          · simp only [netHandle, MemoryStorage.exec, MemoryStorage.insertQso, if_pos hget] at hq
            cases hq
          · simp only [netHandle, MemoryStorage.exec, MemoryStorage.insertQso, if_neg hget] at hq hr
            cases hq
            exact hput _ hr
      | updateQso qso =>
          by_cases hget : (s.get qso.localId).isSome = true
          · simp only [netHandle, MemoryStorage.exec, MemoryStorage.updateQso, if_pos hget] at hq hr
            cases hq
            exact hput _ hr
          · -- the row to write over is not there
            simp only [netHandle, MemoryStorage.exec, MemoryStorage.updateQso, if_neg hget] at hq hr
            cases hq
            rw [hr] at hget
            exact absurd rfl hget
      | getSyncMetadata => exact h q hq r hr
      | _ => cases hq
  | _ => exact h q hq r hr

/-- **When the managed engine replaces.**  Every upload for a row with a logid
replaces the record under it exactly when all these rows are in `Modified`. -/
theorem replacesLinked_iff (formatDate : Timestamp → String) (call : UploadCall) (w : NetWorld ε) :
    ReplacesLinked env formatDate call w ↔ UploadsOnlyModified env formatDate call w := by
  have hrun := Prog.Obeys.run (h := netHandle env) (E := fun _ => True)
    (J := fun row (w : NetWorld ε) => ∀ q, row = some q → ∀ r, w.1.get q.localId = some r → r = q)
    (fun row w c hJ _ _ => atHand_handle c hJ) (call.always formatDate none)
    (s := w) (fun _ h => by cases h) fun _ _ => trivial
  refine forall_congr' fun m => forall_congr' fun hm => forall_congr' fun q => ?_
  refine forall_congr' fun hq => forall_congr' fun r => forall_congr' fun hr => ?_
  refine forall_congr' fun hlogid => ?_
  obtain ⟨row, hrow, hallowed⟩ := hrun.1 m hm
  obtain ⟨hhand, hreplaces⟩ := hallowed q hq
  obtain rfl := hrow q hhand r hr
  exact (hreplaces hlogid).symm

end Requests

/-- **A linked contact and the uploads of both engines.**  The Rust server always
replaces the record under a logid; the managed engine does exactly when all rows
it uploads although they have a logid are in `Modified`. -/
theorem uploads_replace_linked_iff {ε ε' : Type} (rust : Environment ε) (env : NetEnvironment ε') :
    (∀ (formatDate : ℤ → Option String) (call : QsoRipper.UploadCall) (w : World ε),
        ∀ m ∈ (call.program formatDate).trace (handle rust) w, ∀ q, requestOf m.2.1 = some q →
          ∀ r logid, m.1.1.get q.localId = some r → r.qrzLogid = some logid → logid ≠ "" →
            ∃ bookOwner, m.2.1 = .qrz (.replaceQso logid r bookOwner))
      ∧ ∀ (formatDate : Timestamp → String) (call : UploadCall) (w : NetWorld ε'),
        ReplacesLinked env formatDate call w ↔ UploadsOnlyModified env formatDate call w :=
  ⟨fun formatDate call w => call.replaces_linked formatDate w, replacesLinked_iff⟩

/-! ### A run -/

theorem stubbornLogid_word : NetText.isWhiteSpace "2" = false := by decide +kernel

/-- QRZ has one contact, refuses to replace it and takes new ones. -/
def stubbornQrz : NetEnvironment Unit where
  qrz
    | .fetchQsos _, e =>
        (.ok [⟨{ qrzLogid := some "1", stationCallsign := "K7RND", workedCallsign := "W1AW", band := 9,
                 mode := 7, utcTimestamp := some ⟨60, 0⟩ }, rfl⟩], e)
    | .uploadQso _ _, e => (.ok ⟨"2", stubbornLogid_word⟩, e)
    | .uploadQsoWithReplace _ _, e => (.ok ⟨"2", stubbornLogid_word⟩, e)
    | .updateQso _ _, e => (.error (.other "refused"), e)
    | .getStatus, e => (.ok { owner := "K7RND", qsoCount := 1 }, e)
    | .deleteQso _, e => (.ok (), e)
  lotw
    | .uploadQsos _, e => (.error (.failed "refused"), e)
    | .fetchConfirmations _, e => (.error (.failed "refused"), e)
  newGuid e := ("a", e)
  utcNow e := (10000000, e)

/-- An edit of the contact. -/
def editedContact : QsoRecord :=
  { localId := "a", workedCallsign := "W1AW", band := 9, mode := 7, utcTimestamp := some ⟨60, 0⟩,
    notes := some "edited" }

/-- The engine with a QRZ key. -/
def onlineConfig : EngineConfig :=
  { activeProfile := none, hasQrzKey := true, hasSyncEngine := true, lotwError := none }

/-- The contact is downloaded, edited and downloaded again while QRZ refuses the
edit: the row is in conflict. -/
def conflictedWorld : NetWorld Unit :=
  let after (call : UploadCall) (w : NetWorld Unit) :=
    ((call.program fun _ => "").run (netHandle stubbornQrz) w).2
  after (.sync true .flagForReview)
    (after (.update onlineConfig (some editedContact) false false)
      (after (.sync true .flagForReview) (MemoryState.empty, ())))

/-- Does the run insert a contact that has a logid? -/
def insertsLinked (call : UploadCall) (w : NetWorld Unit) : Bool :=
  ((call.program fun _ => "").trace (netHandle stubbornQrz) w).any fun m =>
    match m.2.1 with
    | .qrz (.uploadQso q _) => (m.1.1.get q.localId).any hasLogid
    | _ => false

/-- An edit of a row in conflict, saved with the sync to QRZ, inserts the contact
again. -/
theorem update_inserts_linked :
    ¬ ReplacesLinked stubbornQrz (fun _ => "")
      (.update onlineConfig (some editedContact) true false) conflictedWorld := by
  intro h
  have hinserts : insertsLinked (.update onlineConfig (some editedContact) true false)
      conflictedWorld = true := by decide +kernel
  obtain ⟨m, hm, hrequest⟩ := List.any_eq_true.mp hinserts
  split at hrequest
  · rename_i q bookOwner hcmd
    rcases hr : m.1.1.get q.localId with - | r
    · rw [hr] at hrequest
      cases hrequest
    · rw [hr, Option.any_some] at hrequest
      have hsent : sentRow m.2.1 = some q := by
        rw [hcmd]
        rfl
      obtain ⟨bookOwner', hreplace⟩ := h m hm q hsent r hr hrequest
      rw [hcmd] at hreplace
      cases hreplace
  · cases hrequest

end QsoRipper.DotNet
