/-
QsoRipper/DotNet/SyncRun.lean

What each phase of a QRZ sync does to the rows when nobody else touches the
store.  An upload turns a pending active row into a synced one, a queued remote
delete clears a soft-deleted row, and nothing else happens in these phases:
`UploadFrame` and `DeleteFrame` say so row by row, and both compose.
-/
import QsoRipper.DotNet.QrzSync

namespace QsoRipper.DotNet

open Interaction

variable {ε : Type} {env : NetEnvironment ε} {w : NetWorld ε}

/-! ### Ids -/

/-- Every row sits under an id without white space around it. -/
def TrimmedIds (s : MemoryState) : Prop := ∀ id r, s.get id = some r → Text.trim id = id

theorem trim_localId {s : MemoryState} (h : TrimmedIds s) {id : String} {r : QsoRecord}
    (hr : s.get id = some r) : Text.trim r.localId = r.localId := by
  rw [MemoryState.localId_of_get hr]
  exact h id r hr

/-- What `GetQsoAsync` finds. -/
theorem get_of_getQso {s : MemoryState} {localId : String} {r : QsoRecord}
    (h : MemoryStorage.getQso s localId = .ok (some r)) :
    s.get r.localId = some r ∧ r.localId = Text.trim localId := by
  rw [MemoryStorage.getQso] at h
  split at h
  · cases h
  · have hget : s.get (Text.trim localId) = some r := by simpa using h
    have hid := MemoryState.localId_of_get hget
    exact ⟨hid.symm ▸ hget, hid⟩

/-! ### Uploads -/

/-- The row an upload leaves. -/
def uploadedRow (r : QsoRecord) (logid : String) : QsoRecord :=
  { r with qrzLogid := some logid, syncStatus := SyncStatus.synced.toI32 }

/-- Row by row: unchanged, or a pending active row that was uploaded. -/
def UploadFrame (s s' : MemoryState) : Prop :=
  ∀ id, s'.get id = s.get id ∨ ∃ r logid, s.get id = some r ∧ r.deletedAt = none
    ∧ isPendingUpload r = true ∧ s'.get id = some (uploadedRow r logid)

namespace UploadFrame

variable {s s' s'' : MemoryState}

theorem refl (s : MemoryState) : UploadFrame s s := fun _ => .inl rfl

theorem not_pending_uploadedRow (r : QsoRecord) (logid : String) :
    isPendingUpload (uploadedRow r logid) = false := rfl

theorem trans (h : UploadFrame s s') (h' : UploadFrame s' s'') : UploadFrame s s'' := by
  intro id
  rcases h' id with heq | ⟨r, logid, hr, hactive, hpending, hr'⟩
  · rw [heq]
    exact h id
  · rcases h id with heq | ⟨q, logid', -, -, -, hq'⟩
    · exact .inr ⟨r, logid, heq ▸ hr, hactive, hpending, hr'⟩
    · -- what has been uploaded is not pending any more
      rw [hq', Option.some.injEq] at hr
      rw [← hr, not_pending_uploadedRow] at hpending
      cases hpending

/-- A row that is not pending stays. -/
theorem get_of_not_pending (h : UploadFrame s s') {id : String} {r : QsoRecord}
    (hr : s.get id = some r) (hpending : isPendingUpload r = false) : s'.get id = some r := by
  rcases h id with heq | ⟨q, logid, hq, -, hq', -⟩
  · rw [heq, hr]
  · rw [hr, Option.some.injEq] at hq
    rw [hq, hq'] at hpending
    cases hpending

/-- A row that is not synced was there before. -/
theorem get_of_not_synced (h : UploadFrame s s') {id : String} {r : QsoRecord}
    (hr : s'.get id = some r) (hstatus : r.syncStatus ≠ SyncStatus.synced.toI32) :
    s.get id = some r := by
  rcases h id with heq | ⟨q, logid, -, -, -, hq⟩
  · rw [← heq, hr]
  · rw [hr, Option.some.injEq] at hq
    rw [hq] at hstatus
    exact absurd rfl hstatus

theorem isSome_get (h : UploadFrame s s') (id : String) : (s'.get id).isSome = (s.get id).isSome := by
  rcases h id with heq | ⟨r, logid, hr, -, -, hr'⟩
  · rw [heq]
  · rw [hr, hr']
    rfl

theorem trimmedIds (h : UploadFrame s s') (hs : TrimmedIds s) : TrimmedIds s' := by
  intro id r hr
  have hsome : (s.get id).isSome = true := by
    rw [← h.isSome_get, hr]
    rfl
  obtain ⟨q, hq⟩ := Option.isSome_iff_exists.mp hsome
  exact hs id q hq

end UploadFrame

theorem isPendingUpload_of_linkedCorrection {q : QsoRecord} (h : isLinkedCorrection q = true) :
    isPendingUpload q = true := by
  rw [isLinkedCorrection, Bool.and_eq_true] at h
  rw [isPendingUpload, h.1, Bool.or_true]

/-- The call that uploads a row leaves the store alone. -/
theorem uploadRow_run (env : NetEnvironment ε) (w : NetWorld ε) (current : QsoRecord)
    (bookOwner : Option String) :
    ((uploadRow current bookOwner).run (netHandle env) w).2.1 = w.1 := by
  rw [uploadRow]
  split
  · rw [Prog.run_bind, run_qrzApi]
    dsimp only
    split <;> rfl
  · rw [Prog.run_bind, run_qrzApi]
    dsimp only
    split
    · rfl
    · split
      · rw [Prog.run_bind, run_qrzApi]
        dsimp only
        split <;> rfl
      · rfl
    · rfl

/-- The patch after an upload. -/
theorem recordUpload_run {current : QsoRecord} (hcurrent : w.1.get current.localId = some current)
    (htrim : Text.trim current.localId = current.localId) (hactive : current.deletedAt = none)
    (hpending : isPendingUpload current = true) (logid : NetText.NonBlank) (replaced : Bool)
    (pass : UploadPass) :
    UploadFrame w.1 ((recordUpload current logid replaced pass).run (netHandle env) w).2.1 := by
  have hexec : UploadFrame w.1 (MemoryStorage.exec
      (.updateQrzSyncMetadata current.localId current.updatedAt logid.val) w.1).2 := by
    rw [MemoryStorage.exec, MemoryStorage.updateQrzSyncMetadata]
    split
    · exact .refl _
    · rw [htrim, hcurrent]
      dsimp only
      have hrow : MemoryStorage.patchSyncMetadata current current.updatedAt logid.val
          = uploadedRow current logid.val := by
        simp [MemoryStorage.patchSyncMetadata, uploadedRow, hactive]
      intro id
      rw [MemoryState.get_put, hrow]
      by_cases hid : current.localId = id
      · subst hid
        exact .inr ⟨current, logid.val, hcurrent, hactive, hpending, if_pos rfl⟩
      · exact .inl (if_neg hid)
  rw [recordUpload, Prog.run_bind, run_logbook]
  dsimp only
  split <;> exact hexec

section UploadPass

variable {bookOwner : Option String} {shouldUpload : QsoRecord → Bool}
  (hshould : ∀ q, shouldUpload q = true → isPendingUpload q = true)
include hshould

theorem uploadOne_run (qso : QsoRecord) (pass : UploadPass) :
    UploadFrame w.1 ((uploadOne bookOwner shouldUpload qso pass).run (netHandle env) w).2.1 := by
  rw [uploadOne, Prog.run_bind, run_logbook]
  dsimp only [MemoryStorage.exec]
  split
  · exact .refl _
  · exact .refl _
  rename_i current hget
  obtain ⟨hcurrent, hid⟩ := get_of_getQso hget
  split
  · exact .refl _
  rename_i hskip
  rw [Bool.or_eq_true, not_or, Bool.not_eq_true, Option.isSome_eq_false_iff, Option.isNone_iff_eq_none,
    Bool.not_eq_true', Bool.not_eq_false] at hskip
  rw [Prog.run_bind]
  have hstore := uploadRow_run env w current bookOwner
  generalize (uploadRow current bookOwner).run (netHandle env) w = o at hstore ⊢
  obtain ⟨answer, w'⟩ := o
  dsimp only at hstore ⊢
  split
  · rw [← hstore]
    exact .refl _
  · rw [← hstore] at hcurrent ⊢
    have htrim : Text.trim current.localId = current.localId := by rw [hid, Text.trim_trim]
    exact recordUpload_run hcurrent htrim hskip.1 (hshould _ hskip.2) _ _ _

theorem uploadAll_run (qsos : List QsoRecord) (pass : UploadPass) :
    UploadFrame w.1 ((uploadAll bookOwner shouldUpload qsos pass).run (netHandle env) w).2.1 := by
  induction qsos generalizing w pass with
  | nil => exact .refl _
  | cons qso rest ih =>
      rw [uploadAll, Prog.run_bind]
      exact (uploadOne_run hshould qso pass).trans (ih _)

/-- **A pass of uploads** turns pending rows into synced ones. -/
theorem uploadPendingQsos_run :
    UploadFrame w.1 ((uploadPendingQsos bookOwner shouldUpload).run (netHandle env) w).2.1 := by
  rw [uploadPendingQsos, Prog.run_bind, run_logbook]
  dsimp only [MemoryStorage.exec]
  split
  · exact .refl _
  · exact uploadAll_run hshould _ _

end UploadPass

/-! ### Queued remote deletes -/

/-- Row by row: unchanged, or a soft-deleted row that was cleared. -/
def DeleteFrame (s s' : MemoryState) : Prop :=
  ∀ id, s'.get id = s.get id ∨ ∃ r, s.get id = some r ∧ r.deletedAt.isSome = true
    ∧ s'.get id = some (cleared r)

theorem cleared_deletedAt (r : QsoRecord) : (cleared r).deletedAt = r.deletedAt := rfl

theorem cleared_syncStatus {r : QsoRecord} (h : r.deletedAt.isSome = true) :
    (cleared r).syncStatus = r.syncStatus := by
  obtain ⟨ts, hts⟩ := Option.isSome_iff_exists.mp h
  simp [cleared, hts]

theorem cleared_cleared {r : QsoRecord} (h : r.deletedAt.isSome = true) :
    cleared (cleared r) = cleared r := by
  obtain ⟨ts, hts⟩ := Option.isSome_iff_exists.mp h
  simp [cleared, hts]

namespace DeleteFrame

variable {s s' s'' : MemoryState}

theorem refl (s : MemoryState) : DeleteFrame s s := fun _ => .inl rfl

theorem trans (h : DeleteFrame s s') (h' : DeleteFrame s' s'') : DeleteFrame s s'' := by
  intro id
  rcases h' id with heq | ⟨r, hr, hdeleted, hr'⟩
  · rw [heq]
    exact h id
  · rcases h id with heq | ⟨q, hq, hqdeleted, hq'⟩
    · exact .inr ⟨r, heq ▸ hr, hdeleted, hr'⟩
    · rw [hq', Option.some.injEq] at hr
      refine .inr ⟨q, hq, hqdeleted, ?_⟩
      rw [hr', ← hr, cleared_cleared hqdeleted]

/-- An active row stays. -/
theorem get_of_active (h : DeleteFrame s s') {id : String} {r : QsoRecord} (hr : s.get id = some r)
    (hactive : r.deletedAt = none) : s'.get id = some r := by
  rcases h id with heq | ⟨q, hq, hdeleted, -⟩
  · rw [heq, hr]
  · rw [hr, Option.some.injEq] at hq
    rw [← hq, hactive] at hdeleted
    cases hdeleted

/-- A soft-deleted row stays one. -/
theorem exists_of_deleted (h : DeleteFrame s s') {id : String}
    (hr : ∃ r, s.get id = some r ∧ r.deletedAt.isSome = true) :
    ∃ r, s'.get id = some r ∧ r.deletedAt.isSome = true := by
  obtain ⟨r, hr, hdeleted⟩ := hr
  rcases h id with heq | ⟨q, -, hqdeleted, hq'⟩
  · exact ⟨r, heq.trans hr, hdeleted⟩
  · exact ⟨cleared q, hq', by rw [cleared_deletedAt, hqdeleted]⟩

/-- No row changes its status. -/
theorem syncStatus (h : DeleteFrame s s') (id : String) :
    (s'.get id).map (·.syncStatus) = (s.get id).map (·.syncStatus) := by
  rcases h id with heq | ⟨r, hr, hdeleted, hr'⟩
  · rw [heq]
  · rw [hr, hr', Option.map_some, Option.map_some, cleared_syncStatus hdeleted]

end DeleteFrame

theorem completeRemoteDelete_run {qso : QsoRecord} (htrim : Text.trim qso.localId = qso.localId)
    (hdeleted : ∃ r, w.1.get qso.localId = some r ∧ r.deletedAt.isSome = true) (attempts : ℕ) :
    DeleteFrame w.1 ((completeRemoteDelete qso attempts).run (netHandle env) w).2.1 := by
  obtain ⟨r, hr, hdel⟩ := hdeleted
  cases attempts with
  | zero => exact .refl _
  | succ attempts =>
      rw [completeRemoteDelete, Prog.run_bind, run_logbook]
      dsimp only [MemoryStorage.exec]
      split
      · exact .refl _
      · exact .refl _
      rename_i current hget
      obtain ⟨hcurrent, hid⟩ := get_of_getQso hget
      rw [htrim] at hid
      have hrow : current = r := by
        rw [hid, hr, Option.some.injEq] at hcurrent
        exact hcurrent.symm
      subst hrow
      split
      · exact .refl _
      -- nobody else writes, so the swap succeeds at the first attempt
      have hswap : MemoryStorage.exec (.updateQsoIfUnchanged current (cleared current)) w.1
          = (.ok true, w.1.put (cleared current)) := by
        rw [MemoryStorage.exec, MemoryStorage.updateQsoIfUnchanged, if_neg (by simp [cleared]),
          hcurrent]
        dsimp only
        rw [if_pos (recordEquals_self current)]
      rw [Prog.run_bind, run_logbook, hswap]
      show DeleteFrame w.1 (w.1.put (cleared current))
      intro id
      rw [MemoryState.get_put]
      by_cases hid' : (cleared current).localId = id
      · refine .inr ⟨current, ?_, hdel, if_pos hid'⟩
        rw [← hid']
        exact hcurrent
      · exact .inl (if_neg hid')

theorem pushRemoteDeletes_run (qsos : List QsoRecord) (counters : SyncCounters)
    (hqsos : ∀ q ∈ qsos, Text.trim q.localId = q.localId
      ∧ ∃ r, w.1.get q.localId = some r ∧ r.deletedAt.isSome = true) :
    DeleteFrame w.1 ((pushRemoteDeletes qsos counters).run (netHandle env) w).2.1 := by
  induction qsos generalizing w counters with
  | nil => exact .refl _
  | cons qso rest ih =>
      obtain ⟨⟨htrim, hdeleted⟩, hrest⟩ := List.forall_mem_cons.mp hqsos
      rw [pushRemoteDeletes, Prog.run_bind, run_qrzApi]
      dsimp only
      split
      · rw [Prog.run_bind]
        have hone : DeleteFrame w.1 ((completeRemoteDelete qso 3).run (netHandle env)
            (w.1, (env.qrz (.deleteQso (qso.qrzLogid.getD "")) w.2).2)).2.1 := by
          refine completeRemoteDelete_run htrim ?_ 3
          exact hdeleted
        refine hone.trans (ih _ fun q hq => ⟨(hrest q hq).1, ?_⟩)
        exact hone.exists_of_deleted (hrest q hq).2
      · exact @ih (w.1, _) _ hrest

/-- **The pass of remote deletes** clears soft-deleted rows. -/
theorem pushPendingRemoteDeletes_run
    (hids : ∀ id r, w.1.get id = some r → r.deletedAt.isSome = true → Text.trim id = id)
    (counters : SyncCounters) :
    DeleteFrame w.1 ((pushPendingRemoteDeletes counters).run (netHandle env) w).2.1 := by
  rw [pushPendingRemoteDeletes, Prog.run_bind, run_logbook]
  dsimp only [MemoryStorage.exec]
  split
  · exact .refl _
  rename_i deletedRows hlist
  refine pushRemoteDeletes_run _ _ fun q hq => ?_
  have hmem := (MemoryStorage.listQsos_plain hlist).mem_iff.mp (List.mem_of_mem_filter hq)
  obtain ⟨hrow, hdeleted⟩ := List.mem_filter.mp hmem
  have hget := MemoryState.mem_rows.mp hrow
  exact ⟨hids _ _ hget hdeleted, q, hget, hdeleted⟩

/-! ### Metadata -/

theorem countToPersist_run (metadata : SyncMetadata)
    (status : Except ApiException QrzLogbookStatus) (counters : SyncCounters) :
    ((countToPersist metadata status counters).run (netHandle env) w).2 = w := by
  cases status with
  | ok status => rfl
  | error e =>
      rw [countToPersist, Prog.run_bind, run_logbook]
      rfl

/-- The last phase leaves the rows alone. -/
theorem storeMetadata_run (metadata : SyncMetadata)
    (status : Except ApiException QrzLogbookStatus) (counters : SyncCounters) (id : String) :
    ((storeMetadata metadata status counters).run (netHandle env) w).2.1.get id = w.1.get id := by
  simp only [storeMetadata, Prog.run_bind, countToPersist_run, run_utcNow]
  rfl

end QsoRipper.DotNet
