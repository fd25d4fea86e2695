/-
QsoRipper/DotNet/Contacts.lean

What the operator's calls do to the part of a row by which a duplicate is
recognised: an upload leaves it as it is, `UpdateQso` writes the row it was
given, `DeleteQso` hides the row and `RestoreQso` shows it again.
-/
import QsoRipper.DotNet.Linkage

namespace QsoRipper.DotNet

open Interaction

variable {ε : Type} {env : NetEnvironment ε} {w : NetWorld ε} {s s' s'' : MemoryState}

/-! ### The contact of a row -/

/-- A record with nothing but what a duplicate is recognised by, and whether it
is in the trash. -/
def contact (r : QsoRecord) : QsoRecord :=
  { stationCallsign := r.stationCallsign
    workedCallsign := r.workedCallsign
    utcTimestamp := r.utcTimestamp
    band := r.band
    mode := r.mode
    frequencyKhz := r.frequencyKhz
    frequencyHz := r.frequencyHz
    submode := r.submode
    deletedAt := r.deletedAt }

theorem qsosMatchForDuplicate_contact (r c : QsoRecord) :
    qsosMatchForDuplicate (contact r) c = qsosMatchForDuplicate r c := rfl

/-- Row by row the same contact. -/
def SameContacts (s s' : MemoryState) : Prop :=
  ∀ id, (s'.get id).map contact = (s.get id).map contact

theorem SameContacts.refl (s : MemoryState) : SameContacts s s := fun _ => rfl

theorem SameContacts.trans (h : SameContacts s s') (h' : SameContacts s' s'') :
    SameContacts s s'' := fun id => (h' id).trans (h id)

theorem sameContacts_put {r r' : QsoRecord} (hr : s.get r'.localId = some r)
    (hcontact : contact r' = contact r) : SameContacts s (s.put r') := by
  intro id
  rw [MemoryState.get_put]
  split
  · rename_i hid
    subst hid
    rw [hr, Option.map_some, Option.map_some, hcontact]
  · rfl

/-! ### Programs that change no contact -/

/-- Whatever the store, the program leaves every contact as it is. -/
def KeepsContacts (env : NetEnvironment ε) {α : Type} (p : NetProgram α) : Prop :=
  ∀ w, SameContacts w.1 (p.run (netHandle env) w).2.1

namespace KeepsContacts

variable {α β : Type}

theorem pure (a : α) : KeepsContacts env (Pure.pure a : NetProgram α) := fun w => .refl w.1

theorem bind {p : NetProgram α} {f : α → NetProgram β} (hp : KeepsContacts env p)
    (hf : ∀ a, KeepsContacts env (f a)) : KeepsContacts env (p >>= f) := by
  intro w
  rw [Prog.run_bind]
  exact (hp w).trans (hf _ _)

theorem qrzApi (c : QrzApiCmd) : KeepsContacts env (DotNet.qrzApi c) := fun w => .refl w.1

theorem lotwApi (c : LotwApiCmd) : KeepsContacts env (DotNet.lotwApi c) := fun w => .refl w.1

theorem utcNow : KeepsContacts env DotNet.utcNow := fun w => .refl w.1

theorem logbook {c : LogbookCmd} (hc : ∀ s, SameContacts s (MemoryStorage.exec c s).2) :
    KeepsContacts env (DotNet.logbook c) := fun w => hc w.1

theorem callStore {c : LogbookCmd} {f : c.Value → NetProgram (Except EngineException α)}
    (hc : ∀ s, SameContacts s (MemoryStorage.exec c s).2) (hf : ∀ v, KeepsContacts env (f v)) :
    KeepsContacts env (DotNet.callStore c f) := by
  refine .bind (.logbook hc) fun answer => ?_
  cases answer with
  | error ex => exact .pure _
  | ok value => exact hf value

end KeepsContacts

/-! ### Uploads -/

theorem updateQrzSyncMetadata_contacts (localId : String) (expectedUpdatedAt : Option Timestamp)
    (qrzLogid : String) (s : MemoryState) :
    SameContacts s
      (MemoryStorage.exec (.updateQrzSyncMetadata localId expectedUpdatedAt qrzLogid) s).2 := by
  show SameContacts s (MemoryStorage.updateQrzSyncMetadata s localId expectedUpdatedAt qrzLogid).2
  rw [MemoryStorage.updateQrzSyncMetadata]
  split
  · exact .refl s
  · rcases hr : s.get (Text.trim localId) with - | r
    · exact .refl s
    · have hid := MemoryState.localId_of_get hr
      -- the patch has an arm for a row in the trash
      have hpatch : (MemoryStorage.patchSyncMetadata r expectedUpdatedAt qrzLogid).localId
            = Text.trim localId
          ∧ contact (MemoryStorage.patchSyncMetadata r expectedUpdatedAt qrzLogid) = contact r := by
        unfold MemoryStorage.patchSyncMetadata
        split
        · exact ⟨hid, rfl⟩
        · exact ⟨hid, rfl⟩
      exact sameContacts_put (hpatch.1 ▸ hr) hpatch.2

theorem uploadRow_contacts (current : QsoRecord) (bookOwner : Option String) :
    KeepsContacts env (uploadRow current bookOwner) := by
  intro w
  rw [uploadRow_run]
  exact .refl w.1

theorem uploadRow_logid_contacts (qso : QsoRecord) (bookOwner : Option String) :
    KeepsContacts env (do
      match ← uploadRow qso bookOwner with
      | .error ex => return (.error ex : Except ApiException NetText.NonBlank)
      | .ok (logid, _) => return .ok logid) := by
  refine .bind (uploadRow_contacts qso bookOwner) fun answer => ?_
  rcases answer with ex | ⟨logid, replaced⟩
  · exact .pure _
  · exact .pure _

theorem uploadSingleQso_contacts (qso : QsoRecord) : KeepsContacts env (uploadSingleQso qso) := by
  refine .bind (.logbook .refl) fun answer => ?_
  rcases answer with ex | metadata
  · exact .pure _
  · refine .bind (.qrzApi _) fun status => ?_
    rcases status with (message | message) | status
    · exact uploadRow_logid_contacts qso _
    · exact .pure _
    · exact uploadRow_logid_contacts qso _

theorem applySyncFlags_contacts (config : EngineConfig) (qso : QsoRecord) (syncToQrz : Bool)
    (otherwise : ℤ) : KeepsContacts env (applySyncFlags config qso syncToQrz otherwise) := by
  have hupload : KeepsContacts env (uploadOnSave config qso) := by
    unfold uploadOnSave
    split
    · exact .pure _
    · split
      · exact .pure _
      · refine .bind (uploadSingleQso_contacts qso) fun answer => ?_
        rcases answer with ex | logid
        · exact .pure _
        · exact .pure _
  unfold applySyncFlags
  split
  · exact .pure _
  · refine .bind hupload fun answer => ?_
    rcases answer with message | logid
    · exact .pure _
    · exact .callStore (updateQrzSyncMetadata_contacts _ _ _) fun _ => .pure _

/-- A row is swapped in for one with the same contact. -/
theorem swapIn_contacts (localId : String) (skipsDeleted : Bool) {prepare : NetProgram Ticks}
    (hprepare : ∀ w, (prepare.run (netHandle env) w).2.1 = w.1)
    (replacement : QsoRecord → Ticks → QsoRecord)
    (hid : ∀ r now, (replacement r now).localId = r.localId)
    (hcontact : ∀ r now, contact (replacement r now) = contact r) (attempts : ℕ) :
    KeepsContacts env (swapIn localId skipsDeleted prepare replacement attempts) := by
  induction attempts with
  | zero => exact .pure _
  | succ attempts ih =>
      intro w
      rw [swapIn, tryStore, Prog.run_bind, run_logbook]
      dsimp only [MemoryStorage.exec]
      rcases hget : MemoryStorage.getQso w.1 localId with ex | (- | current)
      · exact .refl w.1
      · exact .refl w.1
      dsimp only
      split
      · exact .refl w.1
      rw [Prog.run_bind]
      have hsame := hprepare (w.1, w.2)
      generalize (prepare.run (netHandle env) (w.1, w.2)) = prepared at hsame ⊢
      obtain ⟨now, s, e⟩ := prepared
      obtain rfl : s = w.1 := hsame
      -- nothing came between the read and the swap
      have hstored := (get_of_getQso hget).1
      have hswap : MemoryStorage.updateQsoIfUnchanged w.1 current (replacement current now)
          = (.ok true, w.1.put (replacement current now)) := by
        rw [MemoryStorage.updateQsoIfUnchanged, if_neg (not_not.mpr (hid current now).symm),
          hstored]
        exact if_pos (recordEquals_self current)
      rw [tryStore, Prog.run_bind, run_logbook]
      dsimp only [MemoryStorage.exec]
      rw [hswap]
      exact sameContacts_put ((hid current now).symm ▸ hstored) (hcontact current now)

theorem patchUpload_contacts (snapshot : QsoRecord) (success : Bool) :
    KeepsContacts env (patchUpload snapshot success) := by
  have hclock (w : NetWorld ε) : (utcNow.run (netHandle env) w).2.1 = w.1 := rfl
  have hpure (w : NetWorld ε) :
      ((return 0 : NetProgram Ticks).run (netHandle env) w).2.1 = w.1 := rfl
  let failed (r : QsoRecord) (_ : Ticks) : QsoRecord :=
    { r with lotwSyncStatus := LotwSyncStatus.failed.toI32 }
  have huploaded := swapIn_contacts snapshot.localId true hclock (uploadPatched snapshot)
    (fun _ _ => rfl) (fun _ _ => rfl)
  have hfailed := swapIn_contacts snapshot.localId true hpure failed (fun _ _ => rfl)
    (fun _ _ => rfl)
  unfold patchUpload
  split
  · exact huploaded 3
  · exact hfailed 3

theorem applyLotwSyncFlag_contacts (config : EngineConfig) (qso : QsoRecord) (syncToLotw : Bool)
    (report : SyncReport) : KeepsContacts env (applyLotwSyncFlag config qso syncToLotw report) := by
  have hfail (ex : LotwException) : KeepsContacts env
      (andThen (patchUpload qso false) fun _ =>
        return (.error ex : Except LotwException Unit)) := by
    refine .bind (patchUpload_contacts qso false) fun answer => ?_
    rcases answer with ex | value
    · exact .pure _
    · exact .pure _
  have hupload : KeepsContacts env (uploadSingleLotw qso) := by
    refine .bind (.lotwApi _) fun answer => ?_
    rcases answer with ex | count
    · exact hfail ex
    · refine .bind (patchUpload_contacts qso true) fun answer => ?_
      rcases answer with ex | value
      · exact hfail ex
      · exact .pure _
  unfold applyLotwSyncFlag
  split
  · exact .pure _
  · split
    · exact .pure _
    · refine .bind hupload fun answer => ?_
      rcases answer with ex | -
      · exact .pure _
      · exact .pure _

/-- The uploads behind a save change no contact. -/
theorem uploadSaved_contacts (config : EngineConfig) (qso : QsoRecord) (syncToQrz syncToLotw : Bool)
    (otherwise : ℤ) :
    KeepsContacts env (uploadSaved config qso syncToQrz syncToLotw otherwise) := by
  refine .bind (applySyncFlags_contacts config qso syncToQrz otherwise) fun answer => ?_
  rcases answer with ex | ⟨qso, report⟩
  · exact .pure _
  · exact .bind (applyLotwSyncFlag_contacts config qso syncToLotw report) fun _ => .pure _

/-- The outcome of one row, put before those of the rows after it. -/
theorem syncImportedQsosToQrz_cons_contacts {config : EngineConfig} {rest : List String}
    (h : KeepsContacts env (syncImportedQsosToQrz config rest)) (outcome : WsjtxQrzSyncOutcome) :
    KeepsContacts env (do
      match ← syncImportedQsosToQrz config rest with
      | .error ex => return (.error ex : Except EngineException (List WsjtxQrzSyncOutcome))
      | .ok outcomes => return .ok (outcome :: outcomes)) := by
  refine .bind h fun answer => ?_
  rcases answer with ex | outcomes
  · exact .pure _
  · exact .pure _

/-- Nor do the uploads behind an import. -/
theorem syncImportedQsosToQrz_contacts (config : EngineConfig) (localIds : List String) :
    KeepsContacts env (syncImportedQsosToQrz config localIds) := by
  have hupload (existing : QsoRecord) : KeepsContacts env (uploadImported config existing) := by
    unfold uploadImported
    split
    · exact .pure _
    · split
      · exact .pure _
      · refine .bind (uploadSingleQso_contacts existing) fun answer => ?_
        rcases answer with ex | logid
        · exact .pure _
        · refine .bind (.logbook (updateQrzSyncMetadata_contacts _ _ _)) fun answer => ?_
          rcases answer with ex | value
          · exact .pure _
          · exact .pure _
  induction localIds with
  | nil => exact .pure _
  | cons rawLocalId rest ih =>
      rw [syncImportedQsosToQrz]
      dsimp only
      split
      · exact ih
      · have hrest := syncImportedQsosToQrz_cons_contacts ih
        refine .callStore .refl fun found => ?_
        rcases found with - | existing
        · exact hrest _
        · exact .bind (hupload existing) fun _ => hrest _

/-! ### The operator's calls -/

/-- The stamps of a record that has its id. -/
theorem finalizeQsoForWrite_run (env : NetEnvironment ε) (qso : QsoRecord) (isNew : Bool) :
    ∃ row e, (finalizeQsoForWrite qso isNew).run (netHandle env) w = (row, w.1, e)
      ∧ (NetText.isWhiteSpace qso.localId = false → row.localId = qso.localId)
      ∧ (isTimestampUnset qso.utcTimestamp = false → contact row = contact qso)
      ∧ row.deletedAt = qso.deletedAt := by
  unfold finalizeQsoForWrite
  by_cases hid : NetText.isWhiteSpace qso.localId = true <;>
    by_cases hunset : isTimestampUnset qso.utcTimestamp = true <;>
      by_cases hcreated : (isNew && isTimestampUnset qso.createdAt) = true <;>
        simp [hid, hunset, hcreated, Prog.run_map, timestampNow, contact]

/-- The row `UpdateQso` writes over `existing`. -/
def writtenRow (env : NetEnvironment ε) (w : NetWorld ε) (existing qso : QsoRecord) : QsoRecord :=
  ((finalizeQsoForWrite (updatedRow existing qso) false).run (netHandle env) w).1

theorem writtenRow_localId (env : NetEnvironment ε) {existing : QsoRecord}
    (hid : NetText.isWhiteSpace existing.localId = false) (qso : QsoRecord) :
    (writtenRow env w existing qso).localId = existing.localId := by
  obtain ⟨row, e, hrun, hlocal, -⟩ :=
    finalizeQsoForWrite_run env (w := w) (updatedRow existing qso) false
  rw [writtenRow, hrun]
  exact hlocal hid

/-- `UpdateQso` throws before its write, or writes over an active row. -/
theorem replaceQso_run (env : NetEnvironment ε) (qso : Option QsoRecord) :
    (∃ ex, (replaceQso qso).run (netHandle env) w = (.error ex, w))
      ∨ ∃ q existing e, qso = some q ∧ w.1.get (Text.trim q.localId) = some existing
        ∧ existing.deletedAt = none
        ∧ validateQsoForPersistence (updatedRow existing q) = none
        ∧ (writtenRow env w existing q).localId = existing.localId
        ∧ (replaceQso qso).run (netHandle env) w
          = (.ok (writtenRow env w existing q), w.1.put (writtenRow env w existing q), e) := by
  rcases qso with - | q
  · exact .inl ⟨_, rfl⟩
  unfold replaceQso
  dsimp only
  split
  · exact .inl ⟨_, rfl⟩
  rw [callStore, Prog.run_bind, run_logbook]
  dsimp only [MemoryStorage.exec]
  rcases hget : MemoryStorage.getQso w.1 (Text.trim q.localId) with ex | (- | existing)
  · exact .inl ⟨_, rfl⟩
  · exact .inl ⟨_, rfl⟩
  dsimp only
  obtain ⟨hstored, hlocalId⟩ := get_of_getQso hget
  rw [Text.trim_trim] at hlocalId
  by_cases hdeleted : existing.deletedAt.isSome = true
  · rw [if_pos hdeleted]
    exact .inl ⟨_, rfl⟩
  rw [if_neg hdeleted]
  rcases hvalid : validateQsoForPersistence (updatedRow existing q) with - | message
  case some => exact .inl ⟨_, rfl⟩
  right
  have hwritten := writtenRow_localId env (w := w) (isWhiteSpace_of_getQso hget) q
  obtain ⟨row, e, hrun, -⟩ :=
    finalizeQsoForWrite_run env (w := w) (updatedRow existing q) false
  have hrow : writtenRow env w existing q = row := by rw [writtenRow, hrun]
  have hupdate : MemoryStorage.updateQso w.1 row = (.ok true, w.1.put row) := by
    rw [MemoryStorage.updateQso, ← hrow, hwritten, hstored]
    exact if_pos rfl
  refine ⟨q, existing, e, rfl, hlocalId ▸ hstored, Option.not_isSome_iff_eq_none.mp hdeleted,
    hvalid, hwritten, ?_⟩
  dsimp only
  rw [Prog.run_bind]
  show (Prog.run _ (callStore (.updateQso ((finalizeQsoForWrite (updatedRow existing q) false).run
    (netHandle env) w).1) _) _) = _
  rw [hrun, callStore, Prog.run_bind, run_logbook, hrow]
  dsimp only [MemoryStorage.exec]
  rw [hupdate]
  rfl

/-- `UpdateQso` changes no contact, or that of the row it writes. -/
theorem updateQso_contacts (env : NetEnvironment ε) (config : EngineConfig) (qso : Option QsoRecord)
    (syncToQrz syncToLotw : Bool) :
    SameContacts w.1 ((updateQso config qso syncToQrz syncToLotw).run (netHandle env) w).2.1
      ∨ ∃ q existing, qso = some q ∧ w.1.get (Text.trim q.localId) = some existing
        ∧ existing.deletedAt = none
        ∧ validateQsoForPersistence (updatedRow existing q) = none
        ∧ (writtenRow env w existing q).localId = existing.localId
        ∧ SameContacts (w.1.put (writtenRow env w existing q))
          ((updateQso config qso syncToQrz syncToLotw).run (netHandle env) w).2.1 := by
  rw [updateQso, Prog.run_bind]
  rcases replaceQso_run env (w := w) qso with
    ⟨ex, hrun⟩ | ⟨q, existing, e, hq, hstored, hactive, hvalid, hid, hrun⟩
  · rw [hrun]
    exact .inl (.refl w.1)
  · rw [hrun]
    refine .inr ⟨q, existing, hq, hstored, hactive, hvalid, hid, ?_⟩
    exact uploadSaved_contacts config _ syncToQrz syncToLotw _ _

/-- `DeleteQso` changes nothing, or hides a row as of now. -/
theorem deleteQso_run (env : NetEnvironment ε) (localId : String) (queueRemoteDelete : Bool) :
    ((deleteQso localId queueRemoteDelete).run (netHandle env) w).2.1 = w.1
      ∨ ∃ existing, w.1.get (Text.trim localId) = some existing
        ∧ ((deleteQso localId queueRemoteDelete).run (netHandle env) w).2.1
          = w.1.put
            { existing with
              deletedAt := some (fromDateTimeOffset (env.utcNow w.2).1)
              pendingRemoteDelete := queueRemoteDelete && hasLogid existing } := by
  unfold deleteQso
  split
  · exact .inl rfl
  dsimp only
  rw [callStore, Prog.run_bind, run_logbook]
  dsimp only [MemoryStorage.exec]
  rcases hget : MemoryStorage.getQso w.1 (Text.trim localId) with ex | (- | existing)
  · exact .inl rfl
  · exact .inl rfl
  dsimp only
  obtain ⟨hstored, hlocalId⟩ := get_of_getQso hget
  have hblank := isWhiteSpace_of_getQso hget
  rw [Text.trim_trim] at hlocalId
  rw [hlocalId] at hstored hblank
  right
  refine ⟨existing, hstored, ?_⟩
  rw [Prog.run_bind, run_utcNow, callStore, Prog.run_bind, run_logbook]
  dsimp only [MemoryStorage.exec]
  rw [MemoryStorage.softDeleteQso, MemoryStorage.amend, hblank, Text.trim_trim, hstored]
  rfl

/-- The demotion of a restored row is no edit. -/
theorem demoteRestored_contacts (existing : QsoRecord) (localId : String) :
    KeepsContacts env (demoteRestored existing localId) := by
  unfold demoteRestored
  split
  · exact .pure _
  intro w
  rw [callStore, Prog.run_bind, run_logbook]
  dsimp only [MemoryStorage.exec]
  rcases hget : MemoryStorage.getQso w.1 localId with ex | (- | afterRestore)
  · exact .refl w.1
  · exact .refl w.1
  dsimp only
  split
  · exact .refl w.1
  have hstored := (get_of_getQso hget).1
  rw [timestampNow, Prog.run_bind, Prog.run_bind, run_utcNow, Prog.run_pure]
  rw [callStore, Prog.run_bind, run_logbook]
  dsimp only [MemoryStorage.exec]
  rw [MemoryStorage.updateQso, hstored, Option.isSome_some, if_pos rfl]
  exact sameContacts_put hstored rfl

/-- The read behind a restore, which tells whether a row came back. -/
theorem readRestored_contacts (existing : QsoRecord) (localId : String) (restored : Bool) :
    KeepsContacts env (do
      match ← demoteRestored existing (Text.trim localId) with
      | .error ex => return (.error ex : Except EngineException (Bool × Option QsoRecord))
      | .ok () =>
          callStore (.getQso (Text.trim localId)) fun row => return .ok (restored, row)) := by
  refine .bind (demoteRestored_contacts existing (Text.trim localId)) fun answer => ?_
  rcases answer with ex | -
  · exact .pure _
  · exact .callStore .refl fun _ => .pure _

/-- `RestoreQso` changes nothing, or shows a row. -/
theorem restoreQso_contacts (env : NetEnvironment ε) (localId : String) :
    ((restoreQso localId).run (netHandle env) w).2.1 = w.1
      ∨ ∃ existing, w.1.get (Text.trim localId) = some existing
        ∧ SameContacts (w.1.put { existing with deletedAt := none, pendingRemoteDelete := false })
          ((restoreQso localId).run (netHandle env) w).2.1 := by
  unfold restoreQso
  split
  · exact .inl rfl
  dsimp only
  rw [callStore, Prog.run_bind, run_logbook]
  dsimp only [MemoryStorage.exec]
  rcases hget : MemoryStorage.getQso w.1 (Text.trim localId) with ex | (- | existing)
  · exact .inl rfl
  · exact .inl rfl
  dsimp only
  obtain ⟨hstored, hlocalId⟩ := get_of_getQso hget
  have hblank := isWhiteSpace_of_getQso hget
  rw [Text.trim_trim] at hlocalId
  rw [hlocalId] at hstored hblank
  refine .inr ⟨existing, hstored, ?_⟩
  rw [callStore, Prog.run_bind, run_logbook]
  dsimp only [MemoryStorage.exec]
  rw [MemoryStorage.restoreQso, MemoryStorage.amend, hblank, Text.trim_trim, hstored]
  exact readRestored_contacts existing localId true _

end QsoRipper.DotNet
