/-
QsoRipper/Server/Interference.lean

The sync against concurrent operator writes.  A pool runs `execute_sync`
beside arbitrary other programs; each store write of the sync is compared with
the row as it stands immediately before that write, whoever wrote it last.
-/
import QsoRipper.Application.Logbook
import QsoRipper.Server.Contract

namespace QsoRipper

open Interaction MemoryState

/-! ### Rows under a sync write -/

/-- A record without the three fields that belong to the sync. -/
def contactFields (qso : QsoRecord) : QsoRecord :=
  { qso with qrzLogid := none, syncStatus := 0, pendingRemoteDelete := false }

/-- How a sync write may change a row, given the snapshots the sync has read. -/
inductive RowChange (seen : Set QsoRecord) (before : QsoRecord) : QsoRecord → Prop
  | untouched : RowChange seen before before
  /-- A download merge: the row equals the snapshot it was decided on. -/
  | merged {snapshot remote after : QsoRecord} :
      snapshot ∈ seen → (before == snapshot) = true →
      (after = overwritten snapshot remote (extractQrzLogid remote)
        ∨ after = linked snapshot remote (extractQrzLogid remote)) →
      RowChange seen before after
  /-- A conflict mark: likewise. -/
  | marked {snapshot : QsoRecord} :
      snapshot ∈ seen → (before == snapshot) = true → RowChange seen before (conflicted snapshot)
  /-- An upload completion, on whatever the row is by then. -/
  | uploaded (logid : String) (status : ℤ) (pending : Bool) :
      (before.deletedAt = none → pending = before.pendingRemoteDelete) →
      RowChange seen before
        { before with
          qrzLogid := some logid, syncStatus := status, pendingRemoteDelete := pending }
  /-- A remote-delete completion. -/
  | remoteDeleted {snapshot : QsoRecord} :
      snapshot ∈ seen → (before == snapshot) = true → RowChange seen before (cleared snapshot)

theorem RowChange.of_decision {t : SyncView} {before snapshot after : QsoRecord}
    (hseen : snapshot ∈ t.seen) (heq : (before == snapshot) = true) (h : Decision t snapshot after) :
    RowChange t.seen before after := by
  cases h with
  | overwrite => exact .merged hseen heq (.inl rfl)
  | link => exact .merged hseen heq (.inr rfl)
  | mark => exact .marked hseen heq
  | clear => exact .remoteDeleted hseen heq

/-- Timestamps and tombstone of a record. -/
def stamps (qso : QsoRecord) : Option Timestamp × Option Timestamp × Option Timestamp :=
  (qso.deletedAt, qso.createdAt, qso.updatedAt)

theorem stamps_of_beq {a b : QsoRecord} (h : (a == b) = true) : stamps a = stamps b :=
  QsoRecord.congr_of_beq h stamps fun _ => rfl

variable {seen : Set QsoRecord} {before after : QsoRecord}

/-- No sync write touches `deleted_at`, `created_at` or `updated_at`. -/
theorem RowChange.stamps_eq (h : RowChange seen before after) : stamps after = stamps before := by
  cases h with
  | untouched => rfl
  | merged _ heq hafter =>
      rw [stamps_of_beq heq]
      rcases hafter with rfl | rfl <;> rfl
  | marked _ heq => exact (stamps_of_beq heq).symm
  | uploaded => rfl
  | remoteDeleted _ heq => exact (stamps_of_beq heq).symm

/-- A row that differs from every snapshot keeps everything but the sync
fields. -/
theorem RowChange.contactFields_eq (h : RowChange seen before after)
    (hne : ∀ snapshot ∈ seen, (before == snapshot) = false) :
    contactFields after = contactFields before := by
  cases h with
  | untouched => rfl
  | merged hs heq _ => rw [hne _ hs] at heq; cases heq
  | marked hs heq => rw [hne _ hs] at heq; cases heq
  | uploaded => rfl
  | remoteDeleted hs heq => rw [hne _ hs] at heq; cases heq

/-! ### One write -/

theorem localId_of_decision {t : SyncView} {snapshot after : QsoRecord}
    (h : Decision t snapshot after) : after.localId = snapshot.localId := by
  cases h with
  | overwrite => rfl
  | link => rfl
  | mark => rfl
  | clear => rfl

/-- What an allowed command does to a row it finds. -/
theorem rowChange_of_allowed {ε : Type} (env : Environment ε) {w : World ε} {t : SyncView} {c : Cmd}
    (hc : SyncAllowed t c) {id : String} (hb : w.1.get id = some before) :
    ∃ after, (handle env c w).2.1.get id = some after ∧ RowChange t.seen before after := by
  have same : ∀ s : MemoryState, s.get id = some before →
      ∃ after, s.get id = some after ∧ RowChange t.seen before after :=
    fun s hs => ⟨before, hs, .untouched⟩
  cases hc with
  | @insert remote localId =>
      show ∃ after, (w.1.insertQso (newRow remote _ localId)).2.get id = some after ∧ _
      rcases w.1.insertQso_cases (newRow remote (extractQrzLogid remote) localId) with
        ⟨hfree, h⟩ | h
      · rw [h, get_put, if_neg]
        · exact same _ hb
        · rintro rfl
          rw [hfree] at hb
          cases hb
      · rw [h]
        exact same _ hb
  | @swap expected replacement hseen hd =>
      show ∃ after, (w.1.updateQsoIfUnchanged expected replacement).2.get id = some after ∧ _
      rcases w.1.updateQsoIfUnchanged_cases expected replacement with ⟨current, hg, heq, hid, h⟩ | h
      · rw [h, get_put]
        split
        · rename_i hid'
          rw [hid, hid', hb] at hg
          cases hg
          exact ⟨_, rfl, .of_decision hseen heq hd⟩
        · exact same _ hb
      · rw [h]
        exact same _ hb
  | @patch current logid =>
      show ∃ after, (w.1.updateQrzSyncMetadata current.localId current.updatedAt logid).2.get id
        = some after ∧ _
      rcases w.1.updateQrzSyncMetadata_cases current.localId current.updatedAt logid with
        ⟨record, hg, h⟩ | ⟨-, h⟩
      · rw [h, get_put, localId_patchSyncMetadata, localId_of_get hg]
        split
        · rename_i hid
          rw [hid, hb] at hg
          cases hg
          obtain ⟨status, pending, hp, hact, -⟩ :=
            patchSyncMetadata_frame before current.updatedAt logid
          exact ⟨_, rfl, hp ▸ .uploaded logid status pending hact⟩
        · exact same _ hb
      · rw [h]
        exact same _ hb
  | _ => exact same _ hb

/-! ### The guarantee -/

/-- **Stale snapshots never overwrite operator writes.**  At any point of any
interleaving with arbitrary other programs, a command of the sync changes a
stored row, relative to its value immediately before, only as `RowChange`
allows; it leaves the tombstone and the timestamps alone, and a row that no
longer equals a snapshot the sync has read keeps every contact field. -/
theorem executeSync_respects_concurrent_writes {ε β : Type} {env : Environment ε}
    {formatDate : ℤ → Option String} {fullSync : Bool} {policy : ConflictPolicy}
    {others : List (Program β)} {w : World ε} {ms : List (Move Cmd Cmd.Answer)}
    {p q : Pool Cmd Cmd.Answer (World ε) Unit β} {e : Event Cmd Cmd.Answer}
    (hrun : Pool.Run (handle env) ⟨executeSync formatDate fullSync policy, others, w⟩ ms p)
    (hstep : p.Step (handle env) (.main e) q) {id : String} {before : QsoRecord}
    (hbefore : p.state.1.get id = some before) :
    ∃ after, q.state.1.get id = some after
      ∧ RowChange (Pool.observed syncContract .start ms).seen before after
      ∧ after.deletedAt = before.deletedAt ∧ after.createdAt = before.createdAt
      ∧ after.updatedAt = before.updatedAt
      ∧ ((∀ snapshot ∈ (Pool.observed syncContract .start ms).seen,
            (before == snapshot) = false) →
          contactFields after = contactFields before) := by
  obtain ⟨hallowed, hstate⟩ := hrun.allowed hstep (executeSync_obeys formatDate fullSync policy)
  obtain ⟨after, hafter, hchange⟩ := rowChange_of_allowed env hallowed hbefore
  have hstamps := hchange.stamps_eq
  rw [stamps, stamps, Prod.mk.injEq, Prod.mk.injEq] at hstamps
  refine ⟨after, ?_, hchange, hstamps.1, hstamps.2.1, hstamps.2.2, hchange.contactFields_eq⟩
  rw [hstate]
  exact hafter

/-- A sync that is about to record an upload, after the operator deleted the
row meanwhile. -/
def deletedDuringUpload : List (Move Cmd Cmd.Answer) ×
    Pool Cmd Cmd.Answer (World Unit) Unit (Except LogbookError QsoRecord) :=
  Pool.schedule (handle quietRemote) (.replicate 12 .main ++ .replicate 3 (.other 0))
    ⟨executeSync (fun _ => none) false .flagForReview, [deleteQso "a" false],
      empty.put { localId := "a", workedCallsign := "W1AW" }, ()⟩

theorem executeSync_respects_delete : ∃ e q,
    deletedDuringUpload.2.Step (handle quietRemote) (.main e) q ∧
      ∃ after, q.state.1.get "a" = some after ∧ after.deletedAt = some ⟨1000, 0⟩ := by
  have hb : (deletedDuringUpload.2.state.1.get "a").map (·.deletedAt) = some (some ⟨1000, 0⟩) := by
    decide +kernel
  obtain ⟨before, hbefore, hdel⟩ := Option.map_eq_some_iff.mp hb
  obtain ⟨e, hstep⟩ := Pool.exists_step_main (h := handle quietRemote)
    (p := deletedDuringUpload.2) (by decide +kernel)
  obtain ⟨after, hafter, -, hdel', -⟩ :=
    executeSync_respects_concurrent_writes (Pool.schedule_run _ _) hstep hbefore
  exact ⟨e, _, hstep, after, hafter, hdel'.trans hdel⟩

end QsoRipper
