/-
QsoRipper/Lotw/Metadata.lean

The QRZ sync beside the LoTW sync.  They run under different locks and share
one record of sync metadata.  Each reads it whole, works, and writes it whole,
copying the other service's fields from what it had read; so the fields of
both survive when the two do not overlap, and otherwise the later write puts
the other service's old fields back.
-/
import QsoRipper.Lib.SharedCell
import QsoRipper.Lotw.Sync
import QsoRipper.Server.Linkage
import QsoRipper.Server.Sync

namespace QsoRipper

open Interaction

/-! ### The cell -/

/-- The metadata a command stores, if it does. -/
def storedMetadata : Cmd → Option SyncMetadata
  | .store (.upsertSyncMetadata metadata) => some metadata
  | _ => none

/-- Does the command read the metadata? -/
def readsMetadata : Cmd → Bool
  | .store .getSyncMetadata => true
  | _ => false

theorem readsMetadata_iff (c : Cmd) : readsMetadata c = true ↔ c = .store .getSyncMetadata := by
  constructor
  · intro h
    unfold readsMetadata at h
    split at h
    · rfl
    · cases h
  · rintro rfl
    rfl

theorem syncMetadata_removeAll (s : MemoryState) (ids : List String) :
    (s.removeAll ids).syncMetadata = s.syncMetadata := by
  induction ids generalizing s with
  | nil => rfl
  | cons id ids ih => exact ih (s.remove id)

/-- Only the metadata write changes the metadata. -/
theorem syncMetadata_exec (c : StoreCmd) (s : MemoryState)
    (h : storedMetadata (.store c) = none) : (MemoryState.exec c s).2.syncMetadata = s.syncMetadata := by
  cases c with
  | insertQso qso =>
      show (s.insertQso qso).2.syncMetadata = _
      rcases s.insertQso_cases qso with ⟨-, hs⟩ | hs
      · rw [hs]
        rfl
      · rw [hs]
  | updateQso qso =>
      show (s.updateQso qso).2.syncMetadata = _
      rw [MemoryState.updateQso]
      split <;> rfl
  | updateQsoIfUnchanged expected replacement =>
      show (s.updateQsoIfUnchanged expected replacement).2.syncMetadata = _
      rcases s.updateQsoIfUnchanged_cases expected replacement with ⟨_, _, _, _, hs⟩ | hs
      · rw [hs]
        rfl
      · rw [hs]
  | updateQrzSyncMetadata localId expected logid =>
      show (s.updateQrzSyncMetadata localId expected logid).2.syncMetadata = _
      rw [MemoryState.updateQrzSyncMetadata]
      split <;> rfl
  | deleteQso localId => rfl
  | softDeleteQso localId ms pending =>
      show (s.softDeleteQso localId ms pending).2.syncMetadata = _
      rw [MemoryState.softDeleteQso]
      split <;> rfl
  | restoreQso localId =>
      show (s.restoreQso localId).2.syncMetadata = _
      rw [MemoryState.restoreQso]
      split <;> rfl
  | getQso localId => rfl
  | listQsos query => rfl
  | listQsoHistory callsign limit => rfl
  | qsoCounts => rfl
  | getSyncMetadata => rfl
  | upsertSyncMetadata metadata => cases h
  | purgeDeletedQsos ids olderThan => exact syncMetadata_removeAll s _

variable {ε : Type} (env : Environment ε)

/-- The sync metadata as a shared cell. -/
def metadataCell : Cell (handle env) SyncMetadata where
  value w := w.1.syncMetadata
  read := .store .getSyncMetadata
  isRead := readsMetadata
  isRead_iff := readsMetadata_iff
  answer metadata := (.ok metadata : Except StorageError SyncMetadata)
  answer_read _ := rfl
  written := storedMetadata
  written_read := rfl
  value_write c s v h := by
    unfold storedMetadata at h
    split at h
    · cases h
      rfl
    · cases h
  value_frame c s h := by
    cases c with
    | store c => exact syncMetadata_exec c s.1 h
    | qrz c => rfl
    | lotw c => rfl
    | newLocalId => rfl
    | utcNow => rfl
    | send response => rfl

/-- The two agree in the fields of the QRZ sync. -/
def SyncMetadata.SameQrz (a b : SyncMetadata) : Prop :=
  a.qrzQsoCount = b.qrzQsoCount ∧ a.lastSync = b.lastSync ∧ a.qrzLogbookOwner = b.qrzLogbookOwner

/-- The two agree in the fields of the LoTW sync. -/
def SyncMetadata.SameLotw (a b : SyncMetadata) : Prop :=
  a.lotwLastSync = b.lotwLastSync ∧ a.lotwLastQsl = b.lotwLastQsl

instance (a b : SyncMetadata) : Decidable (a.SameQrz b) :=
  inferInstanceAs (Decidable (_ ∧ _ ∧ _))

instance (a b : SyncMetadata) : Decidable (a.SameLotw b) := inferInstanceAs (Decidable (_ ∧ _))

/-- What each sync makes of the metadata it read: the QRZ sync (`true`) keeps
the LoTW fields, the LoTW sync (`false`) keeps the others. -/
def Keeps : Bool → SyncMetadata → SyncMetadata → Prop
  | true, read, written => written.SameLotw read
  | false, read, written => written.SameQrz read

/-! ### The QRZ sync -/

section Qrz

variable {env}

theorem quiet_of_ne {c : Cmd} (hread : readsMetadata c = false) (hwrite : storedMetadata c = none) :
    (metadataCell env).Quiet c := by
  refine ⟨fun (h : c = (metadataCell env).read) => ?_, hwrite⟩
  have hc : readsMetadata c = true := (readsMetadata_iff c).mpr h
  rw [hread] at hc
  cases hc

theorem syncSingleQso_quiet (qso : QsoRecord) (bookOwner : Option String) :
    (syncSingleQso qso bookOwner).Emits (metadataCell env).Quiet := by
  refine (syncSingleQso_reads qso bookOwner).emits ?_ (quiet_of_ne rfl rfl) ?_
  · rintro c ⟨q, rfl⟩
    exact quiet_of_ne rfl rfl
  · rintro answer c ⟨current, logid, -, -, rfl⟩
    exact quiet_of_ne rfl rfl

theorem uploadAll_quiet (bookOwner : Option String) (qsos : List QsoRecord)
    (uploadedLogids : Finset String) (counters : SyncCounters) :
    (uploadAll bookOwner qsos uploadedLogids counters).Emits (metadataCell env).Quiet := by
  induction qsos generalizing uploadedLogids counters with
  | nil => trivial
  | cons qso rest ih => exact (syncSingleQso_quiet qso bookOwner).bind fun outcome => ih _ _

theorem uploadPhase_quiet (bookOwner : Option String) (selection : UploadSelection)
    (counters : SyncCounters) :
    (uploadPhase bookOwner selection counters).Emits (metadataCell env).Quiet := by
  refine ⟨quiet_of_ne rfl rfl, fun _ => ⟨quiet_of_ne rfl rfl, fun r => ?_⟩⟩
  rcases r with e | qsos
  · exact uploadAll_quiet _ _ _ _
  · exact uploadAll_quiet _ _ _ _

theorem mergeWithLocal_quiet (mine remote : QsoRecord) (remoteLogid : Option String)
    (policy : ConflictPolicy) (counters : SyncCounters) :
    (mergeWithLocal mine remoteLogid remote policy counters).Emits (metadataCell env).Quiet := by
  have hswap : ∀ {replacement : QsoRecord} {f : Except StorageError Bool → SyncCounters},
      Prog.Emits (metadataCell env).Quiet (do
        let answer ← store (.updateQsoIfUnchanged mine replacement)
        return f answer) :=
    ⟨quiet_of_ne rfl rfl, fun _ => trivial⟩
  rw [mergeWithLocal]
  split
  · exact hswap
  · exact hswap
  · cases policy with
    | lastWriteWins =>
        rw [resolveModifiedConflict]
        dsimp only
        split
        · exact hswap
        · trivial
    | unspecified => exact hswap
    | flagForReview => exact hswap
  · trivial
  · trivial

theorem processRemoteQso_quiet (ctx : DownloadContext) (remote : QsoRecord) (st : DownloadState) :
    (processRemoteQso ctx remote st).Emits (metadataCell env).Quiet := by
  have hinsert : ∀ (q : QsoRecord) (logid : Option String),
      (insertRow q logid st).Emits (metadataCell env).Quiet := by
    intro q logid
    refine ⟨quiet_of_ne rfl rfl, fun r => ?_⟩
    rcases r with e | ⟨⟩ <;> trivial
  rw [processRemoteQso]
  dsimp only
  split
  · trivial
  split
  · trivial
  split
  · trivial
  split
  · rw [insertNewRemoteQso]
    split
    · exact ⟨quiet_of_ne rfl rfl, fun localId => hinsert _ _⟩
    · exact hinsert _ _
  · exact (mergeWithLocal_quiet _ _ _ _ _).bind fun counters => trivial

theorem processRemoteQsos_quiet (ctx : DownloadContext) (remotes : List QsoRecord)
    (st : DownloadState) : (processRemoteQsos ctx remotes st).Emits (metadataCell env).Quiet := by
  induction remotes generalizing st with
  | nil => trivial
  | cons remote rest ih => exact (processRemoteQso_quiet ctx remote st).bind fun st => ih st

theorem fetchRemoteQsosForDownload_quiet (sinceDate : Option String) (remoteQsoCount : Option ℕ)
    (localQsoCount : ℕ) (counters : SyncCounters) :
    (fetchRemoteQsosForDownload sinceDate remoteQsoCount localQsoCount counters).Emits
      (metadataCell env).Quiet := by
  refine ⟨quiet_of_ne rfl rfl, fun r => ?_⟩
  rcases r with e | remotes
  · trivial
  · show Prog.Emits _
      (ite (needsFullFetch remotes sinceDate remoteQsoCount localQsoCount = true) _ _)
    split
    · exact ⟨quiet_of_ne rfl rfl, fun _ => ⟨quiet_of_ne rfl rfl, fun _ => trivial⟩⟩
    · trivial

theorem downloadPhase_quiet (formatDate : ℤ → Option String) (metadata : SyncMetadata)
    (remoteQsoCount : Option ℕ) (fullSync : Bool) (policy : ConflictPolicy)
    (fresh : Finset String) (counters : SyncCounters) :
    (downloadPhase formatDate metadata remoteQsoCount fullSync policy fresh counters).Emits
      (metadataCell env).Quiet := by
  refine ⟨quiet_of_ne rfl rfl, fun _ => ⟨quiet_of_ne rfl rfl, fun r => ?_⟩⟩
  rcases r with e | rows
  · exact ⟨quiet_of_ne rfl rfl, fun _ => trivial⟩
  refine (fetchRemoteQsosForDownload_quiet _ _ _ _).bind fun fetched => ?_
  rcases fetched with e | remotes
  · exact ⟨quiet_of_ne rfl rfl, fun _ => trivial⟩
  · exact ⟨quiet_of_ne rfl rfl, fun _ =>
      (processRemoteQsos_quiet _ _ _).bind fun st => Prog.Emits.pure _⟩

theorem completeRemoteDelete_quiet (snapshot : QsoRecord) (attempts : ℕ) :
    (completeRemoteDelete snapshot attempts).Emits (metadataCell env).Quiet := by
  induction attempts with
  | zero => trivial
  | succ attempts ih =>
      refine ⟨quiet_of_ne rfl rfl, fun r => ?_⟩
      rcases r with e | _ | current
      · trivial
      · trivial
      show Prog.Emits _ (if _ then _ else _)
      split
      · trivial
      refine ⟨quiet_of_ne rfl rfl, fun r => ?_⟩
      rcases r with e | b
      · trivial
      · cases b with
        | true => trivial
        | false => exact ih

theorem pushRemoteDeletes_quiet (qsos : List QsoRecord) (counters : SyncCounters) :
    (pushRemoteDeletes qsos counters).Emits (metadataCell env).Quiet := by
  induction qsos generalizing counters with
  | nil => trivial
  | cons qso rest ih =>
      refine ⟨quiet_of_ne rfl rfl, fun r => ?_⟩
      rcases r with e | ⟨⟩
      · exact ih _
      · exact (completeRemoteDelete_quiet qso 3).bind fun outcome => ih _

theorem pushPendingRemoteDeletes_quiet (counters : SyncCounters) :
    (pushPendingRemoteDeletes counters).Emits (metadataCell env).Quiet := by
  refine ⟨quiet_of_ne rfl rfl, fun r => ?_⟩
  rcases r with e | candidates
  · trivial
  show Prog.Emits _ (if (candidates.filter awaitsRemoteDelete).isEmpty then _ else _)
  split
  · trivial
  · exact ⟨quiet_of_ne rfl rfl, fun _ => pushRemoteDeletes_quiet _ _⟩

theorem remoteStatus_quiet (metadata : SyncMetadata)
    (statusResult : Except QrzLogbookError QrzLogbookStatus) (counters : SyncCounters) :
    (remoteStatus metadata statusResult counters).Emits (metadataCell env).Quiet := by
  rcases statusResult with e | status
  · refine Prog.Emits.bind (p := fallbackCount metadata) ?_ fun _ => Prog.Emits.pure _
    refine ⟨quiet_of_ne rfl rfl, fun r => ?_⟩
    rcases r with e | counts <;> trivial
  · trivial

/-- The end of the sync writes the LoTW fields it read. -/
theorem updateMetadata_writes (metadata : SyncMetadata)
    (statusResult : Except QrzLogbookError QrzLogbookStatus) (counters : SyncCounters) :
    (updateMetadata metadata statusResult counters).Writes (metadataCell env).Quiet
      ((metadataCell env).Makes (Keeps true) metadata) := by
  refine .quiet (quiet_of_ne rfl rfl) fun now => ?_
  refine (remoteStatus_quiet metadata statusResult counters).bind_writes fun status => ?_
  refine .write ⟨_, rfl, rfl, rfl⟩ fun r => ?_
  rcases r with e | ⟨⟩ <;> trivial

theorem downloadAndFinish_writes (formatDate : ℤ → Option String) (fullSync : Bool)
    (policy : ConflictPolicy) (metadata : SyncMetadata)
    (statusResult : Except QrzLogbookError QrzLogbookStatus) (fresh : Finset String)
    (counters : SyncCounters) :
    (downloadAndFinish formatDate fullSync policy metadata statusResult fresh counters).Writes
      (metadataCell env).Quiet ((metadataCell env).Makes (Keeps true) metadata) := by
  refine (downloadPhase_quiet _ _ _ _ _ _ _).bind_writes fun outcome => ?_
  cases outcome with
  | none => exact .pure _
  | some counters =>
      refine (uploadPhase_quiet _ _ _).bind_writes fun _ => ?_
      refine (pushPendingRemoteDeletes_quiet _).bind_writes fun counters => ?_
      exact (updateMetadata_writes metadata statusResult counters).bind_emits fun _ =>
        ⟨quiet_of_ne rfl rfl, fun _ => trivial⟩

theorem uploadBeforeDownload_quiet (bookOwner : Option String) (policy : ConflictPolicy)
    (counters : SyncCounters) :
    (uploadBeforeDownload bookOwner policy counters).Emits (metadataCell env).Quiet := by
  rw [uploadBeforeDownload]
  split
  · trivial
  · exact uploadPhase_quiet _ _ _

/-- A QRZ sync from the status on, which began with these metadata. -/
theorem executeSync_rest (formatDate : ℤ → Option String) (fullSync : Bool)
    (policy : ConflictPolicy) (metadata : SyncMetadata) (counters : SyncCounters) :
    Prog.Writes (metadataCell env).Quiet ((metadataCell env).Makes (Keeps true) metadata) (do
      let statusResult ← qrz .fetchStatus
      let (fresh, counters) ←
        uploadBeforeDownload (bookOwnerFor metadata statusResult) policy counters
      downloadAndFinish formatDate fullSync policy metadata statusResult fresh counters) := by
  refine .quiet (quiet_of_ne rfl rfl) fun statusResult => ?_
  exact (uploadBeforeDownload_quiet _ _ _).bind_writes fun r =>
    downloadAndFinish_writes _ _ _ _ _ _ _

/-- **The QRZ sync on the metadata.** -/
theorem executeSync_call (formatDate : ℤ → Option String) (fullSync : Bool)
    (policy : ConflictPolicy) :
    (metadataCell env).Call (Keeps true) (executeSync formatDate fullSync policy) := by
  refine .read fun answer => ?_
  rcases answer with e | metadata
  · refine (executeSync_rest formatDate fullSync policy {} _).mono fun c hc v hv => ?_
    cases hv
  · refine (executeSync_rest formatDate fullSync policy metadata _).mono fun c hc v hv => ?_
    cases hv
    exact hc

end Qrz

/-! ### The LoTW sync -/

namespace Lotw

variable {env} {α β : Type}

theorem andThen_writes {quiet write : Cmd → Prop} {p : Program (Except LotwError α)}
    {f : α → Program (Except LotwError β)} (hp : p.Writes quiet write)
    (hf : ∀ value, (f value).Emits quiet) : (andThen p f).Writes quiet write := by
  refine hp.bind_emits fun r => ?_
  rcases r with e | value
  · trivial
  · exact hf value

theorem patches_quiet : AllowsPatches (metadataCell env).Quiet where
  get _ := quiet_of_ne rfl rfl
  failed _ _ _ := quiet_of_ne rfl rfl
  confirmed _ _ _ := quiet_of_ne rfl rfl
  conflict _ := quiet_of_ne rfl rfl
  clock := quiet_of_ne rfl rfl

/-- A processed report writes the metadata it was fetched for, but for the two
LoTW fields. -/
theorem processReport_writes (rows : List QsoRecord) (metadata : SyncMetadata)
    (report : LotwReport) (result : LotwSyncResult) :
    (processReport rows metadata report result).Writes (metadataCell env).Quiet
      ((metadataCell env).Makes (Keeps false) metadata) := by
  refine (processConfirmations_emits patches_quiet _ _ _).bind_writes fun r => ?_
  rcases r with e | result
  · exact .pure _
  refine .quiet (quiet_of_ne rfl rfl) fun now => ?_
  refine .write ⟨_, rfl, rfl, rfl, rfl⟩ fun r => ?_
  rcases r with e | ⟨⟩ <;> trivial

/-- The download phase reads the metadata and writes its own two fields. -/
theorem downloadPhase_reads (fullSync download : Bool) (rows : List QsoRecord)
    (result : LotwSyncResult) (errors : List String) :
    (metadataCell env).Call (Keeps false) (downloadPhase fullSync download rows result errors) := by
  rw [downloadPhase]
  split
  swap
  · exact .pure _
  refine .read fun answer => ?_
  rcases answer with e | metadata
  · exact .pure _
  refine .quiet (quiet_of_ne rfl rfl) fun r => ?_
  rcases r with e | report
  · exact .pure _
  show Prog.Writes _ _ (andThen (processReport rows metadata report result) _)
  refine (andThen_writes (processReport_writes rows metadata report result) fun _ =>
    Prog.Emits.pure _).mono fun c hc v hv => ?_
  cases hv
  exact hc

/-- **The LoTW sync on the metadata.** -/
theorem executeSync_call (fullSync upload download : Bool) :
    (metadataCell env).Call (Keeps false) (executeSync fullSync upload download) := by
  refine .quiet (quiet_of_ne rfl rfl) fun r => ?_
  rcases r with e | rows
  · exact .pure _
  refine (uploadPhase_emits patches_quiet (fun _ => quiet_of_ne rfl rfl)
    (fun _ _ _ => quiet_of_ne rfl rfl) upload rows _ []).bind_reads
    fun r => ?_
  rcases r with e | progress
  · exact .pure _
  refine (downloadPhase_reads _ _ _ _ _).bind_emits fun r => ?_
  rcases r with e | progress <;> trivial

end Lotw

/-! ### The two together -/

section Both

variable {env} {formatDate : ℤ → Option String} {policy : ConflictPolicy}
  {fullSync lotwFullSync upload download : Bool} {w : World ε} {ms : List (Move Cmd Cmd.Answer)}
  {q : Pool Cmd Cmd.Answer (World ε) Unit (Except LotwError Lotw.LotwSyncResult)}
  {mine theirs : SyncMetadata}

/-- **The two syncs keep each other's metadata when they take turns.**  `mine`
is what the QRZ sync stored and `theirs` what the LoTW sync did.  If one of the
writes came before the other's read, both services' fields are in the record;
otherwise the later write has put back what the other service's fields were
before both. -/
theorem executeSync_metadata_beside_lotw
    (hrun : Pool.Run (handle env)
      ⟨executeSync formatDate fullSync policy,
        [Lotw.executeSync lotwFullSync upload download], w⟩ ms q)
    (hmine : mine ∈ (metadataCell env).valuesOf true ms)
    (htheirs : theirs ∈ (metadataCell env).valuesOf false ms) :
    (Cell.Before ((metadataCell env).history ms) true
        ∨ Cell.Before ((metadataCell env).history ms) false →
      q.state.1.syncMetadata.SameQrz mine ∧ q.state.1.syncMetadata.SameLotw theirs)
    ∧ (¬ Cell.Before ((metadataCell env).history ms) true
        ∧ ¬ Cell.Before ((metadataCell env).history ms) false →
      (q.state.1.syncMetadata = theirs ∧ theirs.SameQrz w.1.syncMetadata)
        ∨ (q.state.1.syncMetadata = mine ∧ mine.SameLotw w.1.syncMetadata)) := by
  obtain ⟨st, other, -, -, -, hrace, hvalues⟩ :=
    Cell.race_run (executeSync_call formatDate fullSync policy)
      (Lotw.executeSync_call lotwFullSync upload download) hrun
  obtain ⟨v, hv⟩ := (hvalues true mine).mp hmine
  obtain ⟨u, hu⟩ := (hvalues false theirs).mp htheirs
  generalize (metadataCell env).history ms = k at hrace
  change Cell.Race Keeps w.1.syncMetadata k st q.state.1.syncMetadata at hrace
  generalize w.1.syncMetadata = v₀ at hrace
  generalize q.state.1.syncMetadata = final at hrace
  cases hrace with
  | untouched hst _ =>
      rcases hst true with h | h <;> (rw [h] at hv; cases hv)
  | first p hp _ _ _ hother =>
      cases p with
      | true => rcases hother with h | h <;> (rw [Bool.not_true, hu] at h; cases h)
      | false => rcases hother with h | h <;> (rw [Bool.not_false, hv] at h; cases h)
  | @second p m m' hp hmade hother hmade' hbefore =>
      cases p with
      | true =>
          -- the QRZ sync wrote first
          rw [hv] at hp
          cases hp
          rw [Bool.not_true, hu] at hother
          cases hother
          by_cases hb : Cell.Before k true
          · rw [Cell.readAfter, if_pos hb] at hmade'
            exact ⟨fun _ => ⟨hmade', rfl, rfl⟩, fun h => absurd hb h.1⟩
          · rw [Cell.readAfter, if_neg hb] at hmade'
            exact ⟨fun h => absurd h (not_or.mpr ⟨hb, hbefore⟩), fun _ => .inl ⟨rfl, hmade'⟩⟩
      | false =>
          -- the LoTW sync wrote first
          rw [hu] at hp
          cases hp
          rw [Bool.not_false, hv] at hother
          cases hother
          by_cases hb : Cell.Before k false
          · rw [Cell.readAfter, if_pos hb] at hmade'
            exact ⟨fun _ => ⟨⟨rfl, rfl, rfl⟩, hmade'⟩, fun h => absurd hb h.2⟩
          · rw [Cell.readAfter, if_neg hb] at hmade'
            exact ⟨fun h => absurd h (not_or.mpr ⟨hbefore, hb⟩), fun _ => .inr ⟨rfl, hmade'⟩⟩

end Both

/-! ### Three schedules -/

/-- A QRZ sync and a LoTW sync on an empty logbook. -/
def syncsBeside (turns : List Pool.Turn) : List (Move Cmd Cmd.Answer) ×
    Pool Cmd Cmd.Answer (World Unit) Unit (Except LotwError Lotw.LotwSyncResult) :=
  Pool.schedule (handle quietRemote) turns
    ⟨executeSync (fun _ => none) false .lastWriteWins, [Lotw.executeSync false true true], MemoryState.empty, ()⟩

open Pool.Turn in
/-- The LoTW sync runs between the QRZ sync's read and write of the metadata. -/
def lotwInside : List Pool.Turn := main :: List.replicate 5 (other 0) ++ List.replicate 12 main

open Pool.Turn in
/-- The QRZ sync runs between the LoTW sync's read and write of the metadata. -/
def qrzInside : List Pool.Turn :=
  List.replicate 2 (other 0) ++ List.replicate 13 main ++ List.replicate 3 (other 0)

open Pool.Turn in
/-- The LoTW sync runs after the QRZ sync. -/
def lotwAfter : List Pool.Turn := List.replicate 13 main ++ List.replicate 5 (other 0)

/-- What the QRZ sync and then the LoTW sync store. -/
def metadataAfterQrz : SyncMetadata := { lastSync := some ⟨1000, 0⟩ }

def metadataAfterLotw : SyncMetadata := { metadataAfterQrz with lotwLastSync := some ⟨1000, 0⟩ }

/-- Both syncs have written the metadata, and the time of the one inside the
other is gone. -/
theorem executeSync_metadata_lost :
    ((((metadataCell quietRemote).valuesOf true (syncsBeside lotwInside).1).length = 1
        ∧ ((metadataCell quietRemote).valuesOf false (syncsBeside lotwInside).1).map (·.lotwLastSync)
          = [some ⟨1000, 0⟩])
      ∧ (syncsBeside lotwInside).2.state.1.syncMetadata.lotwLastSync = none)
    ∧ ((((metadataCell quietRemote).valuesOf false (syncsBeside qrzInside).1).length = 1
        ∧ ((metadataCell quietRemote).valuesOf true (syncsBeside qrzInside).1).map (·.lastSync)
          = [some ⟨1000, 0⟩])
      ∧ (syncsBeside qrzInside).2.state.1.syncMetadata.lastSync = none) := by
  decide +kernel

/-- One sync after the other: both times are in the record. -/
theorem executeSync_metadata_in_turns :
    Cell.Before ((metadataCell quietRemote).history (syncsBeside lotwAfter).1) true
    ∧ (syncsBeside lotwAfter).2.state.1.syncMetadata.SameQrz metadataAfterQrz
    ∧ (syncsBeside lotwAfter).2.state.1.syncMetadata.SameLotw metadataAfterLotw := by
  have hbefore :
      Cell.Before ((metadataCell quietRemote).history (syncsBeside lotwAfter).1) true := by
    decide +kernel
  have hmine :
      metadataAfterQrz ∈ (metadataCell quietRemote).valuesOf true (syncsBeside lotwAfter).1 := by
    decide +kernel
  have htheirs :
      metadataAfterLotw ∈ (metadataCell quietRemote).valuesOf false (syncsBeside lotwAfter).1 := by
    decide +kernel
  exact ⟨hbefore, (executeSync_metadata_beside_lotw (Pool.schedule_run lotwAfter _) hmine
    htheirs).1 (.inl hbefore)⟩

end QsoRipper
