/-
QsoRipper/Server/Insertion.lean

Every upload of the Rust server, and what it asks QRZ for.  All of them go
through `upload_single_qso`, which works on the row as the store has it and
replaces the remote record whenever the row has a logid.

The contract has one observation, the row that was read last; `Always` is proved
for each program from its text, and what holds at every request of a run is read
off from it.
-/
import QsoRipper.Application.Logbook
import QsoRipper.Lib.Contract
import QsoRipper.Server.Sync

namespace QsoRipper

open Interaction

/-! ### The callers -/

/-- `resolve_book_owner_for_upload`. -/
def resolveBookOwnerForUpload (cachedMetadata : SyncMetadata) : Program (Option String) := do
  let status ← qrz .fetchStatus
  return bookOwnerFor cachedMetadata status

/-- The metadata the uploads of a save start from; the default when it cannot be
read. -/
def cachedMetadata : Program SyncMetadata := do
  match ← store .getSyncMetadata with
  | .ok metadata => return metadata
  | .error _ => return {}

/-- `run_per_op_qrz_sync`; `client` is the error of building the client. -/
def runPerOpQrzSync (client : Option String) (stored : QsoRecord) :
    Program (Bool × Option String) :=
  match client with
  | some error => return (false, some error)
  | none => do
      let metadata ← cachedMetadata
      let bookOwner ← resolveBookOwnerForUpload metadata
      match ← syncSingleQso stored bookOwner with
      | .ok _ => return (true, none)
      | .error error => return (false, some error)

/-- What follows a save that asks for QRZ. -/
def syncSaved (client : Option String) (syncToQrz : Bool)
    (saved : Except LogbookError QsoRecord) : Program Unit :=
  match saved with
  | .error _ => return ()
  | .ok stored =>
      if syncToQrz then do
        let _ ← runPerOpQrzSync client stored
        return ()
      else return ()

/-- `sync_imported_qsos`, behind the building of its client. -/
def syncAffected (bookOwner : Option String) : List QsoRecord → Program Unit
  | [] => return ()
  | qso :: rest => do
      let _ ← syncSingleQso qso bookOwner
      syncAffected bookOwner rest

/-- A call that may upload. -/
inductive UploadCall where
  | sync (fullSync : Bool) (policy : ConflictPolicy)
  | log (qso : QsoRecord) (client : Option String) (syncToQrz : Bool)
  | update (qso : QsoRecord) (client : Option String) (syncToQrz : Bool)
  /-- The sync after an import, for the rows the import has inserted or refreshed. -/
  | imported (affected : List QsoRecord)

/-- The call as a program. -/
def UploadCall.program (formatDate : ℤ → Option String) : UploadCall → Program Unit
  | sync fullSync policy => executeSync formatDate fullSync policy
  | log qso client syncToQrz => do
      let saved ← logQso qso
      syncSaved client syncToQrz saved
  | update qso client syncToQrz => do
      let saved ← updateQso qso
      syncSaved client syncToQrz saved
  | imported affected => do
      let metadata ← cachedMetadata
      let bookOwner ← resolveBookOwnerForUpload metadata
      syncAffected bookOwner affected

/-! ### The contract -/

/-- The record a command uploads. -/
def requestOf : Cmd → Option QsoRecord
  | .qrz (.uploadQso qso _) | .qrz (.uploadQsoWithReplace qso _) | .qrz (.replaceQso _ qso _) =>
      some qso
  | _ => none

/-- The row that is at hand after a command. -/
def nextAtHand (row : Option QsoRecord) : (c : Cmd) → c.Answer → Option QsoRecord
  | .store (.getQso _), .ok found => found
  | .store _, _ => none
  | _, _ => row

/-- An upload sends the row at hand, and replaces the record of its logid if it
has one. -/
def uploadsRow : Contract Cmd Cmd.Answer (Option QsoRecord) where
  allowed row c := ∀ q, requestOf c = some q →
    row = some q ∧ ∀ logid, q.qrzLogid = some logid → logid ≠ "" →
      ∃ bookOwner, c = .qrz (.replaceQso logid q bookOwner)
  next := nextAtHand

theorem uploadsRow_allowed {c : Cmd} (hc : requestOf c = none) (row : Option QsoRecord) :
    uploadsRow.allowed row c := by
  intro q hq
  rw [hc] at hq
  cases hq

/-- A program that uploads nothing. -/
theorem always_of_emits {α : Type} {p : Program α} (hp : p.Emits fun c => requestOf c = none) :
    p.Always uploadsRow :=
  fun _ => Prog.Emits.obeys_always (hp.mono fun _ hc row => uploadsRow_allowed hc row)

/-- The call that uploads the row at hand. -/
theorem uploadSingleQso_uploadsRow (qso : QsoRecord) (bookOwner : Option String) :
    (uploadSingleQso qso bookOwner).Obeys uploadsRow (fun _ _ => True) (some qso) := by
  have hunlinked (h : (qso.qrzLogid.filter fun s => !s.isEmpty) = none) :
      ∀ logid, qso.qrzLogid = some logid → logid ≠ "" → False := by
    intro logid hlogid hne
    rw [hlogid] at h
    simp [Option.filter, hne] at h
  rw [uploadSingleQso]
  split
  · rename_i logid hlogid
    refine ⟨?_, fun r => ?_⟩
    · intro q hq
      cases hq
      refine ⟨rfl, fun logid' hlogid' _ => ⟨bookOwner, ?_⟩⟩
      rw [Option.filter_eq_some_iff, hlogid'] at hlogid
      cases hlogid.1
      rfl
    · rcases r with e | result <;> trivial
  · rename_i hnone
    refine ⟨?_, fun r => ?_⟩
    · intro q hq
      cases hq
      exact ⟨rfl, fun logid hlogid hne => (hunlinked hnone logid hlogid hne).elim⟩
    rcases r with e | result
    · cases e with
      | apiError reason =>
          show Prog.Obeys _ _ (if isDuplicateError reason then _ else _) _
          split
          · refine ⟨?_, fun r => ?_⟩
            · intro q hq
              cases hq
              exact ⟨rfl, fun logid hlogid hne => (hunlinked hnone logid hlogid hne).elim⟩
            · rcases r with e | result <;> trivial
          · trivial
      | _ => trivial
    · trivial

theorem syncSingleQso_always (qso : QsoRecord) (bookOwner : Option String) :
    (syncSingleQso qso bookOwner).Always uploadsRow := by
  refine fun t => ⟨uploadsRow_allowed rfl t, fun r => ?_⟩
  rcases r with e | - | current
  · trivial
  · trivial
  -- the row that was found is at hand now
  show Prog.Obeys _ _ (if current.deletedAt.isSome then _ else _) (some current)
  split
  · trivial
  show Prog.Obeys _ _ (uploadSingleQso current bookOwner >>= _) (some current)
  rw [Prog.obeys_bind]
  refine (uploadSingleQso_uploadsRow current bookOwner).mono fun t outcome _ => ?_
  rcases outcome with e | ⟨result, replaced⟩
  · trivial
  · refine ⟨uploadsRow_allowed rfl t, fun r => ?_⟩
    rcases r with e | - | patched <;> trivial

/-! ### The phases of a sync -/

theorem uploadAll_always (bookOwner : Option String) (qsos : List QsoRecord)
    (uploadedLogids : Finset String) (counters : SyncCounters) :
    (uploadAll bookOwner qsos uploadedLogids counters).Always uploadsRow := by
  induction qsos generalizing uploadedLogids counters with
  | nil => exact .pure _
  | cons qso rest ih => exact (syncSingleQso_always qso bookOwner).bind fun outcome => ih _ _

/-- A command that uploads nothing, before the rest of a program. -/
theorem always_cmd {α : Type} {c : Cmd} {k : c.Answer → Program α} (hc : requestOf c = none)
    (hk : ∀ r, (k r).Always uploadsRow) : Prog.Always uploadsRow (.cmd c k) :=
  .cmd (uploadsRow_allowed hc) hk

theorem uploadPhase_always (bookOwner : Option String) (selection : UploadSelection)
    (counters : SyncCounters) : (uploadPhase bookOwner selection counters).Always uploadsRow := by
  refine always_cmd rfl fun _ => always_cmd rfl fun r => ?_
  rcases r with e | qsos
  · exact uploadAll_always _ _ _ _
  · exact uploadAll_always _ _ _ _

theorem mergeWithLocal_always (mine remote : QsoRecord) (remoteLogid : Option String)
    (policy : ConflictPolicy) (counters : SyncCounters) :
    (mergeWithLocal mine remoteLogid remote policy counters).Always uploadsRow := by
  have hswap : ∀ {replacement : QsoRecord} {f : Except StorageError Bool → SyncCounters},
      Prog.Always uploadsRow (do
        let answer ← store (.updateQsoIfUnchanged mine replacement)
        return f answer) := always_cmd rfl fun _ => .pure _
  rw [mergeWithLocal]
  split
  · exact hswap
  · exact hswap
  · cases policy with
    | lastWriteWins =>
        rw [resolveModifiedConflict]
        dsimp only
        split
        · exact hswap
        · exact .pure _
    | unspecified => exact hswap
    | flagForReview => exact hswap
  · exact .pure _
  · exact .pure _

theorem processRemoteQsos_always (ctx : DownloadContext) (remotes : List QsoRecord)
    (st : DownloadState) : (processRemoteQsos ctx remotes st).Always uploadsRow := by
  have hinsert (q : QsoRecord) (logid : Option String) (st : DownloadState) :
      (insertRow q logid st).Always uploadsRow := by
    refine always_cmd rfl fun r => ?_
    rcases r with e | ⟨⟩ <;> exact .pure _
  have hone (remote : QsoRecord) (st : DownloadState) :
      (processRemoteQso ctx remote st).Always uploadsRow := by
    rw [processRemoteQso]
    dsimp only
    split
    · exact .pure _
    split
    · exact .pure _
    split
    · exact .pure _
    split
    · rw [insertNewRemoteQso]
      split
      · exact always_cmd rfl fun localId => hinsert _ _ _
      · exact hinsert _ _ _
    · exact (mergeWithLocal_always _ _ _ _ _).bind fun counters => .pure _
  induction remotes generalizing st with
  | nil => exact .pure _
  | cons remote rest ih => exact (hone remote st).bind fun st => ih st

theorem downloadPhase_always (formatDate : ℤ → Option String) (metadata : SyncMetadata)
    (remoteQsoCount : Option ℕ) (fullSync : Bool) (policy : ConflictPolicy)
    (fresh : Finset String) (counters : SyncCounters) :
    (downloadPhase formatDate metadata remoteQsoCount fullSync policy fresh counters).Always
      uploadsRow := by
  have hfetch (sinceDate : Option String) (localQsoCount : ℕ) (counters : SyncCounters) :
      (fetchRemoteQsosForDownload sinceDate remoteQsoCount localQsoCount counters).Always
        uploadsRow := by
    refine always_cmd rfl fun r => ?_
    rcases r with e | remotes
    · exact .pure _
    · show Prog.Always _
        (ite (needsFullFetch remotes sinceDate remoteQsoCount localQsoCount = true) _ _)
      split
      · exact always_cmd rfl fun _ => always_cmd rfl fun _ => .pure _
      · exact .pure _
  refine always_cmd rfl fun _ => always_cmd rfl fun r => ?_
  rcases r with e | rows
  · exact always_cmd rfl fun _ => .pure _
  refine (hfetch _ _ _).bind fun fetched => ?_
  rcases fetched with e | remotes
  · exact always_cmd rfl fun _ => .pure _
  · exact always_cmd rfl fun _ => (processRemoteQsos_always _ _ _).bind fun st => .pure _

theorem pushPendingRemoteDeletes_always (counters : SyncCounters) :
    (pushPendingRemoteDeletes counters).Always uploadsRow := by
  have hcomplete (snapshot : QsoRecord) (attempts : ℕ) :
      (completeRemoteDelete snapshot attempts).Always uploadsRow := by
    induction attempts with
    | zero => exact .pure _
    | succ attempts ih =>
        refine always_cmd rfl fun r => ?_
        rcases r with e | - | current
        · exact .pure _
        · exact .pure _
        show Prog.Always _ (if _ then _ else _)
        split
        · exact .pure _
        refine always_cmd rfl fun r => ?_
        rcases r with e | b
        · exact .pure _
        · cases b with
          | true => exact .pure _
          | false => exact ih
  have hall (qsos : List QsoRecord) (counters : SyncCounters) :
      (pushRemoteDeletes qsos counters).Always uploadsRow := by
    induction qsos generalizing counters with
    | nil => exact .pure _
    | cons qso rest ih =>
        refine always_cmd rfl fun r => ?_
        rcases r with e | ⟨⟩
        · exact ih _
        · exact (hcomplete qso 3).bind fun outcome => ih _
  refine always_cmd rfl fun r => ?_
  rcases r with e | candidates
  · exact .pure _
  show Prog.Always _ (if (candidates.filter awaitsRemoteDelete).isEmpty then _ else _)
  split
  · exact .pure _
  · exact always_cmd rfl fun _ => hall _ _

theorem updateMetadata_always (metadata : SyncMetadata)
    (statusResult : Except QrzLogbookError QrzLogbookStatus) (counters : SyncCounters) :
    (updateMetadata metadata statusResult counters).Always uploadsRow := by
  have hremote : (remoteStatus metadata statusResult counters).Always uploadsRow := by
    rcases statusResult with e | status
    · refine .bind (p := fallbackCount metadata) ?_ fun _ => .pure _
      refine always_cmd rfl fun r => ?_
      rcases r with e | counts <;> exact .pure _
    · exact .pure _
  refine always_cmd rfl fun now => hremote.bind fun status => always_cmd rfl fun r => ?_
  rcases r with e | ⟨⟩ <;> exact .pure _

theorem executeSync_always (formatDate : ℤ → Option String) (fullSync : Bool)
    (policy : ConflictPolicy) : (executeSync formatDate fullSync policy).Always uploadsRow := by
  have hfinish (bookOwner : Option String) (metadata : SyncMetadata)
      (statusResult : Except QrzLogbookError QrzLogbookStatus) (counters : SyncCounters) :
      (finishSync bookOwner metadata statusResult counters).Always uploadsRow :=
    (uploadPhase_always _ _ _).bind fun _ => (pushPendingRemoteDeletes_always _).bind fun _ =>
      (updateMetadata_always _ _ _).bind fun _ => always_cmd rfl fun _ => .pure _
  have hbefore (bookOwner : Option String) (counters : SyncCounters) :
      (uploadBeforeDownload bookOwner policy counters).Always uploadsRow := by
    rw [uploadBeforeDownload]
    split
    · exact .pure _
    · exact uploadPhase_always _ _ _
  have hread : readMetadata.Always uploadsRow := by
    refine always_cmd rfl fun r => ?_
    rcases r with e | metadata <;> exact .pure _
  refine hread.bind fun _ => always_cmd rfl fun status => (hbefore _ _).bind fun _ => ?_
  refine (downloadPhase_always _ _ _ _ _ _ _).bind fun outcome => ?_
  cases outcome with
  | none => exact .pure _
  | some counters => exact hfinish _ _ _ _

/-! ### The other callers -/

theorem updateQso_always (qso : QsoRecord) : (updateQso qso).Always uploadsRow := by
  refine always_of_emits ((OperatorCall.update qso).reads.emits ?_ rfl ?_)
  · rintro c rfl
    rfl
  · rintro answer c ⟨existing, written, -, -, rfl⟩
    rfl

theorem logQso_always (qso : QsoRecord) : (logQso qso).Always uploadsRow := by
  rw [logQso]
  dsimp only
  split
  · exact .pure _
  split
  · refine always_cmd rfl fun localId => always_cmd rfl fun now => always_cmd rfl fun r => ?_
    rcases r with e | ⟨⟩ <;> exact .pure _
  · refine always_cmd rfl fun now => always_cmd rfl fun r => ?_
    rcases r with e | ⟨⟩ <;> exact .pure _

theorem UploadCall.always (formatDate : ℤ → Option String) (call : UploadCall) :
    (call.program formatDate).Always uploadsRow := by
  have hmetadata : cachedMetadata.Always uploadsRow := by
    refine always_cmd rfl fun r => ?_
    rcases r with e | metadata <;> exact .pure _
  have hsaved (client : Option String) (syncToQrz : Bool) (saved : Except LogbookError QsoRecord) :
      (syncSaved client syncToQrz saved).Always uploadsRow := by
    rcases saved with e | stored
    · exact .pure _
    rw [syncSaved]
    split
    · refine .bind ?_ fun _ => .pure _
      cases client with
      | some error => exact .pure _
      | none =>
          refine hmetadata.bind fun _ => always_cmd rfl fun status => ?_
          refine (syncSingleQso_always _ _).bind fun outcome => ?_
          rcases outcome with e | outcome <;> exact .pure _
    · exact .pure _
  have hall (bookOwner : Option String) (affected : List QsoRecord) :
      (syncAffected bookOwner affected).Always uploadsRow := by
    induction affected with
    | nil => exact .pure _
    | cons qso rest ih => exact (syncSingleQso_always _ _).bind fun _ => ih
  cases call with
  | sync fullSync policy => exact executeSync_always formatDate fullSync policy
  | log qso client syncToQrz => exact (logQso_always qso).bind fun saved => hsaved _ _ _
  | update qso client syncToQrz => exact (updateQso_always qso).bind fun saved => hsaved _ _ _
  | imported affected =>
      exact hmetadata.bind fun _ => always_cmd rfl fun status => hall _ _

/-! ### What is asked of QRZ -/

variable {ε : Type} {env : Environment ε}

/-- The row at hand is the one the store has. -/
theorem atHand_handle {row : Option QsoRecord} {w : World ε} (c : Cmd)
    (h : ∀ q, row = some q → w.1.get q.localId = some q) :
    ∀ q, nextAtHand row c (handle env c w).1 = some q →
      (handle env c w).2.1.get q.localId = some q := by
  obtain ⟨s, e⟩ := w
  intro q hq
  cases c with
  | store c =>
      cases c with
      | getQso localId =>
          have hq : s.get localId = some q := hq
          rw [MemoryState.localId_of_get hq]
          exact hq
      | _ => cases hq
  | _ => exact h q hq

/-- **The Rust server never inserts a contact that QRZ has**: whenever an upload
is sent for a row that has a logid at that moment, it replaces the record under
that logid. -/
theorem UploadCall.replaces_linked (formatDate : ℤ → Option String) (call : UploadCall)
    (w : World ε) :
    ∀ m ∈ (call.program formatDate).trace (handle env) w, ∀ q, requestOf m.2.1 = some q →
      ∀ r logid, m.1.1.get q.localId = some r → r.qrzLogid = some logid → logid ≠ "" →
        ∃ bookOwner, m.2.1 = .qrz (.replaceQso logid r bookOwner) := by
  intro m hm q hq r logid hr hlogid hne
  have hrun := Prog.Obeys.run (h := handle env) (E := fun _ => True)
    (J := fun row (w : World ε) => ∀ q, row = some q → w.1.get q.localId = some q)
    (fun row w c hJ _ _ => atHand_handle c hJ) (call.always formatDate none)
    (s := w) (fun _ h => by cases h) fun _ _ => trivial
  obtain ⟨row, hrow, hallowed⟩ := hrun.1 m hm
  obtain ⟨hhand, hreplaces⟩ := hallowed q hq
  have hstored := hrow q hhand
  rw [hr] at hstored
  cases hstored
  exact hreplaces logid hlogid hne

end QsoRipper
