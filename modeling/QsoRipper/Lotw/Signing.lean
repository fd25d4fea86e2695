/-
QsoRipper/Lotw/Signing.lean

What `UPLOADED` says about a row.  An upload signs copies of rows, and marks a
row as uploaded when it still has the `updated_at` of its copy.  Every edit
gives its row another `updated_at`, but a QRZ merge and the backfill keep it,
and a merge may rewrite what was signed.

`Signing` is what an upload holds meanwhile; `Signed` ties it to the store.
-/
import QsoRipper.Application.Backfill
import QsoRipper.Application.Edits
import QsoRipper.Lotw.Confirmation
import QsoRipper.Server.Sync

namespace QsoRipper.Lotw

open Interaction

/-! ### Contacts -/

/-- What is signed of a contact. -/
structure Identity where
  stationCallsign : String
  workedCallsign : String
  band : ℤ
  mode : ℤ
  submode : Option String
  frequencyKhz : Option ℕ
  frequencyHz : Option ℕ
  utcTimestamp : Option Timestamp
  deriving DecidableEq

/-- The contact a row is about. -/
def identity (qso : QsoRecord) : Identity where
  stationCallsign := qso.stationCallsign
  workedCallsign := qso.workedCallsign
  band := qso.band
  mode := qso.mode
  submode := qso.submode
  frequencyKhz := qso.frequencyKhz
  frequencyHz := qso.frequencyHz
  utcTimestamp := qso.utcTimestamp

/-- Is the row marked as uploaded? -/
def isUploaded (qso : QsoRecord) : Bool := qso.lotwSyncStatus == LotwSyncStatus.uploaded.toI32

/-- The same version of the same row, as far as uploads can tell. -/
def SameVersion (a b : QsoRecord) : Prop :=
  a.localId = b.localId ∧ a.updatedAt = b.updatedAt ∧ identity a = identity b

theorem SameVersion.of_beq {a b : QsoRecord} (h : (a == b) = true) : SameVersion a b :=
  ⟨QsoRecord.congr_of_beq h (·.localId) fun _ => rfl,
    QsoRecord.congr_of_beq h (·.updatedAt) fun _ => rfl,
    QsoRecord.congr_of_beq h identity fun _ => rfl⟩

theorem SameVersion.trans {a b c : QsoRecord} (h : SameVersion a b) (h' : SameVersion b c) :
    SameVersion a c :=
  ⟨h.1.trans h'.1, h.2.1.trans h'.2.1, h.2.2.trans h'.2.2⟩

theorem isUploaded_of_beq {a b : QsoRecord} (h : (a == b) = true) : isUploaded a = isUploaded b :=
  QsoRecord.congr_of_beq h isUploaded fun _ => rfl

/-- A row that waits for an upload is not marked as uploaded. -/
theorem not_uploaded_of_pending {qso : QsoRecord} (h : lotwUploadIsPending qso = true) :
    isUploaded qso = false := by
  rw [isUploaded, beq_eq_false_iff_ne]
  intro heq
  rw [lotwUploadIsPending, heq] at h
  cases h

/-- The completion of an upload changes neither the contact nor its stamp. -/
theorem sameVersion_uploadPatched (current snapshot : QsoRecord) (now : Timestamp)
    (success : Bool) : SameVersion (uploadPatched current snapshot now success) current := by
  rw [uploadPatched]
  split
  · exact ⟨rfl, rfl, rfl⟩
  · exact ⟨rfl, rfl, rfl⟩

/-- It marks the row as uploaded when it has the stamp of the copy. -/
theorem isUploaded_uploadPatched {current snapshot : QsoRecord} {now : Timestamp}
    (h : isUploaded (uploadPatched current snapshot now true) = true) :
    current.updatedAt = snapshot.updatedAt := by
  rw [isUploaded, uploadPatched, if_pos rfl, beq_iff_eq] at h
  by_contra hne
  rw [if_neg hne] at h
  cases h

theorem not_uploaded_of_failed (current snapshot : QsoRecord) (now : Timestamp) :
    isUploaded (uploadPatched current snapshot now false) = false := rfl

/-! ### What an upload holds -/

/-- What a sync or an upload has observed. -/
structure Signing where
  /-- The copies of rows it may yet mark as uploaded. -/
  held : List QsoRecord := []
  /-- They have been signed. -/
  signed : Bool := false
  /-- The store has answered with another row than the one asked for. -/
  broken : Bool := false

/-- What an answer adds. -/
def Signing.next (t : Signing) : (c : Cmd) → Cmd.Answer c → Signing
  | .store (.listQsos _), .ok rows =>
      { t with held := rows.filter lotwUploadIsPending, signed := false }
  | .store .getSyncMetadata, _ => { t with held := [], signed := false }
  | .store (.getQso id), .ok (some row) =>
      if row.localId = id then t else { t with broken := true }
  | .lotw (.uploadQsos qsos), .ok _ => { t with held := qsos, signed := true }
  | .lotw (.uploadQsos _), .error _ => { t with held := [], signed := false }
  | _, _ => t

/-- The commands of syncs and uploads. -/
inductive Signing.Allowed (t : Signing) : Cmd → Prop
  | list : Allowed t (.store (.listQsos localQuery))
  | get (id : String) : Allowed t (.store (.getQso id))
  | metadata : Allowed t (.store .getSyncMetadata)
  | upsert (metadata : SyncMetadata) : Allowed t (.store (.upsertSyncMetadata metadata))
  | fetch (since : Option String) : Allowed t (.lotw (.fetchConfirmations since))
  | clock : Allowed t .utcNow
  | signHeld : t.signed = false → Allowed t (.lotw (.uploadQsos t.held))
  | signOne (snapshot : QsoRecord) : Allowed t (.lotw (.uploadQsos [snapshot]))
  | complete {current snapshot : QsoRecord} {now : Timestamp} :
      t.signed = true → snapshot ∈ t.held → current.localId = snapshot.localId →
      Allowed t (.store (.updateQsoIfUnchanged current (uploadPatched current snapshot now true)))
  | mark {current next : QsoRecord} :
      SameVersion next current → isUploaded next = false →
      Allowed t (.store (.updateQsoIfUnchanged current next))
  | broken {c : Cmd} : t.broken = true → Allowed t c

/-- The contract of syncs and uploads. -/
def signingContract : Contract Cmd Cmd.Answer Signing where
  allowed := Signing.Allowed
  next := Signing.next

section Obeys

variable {α β : Type} {t : Signing}

theorem Signing.broken_next {c : Cmd} {r : Cmd.Answer c} (h : t.broken = true) :
    (t.next c r).broken = true := by
  unfold Signing.next
  split <;> try exact h
  split
  · exact h
  · rfl

/-- Nothing is asked of a program that has been answered with another row. -/
theorem obeys_of_broken (p : Program α) (h : t.broken = true) :
    p.Obeys signingContract (fun t' _ => t'.broken = true) t := by
  induction p generalizing t with
  | pure a => exact h
  | cmd c k ih => exact ⟨.broken h, fun r => ih r (Signing.broken_next h)⟩

/-- What has been observed is still the same, unless nothing counts. -/
def Steady (t t' : Signing) : Prop := t' = t ∨ t'.broken = true

/-- The loop of a patch that is allowed on the row it has asked for. -/
theorem swapIn_steady {id : String} {skipsDeleted : Bool}
    {replacement : QsoRecord → Unit → QsoRecord} {swapped notSwapped : α}
    (hswap : ∀ current, current.localId = id →
      t.Allowed (.store (.updateQsoIfUnchanged current (replacement current ()))))
    (attempts : ℕ) :
    (swapIn id skipsDeleted (return ()) replacement swapped notSwapped attempts).Obeys
      signingContract (fun t' _ => Steady t t') t := by
  induction attempts with
  | zero => exact .inl rfl
  | succ attempts ih =>
      refine ⟨.get id, fun r => ?_⟩
      rcases r with e | _ | current
      · exact .inl rfl
      · exact .inl rfl
      by_cases hid : current.localId = id
      swap
      · have hbroken : (signingContract.next t (.store (.getQso id)) (.ok (some current))).broken
            = true := by
          show Signing.broken (if current.localId = id then t else { t with broken := true }) = true
          rw [if_neg hid]
        exact (obeys_of_broken _ hbroken).mono fun t' _ h => .inr h
      rw [show signingContract.next t (.store (.getQso id)) (.ok (some current)) = t from if_pos hid]
      show Prog.Obeys _ _ (ite ((skipsDeleted && current.deletedAt.isSome) = true) _ _) t
      split
      · exact .inl rfl
      refine ⟨hswap current hid, fun r => ?_⟩
      rcases r with e | _ | _
      · exact .inl rfl
      · exact ih
      · exact .inl rfl

theorem patchUploadResult_steady {snapshot : QsoRecord} {now : Timestamp}
    (hsigned : t.signed = true) (hheld : snapshot ∈ t.held) :
    (patchUploadResult snapshot now true).Obeys signingContract (fun t' _ => Steady t t') t :=
  swapIn_steady (fun _ hid => .complete hsigned hheld hid) 3

theorem patchUploaded_steady {now : Timestamp} (hsigned : t.signed = true) (rows : List QsoRecord)
    (hheld : ∀ row ∈ rows, row ∈ t.held) :
    (patchUploaded now rows).Obeys signingContract (fun t' _ => Steady t t') t := by
  induction rows with
  | nil => exact .inl rfl
  | cons row rest ih =>
      obtain ⟨hrow, hrest⟩ := List.forall_mem_cons.mp hheld
      refine andThen_obeys ((patchUploadResult_steady hsigned hrow).mono fun t' r ht' => ?_)
      rcases r with e | ⟨⟩
      · exact ht'
      · rcases ht' with rfl | hbroken
        · exact ih hrest
        · exact (obeys_of_broken _ hbroken).mono fun _ _ h => .inr h

/-- The marks that an upload does not sign for are always allowed. -/
theorem marks_allowed : AllowsPatches fun c => ∀ t : Signing, t.Allowed c where
  get id _ := .get id
  failed current snapshot now _ :=
    .mark (sameVersion_uploadPatched current snapshot now false)
      (not_uploaded_of_failed current snapshot now)
  confirmed _ _ _ _ := .mark ⟨rfl, rfl, rfl⟩ rfl
  conflict _ _ := .mark ⟨rfl, rfl, rfl⟩ rfl
  clock _ := .clock

theorem andThen_always {p : Program (Except LotwError α)} {f : α → Program (Except LotwError β)}
    (hp : p.Obeys signingContract (fun _ _ => True) t)
    (hf : ∀ a t, (f a).Obeys signingContract (fun _ _ => True) t) :
    (andThen p f).Obeys signingContract (fun _ _ => True) t := by
  refine andThen_obeys (hp.mono fun t' r _ => ?_)
  rcases r with e | a
  · trivial
  · exact hf a t'

theorem uploadPhase_allowed (upload : Bool) (rows : List QsoRecord) (result : LotwSyncResult)
    (errors : List String) (hsigned : t.signed = false)
    (hheld : t.held = rows.filter lotwUploadIsPending) :
    (uploadPhase upload rows result errors).Obeys signingContract (fun _ _ => True) t := by
  rw [uploadPhase]
  split
  · refine ⟨hheld ▸ .signHeld hsigned, fun r => ?_⟩
    rcases r with e | submitted
    · exact andThen_always (patchFailed_emits marks_allowed _).obeys_always fun _ _ => trivial
    · refine ⟨.clock, fun now => ?_⟩
      refine andThen_always ?_ fun _ _ => trivial
      have hsteady := @patchUploaded_steady
        { t with held := rows.filter lotwUploadIsPending, signed := true } now rfl
        (rows.filter lotwUploadIsPending) fun _ h => h
      exact hsteady.mono fun _ _ _ => trivial
  · trivial

theorem downloadPhase_allowed (fullSync download : Bool) (rows : List QsoRecord)
    (result : LotwSyncResult) (errors : List String) :
    (downloadPhase fullSync download rows result errors).Emits
      fun c => ∀ t : Signing, t.Allowed c := by
  rw [downloadPhase]
  split
  · refine tryStore_emits (fun _ => .metadata) fun metadata => ?_
    refine ⟨fun _ => .fetch _, fun r => ?_⟩
    rcases r with e | fetchedReport
    · trivial
    · refine andThen_emits ?_ fun _ => trivial
      refine andThen_emits (processConfirmations_emits marks_allowed _ _ _) fun result => ?_
      exact ⟨fun _ => .clock, fun now => tryStore_emits (fun _ => .upsert _) fun _ => trivial⟩
  · trivial

theorem executeSync_allowed (fullSync upload download : Bool) :
    (executeSync fullSync upload download).Obeys signingContract (fun _ _ => True) t := by
  refine ⟨.list, fun r => ?_⟩
  rcases r with e | rows
  · trivial
  refine andThen_always (uploadPhase_allowed upload rows _ [] rfl rfl) fun progress t => ?_
  refine andThen_always ?_ fun _ _ => trivial
  exact (downloadPhase_allowed fullSync download rows progress.1 progress.2).obeys_always

theorem uploadSingleQso_allowed (snapshot : QsoRecord) :
    (uploadSingleQso snapshot).Obeys signingContract (fun _ _ => True) t := by
  refine ⟨.signOne snapshot, fun r => ?_⟩
  rcases r with e | submitted
  · refine ⟨.clock, fun now => ?_⟩
    refine andThen_always (Prog.Emits.obeys_always ?_) fun _ _ => trivial
    exact swapIn_emits (fun _ => .get _) trivial fun current _ => marks_allowed.failed current _ now
  · refine ⟨.clock, fun now => ?_⟩
    refine andThen_always ?_ fun _ t => Prog.Emits.obeys_always ?_
    · exact (patchUploadResult_steady rfl (List.mem_singleton_self _)).mono fun _ _ _ => trivial
    · refine tryStore_emits (fun _ => .get _) fun row => ?_
      rcases row with _ | row <;> trivial

/-! ### Calls under the upload lock -/

/-- A call that uploads to LoTW. -/
inductive LotwCall where
  | sync (fullSync upload download : Bool)
  | single (snapshot : QsoRecord)

def LotwCall.program : LotwCall → Program Unit
  | sync fullSync upload download => do
      let _ ← executeSync fullSync upload download
      return ()
  | single snapshot => do
      let _ ← uploadSingleQso snapshot
      return ()

/-- Calls one after the other, as the upload lock orders them. -/
def lotwCalls : List LotwCall → Program Unit
  | [] => return ()
  | call :: rest => do
      call.program
      lotwCalls rest

theorem lotwCalls_allowed (calls : List LotwCall) :
    (lotwCalls calls).Obeys signingContract (fun _ _ => True) t := by
  induction calls generalizing t with
  | nil => trivial
  | cons call rest ih =>
      rw [lotwCalls, Prog.obeys_bind]
      cases call with
      | sync fullSync upload download =>
          rw [LotwCall.program, Prog.obeys_bind]
          exact (executeSync_allowed fullSync upload download).mono fun _ _ _ => ih
      | single snapshot =>
          rw [LotwCall.program, Prog.obeys_bind]
          exact (uploadSingleQso_allowed snapshot).mono fun _ _ _ => ih

end Obeys

/-! ### The other writers -/

/-- A call that writes rows beside the uploads. -/
inductive Writer where
  | edit (qso : QsoRecord)
  /-- The merge of one downloaded record. -/
  | merge (mine : QsoRecord) (remoteLogid : Option String) (remote : QsoRecord)
      (policy : ConflictPolicy) (counters : SyncCounters)
  | backfill (lookup : String → LookupResult) (query : QsoListQuery) (apply : Bool)

def Writer.program : Writer → Program Unit
  | edit qso => do
      let _ ← updateQso qso
      return ()
  | merge mine remoteLogid remote policy counters => do
      let _ ← mergeWithLocal mine remoteLogid remote policy counters
      return ()
  | backfill lookup query apply => do
      let _ ← runEnrichmentBackfill lookup query apply
      return ()

/-- The commands of the other writers: an edit never marks a row as uploaded,
a swap keeps its stamp. -/
inductive Writer.Issues : Cmd → Prop
  | clock : Issues .utcNow
  | get (id : String) : Issues (.store (.getQso id))
  | list (query : QsoListQuery) : Issues (.store (.listQsos query))
  | edit {next : QsoRecord} : isUploaded next = false → Issues (.store (.updateQso next))
  | swap {mine next : QsoRecord} :
      next.localId = mine.localId → next.updatedAt = mine.updatedAt →
      Issues (.store (.updateQsoIfUnchanged mine next))

theorem not_uploaded_updated (qso existing : QsoRecord) (createdAt updatedAt : Timestamp) :
    isUploaded (updated qso existing createdAt updatedAt) = false := by
  rw [isUploaded, beq_eq_false_iff_ne]
  show (if existing.lotwSyncStatus = LotwSyncStatus.uploaded.toI32
      ∨ existing.lotwSyncStatus = LotwSyncStatus.confirmed.toI32 then LotwSyncStatus.modified.toI32
    else existing.lotwSyncStatus) ≠ LotwSyncStatus.uploaded.toI32
  split
  · decide
  · rename_i hnot
    exact fun heq => hnot (.inl heq)

/-- The backfill changes neither the contact nor any mark of it. -/
theorem mergeMissingEnrichment_keeps (record : QsoRecord) (source : CallsignRecord) :
    SameVersion (mergeMissingEnrichment record source).2 record
      ∧ isUploaded (mergeMissingEnrichment record source).2 = isUploaded record :=
  ⟨⟨rfl, rfl, rfl⟩, rfl⟩

theorem Writer.emits (writer : Writer) : writer.program.Emits Writer.Issues := by
  cases writer with
  | edit qso =>
      refine Prog.Emits.bind ?_ fun _ => trivial
      refine (updateQso_reads qso).emits ?_ (.get _) ?_
      · rintro _ rfl
        exact .clock
      · rintro answer _ ⟨existing, createdAt, updatedAt, -, -, rfl⟩
        exact .edit (not_uploaded_updated qso existing createdAt updatedAt)
  | merge mine remoteLogid remote policy counters =>
      refine Prog.Emits.bind ?_ fun _ => trivial
      rw [mergeWithLocal]
      split
      · exact ⟨.swap rfl rfl, fun _ => trivial⟩
      · exact ⟨.swap rfl rfl, fun _ => trivial⟩
      · rw [resolveModifiedConflict.eq_def]
        split
        · dsimp only
          split
          · exact ⟨.swap rfl rfl, fun _ => trivial⟩
          · trivial
        · exact ⟨.swap rfl rfl, fun _ => trivial⟩
        · exact ⟨.swap rfl rfl, fun _ => trivial⟩
      · trivial
      · trivial
  | backfill lookup query apply =>
      refine Prog.Emits.bind ?_ fun _ => trivial
      exact runEnrichmentBackfill_emits (.list query) fun record source => .swap rfl rfl

/-! ### The last snapshot that was signed -/

/-- The snapshot of the row that a move has signed. -/
def signedBy (id : String) : Move Cmd Cmd.Answer → Option QsoRecord
  | .main ⟨.lotw (.uploadQsos qsos), .ok _⟩ => qsos.find? fun qso => qso.localId == id
  | _ => none

/-- The last snapshot of each row that was signed. -/
def lastSigned (before : String → Option QsoRecord) (ms : List (Move Cmd Cmd.Answer))
    (id : String) : Option QsoRecord :=
  (ms.reverse.findSome? (signedBy id)).or (before id)

theorem lastSigned_snoc (before : String → Option QsoRecord) (ms : List (Move Cmd Cmd.Answer))
    (m : Move Cmd Cmd.Answer) (id : String) :
    lastSigned before (ms ++ [m]) id = (signedBy id m).or (lastSigned before ms id) := by
  rw [lastSigned, List.reverse_append, List.reverse_singleton, List.singleton_append,
    List.findSome?_cons]
  cases signedBy id m with
  | none => rfl
  | some v => rfl

/-- A row that is marked as uploaded is the contact that was signed last. -/
def UploadedSigned (signed : String → Option QsoRecord) (s : MemoryState) : Prop :=
  ∀ id r, s.get id = some r → isUploaded r = true →
    ∃ v, signed id = some v ∧ identity r = identity v

/-- **What an upload holds, against the store.** -/
structure Signed (signed : String → Option QsoRecord) (t : Signing) (s : MemoryState) : Prop where
  uploaded : UploadedSigned signed s
  distinct : (t.held.map (·.localId)).Nodup
  /-- A row that still has the stamp of its copy is still that contact. -/
  stamped : ∀ v ∈ t.held, ∀ r, s.get v.localId = some r → r.updatedAt = v.updatedAt →
    identity r = identity v
  waiting : t.signed = false → ∀ v ∈ t.held, ∀ r, s.get v.localId = some r → isUploaded r = false
  submitted : t.signed = true → ∀ v ∈ t.held, signed v.localId = some v
  answered : t.broken = false

namespace Signed

variable {signed : String → Option QsoRecord} {t : Signing} {s : MemoryState}

/-- A row is written: it is marked as uploaded only when it is the contact that
was signed, and it has the stamp of a copy only when it is the contact of the
copy. -/
theorem put {next : QsoRecord} (h : Signed signed t s)
    (huploaded : isUploaded next = true → (∃ v, signed next.localId = some v
      ∧ identity next = identity v)
      ∧ (t.signed = false → ∀ v ∈ t.held, v.localId ≠ next.localId))
    (hstamped : ∀ v ∈ t.held, v.localId = next.localId → next.updatedAt = v.updatedAt →
      identity next = identity v) :
    Signed signed t (s.put next) := by
  refine ⟨fun id r hr hup => ?_, h.distinct, fun v hv r hr hstamp => ?_,
    fun hwait v hv r hr => ?_, h.submitted, h.answered⟩
  · rw [MemoryState.get_put] at hr
    split at hr
    · rename_i hid
      cases hr
      rw [← hid]
      exact (huploaded hup).1
    · exact h.uploaded id r hr hup
  · rw [MemoryState.get_put] at hr
    split at hr
    · rename_i hid
      cases hr
      exact hstamped v hv hid.symm hstamp
    · exact h.stamped v hv r hr hstamp
  · rw [MemoryState.get_put] at hr
    split at hr
    · rename_i hid
      cases hr
      rw [← Bool.not_eq_true]
      exact fun hup => (huploaded hup).2 hwait v hv hid.symm
    · exact h.waiting hwait v hv r hr

/-- A swap that keeps the contact and its stamp. -/
theorem swap {current next : QsoRecord} (h : Signed signed t s) (hsame : SameVersion next current)
    (huploaded : isUploaded next = true → ∀ stored, s.get next.localId = some stored →
      SameVersion next stored → (∃ v, signed next.localId = some v ∧ identity next = identity v)
        ∧ (t.signed = false → ∀ v ∈ t.held, v.localId ≠ next.localId)) :
    Signed signed t (s.updateQsoIfUnchanged current next).2 := by
  rcases s.updateQsoIfUnchanged_cases current next with ⟨stored, hget, heq, hid, hq⟩ | hq
  · rw [hq]
    have hstored := hsame.trans (SameVersion.of_beq (PartialEquivBEq.symm heq))
    rw [← hsame.1] at hget
    refine h.put (fun hup => huploaded hup stored hget hstored) fun v hv hvid hstamp => ?_
    rw [← hvid] at hget
    rw [hstored.2.2]
    exact h.stamped v hv stored hget (hstored.2.1.symm.trans hstamp)
  · rw [hq]
    exact h

end Signed

/-! ### Runs -/

section Pool

variable {ε : Type} {env : Environment ε} {ms : List (Move Cmd Cmd.Answer)} {w : World ε}
  {before : String → Option QsoRecord} {t : Signing}

/-- The copies the uploads hold after some moves. -/
def heldIn (ms : List (Move Cmd Cmd.Answer)) : List QsoRecord :=
  (Pool.observed signingContract {} ms).held

/-- The row, when it is marked as uploaded or has the stamp of the snapshot, is
the contact of the snapshot. -/
def Agrees (s : MemoryState) (snapshot : QsoRecord) : Prop :=
  ∀ r ∈ s.get snapshot.localId, isUploaded r = true ∨ r.updatedAt = snapshot.updatedAt →
    identity r = identity snapshot

/-- **What a step has to respect.**  An edit gives its row a stamp that no held
copy of it has.  A merge that goes in does not mark a row as uploaded, and
rewrites what is signed only where neither the mark nor a held copy speaks of
it.  A single snapshot that is signed agrees with its row.  (The backfill
respects this by itself.) -/
def Respects (ms : List (Move Cmd Cmd.Answer)) (s : MemoryState) : Move Cmd Cmd.Answer → Prop
  | .other _ ⟨.store (.updateQso next), _⟩ =>
      ∀ v ∈ heldIn ms, v.localId = next.localId → v.updatedAt ≠ next.updatedAt
  | .other _ ⟨.store (.updateQsoIfUnchanged mine next), .ok true⟩ =>
      (isUploaded next = true → isUploaded mine = true)
        ∧ (identity next ≠ identity mine → isUploaded next = false
          ∧ ∀ v ∈ heldIn ms, v.localId = next.localId → v.updatedAt ≠ next.updatedAt)
  | .main ⟨.lotw (.uploadQsos qsos), .ok _⟩ => ∀ v ∈ qsos, v ∉ heldIn ms → Agrees s v
  | _ => True

/-- A move that signs nothing. -/
theorem lastSigned_quiet {m : Move Cmd Cmd.Answer} (hm : ∀ id, signedBy id m = none) :
    lastSigned before (ms ++ [m]) = lastSigned before ms := by
  funext id
  rw [lastSigned_snoc, hm, Option.none_or]

/-- An upload signs each of its snapshots. -/
theorem signedBy_upload {qsos : List QsoRecord} {submitted : ℕ} {v : QsoRecord}
    (hdistinct : (qsos.map (·.localId)).Nodup) (hv : v ∈ qsos) :
    signedBy v.localId (.main ⟨.lotw (.uploadQsos qsos), .ok submitted⟩) = some v := by
  show (qsos.find? fun qso => qso.localId == v.localId) = some v
  cases hfind : qsos.find? fun qso => qso.localId == v.localId with
  | none =>
      have hnone := List.find?_eq_none.mp hfind v hv
      exact absurd (beq_self_eq_true v.localId) hnone
  | some v' =>
      have hid : v'.localId = v.localId := beq_iff_eq.mp (List.find?_some hfind :)
      rw [List.inj_on_of_nodup_map hdistinct (List.mem_of_find?_eq_some hfind) hv hid]

/-- A row that no snapshot of an upload is of. -/
theorem signedBy_upload_of_not_mem {qsos : List QsoRecord} {submitted : ℕ} {id : String}
    (hid : ∀ v ∈ qsos, v.localId ≠ id) :
    signedBy id (.main ⟨.lotw (.uploadQsos qsos), .ok submitted⟩) = none :=
  List.find?_eq_none.mpr fun v hv heq => hid v hv (beq_iff_eq.mp heq)

/-- Snapshots that agree with their rows are signed. -/
theorem Signed.upload {qsos : List QsoRecord} {submitted : ℕ} {s : MemoryState}
    (h : Signed (lastSigned before ms) t s) (hdistinct : (qsos.map (·.localId)).Nodup)
    (hagrees : ∀ v ∈ qsos, Agrees s v) :
    Signed (lastSigned before (ms ++ [.main ⟨.lotw (.uploadQsos qsos), .ok submitted⟩]))
      { t with held := qsos, signed := true } s := by
  have hlast : ∀ v ∈ qsos,
      lastSigned before (ms ++ [.main ⟨.lotw (.uploadQsos qsos), .ok submitted⟩]) v.localId
        = some v := by
    intro v hv
    rw [lastSigned_snoc, signedBy_upload hdistinct hv, Option.some_or]
  refine ⟨fun id r hr hup => ?_, hdistinct, fun v hv r hr hstamp => hagrees v hv r hr (.inr hstamp),
    fun hsigned => ?_, fun _ => hlast, h.answered⟩
  · by_cases hex : ∃ v ∈ qsos, v.localId = id
    · obtain ⟨v, hv, rfl⟩ := hex
      exact ⟨v, hlast v hv, hagrees v hv r hr (.inl hup)⟩
    · rw [lastSigned_snoc, signedBy_upload_of_not_mem fun v hv hid => hex ⟨v, hv, hid⟩,
        Option.none_or]
      exact h.uploaded id r hr hup
  · cases hsigned

/-- Nothing is held any more. -/
theorem Signed.drop {signed : String → Option QsoRecord} {s : MemoryState}
    (h : Signed signed t s) : Signed signed { t with held := [], signed := false } s :=
  ⟨h.uploaded, List.nodup_nil, fun _ hv => absurd hv List.not_mem_nil,
    fun _ _ hv => absurd hv List.not_mem_nil, fun hsigned => (by cases hsigned), h.answered⟩

/-- The snapshots of an upload agree with their rows. -/
theorem Signed.agrees {s : MemoryState} (h : Signed (lastSigned before ms) t s) {v : QsoRecord}
    (hv : v ∈ t.held) : Agrees s v := by
  rintro r hr (hup | hstamp)
  · cases hsigned : t.signed with
    | false =>
        rw [h.waiting hsigned v hv r hr] at hup
        cases hup
    | true =>
        obtain ⟨v', hv', hident⟩ := h.uploaded v.localId r hr hup
        rw [h.submitted hsigned v hv] at hv'
        cases hv'
        exact hident
  · exact h.stamped v hv r hr hstamp

/-- **One command of the uploads.** -/
theorem Signed.main {c : Cmd} {s : World ε} (h : Signed (lastSigned before ms) t s.1)
    (hheld : t.held = heldIn ms) (hallowed : t.Allowed c)
    (hrespects : Respects ms s.1 (.main ⟨c, (handle env c s).1⟩)) :
    Signed (lastSigned before (ms ++ [.main ⟨c, (handle env c s).1⟩]))
      (t.next c (handle env c s).1) (handle env c s).2.1 := by
  cases hallowed with
  | list =>
      rw [lastSigned_quiet fun _ => rfl]
      refine ⟨h.uploaded, ?_, fun v hv r hr _ => ?_, fun _ v hv r hr => ?_,
        fun hsigned => (by cases hsigned), h.answered⟩
      · exact (s.1.nodup_localIds_listQsos localQuery).sublist (List.filter_sublist.map _)
      · have hget := MemoryState.get_of_mem_listQsos (List.mem_of_mem_filter hv)
        replace hr : s.1.get v.localId = some r := hr
        rw [hget, Option.some_inj] at hr
        rw [hr]
      · have hget := MemoryState.get_of_mem_listQsos (List.mem_of_mem_filter hv)
        replace hr : s.1.get v.localId = some r := hr
        rw [hget, Option.some_inj] at hr
        rw [← hr]
        exact not_uploaded_of_pending (List.mem_filter.mp hv).2
  | get id =>
      rw [lastSigned_quiet fun _ => rfl]
      have hnext : t.next (.store (.getQso id)) (handle env (.store (.getQso id)) s).1 = t := by
        show t.next (.store (.getQso id)) (.ok (s.1.get id)) = t
        cases hget : s.1.get id with
        | none => rfl
        | some row => exact if_pos (MemoryState.localId_of_get hget)
      rw [hnext]
      exact h
  | metadata =>
      rw [lastSigned_quiet fun _ => rfl]
      exact h.drop
  | upsert metadata =>
      rw [lastSigned_quiet fun _ => rfl]
      exact ⟨h.uploaded, h.distinct, h.stamped, h.waiting, h.submitted, h.answered⟩
  | fetch since =>
      rw [lastSigned_quiet fun _ => rfl]
      exact h
  | clock =>
      rw [lastSigned_quiet fun _ => rfl]
      exact h
  | signHeld hsigned =>
      show Signed (lastSigned before (ms ++ [.main ⟨.lotw (.uploadQsos t.held),
        (env.lotw (.uploadQsos t.held) s.2).1⟩]))
        (t.next (.lotw (.uploadQsos t.held)) (env.lotw (.uploadQsos t.held) s.2).1) s.1
      rcases (env.lotw (.uploadQsos t.held) s.2).1 with e | submitted
      · rw [lastSigned_quiet fun _ => rfl]
        exact h.drop
      · exact h.upload h.distinct fun v hv => h.agrees hv
  | signOne snapshot =>
      replace hrespects : Respects ms s.1 (.main ⟨.lotw (.uploadQsos [snapshot]),
        (env.lotw (.uploadQsos [snapshot]) s.2).1⟩) := hrespects
      show Signed (lastSigned before (ms ++ [.main ⟨.lotw (.uploadQsos [snapshot]),
        (env.lotw (.uploadQsos [snapshot]) s.2).1⟩]))
        (t.next (.lotw (.uploadQsos [snapshot])) (env.lotw (.uploadQsos [snapshot]) s.2).1) s.1
      generalize (env.lotw (.uploadQsos [snapshot]) s.2).1 = answer at hrespects ⊢
      rcases answer with e | submitted
      · rw [lastSigned_quiet fun _ => rfl]
        exact h.drop
      · refine h.upload (List.nodup_singleton _) fun v hv => ?_
        by_cases hmem : v ∈ t.held
        · exact h.agrees hmem
        · exact hrespects v hv (hheld ▸ hmem)
  | @complete current snapshot now hsigned hv hid =>
      rw [lastSigned_quiet fun _ => rfl]
      have hsame := sameVersion_uploadPatched current snapshot now true
      refine h.swap hsame fun hup stored hget hstored => ?_
      have hrow : (uploadPatched current snapshot now true).localId = snapshot.localId :=
        hsame.1.trans hid
      have hstamp : stored.updatedAt = snapshot.updatedAt := by
        rw [← hstored.2.1, hsame.2.1]
        exact isUploaded_uploadPatched hup
      rw [hrow] at hget ⊢
      refine ⟨⟨snapshot, h.submitted hsigned snapshot hv, ?_⟩, fun hwait => ?_⟩
      · rw [hstored.2.2]
        exact h.stamped snapshot hv stored hget hstamp
      · rw [hsigned] at hwait
        cases hwait
  | mark hsame hnot =>
      rw [lastSigned_quiet fun _ => rfl]
      refine h.swap hsame fun hup => ?_
      rw [hnot] at hup
      cases hup
  | broken hbroken =>
      rw [h.answered] at hbroken
      cases hbroken

/-- **One command of another writer.** -/
theorem Signed.other {i : ℕ} {c : Cmd} {s : World ε} (h : Signed (lastSigned before ms) t s.1)
    (hheld : t.held = heldIn ms) (hissues : Writer.Issues c)
    (hrespects : Respects ms s.1 (.other i ⟨c, (handle env c s).1⟩)) :
    Signed (lastSigned before (ms ++ [.other i ⟨c, (handle env c s).1⟩])) t
      (handle env c s).2.1 := by
  rw [lastSigned_quiet fun _ => rfl]
  cases hissues with
  | clock => exact h
  | get id => exact h
  | list query => exact h
  | @edit next hnot =>
      show Signed _ t (s.1.updateQso next).2
      rw [MemoryState.updateQso]
      split
      · refine h.put (fun hup => ?_) fun v hv hid hstamp => ?_
        · rw [hnot] at hup
          cases hup
        · exact absurd hstamp.symm (hrespects v (hheld ▸ hv) hid)
      · exact h
  | @swap mine next hid hstamp =>
      replace hrespects : Respects ms s.1 (.other i ⟨.store (.updateQsoIfUnchanged mine next),
        (s.1.updateQsoIfUnchanged mine next).1⟩) := hrespects
      show Signed _ t (s.1.updateQsoIfUnchanged mine next).2
      rcases s.1.updateQsoIfUnchanged_cases mine next with ⟨stored, hget, heq, -, hq⟩ | hq
      swap
      · rw [hq]
        exact h
      rw [hq] at hrespects ⊢
      obtain ⟨hmark, hchanged⟩ := hrespects
      have hsame := SameVersion.of_beq heq
      rw [← hid] at hget
      by_cases hident : identity next = identity mine
      · refine h.put (fun hup => ⟨?_, fun hwait v hv hvid => ?_⟩) fun v hv hvid hstamp' => ?_
        · have hstored : isUploaded stored = true := (isUploaded_of_beq heq).trans (hmark hup)
          obtain ⟨v, hv, hvident⟩ := h.uploaded _ stored hget hstored
          exact ⟨v, hv, hident.trans (hsame.2.2.symm.trans hvident)⟩
        · -- the row of a waiting copy is not marked
          rw [← hvid] at hget
          have hnot := h.waiting hwait v hv stored hget
          rw [isUploaded_of_beq heq, hmark hup] at hnot
          cases hnot
        · rw [← hvid] at hget
          rw [hident, ← hsame.2.2]
          exact h.stamped v hv stored hget (hsame.2.1.trans (hstamp.symm.trans hstamp'))
      · obtain ⟨hnot, hheld'⟩ := hchanged hident
        refine h.put (fun hup => ?_) fun v hv hvid hstamp' => ?_
        · rw [hnot] at hup
          cases hup
        · exact absurd hstamp'.symm (hheld' v (hheld ▸ hv) hvid)

/-- **`UPLOADED` means the contact that was signed**, in every run of syncs and
uploads beside edits, merges and backfills whose steps respect what is held. -/
theorem lotwCalls_uploaded_signed {calls : List LotwCall} {writers : List Writer}
    {q : Pool Cmd Cmd.Answer (World ε) Unit Unit} (hstart : UploadedSigned before w.1)
    (hrun : Pool.Guarded (handle env) (fun ms q m => Respects ms q.state.1 m)
      ⟨lotwCalls calls, writers.map Writer.program, w⟩ ms q) :
    UploadedSigned (lastSigned before ms) q.state.1 := by
  have hend := hrun.keeps (J := fun t ms others s => Signed (lastSigned before ms) t s.1
    ∧ t = Pool.observed signingContract {} ms ∧ ∀ p ∈ others, p.Emits Writer.Issues)
    ?_ ?_ (lotwCalls_allowed (t := {}) calls) ?_
  · exact hend.1.uploaded
  · rintro t ms c q ⟨hsigned, ht, hothers⟩ hallowed hrespects
    refine ⟨hsigned.main (congrArg Signing.held ht) hallowed hrespects, ?_, hothers⟩
    rw [Pool.observed_append, ← ht]
    rfl
  · rintro t ms i e q r ⟨hsigned, ht, hothers⟩ hrespects hs
    cases hs with
    | @other _ others _ c k s hi =>
        have hemits := hothers _ (List.mem_of_getElem? hi)
        refine ⟨hsigned.other (congrArg Signing.held ht) hemits.1 hrespects, ?_, fun p hp => ?_⟩
        · rw [Pool.observed_append, ← ht]
          rfl
        · rcases List.mem_or_eq_of_mem_set hp with hp | rfl
          · exact hothers p hp
          · exact hemits.2 _
  · refine ⟨⟨hstart, List.nodup_nil, ?_, ?_, ?_, rfl⟩, rfl, fun p hp => ?_⟩
    · exact fun v hv => absurd hv List.not_mem_nil
    · exact fun _ v hv => absurd hv List.not_mem_nil
    · exact fun hsigned => by cases hsigned
    · obtain ⟨writer, -, rfl⟩ := List.mem_map.mp hp
      exact writer.emits

end Pool

/-! ### Three schedules -/

instance (v : QsoRecord) (held : List QsoRecord) : Decidable (v ∈ held) :=
  decidable_of_iff (∃ u ∈ held, u = v) (by simp)

instance (ms : List (Move Cmd Cmd.Answer)) (s : MemoryState) (m : Move Cmd Cmd.Answer) :
    Decidable (Respects ms s m) := by
  unfold Respects Agrees
  split <;> infer_instance

/-- A row that QRZ has. -/
def syncedContact : QsoRecord :=
  { contactAt "a" 1000 with syncStatus := SyncStatus.synced.toI32 }

/-- That row, edited on another band after it was uploaded. -/
def editedContact : QsoRecord :=
  { syncedContact with
    band := 5
    updatedAt := some ⟨2000, 0⟩
    lotwSyncStatus := LotwSyncStatus.modified.toI32 }

/-- What is known of a row, and what was signed of it last, after one sync
beside the merge of a downloaded record. -/
def besideMerge (upload : Bool) (row remote : QsoRecord) (turns : List Pool.Turn) :
    List (Move Cmd Cmd.Answer) × Pool Cmd Cmd.Answer (World Unit) Unit Unit :=
  Pool.schedule (handle quietRemote) turns
    ⟨lotwCalls [.sync false upload false],
      [(Writer.merge row none remote .unspecified {}).program], MemoryState.empty.put row, ()⟩

open Pool.Turn in
/-- The merge comes between the answer of the upload and the completion. -/
def beforeCompletion : List Pool.Turn := List.replicate 2 main ++ other 0 :: List.replicate 3 main

/-- A row is marked as uploaded that was signed on another band: because a
merge rewrote the band during the upload, or because it brought back the mark
that an edit had taken. -/
theorem lotwCalls_mark_unsigned :
    (((besideMerge true syncedContact { band := 5 } beforeCompletion).2.state.1.get "a").map
        (fun r => (isUploaded r, r.band)) = some (true, 5)
      ∧ (lastSigned (fun _ => none) (besideMerge true syncedContact { band := 5 }
          beforeCompletion).1 "a").map (·.band) = some 9)
    ∧ (((besideMerge false editedContact { lotwSyncStatus := LotwSyncStatus.uploaded.toI32 }
          [.other 0]).2.state.1.get "a").map (fun r => (isUploaded r, r.band)) = some (true, 5)
      ∧ (lastSigned (fun _ => some syncedContact) (besideMerge false editedContact
          { lotwSyncStatus := LotwSyncStatus.uploaded.toI32 } [.other 0]).1 "a").map (·.band)
          = some 9
      ∧ isUploaded editedContact = false) := by
  decide +kernel

/-- A merge that fills in a note goes in while its row is uploaded. -/
theorem lotwCalls_mark_noted :
    UploadedSigned (lastSigned (fun _ => none)
        (besideMerge true syncedContact { notes := some "1" } beforeCompletion).1)
      (besideMerge true syncedContact { notes := some "1" } beforeCompletion).2.state.1
    ∧ ((besideMerge true syncedContact { notes := some "1" } beforeCompletion).2.state.1.get
        "a").any isUploaded = true := by
  have hrun : Pool.Guarded (handle quietRemote) (fun ms q m => Respects ms q.state.1 m)
      ⟨lotwCalls [.sync false true false],
        [Writer.merge syncedContact none { notes := some "1" } .unspecified {}].map Writer.program,
        MemoryState.empty.put syncedContact, ()⟩
      (besideMerge true syncedContact { notes := some "1" } beforeCompletion).1
      (besideMerge true syncedContact { notes := some "1" } beforeCompletion).2 :=
    @Pool.schedule_guarded Cmd Cmd.Answer (World Unit) Unit Unit (handle quietRemote)
      (fun ms q m => Respects ms q.state.1 m) _ _ beforeCompletion (by decide +kernel)
  refine ⟨lotwCalls_uploaded_signed (fun id r hr hup => ?_) hrun, by decide +kernel⟩
  replace hr : (MemoryState.empty.put syncedContact).get id = some r := hr
  rw [MemoryState.get_put, MemoryState.get_empty] at hr
  split at hr
  · cases hr
    cases hup
  · cases hr

end QsoRipper.Lotw
