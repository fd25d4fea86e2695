/-
QsoRipper/Server/Stranding.lean

One upload beside any number of edits of its row.  An edit that lands while
the upload is on its way must not end up under SYNCED, or it would never be
uploaded itself.

The patch decides by the time stamp alone: it sets SYNCED when the stored row
still has the stamp of the uploaded copy.  As long as no two writes of the row
carry the same stamp, that means the stored row is the uploaded copy; and an
edit never writes SYNCED itself.
-/
import QsoRipper.Application.Operators
import QsoRipper.Server.Linkage

namespace QsoRipper

open Interaction MemoryState

/-! ### The upload as a contract -/

/-- The record a command uploads, if it does. -/
def uploadOf : Cmd → Option QsoRecord
  | .qrz (.uploadQso qso _) => some qso
  | .qrz (.uploadQsoWithReplace qso _) => some qso
  | .qrz (.replaceQso _ qso _) => some qso
  | _ => none

/-- The commands of an upload of the row, given the copy it holds. -/
inductive UploadAllowed (localId : String) : Option QsoRecord → Cmd → Prop
  | read : UploadAllowed localId none (.store (.getQso localId))
  | upload {current : QsoRecord} {c : QrzCmd} :
      uploadOf (.qrz c) = some current → UploadAllowed localId (some current) (.qrz c)
  | patch {current : QsoRecord} (logid : String) :
      UploadAllowed localId (some current)
        (.store (.updateQrzSyncMetadata current.localId current.updatedAt logid))

/-- The contract of an upload of the row: it uploads and patches the copy it
has read. -/
def uploadContract (localId : String) : Contract Cmd Cmd.Answer (Option QsoRecord) where
  allowed := UploadAllowed localId
  next held
    | .store (.getQso _), .ok (some current) => some current
    | _, _ => held

section Obeys

variable {localId : String} {current : QsoRecord}

theorem retryWithReplace_uploads (bookOwner : Option String) :
    (retryWithReplace current bookOwner).Obeys (uploadContract localId)
      (fun held _ => held = some current) (some current) := by
  refine ⟨.upload rfl, fun r => ?_⟩
  rcases r with e | result <;> rfl

theorem uploadSingleQso_uploads (bookOwner : Option String) :
    (uploadSingleQso current bookOwner).Obeys (uploadContract localId)
      (fun held _ => held = some current) (some current) := by
  rw [uploadSingleQso]
  split
  · refine ⟨.upload rfl, fun r => ?_⟩
    rcases r with e | result <;> rfl
  · refine ⟨.upload rfl, fun r => ?_⟩
    rcases r with e | result
    · cases e with
      | apiError reason =>
          show Prog.Obeys _ _ (if isDuplicateError reason then _ else _) _
          split
          · exact retryWithReplace_uploads bookOwner
          · rfl
      | _ => rfl
    · rfl

theorem syncSingleQso_uploads (qso : QsoRecord) (bookOwner : Option String) :
    (syncSingleQso qso bookOwner).Obeys (uploadContract qso.localId) (fun _ _ => True) none := by
  refine ⟨.read, fun r => ?_⟩
  rcases r with e | _ | current
  · trivial
  · trivial
  show Prog.Obeys _ _ (if current.deletedAt.isSome then _ else _) (some current)
  split
  · trivial
  rw [Prog.obeys_bind]
  refine (uploadSingleQso_uploads bookOwner).mono ?_
  rintro held (e | ⟨result, dup⟩) rfl
  · trivial
  · refine ⟨.patch result.logid, fun r => ?_⟩
    rcases r with e | _ | patched <;> trivial

end Obeys

/-! ### Stamps -/

/-- The stamp a move writes to the row, if it is an edit of the row. -/
def editStamp (localId : String) : Move Cmd Cmd.Answer → Option (Option Timestamp)
  | .other _ ⟨.store (.updateQso qso), _⟩ =>
      if qso.localId = localId then some qso.updatedAt else none
  | _ => none

/-- The stamps the row has had, beginning with the initial row's. -/
def rowStamps (localId : String) (r₀ : QsoRecord) (ms : List (Move Cmd Cmd.Answer)) :
    List (Option Timestamp) :=
  r₀.updatedAt :: ms.filterMap (editStamp localId)

/-- The record a move of the main program uploads, if it does. -/
def uploadedBy : Move Cmd Cmd.Answer → Option QsoRecord
  | .main e => uploadOf e.1
  | .other _ _ => none

/-- The stored row is the copy, up to the sync metadata the patch writes. -/
def SameContact (r snapshot : QsoRecord) : Prop :=
  r = { snapshot with qrzLogid := r.qrzLogid, syncStatus := r.syncStatus }

/-- How the stored row relates to the copy the upload holds. -/
structure Guarded (stamped : List (Option Timestamp)) (held : Option QsoRecord) (r : QsoRecord) :
    Prop where
  stamp : r.updatedAt ∈ stamped
  heldStamp : ∀ snapshot ∈ held, snapshot.updatedAt ∈ stamped
  same : ∀ snapshot ∈ held, r.updatedAt = snapshot.updatedAt → SameContact r snapshot
  synced : ∀ snapshot ∈ held, r.syncStatus = SyncStatus.synced.toI32 →
    r.updatedAt = snapshot.updatedAt

variable {stamped : List (Option Timestamp)} {held : Option QsoRecord} {r written : QsoRecord}

theorem SameContact.refl (r : QsoRecord) : SameContact r r := rfl

/-- Before anything has happened. -/
theorem guarded_start : Guarded [r.updatedAt] none r where
  stamp := List.mem_singleton_self _
  heldStamp _ hs := absurd hs (Option.not_mem_none _)
  same _ hs := absurd hs (Option.not_mem_none _)
  synced _ hs := absurd hs (Option.not_mem_none _)

/-- The upload reads the row. -/
theorem Guarded.read (h : Guarded stamped none r) : Guarded stamped (some r) r where
  stamp := h.stamp
  heldStamp snapshot hs := by
    cases hs
    exact h.stamp
  same snapshot hs _ := by
    cases hs
    exact .refl r
  synced snapshot hs _ := by
    cases hs
    rfl

/-- The upload patches the row. -/
theorem Guarded.patch {snapshot : QsoRecord} (h : Guarded stamped (some snapshot) r)
    (hactive : r.deletedAt = none) (logid : String) :
    Guarded stamped (some snapshot) (patchSyncMetadata r snapshot.updatedAt logid) := by
  have hrow : patchSyncMetadata r snapshot.updatedAt logid
      = { r with
          qrzLogid := some logid
          syncStatus :=
            if r.updatedAt = snapshot.updatedAt then SyncStatus.synced.toI32
            else if r.syncStatus = SyncStatus.conflict.toI32 then r.syncStatus
            else SyncStatus.modified.toI32 } := by
    rw [patchSyncMetadata, hactive]
    rfl
  rw [hrow]
  refine ⟨h.stamp, h.heldStamp, fun s hs heq => ?_, fun s hs hsynced => ?_⟩
  · cases hs
    have hsame := h.same snapshot rfl heq
    rw [SameContact] at hsame ⊢
    rw [hsame]
  · cases hs
    by_contra hne
    dsimp only at hsynced hne
    rw [if_neg hne] at hsynced
    split at hsynced
    · rename_i hconflict
      rw [hconflict] at hsynced
      cases hsynced
    · cases hsynced

/-- An edit with a new stamp is written. -/
theorem Guarded.edit (h : Guarded stamped held r) (hnew : written.updatedAt ∉ stamped)
    (hstatus : written.syncStatus ≠ SyncStatus.synced.toI32) :
    Guarded (stamped ++ [written.updatedAt]) held written where
  stamp := List.mem_append_right _ (List.mem_singleton_self _)
  heldStamp snapshot hs := List.mem_append_left _ (h.heldStamp snapshot hs)
  same snapshot hs heq := absurd (heq ▸ h.heldStamp snapshot hs) hnew
  synced _ _ hsynced := absurd hsynced hstatus

/-! ### A run -/

section Run

variable {ε : Type} {env : Environment ε} {calls : List OperatorCall} {localId : String}
  {r₀ : QsoRecord} {ms : List (Move Cmd Cmd.Answer)}
  {others : List (Program (Except LogbookError QsoRecord))} {w : World ε}

/-- What holds at every point of an upload beside edits. -/
structure Unstranded (calls : List OperatorCall) (localId : String) (r₀ : QsoRecord)
    (held : Option QsoRecord) (ms : List (Move Cmd Cmd.Answer))
    (others : List (Program (Except LogbookError QsoRecord))) (w : World ε) : Prop where
  inFlight : OperatorCall.InFlight (fun _ _ => True) calls others
  heldId : ∀ snapshot ∈ held, snapshot.localId = localId
  sent : ∀ m ∈ ms, ∀ snapshot ∈ uploadedBy m, held = some snapshot
  row : (rowStamps localId r₀ ms).Nodup →
    ∃ r, w.1.get localId = some r ∧ r.deletedAt = none
      ∧ Guarded (rowStamps localId r₀ ms) held r

theorem rowStamps_snoc (m : Move Cmd Cmd.Answer) :
    rowStamps localId r₀ (ms ++ [m]) = rowStamps localId r₀ ms ++ (editStamp localId m).toList := by
  rw [rowStamps, List.filterMap_append, rowStamps, List.cons_append]
  cases h : editStamp localId m <;> simp [h]

theorem rowStamps_snoc_none {m : Move Cmd Cmd.Answer} (h : editStamp localId m = none) :
    rowStamps localId r₀ (ms ++ [m]) = rowStamps localId r₀ ms := by
  rw [rowStamps_snoc, h, Option.toList_none, List.append_nil]

theorem sent_snoc {m : Move Cmd Cmd.Answer} {held : Option QsoRecord}
    (h : ∀ m' ∈ ms, ∀ s ∈ uploadedBy m', held = some s) (hm : ∀ s ∈ uploadedBy m, held = some s) :
    ∀ m' ∈ ms ++ [m], ∀ s ∈ uploadedBy m', held = some s := by
  intro m' hm' s hs
  rcases List.mem_append.mp hm' with hm' | hm'
  · exact h m' hm' s hs
  · rw [List.mem_singleton.mp hm'] at hs
    exact hm s hs

theorem sent_snoc_none {m : Move Cmd Cmd.Answer} {held : Option QsoRecord}
    (h : ∀ m' ∈ ms, ∀ s ∈ uploadedBy m', held = some s) (hm : uploadedBy m = none) :
    ∀ m' ∈ ms ++ [m], ∀ s ∈ uploadedBy m', held = some s := by
  refine sent_snoc h fun s hs => ?_
  rw [hm] at hs
  cases hs

theorem uploadOf_getQso (id : String) : uploadOf (.store (.getQso id)) = none := rfl

theorem uploadOf_patch (id : String) (expected : Option Timestamp) (logid : String) :
    uploadOf (.store (.updateQrzSyncMetadata id expected logid)) = none := rfl

theorem next_getQso (id : String) (answer : Option QsoRecord) :
    (uploadContract localId).next held (.store (.getQso id)) (.ok answer) = answer.or held := by
  cases answer <;> rfl

theorem next_qrz (c : QrzCmd) (answer : Cmd.Answer (.qrz c)) :
    (uploadContract localId).next held (.qrz c) answer = held := rfl

theorem next_patch (id : String) (expected : Option Timestamp) (logid : String)
    (answer : Cmd.Answer (.store (.updateQrzSyncMetadata id expected logid))) :
    (uploadContract localId).next held (.store (.updateQrzSyncMetadata id expected logid)) answer
      = held := rfl

theorem handle_patch (id : String) (expected : Option Timestamp) (logid : String) :
    (handle env (.store (.updateQrzSyncMetadata id expected logid)) w).2
      = ((w.1.updateQrzSyncMetadata id expected logid).2, w.2) := rfl

theorem handle_qrz_store (c : QrzCmd) : (handle env (.qrz c) w).2.1 = w.1 := rfl

/-- The row under a patch. -/
theorem get_updateQrzSyncMetadata_self {s : MemoryState} {r : QsoRecord}
    (hr : s.get localId = some r) (expected : Option Timestamp) (logid : String) :
    (s.updateQrzSyncMetadata localId expected logid).2.get localId
      = some (patchSyncMetadata r expected logid) := by
  obtain ⟨_, _, hframe, -⟩ := patchSyncMetadata_frame r expected logid
  rw [updateQrzSyncMetadata, hr]
  show (s.put _).get localId = _
  have hid : (patchSyncMetadata r expected logid).localId = localId := by
    rw [hframe]
    exact (localId_of_get hr :)
  rw [get_put, if_pos hid]

/-- A command of the upload. -/
theorem Unstranded.main {c : Cmd} (h : Unstranded calls localId r₀ held ms others w)
    (hc : UploadAllowed localId held c) :
    Unstranded calls localId r₀ ((uploadContract localId).next held c (handle env c w).1)
      (ms ++ [.main ⟨c, (handle env c w).1⟩]) others (handle env c w).2 := by
  have hstamps : rowStamps localId r₀ (ms ++ [.main ⟨c, (handle env c w).1⟩])
      = rowStamps localId r₀ ms := rowStamps_snoc_none rfl
  cases hc with
  | read =>
      rw [handle_getQso, next_getQso, Option.or_none] at *
      have hsent := sent_snoc_none (m := .main ⟨.store (.getQso localId), .ok (w.1.get localId)⟩)
        h.sent (uploadOf_getQso localId)
      cases hget : w.1.get localId with
      | none =>
          refine ⟨h.inFlight, h.heldId, ?_, fun hnodup => ?_⟩
          · rw [hget] at hsent
            exact hsent
          rw [hget] at hstamps
          rw [hstamps] at hnodup ⊢
          exact h.row hnodup
      | some current =>
          rw [hget] at hstamps hsent
          refine ⟨h.inFlight, fun s hs => ?_, fun m hm s hs => ?_, fun hnodup => ?_⟩
          · cases hs
            exact localId_of_get hget
          · exact absurd (hsent m hm s hs) (Option.some_ne_none s).symm
          rw [hstamps] at hnodup ⊢
          obtain ⟨r, hr, hactive, hguard⟩ := h.row hnodup
          rw [hget] at hr
          cases hr
          exact ⟨current, hget, hactive, hguard.read⟩
  | @upload current c hup =>
      rw [next_qrz]
      refine ⟨h.inFlight, h.heldId, sent_snoc h.sent fun s hs => hup.symm.trans hs,
        fun hnodup => ?_⟩
      rw [hstamps] at hnodup ⊢
      rw [handle_qrz_store]
      exact h.row hnodup
  | @patch current logid =>
      have hid := h.heldId current rfl
      rw [next_patch]
      refine ⟨h.inFlight, h.heldId,
        sent_snoc_none h.sent (uploadOf_patch current.localId current.updatedAt logid),
        fun hnodup => ?_⟩
      rw [hstamps] at hnodup ⊢
      obtain ⟨r, hr, hactive, hguard⟩ := h.row hnodup
      rw [handle_patch, hid]
      refine ⟨_, get_updateQrzSyncMetadata_self hr _ _, ?_, hguard.patch hactive logid⟩
      obtain ⟨_, _, hframe, -⟩ := patchSyncMetadata_frame r current.updatedAt logid
      rw [hframe]
      exact hactive

/-- A move of an edit. -/
theorem Unstranded.other {α : Type} {i : ℕ} {e : Event Cmd Cmd.Answer}
    {q q' : Pool Cmd Cmd.Answer (World ε) α (Except LogbookError QsoRecord)}
    (hcalls : ∀ call ∈ calls, ∃ qso, call = .update qso)
    (h : Unstranded calls localId r₀ held ms q.others q.state)
    (hs : q.Step (handle env) (.other i e) q') :
    Unstranded calls localId r₀ held (ms ++ [.other i e]) q'.others q'.state := by
  obtain ⟨hflight, -, hmoves⟩ := h.inFlight.step (fun _ _ _ => trivial) hs
  refine ⟨hflight, h.heldId, sent_snoc_none h.sent rfl, fun hnodup => ?_⟩
  obtain ⟨c, answer⟩ := e
  dsimp only at hmoves
  generalize hstate : q'.state.1 = s' at hmoves
  cases hmoves with
  | frame hframe =>
      have hnone : editStamp localId (.other i ⟨c, answer⟩) = none := by
        rw [editStamp.eq_def]
        split
        · rename_i qso _ heq
          cases heq
          exact absurd rfl (hframe qso)
        · rfl
      rw [rowStamps_snoc_none hnone] at hnodup ⊢
      exact h.row hnodup
  | @write call existing written hcall _ hrep =>
      by_cases hid : written.localId = localId
      · have hstamp : editStamp localId (.other i ⟨.store (.updateQso written), answer⟩)
            = some written.updatedAt := if_pos hid
        rw [rowStamps_snoc, hstamp, Option.toList_some] at hnodup ⊢
        obtain ⟨hbefore, -, hnew⟩ := List.nodup_append.mp hnodup
        obtain ⟨r, hr, -, hguard⟩ := h.row hbefore
        obtain ⟨qso, rfl⟩ := hcalls call (List.mem_of_getElem? hcall)
        cases hrep with
        | update _ _ _ hactive _ hstatus =>
            refine ⟨written, ?_, hactive, hguard.edit ?_ ?_⟩
            · rw [get_updateQso (hid ▸ hr), if_pos hid]
            · exact fun hmem => hnew _ hmem _ (List.mem_singleton_self _) rfl
            · rw [hstatus]
              split
              · decide
              · assumption
      · have hnone : editStamp localId (.other i ⟨.store (.updateQso written), answer⟩) = none :=
          if_neg hid
        rw [rowStamps_snoc_none hnone] at hnodup ⊢
        obtain ⟨r, hr, hactive, hguard⟩ := h.row hnodup
        refine ⟨r, ?_, hactive, hguard⟩
        rw [MemoryState.updateQso]
        split
        · rw [get_put, if_neg hid]
          exact hr
        · exact hr

/-- **No edit is stranded.**  Take an active row, an upload of it and any
number of edits, in any interleaving in which the edits carry new stamps.  If
the row is SYNCED then it is the copy that was uploaded, apart from the logid
and the sync status. -/
theorem syncSingleQso_strands_no_edit {qso : QsoRecord} {bookOwner : Option String}
    {edits : List QsoRecord}
    {q : Pool Cmd Cmd.Answer (World ε) (Except String SyncOutcome) (Except LogbookError QsoRecord)}
    (hrow : w.1.get qso.localId = some r₀) (hactive : r₀.deletedAt = none)
    (hrun : Pool.Run (handle env)
      ⟨syncSingleQso qso bookOwner, edits.map updateQso, w⟩ ms q)
    (hstamps : (rowStamps qso.localId r₀ ms).Nodup) :
    ∃ r, q.state.1.get qso.localId = some r ∧ r.deletedAt = none
      ∧ (r.syncStatus = SyncStatus.synced.toI32 →
          ∀ m ∈ ms, ∀ snapshot ∈ uploadedBy m, SameContact r snapshot) := by
  have hflight : OperatorCall.InFlight (fun _ _ => True) (edits.map .update)
      (edits.map updateQso) := by
    have h : OperatorCall.InFlight (fun _ _ => True) (edits.map .update) _ :=
      OperatorCall.inFlight_program
    rw [List.map_map] at h
    exact h
  have hinv := hrun.keeps (K := uploadContract qso.localId)
    (J := fun held ms others w =>
      Unstranded (edits.map .update) qso.localId r₀ held ms others w)
    (fun h hc => h.main hc) (fun h hs => h.other (by simp) hs)
    (syncSingleQso_uploads qso bookOwner)
    ⟨hflight, fun _ hs => absurd hs (Option.not_mem_none _),
      fun m hm => absurd hm List.not_mem_nil, fun _ => ⟨r₀, hrow, hactive, guarded_start⟩⟩
  obtain ⟨r, hr, hact, hguard⟩ := hinv.row hstamps
  refine ⟨r, hr, hact, fun hsynced m hm snapshot hsent => ?_⟩
  have hheld := hinv.sent m hm snapshot hsent
  exact hguard.same snapshot hheld (hguard.synced snapshot hheld hsynced)

end Run

/-! ### A schedule -/

/-- A correction of `freshRow`. -/
def corrected : QsoRecord := { freshRow with notes := some "QRP" }

/-- The correction is written, then the row is uploaded. -/
def editThenUpload : List (Move Cmd Cmd.Answer) ×
    Pool Cmd Cmd.Answer (World Unit) (Except String SyncOutcome) (Except LogbookError QsoRecord) :=
  Pool.schedule (handle quietRemote) (.replicate 4 (.other 0) ++ .replicate 3 .main)
    ⟨syncSingleQso freshRow none, [corrected].map updateQso, empty.put freshRow, ()⟩

/-- The corrected row is SYNCED, and it is the one that was uploaded. -/
theorem syncSingleQso_uploads_edit :
    ∃ r, editThenUpload.2.state.1.get "a" = some r ∧ r.deletedAt = none
      ∧ (r.syncStatus = SyncStatus.synced.toI32 →
          ∀ m ∈ editThenUpload.1, ∀ snapshot ∈ uploadedBy m, SameContact r snapshot) :=
  @syncSingleQso_strands_no_edit Unit quietRemote freshRow _ _ freshRow _ _ _ (by decide +kernel) rfl
    (Pool.schedule_run _ _) (by decide +kernel)

example : (editThenUpload.2.state.1.get "a").map (fun r => (r.syncStatus, r.notes))
    = some (SyncStatus.synced.toI32, some "QRP") := by
  decide +kernel

end QsoRipper
