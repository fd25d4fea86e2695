/-
QsoRipper/Server/Linkage.lean

One upload against one operator call on the same row.  `sync_single_qso` reads
the row, uploads it and patches the logid onto whatever is stored by then; the
operator call reads the row and later writes the whole record back.

The logid survives unless the patch falls between the operator's read and its
write, because no operator call changes the logid of the record it read.
-/
import QsoRipper.Application.Logbook
import QsoRipper.Lib.Pool
import QsoRipper.Server.Upload

namespace QsoRipper

open Interaction MemoryState

/-! ### The shape of an upload -/

/-- The commands of an upload that do not concern the store. -/
def Remote (c : Cmd) : Prop := ∃ q, c = .qrz q

/-- The patch of an upload, given the answer to its read. -/
def Patch (localId : String) (answer : StoreCmd.Answer (.getQso localId)) (c : Cmd) : Prop :=
  ∃ current logid, answer = .ok (some current) ∧ logid ≠ ""
    ∧ c = .store (.updateQrzSyncMetadata current.localId current.updatedAt logid)

theorem uploadSingleQso_remote (qso : QsoRecord) (bookOwner : Option String) :
    (uploadSingleQso qso bookOwner).Emits Remote := by
  have hretry : (retryWithReplace qso bookOwner).Emits Remote := by
    refine ⟨⟨_, rfl⟩, fun r => ?_⟩
    rcases r with e | result <;> trivial
  rw [uploadSingleQso]
  split
  · refine ⟨⟨_, rfl⟩, fun r => ?_⟩
    rcases r with e | result <;> trivial
  · refine ⟨⟨_, rfl⟩, fun r => ?_⟩
    rcases r with e | result
    · cases e with
      | apiError reason =>
          show Prog.Emits _ (if isDuplicateError reason then _ else _)
          split
          · exact hretry
          · trivial
      | _ => trivial
    · trivial

/-- **The shape of an upload**: one read, then remote calls, then at most one
patch of the row that was read. -/
theorem syncSingleQso_reads (qso : QsoRecord) (bookOwner : Option String) :
    (syncSingleQso qso bookOwner).Reads Remote (.store (.getQso qso.localId))
      (Patch qso.localId) := by
  refine .read fun r => ?_
  rcases r with e | _ | current
  · exact .pure _
  · exact .pure _
  show Prog.Writes _ _ (if current.deletedAt.isSome then _ else _)
  split
  · exact .pure _
  refine (uploadSingleQso_remote current bookOwner).bind_writes fun outcome => ?_
  rcases outcome with e | ⟨result, dup⟩
  · exact .pure _
  · refine .write ⟨current, result.logid, rfl, result.logid_ne, rfl⟩ fun r => ?_
    rcases r with e | _ | patched <;> trivial

/-! ### Moves on the row -/

/-- The moves that matter to the row: the operator call reads it, the upload
patches it, the operator call writes it back. -/
inductive RowMove where
  | read
  | patch
  | write
  deriving DecidableEq

/-- What a move is to the row under `localId`, if anything. -/
def rowMove (localId : String) : Move Cmd Cmd.Answer → Option RowMove
  | .main ⟨.store (.updateQrzSyncMetadata id _ _), _⟩ =>
      if id = localId then some .patch else none
  | .other _ ⟨.store (.getQso id), _⟩ => if id = localId then some .read else none
  | .other _ ⟨.store (.updateQso qso), _⟩ => if qso.localId = localId then some .write else none
  | _ => none

/-- The row's history. -/
def rowMoves (localId : String) (ms : List (Move Cmd Cmd.Answer)) : List RowMove :=
  ms.filterMap (rowMove localId)

/-- The logid a move patches onto the row, if it does. -/
def patchedLogid (localId : String) : Move Cmd Cmd.Answer → Option String
  | .main ⟨.store (.updateQrzSyncMetadata id _ logid), _⟩ =>
      if id = localId then some logid else none
  | _ => none

/-- The patch falls between the operator's read and its write. -/
def Straddles (localId : String) (ms : List (Move Cmd Cmd.Answer)) : Prop :=
  [RowMove.read, .patch, .write].Sublist (rowMoves localId ms)

/-- The operator's read comes before the patch. -/
def ReadsBeforePatch (localId : String) (ms : List (Move Cmd Cmd.Answer)) : Prop :=
  [RowMove.read, .patch].Sublist (rowMoves localId ms)

instance (localId : String) (ms : List (Move Cmd Cmd.Answer)) : Decidable (Straddles localId ms) :=
  inferInstanceAs (Decidable (List.Sublist _ _))

instance (localId : String) (ms : List (Move Cmd Cmd.Answer)) :
    Decidable (ReadsBeforePatch localId ms) :=
  inferInstanceAs (Decidable (List.Sublist _ _))

variable {localId logid : String} {ms : List (Move Cmd Cmd.Answer)} {m : Move Cmd Cmd.Answer}

theorem rowMoves_snoc :
    rowMoves localId (ms ++ [m]) = rowMoves localId ms ++ (rowMove localId m).toList := by
  rw [rowMoves, List.filterMap_append]
  cases h : rowMove localId m <;> simp [rowMoves, h]

theorem Straddles.snoc (h : Straddles localId ms) : Straddles localId (ms ++ [m]) := by
  rw [Straddles, rowMoves_snoc]
  exact h.trans (List.sublist_append_left _ _)

theorem ReadsBeforePatch.snoc (h : ReadsBeforePatch localId ms) :
    ReadsBeforePatch localId (ms ++ [m]) := by
  rw [ReadsBeforePatch, rowMoves_snoc]
  exact h.trans (List.sublist_append_left _ _)

/-- Only a patch can make the read come before it. -/
theorem not_readsBeforePatch_snoc (h : ¬ ReadsBeforePatch localId ms)
    (hm : rowMove localId m ≠ some .patch) : ¬ ReadsBeforePatch localId (ms ++ [m]) := by
  rw [ReadsBeforePatch, rowMoves_snoc]
  intro hsub
  cases hk : rowMove localId m with
  | none =>
      rw [hk, Option.toList_none, List.append_nil] at hsub
      exact h hsub
  | some k =>
      rw [hk, Option.toList_some, ← List.reverse_sublist, List.reverse_append] at hsub
      rcases List.sublist_cons_iff.mp hsub with hsub | ⟨l, hl, -⟩
      · exact h (List.reverse_sublist.mp hsub)
      · cases hl
        exact hm hk

/-- A patch after the read. -/
theorem readsBeforePatch_of_read (h : .read ∈ rowMoves localId ms)
    (hm : rowMove localId m = some .patch) : ReadsBeforePatch localId (ms ++ [m]) := by
  rw [ReadsBeforePatch, rowMoves_snoc, hm]
  exact (List.singleton_sublist.mpr h).append (List.Sublist.refl [RowMove.patch])

/-- A patch with no read before it. -/
theorem not_readsBeforePatch_of_patch (h : .read ∉ rowMoves localId ms)
    (hm : rowMove localId m = some .patch) : ¬ ReadsBeforePatch localId (ms ++ [m]) := by
  rw [ReadsBeforePatch, rowMoves_snoc, hm]
  intro hsub
  have hmem := hsub.subset List.mem_cons_self
  rcases List.mem_append.mp hmem with hmem | hmem
  · exact h hmem
  · cases List.mem_singleton.mp hmem

/-- A write after a read that the patch overtook straddles it. -/
theorem ReadsBeforePatch.straddles (h : ReadsBeforePatch localId ms)
    (hm : rowMove localId m = some .write) : Straddles localId (ms ++ [m]) := by
  rw [Straddles, rowMoves_snoc, hm]
  exact h.append (List.Sublist.refl [RowMove.write])

/-! ### Phases -/

/-- Where the upload stands before its patch. -/
inductive UploadPhase (localId : String) {α : Type} (p : Program α) : Prop
  | unread : p.Reads Remote (.store (.getQso localId)) (Patch localId) → UploadPhase localId p
  | holding (current : QsoRecord) :
      current.localId = localId → p.Writes Remote (Patch localId (.ok (some current))) →
      UploadPhase localId p
  | finished : p.Emits Remote → UploadPhase localId p

/-- Where the operator call stands, relative to the row `r` now stored, before
the patch has been made. -/
inductive CallBefore (call : OperatorCall) (ms : List (Move Cmd Cmd.Answer)) (r : QsoRecord)
    {α : Type} (p : Program α) : Prop
  | unread :
      p.Reads OperatorCall.Quiet (.store (.getQso call.target)) call.Write →
      r.deletedAt = none → .read ∉ rowMoves call.target ms → CallBefore call ms r p
  | holding :
      p.Writes OperatorCall.Quiet (call.Write (.ok (some r))) → r.deletedAt = none →
      .read ∈ rowMoves call.target ms → CallBefore call ms r p
  | finished : p.Emits OperatorCall.Quiet → CallBefore call ms r p

/-- The delete flag is set on a tombstone, unless the call is a `delete_qso`
that did not ask for the remote delete and did not read before the patch. -/
def Reachable (call : OperatorCall) (ms : List (Move Cmd Cmd.Answer)) (r : QsoRecord) : Prop :=
  r.deletedAt.isSome → r.pendingRemoteDelete = true
    ∨ (call = .delete call.target false ∧ ¬ ReadsBeforePatch call.target ms)

/-- Where the operator call stands once the patch has been made. -/
inductive CallAfter (call : OperatorCall) (ms : List (Move Cmd Cmd.Answer)) (r : QsoRecord)
    {α : Type} (p : Program α) : Prop
  | unread :
      p.Reads OperatorCall.Quiet (.store (.getQso call.target)) call.Write →
      r.deletedAt = none → ¬ ReadsBeforePatch call.target ms → CallAfter call ms r p
  | holding :
      p.Writes OperatorCall.Quiet (call.Write (.ok (some r))) → r.deletedAt = none →
      ¬ ReadsBeforePatch call.target ms → CallAfter call ms r p
  /-- It holds a copy from before the patch. -/
  | stale (existing : QsoRecord) :
      existing.localId = call.target →
      p.Writes OperatorCall.Quiet (call.Write (.ok (some existing))) → r.deletedAt = none →
      ReadsBeforePatch call.target ms → CallAfter call ms r p
  | finished : p.Emits OperatorCall.Quiet → Reachable call ms r → CallAfter call ms r p

/-- What holds along a run of the upload and the call, until the patch
straddles the call. -/
inductive Linked (call : OperatorCall) {α β : Type} {ε : Type} :
    List (Move Cmd Cmd.Answer) → Pool Cmd Cmd.Answer (World ε) α β → Prop
  | before {ms : List (Move Cmd Cmd.Answer)} {main : Program α} {p : Program β} {w : World ε}
      {r : QsoRecord} :
      w.1.get call.target = some r → ms.filterMap (patchedLogid call.target) = [] →
      UploadPhase call.target main → CallBefore call ms r p → Linked call ms ⟨main, [p], w⟩
  | after {ms : List (Move Cmd Cmd.Answer)} {main : Program α} {p : Program β} {w : World ε}
      {r : QsoRecord} {logid : String} :
      w.1.get call.target = some r → logid ≠ "" → r.qrzLogid = some logid →
      ms.filterMap (patchedLogid call.target) = [logid] →
      main.Emits Remote → CallAfter call ms r p → Linked call ms ⟨main, [p], w⟩

/-! ### One step -/

variable {call : OperatorCall} {α β ε : Type} {r : QsoRecord}

theorem patched_snoc {ls : List String} (h : ms.filterMap (patchedLogid localId) = ls)
    (hm : patchedLogid localId m = none) : (ms ++ [m]).filterMap (patchedLogid localId) = ls := by
  rw [List.filterMap_append, h]
  simp [hm]

theorem mem_rowMoves_snoc {k : RowMove} (h : k ∈ rowMoves localId ms) :
    k ∈ rowMoves localId (ms ++ [m]) := by
  rw [rowMoves_snoc]
  exact List.mem_append_left _ h

/-- A move that does not concern the row leaves the call where it was. -/
theorem CallBefore.snoc {p : Program β} (hm : rowMove call.target m = none)
    (h : CallBefore call ms r p) : CallBefore call (ms ++ [m]) r p := by
  have hmoves : rowMoves call.target (ms ++ [m]) = rowMoves call.target ms := by
    rw [rowMoves_snoc, hm, Option.toList_none, List.append_nil]
  cases h with
  | unread hp hact hread => exact .unread hp hact (hmoves ▸ hread)
  | holding hp hact hread => exact .holding hp hact (hmoves ▸ hread)
  | finished hp => exact .finished hp

theorem Reachable.snoc (hm : rowMove call.target m ≠ some .patch) (h : Reachable call ms r) :
    Reachable call (ms ++ [m]) r := by
  intro hd
  exact (h hd).imp_right fun hdel => ⟨hdel.1, not_readsBeforePatch_snoc hdel.2 hm⟩

theorem CallAfter.snoc {p : Program β} (hm : rowMove call.target m ≠ some .patch)
    (h : CallAfter call ms r p) : CallAfter call (ms ++ [m]) r p := by
  cases h with
  | unread hp hact hread => exact .unread hp hact (not_readsBeforePatch_snoc hread hm)
  | holding hp hact hread => exact .holding hp hact (not_readsBeforePatch_snoc hread hm)
  | stale existing hid hp hact hread => exact .stale existing hid hp hact hread.snoc
  | finished hp hr => exact .finished hp (hr.snoc hm)

/-- The patch takes a call from before to after. -/
theorem CallBefore.patch {p : Program β} (hm : rowMove call.target m = some .patch)
    (hid : r.localId = call.target) (h : CallBefore call ms r p) (expected : Option Timestamp) :
    CallAfter call (ms ++ [m]) (patchSyncMetadata r expected logid) p := by
  obtain ⟨status, pending, hpatch, -, hpending⟩ := patchSyncMetadata_frame r expected logid
  rw [hpatch]
  cases h with
  | unread hp hact hread => exact .unread hp hact (not_readsBeforePatch_of_patch hread hm)
  | holding hp hact hread => exact .stale r hid hp hact (readsBeforePatch_of_read hread hm)
  | finished hp => exact .finished hp fun hd => .inl (hpending hd)

/-- What the row is once a call that read it after the patch has written. -/
theorem reachable_of_replaces {written : QsoRecord}
    (hlogid : r.qrzLogid = some logid) (hne : logid ≠ "") (h : call.Replaces r written)
    (hread : ¬ ReadsBeforePatch call.target ms) : Reachable call ms written := by
  intro hd
  cases h with
  | update _ _ _ hdel => rw [hdel] at hd; cases hd
  | restore now => cases hd
  | @delete localId queue existing now =>
      cases queue with
      | false => exact .inr ⟨rfl, hread⟩
      | true =>
          left
          have hlen : logid.isEmpty = false := by simpa using hne
          simp [markDeleted, hasLogid, hlogid, hlen]

section Steps

variable {env : Environment ε} {main : Program α} {p : Program β} {w : World ε}

variable (env) in
/-- What a read of the row is answered. -/
theorem getQso_answer (hrow : w.1.get localId = some r) :
    (handle env (.store (.getQso localId)) w).1 = .ok (some r) := by
  show Except.ok (w.1.get localId) = _
  rw [hrow]

/-- A write back stores its record. -/
theorem get_updateQso_target {written : QsoRecord} (hrow : w.1.get localId = some r)
    (hid : written.localId = localId) :
    (handle env (.store (.updateQso written)) w).2.1.get localId = some written := by
  subst hid
  show (w.1.updateQso written).2.get written.localId = some written
  rw [get_updateQso hrow, if_pos rfl]

theorem linked_main {q : Pool Cmd Cmd.Answer (World ε) α β} {e : Event Cmd Cmd.Answer}
    (h : Linked call ms ⟨main, [p], w⟩)
    (hs : Pool.Step (handle env) ⟨main, [p], w⟩ (.main e) q) :
    Linked call (ms ++ [.main e]) q := by
  cases hs with
  | @main c k =>
  cases h with
  | @before _ _ _ r hrow hnone hmain hcall =>
      cases hmain with
      | unread hr =>
          cases hr with
          | quiet hq hk =>
              obtain ⟨qc, rfl⟩ := hq
              exact .before hrow (patched_snoc hnone rfl) (.unread (hk _)) (hcall.snoc rfl)
          | read hk =>
              have hans := getQso_answer env hrow
              exact .before hrow (patched_snoc hnone rfl)
                (.holding r (localId_of_get hrow) ((hk _).mono fun c hc => hans ▸ hc))
                (hcall.snoc rfl)
      | holding current hid hw =>
          cases hw with
          | quiet hq hk =>
              obtain ⟨qc, rfl⟩ := hq
              exact .before hrow (patched_snoc hnone rfl) (.holding current hid (hk _))
                (hcall.snoc rfl)
          | write hw hk =>
              obtain ⟨current', logid, hcur, hne, rfl⟩ := hw
              cases hcur
              obtain ⟨status, pending, hpatch, -⟩ :=
                patchSyncMetadata_frame r current.updatedAt logid
              have hmove : rowMove call.target
                  (.main ⟨.store (.updateQrzSyncMetadata current.localId current.updatedAt logid),
                    (handle env (.store (.updateQrzSyncMetadata current.localId current.updatedAt
                      logid)) w).1⟩) = some .patch := if_pos hid
              have hlogid : (patchSyncMetadata r current.updatedAt logid).qrzLogid = some logid := by
                rw [hpatch]
              refine .after ?_ hne hlogid ?_ (hk _)
                (hcall.patch hmove (localId_of_get hrow) current.updatedAt)
              · rw [← hid] at hrow ⊢
                exact get_updateQrzSyncMetadata hrow current.updatedAt logid
              · rw [List.filterMap_append, hnone, List.nil_append, List.filterMap_cons_some]
                · rfl
                · exact if_pos hid
      | finished hm =>
          obtain ⟨⟨qc, rfl⟩, hk⟩ := hm
          exact .before hrow (patched_snoc hnone rfl) (.finished (hk _)) (hcall.snoc rfl)
  | after hrow hne hlogid hall hmain hcall =>
      obtain ⟨⟨qc, rfl⟩, hk⟩ := hmain
      exact .after hrow hne hlogid (patched_snoc hall rfl) (hk _) (hcall.snoc (by nofun))

theorem linked_other {q : Pool Cmd Cmd.Answer (World ε) α β} {i : ℕ} {e : Event Cmd Cmd.Answer}
    (h : Linked call ms ⟨main, [p], w⟩)
    (hs : Pool.Step (handle env) ⟨main, [p], w⟩ (.other i e) q) :
    Linked call (ms ++ [.other i e]) q ∨ Straddles call.target (ms ++ [.other i e]) := by
  cases hs with
  | @other _ _ _ c k _ hi =>
  obtain ⟨rfl, rfl⟩ : i = 0 ∧ p = .cmd c k := by
    cases i with
    | zero => exact ⟨rfl, Option.some.inj hi⟩
    | succ i => cases hi
  have hreadMove : rowMove call.target (.other 0 ⟨.store (.getQso call.target),
      (handle env (.store (.getQso call.target)) w).1⟩) = some .read := if_pos rfl
  cases h with
  | @before _ _ _ r hrow hnone hmain hcall =>
      left
      cases hcall with
      | unread hr hact hread =>
          cases hr with
          | quiet hq hk =>
              cases hq
              exact .before hrow (patched_snoc hnone rfl) hmain
                ((CallBefore.unread (hk _) hact hread).snoc rfl)
          | read hk =>
              have hans := getQso_answer env hrow
              refine .before hrow (patched_snoc hnone rfl) hmain
                (.holding ((hk _).mono fun c hc => hans ▸ hc) hact ?_)
              rw [rowMoves_snoc, hreadMove]
              exact List.mem_append_right _ (List.mem_singleton_self _)
      | holding hw hact hread =>
          cases hw with
          | quiet hq hk =>
              cases hq
              exact .before hrow (patched_snoc hnone rfl) hmain
                (.holding (hk _) hact (mem_rowMoves_snoc hread))
          | write hw hk =>
              obtain ⟨existing, written, hans, hrep, rfl⟩ := hw
              cases hans
              have hid : written.localId = call.target := hrep.localId.trans (localId_of_get hrow)
              exact .before (get_updateQso_target hrow hid) (patched_snoc hnone rfl) hmain
                (.finished (hk _))
      | finished hp =>
          obtain ⟨hq, hk⟩ := hp
          cases hq
          exact .before hrow (patched_snoc hnone rfl) hmain (.finished (hk _))
  | @after _ _ _ r logid hrow hne hlogid hall hmain hcall =>
      cases hcall with
      | unread hr hact hread =>
          left
          cases hr with
          | quiet hq hk =>
              cases hq
              exact .after hrow hne hlogid (patched_snoc hall rfl) hmain
                ((CallAfter.unread (hk _) hact hread).snoc (by nofun))
          | read hk =>
              have hans := getQso_answer env hrow
              refine .after hrow hne hlogid (patched_snoc hall rfl) hmain
                ((CallAfter.holding ((hk _).mono fun c hc => hans ▸ hc) hact hread).snoc ?_)
              rw [hreadMove]
              nofun
      | holding hw hact hread =>
          left
          cases hw with
          | quiet hq hk =>
              cases hq
              exact .after hrow hne hlogid (patched_snoc hall rfl) hmain
                ((CallAfter.holding (hk _) hact hread).snoc (by nofun))
          | write hw hk =>
              obtain ⟨existing, written, hans, hrep, rfl⟩ := hw
              cases hans
              have hid : written.localId = call.target := hrep.localId.trans (localId_of_get hrow)
              refine .after (get_updateQso_target hrow hid) hne (hrep.qrzLogid.trans hlogid)
                (patched_snoc hall rfl) hmain
                ((CallAfter.finished (hk _) (reachable_of_replaces hlogid hne hrep hread)).snoc ?_)
              simp [rowMove, hid]
      | stale existing hid hw hact hread =>
          cases hw with
          | quiet hq hk =>
              cases hq
              exact .inl (.after hrow hne hlogid (patched_snoc hall rfl) hmain
                (.stale existing hid (hk _) hact hread.snoc))
          | write hw hk =>
              obtain ⟨existing, written, hans, hrep, rfl⟩ := hw
              cases hans
              exact .inr (hread.straddles (if_pos (hrep.localId.trans hid)))
      | finished hp hreach =>
          obtain ⟨hq, hk⟩ := hp
          cases hq
          exact .inl (.after hrow hne hlogid (patched_snoc hall rfl) hmain
            (.finished (hk _) (hreach.snoc (by nofun))))

/-! ### The run -/

/-- Along every run the phases hold, or the patch has straddled the call. -/
theorem linked_run {q : Pool Cmd Cmd.Answer (World ε) α β}
    (hrun : Pool.Run (handle env) ⟨main, [p], w⟩ ms q) (h : Linked call [] ⟨main, [p], w⟩) :
    Linked call ms q ∨ Straddles call.target ms := by
  refine hrun.invariant (I := fun ms q => Linked call ms q ∨ Straddles call.target ms) ?_ (.inl h)
  rintro ms q m r (hlinked | hstr) hs
  · obtain ⟨main, others, w⟩ := q
    obtain ⟨p, rfl⟩ : ∃ p, others = [p] := by
      cases hlinked with
      | before => exact ⟨_, rfl⟩
      | after => exact ⟨_, rfl⟩
    cases m with
    | main e => exact .inl (linked_main hlinked hs)
    | other i e => exact linked_other hlinked hs
  · exact .inr hstr.snoc

end Steps

/-- The row both schedules start from. -/
def freshRow : QsoRecord :=
  { localId := "a", stationCallsign := "K7RND", workedCallsign := "W1AW", band := 9, mode := 7,
    utcTimestamp := some ⟨0, 0⟩ }

/-- A schedule of an upload and an operator call on `freshRow`. -/
def uploadBeside (call : OperatorCall) (turns : List Pool.Turn) : List (Move Cmd Cmd.Answer) ×
    Pool Cmd Cmd.Answer (World Unit) (Except String SyncOutcome) (Except LogbookError QsoRecord) :=
  Pool.schedule (handle quietRemote) turns
    ⟨syncSingleQso freshRow none, [call.program], empty.put freshRow, ()⟩

open Pool.Turn in
/-- The upload runs between the operator's read and write. -/
def overtaken : List Pool.Turn :=
  other 0 :: List.replicate 3 main ++ List.replicate 3 (other 0)

open Pool.Turn in
/-- The operator call runs after the upload. -/
def afterwards : List Pool.Turn := List.replicate 3 main ++ List.replicate 3 (other 0)

end QsoRipper
