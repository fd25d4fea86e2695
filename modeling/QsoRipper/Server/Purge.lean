/-
QsoRipper/Server/Purge.lean

The destructive purge: delete the QRZ records of soft-deleted rows whose
remote delete is queued, then drop from the store every candidate that needed
no remote delete or got one.

The purge decides on one listing and finishes with one storage purge by id.
Operator calls may rewrite the rows in between, and two of them matter: a
`restore_qso` that brings a row back as SYNCED after its remote delete was
decided on, and a `delete_qso` that queues a remote delete for a row that the
listing showed without one.  In every run without these the purge is right.
-/
import QsoRipper.Application.Operators

namespace QsoRipper

open Interaction MemoryState

/-! ### The program -/

/-- `PurgeDeletedOutcome`. -/
structure PurgeDeletedOutcome where
  purgedCount : ℕ
  remoteDeletesPushed : ℕ
  remoteDeletesFailed : ℕ
  errors : List String
  deriving DecidableEq

/-- What the candidate loop accumulates. -/
structure PurgeProgress where
  purgeIds : List String := []
  remoteDeletesPushed : ℕ := 0
  remoteDeletesFailed : ℕ := 0
  errors : List String := []

/-- The logid a remote delete of the row is sent with. -/
def deleteLogid (qso : QsoRecord) : String := Text.trim (qso.qrzLogid.getD "")

/-- Is a remote delete of the row queued that can be sent? -/
def queuesRemoteDelete (qso : QsoRecord) : Bool :=
  !(!qso.pendingRemoteDelete || (deleteLogid qso).isEmpty)

/-- Is a listed row a candidate? -/
def isPurgeCandidate (localIds : List String) (olderThanMs : Option ℤ) (qso : QsoRecord) : Bool :=
  (localIds.isEmpty || localIds.contains qso.localId)
    && olderThanMs.all fun cutoff =>
      qso.deletedAt.any fun timestamp => decide (timestamp.toMillis ≤ cutoff)

/-- A candidate that may go. -/
def PurgeProgress.purge (progress : PurgeProgress) (qso : QsoRecord) : PurgeProgress :=
  { progress with purgeIds := progress.purgeIds ++ [qso.localId] }

/-- A candidate that has to stay. -/
def PurgeProgress.retain (progress : PurgeProgress) (error : String) : PurgeProgress :=
  { progress with
    remoteDeletesFailed := progress.remoteDeletesFailed + 1
    errors := progress.errors ++ [error] }

/-- A candidate whose remote delete was answered. -/
def PurgeProgress.record (progress : PurgeProgress) (qso : QsoRecord) :
    Except QrzLogbookError Unit → PurgeProgress
  | .ok () => { progress.purge qso with remoteDeletesPushed := progress.remoteDeletesPushed + 1 }
  | .error error =>
      progress.retain ("QRZ delete failed for QSO '" ++ qso.localId ++ "': " ++ error.toText)

/-- The candidate loop; `hasClient` says whether QRZ is configured. -/
def pushPurgeDeletes (hasClient : Bool) : List QsoRecord → PurgeProgress → Program PurgeProgress
  | [], progress => return progress
  | qso :: rest, progress =>
      if !queuesRemoteDelete qso then pushPurgeDeletes hasClient rest (progress.purge qso)
      else if !hasClient then
        pushPurgeDeletes hasClient rest (progress.retain
          ("QRZ delete was not attempted for QSO '" ++ qso.localId
            ++ "' because QRZ Logbook is not configured."))
      else do
        let answer ← qrz (.deleteQso (deleteLogid qso))
        pushPurgeDeletes hasClient rest (progress.record qso answer)

/-- The storage purge at the end. -/
def finishPurge (olderThanMs : Option ℤ) (progress : PurgeProgress) :
    Program (Except StorageError PurgeDeletedOutcome) :=
  let outcome purgedCount : PurgeDeletedOutcome :=
    { purgedCount
      remoteDeletesPushed := progress.remoteDeletesPushed
      remoteDeletesFailed := progress.remoteDeletesFailed
      errors := progress.errors }
  if progress.purgeIds.isEmpty then return .ok (outcome 0)
  else do
    match ← store (.purgeDeletedQsos progress.purgeIds olderThanMs) with
    | .error error => return .error error
    | .ok purgedCount => return .ok (outcome purgedCount)

/-- `purge_deleted_qsos`. -/
def purgeDeletedQsos (hasClient : Bool) (localIds : List String) (olderThanMs : Option ℤ)
    (includePendingRemoteDeletes : Bool) : Program (Except StorageError PurgeDeletedOutcome) :=
  if !includePendingRemoteDeletes then do
    match ← store (.purgeDeletedQsos localIds olderThanMs) with
    | .error error => return .error error
    | .ok purgedCount => return .ok ⟨purgedCount, 0, 0, []⟩
  else do
    match ← store (.listQsos { deletedFilter := .deletedOnly }) with
    | .error error => return .error error
    | .ok (rows : List QsoRecord) => do
        let progress ← pushPurgeDeletes hasClient
          (rows.filter (isPurgeCandidate localIds olderThanMs)) {}
        finishPurge olderThanMs progress

/-! ### What the purge may do -/

/-- What the purge has observed. -/
structure PurgeView where
  /-- The deleted rows it decided on. -/
  listed : List QsoRecord
  /-- The logids whose remote delete succeeded. -/
  deleted : List String

namespace PurgeView

/-- Nothing observed. -/
def start : PurgeView := ⟨[], []⟩

/-- A listed row that may be dropped. -/
def Settled (t : PurgeView) (id : String) : Prop :=
  ∃ c ∈ t.listed, c.localId = id
    ∧ (queuesRemoteDelete c = false ∨ deleteLogid c ∈ t.deleted)

end PurgeView

/-- The commands of a purge, given what it has observed. -/
inductive PurgeAllowed (t : PurgeView) : Cmd → Prop
  | list : PurgeAllowed t (.store (.listQsos { deletedFilter := .deletedOnly }))
  | delete (logid : String) : PurgeAllowed t (.qrz (.deleteQso logid))
  | purge {ids : List String} {olderThanMs : Option ℤ} :
      ids ≠ [] → (∀ id ∈ ids, t.Settled id) →
      PurgeAllowed t (.store (.purgeDeletedQsos ids olderThanMs))

/-- The purge's contract. -/
def purgeContract : Contract Cmd Cmd.Answer PurgeView where
  allowed := PurgeAllowed
  next t
    | .store (.listQsos _), .ok (rows : List QsoRecord) => { t with listed := rows }
    | .qrz (.deleteQso logid), .ok () => { t with deleted := logid :: t.deleted }
    | _, _ => t

section Obeys

variable {t : PurgeView} {olderThanMs : Option ℤ}

/-- A further success settles no fewer rows. -/
theorem PurgeView.Settled.delete {id : String} (h : t.Settled id) (logid : String) :
    PurgeView.Settled { t with deleted := logid :: t.deleted } id := by
  obtain ⟨c, hc, hid, hset⟩ := h
  exact ⟨c, hc, hid, hset.imp_right (List.mem_cons_of_mem logid)⟩

theorem settled_purge {progress : PurgeProgress} {qso : QsoRecord}
    (h : ∀ id ∈ progress.purgeIds, t.Settled id) (hqso : t.Settled qso.localId) :
    ∀ id ∈ (progress.purge qso).purgeIds, t.Settled id := by
  intro id hid
  rcases List.mem_append.mp hid with hid | hid
  · exact h id hid
  · rw [List.mem_singleton.mp hid]
    exact hqso

theorem pushPurgeDeletes_obeys {hasClient : Bool} {candidates : List QsoRecord}
    {progress : PurgeProgress} (hcand : ∀ c ∈ candidates, c ∈ t.listed)
    (hids : ∀ id ∈ progress.purgeIds, t.Settled id) :
    (pushPurgeDeletes hasClient candidates progress).Obeys purgeContract
      (fun t' progress' => ∀ id ∈ progress'.purgeIds, t'.Settled id) t := by
  induction candidates generalizing t progress with
  | nil => exact hids
  | cons qso rest ih =>
      obtain ⟨hqso, hrest⟩ := List.forall_mem_cons.mp hcand
      rw [pushPurgeDeletes]
      split
      · rename_i hq
        rw [Bool.not_eq_true'] at hq
        exact ih hrest (settled_purge hids ⟨qso, hqso, rfl, .inl hq⟩)
      split
      · exact ih hrest hids
      refine ⟨.delete _, fun r => ?_⟩
      rcases r with e | ⟨⟩
      · exact ih hrest hids
      · refine ih hrest (settled_purge (fun id hid => (hids id hid).delete _) ?_)
        exact ⟨qso, hqso, rfl, .inr List.mem_cons_self⟩

theorem finishPurge_obeys {progress : PurgeProgress}
    (hids : ∀ id ∈ progress.purgeIds, t.Settled id) :
    (finishPurge olderThanMs progress).Obeys purgeContract (fun _ _ => True) t := by
  rw [finishPurge]
  dsimp only
  split
  · trivial
  · rename_i hne
    rw [List.isEmpty_iff] at hne
    refine ⟨.purge hne hids, fun r => ?_⟩
    rcases r with e | n <;> trivial

/-- **The purge drops only listed rows that are settled.** -/
theorem purgeDeletedQsos_obeys (hasClient : Bool) (localIds : List String) :
    (purgeDeletedQsos hasClient localIds olderThanMs true).Obeys purgeContract
      (fun _ _ => True) t := by
  refine ⟨.list, fun r => ?_⟩
  rcases r with e | (rows : List QsoRecord)
  · trivial
  show Prog.Obeys purgeContract _ (pushPurgeDeletes _ _ _ >>= finishPurge olderThanMs) _
  rw [Prog.obeys_bind]
  have hcand : ∀ c ∈ rows.filter (isPurgeCandidate localIds olderThanMs), c ∈ rows :=
    fun c hc => (List.mem_filter.mp hc).1
  refine (pushPurgeDeletes_obeys (t := { t with listed := rows }) hcand
    fun id hid => absurd hid List.not_mem_nil).mono ?_
  intro t' progress hids
  exact finishPurge_obeys hids

end Obeys

/-! ### What matters to a row -/

/-- The moves that matter to a row: the listing that shows it, an operator
bringing it back as SYNCED, an operator queueing its remote delete. -/
inductive PurgeMove where
  | listed (queued : Bool)
  | syncedRestore
  | queuedDelete
  deriving DecidableEq

/-- What a write of an operator call is to the row. -/
def operatorMove (written : QsoRecord) : OperatorCall → Option PurgeMove
  | .update _ => none
  | .delete _ _ => if written.pendingRemoteDelete then some .queuedDelete else none
  | .restore _ => if written.syncStatus = SyncStatus.synced.toI32 then some .syncedRestore else none

/-- What a move is to the row under `id`, if anything. -/
def purgeMove (calls : List OperatorCall) (id : String) : Move Cmd Cmd.Answer → Option PurgeMove
  | .main ⟨.store (.listQsos _), .ok (rows : List QsoRecord)⟩ =>
      (rows.find? (·.localId == id)).map fun c => .listed (queuesRemoteDelete c)
  | .other i ⟨.store (.updateQso written), _⟩ =>
      if written.localId = id then calls[i]?.bind (operatorMove written) else none
  | _ => none

/-- The row's part in a run. -/
def purgeMoves (calls : List OperatorCall) (id : String) (ms : List (Move Cmd Cmd.Answer)) :
    List PurgeMove :=
  ms.filterMap (purgeMove calls id)

/-- What the purge has observed in a run. -/
def purgeView (ms : List (Move Cmd Cmd.Answer)) : PurgeView :=
  Pool.observed purgeContract .start ms

/-- The row was listed with its remote delete queued, under this logid, and
that remote delete succeeded. -/
def RemotelyDeleted (id logid : String) (ms : List (Move Cmd Cmd.Answer)) : Prop :=
  ∃ c ∈ (purgeView ms).listed, c.localId = id ∧ c.qrzLogid = some logid
    ∧ queuesRemoteDelete c = true ∧ Text.trim logid ∈ (purgeView ms).deleted

/-- A `restore_qso` brought the row back as SYNCED after it was listed for a
remote delete. -/
def RestoredSynced (calls : List OperatorCall) (id : String) (ms : List (Move Cmd Cmd.Answer)) :
    Prop :=
  [PurgeMove.listed true, .syncedRestore].Sublist (purgeMoves calls id ms)

/-- A `delete_qso` queued the row's remote delete after it was listed without
one. -/
def QueuedLate (calls : List OperatorCall) (id : String) (ms : List (Move Cmd Cmd.Answer)) :
    Prop :=
  [PurgeMove.listed false, .queuedDelete].Sublist (purgeMoves calls id ms)

instance (id logid : String) (ms : List (Move Cmd Cmd.Answer)) :
    Decidable (RemotelyDeleted id logid ms) :=
  inferInstanceAs (Decidable (∃ c ∈ _, _))

instance (calls : List OperatorCall) (id : String) (ms : List (Move Cmd Cmd.Answer)) :
    Decidable (RestoredSynced calls id ms) :=
  inferInstanceAs (Decidable (List.Sublist _ _))

instance (calls : List OperatorCall) (id : String) (ms : List (Move Cmd Cmd.Answer)) :
    Decidable (QueuedLate calls id ms) :=
  inferInstanceAs (Decidable (List.Sublist _ _))

/-! ### The run -/

section Run

variable {calls : List OperatorCall} {id : String} {ms : List (Move Cmd Cmd.Answer)}
  {m : Move Cmd Cmd.Answer}

theorem purgeMoves_snoc :
    purgeMoves calls id (ms ++ [m]) = purgeMoves calls id ms ++ (purgeMove calls id m).toList := by
  rw [purgeMoves, List.filterMap_append]
  cases h : purgeMove calls id m <;> simp [purgeMoves, h]

theorem sublist_purgeMoves_snoc {l : List PurgeMove} (h : l.Sublist (purgeMoves calls id ms)) :
    l.Sublist (purgeMoves calls id (ms ++ [m])) := by
  rw [purgeMoves_snoc]
  exact h.trans (List.sublist_append_left _ _)

theorem purgeMove_write {i : ℕ} {call : OperatorCall} {written : QsoRecord}
    {answer : StoreCmd.Answer (.updateQso written)} (hid : written.localId = id)
    (hcall : calls[i]? = some call) :
    purgeMove calls id (.other i ⟨.store (.updateQso written), answer⟩)
      = operatorMove written call := by
  show (if written.localId = id then calls[i]?.bind (operatorMove written) else none) = _
  rw [if_pos hid, hcall, Option.bind_some]

/-- A second move after a first. -/
theorem pair_sublist_purgeMoves {a b : PurgeMove} (ha : a ∈ purgeMoves calls id ms)
    (hb : purgeMove calls id m = some b) : [a, b].Sublist (purgeMoves calls id (ms ++ [m])) := by
  rw [purgeMoves_snoc, hb]
  exact (List.singleton_sublist.mpr ha).append (List.Sublist.refl [b])

/-- What is known of the row once the purge has listed it as `c`. -/
structure ListedRow (calls : List OperatorCall) (id : String) (ms : List (Move Cmd Cmd.Answer))
    (s : MemoryState) (c : QsoRecord) : Prop where
  moved : .listed (queuesRemoteDelete c) ∈ purgeMoves calls id ms
  synced : queuesRemoteDelete c = true → ¬ RestoredSynced calls id ms →
    ∀ r, s.get id = some r → r.deletedAt.isSome ∨ r.syncStatus ≠ SyncStatus.synced.toI32
  queued : queuesRemoteDelete c = false → ¬ QueuedLate calls id ms →
    ∀ r, s.get id = some r → r.deletedAt.isSome → queuesRemoteDelete r = false

/-- Moves that leave the row alone, or drop it. -/
theorem ListedRow.snoc {s s' : MemoryState} {c : QsoRecord} (h : ListedRow calls id ms s c)
    (hs : ∀ r, s'.get id = some r → s.get id = some r) :
    ListedRow calls id (ms ++ [m]) s' c where
  moved := by
    rw [purgeMoves_snoc]
    exact List.mem_append_left _ h.moved
  synced hq hn r hr := h.synced hq (fun hr => hn (sublist_purgeMoves_snoc hr)) r (hs r hr)
  queued hq hn r hr := h.queued hq (fun hr => hn (sublist_purgeMoves_snoc hr)) r (hs r hr)

/-- The row, just listed. -/
theorem listedRow_of_list {s : MemoryState} {c : QsoRecord} {query : QsoListQuery}
    (hquery : query = { deletedFilter := .deletedOnly }) (hc : c ∈ s.listQsos query)
    (hid : c.localId = id) :
    ListedRow calls id (ms ++ [.main ⟨.store (.listQsos query), .ok (s.listQsos query)⟩]) s c := by
  subst hquery
  rw [mem_listQsos_deletedOnly, hid] at hc
  have hall : ∀ r, s.get id = some r → r = c := fun r hr => Option.some.inj (hr.symm.trans hc.1)
  refine ⟨?_, fun _ _ r hr => ?_, fun hq _ r hr _ => ?_⟩
  · have hfind : (s.listQsos { deletedFilter := .deletedOnly }).find? (·.localId == id)
        = some c := by
      cases hf : (s.listQsos { deletedFilter := .deletedOnly }).find? (·.localId == id) with
      | none =>
          have hnot := List.find?_eq_none.mp hf c
            (mem_listQsos_deletedOnly.mpr ⟨by rw [hid]; exact hc.1, hc.2⟩)
          exact absurd (beq_iff_eq.mpr hid) hnot
      | some c' =>
          have hmem := mem_listQsos_deletedOnly.mp (List.mem_of_find?_eq_some hf)
          have hid' : c'.localId = id := by simpa using List.find?_some hf
          rw [hid'] at hmem
          rw [hall c' hmem.1]
    rw [purgeMoves_snoc]
    refine List.mem_append_right _ ?_
    rw [purgeMove, hfind]
    exact List.mem_singleton_self _
  · rw [hall r hr]
    exact .inl hc.2
  · rw [hall r hr]
    exact hq

/-- A write of an operator call to the row. -/
theorem ListedRow.write {s s' : MemoryState} {c existing written : QsoRecord}
    {call : OperatorCall} {i : ℕ} {answer : StoreCmd.Answer (.updateQso written)}
    (h : ListedRow calls id ms s c) (hcall : calls[i]? = some call)
    (hrep : call.Replaces existing written) (hid : written.localId = id)
    (hs : ∀ r, s'.get id = some r → r = written) :
    ListedRow calls id (ms ++ [.other i ⟨.store (.updateQso written), answer⟩]) s' c where
  moved := by
    rw [purgeMoves_snoc]
    exact List.mem_append_left _ h.moved
  synced hq hn r hr := by
    rw [hs r hr]
    cases hrep with
    | update _ _ _ _ _ hstatus =>
        right
        rw [hstatus]
        split
        · decide
        · assumption
    | delete now => simp [markDeleted]
    | @restore localId existing now =>
        right
        intro hsynced
        refine hn (pair_sublist_purgeMoves (hq ▸ h.moved) ?_)
        rw [purgeMove_write hid hcall, operatorMove, if_pos hsynced]
  queued hq hn r hr hdel := by
    rw [hs r hr] at hdel ⊢
    cases hrep with
    | update _ _ _ hactive => rw [hactive] at hdel; cases hdel
    | restore now => cases hdel
    | @delete localId queue existing now =>
        by_contra hqueues
        refine hn (pair_sublist_purgeMoves (hq ▸ h.moved) ?_)
        have hpending : (markDeleted existing now queue).pendingRemoteDelete = true := by
          rw [Bool.not_eq_false, queuesRemoteDelete] at hqueues
          simp only [Bool.not_or, Bool.not_not, Bool.and_eq_true] at hqueues
          exact hqueues.1
        rw [purgeMove_write hid hcall, operatorMove, if_pos hpending]

/-- A record under `id` carries the logid `logid`. -/
def Carries (id : String) (logid : Option String) (call : OperatorCall) (r : QsoRecord) : Prop :=
  r.localId = call.target ∧ (r.localId = id → r.qrzLogid = logid)

variable {logid : Option String} {α ε : Type} {env : Environment ε}

/-- What holds at every point of a purge beside operator calls: the row's
logid never changes, and once the row is listed `ListedRow` holds of it. -/
structure PurgeInvariant (calls : List OperatorCall) (id : String) (logid : Option String)
    (ms : List (Move Cmd Cmd.Answer))
    (q : Pool Cmd Cmd.Answer (World ε) α (Except LogbookError QsoRecord)) : Prop where
  obeys : q.main.Obeys purgeContract (fun _ _ => True) (purgeView ms)
  inFlight : OperatorCall.InFlight (Carries id logid) calls q.others
  row : ∀ r, q.state.1.get id = some r → r.qrzLogid = logid
  listed : ∀ c ∈ (purgeView ms).listed, c.localId = id →
    c.qrzLogid = logid ∧ ListedRow calls id ms q.state.1 c

variable {q q' : Pool Cmd Cmd.Answer (World ε) α (Except LogbookError QsoRecord)}

theorem purgeView_main (e : Event Cmd Cmd.Answer) :
    purgeView (ms ++ [.main e]) = purgeContract.next (purgeView ms) e.1 e.2 := by
  rw [purgeView, Pool.observed_append]
  rfl

theorem purgeView_other (i : ℕ) (e : Event Cmd Cmd.Answer) :
    purgeView (ms ++ [.other i e]) = purgeView ms := by
  rw [purgeView, Pool.observed_append]
  rfl

/-- A remote delete adds nothing to the listing. -/
theorem listed_next_delete (t : PurgeView) (l : String) (answer : QrzCmd.Answer (.deleteQso l)) :
    (purgeContract.next t (.qrz (.deleteQso l)) answer).listed = t.listed := by
  rcases answer with e | ⟨⟩ <;> rfl

theorem PurgeInvariant.main {e : Event Cmd Cmd.Answer} (h : PurgeInvariant calls id logid ms q)
    (hs : q.Step (handle env) (.main e) q') :
    PurgeInvariant calls id logid (ms ++ [.main e]) q' := by
  cases hs with
  | @main c k others w =>
  obtain ⟨hallowed, hrest⟩ := h.obeys
  refine ⟨by rw [purgeView_main]; exact hrest _, h.inFlight, ?_, ?_⟩
  · cases hallowed with
    | list => exact h.row
    | delete => exact h.row
    | purge => exact fun r hr => h.row r (get_of_purgeDeletedQsos hr)
  · rw [purgeView_main]
    intro c hc hid
    cases hallowed with
    | list =>
        have hrow := (mem_listQsos_deletedOnly.mp hc).1
        exact ⟨h.row c (hid ▸ hrow), listedRow_of_list rfl hc hid⟩
    | delete l =>
        have hlisted := listed_next_delete (purgeView ms) l (handle env (.qrz (.deleteQso l)) w).1
        exact (h.listed c (hlisted ▸ hc) hid).imp_right fun hrow => hrow.snoc fun r hr => hr
    | purge =>
        exact (h.listed c hc hid).imp_right fun hrow =>
          hrow.snoc fun r hr => get_of_purgeDeletedQsos hr

theorem PurgeInvariant.other {i : ℕ} {e : Event Cmd Cmd.Answer}
    (h : PurgeInvariant calls id logid ms q) (hs : q.Step (handle env) (.other i e) q') :
    PurgeInvariant calls id logid (ms ++ [.other i e]) q' := by
  have hcarries : ∀ (call : OperatorCall) r, q.state.1.get call.target = some r →
      Carries id logid call r := by
    intro call r hr
    refine ⟨localId_of_get hr, fun hid => h.row r ?_⟩
    rw [← hid, localId_of_get hr]
    exact hr
  obtain ⟨hflight, hmain, hmoves⟩ := h.inFlight.step hcarries hs
  have hobeys : q'.main.Obeys purgeContract (fun _ _ => True) (purgeView (ms ++ [.other i e])) := by
    rw [hmain, purgeView_other]
    exact h.obeys
  obtain ⟨c, answer⟩ := e
  dsimp only at hmoves
  generalize hstate : q'.state.1 = s' at hmoves
  cases hmoves with
  | frame =>
      refine ⟨hobeys, hflight, by rw [hstate]; exact h.row, fun c hc hid => ?_⟩
      rw [purgeView_other] at hc
      exact (h.listed c hc hid).imp_right fun hrow => hrow.snoc fun r hr => hstate ▸ hr
  | @write call existing written hcall hheld hrep =>
      have hlogid : written.localId = id → written.qrzLogid = logid := by
        intro hid
        rw [hrep.localId] at hid
        exact hrep.qrzLogid.trans (hheld.2 hid)
      refine ⟨hobeys, hflight, fun r hr => ?_, fun c hc hid => ?_⟩
      · rw [hstate] at hr
        rcases get_of_updateQso hr with ⟨hid, rfl⟩ | ⟨-, hr⟩
        · exact hlogid hid
        · exact h.row r hr
      · rw [purgeView_other] at hc
        obtain ⟨hc, hlisted⟩ := h.listed c hc hid
        rw [hstate]
        refine ⟨hc, ?_⟩
        by_cases hid : written.localId = id
        · refine hlisted.write hcall hrep hid fun r hr => ?_
          rcases get_of_updateQso hr with ⟨-, rfl⟩ | ⟨hne, -⟩
          · rfl
          · exact absurd hid hne
        · refine hlisted.snoc fun r hr => ?_
          rcases get_of_updateQso hr with ⟨heq, -⟩ | ⟨-, hr⟩
          · exact absurd heq hid
          · exact hr

variable (id) in
/-- The invariant holds along every run. -/
theorem purge_run {hasClient : Bool} {localIds : List String} {olderThanMs : Option ℤ}
    {w : World ε}
    {q : Pool Cmd Cmd.Answer (World ε) (Except StorageError PurgeDeletedOutcome)
      (Except LogbookError QsoRecord)}
    (hrun : Pool.Run (handle env)
      ⟨purgeDeletedQsos hasClient localIds olderThanMs true, calls.map OperatorCall.program, w⟩
      ms q) :
    PurgeInvariant calls id ((w.1.get id).bind (·.qrzLogid)) ms q := by
  refine hrun.invariant ?_ ?_
  · intro ms q m r h hs
    cases m with
    | main e => exact h.main hs
    | other i e => exact h.other hs
  · refine ⟨purgeDeletedQsos_obeys hasClient localIds, OperatorCall.inFlight_program, ?_, ?_⟩
    · intro r hr
      rw [hr, Option.bind_some]
    · intro c hc
      exact absurd hc List.not_mem_nil

end Run

/-- **The purge beside operator calls.**  Take a row whose logid is not blank,
and a run in which no `restore_qso` brought it back as SYNCED after it was
listed for a remote delete, and no `delete_qso` queued its remote delete after
it was listed without one.  Once its remote delete has succeeded the row is
gone, or it is not an active SYNCED row with that logid; and when a step of
the purge drops it with a remote delete queued, that remote delete has
succeeded. -/
theorem purgeDeletedQsos_beside_operators {ε : Type} {env : Environment ε} {hasClient : Bool}
    {localIds : List String} {olderThanMs : Option ℤ} {calls : List OperatorCall} {w : World ε}
    {ms : List (Move Cmd Cmd.Answer)}
    {q : Pool Cmd Cmd.Answer (World ε) (Except StorageError PurgeDeletedOutcome)
      (Except LogbookError QsoRecord)}
    (hrun : Pool.Run (handle env)
      ⟨purgeDeletedQsos hasClient localIds olderThanMs true, calls.map OperatorCall.program, w⟩
      ms q)
    {id logid : String}
    (hrestored : RemotelyDeleted id logid ms → ¬ RestoredSynced calls id ms)
    (hqueued : ¬ QueuedLate calls id ms) (hblank : Text.trim logid ≠ "") :
    (RemotelyDeleted id logid ms → ∀ r, q.state.1.get id = some r →
        ¬ (r.deletedAt = none ∧ r.syncStatus = SyncStatus.synced.toI32
            ∧ r.qrzLogid = some logid))
      ∧ ∀ e q', q.Step (handle env) (.main e) q' → ∀ r, q.state.1.get id = some r →
          q'.state.1.get id = none → r.pendingRemoteDelete = true → r.qrzLogid = some logid →
          Text.trim logid ∈ (purgeView ms).deleted := by
  have hinv := purge_run id hrun
  constructor
  · rintro hdeleted r hr ⟨hactive, hsynced, -⟩
    have hnot := hrestored hdeleted
    obtain ⟨c, hc, hid, -, hq, -⟩ := hdeleted
    rcases (hinv.listed c hc hid).2.synced hq hnot r hr with h | h
    · rw [hactive] at h
      cases h
    · exact h hsynced
  · intro e q' hs r hr hnone hpending hlogid
    have hq : deleteLogid r = Text.trim logid := by rw [deleteLogid, hlogid, Option.getD_some]
    have hrow := hinv.row r hr
    cases hs with
    | @main c k others w =>
    obtain ⟨hallowed, -⟩ := hinv.obeys
    cases hallowed with
    | list => exact absurd (hr.symm.trans hnone) (by nofun)
    | delete => exact absurd (hr.symm.trans hnone) (by nofun)
    | @purge ids _ hne hsettled =>
        have hpurges := purges_of_get_eq_none hr hnone
        rw [purges, localId_of_get hr] at hpurges
        simp only [Bool.and_eq_true, Bool.or_eq_true, List.isEmpty_iff, hne, false_or,
          List.contains_iff_mem] at hpurges
        obtain ⟨c, hc, hid, hset⟩ := hsettled id hpurges.1.2
        obtain ⟨hcl, hlisted⟩ := hinv.listed c hc hid
        rcases hset with hset | hset
        · have hnot := hlisted.queued hset hqueued r hr hpurges.1.1
          rw [queuesRemoteDelete, hpending, hq] at hnot
          simp [hblank] at hnot
        · rwa [deleteLogid, hcl, ← hrow, ← deleteLogid, hq] at hset

/-! ### Two schedules -/

/-- A deleted row of a remote record. -/
def deletedRow (queued : Bool) (syncStatus : SyncStatus) : QsoRecord :=
  { localId := "a", stationCallsign := "K7RND", workedCallsign := "W1AW", band := 9, mode := 7,
    utcTimestamp := some ⟨0, 0⟩, qrzLogid := some "900", deletedAt := some ⟨500, 0⟩,
    pendingRemoteDelete := queued, syncStatus := syncStatus.toI32 }

/-- A purge whose listing one operator call overtakes, up to `n` further
commands of the purge. -/
def purgeBeside (call : OperatorCall) (row : QsoRecord) (n : ℕ) : List (Move Cmd Cmd.Answer) ×
    Pool Cmd Cmd.Answer (World Unit) (Except StorageError PurgeDeletedOutcome)
      (Except LogbookError QsoRecord) :=
  Pool.schedule (handle quietRemote) (.main :: .replicate 3 (.other 0) ++ .replicate n .main)
    ⟨purgeDeletedQsos true [] none true, [call].map OperatorCall.program, empty.put row, ()⟩

/-- A restore that overtakes the listing ends as an active SYNCED row of a
deleted remote record, and a delete that does so is dropped with its remote
delete queued and never sent. -/
theorem purgeDeletedQsos_overtaken :
    (RemotelyDeleted "a" "900" (purgeBeside (.restore "a") (deletedRow true .synced) 2).1
      ∧ ((purgeBeside (.restore "a") (deletedRow true .synced) 2).2.state.1.get "a").map
          (fun r => (r.deletedAt, r.syncStatus, r.qrzLogid))
          = some (none, SyncStatus.synced.toI32, some "900"))
    ∧ ∃ e q', (purgeBeside (.delete "a" true) (deletedRow false .synced) 0).2.Step
          (handle quietRemote) (.main e) q'
        ∧ ((purgeBeside (.delete "a" true) (deletedRow false .synced) 0).2.state.1.get "a").map
            (fun r => (r.pendingRemoteDelete, r.qrzLogid)) = some (true, some "900")
        ∧ (q'.state.1.get "a").isNone
        ∧ (purgeView (purgeBeside (.delete "a" true) (deletedRow false .synced) 0).1).deleted
            = [] := by
  refine ⟨by decide +kernel, ?_⟩
  obtain ⟨e, hstep⟩ := Pool.exists_step_main (h := handle quietRemote)
    (p := (purgeBeside (.delete "a" true) (deletedRow false .synced) 0).2) (by decide +kernel)
  exact ⟨e, _, hstep, by decide +kernel, by decide +kernel, by decide +kernel⟩

/-- A row corrected before it was deleted may be restored while it is purged. -/
theorem purgeDeletedQsos_beside_restore :
    RemotelyDeleted "a" "900" (purgeBeside (.restore "a") (deletedRow true .modified) 2).1
      ∧ ∀ r, (purgeBeside (.restore "a") (deletedRow true .modified) 2).2.state.1.get "a" = some r →
        ¬ (r.deletedAt = none ∧ r.syncStatus = SyncStatus.synced.toI32
            ∧ r.qrzLogid = some "900") := by
  have hdeleted : RemotelyDeleted "a" "900"
      (purgeBeside (.restore "a") (deletedRow true .modified) 2).1 := by
    decide +kernel
  exact ⟨hdeleted, (@purgeDeletedQsos_beside_operators Unit quietRemote true [] none [.restore "a"]
    _ _ _ (Pool.schedule_run _ _) "a" "900" (by decide +kernel) (by decide +kernel)
    (by decide +kernel)).1 hdeleted⟩

end QsoRipper
