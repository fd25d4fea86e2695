/-
QsoRipper/Server/LotwDownload.lean

What a download does to the LoTW state of the rows.  The status a remote record
carries is derived from its own columns, and the merge takes everything over
that is not at its default: a contact that QRZ has only seen sent overwrites a
confirmation.
-/
import QsoRipper.Adif.LotwColumns
import QsoRipper.Server.Download

namespace QsoRipper

open Interaction MemoryState Adif

/-! ### Remote records -/

/-- A downloaded record: its columns, and what those not for LoTW come to. -/
structure DownloadedRecord where
  fields : List AdifField
  others : QsoRecord

/-- The record that the loop is given. -/
def DownloadedRecord.toQso (remote : DownloadedRecord) : QsoRecord :=
  recordToQso remote.others remote.fields

/-- Its LoTW columns. -/
def DownloadedRecord.columns (remote : DownloadedRecord) : LotwColumns :=
  LotwColumns.ofFields remote.fields

/-- LoTW has confirmed the row. -/
def LotwConfirmed (row : QsoRecord) : Prop :=
  row.lotwSyncStatus = LotwSyncStatus.confirmed.toI32
    ∧ row.lotwReceivedStatus = QslStatus.yes.toI32

instance (row : QsoRecord) : Decidable (LotwConfirmed row) := inferInstanceAs (Decidable (_ ∧ _))

/-- The row of that id is confirmed. -/
def ConfirmedAt (s : MemoryState) (id : String) : Prop :=
  ∃ row, s.get id = some row ∧ LotwConfirmed row

/-- A remote record says that of a contact. -/
def DownloadedRecord.Reports (remote : DownloadedRecord) : LotwSyncStatus → Prop
  | .confirmed => remote.columns.receivedStatus = .yes
  | .uploaded => remote.columns.sentStatus = .yes
  | _ => True

section Along

variable {ε : Type} (env : Environment ε) (ctx : DownloadContext)

/-- The row of that id is confirmed after each record of the list. -/
def StaysConfirmed (id : String) : List DownloadedRecord → DownloadState → World ε → Prop
  | [], _, _ => True
  | remote :: rest, st, w =>
      let o := (processRemoteQso ctx remote.toQso st).run (handle env) w
      ConfirmedAt o.2.1 id ∧ StaysConfirmed id rest o.1 o.2

/-- Each row that ends uploaded or confirmed was so before, or a remote record
reports it. -/
def NothingInvented (remotes : List DownloadedRecord) (st : DownloadState) (w : World ε) : Prop :=
  ∀ id row', ((processRemoteQsos ctx (remotes.map (·.toQso)) st).run (handle env) w).2.1.get id
      = some row' →
    ∀ status ∈ [LotwSyncStatus.uploaded, .confirmed], row'.lotwSyncStatus = status.toI32 →
      (∃ row, w.1.get id = some row ∧ row.lotwSyncStatus = status.toI32)
        ∨ ∃ remote ∈ remotes, remote.Reports status

/-- **A download takes no LoTW state back**, and invents none. -/
def KeepsLotw (remotes : List DownloadedRecord) (st : DownloadState) (w : World ε) : Prop :=
  (∀ id, ConfirmedAt w.1 id → StaysConfirmed env ctx id remotes st w)
    ∧ NothingInvented env ctx remotes st w

/-! ### When it does -/

/-- A remote record leaves a confirmation alone: it is one, or it says nothing of
the receipt and nothing of an upload. -/
def DownloadedRecord.LeavesConfirmation (remote : DownloadedRecord) : Prop :=
  remote.columns.receivedStatus = .yes
    ∨ remote.columns.receivedStatus = .unspecified ∧ remote.columns.sentStatus ≠ .yes
      ∧ remote.columns.sentStatus ≠ .queued

instance (remote : DownloadedRecord) : Decidable remote.LeavesConfirmation :=
  inferInstanceAs (Decidable (_ ∨ _))

/-- A remote record replaces the local one, by its status and the policy. -/
def takesOver (policy : ConflictPolicy) (mine remote : QsoRecord) : Bool :=
  match SyncStatus.tryFrom mine.syncStatus with
  | some .synced => true
  | some .modified =>
      policy = .lastWriteWins
        && decide (mine.updatedAt.elim 0 (·.seconds) ≤ remote.updatedAt.elim 0 (·.seconds))
  | _ => false

/-- The remote record overwrites the row of that id. -/
def Overwrites (indexes : LocalIndexes) (s : MemoryState) (remote : QsoRecord) (id : String) :
    Prop :=
  ¬ Ignored ctx remote ∧ ∃ c, indexes.match (extractQrzLogid remote) remote = some c
    ∧ c.localId = id ∧ takesOver ctx.conflictPolicy c remote = true
    ∧ ∃ current, s.get id = some current ∧ (current == c) = true

/-- Each record that overwrites the row leaves a confirmation alone. -/
def LeftAlone (id : String) : List DownloadedRecord → DownloadState → World ε → Prop
  | [], _, _ => True
  | remote :: rest, st, w =>
      let o := (processRemoteQso ctx remote.toQso st).run (handle env) w
      (Overwrites ctx st.indexes w.1 remote.toQso id → remote.LeavesConfirmation)
        ∧ LeftAlone id rest o.1 o.2

end Along

/-! ### One record -/

/-- What one record does to the store, whether or not it takes the insert. -/
inductive StoreTurn (ctx : DownloadContext) (indexes : LocalIndexes) (remote : QsoRecord)
    (s : MemoryState) : MemoryState → Prop
  | keep :
      (∀ c q current, ¬ Ignored ctx remote →
        indexes.match (extractQrzLogid remote) remote = some c →
        mergeResult ctx.conflictPolicy c remote = some q → s.get c.localId = some current →
        (current == c) = false) → StoreTurn ctx indexes remote s s
  | insert {localId : String} :
      indexes.match (extractQrzLogid remote) remote = none → s.get localId = none →
      StoreTurn ctx indexes remote s (s.put (newRow remote (extractQrzLogid remote) localId))
  | merge {c current q : QsoRecord} :
      ¬ Ignored ctx remote → indexes.match (extractQrzLogid remote) remote = some c →
      mergeResult ctx.conflictPolicy c remote = some q → s.get c.localId = some current →
      (current == c) = true → StoreTurn ctx indexes remote s (s.put q)

section Run

variable {ε : Type} {env : Environment ε} {ctx : DownloadContext} {remote : QsoRecord}

theorem insertRow_turn {st : DownloadState} {w : World ε} {localId : String}
    (hm : st.indexes.match (extractQrzLogid remote) remote = none) :
    StoreTurn ctx st.indexes remote w.1
      ((insertRow (newRow remote (extractQrzLogid remote) localId) (extractQrzLogid remote)
        st).run (handle env) w).2.1 := by
  rw [insertRow]
  generalize hrow : newRow remote (extractQrzLogid remote) localId = q
  have hid : q.localId = localId := by rw [← hrow]; rfl
  rcases w.1.insertQso_cases q with ⟨hfree, hins⟩ | hins
  · have hexec : exec (.insertQso q) w.1 = (.ok (), w.1.put q) := hins
    rw [run_store, hexec]
    rw [hid] at hfree
    rw [← hrow]
    exact .insert hm hfree
  · have hexec : exec (.insertQso q) w.1 = (.error (.duplicate "qso" q.localId), w.1) := hins
    rw [run_store, hexec]
    refine .keep fun c _ _ _ hc => ?_
    rw [hm] at hc
    cases hc

/-- A record that is passed over. -/
theorem StoreTurn.ignored {indexes : LocalIndexes} {s : MemoryState} (h : Ignored ctx remote) :
    StoreTurn ctx indexes remote s s :=
  .keep fun _ _ _ hno => absurd h hno

theorem processRemoteQso_turn {st : DownloadState} {w : World ε} :
    StoreTurn ctx st.indexes remote w.1
      ((processRemoteQso ctx remote st).run (handle env) w).2.1 := by
  rw [processRemoteQso]
  dsimp only
  by_cases hfrag : isFragment remote = true
  · rw [if_pos hfrag]
    exact .ignored (.inl hfrag)
  rw [if_neg hfrag]
  by_cases hfresh : ((extractQrzLogid remote).any fun logid =>
      decide (logid ∈ ctx.freshlyUploadedLogids)) = true
  · rw [if_pos hfresh]
    obtain ⟨logid, hl, hmem⟩ := (Option.any_eq_true _ _).mp hfresh
    exact .ignored (.inr ⟨logid, hl, .inl (of_decide_eq_true hmem)⟩)
  rw [if_neg hfresh]
  by_cases hdel : ((extractQrzLogid remote).any fun logid =>
      decide (logid ∈ ctx.deletedLogids)) = true
  · rw [if_pos hdel]
    obtain ⟨logid, hl, hmem⟩ := (Option.any_eq_true _ _).mp hdel
    exact .ignored (.inr ⟨logid, hl, .inr (of_decide_eq_true hmem)⟩)
  rw [if_neg hdel]
  have hnot : ¬ Ignored ctx remote := by
    rintro (h | ⟨logid, hl, h | h⟩)
    · exact hfrag h
    · exact hfresh ((Option.any_eq_true _ _).mpr ⟨logid, hl, decide_eq_true h⟩)
    · exact hdel ((Option.any_eq_true _ _).mpr ⟨logid, hl, decide_eq_true h⟩)
  rcases hm : st.indexes.match (extractQrzLogid remote) remote with - | c
  · dsimp only
    rw [insertNewRemoteQso]
    by_cases hempty : remote.localId.isEmpty = true
    · rw [if_pos hempty]
      exact insertRow_turn (w := (w.1, (env.newLocalId w.2).2)) hm
    · rw [if_neg hempty]
      exact insertRow_turn hm
  · dsimp only
    rw [Prog.run_bind, mergeWithLocal_run]
    show StoreTurn ctx st.indexes remote w.1
      ((mergeResult ctx.conflictPolicy c remote).elim w.1 _)
    rcases hmerge : mergeResult ctx.conflictPolicy c remote with - | q
    · refine .keep fun c' _ _ _ hc hq => ?_
      rw [hm] at hc
      cases hc
      rw [hmerge] at hq
      cases hq
    · rw [Option.elim_some]
      by_cases hstored : ∃ current, w.1.get c.localId = some current ∧ (current == c) = true
      · obtain ⟨current, hcurrent, heq⟩ := hstored
        rw [updateQsoIfUnchanged_of_beq (mergeResult_frame hmerge).1.symm hcurrent heq]
        exact .merge hnot hm hmerge hcurrent heq
      · have hne : ∀ current, w.1.get c.localId = some current → (current == c) = false := by
          intro current hcurrent
          by_contra heq
          exact hstored ⟨current, hcurrent, by simpa using heq⟩
        rw [updateQsoIfUnchanged_of_ne hne]
        refine .keep fun c' _ current _ hc _ hcurrent => ?_
        rw [hm] at hc
        cases hc
        exact hne current hcurrent

end Run

/-! ### What a merge does to the LoTW state -/

/-- The LoTW state of a row. -/
def lotwState (row : QsoRecord) : ℤ × ℤ := (row.lotwSyncStatus, row.lotwReceivedStatus)

theorem lotwState_of_beq {a b : QsoRecord} (h : (a == b) = true) : lotwState a = lotwState b :=
  QsoRecord.congr_of_beq h lotwState fun _ => rfl

theorem lotwConfirmed_congr {a b : QsoRecord} (h : lotwState a = lotwState b) :
    LotwConfirmed a ↔ LotwConfirmed b := by
  obtain ⟨hsync, hreceived⟩ := Prod.mk.inj h
  rw [LotwConfirmed, LotwConfirmed, hsync, hreceived]

/-- A replacement overwrites the entry or leaves its LoTW state alone. -/
theorem mergeResult_lotw {policy : ConflictPolicy} {mine remote q : QsoRecord}
    (h : mergeResult policy mine remote = some q) :
    if takesOver policy mine remote then q = overwritten mine remote (extractQrzLogid remote)
    else lotwState q = lotwState mine := by
  rw [mergeResult] at h
  rw [takesOver]
  generalize SyncStatus.tryFrom mine.syncStatus = status at h ⊢
  rcases status with - | status
  · cases h
  cases status with
  | synced =>
    cases h
    rfl
  | localOnly =>
    cases h
    rfl
  | conflict => cases h
  | modified =>
    cases policy with
    | lastWriteWins =>
      dsimp only at h ⊢
      rw [conflictResult] at h
      split at h
      · rename_i hle
        cases h
        rw [if_pos (by simpa using hle)]
      · cases h
    | unspecified =>
      cases h
      rfl
    | flagForReview =>
      cases h
      rfl

/-- What takes over writes. -/
theorem mergeResult_of_takesOver {policy : ConflictPolicy} {mine remote : QsoRecord}
    (h : takesOver policy mine remote = true) :
    mergeResult policy mine remote = some (overwritten mine remote (extractQrzLogid remote)) := by
  rw [takesOver] at h
  rw [mergeResult]
  generalize SyncStatus.tryFrom mine.syncStatus = status at h ⊢
  rcases status with - | status
  · cases h
  cases status with
  | synced => rfl
  | localOnly => cases h
  | conflict => cases h
  | modified =>
    obtain ⟨hpolicy, hle⟩ := (Bool.and_eq_true _ _).mp h
    cases of_decide_eq_true hpolicy
    dsimp only
    rw [conflictResult, if_pos (of_decide_eq_true hle)]

/-- **Overwriting a confirmation.** -/
theorem lotwConfirmed_overwritten_iff {mine : QsoRecord} {remote : DownloadedRecord}
    {logid : Option String} (h : LotwConfirmed mine) :
    LotwConfirmed (overwritten mine remote.toQso logid) ↔ remote.LeavesConfirmation := by
  have hsync : (overwritten mine remote.toQso logid).lotwSyncStatus
      = mergePlain 0 mine.lotwSyncStatus remote.columns.standing.toI32 := by
    rw [DownloadedRecord.columns, ← lotwSyncStatus_recordToQso remote.others]
    rfl
  have hreceived : (overwritten mine remote.toQso logid).lotwReceivedStatus
      = mergePlain 0 mine.lotwReceivedStatus remote.columns.receivedStatus.toI32 := rfl
  rw [LotwConfirmed, hsync, hreceived, h.1, h.2, LotwColumns.standing,
    DownloadedRecord.LeavesConfirmation]
  rcases remote.columns.receivedStatus <;> rcases remote.columns.sentStatus <;> decide

/-! ### One record and one row -/

section Row

variable {ε : Type} {env : Environment ε} {ctx : DownloadContext} {remote : DownloadedRecord}
  {st : DownloadState} {w : World ε} {id : String}

/-- One record keeps a row confirmed exactly if it leaves it alone. -/
theorem confirmedAt_processRemoteQso_iff (h : ConfirmedAt w.1 id) :
    ConfirmedAt ((processRemoteQso ctx remote.toQso st).run (handle env) w).2.1 id
      ↔ (Overwrites ctx st.indexes w.1 remote.toQso id → remote.LeavesConfirmation) := by
  obtain ⟨row, hrow, hconfirmed⟩ := h
  have hturn : StoreTurn ctx st.indexes remote.toQso w.1
      ((processRemoteQso ctx remote.toQso st).run (handle env) w).2.1 := processRemoteQso_turn
  generalize ((processRemoteQso ctx remote.toQso st).run (handle env) w).2.1 = s' at hturn ⊢
  cases hturn with
  | keep hkeep =>
    refine iff_of_true ⟨row, hrow, hconfirmed⟩ ?_
    rintro ⟨hnot, c, hm, rfl, htakes, current, hcurrent, heq⟩
    rw [hkeep c _ current hnot hm (mergeResult_of_takesOver htakes) hcurrent] at heq
    cases heq
  | @insert localId hm hfree =>
    refine iff_of_true ⟨row, ?_, hconfirmed⟩ ?_
    · rw [get_put, if_neg]
      · exact hrow
      · intro heq
        rw [show localId = id from heq, hrow] at hfree
        cases hfree
    · rintro ⟨-, c, hno, -⟩
      rw [hm] at hno
      cases hno
  | @merge c current q hnot hm hq hcurrent heq =>
    have hid := (mergeResult_frame hq).1
    by_cases hsame : c.localId = id
    · subst hsame
      rw [hrow] at hcurrent
      cases hcurrent
      have hmine : LotwConfirmed c := (lotwConfirmed_congr (lotwState_of_beq heq)).mp hconfirmed
      have hafter : ConfirmedAt (w.1.put q) c.localId ↔ LotwConfirmed q := by
        rw [ConfirmedAt, get_put, if_pos hid]
        simp
      have hlotw := mergeResult_lotw hq
      rw [hafter]
      by_cases htakes : takesOver ctx.conflictPolicy c remote.toQso = true
      · have hover : Overwrites ctx st.indexes w.1 remote.toQso c.localId :=
          ⟨hnot, c, hm, rfl, htakes, row, hrow, heq⟩
        rw [if_pos htakes] at hlotw
        rw [imp_iff_right hover, hlotw]
        exact lotwConfirmed_overwritten_iff hmine
      · rw [if_neg htakes] at hlotw
        refine iff_of_true ((lotwConfirmed_congr hlotw).mpr hmine) ?_
        rintro ⟨-, c', hm', -, htakes', -⟩
        rw [hm] at hm'
        cases hm'
        exact absurd htakes' htakes
    · -- another row is written
      refine iff_of_true ⟨row, ?_, hconfirmed⟩ ?_
      · rw [get_put, if_neg]
        · exact hrow
        · rw [hid]
          exact hsame
      · rintro ⟨-, c', hm', hsame', -⟩
        rw [hm] at hm'
        cases hm'
        exact absurd hsame' hsame

/-- The LoTW status of a row after one record is that of before, or the record's. -/
theorem lotwSyncStatus_processRemoteQso {row' : QsoRecord}
    (hrow' : ((processRemoteQso ctx remote.toQso st).run (handle env) w).2.1.get id = some row') :
    (∃ row, w.1.get id = some row ∧ row.lotwSyncStatus = row'.lotwSyncStatus)
      ∨ row'.lotwSyncStatus = remote.toQso.lotwSyncStatus := by
  have hturn : StoreTurn ctx st.indexes remote.toQso w.1
      ((processRemoteQso ctx remote.toQso st).run (handle env) w).2.1 := processRemoteQso_turn
  generalize ((processRemoteQso ctx remote.toQso st).run (handle env) w).2.1 = s' at hturn hrow'
  cases hturn with
  | keep => exact .inl ⟨row', hrow', rfl⟩
  | insert hm hfree =>
    rw [get_put] at hrow'
    split at hrow'
    · cases hrow'
      exact .inr rfl
    · exact .inl ⟨row', hrow', rfl⟩
  | @merge c current q hnot hm hq hcurrent heq =>
    rw [get_put] at hrow'
    split at hrow'
    · rename_i hid
      cases hrow'
      rw [(mergeResult_frame hq).1] at hid
      subst hid
      have hbefore : current.lotwSyncStatus = c.lotwSyncStatus :=
        (Prod.mk.inj (lotwState_of_beq heq)).1
      have hlotw := mergeResult_lotw hq
      split at hlotw
      · rw [hlotw]
        show _ ∨ mergePlain 0 c.lotwSyncStatus remote.toQso.lotwSyncStatus = _
        rw [mergePlain]
        split_ifs with hdefault
        · left
          refine ⟨current, hcurrent, ?_⟩
          show _ = mergePlain 0 c.lotwSyncStatus remote.toQso.lotwSyncStatus
          rw [mergePlain, if_pos hdefault, hbefore]
        · exact .inr rfl
      · exact .inl ⟨current, hcurrent, hbefore.trans (Prod.mk.inj hlotw).1.symm⟩
    · exact .inl ⟨row', hrow', rfl⟩

end Row

/-! ### A download -/

section Download

variable {ε : Type} {env : Environment ε} {ctx : DownloadContext}

theorem staysConfirmed_iff {id : String} {remotes : List DownloadedRecord} {st : DownloadState}
    {w : World ε} (h : ConfirmedAt w.1 id) :
    StaysConfirmed env ctx id remotes st w ↔ LeftAlone env ctx id remotes st w := by
  induction remotes generalizing st w with
  | nil => exact Iff.rfl
  | cons remote rest ih =>
    have hone : ConfirmedAt ((processRemoteQso ctx remote.toQso st).run (handle env) w).2.1 id
        ↔ (Overwrites ctx st.indexes w.1 remote.toQso id → remote.LeavesConfirmation) :=
      confirmedAt_processRemoteQso_iff h
    constructor
    · rintro ⟨hnow, hlater⟩
      exact ⟨hone.mp hnow, (ih hnow).mp hlater⟩
    · rintro ⟨halone, hlater⟩
      have hnow := hone.mpr halone
      exact ⟨hnow, (ih hnow).mpr hlater⟩

/-- Only an upload or a receipt makes a record say so. -/
theorem reports_of_lotwSyncStatus {remote : DownloadedRecord} {status : LotwSyncStatus}
    (hmem : status ∈ [LotwSyncStatus.uploaded, .confirmed])
    (h : remote.toQso.lotwSyncStatus = status.toI32) : remote.Reports status := by
  rw [DownloadedRecord.toQso, lotwSyncStatus_recordToQso, LotwColumns.standing] at h
  rcases List.mem_pair.mp hmem with rfl | rfl <;>
    rw [DownloadedRecord.Reports, DownloadedRecord.columns] <;>
    revert h <;>
    rcases (LotwColumns.ofFields remote.fields).receivedStatus <;>
    rcases (LotwColumns.ofFields remote.fields).sentStatus <;> decide

theorem nothingInvented (remotes : List DownloadedRecord) (st : DownloadState) (w : World ε) :
    NothingInvented env ctx remotes st w := by
  intro id row' hrow' status hmem hstatus
  induction remotes generalizing st w with
  | nil => exact .inl ⟨row', hrow', hstatus⟩
  | cons remote rest ih =>
    rw [List.map_cons, processRemoteQsos, Prog.run_bind] at hrow'
    rcases ih _ _ hrow' with ⟨row, hrow, hbefore⟩ | ⟨other, hother, hreports⟩
    · rcases lotwSyncStatus_processRemoteQso hrow with ⟨first, hfirst, hsame⟩ | hremote
      · exact .inl ⟨first, hfirst, hsame.trans hbefore⟩
      · rw [hbefore] at hremote
        exact .inr ⟨remote, List.mem_cons_self, reports_of_lotwSyncStatus hmem hremote.symm⟩
    · exact .inr ⟨other, List.mem_cons_of_mem _ hother, hreports⟩

end Download

/-! ### A contact that QRZ has only seen sent -/

/-- A synced contact that LoTW has confirmed. -/
def confirmedContact : QsoRecord :=
  { localId := "a", stationCallsign := "K7RND", workedCallsign := "W1AW", band := 9, mode := 7,
    utcTimestamp := some ⟨1000, 0⟩, qrzLogid := some "1", syncStatus := SyncStatus.synced.toI32,
    lotwSyncStatus := LotwSyncStatus.confirmed.toI32,
    lotwReceivedStatus := QslStatus.yes.toI32, lotwReceived := some true }

/-- The copy of it at QRZ, marked as sent to LoTW. -/
def sentContact : DownloadedRecord where
  fields := [("LOTW_QSL_SENT", "Y")]
  others :=
    { stationCallsign := "K7RND", workedCallsign := "W1AW", band := 9, mode := 7,
      utcTimestamp := some ⟨1000, 0⟩, qrzLogid := some "1" }

/-- The loop at its start. -/
def confirmedStart : DownloadState := ⟨buildLocalIndexes [confirmedContact], {}⟩

end QsoRipper
