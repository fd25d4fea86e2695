/-
QsoRipper/Server/Redeletion.lean

Deleting what is deleted, in the Rust engine.  A run is any sequence of calls of
`delete_qso`, with and without a queued remote delete, and of passes that push the queued
deletes to QRZ.  `delete_qso` only adds to a deleted row, and a pass clears a row only after
QRZ has deleted the record under its logid.
-/
import QsoRipper.Application.Logbook
import QsoRipper.Lib.Trace
import QsoRipper.Server.Sync

namespace QsoRipper

open Interaction

/-! ### What is kept of a deletion -/

/-- The row is still deleted as of that instant, and a queued remote delete is still queued,
unless it has been made. -/
def DeletionKept (row : QsoRecord) (deletedLogids : List String) (s : MemoryState) : Prop :=
  ∃ row', s.get row.localId = some row' ∧ row'.deletedAt = row.deletedAt
    ∧ (row.pendingRemoteDelete = true → row.qrzLogid.getD "" ≠ "" →
      row.qrzLogid.getD "" ∈ deletedLogids
        ∨ (row'.pendingRemoteDelete = true ∧ row'.qrzLogid.getD "" = row.qrzLogid.getD ""))

namespace DeletionKept

variable {row : QsoRecord} {s : MemoryState} {deleted : List String}

theorem of_get (h : s.get row.localId = some row) : DeletionKept row deleted s :=
  ⟨row, h, rfl, fun hpending _ => .inr ⟨hpending, rfl⟩⟩

/-- What one part of a run keeps, the next has to keep. -/
theorem append {more : List String} {s' : MemoryState} (h : DeletionKept row deleted s)
    (hnext : ∀ row', s.get row.localId = some row' → row'.deletedAt = row.deletedAt →
      DeletionKept row' more s') :
    DeletionKept row (deleted ++ more) s' := by
  obtain ⟨row', hget, hdeleted, hqueued⟩ := h
  obtain ⟨row'', hget', hdeleted', hqueued'⟩ := hnext row' hget hdeleted
  refine ⟨row'', ?_, hdeleted'.trans hdeleted, ?_⟩
  · rwa [← MemoryState.localId_of_get hget]
  · intro hpending hlogid
    rcases hqueued hpending hlogid with hmade | ⟨hpending', hsame⟩
    · exact .inl (List.mem_append_left _ hmade)
    · rw [← hsame] at hlogid ⊢
      rcases hqueued' hpending' hlogid with hmade | hstill
      · exact .inl (List.mem_append_right _ hmade)
      · exact .inr hstill

theorem mono {more : List String} (h : DeletionKept row deleted s) (hsub : deleted ⊆ more) :
    DeletionKept row more s := by
  obtain ⟨row', hget, hdeleted, hqueued⟩ := h
  refine ⟨row', hget, hdeleted, fun hpending hlogid => ?_⟩
  exact (hqueued hpending hlogid).imp_left fun hmade => hsub hmade

/-- Another row is written. -/
theorem put_other (h : s.get row.localId = some row) {written : QsoRecord}
    (hother : written.localId ≠ row.localId) : DeletionKept row deleted (s.put written) := by
  apply of_get
  rw [MemoryState.get_put, if_neg hother, h]

end DeletionKept

/-! ### Calls and passes -/

/-- The logid that a command has deleted at QRZ. -/
def deletedLogid : Event Cmd Cmd.Answer → Option String
  | ⟨.qrz (.deleteQso logid), .ok ()⟩ => some logid
  | _ => none

/-- What an operator or the sync does. -/
inductive DeletionTurn where
  | deleteQso (localId : String) (queueRemoteDelete : Bool)
  | pushPendingRemoteDeletes (counters : SyncCounters)

/-- The program of a turn. -/
def DeletionTurn.program : DeletionTurn → Program Unit
  | deleteQso localId queueRemoteDelete => do
      let _ ← QsoRipper.deleteQso localId queueRemoteDelete
  | pushPendingRemoteDeletes counters => do
      let _ ← QsoRipper.pushPendingRemoteDeletes counters

variable {ε : Type}

/-- A run: the logids deleted at QRZ, and the world afterwards. -/
def playTurns (env : Environment ε) : List DeletionTurn → World ε → List String × World ε
  | [], w => ([], w)
  | turn :: turns, w =>
      let deleted := (turn.program.events (handle env) w).filterMap deletedLogid
      let (more, w) := playTurns env turns (turn.program.run (handle env) w).2
      (deleted ++ more, w)

/-! ### What a call keeps -/

variable {env : Environment ε} {w : World ε} {row : QsoRecord}

/-- What `delete_qso` adds to a deleted row takes nothing from it. -/
theorem deletionKept_markDeleted {deleted : List String} (hdeleted : row.deletedAt.isSome = true)
    (now : Timestamp) (queueRemoteDelete : Bool) :
    DeletionKept row deleted (w.1.put (markDeleted row now queueRemoteDelete)) := by
  obtain ⟨deletedAt, hat⟩ := Option.isSome_iff_exists.mp hdeleted
  refine ⟨markDeleted row now queueRemoteDelete, ?_, ?_, fun hpending _ => .inr ⟨?_, rfl⟩⟩
  · exact (MemoryState.get_put _ _ _).trans (if_pos rfl)
  · simp [markDeleted, hat]
  · simp [markDeleted, hpending]

theorem deleteQso_keeps (hdeleted : row.deletedAt.isSome = true)
    (hget : w.1.get row.localId = some row) (localId : String) (queueRemoteDelete : Bool) :
    DeletionKept row [] ((deleteQso localId queueRemoteDelete).run (handle env) w).2.1 := by
  rw [deleteQso]
  split
  · exact .of_get hget
  rw [run_store]
  dsimp only [MemoryState.exec]
  rcases hexisting : w.1.get localId with - | existing
  · exact .of_get hget
  dsimp only
  have hid := MemoryState.localId_of_get hexisting
  rw [Prog.run_bind, writeBack, run_store]
  have hnow : ((utcNow : Program Timestamp).run (handle env) (w.1, w.2)).2.1 = w.1 := rfl
  dsimp only [MemoryState.exec]
  generalize ((utcNow : Program Timestamp).run (handle env) (w.1, w.2)) = answer at hnow ⊢
  obtain ⟨now, s, e⟩ := answer
  obtain rfl : s = w.1 := hnow
  have hupdate : w.1.updateQso (markDeleted existing now queueRemoteDelete)
      = (.ok true, w.1.put (markDeleted existing now queueRemoteDelete)) := by
    rw [MemoryState.updateQso]
    exact if_pos (by rw [show (markDeleted existing now queueRemoteDelete).localId
      = existing.localId from rfl, hid, hexisting]; rfl)
  dsimp only
  rw [hupdate]
  show DeletionKept row [] (w.1.put (markDeleted existing now queueRemoteDelete))
  by_cases hsame : existing.localId = row.localId
  · obtain rfl : existing = row := by
      rw [← hsame, hid, hexisting] at hget
      exact Option.some.inj hget
    exact deletionKept_markDeleted hdeleted now queueRemoteDelete
  · exact .put_other hget hsame

theorem completeRemoteDelete_keeps (hget : w.1.get row.localId = some row) (snapshot : QsoRecord)
    (attempts : ℕ) :
    DeletionKept row [snapshot.qrzLogid.getD ""]
      ((completeRemoteDelete snapshot attempts).run (handle env) w).2.1 := by
  induction attempts with
  | zero => exact .of_get hget
  | succ attempts ih =>
      rw [completeRemoteDelete, run_store]
      dsimp only [MemoryState.exec]
      rcases hcurrent : w.1.get snapshot.localId with - | current
      · exact .of_get hget
      have hid := MemoryState.localId_of_get hcurrent
      dsimp only
      split_ifs with hother
      · exact .of_get hget
      rw [run_store]
      dsimp only [MemoryState.exec]
      rw [MemoryState.updateQsoIfUnchanged, if_neg (by simp [cleared]), hid, hcurrent]
      dsimp only
      by_cases hequal : (current == current) = true
      · rw [if_pos hequal]
        show DeletionKept row _ (w.1.put (cleared current))
        by_cases hsame : current.localId = row.localId
        · obtain rfl : current = row := by
            rw [← hsame, hid, hcurrent] at hget
            exact Option.some.inj hget
          refine ⟨cleared current, ?_, rfl, fun _ _ => .inl ?_⟩
          · exact (MemoryState.get_put _ _ _).trans (if_pos rfl)
          · rw [not_ne_iff.mp hother]
            exact List.mem_singleton_self _
        · exact .put_other hget hsame
      · -- a row that does not equal itself is not swapped
        rw [if_neg hequal]
        exact ih

theorem pushRemoteDeletes_keeps (hdeleted : row.deletedAt.isSome = true)
    (hget : w.1.get row.localId = some row) (qsos : List QsoRecord) (counters : SyncCounters) :
    DeletionKept row
      (((pushRemoteDeletes qsos counters).events (handle env) w).filterMap deletedLogid)
      ((pushRemoteDeletes qsos counters).run (handle env) w).2.1 := by
  induction qsos generalizing w counters row with
  | nil => exact .of_get hget
  | cons qso rest ih =>
      rw [pushRemoteDeletes, Prog.run_bind, Prog.events_bind]
      have hcall : (qrz (.deleteQso (qso.qrzLogid.getD ""))).run (handle env) w
          = ((env.qrz (.deleteQso (qso.qrzLogid.getD "")) w.2).1, w.1,
            (env.qrz (.deleteQso (qso.qrzLogid.getD "")) w.2).2) := rfl
      have hevents : (qrz (.deleteQso (qso.qrzLogid.getD ""))).events (handle env) w
          = [⟨.qrz (.deleteQso (qso.qrzLogid.getD "")),
            (env.qrz (.deleteQso (qso.qrzLogid.getD "")) w.2).1⟩] := rfl
      rw [hcall, hevents]
      dsimp only
      rcases hanswer : (env.qrz (.deleteQso (qso.qrzLogid.getD "")) w.2).1 with error | ⟨⟩
      · refine (ih (w := (w.1, (env.qrz (.deleteQso (qso.qrzLogid.getD "")) w.2).2))
          hdeleted hget _).mono ?_
        intro logid hlogid
        rw [List.filterMap_append]
        exact List.mem_append_right _ hlogid
      · -- the record is gone, and the row under its logid may be cleared
        rw [Prog.run_bind, Prog.events_bind]
        have hone : DeletionKept row [qso.qrzLogid.getD ""]
            ((completeRemoteDelete qso 3).run (handle env)
              (w.1, (env.qrz (.deleteQso (qso.qrzLogid.getD "")) w.2).2)).2.1 :=
          completeRemoteDelete_keeps
            (w := (w.1, (env.qrz (.deleteQso (qso.qrzLogid.getD "")) w.2).2)) hget qso 3
        refine (hone.append fun row' hget' hdeleted' => ih ?_ ?_ _).mono ?_
        · rw [hdeleted', hdeleted]
        · rwa [← MemoryState.localId_of_get hget'] at hget'
        · intro logid hlogid
          rw [List.singleton_append] at hlogid
          rw [List.filterMap_append, List.filterMap_append]
          rcases List.mem_cons.mp hlogid with rfl | hlogid
          · exact List.mem_append_left _ List.mem_cons_self
          · exact List.mem_append_right _ (List.mem_append_right _ hlogid)

theorem deletedLogids_store {α : Type} {c : StoreCmd} {f : c.Answer → Program α} :
    ((store c >>= f).events (handle env) w).filterMap deletedLogid
      = ((f (MemoryState.exec c w.1).1).events (handle env)
        ((MemoryState.exec c w.1).2, w.2)).filterMap deletedLogid := rfl

theorem pushPendingRemoteDeletes_keeps (hdeleted : row.deletedAt.isSome = true)
    (hget : w.1.get row.localId = some row) (counters : SyncCounters) :
    DeletionKept row
      (((pushPendingRemoteDeletes counters).events (handle env) w).filterMap deletedLogid)
      ((pushPendingRemoteDeletes counters).run (handle env) w).2.1 := by
  rw [pushPendingRemoteDeletes, run_store, deletedLogids_store]
  dsimp only [MemoryState.exec]
  split_ifs
  · exact .of_get hget
  · exact pushRemoteDeletes_keeps hdeleted hget _ counters

/-! ### What a run keeps -/

theorem DeletionTurn.keeps (turn : DeletionTurn) (hdeleted : row.deletedAt.isSome = true)
    (hget : w.1.get row.localId = some row) :
    DeletionKept row ((turn.program.events (handle env) w).filterMap deletedLogid)
      (turn.program.run (handle env) w).2.1 := by
  cases turn with
  | deleteQso localId queueRemoteDelete =>
      have hkept : DeletionKept row []
          ((QsoRipper.deleteQso localId queueRemoteDelete).run (handle env) w).2.1 :=
        deleteQso_keeps hdeleted hget localId queueRemoteDelete
      rw [DeletionTurn.program, Prog.run_bind]
      exact hkept.mono (List.nil_subset _)
  | pushPendingRemoteDeletes counters =>
      have hkept : DeletionKept row
          (((QsoRipper.pushPendingRemoteDeletes counters).events (handle env) w).filterMap
            deletedLogid)
          ((QsoRipper.pushPendingRemoteDeletes counters).run (handle env) w).2.1 :=
        pushPendingRemoteDeletes_keeps hdeleted hget counters
      rw [DeletionTurn.program, Prog.run_bind, Prog.events_bind]
      refine hkept.mono ?_
      rw [List.filterMap_append]
      exact List.subset_append_left _ _

/-- **A run of calls and passes keeps every deletion.** -/
theorem playTurns_keeps (env : Environment ε) (turns : List DeletionTurn) (w : World ε)
    (hdeleted : row.deletedAt.isSome = true) (hget : w.1.get row.localId = some row) :
    DeletionKept row (playTurns env turns w).1 (playTurns env turns w).2.1 := by
  induction turns generalizing w row with
  | nil => exact .of_get hget
  | cons turn turns ih =>
      refine (turn.keeps hdeleted hget).append fun row' hget' hdeleted' => ih _ ?_ ?_
      · rw [hdeleted', hdeleted]
      · rwa [← MemoryState.localId_of_get hget'] at hget'

end QsoRipper
