/-
QsoRipper/DotNet/Redeletion.lean

Deleting what is deleted, in the managed engine.  `DeleteQso` calls it a no-op that may
upgrade the queued remote delete; both storage adapters write the instant and the flag anew.
A run keeps its deletions if every call for a deleted row comes at the row's own instant and
queues what is queued.
-/
import QsoRipper.DotNet.Replay
import QsoRipper.Server.Redeletion

namespace QsoRipper.DotNet

open Interaction

/-! ### Calls and passes -/

/-- The logid that a command has deleted at QRZ. -/
def deletedLogid : Event NetCmd NetCmd.Answer → Option String
  | ⟨.qrz (.deleteQso logid), .ok ()⟩ => some logid
  | _ => none

/-- What an operator or the sync does. -/
inductive DeletionTurn where
  | deleteQso (localId : String) (queueRemoteDelete : Bool)
  | pushPendingRemoteDeletes (counters : SyncCounters)

/-- The program of a turn. -/
def DeletionTurn.program : DeletionTurn → NetProgram Unit
  | deleteQso localId queueRemoteDelete => do
      let _ ← DotNet.deleteQso localId queueRemoteDelete
  | pushPendingRemoteDeletes counters => do
      let _ ← DotNet.pushPendingRemoteDeletes counters

variable {ε : Type}

/-- A run: the logids deleted at QRZ, and the world afterwards. -/
def playTurns (env : NetEnvironment ε) : List DeletionTurn → NetWorld ε → List String × NetWorld ε
  | [], w => ([], w)
  | turn :: turns, w =>
      let deleted := (turn.program.events (netHandle env) w).filterMap deletedLogid
      let (more, w) := playTurns env turns (turn.program.run (netHandle env) w).2
      (deleted ++ more, w)

/-- The call is for no deleted row, or comes at the row's instant and queues what is queued. -/
def DeletionTurn.Repeats (env : NetEnvironment ε) (w : NetWorld ε) : DeletionTurn → Prop
  | deleteQso localId queueRemoteDelete =>
      ∀ existing, w.1.get (Text.trim localId) = some existing → existing.deletedAt.isSome = true →
        existing.deletedAt = some (fromDateTimeOffset (env.utcNow w.2).1)
          ∧ (existing.pendingRemoteDelete = true → existing.qrzLogid.getD "" ≠ "" →
            (queueRemoteDelete && hasLogid existing) = true)
  | pushPendingRemoteDeletes _ => True

/-- Every call of the run does. -/
def Repeats (env : NetEnvironment ε) : List DeletionTurn → NetWorld ε → Prop
  | [], _ => True
  | turn :: turns, w =>
      turn.Repeats env w ∧ Repeats env turns (turn.program.run (netHandle env) w).2

/-! ### What a call keeps -/

variable {env : NetEnvironment ε} {w : NetWorld ε} {row : QsoRecord}

theorem deleteQso_keeps (hdeleted : row.deletedAt.isSome = true)
    (hget : w.1.get row.localId = some row) {localId : String} {queueRemoteDelete : Bool}
    (hrepeats : (DeletionTurn.deleteQso localId queueRemoteDelete).Repeats env w) :
    DeletionKept row []
      ((deleteQso localId queueRemoteDelete).run (netHandle env) w).2.1 := by
  rcases deleteQso_run env (w := w) localId queueRemoteDelete with
    hsame | ⟨existing, hexisting, hput⟩
  · rw [hsame]
    exact .of_get hget
  rw [hput]
  by_cases hsame : existing.localId = row.localId
  · obtain rfl : existing = row := by
      rw [← hsame, MemoryState.localId_of_get hexisting, hexisting] at hget
      exact Option.some.inj hget
    obtain ⟨hat, hqueued⟩ := hrepeats existing hexisting hdeleted
    refine ⟨_, (MemoryState.get_put _ _ _).trans (if_pos rfl), hat.symm, ?_⟩
    intro hpending hlogid
    exact .inr ⟨hqueued hpending hlogid, rfl⟩
  · exact .put_other hget hsame

theorem completeRemoteDelete_keeps (hget : w.1.get row.localId = some row) (snapshot : QsoRecord)
    (attempts : ℕ) :
    DeletionKept row [snapshot.qrzLogid.getD ""]
      ((completeRemoteDelete snapshot attempts).run (netHandle env) w).2.1 := by
  induction attempts with
  | zero => exact .of_get hget
  | succ attempts ih =>
      rw [completeRemoteDelete, Prog.run_bind, run_logbook]
      dsimp only [MemoryStorage.exec]
      rcases hfound : MemoryStorage.getQso w.1 snapshot.localId with ex | (- | current)
      · exact .of_get hget
      · exact .of_get hget
      obtain ⟨hcurrent, -⟩ := get_of_getQso hfound
      dsimp only
      split_ifs with hother
      · exact .of_get hget
      have hswap : MemoryStorage.exec (.updateQsoIfUnchanged current (cleared current)) w.1
          = (.ok true, w.1.put (cleared current)) := by
        rw [MemoryStorage.exec, MemoryStorage.updateQsoIfUnchanged, if_neg (by simp [cleared]),
          hcurrent]
        dsimp only
        rw [if_pos (recordEquals_self current)]
      rw [Prog.run_bind, run_logbook, hswap]
      show DeletionKept row _ (w.1.put (cleared current))
      by_cases hsame : current.localId = row.localId
      · obtain rfl : current = row := by
          rw [← hsame, hcurrent] at hget
          exact Option.some.inj hget
        refine ⟨cleared current, (MemoryState.get_put _ _ _).trans (if_pos rfl), rfl, ?_⟩
        intro _ _
        rw [not_ne_iff.mp hother]
        exact .inl (List.mem_singleton_self _)
      · exact .put_other hget hsame

theorem pushRemoteDeletes_keeps (hdeleted : row.deletedAt.isSome = true)
    (hget : w.1.get row.localId = some row) (qsos : List QsoRecord) (counters : SyncCounters) :
    DeletionKept row
      (((pushRemoteDeletes qsos counters).events (netHandle env) w).filterMap deletedLogid)
      ((pushRemoteDeletes qsos counters).run (netHandle env) w).2.1 := by
  induction qsos generalizing w counters row with
  | nil => exact .of_get hget
  | cons qso rest ih =>
      rw [pushRemoteDeletes, Prog.run_bind, Prog.events_bind, run_qrzApi]
      have hevents : (qrzApi (.deleteQso (qso.qrzLogid.getD ""))).events (netHandle env) w
          = [⟨.qrz (.deleteQso (qso.qrzLogid.getD "")),
            (env.qrz (.deleteQso (qso.qrzLogid.getD "")) w.2).1⟩] := rfl
      rw [hevents]
      dsimp only
      rcases hanswer : (env.qrz (.deleteQso (qso.qrzLogid.getD "")) w.2).1 with error | ⟨⟩
      · refine (ih (w := (w.1, (env.qrz (.deleteQso (qso.qrzLogid.getD "")) w.2).2))
          hdeleted hget _).mono ?_
        intro logid hlogid
        rw [List.filterMap_append]
        exact List.mem_append_right _ hlogid
      · rw [Prog.run_bind, Prog.events_bind]
        have hone : DeletionKept row [qso.qrzLogid.getD ""]
            ((completeRemoteDelete qso 3).run (netHandle env)
              (w.1, (env.qrz (.deleteQso (qso.qrzLogid.getD "")) w.2).2)).2.1 :=
          completeRemoteDelete_keeps
            (w := (w.1, (env.qrz (.deleteQso (qso.qrzLogid.getD "")) w.2).2)) hget qso 3
        refine (hone.append fun row' hget' hdeleted' => ih ?_ ?_ _).mono ?_
        · rw [hdeleted', hdeleted]
        · rwa [← MemoryState.localId_of_get hget'] at hget'
        · intro logid hlogid
          rw [List.singleton_append] at hlogid
          rw [List.filterMap_append, List.filterMap_append]
          rcases List.mem_cons.mp hlogid with rfl | hlogid
          · exact List.mem_append_left _ List.mem_cons_self
          · exact List.mem_append_right _ (List.mem_append_right _ hlogid)

theorem deletedLogids_logbook {α : Type} {c : LogbookCmd} {f : c.Answer → NetProgram α} :
    ((logbook c >>= f).events (netHandle env) w).filterMap deletedLogid
      = ((f (MemoryStorage.exec c w.1).1).events (netHandle env)
        ((MemoryStorage.exec c w.1).2, w.2)).filterMap deletedLogid := rfl

theorem pushPendingRemoteDeletes_keeps (hdeleted : row.deletedAt.isSome = true)
    (hget : w.1.get row.localId = some row) (counters : SyncCounters) :
    DeletionKept row
      (((pushPendingRemoteDeletes counters).events (netHandle env) w).filterMap deletedLogid)
      ((pushPendingRemoteDeletes counters).run (netHandle env) w).2.1 := by
  rw [pushPendingRemoteDeletes, Prog.run_bind, run_logbook, deletedLogids_logbook]
  dsimp only [MemoryStorage.exec]
  split
  · exact .of_get hget
  · exact pushRemoteDeletes_keeps hdeleted hget _ counters

/-! ### What a run keeps -/

theorem DeletionTurn.keeps {turn : DeletionTurn} (hrepeats : turn.Repeats env w)
    (hdeleted : row.deletedAt.isSome = true) (hget : w.1.get row.localId = some row) :
    DeletionKept row ((turn.program.events (netHandle env) w).filterMap deletedLogid)
      (turn.program.run (netHandle env) w).2.1 := by
  cases turn with
  | deleteQso localId queueRemoteDelete =>
      have hkept := deleteQso_keeps hdeleted hget hrepeats
      rw [DeletionTurn.program, Prog.run_bind]
      exact hkept.mono (List.nil_subset _)
  | pushPendingRemoteDeletes counters =>
      have hkept : DeletionKept row
          (((DotNet.pushPendingRemoteDeletes counters).events (netHandle env) w).filterMap
            deletedLogid)
          ((DotNet.pushPendingRemoteDeletes counters).run (netHandle env) w).2.1 :=
        pushPendingRemoteDeletes_keeps hdeleted hget counters
      rw [DeletionTurn.program, Prog.run_bind, Prog.events_bind]
      refine hkept.mono ?_
      rw [List.filterMap_append]
      exact List.subset_append_left _ _

theorem playTurns_keeps {turns : List DeletionTurn} (hrepeats : Repeats env turns w)
    (hdeleted : row.deletedAt.isSome = true) (hget : w.1.get row.localId = some row) :
    DeletionKept row (playTurns env turns w).1 (playTurns env turns w).2.1 := by
  induction turns generalizing w row with
  | nil => exact .of_get hget
  | cons turn turns ih =>
      obtain ⟨hturn, hturns⟩ := hrepeats
      refine (turn.keeps hturn hdeleted hget).append fun row' hget' hdeleted' => ih hturns ?_ ?_
      · rw [hdeleted', hdeleted]
      · rwa [← MemoryState.localId_of_get hget'] at hget'

/-- **No sequence of calls and passes takes anything from a deletion**: in the Rust engine
whatever the calls are, and in the managed one if every call for a deleted row comes at the
row's instant and queues what is queued. -/
theorem playTurns_keeps_deletions (row : QsoRecord) (hdeleted : row.deletedAt.isSome = true) :
    (∀ {ε : Type} (env : Environment ε) (turns : List QsoRipper.DeletionTurn) (w : World ε),
        w.1.get row.localId = some row →
      DeletionKept row (QsoRipper.playTurns env turns w).1 (QsoRipper.playTurns env turns w).2.1)
      ∧ ∀ {ε : Type} (env : NetEnvironment ε) (turns : List DeletionTurn) (w : NetWorld ε),
        Repeats env turns w → w.1.get row.localId = some row →
      DeletionKept row (playTurns env turns w).1 (playTurns env turns w).2.1 :=
  ⟨fun env turns w hget => QsoRipper.playTurns_keeps env turns w hdeleted hget,
    fun _ _ _ hrepeats hget => playTurns_keeps hrepeats hdeleted hget⟩

/-- A row that was deleted at noon of 2024-05-01, with its remote delete queued. -/
def queuedTombstone : QsoRecord where
  localId := "a"
  workedCallsign := "W1AW"
  qrzLogid := some "900"
  deletedAt := some ⟨1714564800, 0⟩
  pendingRemoteDelete := true

/-- The store that holds it. -/
def holdingTombstone : MemoryState := MemoryState.empty.put queuedTombstone

theorem playTurns_keeps_deletions_tombstone :
    DeletionKept queuedTombstone
        (QsoRipper.playTurns quietRemote [.deleteQso "a" false, .pushPendingRemoteDeletes {}]
          (holdingTombstone, ())).1
        (QsoRipper.playTurns quietRemote [.deleteQso "a" false, .pushPendingRemoteDeletes {}]
          (holdingTombstone, ())).2.1
      ∧ DeletionKept queuedTombstone
        (playTurns quietServices [.deleteQso "a" true, .pushPendingRemoteDeletes {}]
          (holdingTombstone, 0)).1
        (playTurns quietServices [.deleteQso "a" true, .pushPendingRemoteDeletes {}]
          (holdingTombstone, 0)).2.1 := by
  have hget : holdingTombstone.get queuedTombstone.localId = some queuedTombstone := by
    rw [holdingTombstone, MemoryState.get_put, if_pos rfl]
  have htrim : Text.trim "a" = "a" := by decide +kernel
  have hkeeps := playTurns_keeps_deletions queuedTombstone rfl
  refine ⟨hkeeps.1 quietRemote _ _ hget, hkeeps.2 quietServices _ _ ⟨?_, trivial, trivial⟩ hget⟩
  intro existing hexisting _
  rw [htrim] at hexisting
  obtain rfl : queuedTombstone = existing := Option.some.inj (hget.symm.trans hexisting)
  exact ⟨rfl, fun _ _ => by decide +kernel⟩

/-- The second call writes its own instant, and takes the queued delete back. -/
theorem deletes_anew :
    let earlier := { queuedTombstone with deletedAt := some ⟨1714560000, 0⟩ }
    let played := playTurns quietServices [.deleteQso "a" false]
      (MemoryState.empty.put earlier, 0)
    played.1 = []
      ∧ (played.2.1.get "a").map (·.deletedAt) = some (some ⟨1714564800, 0⟩)
      ∧ (played.2.1.get "a").map (·.pendingRemoteDelete) = some false
      ∧ (played.2.1.get "a").map (·.qrzLogid) = some (some "900") := by
  decide +kernel

end QsoRipper.DotNet
