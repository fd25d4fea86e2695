/-
QsoRipper/Application/Edits.lean

Any number of `update_qso` calls in flight, each known by its place in the
pool.  What a call writes is known up to its two time stamps: it is made from
the caller's record and from the row the call has read.
-/
import QsoRipper.Application.Operators

namespace QsoRipper

open Interaction

/-- The record `update_qso` writes over the row it has read. -/
def updated (qso existing : QsoRecord) (createdAt updatedAt : Timestamp) : QsoRecord :=
  stampUpdate existing
    (normalizeQsoForPersistence
      (carryStored existing { qso with localId := Text.trim qso.localId }))
    createdAt updatedAt

/-- The row an edit is about. -/
def editTarget (qso : QsoRecord) : String := Text.trim qso.localId

/-- The write of an edit, given the answer to its read. -/
def EditWrite (qso : QsoRecord) (answer : StoreCmd.Answer (.getQso (editTarget qso))) (c : Cmd) :
    Prop :=
  ∃ existing createdAt updatedAt, answer = .ok (some existing) ∧ existing.deletedAt = none
    ∧ c = .store (.updateQso (updated qso existing createdAt updatedAt))

/-- **The shape of an edit**: one read of its row, then at most one write of
the record it has made of that. -/
theorem updateQso_reads (qso : QsoRecord) :
    (updateQso qso).Reads OperatorCall.Quiet (.store (.getQso (editTarget qso))) (EditWrite qso) := by
  rw [updateQso]
  split
  · exact .pure _
  refine .read fun r => ?_
  rcases r with e | _ | existing
  · exact .pure _
  · exact .pure _
  show Prog.Writes OperatorCall.Quiet _ (if existing.deletedAt.isSome then _ else _)
  split
  · exact .pure _
  rename_i hdel
  rw [Option.not_isSome_iff_eq_none] at hdel
  dsimp only
  split
  · exact .pure _
  have hw : ∀ createdAt updatedAt, EditWrite qso (.ok (some existing))
      (.store (.updateQso (updated qso existing createdAt updatedAt))) :=
    fun createdAt updatedAt => ⟨existing, createdAt, updatedAt, rfl, hdel, rfl⟩
  cases existing.createdAt with
  | some createdAt =>
      exact OperatorCall.utcNow_writes fun updatedAt => OperatorCall.writeBack_writes (hw _ _)
  | none =>
      exact OperatorCall.utcNow_writes fun createdAt => OperatorCall.utcNow_writes fun updatedAt =>
        OperatorCall.writeBack_writes (hw _ _)

/-! ### Edits in flight -/

/-- The program is the rest of the edit, and the row it holds, if it has read
one, satisfies `P`. -/
def EditStands (P : QsoRecord → Prop) (qso : QsoRecord)
    (p : Program (Except LogbookError QsoRecord)) : Prop :=
  p.Phase OperatorCall.Quiet (.store (.getQso (editTarget qso))) (EditWrite qso)
    fun answer => ∀ r, answer = .ok (some r) → P r

/-- The others are the edits, each of which stands somewhere; the row the
`i`-th holds, if it has read one, satisfies `P i`. -/
def Editing (P : ℕ → QsoRecord → Prop) (edits : List QsoRecord)
    (others : List (Program (Except LogbookError QsoRecord))) : Prop :=
  ∀ (i : ℕ) (p : Program (Except LogbookError QsoRecord)), others[i]? = some p →
    ∃ qso, edits[i]? = some qso ∧ EditStands (P i) qso p

variable {P Q : ℕ → QsoRecord → Prop} {edits : List QsoRecord}
  {others : List (Program (Except LogbookError QsoRecord))}

/-- Before any of them has moved. -/
theorem editing_start : Editing P edits (edits.map updateQso) := by
  intro i p hp
  rw [List.getElem?_map, Option.map_eq_some_iff] at hp
  obtain ⟨qso, hqso, rfl⟩ := hp
  exact ⟨qso, hqso, .unread (updateQso_reads qso)⟩

theorem EditStands.mono {Q Q' : QsoRecord → Prop} {qso : QsoRecord}
    {p : Program (Except LogbookError QsoRecord)} (h : EditStands Q qso p)
    (hQ : ∀ r, Q r → Q' r) : EditStands Q' qso p := by
  cases h with
  | unread h => exact .unread h
  | holding a ha h => exact .holding a (fun r hr => hQ r (ha r hr)) h
  | finished h => exact .finished h

theorem Editing.mono (h : Editing P edits others) (hP : ∀ i r, P i r → Q i r) :
    Editing Q edits others := by
  intro i p hp
  obtain ⟨qso, hqso, hstands⟩ := h i p hp
  exact ⟨qso, hqso, hstands.mono (hP i)⟩

/-- The edit that moved, and the rest of it. -/
theorem Editing.set {i : ℕ} {qso : QsoRecord} {p : Program (Except LogbookError QsoRecord)}
    (h : Editing P edits others) (hqso : edits[i]? = some qso) (hp : EditStands (P i) qso p) :
    Editing P edits (others.set i p) := by
  intro j p' hj
  rw [List.getElem?_set] at hj
  split at hj
  · rename_i hij
    subst hij
    split at hj
    · cases hj
      exact ⟨qso, hqso, hp⟩
    · cases hj
  · exact h j p' hj

/-- What a move of the `i`-th edit is, and the store after it. -/
inductive EditMove (P : ℕ → QsoRecord → Prop) (edits : List QsoRecord) (s : MemoryState) (i : ℕ) :
    Event Cmd Cmd.Answer → MemoryState → Prop
  | clock {r : Timestamp} : EditMove P edits s i ⟨.utcNow, r⟩ s
  | read {qso : QsoRecord} :
      edits[i]? = some qso →
      EditMove P edits s i ⟨.store (.getQso (editTarget qso)), .ok (s.get (editTarget qso))⟩ s
  | write {qso existing : QsoRecord} {createdAt updatedAt : Timestamp}
      {r : Cmd.Answer (.store (.updateQso (updated qso existing createdAt updatedAt)))} :
      edits[i]? = some qso → P i existing → existing.deletedAt = none →
      EditMove P edits s i ⟨.store (.updateQso (updated qso existing createdAt updatedAt)), r⟩
        (s.updateQso (updated qso existing createdAt updatedAt)).2

variable {ε α : Type} {env : Environment ε}
  {q q' : Pool Cmd Cmd.Answer (World ε) α (Except LogbookError QsoRecord)}

/-- **One move of an edit.**  `Q` is what holds of the copies afterwards: what
held before, and what the stored row satisfies when it is read. -/
theorem Editing.step {i : ℕ} {e : Event Cmd Cmd.Answer} (h : Editing P edits q.others)
    (hs : q.Step (handle env) (.other i e) q')
    (hmono : ∀ j r, P j r → Q j r)
    (hread : ∀ qso r, edits[i]? = some qso → e.1 = .store (.getQso (editTarget qso)) →
      q.state.1.get (editTarget qso) = some r → Q i r) :
    Editing Q edits q'.others ∧ q'.main = q.main ∧ EditMove P edits q.state.1 i e q'.state.1 := by
  cases hs with
  | @other _ _ _ c k w hi =>
  obtain ⟨qso, hqso, hp⟩ := h i _ hi
  have hnext := hp.next
  cases hnext with
  | quiet hq hk =>
      cases hq
      exact ⟨(h.mono hmono).set hqso ((show EditStands _ qso _ from hk _).mono (hmono i)), rfl,
        .clock⟩
  | @read k hk =>
      refine ⟨(h.mono hmono).set hqso ?_, rfl, .read hqso⟩
      -- the copy it reads now is known to satisfy `Q` only
      have hnext' := (hp.mono (hmono i)).next
      cases hnext' with
      | quiet hq _ => cases hq
      | read hk' => exact hk' _ fun r hr => hread qso r hqso rfl (Except.ok.inj hr)
      | write _ _ hw _ =>
          obtain ⟨_, _, _, -, -, hc⟩ := hw
          cases hc
  | write answer hanswer hw hk =>
      obtain ⟨existing, createdAt, updatedAt, rfl, hdel, rfl⟩ := hw
      exact ⟨(h.mono hmono).set hqso ((show EditStands _ qso _ from hk _).mono (hmono i)), rfl,
        .write hqso (hanswer existing rfl) hdel⟩

end QsoRipper
