/-
QsoRipper/Application/Operators.lean

Any number of operator calls in flight beside a main program.  Nothing locks
the store between a call's read and its write, so all that is known when a
call writes is that the record it rewrites was stored at some earlier moment:
a property of rows that no operator call breaks then holds of every row and
of every copy a call holds.
-/
import QsoRipper.Application.Logbook
import QsoRipper.Lib.Pool

namespace QsoRipper

open Interaction

namespace OperatorCall

/-- The program is the rest of the call, and the record it holds, if it has
read one, satisfies `P`. -/
def Stands (P : OperatorCall → QsoRecord → Prop) (call : OperatorCall)
    (p : Program (Except LogbookError QsoRecord)) : Prop :=
  p.Phase Quiet (.store (.getQso call.target)) call.Write
    (fun answer => ∀ r, answer = .ok (some r) → P call r)

/-- Each of the others is an operator call that stands somewhere. -/
def InFlight (P : OperatorCall → QsoRecord → Prop) (calls : List OperatorCall)
    (others : List (Program (Except LogbookError QsoRecord))) : Prop :=
  ∀ (i : ℕ) (p : Program (Except LogbookError QsoRecord)), others[i]? = some p →
    ∃ call, calls[i]? = some call ∧ Stands P call p

variable {P : OperatorCall → QsoRecord → Prop} {calls : List OperatorCall}
  {others : List (Program (Except LogbookError QsoRecord))}

/-- Before any of them has moved. -/
theorem inFlight_program : InFlight P calls (calls.map program) := by
  intro i p hp
  rw [List.getElem?_map, Option.map_eq_some_iff] at hp
  obtain ⟨call, hcall, rfl⟩ := hp
  exact ⟨call, hcall, .unread call.reads⟩

/-- The call that moved, and the rest of it. -/
theorem InFlight.set {i : ℕ} {call : OperatorCall} {p : Program (Except LogbookError QsoRecord)}
    (h : InFlight P calls others) (hcall : calls[i]? = some call) (hp : Stands P call p) :
    InFlight P calls (others.set i p) := by
  intro j p' hj
  rcases eq_or_ne i j with rfl | hne
  · have hlt : i < others.length := by
      by_contra hge
      rw [List.set_eq_of_length_le (by omega), List.getElem?_eq_none (by omega)] at hj
      cases hj
    rw [List.getElem?_set_self hlt] at hj
    cases hj
    exact ⟨call, hcall, hp⟩
  · rw [List.getElem?_set_ne hne] at hj
    exact h j p' hj

theorem utcNow_frame (qso : QsoRecord) : Cmd.utcNow ≠ .store (.updateQso qso) := by nofun

theorem getQso_frame (localId : String) (qso : QsoRecord) :
    Cmd.store (.getQso localId) ≠ .store (.updateQso qso) := by nofun

/-- What a move of an operator call does to the rows. -/
inductive Moves (P : OperatorCall → QsoRecord → Prop) (calls : List OperatorCall)
    (s : MemoryState) : ℕ → Cmd → MemoryState → Prop
  | frame {i : ℕ} {c : Cmd} : (∀ qso, c ≠ .store (.updateQso qso)) → Moves P calls s i c s
  | write {i : ℕ} {call : OperatorCall} {existing written : QsoRecord} :
      calls[i]? = some call → P call existing → call.Replaces existing written →
      Moves P calls s i (.store (.updateQso written)) (s.updateQso written).2

variable {ε α : Type} {env : Environment ε}
  {q q' : Pool Cmd Cmd.Answer (World ε) α (Except LogbookError QsoRecord)}

/-- **One move of an operator call.** -/
theorem InFlight.step {i : ℕ} {e : Event Cmd Cmd.Answer} (h : InFlight P calls q.others)
    (hP : ∀ (call : OperatorCall) r, q.state.1.get call.target = some r → P call r)
    (hs : q.Step (handle env) (.other i e) q') :
    InFlight P calls q'.others ∧ q'.main = q.main
      ∧ Moves P calls q.state.1 i e.1 q'.state.1 := by
  cases hs with
  | @other _ _ _ c k w hi =>
  obtain ⟨call, hcall, hp⟩ := h i _ hi
  have hnext := hp.next
  cases hnext with
  | quiet hq hk =>
      cases hq
      refine ⟨h.set hcall (hk _), rfl, ?_⟩
      rw [handle_utcNow]
      exact .frame utcNow_frame
  | @read k hk =>
      have hread : Stands P call (k (handle env (.store (.getQso call.target)) w).1) := by
        apply hk
        intro r hr
        exact hP call r (Except.ok.inj hr)
      exact ⟨h.set hcall hread, rfl, .frame (getQso_frame _)⟩
  | write answer hanswer hw hk =>
      obtain ⟨existing, written, rfl, hrep, rfl⟩ := hw
      rw [handle_updateQso]
      exact ⟨h.set hcall (hk _), rfl, .write hcall (hanswer existing rfl) hrep⟩

end OperatorCall

end QsoRipper
