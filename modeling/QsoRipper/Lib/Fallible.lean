/-
QsoRipper/Lib/Fallible.lean

Programs that can fail on the way: `ExceptT` over the programs of `Program`, and
the rules of `Prog.Obeys` for them.  A postcondition speaks about the result,
failure or not, and the observations at that moment.
-/
import QsoRipper.Lib.Contract

namespace Interaction

/-- A program that returns a value or fails. -/
abbrev Fallible (C : Type) (R : C → Type) (ε α : Type) := ExceptT ε (Prog C R) α

namespace Fallible

variable {C : Type} {R : C → Type} {T ε α β : Type} {K : Contract C R T}
  {Q : T → Except ε β → Prop} {t : T}

/-- Whatever it is answered, it only issues allowed commands and ends with `Q`. -/
def Obeys (K : Contract C R T) (Q : T → Except ε α → Prop) (p : Fallible C R ε α) (t : T) : Prop :=
  Prog.Obeys K Q p.run t

@[simp] theorem obeys_pure {b : β} : Obeys K Q (pure b) t ↔ Q t (.ok b) := Iff.rfl

@[simp] theorem obeys_throw {e : ε} : Obeys K Q (throw e) t ↔ Q t (.error e) := Iff.rfl

/-- One command, whose answer decides how it goes on. -/
theorem obeys_lift {c : C} {f : R c → Fallible C R ε β} :
    Obeys K Q (monadLift (Prog.call c : Prog C R (R c)) >>= f) t
      ↔ K.allowed t c ∧ ∀ r, Obeys K Q (f r) (K.next t c r) := Iff.rfl

/-- The sequencing rule: a failure is passed on. -/
theorem obeys_bind {p : Fallible C R ε α} {f : α → Fallible C R ε β} :
    Obeys K Q (p >>= f) t
      ↔ Obeys K (fun t r => match r with
          | .ok a => Obeys K Q (f a) t
          | .error e => Q t (.error e)) p t := by
  have hrun : (p >>= f).run = p.run >>= ExceptT.bindCont f := rfl
  rw [Obeys, hrun, Prog.obeys_bind]
  show Prog.Obeys K _ p.run t ↔ Prog.Obeys K _ p.run t
  refine ⟨Prog.Obeys.mono ?_, Prog.Obeys.mono ?_⟩ <;> rintro t (e | a) h <;> exact h

/-- The consequence rule. -/
theorem Obeys.mono {Q' : T → Except ε β → Prop} (hQ : ∀ t r, Q t r → Q' t r)
    {p : Fallible C R ε β} (h : Obeys K Q p t) : Obeys K Q' p t :=
  Prog.Obeys.mono hQ h

end Fallible

end Interaction
