/-
QsoRipper/Lib/Transition.lean

Runs of a labelled transition system.  A run records its labels in order, and
each of its steps may be subject to a condition on the past and on the state in
which it is taken.
-/
import Mathlib

namespace Interaction

namespace Transition

variable {S M : Type}

/-- A run each step of which meets `E`, given the labels before it. -/
inductive Run (step : S → M → S → Prop) (E : List M → S → M → Prop) : S → List M → S → Prop
  | nil (p : S) : Run step E p [] p
  | snoc {p q r : S} {ms : List M} {m : M} :
      Run step E p ms q → step q m r → E ms q m → Run step E p (ms ++ [m]) r

variable {step : S → M → S → Prop} {E : List M → S → M → Prop} {p q r : S} {ms ns : List M} {m : M}

/-- **Invariant rule.** -/
theorem Run.invariant {I : List M → S → Prop} (hr : Run step E p ms q) (hp : I [] p)
    (hstep : ∀ {ms q m r}, I ms q → E ms q m → step q m r → I (ms ++ [m]) r) : I ms q := by
  induction hr with
  | nil => exact hp
  | snoc _ hs hE ih => exact hstep ih hE hs

/-- A run may meet a weaker condition. -/
theorem Run.mono {E' : List M → S → M → Prop} (hE : ∀ ms q m, E ms q m → E' ms q m)
    (hr : Run step E p ms q) : Run step E' p ms q := by
  induction hr with
  | nil => exact .nil _
  | snoc _ hs hm ih => exact .snoc ih hs (hE _ _ _ hm)

/-- **Equivalence rule.**  Where an invariant holds, a step is good exactly if it
meets a condition, and a good one keeps the invariant: then all steps of a run
are good exactly if all meet it. -/
theorem Run.forall_iff {I : S → Prop} {G P : M → Prop} (hr : Run step E p ms q) (hp : I p)
    (hstep : ∀ {q m r}, I q → step q m r → (G m ↔ P m) ∧ (G m → I r)) :
    (∀ m ∈ ms, G m) ↔ ∀ m ∈ ms, P m := by
  have hboth : ((∀ m ∈ ms, G m) ↔ ∀ m ∈ ms, P m) ∧ ((∀ m ∈ ms, G m) → I q) := by
    induction hr with
    | nil =>
        refine ⟨iff_of_true ?_ ?_, fun _ => hp⟩ <;> exact fun m hm => absurd hm List.not_mem_nil
    | snoc _ hs _ ih =>
        obtain ⟨hpast, hinv⟩ := ih
        simp only [List.forall_mem_append, List.forall_mem_singleton]
        rw [← hpast]
        refine ⟨and_congr_right fun hall => (hstep (hinv hall) hs).1, ?_⟩
        exact fun hall => (hstep (hinv hall.1) hs).2 hall.2
  exact hboth.1

/-- Every prefix of a run is a run, and its next label a step. -/
theorem Run.at (hr : Run step E p ms q) {i : ℕ} (hi : ms[i]? = some m) :
    ∃ q₁ q₂, Run step E p (ms.take i) q₁ ∧ step q₁ m q₂ := by
  induction hr with
  | nil => simp at hi
  | @snoc q r ms m' hr hs hE ih =>
      by_cases hlt : i < ms.length
      · rw [List.getElem?_append_left hlt] at hi
        rw [List.take_append_of_le_length hlt.le]
        exact ih hi
      · have hlen : i = ms.length := by
          have hin := (List.getElem?_eq_some_iff.mp hi).1
          simp only [List.length_append, List.length_singleton] at hin
          omega
        subst hlen
        rw [List.getElem?_concat_length] at hi
        cases hi
        refine ⟨q, r, ?_, hs⟩
        rw [List.take_left']
        · exact hr
        · rfl

/-! ### Runs that are computed -/

variable {A : Type}

/-- Take the steps that `turn` computes; one that cannot be taken is skipped. -/
def schedule (turn : S → A → Option (M × S)) : List A → S → List M × S
  | [], p => ([], p)
  | a :: as, p =>
      match turn p a with
      | none => schedule turn as p
      | some (m, q) => (m :: (schedule turn as q).1, (schedule turn as q).2)

/-- Do these steps meet the condition? -/
def meets (turn : S → A → Option (M × S)) (E : List M → S → M → Prop)
    [∀ ms p m, Decidable (E ms p m)] : List M → List A → S → Bool
  | _, [], _ => true
  | ms, a :: as, p =>
      match turn p a with
      | none => meets turn E ms as p
      | some (m, q) => decide (E ms p m) && meets turn E (ms ++ [m]) as q

theorem Run.schedule [∀ ms p m, Decidable (E ms p m)] {turn : S → A → Option (M × S)}
    (hturn : ∀ p a m q, turn p a = some (m, q) → step p m q) {as : List A}
    (hr : Run step E p ms q) (hm : meets turn E ms as q) :
    Run step E p (ms ++ (Transition.schedule turn as q).1) (Transition.schedule turn as q).2 := by
  induction as generalizing ms q with
  | nil =>
      rw [Transition.schedule, List.append_nil]
      exact hr
  | cons a as ih =>
      rw [Transition.schedule]
      rw [meets] at hm
      rcases ha : turn q a with - | ⟨m, q'⟩
      · rw [ha] at hm
        exact ih hr hm
      · rw [ha] at hm
        obtain ⟨hE, hrest⟩ := (Bool.and_eq_true _ _).mp hm
        have hnext := ih (hr.snoc (hturn _ _ _ _ ha) (of_decide_eq_true hE)) hrest
        rwa [List.append_assoc] at hnext

/-- Steps that meet the condition are a run. -/
theorem schedule_run [∀ ms p m, Decidable (E ms p m)] {turn : S → A → Option (M × S)}
    (hturn : ∀ p a m q, turn p a = some (m, q) → step p m q) {as : List A}
    (hm : meets turn E [] as p) :
    Run step E p (Transition.schedule turn as p).1 (Transition.schedule turn as p).2 := by
  have hnil : Run step E p [] p := .nil p
  have hrun := hnil.schedule hturn hm
  rwa [List.nil_append] at hrun

/-! ### What comes before what -/

/-- Labels in a given order, the last of them possibly the newest. -/
theorem concat_sublist_snoc {l : List M} {b : M} :
    (l ++ [b]).Sublist (ms ++ [m]) ↔ (l ++ [b]).Sublist ms ∨ m = b ∧ l.Sublist ms := by
  constructor
  · intro hsub
    rw [← List.reverse_sublist, List.reverse_append, List.reverse_append, List.reverse_singleton,
      List.reverse_singleton, List.singleton_append, List.singleton_append] at hsub
    rcases List.sublist_cons_iff.mp hsub with hsub | ⟨l', hl, hsub⟩
    · left
      rw [← List.reverse_sublist, List.reverse_append]
      exact hsub
    · cases hl
      exact .inr ⟨rfl, List.reverse_sublist.mp hsub⟩
  · rintro (hsub | ⟨rfl, hsub⟩)
    · exact hsub.trans (List.sublist_append_left ms [m])
    · exact hsub.append (List.Sublist.refl [m])

/-- One label before another. -/
theorem pair_sublist_snoc {a b : M} :
    [a, b].Sublist (ms ++ [m]) ↔ [a, b].Sublist ms ∨ m = b ∧ a ∈ ms := by
  rw [← List.singleton_sublist]
  exact concat_sublist_snoc (l := [a])

end Transition

end Interaction
