/-
QsoRipper/Lib/Tail.lean

Reading a growing input piece by piece.  A splitter says how much of its input
is complete; a reader hands over what is complete of the part it has not handed
over yet, and moves on by as much.  Where the splitter can resume at what it has
found complete in a prefix, it does not matter how the input grew.
-/
import Mathlib

namespace Tail

variable {α : Type} {f : List α → ℕ} {P : List α → Prop} {a b x : List α} {xs : List (List α)}
  {c : ℕ}

/-- Where the reader stands after it has seen these inputs. -/
def position (f : List α → ℕ) : List (List α) → ℕ → ℕ
  | [], c => c
  | x :: xs, c => position f xs (c + f (x.drop c))

theorem position_append (xs ys : List (List α)) (c : ℕ) :
    position f (xs ++ ys) c = position f ys (position f xs c) := by
  induction xs generalizing c with
  | nil => rfl
  | cons x xs ih => exact ih _

theorem le_position (xs : List (List α)) (c : ℕ) : c ≤ position f xs c := by
  induction xs generalizing c with
  | nil => exact le_rfl
  | cons x xs ih => exact (Nat.le_add_right _ _).trans (ih _)

/-- The reader does not run past its inputs. -/
theorem position_le (hf : ∀ a, f a ≤ a.length) (hxs : (xs ++ [x]).IsChain (· <+: ·))
    (hc : ∀ y ∈ (xs ++ [x]).head?, c ≤ y.length) : position f (xs ++ [x]) c ≤ x.length := by
  induction xs generalizing c with
  | nil =>
      have hle := hf (x.drop c)
      have hc' := hc x rfl
      rw [List.length_drop] at hle
      show c + f (x.drop c) ≤ x.length
      omega
  | cons y ys ih =>
      have hle := hf (y.drop c)
      have hc' := hc y rfl
      rw [List.length_drop] at hle
      rw [List.cons_append] at hxs
      refine ih hxs.of_cons fun z hz => ?_
      have hyz := ((List.isChain_cons.mp hxs).1 z hz).length_le
      omega

/-- On inputs of the kind `P` the splitter resumes at what it has found in a
prefix, and the rest of the input is of that kind again. -/
structure Resumes (f : List α → ℕ) (P : List α → Prop) : Prop where
  bounded : ∀ a, f a ≤ a.length
  resumes : ∀ a b, P (a ++ b) → f (a ++ b) = f a + f ((a ++ b).drop (f a))
  keeps : ∀ a b, P (a ++ b) → P ((a ++ b).drop (f a))

/-- A step of the reader within a larger input. -/
theorem Resumes.step (h : Resumes f P) (hc : c ≤ a.length) (hP : P ((a ++ b).drop c))
    (hf : f (a ++ b) = c + f ((a ++ b).drop c)) :
    c + f (a.drop c) ≤ a.length ∧ P ((a ++ b).drop (c + f (a.drop c)))
      ∧ f (a ++ b) = c + f (a.drop c) + f ((a ++ b).drop (c + f (a.drop c))) := by
  have hdrop : (a ++ b).drop c = a.drop c ++ b := List.drop_append_of_le_length hc
  have hbounded := h.bounded (a.drop c)
  rw [List.length_drop] at hbounded
  rw [hdrop] at hP hf
  have hrest : (a ++ b).drop (c + f (a.drop c)) = (a.drop c ++ b).drop (f (a.drop c)) := by
    rw [← hdrop, List.drop_drop]
  rw [hrest]
  refine ⟨by omega, h.keeps _ _ hP, ?_⟩
  have hresumes := h.resumes _ _ hP
  omega

/-- **The reader does not depend on how the input grew.** -/
theorem Resumes.position_eq (h : Resumes f P) (hxs : (xs ++ [x]).IsChain (· <+: ·)) (hP : P x) :
    position f (xs ++ [x]) 0 = f x := by
  -- the reader stands where the splitter can resume in the whole input
  have hstands : ∀ ys : List (List α), (ys ++ [x]).IsChain (· <+: ·) → ∀ c, P (x.drop c) →
      f x = c + f (x.drop c) → (∀ y ∈ (ys ++ [x]).head?, c ≤ y.length) →
      position f (ys ++ [x]) c = f x := by
    intro ys
    induction ys with
    | nil =>
        intro _ c _ hf _
        exact hf.symm
    | cons y ys ih =>
        intro hchain c hP hf hle
        rw [List.cons_append] at hchain
        have hyx : y <+: x := by
          have hpair : (y :: (ys ++ [x])).Pairwise (· <+: ·) :=
            List.isChain_iff_pairwise.mp hchain
          exact (List.pairwise_cons.mp hpair).1 x (by simp)
        obtain ⟨b, rfl⟩ := hyx
        have hc : c ≤ y.length := hle y (by simp)
        obtain ⟨hlen, hP', hf'⟩ := h.step hc hP hf
        refine ih (List.IsChain.of_cons hchain) _ hP' hf' fun z hz => ?_
        exact hlen.trans ((List.isChain_cons.mp hchain).1 z hz).length_le
  exact hstands xs hxs 0 hP (by simp) (fun y _ => Nat.zero_le _)

end Tail
