/-
QsoRipper/Lib/Program.lean

Programs over an abstract command set.  A program is a finite tree: it either
returns, or issues a command and continues with the response.  Nothing here
knows what the commands are; a *handler*

    (c : C) → σ → R c × σ

gives them a meaning on a state type `σ`.

Two views of the same tree are given here: `Prog.run` is the sequential
meaning, one program alone on the state; `Prog.Emits P` says that every
command the program can issue, whatever the answers it gets, satisfies `P`.
-/
import Mathlib

namespace Interaction

variable {C : Type} {R : C → Type} {σ : Type} {α β γ : Type}

/-- A program over the commands `C` with responses `R`. -/
inductive Prog (C : Type) (R : C → Type) (α : Type) where
  | pure (a : α) : Prog C R α
  | cmd (c : C) (k : R c → Prog C R α) : Prog C R α

/-- A command with the answer it got. -/
abbrev Event (C : Type) (R : C → Type) := (c : C) × R c

namespace Prog

/-- Sequencing: graft `f` onto the leaves. -/
def bind : Prog C R α → (α → Prog C R β) → Prog C R β
  | .pure a, f => f a
  | .cmd c k, f => .cmd c fun r => (k r).bind f

instance : Monad (Prog C R) where
  pure := .pure
  bind := Prog.bind

/-- Issue one command and return its response. -/
def call (c : C) : Prog C R (R c) := .cmd c .pure

@[simp] theorem pure_bind (a : α) (f : α → Prog C R β) :
    (Prog.pure a : Prog C R α) >>= f = f a := rfl

@[simp] theorem cmd_bind (c : C) (k : R c → Prog C R α) (f : α → Prog C R β) :
    (Prog.cmd c k) >>= f = .cmd c fun r => k r >>= f := rfl

@[simp] theorem call_bind (c : C) (f : R c → Prog C R β) :
    (call c) >>= f = .cmd c f := rfl

theorem bind_assoc (p : Prog C R α) (f : α → Prog C R β) (g : β → Prog C R γ) :
    (p >>= f) >>= g = p >>= fun a => f a >>= g := by
  induction p with
  | pure a => rfl
  | cmd c k ih =>
      simp only [cmd_bind]
      congr 1
      funext r
      exact ih r

theorem bind_pure (p : Prog C R α) : p >>= Prog.pure = p := by
  induction p with
  | pure a => rfl
  | cmd c k ih =>
      simp only [cmd_bind]
      congr 1
      funext r
      exact ih r

instance : LawfulMonad (Prog C R) :=
  LawfulMonad.mk' _ bind_pure (fun _ _ => rfl) bind_assoc

/-! ### Sequential meaning -/

/-- Run a program alone, answering each command by the handler. -/
def run (h : (c : C) → σ → R c × σ) : Prog C R α → σ → α × σ
  | .pure a, s => (a, s)
  | .cmd c k, s => (k (h c s).1).run h (h c s).2

variable (h : (c : C) → σ → R c × σ)

@[simp] theorem run_pure (a : α) (s : σ) : (Pure.pure a : Prog C R α).run h s = (a, s) := rfl

@[simp] theorem run_leaf (a : α) (s : σ) : (Prog.pure a : Prog C R α).run h s = (a, s) := rfl

@[simp] theorem run_command (c : C) (k : R c → Prog C R α) (s : σ) :
    (Prog.cmd c k).run h s = (k (h c s).1).run h (h c s).2 := rfl

@[simp] theorem run_call (c : C) (s : σ) : (call c : Prog C R (R c)).run h s = h c s := rfl

@[simp] theorem run_bind (p : Prog C R α) (f : α → Prog C R β) (s : σ) :
    (p >>= f).run h s = (f (p.run h s).1).run h (p.run h s).2 := by
  induction p generalizing s with
  | pure a => rfl
  | cmd c k ih => exact ih (h c s).1 (h c s).2

theorem run_map (f : α → β) (p : Prog C R α) (s : σ) :
    (f <$> p).run h s = (f (p.run h s).1, (p.run h s).2) := by
  rw [← bind_pure_comp, run_bind]
  rfl

/-! ### What a program can issue -/

/-- Every command `p` can issue, whatever responses it is given, satisfies `P`. -/
def Emits (P : C → Prop) : Prog C R α → Prop
  | .pure _ => True
  | .cmd c k => P c ∧ ∀ r, (k r).Emits P

theorem Emits.pure {P : C → Prop} (a : α) : (Pure.pure a : Prog C R α).Emits P := trivial

theorem Emits.call {P : C → Prop} {c : C} (hc : P c) : (Prog.call c : Prog C R (R c)).Emits P :=
  ⟨hc, fun _ => trivial⟩

theorem Emits.mono {P P' : C → Prop} (hP : ∀ c, P c → P' c) {p : Prog C R α} (hp : p.Emits P) :
    p.Emits P' := by
  induction p with
  | pure a => trivial
  | cmd c k ih => exact ⟨hP c hp.1, fun r => ih r (hp.2 r)⟩

theorem Emits.bind {P : C → Prop} {p : Prog C R α} {f : α → Prog C R β}
    (hp : p.Emits P) (hf : ∀ a, (f a).Emits P) : (p >>= f).Emits P := by
  induction p with
  | pure a => exact hf a
  | cmd c k ih => exact ⟨hp.1, fun r => ih r (hp.2 r)⟩

/-! ### Two runs of one program -/

variable {τ : Type}

/-- Two handlers that answer alike keep a program in step. -/
theorem run_lockstep {P : C → Prop} {S : σ → τ → Prop} {h : (c : C) → σ → R c × σ}
    {h' : (c : C) → τ → R c × τ} {s : σ} {t : τ} {p : Prog C R α}
    (hstep : ∀ c, P c → ∀ s t, S s t → (h c s).1 = (h' c t).1 ∧ S (h c s).2 (h' c t).2)
    (hp : p.Emits P) (hst : S s t) :
    (p.run h s).1 = (p.run h' t).1 ∧ S (p.run h s).2 (p.run h' t).2 := by
  induction p generalizing s t with
  | pure a => exact ⟨rfl, hst⟩
  | cmd c k ih =>
      obtain ⟨hanswer, hnext⟩ := hstep c hp.1 s t hst
      have hrest := ih (h c s).1 (hp.2 _) hnext
      rw [run_command, run_command, ← hanswer]
      exact hrest

end Prog

end Interaction
