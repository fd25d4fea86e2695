/-
QsoRipper/Lib/Tasks.lean

Tasks that wait and can be dropped.  Any number of tasks run over one shared
state; a command that cannot be answered yet keeps its task waiting, a task can
be dropped wherever it stands, and the state also changes from outside.
-/
import QsoRipper.Lib.Contract
import QsoRipper.Lib.Transition

namespace Interaction

variable {ι C Z : Type} {R : C → Type} {σ T : Type}

/-- Tasks over a shared state. -/
structure Tasks (ι : Type) {C : Type} (R : C → Type) (σ : Type) where
  task : ι → Prog C R Unit
  state : σ

/-- What happens: a task acts, a task is dropped, or something outside. -/
inductive TaskMove (ι : Type) {C : Type} (R : C → Type) (Z : Type) where
  | act (i : ι) (e : Event C R)
  | drop (i : ι)
  | outside (z : Z)

namespace Tasks

variable [DecidableEq ι] {effect : (c : C) → σ → Option (R c × σ)} {outside : Z → σ → Option σ}

/-- One step; what is not answered waits. -/
inductive Step (effect : (c : C) → σ → Option (R c × σ)) (outside : Z → σ → Option σ) :
    Tasks ι R σ → TaskMove ι R Z → Tasks ι R σ → Prop
  | act {p : Tasks ι R σ} {i : ι} {c : C} {k : R c → Prog C R Unit} {r : R c} {s : σ} :
      p.task i = .cmd c k → effect c p.state = some (r, s) →
      Step effect outside p (.act i ⟨c, r⟩) ⟨Function.update p.task i (k r), s⟩
  | drop {p : Tasks ι R σ} {i : ι} {c : C} {k : R c → Prog C R Unit} :
      p.task i = .cmd c k →
      Step effect outside p (.drop i) ⟨Function.update p.task i (.pure ()), p.state⟩
  | outside {p : Tasks ι R σ} {z : Z} {s : σ} :
      outside z p.state = some s → Step effect outside p (.outside z) ⟨p.task, s⟩

/-- A run, each move of which meets `E`. -/
abbrev Run (effect : (c : C) → σ → Option (R c × σ)) (outside : Z → σ → Option σ)
    (E : List (TaskMove ι R Z) → Tasks ι R σ → TaskMove ι R Z → Prop) :
    Tasks ι R σ → List (TaskMove ι R Z) → Tasks ι R σ → Prop :=
  Transition.Run (Step effect outside) E

variable {E : List (TaskMove ι R Z) → Tasks ι R σ → TaskMove ι R Z → Prop} {p q : Tasks ι R σ}
  {m : TaskMove ι R Z} {ms : List (TaskMove ι R Z)}

/-! ### Contracts -/

variable {K : ι → Contract C R T} {Q : T → Unit → Prop} {t : ι → T}

/-- What the tasks have observed after a move. -/
def observe (K : ι → Contract C R T) (t : ι → T) : TaskMove ι R Z → ι → T
  | .act i e => Function.update t i ((K i).next (t i) e.1 e.2)
  | .drop _ => t
  | .outside _ => t

/-- What the tasks have observed. -/
def observed (K : ι → Contract C R T) (t : ι → T) (ms : List (TaskMove ι R Z)) : ι → T :=
  ms.foldl (observe K) t

theorem observed_snoc : observed K t (ms ++ [m]) = observe K (observed K t ms) m := by
  rw [observed, List.foldl_append]
  rfl

/-- **Invariant rule.**  Every task obeys its contract.  When an allowed command
keeps `J`, and so does whatever happens outside, and a task is only dropped
where it may as well end, then `J` holds at the end of every run. -/
theorem Run.keeps {J : List (TaskMove ι R Z) → σ → Prop}
    (hact : ∀ {ms p i c r s}, J ms p.state → (K i).allowed (observed K t ms i) c →
      E ms p (.act i ⟨c, r⟩) → effect c p.state = some (r, s) → J (ms ++ [.act i ⟨c, r⟩]) s)
    (hdrop : ∀ {ms p i}, J ms p.state → E ms p (.drop i) →
      Q (observed K t ms i) () ∧ J (ms ++ [.drop i]) p.state)
    (houtside : ∀ {ms p z s}, J ms p.state → E ms p (.outside z) →
      outside z p.state = some s → J (ms ++ [.outside z]) s)
    (hr : p.Run effect outside E ms q) (hp : ∀ i, (p.task i).Obeys (K i) Q (t i))
    (hJ : J [] p.state) :
    (∀ i, (q.task i).Obeys (K i) Q (observed K t ms i)) ∧ J ms q.state := by
  induction hr with
  | nil => exact ⟨hp, hJ⟩
  | @snoc q r ms m _ hs hE ih =>
      obtain ⟨hobeys, hj⟩ := ih
      rw [observed_snoc]
      cases hs with
      | @act i c k a s hi heff =>
          have hcmd := hobeys i
          rw [hi] at hcmd
          refine ⟨fun j => ?_, hact hj hcmd.1 hE heff⟩
          show (Function.update q.task i (k a) j).Obeys (K j) Q
            (Function.update (observed K t ms) i ((K i).next (observed K t ms i) c a) j)
          by_cases hij : j = i
          · subst hij
            rw [Function.update_self, Function.update_self]
            exact hcmd.2 a
          · rw [Function.update_of_ne hij, Function.update_of_ne hij]
            exact hobeys j
      | @drop i c k hi =>
          obtain ⟨hend, hj'⟩ := hdrop hj hE
          refine ⟨fun j => ?_, hj'⟩
          show (Function.update q.task i (.pure ()) j).Obeys (K j) Q (observed K t ms j)
          by_cases hij : j = i
          · subst hij
            rw [Function.update_self]
            exact hend
          · rw [Function.update_of_ne hij]
            exact hobeys j
      | outside hout => exact ⟨hobeys, houtside hj hE hout⟩

/-! ### Schedules -/

/-- What is to happen next. -/
inductive Turn (ι Z : Type) where
  | act (i : ι)
  | drop (i : ι)
  | outside (z : Z)

/-- Let it happen, when it can. -/
def turn (effect : (c : C) → σ → Option (R c × σ)) (outside : Z → σ → Option σ)
    (p : Tasks ι R σ) : Turn ι Z → Option (TaskMove ι R Z × Tasks ι R σ)
  | .act i =>
      match p.task i with
      | .pure _ => none
      | .cmd c k =>
          match effect c p.state with
          | none => none
          | some (r, s) => some (.act i ⟨c, r⟩, ⟨Function.update p.task i (k r), s⟩)
  | .drop i =>
      match p.task i with
      | .pure _ => none
      | .cmd _ _ => some (.drop i, ⟨Function.update p.task i (.pure ()), p.state⟩)
  | .outside z =>
      match outside z p.state with
      | none => none
      | some s => some (.outside z, ⟨p.task, s⟩)

theorem step_of_turn (p : Tasks ι R σ) (a : Turn ι Z) (m : TaskMove ι R Z) (q : Tasks ι R σ)
    (ht : turn effect outside p a = some (m, q)) : Step effect outside p m q := by
  cases a with
  | act i =>
      simp only [turn] at ht
      split at ht
      · cases ht
      · rename_i c k hi
        split at ht
        · cases ht
        · rename_i r s heff
          cases ht
          exact .act hi heff
  | drop i =>
      simp only [turn] at ht
      split at ht
      · cases ht
      · rename_i c k hi
        cases ht
        exact .drop hi
  | outside z =>
      simp only [turn] at ht
      split at ht
      · cases ht
      · rename_i s hout
        cases ht
        exact .outside hout

end Tasks

end Interaction
