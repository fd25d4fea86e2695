/-
QsoRipper/Lib/Locks.lean

Threads and locks.  A thread is a program whose commands are those of some
command set, and besides them the acquisition and the release of locks.  Any
number of threads run over one shared state; a thread that wants a lock moves
only when the lock is free, and everything else it does is one atomic step.

A contract for each thread says what the thread may do given what it has
observed; `Run.keeps` is the invariant rule that comes with them.
-/
import QsoRipper.Lib.Contract
import QsoRipper.Lib.Transition

namespace Interaction

variable {ι L C : Type} {R : C → Type} {σ T : Type} {α β : Type}

/-! ### Threads -/

/-- What a thread does: it takes a lock, gives it back, or acts. -/
inductive LockCmd (L C : Type) where
  | acquire (l : L)
  | release (l : L)
  | act (c : C)

/-- What it is answered. -/
abbrev LockCmd.Answer (R : C → Type) : LockCmd L C → Type
  | acquire _ => Unit
  | release _ => Unit
  | act c => R c

/-- A program with locks. -/
abbrev Thread (L : Type) {C : Type} (R : C → Type) (α : Type) : Type :=
  Prog (LockCmd L C) (LockCmd.Answer R) α

namespace Thread

/-- Wait for a lock. -/
def acquire (l : L) : Thread L R Unit := Prog.call (LockCmd.acquire l)

/-- Give a lock back. -/
def release (l : L) : Thread L R Unit := Prog.call (LockCmd.release l)

/-- One command. -/
def act (c : C) : Thread L R (R c) := Prog.call (LockCmd.act c)

/-- A program that knows no locks, as a part of a thread. -/
def lift : Prog C R α → Thread L R α
  | .pure a => .pure a
  | .cmd c k => .cmd (.act c) fun r => lift (k r)

section Obeys

variable {K : Contract (LockCmd L C) (LockCmd.Answer R) T} {Q : T → β → Prop} {t : T}

theorem obeys_acquire_bind {l : L} {f : Unit → Thread L R β} :
    (acquire l >>= f).Obeys K Q t
      ↔ K.allowed t (.acquire l) ∧ (f ()).Obeys K Q (K.next t (.acquire l) ()) :=
  and_congr_right fun _ => ⟨fun h => h (), fun h _ => h⟩

theorem obeys_release_bind {l : L} {f : Unit → Thread L R β} :
    (release l >>= f).Obeys K Q t
      ↔ K.allowed t (.release l) ∧ (f ()).Obeys K Q (K.next t (.release l) ()) :=
  and_congr_right fun _ => ⟨fun h => h (), fun h _ => h⟩

theorem obeys_act_bind {c : C} {f : R c → Thread L R β} :
    (act c >>= f).Obeys K Q t
      ↔ K.allowed t (.act c) ∧ ∀ r, (f r).Obeys K Q (K.next t (.act c) r) := Iff.rfl

/-- The sequencing rule for a part without locks: its commands are allowed
and are not remembered. -/
theorem obeys_lift_bind {p : Prog C R α} {f : α → Thread L R β}
    (hp : p.Emits fun c => K.allowed t (.act c) ∧ ∀ r, K.next t (.act c) r = t)
    (hf : ∀ a, (f a).Obeys K Q t) : (lift p >>= f).Obeys K Q t := by
  induction p with
  | pure a => exact hf a
  | cmd c k ih =>
      refine ⟨hp.1.1, fun r => ?_⟩
      rw [hp.1.2 r]
      exact ih r (hp.2 r)

end Obeys

end Thread

/-! ### Runs -/

/-- Threads over a shared state, and who holds the locks. -/
structure Threads (ι L : Type) {C : Type} (R : C → Type) (σ : Type) where
  thread : ι → Thread L R Unit
  owner : L → Option ι
  state : σ

/-- Who moved, and what happened. -/
abbrev Action (ι L : Type) {C : Type} (R : C → Type) : Type :=
  ι × Event (LockCmd L C) (LockCmd.Answer R)

namespace Threads

variable [DecidableEq ι] [DecidableEq L] {h : (c : C) → σ → R c × σ}

/-- One step of one thread. -/
inductive Step (h : (c : C) → σ → R c × σ) :
    Threads ι L R σ → Action ι L R → Threads ι L R σ → Prop
  | acquire {p : Threads ι L R σ} {i : ι} {l : L} {k : Unit → Thread L R Unit} :
      p.thread i = .cmd (.acquire l) k → p.owner l = none →
      Step h p (i, ⟨.acquire l, ()⟩)
        { p with
          thread := Function.update p.thread i (k ())
          owner := Function.update p.owner l (some i) }
  | release {p : Threads ι L R σ} {i : ι} {l : L} {k : Unit → Thread L R Unit} :
      p.thread i = .cmd (.release l) k → p.owner l = some i →
      Step h p (i, ⟨.release l, ()⟩)
        { p with
          thread := Function.update p.thread i (k ())
          owner := Function.update p.owner l none }
  | act {p : Threads ι L R σ} {i : ι} {c : C} {k : R c → Thread L R Unit} :
      p.thread i = .cmd (.act c) k →
      Step h p (i, ⟨.act c, (h c p.state).1⟩)
        { p with
          thread := Function.update p.thread i (k (h c p.state).1)
          state := (h c p.state).2 }

/-- A run, with its actions in order, each of which meets `E` where it is
taken. -/
abbrev Run (h : (c : C) → σ → R c × σ) (E : Threads ι L R σ → Action ι L R → Prop) :
    Threads ι L R σ → List (Action ι L R) → Threads ι L R σ → Prop :=
  Transition.Run (Step h) fun _ => E

variable {E : Threads ι L R σ → Action ι L R → Prop} {p q r : Threads ι L R σ}
  {m : Action ι L R} {ms : List (Action ι L R)}

/-! ### Contracts -/

variable {K : ι → Contract (LockCmd L C) (LockCmd.Answer R) T} {Q : T → Unit → Prop} {t : ι → T}

/-- What a thread has observed after an action. -/
def observe (K : ι → Contract (LockCmd L C) (LockCmd.Answer R) T) (t : ι → T)
    (m : Action ι L R) : ι → T :=
  Function.update t m.1 ((K m.1).next (t m.1) m.2.1 m.2.2)

/-- What the threads have observed. -/
def observed (K : ι → Contract (LockCmd L C) (LockCmd.Answer R) T) (t : ι → T)
    (ms : List (Action ι L R)) : ι → T :=
  ms.foldl (observe K) t

omit [DecidableEq L] in
theorem observed_snoc : observed K t (ms ++ [m]) = observe K (observed K t ms) m := by
  rw [observed, List.foldl_append]
  rfl

omit [DecidableEq L] in
theorem observe_self : observe K t m m.1 = (K m.1).next (t m.1) m.2.1 m.2.2 :=
  Function.update_self ..

omit [DecidableEq L] in
theorem observe_of_ne {i : ι} (hi : i ≠ m.1) : observe K t m i = t i := Function.update_of_ne hi ..

/-- A step of a thread that obeys is allowed, and the rest obeys. -/
theorem Step.obeys (hs : p.Step h m q) (hp : ∀ i, (p.thread i).Obeys (K i) Q (t i)) :
    (K m.1).allowed (t m.1) m.2.1 ∧ ∀ i, (q.thread i).Obeys (K i) Q (observe K t m i) := by
  have hupdate : ∀ {i : ι} {c : LockCmd L C} {k : LockCmd.Answer R c → Thread L R Unit}
      {a : LockCmd.Answer R c}, p.thread i = .cmd c k → (K i).allowed (t i) c
      ∧ ∀ j, (Function.update p.thread i (k a) j).Obeys (K j) Q (observe K t (i, ⟨c, a⟩) j) := by
    intro i c k a hi
    have hcmd := hp i
    rw [hi] at hcmd
    refine ⟨hcmd.1, fun j => ?_⟩
    by_cases hj : j = i
    · subst hj
      rw [Function.update_self, show observe K t (j, ⟨c, a⟩) j = _ from observe_self]
      exact hcmd.2 a
    · rw [Function.update_of_ne hj, observe_of_ne hj]
      exact hp j
  cases hs with
  | acquire hi _ => exact hupdate hi
  | release hi _ => exact hupdate hi
  | act hi => exact hupdate hi

/-- **Invariant rule.**  When every thread obeys its contract, and an allowed
step that meets `E` keeps the relation `J` between the observations, the owners
of the locks and the state, then `J` holds at the end of every run. -/
theorem Run.keeps {J : (ι → T) → (L → Option ι) → σ → Prop}
    (hstep : ∀ {t p m q}, J t p.owner p.state → (K m.1).allowed (t m.1) m.2.1 → E p m →
      p.Step h m q → J (observe K t m) q.owner q.state)
    (hr : p.Run h E ms q) (hp : ∀ i, (p.thread i).Obeys (K i) Q (t i))
    (hJ : J t p.owner p.state) :
    (∀ i, (q.thread i).Obeys (K i) Q (observed K t ms i))
      ∧ J (observed K t ms) q.owner q.state := by
  induction hr with
  | nil => exact ⟨hp, hJ⟩
  | snoc _ hs hE ih =>
      obtain ⟨hobeys, hj⟩ := ih
      obtain ⟨hallowed, hrest⟩ := hs.obeys hobeys
      rw [observed_snoc]
      exact ⟨hrest, hstep hj hallowed hE hs⟩

/-- **Stability rule.**  What a thread knows after `i` actions it still knows
after `j`, when none of its allowed actions in between destroys it. -/
theorem Run.stays {I : T → Prop} {a : ι} (hr : p.Run h E ms q)
    (hp : ∀ i, (p.thread i).Obeys (K i) Q (t i)) {i j : ℕ} (hij : i ≤ j) (hj : j ≤ ms.length)
    (hI : ∀ {t x c r}, i ≤ x → x < j → ms[x]? = some (a, ⟨c, r⟩) → (K a).allowed t c → I t →
      I ((K a).next t c r))
    (h₀ : I (observed K t (ms.take i) a)) : I (observed K t (ms.take j) a) := by
  induction j, hij using Nat.le_induction with
  | base => exact h₀
  | succ j hij ih =>
      have hget : ms[j]? = some ms[j] := List.getElem?_eq_getElem (by omega)
      have hprev := ih (by omega) fun hx hxj => hI hx (by omega)
      rw [List.take_add_one, hget, Option.toList_some, observed_snoc]
      by_cases ha : a = (ms[j]).1
      · obtain ⟨q₁, q₂, hrun, hs⟩ := hr.at hget
        have hobeys := (Run.keeps (J := fun _ _ _ => True) (fun _ _ _ _ => trivial) hrun hp trivial).1
        have hallowed := (hs.obeys hobeys).1
        subst ha
        rw [observe_self]
        exact hI hij (Nat.lt_succ_self j) hget hallowed hprev
      · rw [observe_of_ne ha]
        exact hprev

/-! ### Schedules -/

/-- Let one thread move, when it can. -/
def turn (h : (c : C) → σ → R c × σ) (p : Threads ι L R σ) (i : ι) :
    Option (Action ι L R × Threads ι L R σ) :=
  match p.thread i with
  | .pure _ => none
  | .cmd (.acquire l) k =>
      if p.owner l = none then
        some ((i, ⟨.acquire l, ()⟩),
          { p with
            thread := Function.update p.thread i (k ())
            owner := Function.update p.owner l (some i) })
      else none
  | .cmd (.release l) k =>
      if p.owner l = some i then
        some ((i, ⟨.release l, ()⟩),
          { p with
            thread := Function.update p.thread i (k ())
            owner := Function.update p.owner l none })
      else none
  | .cmd (.act c) k =>
      some ((i, ⟨.act c, (h c p.state).1⟩),
        { p with
          thread := Function.update p.thread i (k (h c p.state).1)
          state := (h c p.state).2 })

theorem step_of_turn {i : ι} (ht : p.turn h i = some (m, q)) : p.Step h m q := by
  rw [turn] at ht
  split at ht
  · cases ht
  · rename_i l k hi
    split at ht
    · rename_i hfree
      cases ht
      exact .acquire hi hfree
    · cases ht
  · rename_i l k hi
    split at ht
    · rename_i hheld
      cases ht
      exact .release hi hheld
    · cases ht
  · rename_i c k hi
    cases ht
    exact .act hi

/-- Run a schedule. -/
abbrev schedule (h : (c : C) → σ → R c × σ) :
    List ι → Threads ι L R σ → List (Action ι L R) × Threads ι L R σ :=
  Transition.schedule (turn h)

/-- A schedule whose steps meet the condition is such a run. -/
theorem schedule_run [∀ p m, Decidable (E p m)] {is : List ι}
    (hm : Transition.meets (turn h) (fun _ => E) [] is p) :
    p.Run h E (p.schedule h is).1 (p.schedule h is).2 :=
  Transition.schedule_run (fun _ _ _ _ => step_of_turn) hm

end Threads

end Interaction
