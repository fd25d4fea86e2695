/-
QsoRipper/Lib/Pool.lean

Interleaving.  A pool is one main program and any number of others over one
shared state; a step lets one of them issue its next command, which is atomic.
A call that has not started is a program that has taken no step, so "in flight
at any point of the run" needs no extra machinery.

A run records its moves: who issued which command and what it was answered.
-/
import QsoRipper.Lib.Contract

namespace Interaction

variable {C : Type} {R : C → Type} {σ T : Type} {α β : Type}

/-- Who moved, and what happened. -/
inductive Move (C : Type) (R : C → Type) where
  | main (e : Event C R)
  | other (i : ℕ) (e : Event C R)

/-- One main program and any number of others over one shared state. -/
structure Pool (C : Type) (R : C → Type) (σ α β : Type) where
  main : Prog C R α
  others : List (Prog C R β)
  state : σ

namespace Pool

variable {h : (c : C) → σ → R c × σ}

/-- One step: some program issues its next command. -/
inductive Step (h : (c : C) → σ → R c × σ) :
    Pool C R σ α β → Move C R → Pool C R σ α β → Prop
  | main {c : C} {k : R c → Prog C R α} {others : List (Prog C R β)} {s : σ} :
      Step h ⟨.cmd c k, others, s⟩ (.main ⟨c, (h c s).1⟩) ⟨k (h c s).1, others, (h c s).2⟩
  | other {m : Prog C R α} {others : List (Prog C R β)} {i : ℕ} {c : C} {k : R c → Prog C R β}
      {s : σ} :
      others[i]? = some (.cmd c k) →
      Step h ⟨m, others, s⟩ (.other i ⟨c, (h c s).1⟩)
        ⟨m, others.set i (k (h c s).1), (h c s).2⟩

/-- A run, with its moves in order. -/
inductive Run (h : (c : C) → σ → R c × σ) :
    Pool C R σ α β → List (Move C R) → Pool C R σ α β → Prop
  | nil (p : Pool C R σ α β) : Run h p [] p
  | snoc {p q r : Pool C R σ α β} {ms : List (Move C R)} {m : Move C R} :
      Run h p ms q → q.Step h m r → Run h p (ms ++ [m]) r

/-- **Invariant rule.**  What holds of the initial pool and an empty past, and
is kept by each step, holds at the end of every run. -/
theorem Run.invariant {I : List (Move C R) → Pool C R σ α β → Prop}
    (hstep : ∀ {ms q m r}, I ms q → q.Step h m r → I (ms ++ [m]) r)
    {p q : Pool C R σ α β} {ms : List (Move C R)} (hr : p.Run h ms q) (hp : I [] p) : I ms q := by
  induction hr with
  | nil => exact hp
  | snoc _ hs ih => exact hstep ih hs

theorem Run.append {p q r : Pool C R σ α β} {ms ns : List (Move C R)} (h₁ : p.Run h ms q)
    (h₂ : q.Run h ns r) : p.Run h (ms ++ ns) r := by
  induction h₂ with
  | nil => rwa [List.append_nil]
  | snoc _ hs ih => rw [← List.append_assoc]; exact .snoc ih hs

theorem Step.run {p q : Pool C R σ α β} {m : Move C R} (hs : p.Step h m q) : p.Run h [m] q :=
  .snoc (.nil p) hs

/-- The last step of a run. -/
theorem Run.last {p q : Pool C R σ α β} {ms : List (Move C R)} {m : Move C R}
    (hr : p.Run h (ms ++ [m]) q) : ∃ r, p.Run h ms r ∧ r.Step h m q := by
  generalize hall : ms ++ [m] = all at hr
  cases hr with
  | nil => exact absurd hall (List.concat_ne_nil m ms)
  | snoc hr hs =>
      obtain ⟨rfl, hm⟩ := List.append_inj' hall rfl
      cases hm
      exact ⟨_, hr, hs⟩

/-- A run of some moves and then others goes through a pool in between. -/
theorem Run.split {p q : Pool C R σ α β} {ms ns : List (Move C R)} (hr : p.Run h (ms ++ ns) q) :
    ∃ r, p.Run h ms r ∧ r.Run h ns q := by
  induction ns using List.reverseRecOn generalizing q with
  | nil =>
      rw [List.append_nil] at hr
      exact ⟨q, hr, .nil q⟩
  | append_singleton ns n ih =>
      rw [← List.append_assoc] at hr
      obtain ⟨r, hr, hs⟩ := hr.last
      obtain ⟨r', hms, hns⟩ := ih hr
      exact ⟨r', hms, .snoc hns hs⟩

/-- What a command of the main program is answered, and where it leads. -/
theorem Step.main_eq {p q : Pool C R σ α β} {e : Event C R} (hs : p.Step h (.main e) q) :
    e.2 = (h e.1 p.state).1 ∧ q.state = (h e.1 p.state).2 := by
  cases hs with
  | main => exact ⟨rfl, rfl⟩

/-! ### Runs whose steps meet a condition -/

/-- A run each step of which meets `E`, given the moves before it and the pool
it is taken in. -/
inductive Guarded (h : (c : C) → σ → R c × σ)
    (E : List (Move C R) → Pool C R σ α β → Move C R → Prop) :
    Pool C R σ α β → List (Move C R) → Pool C R σ α β → Prop
  | nil (p : Pool C R σ α β) : Guarded h E p [] p
  | snoc {p q r : Pool C R σ α β} {ms : List (Move C R)} {m : Move C R} :
      Guarded h E p ms q → q.Step h m r → E ms q m → Guarded h E p (ms ++ [m]) r

section Guarded

variable {E : List (Move C R) → Pool C R σ α β → Move C R → Prop} {p q : Pool C R σ α β}
  {ms : List (Move C R)}

theorem Guarded.run (hr : p.Guarded h E ms q) : p.Run h ms q := by
  induction hr with
  | nil => exact .nil p
  | snoc _ hs _ ih => exact .snoc ih hs

/-- Every run meets the condition that is always met. -/
theorem Run.guarded (hr : p.Run h ms q) : p.Guarded h (fun _ _ _ => True) ms q := by
  induction hr with
  | nil => exact .nil p
  | snoc _ hs ih => exact .snoc ih hs trivial

/-- The invariant rule, for such runs. -/
theorem Guarded.invariant {I : List (Move C R) → Pool C R σ α β → Prop}
    (hstep : ∀ {ms q m r}, I ms q → E ms q m → q.Step h m r → I (ms ++ [m]) r)
    (hr : p.Guarded h E ms q) (hp : I [] p) : I ms q := by
  induction hr with
  | nil => exact hp
  | snoc _ hs hm ih => exact hstep ih hm hs

end Guarded

/-! ### Schedules -/

/-- Whose turn it is. -/
inductive Turn where
  | main
  | other (i : ℕ)

/-- Let one program move, when it still has a command to issue. -/
def turn (h : (c : C) → σ → R c × σ) (p : Pool C R σ α β) : Turn → Option (Move C R × Pool C R σ α β)
  | .main =>
      match p.main with
      | .pure _ => none
      | .cmd c k =>
          some (.main ⟨c, (h c p.state).1⟩, ⟨k (h c p.state).1, p.others, (h c p.state).2⟩)
  | .other i =>
      match p.others[i]? with
      | some (.cmd c k) =>
          some (.other i ⟨c, (h c p.state).1⟩,
            ⟨p.main, p.others.set i (k (h c p.state).1), (h c p.state).2⟩)
      | _ => none

/-- Run a schedule; a turn that cannot be taken is skipped. -/
def schedule (h : (c : C) → σ → R c × σ) :
    List Turn → Pool C R σ α β → List (Move C R) × Pool C R σ α β
  | [], p => ([], p)
  | t :: ts, p =>
      match p.turn h t with
      | none => schedule h ts p
      | some (m, q) => (m :: (schedule h ts q).1, (schedule h ts q).2)

theorem step_of_turn {p q : Pool C R σ α β} {t : Turn} {m : Move C R}
    (ht : p.turn h t = some (m, q)) : p.Step h m q := by
  obtain ⟨main, others, s⟩ := p
  cases t with
  | main =>
      cases main with
      | pure a => cases ht
      | cmd c k => cases ht; exact .main
  | other i =>
      simp only [turn] at ht
      split at ht
      · rename_i c k hi
        cases ht
        exact .other hi
      · cases ht

/-- A main program that can take its turn takes it. -/
theorem exists_step_main {p : Pool C R σ α β} (ht : (p.turn h .main).isSome) :
    ∃ e, p.Step h (.main e) (schedule h [.main] p).2 := by
  obtain ⟨main, others, s⟩ := p
  cases main with
  | pure a => cases ht
  | cmd c k => exact ⟨_, .main⟩

/-- A main program that cannot take its turn has finished. -/
theorem main_eq_pure {p : Pool C R σ α β} (ht : (p.turn h .main).isNone) :
    ∃ a, p.main = .pure a := by
  obtain ⟨main, others, s⟩ := p
  cases main with
  | pure a => exact ⟨a, rfl⟩
  | cmd c k => cases ht

/-- A schedule is a run. -/
theorem schedule_run (ts : List Turn) (p : Pool C R σ α β) :
    p.Run h (schedule h ts p).1 (schedule h ts p).2 := by
  induction ts generalizing p with
  | nil => exact .nil p
  | cons t ts ih =>
      rw [schedule]
      cases ht : p.turn h t with
      | none => exact ih p
      | some mq => exact (step_of_turn ht).run.append (ih mq.2)

/-- Do the steps of a schedule meet the condition? -/
def meets (h : (c : C) → σ → R c × σ) (E : List (Move C R) → Pool C R σ α β → Move C R → Prop)
    [∀ ms p m, Decidable (E ms p m)] : List (Move C R) → List Turn → Pool C R σ α β → Bool
  | _, [], _ => true
  | ms, t :: ts, p =>
      match p.turn h t with
      | none => meets h E ms ts p
      | some (m, q) => decide (E ms p m) && meets h E (ms ++ [m]) ts q

theorem Guarded.schedule {E : List (Move C R) → Pool C R σ α β → Move C R → Prop}
    [∀ ms p m, Decidable (E ms p m)] {p₀ p : Pool C R σ α β} {ms : List (Move C R)}
    {ts : List Turn} (hr : p₀.Guarded h E ms p) (ht : meets h E ms ts p) :
    p₀.Guarded h E (ms ++ (p.schedule h ts).1) (p.schedule h ts).2 := by
  induction ts generalizing ms p with
  | nil =>
      rw [Pool.schedule, List.append_nil]
      exact hr
  | cons t ts ih =>
      rw [Pool.schedule]
      rw [meets] at ht
      cases hturn : p.turn h t with
      | none =>
          rw [hturn] at ht
          exact ih hr ht
      | some mq =>
          obtain ⟨m, q⟩ := mq
          rw [hturn] at ht
          obtain ⟨hm, hrest⟩ := (Bool.and_eq_true _ _).mp ht
          have hnext := ih (hr.snoc (step_of_turn hturn) (of_decide_eq_true hm)) hrest
          rwa [List.append_assoc] at hnext

/-- A schedule whose steps meet the condition. -/
theorem schedule_guarded {E : List (Move C R) → Pool C R σ α β → Move C R → Prop}
    [∀ ms p m, Decidable (E ms p m)] {p : Pool C R σ α β} {ts : List Turn}
    (ht : meets h E [] ts p) : p.Guarded h E (schedule h ts p).1 (schedule h ts p).2 :=
  (Guarded.nil p).schedule ht

/-! ### Contracts -/

/-- What the main program has observed. -/
def observed (K : Contract C R T) (t : T) : List (Move C R) → T
  | [] => t
  | .main e :: ms => observed K (K.next t e.1 e.2) ms
  | .other _ _ :: ms => observed K t ms

theorem observed_append {K : Contract C R T} {t : T} {ms ns : List (Move C R)} :
    observed K t (ms ++ ns) = observed K (observed K t ms) ns := by
  induction ms generalizing t with
  | nil => rfl
  | cons m ms ih =>
      cases m with
      | main e => exact ih
      | other i e => exact ih

/-- **A contract survives interleaving.**  At every point of a run the rest of
the main program obeys the contract, given what it has observed. -/
theorem Run.obeys {K : Contract C R T} {Q : T → α → Prop} {t : T} {p q : Pool C R σ α β}
    {ms : List (Move C R)} (hr : p.Run h ms q) (hp : p.main.Obeys K Q t) :
    q.main.Obeys K Q (observed K t ms) := by
  refine hr.invariant (I := fun ms q => q.main.Obeys K Q (observed K t ms)) ?_ hp
  intro ms q m r hI hs
  cases hs with
  | main => rw [observed_append]; exact hI.2 _
  | other => rw [observed_append]; exact hI

/-- The main program's next command is one its contract allows. -/
theorem Run.allowed {K : Contract C R T} {Q : T → α → Prop} {t : T} {p q r : Pool C R σ α β}
    {ms : List (Move C R)} {e : Event C R} (hr : p.Run h ms q) (hs : q.Step h (.main e) r)
    (hp : p.main.Obeys K Q t) :
    K.allowed (observed K t ms) e.1 ∧ r.state = (h e.1 q.state).2 := by
  have hq := hr.obeys hp
  cases hs with
  | main => exact ⟨hq.1, rfl⟩

/-- **Invariant rule under a contract.**  `J` relates what the main program has
observed, the past, the others and the state.  When every step of a run meets
`E`, and such a step keeps `J`, be it an allowed command of the main program or
a step of another, then `J` holds at the end. -/
theorem Guarded.keeps {K : Contract C R T} {Q : T → α → Prop}
    {E : List (Move C R) → Pool C R σ α β → Move C R → Prop}
    {J : T → List (Move C R) → List (Prog C R β) → σ → Prop}
    (hmain : ∀ {t ms c} {q : Pool C R σ α β}, J t ms q.others q.state → K.allowed t c →
      E ms q (.main ⟨c, (h c q.state).1⟩) →
      J (K.next t c (h c q.state).1) (ms ++ [.main ⟨c, (h c q.state).1⟩]) q.others
        (h c q.state).2)
    (hother : ∀ {t ms i e} {q r : Pool C R σ α β}, J t ms q.others q.state →
      E ms q (.other i e) → q.Step h (.other i e) r →
      J t (ms ++ [.other i e]) r.others r.state)
    {t : T} {p q : Pool C R σ α β} {ms : List (Move C R)} (hr : p.Guarded h E ms q)
    (hp : p.main.Obeys K Q t) (hJ : J t [] p.others p.state) :
    J (observed K t ms) ms q.others q.state := by
  have hboth : q.main.Obeys K Q (observed K t ms) ∧ J (observed K t ms) ms q.others q.state := by
    refine hr.invariant (I := fun ms q =>
      q.main.Obeys K Q (observed K t ms) ∧ J (observed K t ms) ms q.others q.state) ?_ ⟨hp, hJ⟩
    rintro ms q m r ⟨hobeys, hj⟩ hm hs
    cases m with
    | main e =>
        rw [observed_append]
        cases hs with
        | main => exact ⟨hobeys.2 _, hmain hj hobeys.1 hm⟩
    | other i e =>
        rw [observed_append]
        refine ⟨?_, hother hj hm hs⟩
        cases hs with
        | other => exact hobeys
  exact hboth.2

/-- The invariant rule under a contract, for every run. -/
theorem Run.keeps {K : Contract C R T} {Q : T → α → Prop}
    {J : T → List (Move C R) → List (Prog C R β) → σ → Prop}
    (hmain : ∀ {t ms others s c}, J t ms others s → K.allowed t c →
      J (K.next t c (h c s).1) (ms ++ [.main ⟨c, (h c s).1⟩]) others (h c s).2)
    (hother : ∀ {t ms i e} {q r : Pool C R σ α β}, J t ms q.others q.state →
      q.Step h (.other i e) r → J t (ms ++ [.other i e]) r.others r.state)
    {t : T} {p q : Pool C R σ α β} {ms : List (Move C R)} (hr : p.Run h ms q)
    (hp : p.main.Obeys K Q t) (hJ : J t [] p.others p.state) :
    J (observed K t ms) ms q.others q.state :=
  hr.guarded.keeps (fun hj hc _ => hmain hj hc) (fun hj _ hs => hother hj hs) hp hJ

end Pool

end Interaction
