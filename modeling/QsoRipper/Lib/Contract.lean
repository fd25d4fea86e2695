/-
QsoRipper/Lib/Contract.lean

Contracts with memory.  A contract says which commands are allowed given what
has been observed so far, and how an answer adds to the observations.
`Prog.Obeys` is then the weakest precondition of a program over *arbitrary*
answers: it is proved once from the program text, and used in two ways.

* `Obeys.run` runs the program alone against a handler, with an invariant that
  relates the observations to the state.
* In `Pool`, where the answers come from a state that others change meanwhile,
  the observations are exactly what survives.
-/
import QsoRipper.Lib.Program

namespace Interaction

variable {C : Type} {R : C → Type} {σ T : Type} {α β : Type}

/-- Which commands are allowed after the observations `T`, and what an answer
adds to them. -/
structure Contract (C : Type) (R : C → Type) (T : Type) where
  allowed : T → C → Prop
  next : T → (c : C) → R c → T

namespace Prog

variable {K : Contract C R T}

/-- Whatever it is answered, the program only issues allowed commands, and it
ends with `Q`. -/
def Obeys (K : Contract C R T) (Q : T → α → Prop) : Prog C R α → T → Prop
  | .pure a, t => Q t a
  | .cmd c k, t => K.allowed t c ∧ ∀ r, (k r).Obeys K Q (K.next t c r)

@[simp] theorem obeys_pure {Q : T → α → Prop} {a : α} {t : T} :
    (Pure.pure a : Prog C R α).Obeys K Q t ↔ Q t a := Iff.rfl

@[simp] theorem obeys_cmd {Q : T → α → Prop} {c : C} {k : R c → Prog C R α} {t : T} :
    (Prog.cmd c k).Obeys K Q t
      ↔ K.allowed t c ∧ ∀ r, (k r).Obeys K Q (K.next t c r) := Iff.rfl

/-- The sequencing rule. -/
theorem obeys_bind {Q : T → β → Prop} {p : Prog C R α} {f : α → Prog C R β} {t : T} :
    (p >>= f).Obeys K Q t ↔ p.Obeys K (fun t a => (f a).Obeys K Q t) t := by
  induction p generalizing t with
  | pure a => rfl
  | cmd c k ih => exact and_congr_right fun _ => forall_congr' fun r => ih r

theorem obeys_call {Q : T → R c → Prop} {t : T} :
    (Prog.call c : Prog C R (R c)).Obeys K Q t
      ↔ K.allowed t c ∧ ∀ r, Q (K.next t c r) r := Iff.rfl

/-- The consequence rule. -/
theorem Obeys.mono {Q Q' : T → α → Prop} (hQ : ∀ t a, Q t a → Q' t a) {p : Prog C R α} {t : T}
    (h : p.Obeys K Q t) : p.Obeys K Q' t := by
  induction p generalizing t with
  | pure a => exact hQ t a h
  | cmd c k ih => exact ⟨h.1, fun r => ih r (h.2 r)⟩

/-- A fact about the observations that no answer destroys holds at the end as
well. -/
theorem Obeys.keep {Q : T → α → Prop} {I : T → Prop} (hI : ∀ t c r, I t → I (K.next t c r))
    {p : Prog C R α} {t : T} (h : p.Obeys K Q t) (ht : I t) :
    p.Obeys K (fun t a => I t ∧ Q t a) t := by
  induction p generalizing t with
  | pure a => exact ⟨ht, h⟩
  | cmd c k ih => exact ⟨h.1, fun r => ih r (h.2 r) (hI t c r ht)⟩

/-- A program whose commands are allowed and add nothing to the observations
leaves them as they are. -/
theorem Emits.obeys {t : T} {p : Prog C R α}
    (hp : p.Emits fun c => K.allowed t c ∧ ∀ r, K.next t c r = t) :
    p.Obeys K (fun t' _ => t' = t) t := by
  induction p with
  | pure a => rfl
  | cmd c k ih =>
      refine ⟨hp.1.1, fun r => ?_⟩
      rw [hp.1.2 r]
      exact ih r (hp.2 r)

/-- The sequencing rule for such a program. -/
theorem Emits.obeys_bind {Q : T → β → Prop} {t : T} {p : Prog C R α} {f : α → Prog C R β}
    (hp : p.Emits fun c => K.allowed t c ∧ ∀ r, K.next t c r = t)
    (hf : ∀ a, (f a).Obeys K Q t) : (p >>= f).Obeys K Q t := by
  rw [Prog.obeys_bind]
  refine (Emits.obeys hp).mono ?_
  rintro t' a rfl
  exact hf a

/-- A program whose commands are always allowed obeys. -/
theorem Emits.obeys_always {t : T} {p : Prog C R α} (hp : p.Emits fun c => ∀ t, K.allowed t c) :
    p.Obeys K (fun _ _ => True) t := by
  induction p generalizing t with
  | pure a => trivial
  | cmd c k ih => exact ⟨hp.1 t, fun r => ih r (hp.2 r)⟩

/-! ### Contracts kept from any observation -/

/-- The program obeys whatever has been observed before. -/
def Always (K : Contract C R T) (p : Prog C R α) : Prop := ∀ t, p.Obeys K (fun _ _ => True) t

namespace Always

theorem pure (a : α) : Always K (Pure.pure a : Prog C R α) := fun _ => trivial

/-- A command that is allowed whatever has been observed. -/
theorem cmd {c : C} {k : R c → Prog C R α} (hc : ∀ t, K.allowed t c) (hk : ∀ r, Always K (k r)) :
    Always K (.cmd c k) := fun t => ⟨hc t, fun r => hk r (K.next t c r)⟩

theorem bind {p : Prog C R α} {f : α → Prog C R β} (hp : Always K p) (hf : ∀ a, Always K (f a)) :
    Always K (p >>= f) := by
  intro t
  rw [Prog.obeys_bind]
  exact (hp t).mono fun t' a _ => hf a t'

end Always

/-! ### Alone against a handler -/

variable {h : (c : C) → σ → R c × σ}

/-- What a sequential run does: each command with the state it meets and the
answer it gets. -/
def trace (h : (c : C) → σ → R c × σ) : Prog C R α → σ → List (σ × Event C R)
  | .pure _, _ => []
  | .cmd c k, s => (s, ⟨c, (h c s).1⟩) :: (k (h c s).1).trace h (h c s).2

theorem trace_bind {p : Prog C R α} {f : α → Prog C R β} {s : σ} :
    (p >>= f).trace h s = p.trace h s ++ (f (p.run h s).1).trace h (p.run h s).2 := by
  induction p generalizing s with
  | pure a => rfl
  | cmd c k ih =>
      rw [cmd_bind, trace, trace, ih, List.cons_append]
      rfl

/-- A run issues only what the program can. -/
theorem Emits.trace {P : C → Prop} {p : Prog C R α} {s : σ} (hp : p.Emits P) :
    ∀ m ∈ p.trace h s, P m.2.1 := by
  induction p generalizing s with
  | pure a => exact fun m hm => absurd hm List.not_mem_nil
  | cmd c k ih =>
      intro m hm
      rcases List.mem_cons.mp hm with rfl | hm
      · exact hp.1
      · exact ih _ (hp.2 _) m hm

/-- **Run rule.**  If `J` ties the observations to the state, and an allowed
command whose event satisfies `E` keeps it, then in a run whose events all
satisfy `E` it holds at every command and at the end. -/
theorem Obeys.run {J : T → σ → Prop} {Q : T → α → Prop} {E : Event C R → Prop}
    (hJ : ∀ t s c, J t s → K.allowed t c → E ⟨c, (h c s).1⟩ →
      J (K.next t c (h c s).1) (h c s).2)
    {p : Prog C R α} {t : T} {s : σ} (hp : p.Obeys K Q t) (hs : J t s)
    (hE : ∀ m ∈ p.trace h s, E m.2) :
    (∀ m ∈ p.trace h s, ∃ t', J t' m.1 ∧ K.allowed t' m.2.1)
      ∧ ∃ t', J t' (p.run h s).2 ∧ Q t' (p.run h s).1 := by
  induction p generalizing t s with
  | pure a => exact ⟨fun m hm => absurd hm List.not_mem_nil, t, hs, hp⟩
  | cmd c k ih =>
      obtain ⟨hc, hrest⟩ := List.forall_mem_cons.mp hE
      obtain ⟨hmid, hend⟩ := ih _ (hp.2 _) (hJ t s c hs hp.1 hc) hrest
      refine ⟨fun m hm => ?_, hend⟩
      rcases List.mem_cons.mp hm with rfl | hm
      · exact ⟨t, hs, hp.1⟩
      · exact hmid m hm

/-- Every state of a sequential run, the last one included. -/
def states (h : (c : C) → σ → R c × σ) (p : Prog C R α) (s : σ) : List σ :=
  (p.trace h s).map Prod.fst ++ [(p.run h s).2]

theorem mem_states_cmd {c : C} {k : R c → Prog C R α} {s s' : σ} :
    s' ∈ (Prog.cmd c k).states h s
      ↔ s' = s ∨ s' ∈ (k (h c s).1).states h (h c s).2 := by
  rw [states, states, trace, List.map_cons, List.cons_append, List.mem_cons]
  exact Iff.rfl

theorem mem_states_bind {p : Prog C R α} {f : α → Prog C R β} {s s' : σ}
    (hs : s' ∈ (p >>= f).states h s) :
    s' ∈ p.states h s ∨ s' ∈ (f (p.run h s).1).states h (p.run h s).2 := by
  rw [states, trace_bind, run_bind, List.map_append, List.append_assoc] at hs
  rcases List.mem_append.mp hs with hs | hs
  · exact .inl (List.mem_append_left _ hs)
  · exact .inr hs

theorem run_mem_states {p : Prog C R α} {s : σ} : (p.run h s).2 ∈ p.states h s :=
  List.mem_append_right _ (List.mem_singleton_self _)

/-- The run rule, for every state of the run. -/
theorem Obeys.states {J : T → σ → Prop} {Q : T → α → Prop} {E : Event C R → Prop}
    (hJ : ∀ t s c, J t s → K.allowed t c → E ⟨c, (h c s).1⟩ →
      J (K.next t c (h c s).1) (h c s).2)
    {p : Prog C R α} {t : T} {s : σ} (hp : p.Obeys K Q t) (hs : J t s)
    (hE : ∀ m ∈ p.trace h s, E m.2) : ∀ s' ∈ p.states h s, ∃ t', J t' s' := by
  obtain ⟨hmid, t', hend, -⟩ := hp.run hJ hs hE
  intro s' hs'
  rcases List.mem_append.mp hs' with hs' | hs'
  · obtain ⟨m, hm, rfl⟩ := List.mem_map.mp hs'
    obtain ⟨t', hj, -⟩ := hmid m hm
    exact ⟨t', hj⟩
  · rw [List.mem_singleton.mp hs']
    exact ⟨t', hend⟩

end Prog

end Interaction
