/-
QsoRipper/Lib/Trace.lean

The commands a program issues when it runs alone, with their answers, and what
they do to a part of the state that only some commands write: the last one that
writes it decides, and if none does, it stays.
-/
import QsoRipper.Lib.Program

namespace Interaction

variable {C : Type} {R : C → Type} {σ V : Type} {α β : Type}

namespace Prog

variable (h : (c : C) → σ → R c × σ)

/-- The commands of a run, with their answers. -/
def events : Prog C R α → σ → List (Event C R)
  | .pure _, _ => []
  | .cmd c k, s => ⟨c, (h c s).1⟩ :: (k (h c s).1).events (h c s).2

theorem events_bind (p : Prog C R α) (f : α → Prog C R β) (s : σ) :
    (p >>= f).events h s = p.events h s ++ (f (p.run h s).1).events h (p.run h s).2 := by
  induction p generalizing s with
  | pure a => rfl
  | cmd c k ih =>
      rw [cmd_bind, events, events, List.cons_append, ih]
      rfl

variable {h}

/-- A run issues what the program can issue. -/
theorem Emits.of_mem_events {P : C → Prop} {p : Prog C R α} (hp : p.Emits P) {s : σ}
    {e : Event C R} (he : e ∈ p.events h s) : P e.1 := by
  induction p generalizing s with
  | pure a => cases he
  | cmd c k ih =>
      rcases List.mem_cons.mp he with rfl | he
      · exact hp.1
      · exact ih _ (hp.2 _) he

section Register

/-! ### A part of the state that some commands write -/

variable {register : σ → V} {written : Event C R → Option V}
  (hwrite : ∀ c s, register (h c s).2 = (written ⟨c, (h c s).1⟩).getD (register s))
include hwrite

/-- **The last write decides.** -/
theorem register_run (p : Prog C R α) (s : σ) :
    register (p.run h s).2 = ((p.events h s).filterMap written).getLast?.getD (register s) := by
  induction p generalizing s with
  | pure a => rfl
  | cmd c k ih =>
      rw [run_command, ih, hwrite, events]
      rcases e : written ⟨c, (h c s).1⟩ with - | v
      · rw [List.filterMap_cons_none e, Option.getD_none]
      · rw [List.filterMap_cons_some e, List.getLast?_cons, Option.getD_some, Option.getD_some]

/-- What no command of the run writes stays. -/
theorem register_run_of_quiet {p : Prog C R α} {s : σ}
    (hquiet : ∀ e ∈ p.events h s, written e = none) : register (p.run h s).2 = register s := by
  rw [register_run hwrite, List.filterMap_eq_nil_iff.mpr hquiet]
  rfl

/-- What is there after the run was there before or was written by it. -/
theorem register_run_cases (p : Prog C R α) (s : σ) :
    ((∀ e ∈ p.events h s, written e = none) ∧ register (p.run h s).2 = register s)
      ∨ ∃ e ∈ p.events h s, written e = some (register (p.run h s).2) := by
  rw [register_run hwrite]
  rcases e : ((p.events h s).filterMap written).getLast? with - | v
  · rw [List.getLast?_eq_none_iff, List.filterMap_eq_nil_iff] at e
    exact .inl ⟨e, rfl⟩
  · exact .inr (List.mem_filterMap.mp (List.mem_of_getLast? e))

end Register

end Prog

end Interaction
