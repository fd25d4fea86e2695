/-
QsoRipper/Lib/SharedCell.lean

Two read-modify-write calls on one cell of the shared state.  Each reads the
whole cell once and later writes the whole cell once; nothing holds the cell
in between.

Whoever writes second decides what the cell ends as, and its write was made
from what it had read: from the other's value when the other's write came
before that read, and from the old value otherwise.  `Race` says this of every
point of an interleaved run, `race_run` proves it.
-/
import QsoRipper.Lib.Pool
import QsoRipper.Lib.ReadModifyWrite

namespace Interaction

variable {C : Type} {R : C → Type} {σ V : Type} {α β : Type}

/-- A cell of the shared state with the commands that concern it. -/
structure Cell (h : (c : C) → σ → R c × σ) (V : Type) where
  value : σ → V
  /-- The command that reads the cell. -/
  read : C
  isRead : C → Bool
  isRead_iff : ∀ c, isRead c = true ↔ c = read
  answer : V → R read
  answer_read : ∀ s, (h read s).1 = answer (value s)
  /-- The value a command writes to the cell, if it writes it. -/
  written : C → Option V
  written_read : written read = none
  value_write : ∀ c s v, written c = some v → value (h c s).2 = v
  value_frame : ∀ c s, written c = none → value (h c s).2 = value s

/-- What a move does with the cell. -/
inductive CellMove where
  | read
  | write
  deriving DecidableEq

/-- Where a call stands. -/
inductive Stage (V : Type) where
  | unread
  | holding (v : V)
  /-- It read `v` and wrote `m`. -/
  | wrote (v m : V)

namespace Cell

variable {h : (c : C) → σ → R c × σ} (cell : Cell h V)

/-- A command that does not concern the cell. -/
def Quiet (c : C) : Prop := c ≠ cell.read ∧ cell.written c = none

/-- A command that writes the cell with something made from `v`. -/
def Makes (made : V → V → Prop) (v : V) (c : C) : Prop := ∃ m, cell.written c = some m ∧ made v m

/-- A call that reads the cell and then writes what it has made of it. -/
def Call (made : V → V → Prop) (p : Prog C R α) : Prop :=
  p.Reads cell.Quiet cell.read fun a c => ∀ v, a = cell.answer v → cell.Makes made v c

/-- The rest of such a call, at a stage. -/
def At (made : V → V → Prop) : Stage V → Prog C R α → Prop
  | .unread, p => cell.Call made p
  | .holding v, p => p.Writes cell.Quiet (cell.Makes made v)
  | .wrote _ _, p => p.Emits cell.Quiet

/-- What a command of a call does to its stage while the cell holds `u`. -/
inductive Advance (made : V → V → Prop) (u : V) : Stage V → C → Stage V → Prop
  | quiet {st : Stage V} {c : C} : cell.Quiet c → Advance made u st c st
  | read : Advance made u .unread cell.read (.holding u)
  | write {v m : V} {c : C} :
      cell.written c = some m → made v m → Advance made u (.holding v) c (.wrote v m)

variable {cell} {made : V → V → Prop}

theorem makes_not_quiet {v : V} {c : C} (hw : cell.Makes made v c) (hq : cell.Quiet c) : False := by
  obtain ⟨m, hm, -⟩ := hw
  rw [hq.2] at hm
  cases hm

/-- One command of a call. -/
theorem At.next {st : Stage V} {c : C} {k : R c → Prog C R α} (hp : cell.At made st (.cmd c k))
    (s : σ) : ∃ st', cell.Advance made (cell.value s) st c st' ∧ cell.At made st' (k (h c s).1) := by
  cases st with
  | unread =>
      cases hp with
      | quiet hq hk => exact ⟨.unread, .quiet hq, hk _⟩
      | read hk =>
          refine ⟨.holding (cell.value s), .read, ?_⟩
          rw [cell.answer_read]
          exact (hk _).mono fun c hc => hc _ rfl
  | holding v =>
      cases hp with
      | quiet hq hk => exact ⟨.holding v, .quiet hq, hk _⟩
      | write hw hk =>
          obtain ⟨m, hm, hmade⟩ := hw
          exact ⟨.wrote v m, .write hm hmade, hk _⟩
  | wrote v m => exact ⟨.wrote v m, .quiet hp.1, hp.2 _⟩

/-! ### The moves of two calls -/

variable (cell)

/-- What a command does with the cell. -/
def kind (c : C) : Option CellMove :=
  if cell.isRead c then some .read else (cell.written c).map fun _ => .write

/-- What a move does with the cell, and whether it is the main program's. -/
def moveOf : Move C R → Option (Bool × CellMove)
  | .main e => (cell.kind e.1).map (Prod.mk true)
  | .other _ e => (cell.kind e.1).map (Prod.mk false)

/-- The history of the cell. -/
def history (ms : List (Move C R)) : List (Bool × CellMove) := ms.filterMap cell.moveOf

/-- The values the main program (`true`) or the other one (`false`) wrote. -/
def valuesOf (p : Bool) (ms : List (Move C R)) : List V :=
  ms.filterMap fun
    | .main e => if p then cell.written e.1 else none
    | .other _ e => if p then none else cell.written e.1

variable {cell}

theorem kind_quiet {c : C} (hq : cell.Quiet c) : cell.kind c = none := by
  have hread : ¬ cell.isRead c = true := fun hc => hq.1 ((cell.isRead_iff c).mp hc)
  rw [kind, if_neg hread, hq.2, Option.map_none]

theorem kind_read : cell.kind cell.read = some .read := if_pos ((cell.isRead_iff _).mpr rfl)

theorem kind_write {c : C} {m : V} (hm : cell.written c = some m) : cell.kind c = some .write := by
  have hread : ¬ cell.isRead c = true := by
    intro hc
    rw [(cell.isRead_iff c).mp hc, cell.written_read] at hm
    cases hm
  rw [kind, if_neg hread, hm, Option.map_some]

/-! ### The race -/

/-- The write of one party comes before the read of the other. -/
def Before (k : List (Bool × CellMove)) (p : Bool) : Prop :=
  [(p, CellMove.write), (!p, CellMove.read)].Sublist k

instance (k : List (Bool × CellMove)) (p : Bool) : Decidable (Before k p) :=
  inferInstanceAs (Decidable (List.Sublist _ _))

theorem before_snoc_iff {k : List (Bool × CellMove)} {p : Bool} {x : Bool × CellMove}
    (hx : x ≠ (!p, .read)) : Before (k ++ [x]) p ↔ Before k p := by
  refine ⟨fun hsub => ?_, fun hsub => hsub.trans (List.sublist_append_left _ _)⟩
  rw [Before, ← List.reverse_sublist, List.reverse_append] at hsub
  rcases List.sublist_cons_iff.mp hsub with hsub | ⟨l, hl, -⟩
  · exact List.reverse_sublist.mp hsub
  · cases hl
    exact absurd rfl hx

theorem before_snoc_read {k : List (Bool × CellMove)} {p : Bool} (hw : (p, CellMove.write) ∈ k) :
    Before (k ++ [(!p, .read)]) p :=
  (List.singleton_sublist.mpr hw).append (List.Sublist.refl [(!p, CellMove.read)])

theorem not_before_of_notMem {k : List (Bool × CellMove)} {p : Bool}
    (hw : (p, CellMove.write) ∉ k) : ¬ Before k p :=
  fun hsub => hw (hsub.subset List.mem_cons_self)

/-- What a party reads when the other has written `m` over `v₀`. -/
def readAfter (k : List (Bool × CellMove)) (p : Bool) (v₀ m : V) : V :=
  if Before k p then m else v₀

/-- How the calls and the cell stand, after the history `k` from the value `v₀`. -/
inductive Race (made : Bool → V → V → Prop) (v₀ : V) (k : List (Bool × CellMove))
    (st : Bool → Stage V) : V → Prop
  | untouched :
      (∀ p, st p = .unread ∨ st p = .holding v₀) → (∀ p, (p, CellMove.write) ∉ k) →
      Race made v₀ k st v₀
  | first (p : Bool) {m : V} :
      st p = .wrote v₀ m → made p v₀ m → (p, CellMove.write) ∈ k → (!p, CellMove.write) ∉ k →
      (st (!p) = .unread ∨ st (!p) = .holding (readAfter k p v₀ m)) → Race made v₀ k st m
  | second (p : Bool) {m m' : V} :
      st p = .wrote v₀ m → made p v₀ m → st (!p) = .wrote (readAfter k p v₀ m) m' →
      made (!p) (readAfter k p v₀ m) m' → ¬ Before k (!p) → Race made v₀ k st m'

variable {made : Bool → V → V → Prop} {v₀ u : V} {k : List (Bool × CellMove)} {st : Bool → Stage V}

/-- A party reads the cell. -/
theorem Race.read (hr : Race made v₀ k st u) {p : Bool} (hp : st p = .unread) :
    Race made v₀ (k ++ [(p, .read)]) (Function.update st p (.holding u)) u := by
  have hw : ∀ {q}, (q, CellMove.write) ∉ k → (q, CellMove.write) ∉ k ++ [(p, CellMove.read)] := by
    intro q hq hmem
    rcases List.mem_append.mp hmem with hmem | hmem
    · exact hq hmem
    · cases List.mem_singleton.mp hmem
  cases hr with
  | untouched hst hnone =>
      refine .untouched (fun q => ?_) fun q => hw (hnone q)
      by_cases hq : q = p
      · right
        rw [hq, Function.update_self]
      · rw [Function.update_of_ne hq]
        exact hst q
  | @first q m hq hmade hwrote hnot _ =>
      obtain rfl : p = !q := by
        rcases Bool.eq_or_eq_not p q with rfl | rfl
        · rw [hq] at hp
          cases hp
        · rfl
      have hne : q ≠ !q := by cases q <;> decide
      refine .first q ?_ hmade (List.mem_append_left _ hwrote) (hw hnot) (.inr ?_)
      · rw [Function.update_of_ne hne]
        exact hq
      · rw [Function.update_self, readAfter, if_pos (before_snoc_read hwrote)]
  | @second q m m' hq _ hq' =>
      rcases Bool.eq_or_eq_not p q with rfl | rfl
      · rw [hq] at hp
        cases hp
      · rw [hq'] at hp
        cases hp

/-- A party writes the cell. -/
theorem Race.write (hr : Race made v₀ k st u) {p : Bool} {v m : V} (hp : st p = .holding v)
    (hmade : made p v m) :
    Race made v₀ (k ++ [(p, .write)]) (Function.update st p (.wrote v m)) m := by
  have hself : (!p) ≠ p := by cases p <;> decide
  have hbefore : ∀ q, Before (k ++ [(p, .write)]) q ↔ Before k q := fun q =>
    before_snoc_iff (by nofun)
  have hread : ∀ q v₀ m, readAfter (k ++ [(p, .write)]) q v₀ m = readAfter (V := V) k q v₀ m := by
    intro q v₀ m
    simp only [readAfter, hbefore]
  cases hr with
  | untouched hst hnone =>
      obtain rfl : v = v₀ := by
        rcases hst p with h | h
        · rw [h] at hp
          cases hp
        · rw [h] at hp
          cases hp
          rfl
      refine .first p (Function.update_self ..) hmade
        (List.mem_append_right _ (List.mem_singleton_self _)) (fun hmem => ?_) ?_
      · rcases List.mem_append.mp hmem with hmem | hmem
        · exact hnone _ hmem
        · exact hself (congrArg Prod.fst (List.mem_singleton.mp hmem))
      · rw [Function.update_of_ne hself, hread, readAfter, if_neg (not_before_of_notMem (hnone p))]
        exact hst _
  | @first q m₁ hq hmade₁ hwrote hnot hother =>
      obtain rfl : p = !q := by
        rcases Bool.eq_or_eq_not p q with rfl | rfl
        · rw [hq] at hp
          cases hp
        · rfl
      obtain rfl : v = readAfter k q v₀ u := by
        rcases hother with h | h
        · rw [h] at hp
          cases hp
        · rw [h] at hp
          cases hp
          rfl
      have hne : q ≠ !q := by cases q <;> decide
      refine .second q (m := u) ?_ hmade₁ ?_ ?_ ?_
      · rw [Function.update_of_ne hne]
        exact hq
      · rw [Function.update_self, hread]
      · rw [hread]
        exact hmade
      · rw [hbefore]
        exact not_before_of_notMem hnot
  | @second q m₁ m₂ hq _ hq' =>
      rcases Bool.eq_or_eq_not p q with rfl | rfl
      · rw [hq] at hp
        cases hp
      · rw [hq'] at hp
        cases hp

/-! ### Two calls in a pool -/

variable {main : Prog C R α} {other : Prog C R β} {s : σ} {ms : List (Move C R)}

/-- What holds at every point of a run of two calls. -/
structure Racing (cell : Cell h V) (made : Bool → V → V → Prop) (v₀ : V) (ms : List (Move C R))
    (q : Pool C R σ α β) : Prop where
  stages : ∃ (st : Bool → Stage V) (other : Prog C R β), q.others = [other]
    ∧ cell.At (made true) (st true) q.main ∧ cell.At (made false) (st false) other
    ∧ Race made v₀ (cell.history ms) st (cell.value q.state)
    ∧ ∀ p m, m ∈ cell.valuesOf p ms ↔ ∃ v, st p = .wrote v m

theorem history_snoc (m : Move C R) :
    cell.history (ms ++ [m]) = cell.history ms ++ (cell.moveOf m).toList := by
  rw [history, List.filterMap_append]
  cases hm : cell.moveOf m <;> simp [history, hm]

theorem mem_valuesOf_snoc {p : Bool} {m : Move C R} {v : V} :
    v ∈ cell.valuesOf p (ms ++ [m]) ↔ v ∈ cell.valuesOf p ms ∨ v ∈ cell.valuesOf p [m] := by
  rw [valuesOf, List.filterMap_append, List.mem_append]
  exact Iff.rfl

/-- A move of the party `p` by the command `c`. -/
def MoveBy (p : Bool) (c : C) (m : Move C R) : Prop :=
  cell.moveOf m = (cell.kind c).map (Prod.mk p)
    ∧ ∀ q v, v ∈ cell.valuesOf q [m] ↔ q = p ∧ cell.written c = some v

theorem moveBy_main (e : Event C R) : cell.MoveBy true e.1 (.main e) := by
  refine ⟨rfl, fun q v => ?_⟩
  cases q <;> cases hw : cell.written e.1 <;> simp [valuesOf, hw, eq_comm]

theorem moveBy_other (i : ℕ) (e : Event C R) : cell.MoveBy false e.1 (.other i e) := by
  refine ⟨rfl, fun q v => ?_⟩
  cases q <;> cases hw : cell.written e.1 <;> simp [valuesOf, hw, eq_comm]

/-- **One move of a call.** -/
theorem Race.advance {p : Bool} {c : C} {m : Move C R} {st' : Stage V}
    (hr : Race made v₀ (cell.history ms) st (cell.value s))
    (hv : ∀ q m, m ∈ cell.valuesOf q ms ↔ ∃ v, st q = .wrote v m)
    (ha : cell.Advance (made p) (cell.value s) (st p) c st') (hm : cell.MoveBy p c m) :
    Race made v₀ (cell.history (ms ++ [m])) (Function.update st p st') (cell.value (h c s).2)
      ∧ ∀ q x, x ∈ cell.valuesOf q (ms ++ [m])
          ↔ ∃ v, Function.update st p st' q = .wrote v x := by
  obtain ⟨hmove, hvalue⟩ := hm
  rw [history_snoc, hmove]
  generalize hst : st p = stp at ha
  cases ha with
  | quiet hq =>
      rw [kind_quiet hq, Option.map_none, Option.toList_none, List.append_nil,
        cell.value_frame c s hq.2, ← hst, Function.update_eq_self]
      refine ⟨hr, fun q x => ?_⟩
      rw [mem_valuesOf_snoc, hvalue, hq.2, hv]
      simp
  | read =>
      rw [kind_read, Option.map_some, Option.toList_some, cell.value_frame _ s cell.written_read]
      refine ⟨hr.read hst, fun q x => ?_⟩
      rw [mem_valuesOf_snoc, hvalue, cell.written_read, hv]
      by_cases hqp : q = p
      · rw [hqp, Function.update_self, hst]
        simp
      · rw [Function.update_of_ne hqp]
        simp
  | @write v m' c hw hmade =>
      rw [kind_write hw, Option.map_some, Option.toList_some, cell.value_write c s m' hw]
      refine ⟨hr.write hst hmade, fun q x => ?_⟩
      rw [mem_valuesOf_snoc, hvalue, hw, hv]
      by_cases hqp : q = p
      · rw [hqp, Function.update_self, hst]
        simp
      · rw [Function.update_of_ne hqp]
        simp [hqp]

/-- **Two calls race.**  At every point of every interleaving of two
read-modify-write calls the cell is as `Race` says. -/
theorem race_run {q : Pool C R σ α β} (hmain : cell.Call (made true) main)
    (hother : cell.Call (made false) other) (hrun : Pool.Run h ⟨main, [other], s⟩ ms q) :
    Racing cell made (cell.value s) ms q := by
  refine hrun.invariant (I := fun ms q => Racing cell made (cell.value s) ms q) ?_ ?_
  · rintro ms ⟨main, others, s'⟩ m r ⟨st, other, hothers, hm, ho, hr, hv⟩ hs
    obtain rfl : others = [other] := hothers
    cases hs with
    | @main c k =>
        obtain ⟨st', ha, hat⟩ := At.next hm s'
        obtain ⟨hrace, hvalues⟩ := hr.advance hv ha (moveBy_main ⟨c, (h c s').1⟩)
        refine ⟨Function.update st true st', other, rfl, ?_, ?_, hrace, hvalues⟩
        · rw [Function.update_self]
          exact hat
        · rw [Function.update_of_ne (by decide)]
          exact ho
    | @other _ _ i c k _ hi =>
        obtain rfl : i = 0 := by
          cases i with
          | zero => rfl
          | succ i => cases hi
        obtain rfl : other = .cmd c k := Option.some.inj hi
        obtain ⟨st', ha, hat⟩ := At.next ho s'
        obtain ⟨hrace, hvalues⟩ := hr.advance hv ha (moveBy_other 0 ⟨c, (h c s').1⟩)
        refine ⟨Function.update st false st', k (h c s').1, rfl, ?_, ?_, hrace, hvalues⟩
        · rw [Function.update_of_ne (by decide)]
          exact hm
        · rw [Function.update_self]
          exact hat
  · refine ⟨fun _ => .unread, other, rfl, hmain, hother, .untouched (fun _ => .inl rfl) ?_, ?_⟩
    · exact fun p => List.not_mem_nil
    · intro p m
      simp [valuesOf]

end Cell

end Interaction
