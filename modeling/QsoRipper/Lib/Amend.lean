/-
QsoRipper/Lib/Amend.lean

Two calls that each read one part of the shared state and later amend it once.
An amendment is a function of what is there when it is made; which function it
is depends on what the call has read.  Nothing holds the part in between.

There are two ways to come second: having read before the other's amendment, or
after it.  `Meets` says of every point of an interleaved run how far both calls
are and what the part has become, `meets_run` proves it.
-/
import QsoRipper.Lib.Pool

namespace Interaction

variable {C : Type} {R : C → Type} {σ V : Type} {α β : Type}

/-- A part of the shared state, with the commands that concern it. -/
structure Slot (h : (c : C) → σ → R c × σ) (V : Type) where
  value : σ → V
  /-- The command that reads the part. -/
  read : C
  isRead : C → Bool
  isRead_iff : ∀ c, isRead c = true ↔ c = read
  answer : V → R read
  answer_read : ∀ s, (h read s).1 = answer (value s)
  /-- What a command makes of the part, if it may change it. -/
  amend : C → Option (V → V)
  amend_read : amend read = none
  value_step : ∀ c s, value (h c s).2 = (amend c).elim (value s) fun f => f (value s)

/-- What a move does with the part. -/
inductive SlotMove where
  | read
  | amend
  deriving DecidableEq

namespace Slot

/-- Where a call stands. -/
inductive Stage (C V : Type) where
  | unread
  | holding (v : V)
  /-- It read `v` and issued the amendment `c`. -/
  | amended (v : V) (c : C)

variable {h : (c : C) → σ → R c × σ} (slot : Slot h V)

/-- A command that does not change the part. -/
def Still (c : C) : Prop := slot.amend c = none

/-- The rest of a call that has read `v`; `said v c` is what it may issue. -/
inductive Holds (said : V → C → Prop) (v : V) : Prog C R α → Prop
  | pure (a : α) : Holds said v (.pure a)
  | still {c : C} {k : R c → Prog C R α} :
      slot.Still c → said v c → (∀ r, Holds said v (k r)) → Holds said v (.cmd c k)
  | amend {c : C} {k : R c → Prog C R α} :
      (slot.amend c).isSome → said v c → (∀ r, (k r).Emits fun c => slot.Still c ∧ said v c) →
      Holds said v (.cmd c k)

/-- A call that reads the part, where it is as `seen`, and then amends it at most
once. -/
inductive Calls (seen : V → Prop) (said : V → C → Prop) : Prog C R α → Prop
  | pure (a : α) : Calls seen said (.pure a)
  | quiet {c : C} {k : R c → Prog C R α} :
      c ≠ slot.read → slot.Still c → (∀ v, said v c) → (∀ r, Calls seen said (k r)) →
      Calls seen said (.cmd c k)
  | read {k : R slot.read → Prog C R α} :
      (∀ v, said v slot.read) → (∀ v, seen v → slot.Holds said v (k (slot.answer v))) →
      Calls seen said (.cmd slot.read k)

/-- The rest of a call, at a stage. -/
def At (seen : V → Prop) (said : V → C → Prop) : Stage C V → Prog C R α → Prop
  | .unread, p => slot.Calls seen said p
  | .holding v, p => slot.Holds said v p
  | .amended v _, p => p.Emits fun c => slot.Still c ∧ said v c

/-- What a call at a stage may have issued. -/
def Stage.Says (said : V → C → Prop) : Stage C V → C → Prop
  | .unread, c => ∀ v, said v c
  | .holding v, c => said v c
  | .amended v _, c => said v c

/-- What a command of a call does to its stage while the part is `u`. -/
inductive Advance (said : V → C → Prop) (u : V) : Stage C V → C → Stage C V → Prop
  | still {st : Stage C V} {c : C} :
      slot.Still c → (st = .unread → c ≠ slot.read) → st.Says said c → Advance said u st c st
  | read : (∀ v, said v slot.read) → Advance said u .unread slot.read (.holding u)
  | amend {v : V} {c : C} :
      (slot.amend c).isSome → said v c → Advance said u (.holding v) c (.amended v c)

variable {slot} {seen : V → Prop} {said : V → C → Prop}

/-- Nothing but still commands. -/
theorem Holds.of_emits {v : V} {p : Prog C R α}
    (hp : p.Emits fun c => slot.Still c ∧ said v c) : slot.Holds said v p := by
  induction p with
  | pure a => exact .pure a
  | cmd c k ih => exact .still hp.1.1 hp.1.2 fun r => ih r (hp.2 r)

/-- Still commands before the rest of a call. -/
theorem Holds.bind {v : V} {p : Prog C R α} {f : α → Prog C R β}
    (hp : p.Emits fun c => slot.Still c ∧ said v c) (hf : ∀ a, slot.Holds said v (f a)) :
    slot.Holds said v (p >>= f) := by
  induction p with
  | pure a => exact hf a
  | cmd c k ih => exact .still hp.1.1 hp.1.2 fun r => ih r (hp.2 r)

/-- A call copes with less. -/
theorem Calls.mono {seen' : V → Prop} (hseen : ∀ v, seen' v → seen v) {p : Prog C R α}
    (hp : slot.Calls seen said p) : slot.Calls seen' said p := by
  induction hp with
  | pure a => exact .pure a
  | quiet hread hq hs _ ih => exact .quiet hread hq hs ih
  | read hs hk => exact .read hs fun v hv => hk v (hseen v hv)

/-- One command of a call. -/
theorem At.next {st : Stage C V} {c : C} {k : R c → Prog C R α} {s : σ}
    (hp : slot.At seen said st (.cmd c k)) (hseen : st = .unread → seen (slot.value s)) :
    ∃ st', slot.Advance said (slot.value s) st c st' ∧ slot.At seen said st' (k (h c s).1) := by
  cases st with
  | unread =>
      cases hp with
      | quiet hread hq hs hk => exact ⟨.unread, .still hq (fun _ => hread) hs, hk _⟩
      | read hs hk =>
          refine ⟨.holding (slot.value s), .read hs, ?_⟩
          rw [slot.answer_read]
          exact hk _ (hseen rfl)
  | holding v =>
      cases hp with
      | still hq hs hk => exact ⟨.holding v, .still hq nofun hs, hk _⟩
      | amend hc hs hk => exact ⟨.amended v c, .amend hc hs, hk _⟩
  | amended v c' => exact ⟨.amended v c', .still hp.1.1 nofun hp.1.2, hp.2 _⟩

/-- What a call has said before, it may have said at the next stage. -/
theorem Advance.keeps {u : V} {st st' : Stage C V} {c c' : C}
    (ha : slot.Advance said u st c st') (hs : st.Says said c') : st'.Says said c' := by
  cases ha with
  | still => exact hs
  | read => exact hs u
  | amend => exact hs

/-- What it says at the step itself. -/
theorem Advance.spoken {u : V} {st st' : Stage C V} {c : C} (ha : slot.Advance said u st c st') :
    st'.Says said c := by
  cases ha with
  | still _ _ hs => exact hs
  | read hs => exact hs u
  | amend _ hs => exact hs

/-! ### The moves of two calls -/

variable (slot)

/-- What the part becomes by a command. -/
def applied (c : C) (v : V) : V := (slot.amend c).elim v fun f => f v

/-- What a command does with the part. -/
def kind (c : C) : Option SlotMove :=
  if slot.isRead c then some .read else (slot.amend c).map fun _ => .amend

/-- What a move does with the part, and whether it is the main program's. -/
def moveOf : Move C R → Option (Bool × SlotMove)
  | .main e => (slot.kind e.1).map (Prod.mk true)
  | .other _ e => (slot.kind e.1).map (Prod.mk false)

/-- The history of the part. -/
def history (ms : List (Move C R)) : List (Bool × SlotMove) := ms.filterMap slot.moveOf

variable {slot}

theorem kind_read : slot.kind slot.read = some .read := if_pos ((slot.isRead_iff _).mpr rfl)

theorem kind_amend {c : C} (hc : (slot.amend c).isSome) : slot.kind c = some .amend := by
  have hread : ¬ slot.isRead c = true := by
    intro hread
    rw [(slot.isRead_iff c).mp hread, slot.amend_read] at hc
    cases hc
  obtain ⟨f, hf⟩ := Option.isSome_iff_exists.mp hc
  rw [kind, if_neg hread, hf, Option.map_some]

/-- A still command reads the part or has nothing to do with it. -/
theorem kind_still {c : C} (hc : slot.Still c) :
    c = slot.read ∧ slot.kind c = some .read ∨ c ≠ slot.read ∧ slot.kind c = none := by
  by_cases hread : c = slot.read
  · exact .inl ⟨hread, hread ▸ kind_read⟩
  · have hnot : ¬ slot.isRead c = true := fun h => hread ((slot.isRead_iff c).mp h)
    refine .inr ⟨hread, ?_⟩
    rw [kind, if_neg hnot, hc, Option.map_none]

/-! ### The meeting -/

/-- A read of one party comes before the amendment of the other. -/
def ReadsBefore (k : List (Bool × SlotMove)) (p : Bool) : Prop :=
  [(p, SlotMove.read), (!p, SlotMove.amend)].Sublist k

/-- The amendment of `p` falls between a read and the amendment of the other. -/
def Straddled (k : List (Bool × SlotMove)) (p : Bool) : Prop :=
  [(!p, SlotMove.read), (p, SlotMove.amend), (!p, SlotMove.amend)].Sublist k

instance (k : List (Bool × SlotMove)) (p : Bool) : Decidable (ReadsBefore k p) :=
  inferInstanceAs (Decidable (List.Sublist _ _))

instance (k : List (Bool × SlotMove)) (p : Bool) : Decidable (Straddled k p) :=
  inferInstanceAs (Decidable (List.Sublist _ _))

section Snoc

variable {κ : Type} {l k : List κ} {a x : κ}

/-- A sublist that ends in something else is there already. -/
theorem snoc_sublist_snoc_of_ne (hne : a ≠ x) : (l ++ [a]).Sublist (k ++ [x]) ↔ (l ++ [a]).Sublist k := by
  refine ⟨fun hsub => ?_, fun hsub => hsub.trans (List.sublist_append_left _ _)⟩
  rw [← List.reverse_sublist, List.reverse_append, List.reverse_append] at hsub
  rcases List.sublist_cons_iff.mp hsub with hsub | ⟨r, hr, -⟩
  · rw [← List.reverse_sublist, List.reverse_append]
    exact hsub
  · cases hr
    exact absurd rfl hne

theorem snoc_sublist_snoc_self : (l ++ [x]).Sublist (k ++ [x]) ↔ l.Sublist k :=
  List.append_sublist_append_right [x]

end Snoc

variable {k : List (Bool × SlotMove)} {p q : Bool}

theorem readsBefore_snoc_of_ne {x : Bool × SlotMove} (hx : (!p, SlotMove.amend) ≠ x) :
    ReadsBefore (k ++ [x]) p ↔ ReadsBefore k p :=
  snoc_sublist_snoc_of_ne (l := [(p, SlotMove.read)]) hx

theorem straddled_snoc_of_ne {x : Bool × SlotMove} (hx : (!p, SlotMove.amend) ≠ x) :
    Straddled (k ++ [x]) p ↔ Straddled k p :=
  snoc_sublist_snoc_of_ne (l := [(!p, SlotMove.read), (p, SlotMove.amend)]) hx

theorem readsBefore_snoc_amend :
    ReadsBefore (k ++ [(!p, .amend)]) p ↔ (p, SlotMove.read) ∈ k :=
  (snoc_sublist_snoc_self (l := [(p, SlotMove.read)])).trans List.singleton_sublist

theorem straddled_snoc_amend : Straddled (k ++ [(!p, .amend)]) p ↔ ReadsBefore k (!p) := by
  rw [ReadsBefore, Bool.not_not]
  exact snoc_sublist_snoc_self (l := [(!p, SlotMove.read), (p, SlotMove.amend)])

variable (slot) in
/-- How the calls and the part stand, after the history `k` from the value `v₀`. -/
inductive Meets (said : Bool → V → C → Prop) (v₀ : V) (k : List (Bool × SlotMove))
    (st : Bool → Stage C V) : V → Prop
  | untouched :
      (∀ p, st p = .unread ∧ (p, SlotMove.read) ∉ k ∨ st p = .holding v₀ ∧ (p, SlotMove.read) ∈ k) →
      (∀ p, (p, SlotMove.amend) ∉ k) → Meets said v₀ k st v₀
  | first (p : Bool) {c : C} :
      st p = .amended v₀ c → said p v₀ c → (p, SlotMove.amend) ∈ k → (!p, SlotMove.amend) ∉ k →
      (st (!p) = .unread ∧ ¬ ReadsBefore k (!p)
        ∨ st (!p) = .holding v₀ ∧ ReadsBefore k (!p)
        ∨ st (!p) = .holding (slot.applied c v₀) ∧ ¬ ReadsBefore k (!p)) →
      Meets said v₀ k st (slot.applied c v₀)
  | second (p : Bool) {c c' : C} {v : V} :
      st p = .amended v₀ c → said p v₀ c → st (!p) = .amended v c' → said (!p) v c' →
      (v = v₀ ∧ Straddled k p ∨ v = slot.applied c v₀ ∧ ¬ Straddled k p) → ¬ Straddled k (!p) →
      Meets said v₀ k st (slot.applied c' (slot.applied c v₀))

variable {said : Bool → V → C → Prop} {v₀ u : V} {st : Bool → Stage C V}

/-- A read that decides nothing: the party has read already. -/
theorem Meets.reread (hm : slot.Meets said v₀ k st u) (hp : st p ≠ .unread) :
    slot.Meets said v₀ (k ++ [(p, .read)]) st u := by
  have hamend (q : Bool) : (q, SlotMove.amend) ∈ k ++ [(p, .read)] ↔ (q, SlotMove.amend) ∈ k := by simp
  have hbefore (q : Bool) : ReadsBefore (k ++ [(p, .read)]) q ↔ ReadsBefore k q :=
    readsBefore_snoc_of_ne nofun
  have hstraddle (q : Bool) : Straddled (k ++ [(p, .read)]) q ↔ Straddled k q :=
    straddled_snoc_of_ne nofun
  cases hm with
  | untouched hst hnone =>
      refine .untouched (fun q => ?_) fun q hq => hnone q ((hamend q).mp hq)
      rcases hst q with ⟨hq, hread⟩ | ⟨hq, hread⟩
      · have hne : q ≠ p := by
          rintro rfl
          exact hp hq
        exact .inl ⟨hq, by simpa [hne] using hread⟩
      · exact .inr ⟨hq, List.mem_append_left _ hread⟩
  | first q hq hsaid hin hnot hother =>
      refine .first q hq hsaid ((hamend q).mpr hin) (fun h => hnot ((hamend _).mp h)) ?_
      rw [hbefore]
      exact hother
  | second q hq hsaid hq' hsaid' hv hs =>
      refine .second q hq hsaid hq' hsaid' ?_ ?_
      · rw [hstraddle]
        exact hv
      · rw [hstraddle]
        exact hs

theorem update_self_ne (hne : q ≠ p) (s : Stage C V) : Function.update st p s q = st q :=
  Function.update_of_ne hne _ _

/-- The read of a party. -/
theorem Meets.read (hm : slot.Meets said v₀ k st u) (hp : st p = .unread) :
    slot.Meets said v₀ (k ++ [(p, .read)]) (Function.update st p (.holding u)) u := by
  have hamend (q : Bool) : (q, SlotMove.amend) ∈ k ++ [(p, .read)] ↔ (q, SlotMove.amend) ∈ k := by simp
  have hbefore (q : Bool) : ReadsBefore (k ++ [(p, .read)]) q ↔ ReadsBefore k q :=
    readsBefore_snoc_of_ne nofun
  cases hm with
  | untouched hst hnone =>
      refine .untouched (fun q => ?_) fun q hq => hnone q ((hamend q).mp hq)
      by_cases hqp : q = p
      · subst hqp
        exact .inr ⟨Function.update_self .., by simp⟩
      · rw [update_self_ne hqp]
        rcases hst q with ⟨hq, hread⟩ | ⟨hq, hread⟩
        · exact .inl ⟨hq, by simpa [hqp] using hread⟩
        · exact .inr ⟨hq, List.mem_append_left _ hread⟩
  | @first q c hq hsaid hin hnot hother =>
      obtain rfl : p = !q := by
        rcases Bool.eq_or_eq_not p q with rfl | rfl
        · rw [hq] at hp
          cases hp
        · rfl
      have hne : q ≠ !q := by cases q <;> decide
      refine .first q ?_ hsaid ((hamend q).mpr hin) (fun h => hnot ((hamend _).mp h)) ?_
      · rw [update_self_ne hne, hq]
      · -- the other has amended already, so this read is not before that
        rw [hbefore, Function.update_self]
        rcases hother with ⟨-, hb⟩ | ⟨hst, -⟩ | ⟨hst, -⟩
        · exact .inr (.inr ⟨rfl, hb⟩)
        · rw [hst] at hp
          cases hp
        · rw [hst] at hp
          cases hp
  | @second q c c' v hq hsaid hq' hsaid' hv hs =>
      rcases Bool.eq_or_eq_not p q with rfl | rfl
      · rw [hq] at hp
        cases hp
      · rw [hq'] at hp
        cases hp

/-- The amendment of a party. -/
theorem Meets.amend (hm : slot.Meets said v₀ k st u) {v : V} {c : C} (hp : st p = .holding v)
    (hsaid : said p v c) :
    slot.Meets said v₀ (k ++ [(p, .amend)]) (Function.update st p (.amended v c))
      (slot.applied c u) := by
  have hself : (!p) ≠ p := by cases p <;> decide
  cases hm with
  | untouched hst hnone =>
      obtain rfl : v = v₀ := by
        rcases hst p with ⟨h, -⟩ | ⟨h, -⟩
        · rw [h] at hp
          cases hp
        · rw [h] at hp
          cases hp
          rfl
      refine .first p (Function.update_self ..) hsaid (by simp) ?_ ?_
      · simp [hnone (!p)]
      · rw [update_self_ne hself]
        have hbefore : ReadsBefore (k ++ [(p, .amend)]) (!p) ↔ (!p, SlotMove.read) ∈ k := by
          have := readsBefore_snoc_amend (k := k) (p := !p)
          rwa [Bool.not_not] at this
        rw [hbefore]
        rcases hst (!p) with ⟨h, hread⟩ | ⟨h, hread⟩
        · exact .inl ⟨h, hread⟩
        · exact .inr (.inl ⟨h, hread⟩)
  | @first q c₁ hq hsaid₁ hin hnot hother =>
      obtain rfl : p = !q := by
        rcases Bool.eq_or_eq_not p q with rfl | rfl
        · rw [hq] at hp
          cases hp
        · rfl
      have hne : q ≠ !q := by cases q <;> decide
      refine .second q (v := v) ?_ hsaid₁ (Function.update_self ..) hsaid ?_ ?_
      · rw [update_self_ne hne, hq]
      · rw [straddled_snoc_amend]
        rcases hother with ⟨h, -⟩ | ⟨h, hb⟩ | ⟨h, hb⟩
        · rw [h] at hp
          cases hp
        · rw [h] at hp
          cases hp
          exact .inl ⟨rfl, hb⟩
        · rw [h] at hp
          cases hp
          exact .inr ⟨rfl, hb⟩
      · -- the first amendment lies before the second
        rw [straddled_snoc_of_ne (by simp)]
        exact fun hsub => hnot (hsub.subset (by simp))
  | @second q c₁ c₂ v' hq _ hq' =>
      rcases Bool.eq_or_eq_not p q with rfl | rfl
      · rw [hq] at hp
        cases hp
      · rw [hq'] at hp
        cases hp

/-! ### Two calls in a pool -/

variable {main : Prog C R α} {other : Prog C R β} {s : σ} {ms : List (Move C R)}

variable (slot) in
/-- The commands of the main program (`true`) or of the other one (`false`). -/
def commands (p : Bool) (ms : List (Move C R)) : List C :=
  ms.filterMap fun
    | .main e => if p then some e.1 else none
    | .other _ e => if p then none else some e.1

/-- What holds at every point of a run of two calls. -/
structure Meeting (slot : Slot h V) (said : Bool → V → C → Prop) (v₀ : V)
    (ms : List (Move C R)) (st : Bool → Stage C V) (u : V) : Prop where
  meets : slot.Meets said v₀ (slot.history ms) st u
  /-- A call has issued an amendment when, and only when, its stage says so. -/
  amended : ∀ p c, c ∈ commands p ms ∧ (slot.amend c).isSome ↔ ∃ v, st p = .amended v c
  spoken : ∀ p, ∀ c ∈ commands p ms, (st p).Says (said p) c

theorem history_snoc (m : Move C R) :
    slot.history (ms ++ [m]) = slot.history ms ++ (slot.moveOf m).toList := by
  rw [history, List.filterMap_append]
  cases hm : slot.moveOf m <;> simp [history, hm]

theorem mem_commands_snoc {c : C} {m : Move C R} :
    c ∈ commands p (ms ++ [m]) ↔ c ∈ commands p ms ∨ c ∈ commands p [m] := by
  rw [commands, List.filterMap_append, List.mem_append]
  exact Iff.rfl

/-- A move of the party `p` by the command `c`. -/
def MoveBy (slot : Slot h V) (p : Bool) (c : C) (m : Move C R) : Prop :=
  slot.moveOf m = (slot.kind c).map (Prod.mk p) ∧ ∀ q c', c' ∈ commands q [m] ↔ q = p ∧ c' = c

theorem moveBy_main (e : Event C R) : slot.MoveBy true e.1 (.main e) := by
  refine ⟨rfl, fun q c' => ?_⟩
  cases q <;> simp [commands]

theorem moveBy_other (i : ℕ) (e : Event C R) : slot.MoveBy false e.1 (.other i e) := by
  refine ⟨rfl, fun q c' => ?_⟩
  cases q <;> simp [commands]

/-- What the part becomes by a command of a call, and how the calls then meet. -/
theorem Meets.advance {k : List (Bool × SlotMove)} {c : C} {st' : Stage C V}
    (hm : slot.Meets said v₀ k st u) (ha : slot.Advance (said p) u (st p) c st') :
    slot.Meets said v₀ (k ++ ((slot.kind c).map (Prod.mk p)).toList) (Function.update st p st')
      (slot.applied c u) := by
  generalize hst : st p = stp at ha
  cases ha with
  | still hc hread =>
      have happ : slot.applied c u = u := by rw [applied, hc, Option.elim_none]
      rw [happ, ← hst, Function.update_eq_self]
      rcases kind_still hc with ⟨heq, hkind⟩ | ⟨-, hkind⟩
      · rw [hkind, Option.map_some, Option.toList_some]
        exact hm.reread fun h => hread (hst ▸ h) heq
      · rw [hkind, Option.map_none, Option.toList_none, List.append_nil]
        exact hm
  | read =>
      rw [kind_read, Option.map_some, Option.toList_some, applied, slot.amend_read,
        Option.elim_none]
      exact hm.read hst
  | amend hc hsaid =>
      rw [kind_amend hc, Option.map_some, Option.toList_some]
      exact hm.amend hst hsaid

/-- **One move of a call.** -/
theorem Meeting.advance {c : C} {m : Move C R} {st' : Stage C V}
    (hmeet : Meeting slot said v₀ ms st u) (ha : slot.Advance (said p) u (st p) c st')
    (hm : slot.MoveBy p c m) :
    Meeting slot said v₀ (ms ++ [m]) (Function.update st p st') (slot.applied c u) where
  meets := by
    rw [history_snoc, hm.1]
    exact hmeet.meets.advance ha
  amended := by
    intro q c'
    rw [mem_commands_snoc, hm.2]
    have hbefore := hmeet.amended q c'
    by_cases hqp : q = p
    · subst hqp
      rw [Function.update_self]
      generalize st q = stq at ha hbefore
      cases ha with
      | still hc =>
          rw [← hbefore]
          -- a still command is not an amendment
          have hnot : ¬ (slot.amend c).isSome = true := by
            rw [hc]
            nofun
          constructor
          · rintro ⟨hin | ⟨-, rfl⟩, hsome⟩
            · exact ⟨hin, hsome⟩
            · exact absurd hsome hnot
          · rintro ⟨hin, hsome⟩
            exact ⟨.inl hin, hsome⟩
      | read =>
          have hnone : ¬ (c' ∈ commands q ms ∧ (slot.amend c').isSome) := by
            intro hc'
            obtain ⟨v, hv⟩ := hbefore.mp hc'
            cases hv
          constructor
          · rintro ⟨hin | ⟨-, rfl⟩, hsome⟩
            · exact absurd ⟨hin, hsome⟩ hnone
            · rw [slot.amend_read] at hsome
              cases hsome
          · rintro ⟨v, hv⟩
            cases hv
      | @amend v c hc =>
          have hnone : ¬ (c' ∈ commands q ms ∧ (slot.amend c').isSome) := by
            intro hc'
            obtain ⟨v, hv⟩ := hbefore.mp hc'
            cases hv
          constructor
          · rintro ⟨hin | ⟨-, rfl⟩, hsome⟩
            · exact absurd ⟨hin, hsome⟩ hnone
            · exact ⟨v, rfl⟩
          · rintro ⟨v', hv⟩
            cases hv
            exact ⟨.inr ⟨rfl, rfl⟩, hc⟩
    · rw [Function.update_of_ne hqp, ← hbefore]
      simp [hqp]
  spoken := by
    intro q c' hc'
    rw [mem_commands_snoc, hm.2] at hc'
    by_cases hqp : q = p
    · subst hqp
      rw [Function.update_self]
      rcases hc' with hin | ⟨-, rfl⟩
      · exact ha.keeps (hmeet.spoken q c' hin)
      · exact ha.spoken
    · rw [Function.update_of_ne hqp]
      rcases hc' with hin | ⟨hq, -⟩
      · exact hmeet.spoken q c' hin
      · exact absurd hq hqp

/-- A call that has still to read finds the part as it was, or as the other has
left it. -/
theorem Meets.unread {k : List (Bool × SlotMove)} (hm : slot.Meets said v₀ k st u)
    (hp : st p = .unread) : u = v₀ ∨ ∃ c, said (!p) v₀ c ∧ u = slot.applied c v₀ := by
  cases hm with
  | untouched => exact .inl rfl
  | @first q c hq hsaid =>
      obtain rfl : q = !p := by
        rcases Bool.eq_or_eq_not q p with rfl | rfl
        · rw [hq] at hp
          cases hp
        · rfl
      exact .inr ⟨c, hsaid, rfl⟩
  | @second q c c' v hq _ hq' =>
      rcases Bool.eq_or_eq_not p q with rfl | rfl
      · rw [hq] at hp
        cases hp
      · rw [hq'] at hp
        cases hp

/-- **Two calls meet.**  At every point of every interleaving of two calls the
part is as `Meets` says. -/
theorem meets_run {seen : Bool → V → Prop} {q : Pool C R σ α β}
    (hmain : slot.Calls (seen true) (said true) main)
    (hother : slot.Calls (seen false) (said false) other)
    (hseen : ∀ p, seen p (slot.value s))
    (hafter : ∀ p c, said (!p) (slot.value s) c → seen p (slot.applied c (slot.value s)))
    (hrun : Pool.Run h ⟨main, [other], s⟩ ms q) :
    ∃ st, Meeting slot said (slot.value s) ms st (slot.value q.state) := by
  -- the calls stand where their stages say, all along the run
  suffices hall : ∃ (st : Bool → Stage C V) (other : Prog C R β), q.others = [other]
      ∧ slot.At (seen true) (said true) (st true) q.main
      ∧ slot.At (seen false) (said false) (st false) other
      ∧ Meeting slot said (slot.value s) ms st (slot.value q.state) by
    obtain ⟨st, -, -, -, -, hmeet⟩ := hall
    exact ⟨st, hmeet⟩
  refine hrun.invariant (I := fun ms q => ∃ (st : Bool → Stage C V) (other : Prog C R β),
    q.others = [other] ∧ slot.At (seen true) (said true) (st true) q.main
      ∧ slot.At (seen false) (said false) (st false) other
      ∧ Meeting slot said (slot.value s) ms st (slot.value q.state)) ?_ ?_
  · rintro ms ⟨main, others, s'⟩ m r ⟨st, other, hothers, hm, ho, hmeet⟩ hs
    obtain rfl : others = [other] := hothers
    have hread (p : Bool) (hp : st p = .unread) : seen p (slot.value s') := by
      rcases hmeet.meets.unread hp with heq | ⟨c, hc, heq⟩
      · exact heq ▸ hseen p
      · exact heq ▸ hafter p c hc
    cases hs with
    | @main c k =>
        obtain ⟨st', ha, hat⟩ := At.next hm (hread true)
        refine ⟨Function.update st true st', other, rfl, ?_, ?_, ?_⟩
        · rw [Function.update_self]
          exact hat
        · rw [Function.update_of_ne (by decide)]
          exact ho
        · rw [slot.value_step]
          exact hmeet.advance ha (moveBy_main ⟨c, (h c s').1⟩)
    | @other _ _ i c k _ hi =>
        obtain rfl : i = 0 := by
          cases i with
          | zero => rfl
          | succ i => cases hi
        obtain rfl : other = .cmd c k := Option.some.inj hi
        obtain ⟨st', ha, hat⟩ := At.next ho (hread false)
        refine ⟨Function.update st false st', k (h c s').1, rfl, ?_, ?_, ?_⟩
        · rw [Function.update_of_ne (by decide)]
          exact hm
        · rw [Function.update_self]
          exact hat
        · rw [slot.value_step]
          exact hmeet.advance ha (moveBy_other 0 ⟨c, (h c s').1⟩)
  · have hstart : slot.Meets said (slot.value s) [] (fun _ => .unread) (slot.value s) :=
      .untouched (fun _ => .inl ⟨rfl, List.not_mem_nil⟩) fun _ => List.not_mem_nil
    exact ⟨fun _ => .unread, other, rfl, hmain, hother, hstart, by simp [commands], nofun⟩

end Slot

end Interaction
