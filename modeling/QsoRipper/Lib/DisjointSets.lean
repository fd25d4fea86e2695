/-
QsoRipper/Lib/DisjointSets.lean

Disjoint sets in a list of parents, with path compression and without ranks.

A number leads to its root by following parents; a number outside the list is
its own root.  Parents go down in some depth, so a walk meets no number twice
and ends within as many steps as there are numbers.  Compression leaves all
roots as they are, and a union gives the right class the root of the left one.
So after any number of unions two numbers have one root iff the unions connect
them.
-/
import Mathlib.Data.Finset.Card
import Mathlib.Data.Finset.Range
import Mathlib.Logic.Relation

namespace DisjointSets

/-! ### The operations -/

/-- Follow the parents to the root and point everything on the way at it. -/
def findLoop : ℕ → List ℕ → ℕ → ℕ × List ℕ
  | 0, parent, index => (index, parent)
  | fuel + 1, parent, index =>
      match parent[index]? with
      | none => (index, parent)
      | some next =>
          if next = index then (index, parent)
          else
            let (root, parent) := findLoop fuel parent next
            (root, parent.set index root)

/-- The root of a number, and the compressed parents. -/
def find (parent : List ℕ) (index : ℕ) : ℕ × List ℕ := findLoop parent.length parent index

/-- Unite two classes. -/
def union (parent : List ℕ) (left right : ℕ) : List ℕ :=
  let (leftRoot, parent) := find parent left
  let (rightRoot, parent) := find parent right
  if leftRoot ≠ rightRoot then parent.set rightRoot leftRoot else parent

/-- The root of a number. -/
def rootOf (parent : List ℕ) (index : ℕ) : ℕ := (find parent index).1

/-! ### Walks -/

/-- The second is the parent of the first, which is no root. -/
def Step (p : List ℕ) (i j : ℕ) : Prop := p[i]? = some j ∧ j ≠ i

/-- A walk from the number ends in the root. -/
def Leads (p : List ℕ) (i r : ℕ) : Prop := Relation.ReflTransGen (Step p) i r ∧ p[r]? = some r

/-- Parents are in the list and lie deeper. -/
structure Descends (p : List ℕ) (depth : ℕ → ℕ) : Prop where
  lt : ∀ i j : ℕ, p[i]? = some j → j < p.length
  deeper : ∀ i j : ℕ, Step p i j → depth j < depth i

/-- The parents make a forest. -/
def IsForest (p : List ℕ) : Prop := ∃ depth, Descends p depth

section Walks

variable {p p' : List ℕ} {depth : ℕ → ℕ} {i j k r s left right : ℕ}

theorem Step.unique (h : Step p i j) (h' : Step p i k) : j = k := by
  have heq : some j = some k := h.1.symm.trans h'.1
  simpa using heq

theorem not_step_of_root (h : p[i]? = some i) : ¬ Step p i j := by
  rintro ⟨hj, hne⟩
  rw [h] at hj
  exact hne (Option.some.inj hj).symm

/-- A root leads to itself. -/
theorem Leads.refl (h : p[r]? = some r) : Leads p r r := ⟨.refl, h⟩

theorem Leads.head (h : Step p i j) (h' : Leads p j r) : Leads p i r :=
  ⟨.head h h'.1, h'.2⟩

/-- Only to itself. -/
theorem Leads.eq_of_root (h : Leads p i r) (hroot : p[i]? = some i) : r = i := by
  rcases h.1.cases_head with heq | ⟨j, hstep, -⟩
  · exact heq.symm
  · exact absurd hstep (not_step_of_root hroot)

theorem Leads.of_step (h : Leads p i r) (hstep : Step p i j) : Leads p j r := by
  rcases h.1.cases_head with heq | ⟨k, hstep', hrest⟩
  · subst heq
    exact absurd hstep (not_step_of_root h.2)
  · obtain rfl := hstep.unique hstep'
    exact ⟨hrest, h.2⟩

/-- There is one root. -/
theorem Leads.unique (h : Leads p i r) (h' : Leads p i s) : r = s := by
  obtain ⟨hwalk, hroot⟩ := h
  induction hwalk using Relation.ReflTransGen.head_induction_on with
  | refl => exact (h'.eq_of_root hroot).symm
  | head hstep _ ih => exact ih (h'.of_step hstep)

theorem Leads.lt (h : Leads p i r) : i < p.length := by
  rcases h.1.cases_head with heq | ⟨j, hstep, -⟩
  · subst heq
    exact (List.getElem?_eq_some_iff.mp h.2).1
  · exact (List.getElem?_eq_some_iff.mp hstep.1).1

theorem Leads.root_lt (h : Leads p i r) : r < p.length :=
  (List.getElem?_eq_some_iff.mp h.2).1

/-- A walk goes down. -/
theorem Leads.depth_le (hd : Descends p depth) (h : Leads p i r) : depth r ≤ depth i := by
  obtain ⟨hwalk, hroot⟩ := h
  induction hwalk using Relation.ReflTransGen.head_induction_on with
  | refl => exact le_refl _
  | head hstep _ ih => exact ih.trans (hd.deeper _ _ hstep).le

/-- Every number of a forest leads to a root. -/
theorem Descends.exists_leads (hd : Descends p depth) (hi : i < p.length) :
    ∃ r, Leads p i r := by
  induction hdepth : depth i using Nat.strong_induction_on generalizing i with
  | _ d ih =>
      obtain ⟨j, hj⟩ : ∃ j, p[i]? = some j := ⟨p[i], List.getElem?_eq_getElem hi⟩
      by_cases hne : j = i
      · subst hne
        exact ⟨j, .refl hj⟩
      · have hstep : Step p i j := ⟨hj, hne⟩
        have hdeeper := hd.deeper i j hstep
        rw [hdepth] at hdeeper
        obtain ⟨r, hr⟩ := ih (depth j) hdeeper (hd.lt i j hj) rfl
        exact ⟨r, hr.head hstep⟩

/-! ### Writing a parent -/

theorem Step.set_of_ne {v : ℕ} (h : Step p i j) (hne : k ≠ i) : Step (p.set k v) i j := by
  obtain ⟨hj, hij⟩ := h
  exact ⟨by rw [List.getElem?_set_ne hne, hj], hij⟩

/-- Pointing a number at its root leaves all roots as they are. -/
theorem Leads.compress (hi : Leads p i r) (hne : i ≠ r) (h : Leads p j s) :
    Leads (p.set i r) j s := by
  have hroot : (p.set i r)[r]? = some r := by rw [List.getElem?_set_ne hne, hi.2]
  have hjump : Step (p.set i r) i r := ⟨List.getElem?_set_self hi.lt, hne.symm⟩
  obtain ⟨hwalk, hs⟩ := h
  induction hwalk using Relation.ReflTransGen.head_induction_on with
  | refl =>
      have his : i ≠ s := by
        rintro rfl
        exact hne (hi.eq_of_root hs).symm
      exact .refl (by rw [List.getElem?_set_ne his, hs])
  | @head a b hstep hrest ih =>
      by_cases ha : i = a
      · subst ha
        obtain rfl : r = s := hi.unique ⟨.head hstep hrest, hs⟩
        exact (Leads.refl hroot).head hjump
      · exact ih.head (hstep.set_of_ne ha)

theorem Descends.compress (hd : Descends p depth) (hi : Leads p i r) (hne : i ≠ r) :
    Descends (p.set i r) depth := by
  have hstrict : depth r < depth i := by
    rcases hi.1.cases_head with heq | ⟨j, hstep, hrest⟩
    · exact absurd heq hne
    · exact (Leads.depth_le hd ⟨hrest, hi.2⟩).trans_lt (hd.deeper _ _ hstep)
  constructor
  · intro a b hab
    rw [List.length_set]
    by_cases ha : i = a
    · subst ha
      rw [List.getElem?_set_self hi.lt] at hab
      obtain rfl := Option.some.inj hab
      exact hi.root_lt
    · rw [List.getElem?_set_ne ha] at hab
      exact hd.lt a b hab
  · rintro a b ⟨hab, hba⟩
    by_cases ha : i = a
    · subst ha
      rw [List.getElem?_set_self hi.lt] at hab
      obtain rfl := Option.some.inj hab
      exact hstrict
    · rw [List.getElem?_set_ne ha] at hab
      exact hd.deeper a b ⟨hab, hba⟩

/-- Numbers that lie higher than `i` and have not been left behind do not fill the list. -/
theorem card_lt_of_higher {above : Finset ℕ} (hi : i < p.length)
    (habove : ∀ a ∈ above, a < p.length ∧ depth i < depth a) : above.card < p.length := by
  have hnew : i ∉ above := fun hmem => lt_irrefl _ (habove i hmem).2
  have hsubset : insert i above ⊆ Finset.range p.length := by
    intro a ha
    rcases Finset.mem_insert.mp ha with rfl | hmem
    · exact Finset.mem_range.mpr hi
    · exact Finset.mem_range.mpr (habove a hmem).1
  have hcard := Finset.card_le_card hsubset
  rw [Finset.card_insert_of_notMem hnew, Finset.card_range] at hcard
  exact hcard

/-- What `find` does to the parents. -/
structure Finds (p : List ℕ) (depth : ℕ → ℕ) (i : ℕ) (o : ℕ × List ℕ) : Prop where
  leads : Leads p i o.1
  length : o.2.length = p.length
  descends : Descends o.2 depth
  keeps : ∀ j s, Leads p j s → Leads o.2 j s

/-- **The loop.**  The numbers already passed lie above and leave enough fuel. -/
theorem findLoop_finds {fuel : ℕ} {above : Finset ℕ} (hd : Descends p depth) (hi : i < p.length)
    (habove : ∀ a ∈ above, a < p.length ∧ depth i < depth a)
    (hfuel : p.length ≤ fuel + above.card) : Finds p depth i (findLoop fuel p i) := by
  induction fuel generalizing i above with
  | zero =>
      have hcard := card_lt_of_higher hi habove
      omega
  | succ fuel ih =>
      obtain ⟨next, hnext⟩ : ∃ next, p[i]? = some next := ⟨p[i], List.getElem?_eq_getElem hi⟩
      rw [findLoop, hnext]
      dsimp only
      split
      · rename_i hroot
        subst hroot
        exact ⟨.refl hnext, rfl, hd, fun _ _ h => h⟩
      · rename_i hne
        have hstep : Step p i next := ⟨hnext, hne⟩
        have hdeeper := hd.deeper i next hstep
        have habove' : ∀ a ∈ insert i above, a < p.length ∧ depth next < depth a := by
          intro a ha
          rcases Finset.mem_insert.mp ha with rfl | hmem
          · exact ⟨hi, hdeeper⟩
          · exact ⟨(habove a hmem).1, hdeeper.trans (habove a hmem).2⟩
        have hnew : i ∉ above := fun hmem => lt_irrefl _ (habove i hmem).2
        have hfuel' : p.length ≤ fuel + (insert i above).card := by
          rw [Finset.card_insert_of_notMem hnew]
          omega
        obtain ⟨hleads, hlength, hdescends, hkeeps⟩ := ih (hd.lt i next hnext) habove' hfuel'
        generalize findLoop fuel p next = o at hleads hlength hdescends hkeeps ⊢
        obtain ⟨root, p₁⟩ := o
        dsimp only at hleads hlength hdescends hkeeps ⊢
        have hi₁ : Leads p₁ i root := hkeeps i root (hleads.head hstep)
        have hroot : i ≠ root := by
          rintro rfl
          exact not_step_of_root hleads.2 hstep
        refine ⟨hleads.head hstep, ?_, hdescends.compress hi₁ hroot, fun j s h => ?_⟩
        · rw [List.length_set, hlength]
        · exact hi₁.compress hroot (hkeeps j s h)

/-- `find` has enough fuel. -/
theorem find_finds (hd : Descends p depth) (hi : i < p.length) :
    Finds p depth i (find p i) := by
  have habove : ∀ a ∈ (∅ : Finset ℕ), a < p.length ∧ depth i < depth a :=
    fun a ha => absurd ha (Finset.notMem_empty a)
  exact findLoop_finds hd hi habove (by rw [Finset.card_empty, Nat.add_zero])

/-- A number outside the list is its own root. -/
theorem find_of_le (hi : p.length ≤ i) : find p i = (i, p) := by
  rw [find]
  cases hfuel : p.length with
  | zero => rfl
  | succ fuel => rw [findLoop, List.getElem?_eq_none hi]

theorem rootOf_of_le (hi : p.length ≤ i) : rootOf p i = i := by
  rw [rootOf, find_of_le hi]

theorem leads_rootOf (hp : IsForest p) (hi : i < p.length) : Leads p i (rootOf p i) := by
  obtain ⟨depth, hd⟩ := hp
  exact (find_finds hd hi).leads

theorem Leads.rootOf_eq (hp : IsForest p) (h : Leads p i r) : rootOf p i = r :=
  (leads_rootOf hp h.lt).unique h

theorem rootOf_lt (hp : IsForest p) (hi : i < p.length) : rootOf p i < p.length :=
  (leads_rootOf hp hi).root_lt

/-- Where all walks end alike, all roots are alike. -/
theorem rootOf_congr (hp : IsForest p) (hp' : IsForest p') (hlength : p'.length = p.length)
    (hkeeps : ∀ j s, Leads p j s → Leads p' j s) (j : ℕ) : rootOf p' j = rootOf p j := by
  by_cases hj : j < p.length
  · exact (hkeeps j _ (leads_rootOf hp hj)).rootOf_eq hp'
  · rw [rootOf_of_le (le_of_not_gt hj), rootOf_of_le (hlength ▸ le_of_not_gt hj)]

/-- **Finding changes no root.** -/
theorem find_spec (hp : IsForest p) (i : ℕ) :
    IsForest (find p i).2 ∧ (find p i).2.length = p.length
      ∧ ∀ j, rootOf (find p i).2 j = rootOf p j := by
  by_cases hi : i < p.length
  · obtain ⟨depth, hd⟩ := hp
    obtain ⟨-, hlength, hdescends, hkeeps⟩ := find_finds hd hi
    exact ⟨⟨depth, hdescends⟩, hlength, rootOf_congr ⟨depth, hd⟩ ⟨depth, hdescends⟩ hlength hkeeps⟩
  · rw [find_of_le (le_of_not_gt hi)]
    exact ⟨hp, rfl, fun _ => rfl⟩

/-! ### Unions -/

/-- Hanging a root under another moves its class there. -/
theorem Leads.attach (hleft : p[left]? = some left) (hright : p[right]? = some right)
    (hne : left ≠ right) (h : Leads p j s) :
    Leads (p.set right left) j (if s = right then left else s) := by
  have hlt : right < p.length := (List.getElem?_eq_some_iff.mp hright).1
  have hroot : (p.set right left)[left]? = some left := by
    rw [List.getElem?_set_ne hne.symm, hleft]
  have hjump : Step (p.set right left) right left := ⟨List.getElem?_set_self hlt, hne⟩
  obtain ⟨hwalk, hs⟩ := h
  induction hwalk using Relation.ReflTransGen.head_induction_on with
  | refl =>
      by_cases hsr : s = right
      · rw [if_pos hsr, hsr]
        exact (Leads.refl hroot).head hjump
      · rw [if_neg hsr]
        exact .refl (by rw [List.getElem?_set_ne (Ne.symm hsr), hs])
  | @head a b hstep hrest ih =>
      have ha : right ≠ a := by
        rintro rfl
        exact not_step_of_root hright hstep
      exact ih.head (hstep.set_of_ne ha)

open Classical in
/-- The depths after a union: what hangs under the right root goes down. -/
noncomputable def attachedDepth (p : List ℕ) (depth : ℕ → ℕ) (left right : ℕ) (i : ℕ) : ℕ :=
  if Leads p i right then depth i + depth left + 1 else depth i

theorem Descends.attach (hd : Descends p depth) (hleft : p[left]? = some left)
    (hright : p[right]? = some right) (hne : left ≠ right) :
    Descends (p.set right left) (attachedDepth p depth left right) := by
  have hlt : right < p.length := (List.getElem?_eq_some_iff.mp hright).1
  constructor
  · intro a b hab
    rw [List.length_set]
    by_cases ha : right = a
    · subst ha
      rw [List.getElem?_set_self hlt] at hab
      obtain rfl := Option.some.inj hab
      exact (List.getElem?_eq_some_iff.mp hleft).1
    · rw [List.getElem?_set_ne ha] at hab
      exact hd.lt a b hab
  · rintro a b ⟨hab, hba⟩
    by_cases ha : right = a
    · -- the new edge, from the right root to the left one
      subst ha
      rw [List.getElem?_set_self hlt] at hab
      obtain rfl := Option.some.inj hab
      have hnot : ¬ Leads p left right := fun h => hne (h.eq_of_root hleft).symm
      rw [attachedDepth, attachedDepth, if_neg hnot, if_pos (Leads.refl hright)]
      omega
    · -- an old edge: both ends lead to the same root
      rw [List.getElem?_set_ne ha] at hab
      have hstep : Step p a b := ⟨hab, hba⟩
      have hdeeper := hd.deeper a b hstep
      have hboth : Leads p a right ↔ Leads p b right :=
        ⟨fun h => h.of_step hstep, fun h => h.head hstep⟩
      rw [attachedDepth, attachedDepth]
      by_cases hb : Leads p b right
      · rw [if_pos hb, if_pos (hboth.mpr hb)]
        omega
      · rw [if_neg hb, if_neg (fun h => hb (hboth.mp h))]
        exact hdeeper

/-- **A union** gives the right class the root of the left one. -/
theorem union_spec (hp : IsForest p) (hl : left < p.length) (hr : right < p.length) :
    IsForest (union p left right) ∧ (union p left right).length = p.length
      ∧ ∀ j, rootOf (union p left right) j
          = if rootOf p j = rootOf p right then rootOf p left else rootOf p j := by
  have hfirst := find_spec hp left
  have hleftRoot : (find p left).1 = rootOf p left := rfl
  rw [union]
  generalize find p left = o at hfirst hleftRoot ⊢
  obtain ⟨leftRoot, p₁⟩ := o
  obtain ⟨hp₁, hlength₁, hroots₁⟩ := hfirst
  dsimp only at hp₁ hlength₁ hroots₁ hleftRoot ⊢
  have hsecond := find_spec hp₁ right
  have hrightRoot : (find p₁ right).1 = rootOf p right := hroots₁ right
  generalize find p₁ right = o at hsecond hrightRoot ⊢
  obtain ⟨rightRoot, p₂⟩ := o
  obtain ⟨hp₂, hlength₂, hroots₂⟩ := hsecond
  dsimp only at hp₂ hlength₂ hroots₂ hrightRoot ⊢
  have hlength : p₂.length = p.length := hlength₂.trans hlength₁
  have hroots : ∀ j, rootOf p₂ j = rootOf p j := fun j => (hroots₂ j).trans (hroots₁ j)
  rw [hleftRoot, hrightRoot]
  by_cases hsame : rootOf p left = rootOf p right
  · rw [if_neg (not_not_intro hsame)]
    refine ⟨hp₂, hlength, fun j => ?_⟩
    rw [hroots]
    split
    · rename_i hj
      exact hj.trans hsame.symm
    · rfl
  · rw [if_pos hsame]
    have hleft : Leads p₂ left (rootOf p left) := by
      rw [← hroots left]
      exact leads_rootOf hp₂ (hlength ▸ hl)
    have hright : Leads p₂ right (rootOf p right) := by
      rw [← hroots right]
      exact leads_rootOf hp₂ (hlength ▸ hr)
    obtain ⟨depth, hd⟩ := hp₂
    have hd' := hd.attach hleft.2 hright.2 hsame
    refine ⟨⟨_, hd'⟩, by rw [List.length_set, hlength], fun j => ?_⟩
    by_cases hj : j < p.length
    · have hleads : Leads p₂ j (rootOf p j) := by
        rw [← hroots j]
        exact leads_rootOf ⟨depth, hd⟩ (hlength ▸ hj)
      exact (hleads.attach hleft.2 hright.2 hsame).rootOf_eq ⟨_, hd'⟩
    · have hout : rootOf p j = j := rootOf_of_le (le_of_not_gt hj)
      have hin := rootOf_lt hp hr
      rw [rootOf_of_le (by rw [List.length_set, hlength]; exact le_of_not_gt hj), hout,
        if_neg (by omega)]

end Walks

/-! ### The classes -/

open Relation

/-- Everything on its own. -/
theorem range_isForest (n : ℕ) : IsForest (List.range n) := by
  have hroot : ∀ i j, (List.range n)[i]? = some j → i < n ∧ j = i := by
    intro i j hij
    obtain ⟨hi, hj⟩ := List.getElem?_eq_some_iff.mp hij
    rw [List.getElem_range] at hj
    exact ⟨by simpa using hi, hj.symm⟩
  refine ⟨id, fun i j hij => ?_, fun i j hstep => ?_⟩
  · obtain ⟨hi, rfl⟩ := hroot i j hij
    simpa using hi
  · exact absurd (hroot i j hstep.1).2 hstep.2

theorem rootOf_range (n i : ℕ) : rootOf (List.range n) i = i := by
  by_cases hi : i < n
  · have hself : (List.range n)[i]? = some i := List.getElem?_range hi
    exact (Leads.refl hself).rootOf_eq (range_isForest n)
  · exact rootOf_of_le (by simpa using hi)

/-- One more pair: the roots change as the classes do. -/
theorem eqvGen_insert_iff {α β : Type*} [DecidableEq β] {E E' : α → α → Prop} {root : α → β}
    {l r : α} (hE' : ∀ a b, E' a b ↔ E a b ∨ a = l ∧ b = r)
    (h : ∀ i j, EqvGen E i j ↔ root i = root j) (i j : α) :
    EqvGen E' i j ↔ (if root i = root r then root l else root i)
      = (if root j = root r then root l else root j) := by
  have hold : ∀ {a b}, root a = root b → EqvGen E' a b := by
    intro a b hab
    exact EqvGen.mono (fun a b he => (hE' a b).mpr (.inl he)) a b ((h a b).mpr hab)
  have hnew : EqvGen E' l r := .rel l r ((hE' l r).mpr (.inr ⟨rfl, rfl⟩))
  constructor
  · intro hij
    induction hij with
    | rel a b hab =>
        rcases (hE' a b).mp hab with he | ⟨rfl, rfl⟩
        · rw [(h a b).mp (.rel a b he)]
        · rw [if_pos rfl]
          split
          · rfl
          · rfl
    | refl a => rfl
    | symm a b _ ih => exact ih.symm
    | trans a b c _ _ ih ih' => exact ih.trans ih'
  · intro hij
    split at hij
    · rename_i hi
      split at hij
      · rename_i hj
        exact hold (hi.trans hj.symm)
      · exact ((hold hi).trans _ _ _ (hnew.symm _ _)).trans _ _ _ (hold hij)
    · split at hij
      · rename_i hj
        exact ((hold hij).trans _ _ _ hnew).trans _ _ _ (hold hj.symm)
      · exact hold hij

/-- Unions of the pairs, one after the other. -/
def unions (parent : List ℕ) (pairs : List (ℕ × ℕ)) : List ℕ :=
  pairs.foldl (fun parent pair => union parent pair.1 pair.2) parent

/-- **After the unions two numbers have one root iff the pairs connect them.** -/
theorem unions_spec (n : ℕ) {pairs : List (ℕ × ℕ)} (h : ∀ e ∈ pairs, e.1 < n ∧ e.2 < n) :
    IsForest (unions (List.range n) pairs) ∧ (unions (List.range n) pairs).length = n
      ∧ ∀ i j, EqvGen (fun a b => (a, b) ∈ pairs) i j
          ↔ rootOf (unions (List.range n) pairs) i = rootOf (unions (List.range n) pairs) j := by
  induction pairs using List.reverseRecOn with
  | nil =>
      refine ⟨range_isForest n, List.length_range, fun i j => ?_⟩
      show _ ↔ rootOf (List.range n) i = rootOf (List.range n) j
      rw [rootOf_range, rootOf_range]
      constructor
      · intro hij
        induction hij with
        | rel a b hab => exact absurd hab List.not_mem_nil
        | refl a => rfl
        | symm a b _ ih => exact ih.symm
        | trans a b c _ _ ih ih' => exact ih.trans ih'
      · rintro rfl
        exact .refl i
  | append_singleton pairs pair ih =>
      obtain ⟨left, right⟩ := pair
      obtain ⟨hp, hlength, hclasses⟩ := ih fun e he => h e (List.mem_append_left _ he)
      obtain ⟨hl, hr⟩ := h (left, right) (List.mem_append_right _ (List.mem_singleton_self _))
      have hone : unions (List.range n) (pairs ++ [(left, right)])
          = union (unions (List.range n) pairs) left right := by
        rw [unions, List.foldl_append]
        rfl
      rw [hone]
      obtain ⟨hp', hlength', hroots⟩ := union_spec hp (hlength ▸ hl) (hlength ▸ hr)
      refine ⟨hp', hlength'.trans hlength, fun i j => ?_⟩
      rw [hroots, hroots]
      apply eqvGen_insert_iff _ hclasses
      intro a b
      rw [List.mem_append, List.mem_singleton, Prod.mk.injEq]

end DisjointSets
