/-
QsoRipper/Server/PurgeChains.lean

Which rows the purge of duplicates drops.  The clusters are the classes of rows
that chains of matches connect, and the keeper of a cluster is its best row, so
the losers can be told from the rows alone: in whatever order the rows come and
the hash maps give their entries, a row is a loser iff the best row at the end
of its chains is clearly better.

A loser matches its keeper in every case iff no chain leads from a best row to
a row that is clearly worse and does not match it.
-/
import QsoRipper.Server.PurgeDuplicates

namespace QsoRipper.PurgeDuplicates

open Relation

/-! ### The order of the rows -/

instance : Std.TransCmp RowScore.cmp := by
  unfold RowScore.cmp
  infer_instance

instance : Std.TransCmp fun left right : QsoRecord => (score right).cmp (score left) where
  eq_swap := Std.OrientedCmp.eq_swap
  isLE_trans h h' := Std.TransCmp.isLE_trans h' h

instance : Std.TransCmp compareRows := by
  unfold compareRows
  infer_instance

/-- The order of the sort. -/
def Precedes (left right : QsoRecord) : Prop := (compareRows left right).isLE = true

instance : DecidableRel Precedes := fun _ _ => inferInstanceAs (Decidable (_ = true))

instance : IsTrans QsoRecord Precedes := ⟨fun _ _ _ h h' => Std.TransCmp.isLE_trans h h'⟩

instance : Std.Total Precedes := ⟨fun left right => by
  have hswap : compareRows right left = (compareRows left right).swap := Std.OrientedCmp.eq_swap
  rw [Precedes, Precedes, hswap]
  cases compareRows left right <;> simp⟩

/-- Rows that tie have one local id. -/
theorem localId_eq_of_precedes {left right : QsoRecord} (h : Precedes left right)
    (h' : Precedes right left) : left.localId = right.localId := by
  have heq : compareRows left right = .eq := Std.OrientedCmp.isLE_antisymm h h'
  rw [compareRows, compareLex_eq_eq, compareLex_eq_eq] at heq
  exact Std.LawfulEqOrd.eq_of_compare heq.2.2

/-! ### Matching goes both ways -/

variable {qsos : List QsoRecord} {options : Options} {order : HashOrder} {window : ℤ}
  {a b k r : QsoRecord}

theorem timestampDeltaMs_comm (a b : QsoRecord) : timestampDeltaMs a b = timestampDeltaMs b a := by
  rw [timestampDeltaMs, timestampDeltaMs]
  cases timestampToMs a.utcTimestamp with
  | none => cases timestampToMs b.utcTimestamp <;> rfl
  | some left =>
      cases timestampToMs b.utcTimestamp with
      | none => rfl
      | some right =>
          show some (min |left - right| _) = some (min |right - left| _)
          rw [abs_sub_comm]

theorem sameNonEmptyLogid_comm (a b : QsoRecord) :
    sameNonEmptyLogid a b = sameNonEmptyLogid b a := by
  rw [sameNonEmptyLogid, sameNonEmptyLogid]
  cases nonEmptyTrimmed a.qrzLogid with
  | none => cases nonEmptyTrimmed b.qrzLogid <;> rfl
  | some left =>
      cases nonEmptyTrimmed b.qrzLogid with
      | none => rfl
      | some right => exact Bool.beq_comm

theorem optionalStringsCompatible_comm (s t : Option String) :
    optionalStringsCompatible s t = optionalStringsCompatible t s := by
  rw [optionalStringsCompatible, optionalStringsCompatible]
  cases nonEmptyTrimmed s with
  | none => cases nonEmptyTrimmed t <;> rfl
  | some left =>
      cases nonEmptyTrimmed t with
      | none => rfl
      | some right => exact Text.eqIgnoreAsciiCase_comm left right

theorem optionalU64Compatible_comm (m n : Option ℕ) :
    optionalU64Compatible m n = optionalU64Compatible n m := by
  cases m with
  | none => cases n <;> rfl
  | some left =>
      cases n with
      | none => rfl
      | some right => exact Bool.beq_comm

theorem frequenciesCompatible_comm (a b : QsoRecord) :
    frequenciesCompatible a b = frequenciesCompatible b a := by
  rw [frequenciesCompatible, frequenciesCompatible]
  cases a.frequencyHz with
  | none => cases b.frequencyHz <;> exact optionalU64Compatible_comm _ _
  | some left =>
      cases b.frequencyHz with
      | none => exact optionalU64Compatible_comm _ _
      | some right => exact Bool.beq_comm

theorem qsosMatch_comm (a b : QsoRecord) (window : ℤ) :
    qsosMatch a b window = qsosMatch b a window := by
  rw [qsosMatch, qsosMatch, timestampDeltaMs_comm, sameNonEmptyLogid_comm,
    optionalStringsCompatible_comm, frequenciesCompatible_comm]

/-! ### Chains -/

/-- The row is in the list and has not been deleted. -/
def Active (qsos : List QsoRecord) (a : QsoRecord) : Prop := a ∈ qsos ∧ a.deletedAt = none

/-- Two active rows with one key match. -/
structure Alike (qsos : List QsoRecord) (window : ℤ) (a b : QsoRecord) : Prop where
  left : Active qsos a
  right : Active qsos b
  key : keyOf a = keyOf b
  isMatch : qsosMatch a b window = true

/-- A chain of matching rows connects the two. -/
def Linked (qsos : List QsoRecord) (window : ℤ) : QsoRecord → QsoRecord → Prop :=
  ReflTransGen (Alike qsos window)

theorem Alike.symm (h : Alike qsos window a b) : Alike qsos window b a :=
  ⟨h.right, h.left, h.key.symm, by rw [qsosMatch_comm]; exact h.isMatch⟩

theorem Linked.symm (h : Linked qsos window a b) : Linked qsos window b a := by
  induction h with
  | refl => exact .refl
  | tail _ hstep ih => exact .head hstep.symm ih

theorem Linked.active (h : Linked qsos window a b) (ha : Active qsos a) : Active qsos b := by
  rcases h.cases_tail with rfl | ⟨c, -, hlast⟩
  · exact ha
  · exact hlast.right

theorem Linked.key (h : Linked qsos window a b) : keyOf a = keyOf b := by
  induction h with
  | refl => rfl
  | tail _ hstep ih => exact ih.trans hstep.key

/-- The order of the rows does not matter. -/
theorem Linked.of_perm {qsos' : List QsoRecord} (hperm : qsos.Perm qsos')
    (h : Linked qsos window a b) : Linked qsos' window a b := by
  refine ReflTransGen.mono (fun c d hcd => ?_) a b h
  exact ⟨⟨hperm.mem_iff.mp hcd.left.1, hcd.left.2⟩, ⟨hperm.mem_iff.mp hcd.right.1, hcd.right.2⟩,
    hcd.key, hcd.isMatch⟩

/-- The row is dropped in favour of the other one, which is the best row at the
end of its chains. -/
structure Drops (qsos : List QsoRecord) (options : Options) (k r : QsoRecord) : Prop where
  active : Active qsos k
  linked : Linked qsos options.timeWindowMs k r
  best : ∀ s, Linked qsos options.timeWindowMs k s → Precedes k s
  isSafe : isSafeLoser k (score k) r options = true

/-- No chain leads from a best row to a row that is clearly worse and does not
match it. -/
def ChainsMatch (qsos : List QsoRecord) (options : Options) : Prop :=
  ∀ k r, Active qsos k → Linked qsos options.timeWindowMs k r →
    (∀ s, Linked qsos options.timeWindowMs k s → Precedes k s) →
    isSafeLoser k (score k) r options = true → qsosMatch r k options.timeWindowMs = true

/-! ### The rows of a key -/

/-- The positions of the active rows with one key. -/
def HasKey (qsos : List QsoRecord) (key : String × String × ℤ × ℤ) (indexes : List ℕ) : Prop :=
  ∀ index, index ∈ indexes ↔ ∃ a, qsos[index]? = some a ∧ a.deletedAt = none ∧ keyOf a = key

variable {key : String × String × ℤ × ℤ} {indexes : List ℕ} {i j : ℕ}

theorem mem_keyedIndexes {index : ℕ} :
    (key, index) ∈ keyedIndexes qsos
      ↔ ∃ a, qsos[index]? = some a ∧ a.deletedAt = none ∧ keyOf a = key := by
  rw [keyedIndexes, List.mem_map]
  constructor
  · rintro ⟨⟨a, n⟩, hrow, heq⟩
    obtain ⟨hmem, hactive⟩ := List.mem_filter.mp hrow
    cases heq
    exact ⟨a, List.mem_zipIdx_iff_getElem?.mp hmem, Option.isNone_iff_eq_none.mp hactive, rfl⟩
  · rintro ⟨a, hget, hactive, rfl⟩
    exact ⟨(a, index), List.mem_filter.mpr ⟨List.mem_zipIdx_iff_getElem?.mpr hget,
      Option.isNone_iff_eq_none.mpr hactive⟩, rfl⟩

theorem hasKey_valuesOf (qsos : List QsoRecord) (key : String × String × ℤ × ℤ) :
    HasKey qsos key (Grouping.valuesOf key (keyedIndexes qsos)) := by
  intro index
  rw [← mem_keyedIndexes, Grouping.valuesOf, List.mem_map]
  constructor
  · rintro ⟨⟨k, n⟩, hentry, rfl⟩
    obtain ⟨hmem, hkey⟩ := List.mem_filter.mp hentry
    obtain rfl : k = key := of_decide_eq_true hkey
    exact hmem
  · intro hmem
    exact ⟨(key, index), List.mem_filter.mpr ⟨hmem, decide_eq_true rfl⟩, rfl⟩

theorem rowAt_eq_some_iff :
    rowAt qsos indexes i = some a ↔ ∃ index, indexes[i]? = some index ∧ qsos[index]? = some a := by
  rw [rowAt]
  exact Option.bind_eq_some_iff

/-- The rows at the positions have the key. -/
theorem HasKey.rowAt (h : HasKey qsos key indexes) (ha : rowAt qsos indexes i = some a) :
    Active qsos a ∧ keyOf a = key := by
  obtain ⟨index, hindex, hget⟩ := rowAt_eq_some_iff.mp ha
  obtain ⟨a', hget', hactive, hkey⟩ := (h index).mp (List.mem_of_getElem? hindex)
  rw [hget] at hget'
  cases hget'
  exact ⟨⟨List.mem_of_getElem? hget, hactive⟩, hkey⟩

/-- Every row with the key has a position. -/
theorem HasKey.exists_rowAt (h : HasKey qsos key indexes) (ha : Active qsos a)
    (hkey : keyOf a = key) : ∃ i, PurgeDuplicates.rowAt qsos indexes i = some a := by
  obtain ⟨index, hget⟩ := List.mem_iff_getElem?.mp ha.1
  obtain ⟨i, hi⟩ := List.mem_iff_getElem?.mp ((h index).mpr ⟨a, hget, ha.2, hkey⟩)
  exact ⟨i, rowAt_eq_some_iff.mpr ⟨index, hi, hget⟩⟩

theorem lt_of_rowAt (h : rowAt qsos indexes i = some a) : i < indexes.length := by
  obtain ⟨index, hindex, -⟩ := rowAt_eq_some_iff.mp h
  exact (List.getElem?_eq_some_iff.mp hindex).1

/-! ### The connected positions -/

/-- The pairs of positions that are united. -/
def pairs (qsos : List QsoRecord) (indexes : List ℕ) (window : ℤ) : List (ℕ × ℕ) :=
  (List.range indexes.length).flatMap fun left =>
    ((List.range' (left + 1) (indexes.length - (left + 1))).filter
      (matchesAt qsos indexes window left)).map (left, ·)

theorem connect_eq_unions (qsos : List QsoRecord) (indexes : List ℕ) (window : ℤ) :
    connect qsos indexes window
      = DisjointSets.unions (List.range indexes.length) (pairs qsos indexes window) := by
  rw [connect, DisjointSets.unions, pairs, List.foldl_flatMap]
  congr 1
  funext parent left
  rw [List.foldl_map, List.foldl_filter]

theorem mem_pairs :
    (i, j) ∈ pairs qsos indexes window
      ↔ i < j ∧ j < indexes.length ∧ matchesAt qsos indexes window i j = true := by
  simp only [pairs, List.mem_flatMap, List.mem_range, List.mem_map, List.mem_filter,
    List.mem_range'_1, Prod.mk.injEq]
  constructor
  · rintro ⟨left, hleft, right, ⟨hright, hmatch⟩, rfl, rfl⟩
    exact ⟨by omega, by omega, hmatch⟩
  · rintro ⟨hij, hj, hmatch⟩
    exact ⟨i, by omega, j, ⟨by omega, hmatch⟩, rfl, rfl⟩

theorem matchesAt_eq (hi : rowAt qsos indexes i = some a) (hj : rowAt qsos indexes j = some b) :
    matchesAt qsos indexes window i j = qsosMatch a b window := by
  rw [matchesAt, hi, hj]

theorem rowAt_of_matchesAt (h : matchesAt qsos indexes window i j = true) :
    ∃ a b, rowAt qsos indexes i = some a ∧ rowAt qsos indexes j = some b
      ∧ qsosMatch a b window = true := by
  rw [matchesAt] at h
  cases hi : rowAt qsos indexes i with
  | none =>
      rw [hi] at h
      cases h
  | some a =>
      cases hj : rowAt qsos indexes j with
      | none =>
          rw [hi, hj] at h
          cases h
      | some b =>
          rw [hi, hj] at h
          exact ⟨a, b, rfl, rfl, h⟩

/-- Two positions that the pairs connect are one, or hold linked rows. -/
theorem linked_of_eqvGen (hkey : HasKey qsos key indexes)
    (h : EqvGen (fun i j => (i, j) ∈ pairs qsos indexes window) i j) :
    i = j ∨ ∃ a b, rowAt qsos indexes i = some a ∧ rowAt qsos indexes j = some b
      ∧ Linked qsos window a b := by
  induction h with
  | rel i j hpair =>
      obtain ⟨-, -, hmatch⟩ := mem_pairs.mp hpair
      obtain ⟨a, b, ha, hb, hab⟩ := rowAt_of_matchesAt hmatch
      obtain ⟨hactive, hkeya⟩ := hkey.rowAt ha
      obtain ⟨hactive', hkeyb⟩ := hkey.rowAt hb
      exact .inr ⟨a, b, ha, hb, .single ⟨hactive, hactive', hkeya.trans hkeyb.symm, hab⟩⟩
  | refl i => exact .inl rfl
  | symm i j _ ih =>
      rcases ih with rfl | ⟨a, b, ha, hb, hab⟩
      · exact .inl rfl
      · exact .inr ⟨b, a, hb, ha, hab.symm⟩
  | trans i j k _ _ ih ih' =>
      rcases ih with rfl | ⟨a, b, ha, hb, hab⟩
      · exact ih'
      rcases ih' with rfl | ⟨b', c, hb', hc, hbc⟩
      · exact .inr ⟨a, b, ha, hb, hab⟩
      · rw [hb] at hb'
        cases hb'
        exact .inr ⟨a, c, ha, hc, hab.trans hbc⟩

/-- Linked rows are at connected positions. -/
theorem eqvGen_of_linked (hkey : HasKey qsos key indexes) (ha : rowAt qsos indexes i = some a)
    (h : Linked qsos window a b) :
    ∃ j, rowAt qsos indexes j = some b
      ∧ EqvGen (fun i j => (i, j) ∈ pairs qsos indexes window) i j := by
  induction h with
  | refl => exact ⟨i, ha, .refl i⟩
  | @tail c b _ hstep ih =>
      obtain ⟨j, hc, hij⟩ := ih
      have hkeyc := (hkey.rowAt hc).2
      obtain ⟨j', hb⟩ := hkey.exists_rowAt hstep.right (hstep.key.symm.trans hkeyc)
      refine ⟨j', hb, hij.trans _ _ _ ?_⟩
      rcases Nat.lt_trichotomy j j' with hlt | rfl | hlt
      · refine .rel _ _ (mem_pairs.mpr ⟨hlt, lt_of_rowAt hb, ?_⟩)
        rw [matchesAt_eq hc hb]
        exact hstep.isMatch
      · exact .refl j
      · refine (EqvGen.rel _ _ (mem_pairs.mpr ⟨hlt, lt_of_rowAt hc, ?_⟩)).symm _ _
        rw [matchesAt_eq hb hc]
        exact hstep.symm.isMatch

/-! ### The clusters -/

/-- The positions with their roots. -/
def rootedIndexes (indexes : List ℕ) (parent : List ℕ) (locals : List ℕ) : List (ℕ × ℕ) :=
  locals.filterMap fun localIndex =>
    indexes[localIndex]?.map fun index => (DisjointSets.rootOf parent localIndex, index)

/-- The last loop groups the positions by their roots; compression changes
none. -/
theorem byRoot_loop {parent₀ : List ℕ} (hforest : DisjointSets.IsForest parent₀)
    (indexes locals : List ℕ) :
    DisjointSets.IsForest (locals.foldl (byRootTurn indexes) (parent₀, [])).1
      ∧ (∀ j, DisjointSets.rootOf (locals.foldl (byRootTurn indexes) (parent₀, [])).1 j
          = DisjointSets.rootOf parent₀ j)
      ∧ (locals.foldl (byRootTurn indexes) (parent₀, [])).2
        = Grouping.grouped (rootedIndexes indexes parent₀ locals) := by
  induction locals using List.reverseRecOn with
  | nil => exact ⟨hforest, fun _ => rfl, rfl⟩
  | append_singleton locals localIndex ih =>
      rw [List.foldl_append]
      generalize locals.foldl (byRootTurn indexes) (parent₀, []) = state at ih ⊢
      obtain ⟨parent, map⟩ := state
      obtain ⟨hparent, hroots, hmap⟩ := ih
      dsimp only at hparent hroots hmap
      obtain ⟨hparent', -, hroots'⟩ := DisjointSets.find_spec hparent localIndex
      have hroot : (DisjointSets.find parent localIndex).1
          = DisjointSets.rootOf parent₀ localIndex := hroots localIndex
      have hboth : ∀ j, DisjointSets.rootOf (DisjointSets.find parent localIndex).2 j
          = DisjointSets.rootOf parent₀ j := fun j => (hroots' j).trans (hroots j)
      rw [List.foldl_cons, List.foldl_nil, byRootTurn, rootedIndexes, List.filterMap_append,
        Grouping.grouped, List.foldl_append]
      dsimp only
      rw [hroot, hmap]
      cases hindex : indexes[localIndex]? with
      | none =>
          rw [List.filterMap_cons_none (by rw [hindex]; rfl)]
          exact ⟨hparent', hboth, rfl⟩
      | some index =>
          rw [List.filterMap_cons_some (by rw [hindex]; rfl)]
          exact ⟨hparent', hboth, rfl⟩

theorem pairs_lt (e : ℕ × ℕ) (he : e ∈ pairs qsos indexes window) :
    e.1 < indexes.length ∧ e.2 < indexes.length := by
  obtain ⟨hlt, hlen, -⟩ := mem_pairs.mp he
  exact ⟨hlt.trans hlen, hlen⟩

theorem connect_isForest (qsos : List QsoRecord) (indexes : List ℕ) (window : ℤ) :
    DisjointSets.IsForest (connect qsos indexes window) := by
  rw [connect_eq_unions]
  exact (DisjointSets.unions_spec indexes.length pairs_lt).1

/-- Two positions have one root iff the pairs connect them. -/
theorem rootOf_connect_iff :
    DisjointSets.rootOf (connect qsos indexes window) i
        = DisjointSets.rootOf (connect qsos indexes window) j
      ↔ EqvGen (fun i j => (i, j) ∈ pairs qsos indexes window) i j := by
  rw [connect_eq_unions]
  exact ((DisjointSets.unions_spec indexes.length pairs_lt).2.2 i j).symm

/-- The rows of a cluster. -/
def rowsOf (qsos : List QsoRecord) (cluster : List ℕ) : List QsoRecord :=
  cluster.filterMap fun index => qsos[index]?

/-- The groups of the last loop. -/
theorem byRoot_connect (qsos : List QsoRecord) (indexes : List ℕ) (window : ℤ) :
    byRoot indexes (connect qsos indexes window)
      = Grouping.grouped (rootedIndexes indexes (connect qsos indexes window)
          (List.range indexes.length)) :=
  (byRoot_loop (connect_isForest qsos indexes window) indexes _).2.2

/-- A row has the position of an entry with its root. -/
theorem mem_rowsOf_valuesOf {root : ℕ} {parent : List ℕ} :
    a ∈ rowsOf qsos (Grouping.valuesOf root
        (rootedIndexes indexes parent (List.range indexes.length)))
      ↔ ∃ i, rowAt qsos indexes i = some a ∧ DisjointSets.rootOf parent i = root := by
  rw [rowsOf, List.mem_filterMap]
  constructor
  · rintro ⟨index, hmem, hget⟩
    rw [Grouping.valuesOf, List.mem_map] at hmem
    obtain ⟨⟨root', index'⟩, hfiltered, rfl⟩ := hmem
    obtain ⟨hentry, hroot⟩ := List.mem_filter.mp hfiltered
    obtain rfl : root' = root := of_decide_eq_true hroot
    rw [rootedIndexes, List.mem_filterMap] at hentry
    obtain ⟨i, -, hi⟩ := hentry
    obtain ⟨index, hindex, heq⟩ := Option.map_eq_some_iff.mp hi
    cases heq
    exact ⟨i, rowAt_eq_some_iff.mpr ⟨_, hindex, hget⟩, rfl⟩
  · rintro ⟨i, ha, rfl⟩
    obtain ⟨index, hindex, hget⟩ := rowAt_eq_some_iff.mp ha
    refine ⟨index, ?_, hget⟩
    rw [Grouping.valuesOf, List.mem_map]
    refine ⟨(DisjointSets.rootOf parent i, index), List.mem_filter.mpr ⟨?_, decide_eq_true rfl⟩,
      rfl⟩
    rw [rootedIndexes, List.mem_filterMap]
    exact ⟨i, List.mem_range.mpr (lt_of_rowAt ha), by rw [hindex]; rfl⟩

/-- **A cluster is a class**: it holds all rows that are linked with one of
its rows. -/
theorem cluster_isClass (hkey : HasKey qsos key indexes) {cluster : List ℕ}
    (h : cluster ∈ clustersForKey order qsos indexes window) (ha : a ∈ rowsOf qsos cluster) :
    Active qsos a ∧ ∀ b, b ∈ rowsOf qsos cluster ↔ Linked qsos window a b := by
  rw [clustersForKey, (order.perm _).mem_iff, byRoot_connect, List.mem_map] at h
  obtain ⟨⟨root, cluster⟩, hgroup, rfl⟩ := h
  obtain ⟨rfl, -⟩ := ((Grouping.grouped_holds _).mem root cluster).mp hgroup
  obtain ⟨i, hi, hroot⟩ := mem_rowsOf_valuesOf.mp ha
  refine ⟨(hkey.rowAt hi).1, fun b => ?_⟩
  rw [mem_rowsOf_valuesOf]
  constructor
  · rintro ⟨j, hj, hroot'⟩
    rcases linked_of_eqvGen hkey (rootOf_connect_iff.mp (hroot.trans hroot'.symm))
      with rfl | ⟨a', b', ha', hb', hab⟩
    · rw [hi] at hj
      cases hj
      exact .refl
    · rw [hi] at ha'
      rw [hj] at hb'
      cases ha'
      cases hb'
      exact hab
  · intro hab
    obtain ⟨j, hj, hij⟩ := eqvGen_of_linked hkey hi hab
    exact ⟨j, hj, (rootOf_connect_iff.mpr hij).symm.trans hroot⟩

/-- Every row of the key is in a cluster. -/
theorem exists_cluster (hkey : HasKey qsos key indexes) (ha : Active qsos a)
    (heq : keyOf a = key) (order : HashOrder) (window : ℤ) :
    ∃ cluster ∈ clustersForKey order qsos indexes window, a ∈ rowsOf qsos cluster := by
  obtain ⟨i, hi⟩ := hkey.exists_rowAt ha heq
  have hmem : a ∈ rowsOf qsos (Grouping.valuesOf
      (DisjointSets.rootOf (connect qsos indexes window) i)
      (rootedIndexes indexes (connect qsos indexes window) (List.range indexes.length))) :=
    mem_rowsOf_valuesOf.mpr ⟨i, hi, rfl⟩
  refine ⟨_, ?_, hmem⟩
  rw [clustersForKey, (order.perm _).mem_iff, byRoot_connect, List.mem_map]
  refine ⟨(DisjointSets.rootOf (connect qsos indexes window) i, _),
    ((Grouping.grouped_holds _).mem _ _).mpr ⟨rfl, fun hempty => ?_⟩, rfl⟩
  rw [hempty] at hmem
  exact List.not_mem_nil hmem

/-! ### The groups -/

theorem isSafeLoser_self (k : QsoRecord) (options : Options) :
    isSafeLoser k (score k) k options = false := by
  have hself : (score k).cmp (score k) = .eq := Std.ReflCmp.compare_self
  rw [isSafeLoser, hself]
  simp

/-- The safe losers of the rows behind the keeper, and the others. -/
def groupOf (options : Options) (keeper : QsoRecord) (rest : List QsoRecord) : CandidateGroup where
  keeper
  losers := rest.filter fun row => isSafeLoser keeper (score keeper) row options
  ambiguous := rest.filter fun row => !isSafeLoser keeper (score keeper) row options

/-- The classification of a cluster, from its rows in order. -/
theorem classifyCluster_sorted (qsos : List QsoRecord) (cluster : List ℕ) (options : Options) :
    ∃ rows, rows.Perm (rowsOf qsos cluster) ∧ rows.Pairwise Precedes
      ∧ classifyCluster qsos cluster options
        = match rows with
          | [] => none
          | keeper :: rest =>
              if (groupOf options keeper rest).losers.isEmpty then none
              else some (groupOf options keeper rest) :=
  ⟨(rowsOf qsos cluster).insertionSort Precedes, List.perm_insertionSort _ _,
    List.pairwise_insertionSort _ _, rfl⟩

/-- What the classification of a cluster gives. -/
theorem classifyCluster_eq_some {cluster : List ℕ} {g : CandidateGroup}
    (h : classifyCluster qsos cluster options = some g) :
    ∃ rest, (g.keeper :: rest).Perm (rowsOf qsos cluster)
      ∧ (∀ s ∈ rowsOf qsos cluster, Precedes g.keeper s) ∧ g = groupOf options g.keeper rest := by
  obtain ⟨rows, hperm, hsorted, heq⟩ := classifyCluster_sorted qsos cluster options
  rw [heq] at h
  cases rows with
  | nil => cases h
  | cons keeper rest =>
      dsimp only at h
      split at h
      · cases h
      · cases h
        refine ⟨rest, hperm, fun s hs => ?_, rfl⟩
        rcases List.mem_cons.mp (hperm.mem_iff.mpr hs) with rfl | hmem
        · exact (Std.Total.total s s).elim id id
        · exact (List.pairwise_cons.mp hsorted).1 s hmem

/-- A cluster with a row that is clearly worse than its best makes a group. -/
theorem exists_group_of_safe {cluster : List ℕ} (hk : k ∈ rowsOf qsos cluster)
    (hr : r ∈ rowsOf qsos cluster)
    (hbest : ∀ s ∈ rowsOf qsos cluster, Precedes s k → s = k)
    (hsafe : isSafeLoser k (score k) r options = true) :
    ∃ g, classifyCluster qsos cluster options = some g ∧ g.keeper = k ∧ r ∈ g.losers := by
  obtain ⟨rows, hperm, hsorted, heq⟩ := classifyCluster_sorted qsos cluster options
  rw [heq]
  rw [← hperm.mem_iff] at hk hr
  cases rows with
  | nil => exact absurd hk List.not_mem_nil
  | cons keeper rest =>
      have hkeeper : keeper = k := by
        rcases List.mem_cons.mp hk with rfl | hmem
        · rfl
        · exact hbest keeper (hperm.mem_iff.mp List.mem_cons_self)
            ((List.pairwise_cons.mp hsorted).1 k hmem)
      subst hkeeper
      have hrest : r ∈ rest := by
        rcases List.mem_cons.mp hr with rfl | hmem
        · rw [isSafeLoser_self] at hsafe
          cases hsafe
        · exact hmem
      have hloser : r ∈ (groupOf options keeper rest).losers := List.mem_filter.mpr ⟨hrest, hsafe⟩
      have hsome : (groupOf options keeper rest).losers.isEmpty ≠ true := by
        rw [Ne, List.isEmpty_iff]
        exact List.ne_nil_of_mem hloser
      exact ⟨groupOf options keeper rest, if_neg hsome, rfl, hloser⟩

/-- The groups come from the clusters with at least two rows. -/
theorem mem_findDuplicateGroups {g : CandidateGroup} :
    g ∈ findDuplicateGroups order qsos options
      ↔ ∃ key indexes, (key, indexes) ∈ Grouping.grouped (keyedIndexes qsos)
        ∧ ¬ indexes.length < 2
        ∧ ∃ cluster ∈ clustersForKey order qsos indexes options.timeWindowMs,
          ¬ cluster.length < 2 ∧ classifyCluster qsos cluster options = some g := by
  rw [findDuplicateGroups, List.mem_flatMap]
  constructor
  · rintro ⟨indexes, hindexes, hg⟩
    rw [(order.perm _).mem_iff, List.mem_map] at hindexes
    obtain ⟨⟨key, indexes⟩, hentry, rfl⟩ := hindexes
    dsimp only at hg
    split at hg
    · exact absurd hg List.not_mem_nil
    · rename_i hlong
      obtain ⟨cluster, hcluster, hsome⟩ := List.mem_filterMap.mp hg
      split at hsome
      · cases hsome
      · rename_i hlong'
        exact ⟨key, indexes, hentry, hlong, cluster, hcluster, hlong', hsome⟩
  · rintro ⟨key, indexes, hentry, hlong, cluster, hcluster, hlong', hsome⟩
    refine ⟨indexes, ?_, ?_⟩
    · rw [(order.perm _).mem_iff]
      exact List.mem_map.mpr ⟨(key, indexes), hentry, rfl⟩
    · rw [if_neg hlong]
      exact List.mem_filterMap.mpr ⟨cluster, hcluster, by rw [if_neg hlong', hsome]⟩

/-- Two rows take two positions. -/
theorem two_le_of_rows {positions : List ℕ} (ha : a ∈ rowsOf qsos positions)
    (hb : b ∈ rowsOf qsos positions) (hne : a ≠ b) : ¬ positions.length < 2 := by
  intro hshort
  have hrows : (rowsOf qsos positions).length ≤ positions.length := List.length_filterMap_le _ _
  match hlist : rowsOf qsos positions with
  | [] =>
      rw [hlist] at ha
      exact List.not_mem_nil ha
  | [c] =>
      rw [hlist, List.mem_singleton] at ha hb
      exact hne (ha.trans hb.symm)
  | c :: d :: rest =>
      rw [hlist] at hrows
      simp only [List.length_cons] at hrows
      omega

/-- The rows of a key are those at its positions. -/
theorem HasKey.mem_rowsOf (h : HasKey qsos key indexes) (ha : Active qsos a)
    (hkey : keyOf a = key) : a ∈ rowsOf qsos indexes := by
  obtain ⟨index, hget⟩ := List.mem_iff_getElem?.mp ha.1
  exact List.mem_filterMap.mpr ⟨index, (h index).mpr ⟨a, hget, ha.2, hkey⟩, hget⟩

/-- No two rows have one local id. -/
def DistinctIds (qsos : List QsoRecord) : Prop := (qsos.map QsoRecord.localId).Nodup

theorem DistinctIds.eq (h : DistinctIds qsos) (ha : a ∈ qsos) (hb : b ∈ qsos)
    (heq : a.localId = b.localId) : a = b :=
  List.inj_on_of_nodup_map h ha hb heq

/-- **The losers are the rows that are dropped**, whatever the order. -/
theorem mem_losers_iff (hdistinct : DistinctIds qsos) (order : HashOrder) :
    (∃ g ∈ findDuplicateGroups order qsos options, g.keeper = k ∧ r ∈ g.losers)
      ↔ Drops qsos options k r := by
  constructor
  · rintro ⟨g, hg, rfl, hr⟩
    obtain ⟨key, indexes, hentry, -, cluster, hcluster, -, hsome⟩ := mem_findDuplicateGroups.mp hg
    obtain ⟨rfl, -⟩ := ((Grouping.grouped_holds _).mem key indexes).mp hentry
    obtain ⟨rest, hperm, hfirst, hgroup⟩ := classifyCluster_eq_some hsome
    have hkeeper : g.keeper ∈ rowsOf qsos cluster := hperm.mem_iff.mp List.mem_cons_self
    obtain ⟨hactive, hclass⟩ := cluster_isClass (hasKey_valuesOf qsos key) hcluster hkeeper
    rw [hgroup] at hr
    obtain ⟨hrest, hsafe⟩ := List.mem_filter.mp hr
    have hmem : r ∈ rowsOf qsos cluster := hperm.mem_iff.mp (List.mem_cons_of_mem _ hrest)
    exact ⟨hactive, (hclass r).mp hmem, fun s hs => hfirst s ((hclass s).mpr hs), hsafe⟩
  · rintro ⟨hactive, hlinked, hbest, hsafe⟩
    have hkey := hasKey_valuesOf qsos (keyOf k)
    obtain ⟨cluster, hcluster, hk⟩ := exists_cluster hkey hactive rfl order options.timeWindowMs
    obtain ⟨-, hclass⟩ := cluster_isClass hkey hcluster hk
    have hr : r ∈ rowsOf qsos cluster := (hclass r).mpr hlinked
    have hne : k ≠ r := by
      rintro rfl
      rw [isSafeLoser_self] at hsafe
      cases hsafe
    have hunique : ∀ s ∈ rowsOf qsos cluster, Precedes s k → s = k := by
      intro s hs hprecedes
      have hlinked' := (hclass s).mp hs
      exact hdistinct.eq (hlinked'.active hactive).1 hactive.1
        (localId_eq_of_precedes hprecedes (hbest s hlinked'))
    obtain ⟨g, hsome, hkeeper, hloser⟩ := exists_group_of_safe hk hr hunique hsafe
    have hk' := hkey.mem_rowsOf hactive rfl
    have hr' := hkey.mem_rowsOf (hlinked.active hactive) hlinked.key.symm
    have hentry : (keyOf k, Grouping.valuesOf (keyOf k) (keyedIndexes qsos))
        ∈ Grouping.grouped (keyedIndexes qsos) := by
      refine ((Grouping.grouped_holds _).mem _ _).mpr ⟨rfl, fun hempty => ?_⟩
      rw [hempty] at hk'
      exact List.not_mem_nil hk'
    exact ⟨g, mem_findDuplicateGroups.mpr ⟨keyOf k, _, hentry, two_le_of_rows hk' hr' hne, cluster,
      hcluster, two_le_of_rows hk hr hne, hsome⟩, hkeeper, hloser⟩

/-! ### No row twice -/

/-- The rows of a group. -/
def CandidateGroup.members (g : CandidateGroup) : List QsoRecord :=
  g.keeper :: (g.losers ++ g.ambiguous)

theorem members_perm {cluster : List ℕ} {g : CandidateGroup}
    (h : classifyCluster qsos cluster options = some g) :
    g.members.Perm (rowsOf qsos cluster) := by
  obtain ⟨rest, hperm, -, hgroup⟩ := classifyCluster_eq_some h
  rw [hgroup]
  exact ((List.filter_append_perm _ rest).cons _).trans hperm

/-- What is made of some elements of a list is part of what the list has. -/
theorem flatMap_filterMap_subperm {α β γ : Type*} {f : α → Option β} {m : β → List γ}
    {rows : α → List γ} (h : ∀ a b, f a = some b → (m b).Subperm (rows a)) (l : List α) :
    ((l.filterMap f).flatMap m).Subperm (l.flatMap rows) := by
  induction l with
  | nil => exact .refl _
  | cons a l ih =>
      rw [List.flatMap_cons]
      cases hf : f a with
      | none =>
          rw [List.filterMap_cons_none hf]
          exact ih.trans (List.sublist_append_right _ _).subperm
      | some b =>
          rw [List.filterMap_cons_some hf, List.flatMap_cons]
          exact (h a b hf).append ih

theorem flatMap_subperm {α γ : Type*} {f g : α → List γ} {l : List α}
    (h : ∀ a ∈ l, (f a).Subperm (g a)) : (l.flatMap f).Subperm (l.flatMap g) := by
  induction l with
  | nil => exact .refl _
  | cons a l ih =>
      rw [List.flatMap_cons, List.flatMap_cons]
      exact (h a List.mem_cons_self).append (ih fun b hb => h b (List.mem_cons_of_mem a hb))

theorem rowsOf_flatten (qsos : List QsoRecord) (lists : List (List ℕ)) :
    lists.flatMap (rowsOf qsos) = rowsOf qsos lists.flatten := by
  induction lists with
  | nil => rfl
  | cons l lists ih =>
      rw [List.flatMap_cons, ih, List.flatten_cons]
      exact (List.filterMap_append).symm

theorem rowsOf_perm {l l' : List ℕ} (h : l.Perm l') : (rowsOf qsos l).Perm (rowsOf qsos l') :=
  h.filterMap _

theorem filterMap_getElem?_range {α : Type*} (l : List α) :
    (List.range l.length).filterMap (fun i => l[i]?) = l := by
  have hmap : (List.range l.length).map (fun i => l[i]?) = l.map some := by
    apply List.ext_getElem
    · simp
    · intro i hi hi'
      simp at hi
      simp [hi]
  calc (List.range l.length).filterMap (fun i => l[i]?)
      = ((List.range l.length).map (fun i => l[i]?)).filterMap id := by
        rw [List.filterMap_map]
        rfl
    _ = l := by
        rw [hmap, List.filterMap_map]
        exact List.filterMap_some

/-- The positions with their roots are all positions. -/
theorem map_snd_rootedIndexes (indexes parent : List ℕ) :
    (rootedIndexes indexes parent (List.range indexes.length)).map Prod.snd = indexes := by
  rw [rootedIndexes, List.map_filterMap]
  simp only [Option.map_map]
  have hid : ∀ localIndex : ℕ, Option.map (Prod.snd ∘ fun index =>
      (DisjointSets.rootOf parent localIndex, index)) indexes[localIndex]? = indexes[localIndex]? :=
    fun localIndex => Option.map_id_fun' ▸ rfl
  simp only [hid]
  exact filterMap_getElem?_range indexes

/-- The clusters share out the positions of the key. -/
theorem clusters_perm (order : HashOrder) (qsos : List QsoRecord) (indexes : List ℕ) (window : ℤ) :
    (clustersForKey order qsos indexes window).flatten.Perm indexes := by
  rw [clustersForKey, byRoot_connect]
  refine (order.perm _).flatten.trans ?_
  rw [← List.flatMap_def]
  have hall := Grouping.flatMap_grouped_perm (rootedIndexes indexes (connect qsos indexes window)
    (List.range indexes.length))
  rw [map_snd_rootedIndexes] at hall
  exact hall

/-- The keys share out the positions of the active rows. -/
theorem rowsOf_keyedIndexes (qsos : List QsoRecord) :
    (rowsOf qsos ((keyedIndexes qsos).map Prod.snd)).Sublist qsos := by
  have hget : ∀ row ∈ qsos.zipIdx.filter fun row => row.1.deletedAt.isNone,
      qsos[row.2]? = some row.1 := by
    intro row hrow
    exact List.mem_zipIdx_iff_getElem?.mp (List.mem_of_mem_filter hrow)
  have hrows : rowsOf qsos ((keyedIndexes qsos).map Prod.snd)
      = (qsos.zipIdx.filter fun row => row.1.deletedAt.isNone).map Prod.fst := by
    rw [rowsOf, keyedIndexes, List.map_map, List.filterMap_map, ← List.filterMap_eq_map]
    exact List.filterMap_congr fun row hrow => hget row hrow
  rw [hrows]
  have hsub : ((qsos.zipIdx.filter fun row => row.1.deletedAt.isNone).map Prod.fst).Sublist
      (qsos.zipIdx.map Prod.fst) := List.filter_sublist.map _
  rwa [List.zipIdx_map_fst] at hsub

/-- **Every row is in at most one place of at most one group.** -/
theorem members_subperm (order : HashOrder) (qsos : List QsoRecord) (options : Options) :
    ((findDuplicateGroups order qsos options).flatMap CandidateGroup.members).Subperm qsos := by
  rw [findDuplicateGroups, List.flatMap_assoc]
  have hkey : ∀ indexes ∈ order.values ((Grouping.grouped (keyedIndexes qsos)).map Prod.snd),
      ((if indexes.length < 2 then []
        else
          (clustersForKey order qsos indexes options.timeWindowMs).filterMap fun cluster =>
            if cluster.length < 2 then none else classifyCluster qsos cluster options).flatMap
        CandidateGroup.members).Subperm (rowsOf qsos indexes) := by
    intro indexes _
    split
    · exact List.nil_subperm
    · have hcluster : ∀ cluster g,
          (if cluster.length < 2 then none else classifyCluster qsos cluster options) = some g →
          g.members.Subperm (rowsOf qsos cluster) := by
        intro cluster g hsome
        split at hsome
        · cases hsome
        · exact (members_perm hsome).subperm
      refine (flatMap_filterMap_subperm hcluster _).trans ?_
      rw [rowsOf_flatten]
      exact (rowsOf_perm (clusters_perm order qsos indexes options.timeWindowMs)).subperm
  refine (flatMap_subperm hkey).trans ?_
  rw [rowsOf_flatten]
  have hflatten : (order.values ((Grouping.grouped (keyedIndexes qsos)).map Prod.snd)).flatten.Perm
      ((keyedIndexes qsos).map Prod.snd) := by
    refine (order.perm _).flatten.trans ?_
    rw [← List.flatMap_def]
    exact Grouping.flatMap_grouped_perm (keyedIndexes qsos)
  exact (rowsOf_perm hflatten).subperm.trans (rowsOf_keyedIndexes qsos).subperm

/-! ### What the purge promises -/

/-- All losers. -/
def losersOf (order : HashOrder) (qsos : List QsoRecord) (options : Options) : List QsoRecord :=
  (findDuplicateGroups order qsos options).flatMap CandidateGroup.losers

/-- The purge only drops true duplicates. -/
structure DropsTrueDuplicates (order : HashOrder) (qsos : List QsoRecord) (options : Options) :
    Prop where
  active : ∀ g ∈ findDuplicateGroups order qsos options, ∀ r ∈ g.losers, Active qsos r
  once : (((findDuplicateGroups order qsos options).flatMap CandidateGroup.members).map
    QsoRecord.localId).Nodup
  matching : ∀ g ∈ findDuplicateGroups order qsos options, ∀ r ∈ g.losers,
    qsosMatch r g.keeper options.timeWindowMs = true
  logid : ∀ g ∈ findDuplicateGroups order qsos options, ∀ r ∈ g.losers, ∀ logid,
    nonEmptyTrimmed r.qrzLogid = some logid → nonEmptyTrimmed g.keeper.qrzLogid = some logid
  unordered : ∀ (order' : HashOrder) (qsos' : List QsoRecord), qsos'.Perm qsos →
    ∀ r, r ∈ losersOf order' qsos' options ↔ r ∈ losersOf order qsos options

theorem logid_of_safe (h : isSafeLoser k (score k) r options = true) {logid : String}
    (hlogid : nonEmptyTrimmed r.qrzLogid = some logid) :
    nonEmptyTrimmed k.qrzLogid = some logid := by
  have hhas : hasLogid r = true := by
    obtain ⟨htrimmed, hne⟩ := Option.filter_eq_some_iff.mp hlogid
    obtain ⟨value, hvalue, rfl⟩ := Option.map_eq_some_iff.mp htrimmed
    rw [hasLogid, hvalue]
    exact hne
  rw [isSafeLoser] at h
  split at h
  · rename_i hsame
    rw [sameNonEmptyLogid, hlogid] at hsame
    cases hk : nonEmptyTrimmed k.qrzLogid with
    | none =>
        rw [hk] at hsame
        cases hsame
    | some logid' =>
        rw [hk] at hsame
        rw [eq_of_beq hsame]
  · rw [hhas] at h
    simp at h

theorem mem_losersOf (hdistinct : DistinctIds qsos) (order : HashOrder) :
    r ∈ losersOf order qsos options ↔ ∃ k, Drops qsos options k r := by
  rw [losersOf, List.mem_flatMap]
  constructor
  · rintro ⟨g, hg, hr⟩
    exact ⟨g.keeper, (mem_losers_iff hdistinct order).mp ⟨g, hg, rfl, hr⟩⟩
  · rintro ⟨k, hdrops⟩
    obtain ⟨g, hg, -, hr⟩ := (mem_losers_iff hdistinct order).mpr hdrops
    exact ⟨g, hg, hr⟩

theorem Drops.of_perm {qsos' : List QsoRecord} (hperm : qsos.Perm qsos')
    (h : Drops qsos options k r) : Drops qsos' options k r where
  active := ⟨hperm.mem_iff.mp h.active.1, h.active.2⟩
  linked := h.linked.of_perm hperm
  best s hs := h.best s (hs.of_perm hperm.symm)
  isSafe := h.isSafe

/-- **The purge only drops true duplicates iff all chains match.** -/
theorem dropsTrueDuplicates_iff (order : HashOrder) (qsos : List QsoRecord) (options : Options)
    (hdistinct : DistinctIds qsos) :
    DropsTrueDuplicates order qsos options ↔ ChainsMatch qsos options := by
  have hdrops : ∀ g ∈ findDuplicateGroups order qsos options, ∀ r ∈ g.losers,
      Drops qsos options g.keeper r :=
    fun g hg r hr => (mem_losers_iff hdistinct order).mp ⟨g, hg, rfl, hr⟩
  constructor
  · intro h k r hactive hlinked hbest hsafe
    obtain ⟨g, hg, rfl, hr⟩ :=
      (mem_losers_iff hdistinct order).mpr ⟨hactive, hlinked, hbest, hsafe⟩
    exact h.matching g hg r hr
  · intro h
    refine ⟨fun g hg r hr => ?_, ?_, fun g hg r hr => ?_, fun g hg r hr logid hlogid => ?_,
      fun order' qsos' hperm r => ?_⟩
    · obtain ⟨hactive, hlinked, -, -⟩ := hdrops g hg r hr
      exact hlinked.active hactive
    · obtain ⟨l, hl, hsub⟩ := members_subperm order qsos options
      exact (hl.map _).nodup_iff.mp (hdistinct.sublist (hsub.map _))
    · obtain ⟨hactive, hlinked, hbest, hsafe⟩ := hdrops g hg r hr
      exact h g.keeper r hactive hlinked hbest hsafe
    · exact logid_of_safe (hdrops g hg r hr).isSafe hlogid
    · have hdistinct' : DistinctIds qsos' := (hperm.map _).nodup_iff.mpr hdistinct
      rw [mem_losersOf hdistinct', mem_losersOf hdistinct]
      exact exists_congr fun k => ⟨Drops.of_perm hperm, Drops.of_perm hperm.symm⟩

/-! ### Three contacts a minute apart -/

/-- A hash map that gives its values as they came. -/
def inOrder : HashOrder := ⟨id, fun _ => .refl _⟩

/-- A contact with one station at some second. -/
def contactAt (localId : String) (seconds : ℤ) (status : SyncStatus) : QsoRecord where
  localId
  stationCallsign := "W1AW"
  workedCallsign := "K7ABC"
  utcTimestamp := some ⟨seconds, 0⟩
  band := 9
  mode := 14
  createdAt := some ⟨seconds, 0⟩
  syncStatus := status.toI32

/-- The first one is at the logbook service. -/
def minutely : List QsoRecord :=
  [contactAt "first" 1700000000 .synced, contactAt "second" 1700000060 .localOnly,
    contactAt "third" 1700000120 .localOnly]

/-- A window of one minute. -/
def minuteWindow : Options := { timeWindowMs := 60000 }

/-- Is there a loser that does not match its keeper? -/
def dropsApart (order : HashOrder) (qsos : List QsoRecord) (options : Options) : Bool :=
  (findDuplicateGroups order qsos options).any fun g =>
    g.losers.any fun r => !qsosMatch r g.keeper options.timeWindowMs

/-- The third contact is dropped in favour of the first, two minutes away. -/
theorem minutely_drops_apart :
    DistinctIds minutely ∧ ¬ DropsTrueDuplicates inOrder minutely minuteWindow := by
  have hapart : dropsApart inOrder minutely minuteWindow = true := by decide +kernel
  refine ⟨by unfold DistinctIds; decide, fun h => ?_⟩
  obtain ⟨g, hg, hlosers⟩ := List.any_eq_true.mp hapart
  obtain ⟨r, hr, hno⟩ := List.any_eq_true.mp hlosers
  rw [h.matching g hg r hr] at hno
  cases hno

/-- The first two contacts alone. -/
def twoMinutes : List QsoRecord := minutely.take 2

/-- Of two contacts a minute apart only the worse one is dropped. -/
theorem dropsTrueDuplicates_twoMinutes :
    (losersOf inOrder twoMinutes minuteWindow).map QsoRecord.localId = ["second"]
    ∧ DropsTrueDuplicates inOrder twoMinutes minuteWindow := by
  have hdistinct : DistinctIds twoMinutes := by
    unfold DistinctIds
    decide
  have hpairs : ∀ k ∈ twoMinutes, ∀ r ∈ twoMinutes,
      isSafeLoser k (score k) r minuteWindow = true → qsosMatch r k 60000 = true := by
    decide +kernel
  refine ⟨by decide +kernel, (dropsTrueDuplicates_iff inOrder twoMinutes minuteWindow
    hdistinct).mpr ?_⟩
  intro k r hactive hlinked _ hsafe
  exact hpairs k hactive.1 r (hlinked.active hactive).1 hsafe

end QsoRipper.PurgeDuplicates
