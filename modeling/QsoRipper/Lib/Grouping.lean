/-
QsoRipper/Lib/Grouping.lean

Entries pushed into a map from keys to lists.  The list of a key holds the
values that were pushed under it, in that order, and no list is empty.
-/
import Mathlib.Data.List.Induction
import Mathlib.Data.List.Nodup
import Mathlib.Logic.Function.Basic

namespace Grouping

variable {κ α : Type*} [DecidableEq κ]

/-- `entry(key).or_default().push(value)`. -/
def pushEntry (key : κ) (value : α) : List (κ × List α) → List (κ × List α)
  | [] => [(key, [value])]
  | (k, values) :: rest =>
      if k = key then (k, values ++ [value]) :: rest else (k, values) :: pushEntry key value rest

/-- The map after a list of entries. -/
def grouped (entries : List (κ × α)) : List (κ × List α) :=
  entries.foldl (fun map entry => pushEntry entry.1 entry.2 map) []

/-- The values under a key. -/
def valuesOf (key : κ) (entries : List (κ × α)) : List α :=
  (entries.filter fun entry => entry.1 = key).map Prod.snd

/-- The map holds these lists. -/
structure Holds (map : List (κ × List α)) (lists : κ → List α) : Prop where
  nodup : (map.map Prod.fst).Nodup
  mem : ∀ key values, (key, values) ∈ map ↔ values = lists key ∧ values ≠ []

variable {key k : κ} {value : α} {map : List (κ × List α)} {values : List α}

theorem mem_keys_pushEntry :
    k ∈ (pushEntry key value map).map Prod.fst ↔ k = key ∨ k ∈ map.map Prod.fst := by
  induction map with
  | nil => simp [pushEntry]
  | cons entry rest ih =>
      obtain ⟨k', values'⟩ := entry
      rw [pushEntry]
      split
      · rename_i heq
        simp only [List.map_cons, List.mem_cons, heq]
        tauto
      · simp only [List.map_cons, List.mem_cons, ih]
        tauto

theorem nodup_keys_pushEntry (h : (map.map Prod.fst).Nodup) :
    ((pushEntry key value map).map Prod.fst).Nodup := by
  induction map with
  | nil => simp [pushEntry]
  | cons entry rest ih =>
      obtain ⟨k', values'⟩ := entry
      rw [List.map_cons, List.nodup_cons] at h
      rw [pushEntry]
      split
      · rw [List.map_cons, List.nodup_cons]
        exact h
      · rename_i hne
        rw [List.map_cons, List.nodup_cons, mem_keys_pushEntry]
        refine ⟨?_, ih h.2⟩
        rintro (heq | hmem)
        · exact hne heq
        · exact h.1 hmem

/-- Another key keeps its list. -/
theorem mem_pushEntry_of_ne (hne : k ≠ key) :
    (k, values) ∈ pushEntry key value map ↔ (k, values) ∈ map := by
  induction map with
  | nil => simp [pushEntry, hne]
  | cons entry rest ih =>
      obtain ⟨k', values'⟩ := entry
      rw [pushEntry]
      split
      · rename_i heq
        simp only [List.mem_cons, Prod.mk.injEq, heq, hne, false_and, false_or]
      · simp only [List.mem_cons, ih]

/-- The key's list gets the value. -/
theorem mem_pushEntry_self (hnodup : (map.map Prod.fst).Nodup) :
    (key, values) ∈ pushEntry key value map
      ↔ (∃ old, (key, old) ∈ map ∧ values = old ++ [value])
        ∨ key ∉ map.map Prod.fst ∧ values = [value] := by
  induction map with
  | nil => simp [pushEntry]
  | cons entry rest ih =>
      obtain ⟨k', values'⟩ := entry
      rw [List.map_cons, List.nodup_cons] at hnodup
      rw [pushEntry]
      split
      · rename_i heq
        subst heq
        have hout : ∀ v, (k', v) ∉ rest := fun v hv =>
          hnodup.1 (List.mem_map.mpr ⟨(k', v), hv, rfl⟩)
        simp only [List.mem_cons, Prod.mk.injEq, true_and, hout, or_false, List.map_cons,
          true_or, not_true_eq_false, false_and, exists_eq_left]
      · rename_i hne
        have hne' : key ≠ k' := Ne.symm hne
        simp only [List.mem_cons, Prod.mk.injEq, hne', false_and, false_or, ih hnodup.2,
          List.map_cons]

/-- **One more entry.** -/
theorem Holds.push {lists : κ → List α} (h : Holds map lists) (key : κ) (value : α) :
    Holds (pushEntry key value map) (Function.update lists key (lists key ++ [value])) := by
  refine ⟨nodup_keys_pushEntry h.nodup, fun k values => ?_⟩
  by_cases hk : k = key
  · subst hk
    rw [mem_pushEntry_self h.nodup, Function.update_self]
    have hkey : k ∈ map.map Prod.fst ↔ lists k ≠ [] := by
      constructor
      · intro hmem
        obtain ⟨⟨k', values'⟩, hentry, rfl⟩ := List.mem_map.mp hmem
        obtain ⟨rfl, hne⟩ := (h.mem _ _).mp hentry
        exact hne
      · intro hne
        exact List.mem_map.mpr ⟨(k, lists k), (h.mem _ _).mpr ⟨rfl, hne⟩, rfl⟩
    constructor
    · rintro (⟨old, hold, rfl⟩ | ⟨hout, rfl⟩)
      · obtain ⟨rfl, -⟩ := (h.mem _ _).mp hold
        exact ⟨rfl, by simp⟩
      · have hempty : lists k = [] := not_not.mp fun hne => hout (hkey.mpr hne)
        exact ⟨by rw [hempty, List.nil_append], by simp⟩
    · rintro ⟨rfl, -⟩
      by_cases hempty : lists k = []
      · exact .inr ⟨fun hmem => hkey.mp hmem hempty, by rw [hempty, List.nil_append]⟩
      · exact .inl ⟨lists k, (h.mem _ _).mpr ⟨rfl, hempty⟩, rfl⟩
  · rw [mem_pushEntry_of_ne hk, Function.update_of_ne hk]
    exact h.mem k values

/-- **The map holds the values of each key.** -/
theorem grouped_holds (entries : List (κ × α)) :
    Holds (grouped entries) (fun key => valuesOf key entries) := by
  induction entries using List.reverseRecOn with
  | nil =>
      refine ⟨List.nodup_nil, fun key values => ?_⟩
      constructor
      · exact fun h => absurd h List.not_mem_nil
      · rintro ⟨rfl, hne⟩
        exact absurd rfl hne
  | append_singleton entries entry ih =>
      have hgrouped : grouped (entries ++ [entry])
          = pushEntry entry.1 entry.2 (grouped entries) := by
        rw [grouped, List.foldl_append]
        rfl
      have hvalues : (fun key => valuesOf key (entries ++ [entry]))
          = Function.update (fun key => valuesOf key entries) entry.1
            (valuesOf entry.1 entries ++ [entry.2]) := by
        funext key
        rw [valuesOf, List.filter_append, List.map_append]
        by_cases hkey : key = entry.1
        · subst hkey
          rw [Function.update_self]
          simp [valuesOf]
        · rw [Function.update_of_ne hkey]
          simp [valuesOf, Ne.symm hkey]
      rw [hgrouped, hvalues]
      exact ih.push entry.1 entry.2

/-- A value that is pushed is held once more. -/
theorem flatMap_pushEntry_perm (key : κ) (value : α) (map : List (κ × List α)) :
    ((pushEntry key value map).flatMap Prod.snd).Perm (map.flatMap Prod.snd ++ [value]) := by
  induction map with
  | nil => exact .refl _
  | cons entry rest ih =>
      obtain ⟨k, values⟩ := entry
      rw [pushEntry]
      split
      · rw [List.flatMap_cons, List.flatMap_cons, List.append_assoc, List.append_assoc]
        exact List.perm_append_comm.append_left values
      · rw [List.flatMap_cons, List.flatMap_cons, List.append_assoc]
        exact ih.append_left values

/-- The map holds all the values. -/
theorem flatMap_grouped_perm (entries : List (κ × α)) :
    ((grouped entries).flatMap Prod.snd).Perm (entries.map Prod.snd) := by
  induction entries using List.reverseRecOn with
  | nil => exact .refl _
  | append_singleton entries entry ih =>
      rw [grouped, List.foldl_append, List.map_append]
      exact (flatMap_pushEntry_perm entry.1 entry.2 (grouped entries)).trans (ih.append_right _)

end Grouping
