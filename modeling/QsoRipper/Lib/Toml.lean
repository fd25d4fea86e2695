/-
QsoRipper/Lib/Toml.lean

TOML documents, as what they say: values, and tables that are lists of keys with
their values.  A table is changed by removing and inserting keys, built from
fields that may be absent, and read field by field.
-/
import QsoRipper.Lib.FloatText

/-- A TOML value. -/
inductive Toml where
  | string (value : String)
  | integer (value : Int64)
  | float (value : Float64)
  | boolean (value : Bool)
  | datetime (text : String)
  | array (values : List Toml)
  | table (entries : List (String × Toml))

namespace Toml

/-- A table: keys with their values, in order. -/
abbrev Table := List (String × Toml)

namespace Table

variable (t : Table) (key : String)

/-- The value of a key. -/
def get? : Option Toml := t.lookup key

/-- Without a key. -/
def remove : Table := t.filter fun entry => entry.1 != key

/-- With a key set: where it stands, or at the end. -/
def insert (value : Toml) : Table → Table
  | [] => [(key, value)]
  | entry :: rest =>
      if entry.1 = key then (key, value) :: rest else entry :: insert value rest

/-- The table of the fields that are present. -/
def ofFields (fields : List (String × Option Toml)) : Table :=
  fields.filterMap fun field => field.2.map (Prod.mk field.1)

variable {t key}

@[simp] theorem get?_nil : get? [] key = none := rfl

theorem get?_cons {entry : String × Toml} :
    get? (entry :: t) key = if key = entry.1 then some entry.2 else get? t key := by
  obtain ⟨k, v⟩ := entry
  rw [get?, List.lookup_cons]
  by_cases hk : key = k
  · rw [hk, beq_self_eq_true, if_pos rfl]
  · rw [beq_false_of_ne hk, if_neg hk]
    rfl

theorem get?_append {u : Table} : get? (t ++ u) key = (get? t key).or (get? u key) := by
  induction t with
  | nil => rfl
  | cons entry t ih =>
      rw [List.cons_append, get?_cons, get?_cons, ih]
      split_ifs <;> rfl

theorem get?_remove {other : String} :
    (t.remove other).get? key = if key = other then none else t.get? key := by
  induction t with
  | nil => simp [remove]
  | cons entry t ih =>
      rw [get?_cons, remove]
      by_cases hentry : entry.1 = other
      · rw [List.filter_cons_of_neg (by simp [hentry])]
        refine ih.trans ?_
        rw [hentry]
        split_ifs <;> rfl
      · rw [List.filter_cons_of_pos (by simpa using hentry), get?_cons]
        have hrest : get? (t.filter fun entry => entry.1 != other) key = _ := ih
        rw [hrest]
        by_cases hkey : key = entry.1
        · rw [if_pos hkey, if_pos hkey, if_neg (hkey ▸ hentry)]
        · rw [if_neg hkey, if_neg hkey]

theorem insert_of_get?_none {value : Toml} (h : t.get? key = none) :
    insert key value t = t ++ [(key, value)] := by
  induction t with
  | nil => rfl
  | cons entry t ih =>
      rw [get?_cons] at h
      split_ifs at h with hkey
      rw [insert, if_neg (Ne.symm hkey), ih h, List.cons_append]

/-- Inserting keys that are not there yet. -/
theorem foldl_insert {entries : Table} (hnodup : (entries.map Prod.fst).Nodup)
    (hnew : ∀ entry ∈ entries, t.get? entry.1 = none) :
    entries.foldl (fun t entry => insert entry.1 entry.2 t) t = t ++ entries := by
  induction entries generalizing t with
  | nil => exact (List.append_nil t).symm
  | cons entry entries ih =>
      obtain ⟨hnotin, hrest⟩ := List.nodup_cons.mp hnodup
      obtain ⟨hentry, hothers⟩ := List.forall_mem_cons.mp hnew
      rw [List.foldl_cons, insert_of_get?_none hentry, ih hrest]
      · exact List.append_assoc t [entry] entries
      · intro other hother
        rw [get?_append, hothers other hother, Option.none_or, get?_cons, if_neg, get?_nil]
        intro heq
        exact hnotin (heq ▸ List.mem_map_of_mem hother)

@[simp] theorem remove_append {u : Table} : remove (t ++ u) key = t.remove key ++ u.remove key :=
  List.filter_append t u

theorem foldl_remove {keys : List String} :
    keys.foldl remove t = t.filter fun entry => decide (entry.1 ∉ keys) := by
  induction keys generalizing t with
  | nil => simp
  | cons key keys ih =>
      rw [List.foldl_cons, ih, remove, List.filter_filter]
      refine List.filter_congr fun entry _ => ?_
      by_cases hkey : entry.1 = key <;> simp [hkey]

theorem get?_foldl_remove {keys : List String} :
    get? (keys.foldl remove t) key = if key ∈ keys then none else get? t key := by
  induction keys generalizing t with
  | nil => simp
  | cons other keys ih =>
      rw [List.foldl_cons, ih, get?_remove]
      simp only [List.mem_cons]
      split_ifs <;> tauto

theorem get?_ofFields {fields : List (String × Option Toml)}
    (hnodup : (fields.map Prod.fst).Nodup) :
    (ofFields fields).get? key = (fields.lookup key).join := by
  induction fields with
  | nil => rfl
  | cons field fields ih =>
      obtain ⟨name, value⟩ := field
      obtain ⟨hnotin, hrest⟩ := List.nodup_cons.mp hnodup
      have hskip : key = name → (ofFields fields).get? key = none := by
        rintro rfl
        rw [ih hrest, List.lookup_eq_none_iff.mpr, Option.join_none]
        intro entry hentry
        exact bne_iff_ne.mpr fun heq => hnotin (List.mem_map.mpr ⟨entry, hentry, heq.symm⟩)
      rw [List.lookup_cons]
      rcases value with - | value
      · rw [show ofFields ((name, none) :: fields) = ofFields fields from rfl]
        by_cases hk : key = name
        · rw [hskip hk, hk, beq_self_eq_true]
          rfl
        · rw [beq_false_of_ne hk]
          exact ih hrest
      · have hcons : ofFields ((name, some value) :: fields) = (name, value) :: ofFields fields := rfl
        rw [hcons, get?_cons]
        by_cases hk : key = name
        · rw [if_pos hk, hk, beq_self_eq_true]
          rfl
        · rw [if_neg hk, beq_false_of_ne hk]
          exact ih hrest

theorem fst_mem_of_mem_ofFields {fields : List (String × Option Toml)} {entry : String × Toml}
    (h : entry ∈ ofFields fields) : entry.1 ∈ fields.map Prod.fst := by
  obtain ⟨field, hfield, hvalue⟩ := List.mem_filterMap.mp h
  obtain ⟨value, -, rfl⟩ := Option.map_eq_some_iff.mp hvalue
  exact List.mem_map_of_mem hfield

theorem map_fst_ofFields {fields : List (String × Option Toml)} :
    ((ofFields fields).map Prod.fst).Sublist (fields.map Prod.fst) := by
  induction fields with
  | nil => exact List.Sublist.refl _
  | cons field fields ih =>
      obtain ⟨name, value⟩ := field
      rcases value with - | value
      · exact ih.cons name
      · exact ih.cons_cons name

/-- Fields of the same keys are determined by their table. -/
theorem ofFields_injective {fields fields' : List (String × Option Toml)}
    (hkeys : fields.map Prod.fst = fields'.map Prod.fst) (hnodup : (fields.map Prod.fst).Nodup)
    (h : ofFields fields = ofFields fields') : fields = fields' := by
  induction fields generalizing fields' with
  | nil => exact (List.map_eq_nil_iff.mp hkeys.symm).symm
  | cons field fields ih =>
      obtain ⟨name, value⟩ := field
      rcases fields' with - | ⟨⟨name', value'⟩, fields'⟩
      · cases hkeys
      · obtain ⟨rfl, hrest⟩ := List.cons.inj hkeys
        obtain ⟨hnotin, hothers⟩ := List.nodup_cons.mp hnodup
        rcases value with - | value <;> rcases value' with - | value'
        · rw [ih hrest hothers h]
        · -- the key would stand in one table only
          have hmem : (name, value') ∈ ofFields fields := h ▸ List.mem_cons_self
          exact absurd (fst_mem_of_mem_ofFields hmem) hnotin
        · have hmem : (name, value) ∈ ofFields fields' := h ▸ List.mem_cons_self
          exact absurd (hrest ▸ fst_mem_of_mem_ofFields hmem) hnotin
        · obtain ⟨hvalue, htail⟩ := List.cons.inj h
          cases hvalue
          rw [ih hrest hothers htail]

end Table

/-! ### Reading a field -/

/-- A field that may be absent; one of another type is an error. -/
def Table.optional {α : Type} (t : Table) (key : String) (read : Toml → Option α) :
    Option (Option α) :=
  match t.get? key with
  | none => some none
  | some value => (read value).map some

/-- A field with a default. -/
def Table.withDefault {α : Type} (t : Table) (key : String) (default : α)
    (read : Toml → Option α) : Option α :=
  match t.get? key with
  | none => some default
  | some value => read value

/-- A text. -/
def string? : Toml → Option String
  | string value => some value
  | _ => none

/-- A boolean. -/
def boolean? : Toml → Option Bool
  | boolean value => some value
  | _ => none

/-- An integer of an unsigned type with `bound` values. -/
def unsigned? (bound : ℕ) : Toml → Option ℕ
  | integer value =>
      if 0 ≤ value.toInt ∧ value.toInt < bound then some value.toInt.toNat else none
  | _ => none

/-- A float, for which an integer may stand. -/
def float? : Toml → Option Float64
  | float value => some value
  | integer value => some (Float64.ofInt value.toInt)
  | _ => none

/-- A table. -/
def table? : Toml → Option Table
  | table entries => some entries
  | _ => none

/-- An array of tables. -/
def tables? : Toml → Option (List Table)
  | array values => values.mapM table?
  | _ => none

/-- A natural number as an integer. -/
def unsigned (n : ℕ) : Toml := integer (.ofNat n)

@[simp] theorem string?_string (value : String) : (string value).string? = some value := rfl

@[simp] theorem boolean?_boolean (value : Bool) : (boolean value).boolean? = some value := rfl

@[simp] theorem float?_float (value : Float64) : (float value).float? = some value := rfl

@[simp] theorem table?_table (entries : Table) : (table entries).table? = some entries := rfl

theorem toInt_ofNat {n : ℕ} (h : n < 2 ^ 63) : (Int64.ofNat n).toInt = n := by
  rw [Int64.toInt_ofNat']
  have hsize : Int64.size = 2 ^ 64 := rfl
  exact Int.bmod_eq_of_le (by omega) (by omega)

theorem unsigned?_unsigned {bound n : ℕ} (h : n < 2 ^ 63) :
    (unsigned n).unsigned? bound = if n < bound then some n else none := by
  rw [unsigned, unsigned?, toInt_ofNat h]
  by_cases hn : n < bound
  · rw [if_pos hn, if_pos ⟨Int.natCast_nonneg n, Int.ofNat_lt.mpr hn⟩, Int.toNat_natCast]
  · rw [if_neg hn, if_neg (fun h' => hn (Int.ofNat_lt.mp h'.2))]

section Fields

variable {fields : List (String × Option Toml)} {key : String}

/-- Reading back a field that may be absent. -/
theorem optional_ofFields {α : Type} {value : Option α} {write : α → Toml} {read : Toml → Option α}
    (hnodup : (fields.map Prod.fst).Nodup) (hlookup : fields.lookup key = some (value.map write)) :
    (Table.ofFields fields).optional key read = value.elim (some none) fun v =>
      (read (write v)).map some := by
  rw [Table.optional, Table.get?_ofFields hnodup, hlookup]
  cases value <;> rfl

theorem optional_string (hnodup : (fields.map Prod.fst).Nodup) (value : Option String)
    (hlookup : fields.lookup key = some (value.map string)) :
    (Table.ofFields fields).optional key string? = some value := by
  rw [optional_ofFields hnodup hlookup]
  cases value <;> rfl

theorem optional_boolean (hnodup : (fields.map Prod.fst).Nodup) (value : Option Bool)
    (hlookup : fields.lookup key = some (value.map boolean)) :
    (Table.ofFields fields).optional key boolean? = some value := by
  rw [optional_ofFields hnodup hlookup]
  cases value <;> rfl

theorem optional_float (hnodup : (fields.map Prod.fst).Nodup) (value : Option Float64)
    (hlookup : fields.lookup key = some (value.map float)) :
    (Table.ofFields fields).optional key float? = some value := by
  rw [optional_ofFields hnodup hlookup]
  cases value <;> rfl

theorem optional_unsigned {bound : ℕ} (hnodup : (fields.map Prod.fst).Nodup) (value : Option ℕ)
    (hlookup : fields.lookup key = some (value.map unsigned)) (hfits : ∀ n ∈ value, n < 2 ^ 63) :
    (Table.ofFields fields).optional key (unsigned? bound)
      = if ∀ n ∈ value, n < bound then some value else none := by
  rw [optional_ofFields hnodup hlookup]
  rcases value with - | n
  · rw [if_pos (fun n hn => nomatch hn)]
    rfl
  · rw [Option.elim_some, unsigned?_unsigned (hfits n rfl)]
    by_cases hn : n < bound
    · rw [if_pos hn, if_pos (by rintro m ⟨⟩; exact hn)]
      rfl
    · rw [if_neg hn, if_neg fun hall => hn (hall n rfl)]
      rfl

end Fields

/-- A number that is read fits an `i64`. -/
theorem lt_of_unsigned? {bound n : ℕ} {value : Toml} (h : value.unsigned? bound = some n) :
    n < 2 ^ 63 := by
  cases value with
  | integer value =>
      rw [unsigned?] at h
      split_ifs at h with hrange
      cases h
      have hlt := value.toInt_lt
      omega
  | _ => cases h

theorem lt_of_optional {t : Table} {key : String} {bound : ℕ} {value : Option ℕ}
    (h : t.optional key (unsigned? bound) = some value) : ∀ n ∈ value, n < 2 ^ 63 := by
  rintro n rfl
  rw [Table.optional] at h
  rcases hitem : t.get? key with - | item
  · rw [hitem] at h
    cases h
  · rw [hitem] at h
    obtain ⟨m, hm, heq⟩ := Option.map_eq_some_iff.mp h
    cases heq
    exact lt_of_unsigned? hm

theorem tables?_map (tables : List Table) : (array (tables.map table)).tables? = some tables := by
  rw [tables?]
  induction tables with
  | nil => rfl
  | cons t tables ih =>
      rw [List.map_cons, List.mapM_cons, table?_table, ih]
      rfl

end Toml
