/-
QsoRipper/Tui/ExtraFields.lean

The extra fields of a contact as `KEY=value` lines.  What reads back is exactly the
maps whose keys and values are what the parser could have made.
-/
import QsoRipper.Tui.Grpc

namespace QsoRipper.Tui

open Text

/-! ### Plain fields -/

/-- A key and a value that a line can hold: trimmed, without a line break, and the key
not empty, in upper case and without an equals sign. -/
structure PlainField (key value : String) : Prop where
  key_ne : key ≠ ""
  key_trim : trim key = key
  key_upper : toAsciiUppercase key = key
  key_eq : '=' ∉ key.toList
  key_line : '\n' ∉ key.toList
  value_trim : trim value = value
  value_line : '\n' ∉ value.toList

/-- Every field is plain. -/
def PlainFields (fields : Std.ExtTreeMap String String) : Prop :=
  ∀ key value, fields[key]? = some value → PlainField key value

/-! ### What is read is plain -/

theorem parseExtraLine_plain {fields fields' : Std.ExtTreeMap String String} {line : String × ℕ}
    (hline : '\n' ∉ line.1.toList) (hplain : PlainFields fields)
    (h : parseExtraLine fields line = .ok fields') : PlainFields fields' := by
  unfold parseExtraLine at h
  dsimp only at h
  split_ifs at h with hblank
  · cases h
    exact hplain
  · cases hsplit : splitOnce '=' (trim line.1) with
    | none =>
        rw [hsplit] at h
        cases h
    | some entry =>
        obtain ⟨key, value⟩ := entry
        rw [hsplit] at h
        dsimp only at h
        split_ifs at h with hkey
        cases h
        obtain ⟨hkeySub, hvalueSub⟩ := splitOnce_subset hsplit
        have hbreak {s : String} (hs : s.toList ⊆ (trim line.1).toList) : '\n' ∉ (trim s).toList :=
          fun hmem => hline (trim_subset _ (hs (trim_subset _ hmem)))
        have hsign : '=' ∉ (trim key).toList :=
          fun hmem => splitOnce_notMem hsplit (trim_subset _ hmem)
        intro k v hget
        rw [Std.ExtTreeMap.getElem?_insert] at hget
        split_ifs at hget with hcmp
        · cases hget
          cases Std.LawfulEqCmp.compare_eq_iff_eq.mp hcmp
          exact
            { key_ne := hkey
              key_trim := trim_toAsciiUppercase (trim_trim key)
              key_upper := toAsciiUppercase_toAsciiUppercase _
              key_eq := notMem_toAsciiUppercase (by decide) hsign
              key_line := notMem_toAsciiUppercase (by decide) (hbreak hkeySub)
              value_trim := trim_trim value
              value_line := hbreak hvalueSub }
        · exact hplain k v hget

theorem parseExtraLines_plain {lines : List (String × ℕ)}
    {fields fields' : Std.ExtTreeMap String String} (hlines : ∀ line ∈ lines, '\n' ∉ line.1.toList)
    (hplain : PlainFields fields) (h : lines.foldlM parseExtraLine fields = .ok fields') :
    PlainFields fields' := by
  induction lines generalizing fields with
  | nil =>
      cases h
      exact hplain
  | cons line lines ih =>
      rw [List.foldlM_cons] at h
      cases hfirst : parseExtraLine fields line with
      | error e =>
          rw [hfirst] at h
          cases h
      | ok next =>
          rw [hfirst] at h
          refine ih (fun line hmem => hlines line (List.mem_cons_of_mem _ hmem)) ?_ h
          exact parseExtraLine_plain (hlines line List.mem_cons_self) hplain hfirst

/-- **Whatever is read is plain.** -/
theorem parseExtraFields_plain {text : String} {fields : Std.ExtTreeMap String String}
    (h : parseExtraFields text = .ok fields) : PlainFields fields := by
  refine parseExtraLines_plain (fun line hmem => ?_) ?_ h
  · exact notMem_of_mem_lines (List.of_mem_zip (List.zipIdx_eq_zip_range' ▸ hmem)).1
  · intro key value hget
    rw [Std.ExtTreeMap.getElem?_empty] at hget
    cases hget

/-! ### What is plain reads back -/

/-- A field on its line. -/
def extraLine (entry : String × String) : String := entry.1 ++ "=" ++ entry.2

theorem extraLine_toList (entry : String × String) :
    (extraLine entry).toList = entry.1.toList ++ '=' :: entry.2.toList := by
  simp [extraLine]

/-- The last character of a line: that of the value, or the equals sign. -/
theorem PlainField.getLast_line {key value : String} (h : PlainField key value) :
    ∀ c ∈ (extraLine (key, value)).toList.getLast?, isWhitespace c = false := by
  rw [extraLine_toList, List.getLast?_append_cons]
  intro c hc
  cases hvalue : value.toList with
  | nil =>
      rw [hvalue] at hc
      cases hc
      decide
  | cons d ds =>
      have hlast := (trim_eq_self_iff.mp h.value_trim).2
      rw [hvalue] at hc hlast
      rw [List.getLast?_cons_cons] at hc
      exact hlast c hc

theorem PlainField.trim_line {key value : String} (h : PlainField key value) :
    trim (extraLine (key, value)) = extraLine (key, value) := by
  refine trim_eq_self_iff.mpr ⟨fun c hc => ?_, h.getLast_line⟩
  rw [extraLine_toList] at hc
  cases hkey : key.toList with
  | nil => exact absurd (String.toList_eq_nil_iff.mp hkey) h.key_ne
  | cons d ds =>
      have hfirst := (trim_eq_self_iff.mp h.key_trim).1
      rw [hkey] at hc hfirst
      exact hfirst c hc

theorem PlainField.isLine {key value : String} (h : PlainField key value) :
    IsLine (extraLine (key, value)) := by
  constructor
  · rw [extraLine_toList]
    intro hmem
    rcases List.mem_append.mp hmem with hmem | hmem
    · exact h.key_line hmem
    · rcases List.mem_cons.mp hmem with hmem | hmem
      · exact absurd hmem (by decide)
      · exact h.value_line hmem
  · intro hlast
    exact absurd (h.getLast_line _ hlast) (by decide)

theorem extraLine_ne (entry : String × String) : extraLine entry ≠ "" := by
  intro hempty
  have hlist := extraLine_toList entry
  rw [hempty] at hlist
  exact absurd hlist.symm (by simp)

theorem PlainField.parse {key value : String} (h : PlainField key value)
    (fields : Std.ExtTreeMap String String) (n : ℕ) :
    parseExtraLine fields (extraLine (key, value), n) = .ok (fields.insert key value) := by
  have hsplit : splitOnce '=' (extraLine (key, value)) = some (key, value) :=
    splitOnce_append h.key_eq
  unfold parseExtraLine
  dsimp only
  rw [h.trim_line, if_neg (extraLine_ne _), hsplit]
  dsimp only
  rw [h.key_trim, h.key_upper, if_neg h.key_ne, h.value_trim]

theorem parseExtraLines {entries : List (String × String)}
    (h : ∀ entry ∈ entries, PlainField entry.1 entry.2) (fields : Std.ExtTreeMap String String)
    (n : ℕ) :
    ((entries.map extraLine).zipIdx n).foldlM parseExtraLine fields
      = .ok (fields.insertMany entries) := by
  induction entries generalizing fields n with
  | nil => rfl
  | cons entry entries ih =>
      rw [List.map_cons, List.zipIdx_cons, List.foldlM_cons,
        (h entry List.mem_cons_self).parse fields n, Std.ExtTreeMap.insertMany_cons]
      exact ih (fun entry hmem => h entry (List.mem_cons_of_mem _ hmem)) _ _

/-- A map is what its entries make. -/
theorem insertMany_toList (fields : Std.ExtTreeMap String String) :
    (∅ : Std.ExtTreeMap String String).insertMany fields.toList = fields := by
  refine Std.ExtTreeMap.ext_getElem? fun key => ?_
  cases hget : fields[key]? with
  | some value =>
      exact Std.ExtTreeMap.getElem?_insertMany_list_of_mem Std.ReflCmp.compare_self
        Std.ExtTreeMap.distinct_keys_toList
        (Std.ExtTreeMap.mem_toList_iff_getElem?_eq_some.mpr hget)
  | none =>
      rw [Std.ExtTreeMap.getElem?_insertMany_list_of_contains_eq_false]
      · exact Std.ExtTreeMap.getElem?_empty
      · rw [List.contains_eq_any_beq, List.any_eq_false]
        intro key' hmem
        obtain ⟨entry, hentry, rfl⟩ := List.mem_map.mp hmem
        rw [Std.ExtTreeMap.mem_toList_iff_getElem?_eq_some] at hentry
        intro heq
        rw [← beq_iff_eq.mp heq, hget] at hentry
        cases hentry

/-- **What reads back** is the plain fields and no others. -/
theorem parseExtraFields_formatExtraFields {fields : Std.ExtTreeMap String String} :
    parseExtraFields (formatExtraFields fields) = .ok fields ↔ PlainFields fields := by
  refine ⟨parseExtraFields_plain, fun h => ?_⟩
  have hentries : ∀ entry ∈ fields.toList, PlainField entry.1 entry.2 := fun entry hmem =>
    h entry.1 entry.2 (Std.ExtTreeMap.mem_toList_iff_getElem?_eq_some.mp hmem)
  have hlines : lines (formatExtraFields fields) = fields.toList.map extraLine := by
    refine lines_intercalate (fun line hmem => ?_) fun line hmem => ?_
    · obtain ⟨entry, hentry, rfl⟩ := List.mem_map.mp hmem
      exact (hentries entry hentry).isLine
    · obtain ⟨entry, -, rfl⟩ := List.mem_map.mp hmem
      exact extraLine_ne entry
  rw [parseExtraFields, hlines, parseExtraLines hentries, insertMany_toList]

end QsoRipper.Tui
