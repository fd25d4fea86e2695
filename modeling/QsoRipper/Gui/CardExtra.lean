/-
QsoRipper/Gui/CardExtra.lean

The extra fields of a contact as lines of the card.  Carriage returns are dropped before the
lines are split, keys are put in capitals, and everything is trimmed; what reads back is
exactly the maps that this leaves as they are.
-/
import QsoRipper.Gui.CardTexts
import QsoRipper.Tui.ExtraFields

namespace QsoRipper.Gui

/-! ### Plain fields -/

/-- A text without line breaks. -/
def OneLine (s : String) : Prop := '\n' ∉ s.toList ∧ '\r' ∉ s.toList

/-- A key and a value that a line can hold. -/
structure PlainField (key value : String) : Prop where
  isToken : IsToken key
  key_eq : '=' ∉ key.toList
  key_line : OneLine key
  value_trim : Text.trim value = value
  value_line : OneLine value

/-- Every field is plain. -/
def PlainFields (fields : Std.ExtTreeMap String String) : Prop :=
  ∀ key value, fields[key]? = some value → PlainField key value

/-! ### What is read is plain -/

theorem OneLine.trim {s : String} (h : OneLine s) : OneLine (Text.trim s) :=
  ⟨fun hmem => h.1 (Text.trim_subset s hmem), fun hmem => h.2 (Text.trim_subset s hmem)⟩

theorem OneLine.of_subset {s t : String} (h : OneLine t) (hsub : s.toList ⊆ t.toList) : OneLine s :=
  ⟨fun hmem => h.1 (hsub hmem), fun hmem => h.2 (hsub hmem)⟩

theorem tryApplyExtraField_plain {fields fields' : Std.ExtTreeMap String String} {rawLine : String}
    (hline : OneLine rawLine) (hplain : PlainFields fields)
    (h : tryApplyExtraField fields rawLine = .ok fields') : PlainFields fields' := by
  unfold tryApplyExtraField at h
  dsimp only at h
  split_ifs at h with hblank
  · cases h
    exact hplain
  · cases hsplit : Text.splitOnce '=' (Text.trim rawLine) with
    | none =>
        rw [hsplit] at h
        cases h
    | some entry =>
        obtain ⟨name, value⟩ := entry
        rw [hsplit] at h
        dsimp only at h
        split_ifs at h with hname hkey
        cases h
        obtain ⟨hnameSub, hvalueSub⟩ := Text.splitOnce_subset hsplit
        have hnameLine := (hline.trim.of_subset hnameSub).trim
        have hsign : '=' ∉ (Text.trim name).toList :=
          fun hmem => Text.splitOnce_notMem hsplit (Text.trim_subset _ hmem)
        rw [String.isEmpty_iff] at hkey
        intro k v hget
        rw [Std.ExtTreeMap.getElem?_insert] at hget
        split_ifs at hget with hcmp
        · cases hget
          cases Std.LawfulEqCmp.compare_eq_iff_eq.mp hcmp
          exact
            { isToken := ⟨⟨hkey, trim_normalizeToken _ _⟩, NetText.toUpperInvariant_idem _⟩
              key_eq := NetText.notMem_toUpperInvariant (by decide) hsign
              key_line :=
                ⟨NetText.notMem_toUpperInvariant (by decide) hnameLine.1,
                  NetText.notMem_toUpperInvariant (by decide) hnameLine.2⟩
              value_trim := Text.trim_trim value
              value_line := (hline.trim.of_subset hvalueSub).trim }
        · exact hplain k v hget

theorem foldlM_tryApplyExtraField_plain {lines : List String}
    {fields fields' : Std.ExtTreeMap String String} (hlines : ∀ line ∈ lines, OneLine line)
    (hplain : PlainFields fields) (h : lines.foldlM tryApplyExtraField fields = .ok fields') :
    PlainFields fields' := by
  induction lines generalizing fields with
  | nil =>
      cases h
      exact hplain
  | cons line lines ih =>
      rw [List.foldlM_cons] at h
      cases hfirst : tryApplyExtraField fields line with
      | error e =>
          rw [hfirst] at h
          cases h
      | ok next =>
          rw [hfirst] at h
          refine ih (fun line hmem => hlines line (List.mem_cons_of_mem _ hmem)) ?_ h
          exact tryApplyExtraField_plain (hlines line List.mem_cons_self) hplain hfirst

/-- The lines that `TryApplyExtraFields` reads. -/
def extraLines (text : String) : List String :=
  ((text.toList.filter (· ≠ '\r')).splitOn '\n').map String.ofList

theorem oneLine_of_mem_extraLines {text line : String} (h : line ∈ extraLines text) :
    OneLine line := by
  obtain ⟨cs, hcs, rfl⟩ := List.mem_map.mp h
  refine ⟨?_, fun hmem => ?_⟩
  · rw [String.toList_ofList]
    exact Text.notMem_splitOn '\n' _ cs hcs
  · rw [String.toList_ofList] at hmem
    have hkept := (Text.sublist_of_mem_splitOn '\n' _ cs hcs).subset hmem
    have hne := (List.mem_filter.mp hkept).2
    exact absurd hne (by decide)

/-- **Whatever is read is plain.** -/
theorem tryApplyExtraFields_plain {text : String} {fields : Std.ExtTreeMap String String}
    (h : tryApplyExtraFields text = .ok fields) : PlainFields fields := by
  have hempty : PlainFields ∅ := by
    intro key value hget
    rw [Std.ExtTreeMap.getElem?_empty] at hget
    cases hget
  rw [tryApplyExtraFields] at h
  split_ifs at h
  · cases h
    exact hempty
  · exact foldlM_tryApplyExtraField_plain (fun line => oneLine_of_mem_extraLines) hempty h

/-! ### What is plain reads back -/

theorem PlainField.trim_line {key value : String} (h : PlainField key value) :
    Text.trim (Tui.extraLine (key, value)) = Tui.extraLine (key, value) := by
  refine Text.trim_eq_self_iff.mpr ⟨fun c hc => ?_, fun c hc => ?_⟩
  · rw [Tui.extraLine_toList] at hc
    cases hkey : key.toList with
    | nil => exact absurd (String.toList_eq_nil_iff.mp hkey) h.isToken.1.1
    | cons d ds =>
        have hfirst := (Text.trim_eq_self_iff.mp h.isToken.1.2).1
        rw [hkey] at hc hfirst
        exact hfirst c hc
  · rw [Tui.extraLine_toList, List.getLast?_append_cons] at hc
    cases hvalue : value.toList with
    | nil =>
        rw [hvalue] at hc
        cases hc
        decide
    | cons d ds =>
        have hlast := (Text.trim_eq_self_iff.mp h.value_trim).2
        rw [hvalue] at hc hlast
        rw [List.getLast?_cons_cons] at hc
        exact hlast c hc

theorem PlainField.oneLine {key value : String} (h : PlainField key value) :
    OneLine (Tui.extraLine (key, value)) := by
  constructor
  · rw [Tui.extraLine_toList]
    intro hmem
    rcases List.mem_append.mp hmem with hmem | hmem
    · exact h.key_line.1 hmem
    · rcases List.mem_cons.mp hmem with hmem | hmem
      · exact absurd hmem (by decide)
      · exact h.value_line.1 hmem
  · rw [Tui.extraLine_toList]
    intro hmem
    rcases List.mem_append.mp hmem with hmem | hmem
    · exact h.key_line.2 hmem
    · rcases List.mem_cons.mp hmem with hmem | hmem
      · exact absurd hmem (by decide)
      · exact h.value_line.2 hmem

theorem PlainField.read {key value : String} (h : PlainField key value)
    (fields : Std.ExtTreeMap String String) :
    tryApplyExtraField fields (Tui.extraLine (key, value)) = .ok (fields.insert key value) := by
  have hsplit : Text.splitOnce '=' (Tui.extraLine (key, value)) = some (key, value) :=
    Text.splitOnce_append h.key_eq
  have hline : (Tui.extraLine (key, value)).isEmpty = false := by
    rw [← Bool.not_eq_true, String.isEmpty_iff]
    exact Tui.extraLine_ne _
  have hkey : key.isEmpty = false := by
    rw [← Bool.not_eq_true, String.isEmpty_iff]
    exact h.isToken.1.1
  have htoken : normalizeToken key true = key :=
    normalizeToken_eq_self_iff.mpr ⟨h.isToken.1.2, fun _ => h.isToken.2⟩
  unfold tryApplyExtraField
  dsimp only
  rw [h.trim_line, hline, hsplit]
  dsimp only
  rw [hkey, htoken, hkey, h.value_trim]
  rfl

theorem foldlM_tryApplyExtraField {entries : List (String × String)}
    (h : ∀ entry ∈ entries, PlainField entry.1 entry.2) (fields : Std.ExtTreeMap String String) :
    (entries.map Tui.extraLine).foldlM tryApplyExtraField fields
      = .ok (fields.insertMany entries) := by
  induction entries generalizing fields with
  | nil => rfl
  | cons entry entries ih =>
      rw [List.map_cons, List.foldlM_cons, (h entry List.mem_cons_self).read fields,
        Std.ExtTreeMap.insertMany_cons]
      exact ih (fun entry hmem => h entry (List.mem_cons_of_mem _ hmem)) _

/-- A map is what its entries make, in any order. -/
theorem insertMany_perm {fields : Std.ExtTreeMap String String} {entries : List (String × String)}
    (hperm : entries.Perm fields.toList) :
    (∅ : Std.ExtTreeMap String String).insertMany entries = fields := by
  have hdistinct : entries.Pairwise fun a b => ¬compare a.1 b.1 = .eq := by
    refine (hperm.pairwise_iff fun {a b} hab hba => hab ?_).mpr
      Std.ExtTreeMap.distinct_keys_toList
    rw [Std.LawfulEqCmp.compare_eq_iff_eq] at hba ⊢
    exact hba.symm
  refine Std.ExtTreeMap.ext_getElem? fun key => ?_
  cases hget : fields[key]? with
  | some value =>
      exact Std.ExtTreeMap.getElem?_insertMany_list_of_mem Std.ReflCmp.compare_self hdistinct
        (hperm.mem_iff.mpr (Std.ExtTreeMap.mem_toList_iff_getElem?_eq_some.mpr hget))
  | none =>
      rw [Std.ExtTreeMap.getElem?_insertMany_list_of_contains_eq_false]
      · exact Std.ExtTreeMap.getElem?_empty
      · rw [List.contains_eq_any_beq, List.any_eq_false]
        intro key' hmem
        obtain ⟨entry, hentry, rfl⟩ := List.mem_map.mp hmem
        have hstored := Std.ExtTreeMap.mem_toList_iff_getElem?_eq_some.mp (hperm.mem_iff.mp hentry)
        intro heq
        rw [← beq_iff_eq.mp heq, hget] at hstored
        cases hstored

/-- Lines that are joined by a line break are split again. -/
theorem extraLines_intercalate {newLine : String} (hnew : newLine = "\n" ∨ newLine = "\r\n")
    {ls : List String} (hlines : ∀ line ∈ ls, OneLine line) (hne : ls ≠ []) :
    extraLines (newLine.intercalate ls) = ls := by
  have hbreak : newLine.toList.filter (· ≠ '\r') = ['\n'] := by
    rcases hnew with rfl | rfl <;> decide
  have hkept : (newLine.intercalate ls).toList.filter (· ≠ '\r')
      = ['\n'].intercalate (ls.map String.toList) := by
    rw [String.toList_intercalate]
    clear hne
    induction ls with
    | nil => rfl
    | cons line ls ih =>
        have hline : line.toList.filter (· ≠ '\r') = line.toList := by
          rw [List.filter_eq_self]
          intro c hc
          have hr := (hlines line List.mem_cons_self).2
          rw [decide_eq_true_eq]
          rintro rfl
          exact hr hc
        have ih := ih fun line hmem => hlines line (List.mem_cons_of_mem _ hmem)
        cases ls with
        | nil =>
            simpa only [List.map_cons, List.map_nil, List.intercalate_singleton] using hline
        | cons next ls =>
            rw [List.map_cons] at ih
            rw [List.map_cons, List.map_cons, List.intercalate_cons_cons,
              List.intercalate_cons_cons, List.filter_append, List.filter_append, hline, hbreak, ih]
  rw [extraLines, hkept, List.splitOn_intercalate]
  · rw [List.map_map]
    exact (List.map_congr_left fun line _ => String.ofList_toList).trans (List.map_id ls)
  · intro cs hcs
    obtain ⟨line, hline, rfl⟩ := List.mem_map.mp hcs
    exact (hlines line hline).1
  · rwa [ne_eq, List.map_eq_nil_iff]

/-- **What reads back** is the plain fields and no others. -/
theorem tryApplyExtraFields_iff {texts : CardTexts}
    (hnew : texts.newLine = "\n" ∨ texts.newLine = "\r\n")
    {fields : Std.ExtTreeMap String String} :
    tryApplyExtraFields (formatExtraFields texts fields) = .ok fields ↔ PlainFields fields := by
  refine ⟨tryApplyExtraFields_plain, fun h => ?_⟩
  have hformat : formatExtraFields texts fields = texts.newLine.intercalate
      ((fields.toList.mergeSort fun a b => NetText.ordinalLe a.1 b.1).map Tui.extraLine) := rfl
  have hperm := List.mergeSort_perm fields.toList fun a b => NetText.ordinalLe a.1 b.1
  generalize fields.toList.mergeSort (fun a b => NetText.ordinalLe a.1 b.1) = entries
    at hformat hperm
  have hentries : ∀ entry ∈ entries, PlainField entry.1 entry.2 := fun entry hmem =>
    h entry.1 entry.2 (Std.ExtTreeMap.mem_toList_iff_getElem?_eq_some.mp (hperm.mem_iff.mp hmem))
  rw [hformat, tryApplyExtraFields]
  cases entries with
  | nil =>
      have hblank : NetText.isWhiteSpace (texts.newLine.intercalate ([].map Tui.extraLine))
          = true := by
        rw [List.map_nil, String.intercalate_nil]
        decide +kernel
      rw [if_pos hblank, ← insertMany_perm hperm]
      rfl
  | cons entry entries =>
      have hlines : extraLines (texts.newLine.intercalate ((entry :: entries).map Tui.extraLine))
          = (entry :: entries).map Tui.extraLine := by
        refine extraLines_intercalate hnew (fun line hmem => ?_) (by simp)
        obtain ⟨entry, hentry, rfl⟩ := List.mem_map.mp hmem
        exact (hentries entry hentry).oneLine
      have hblank : ¬NetText.isWhiteSpace
          (texts.newLine.intercalate ((entry :: entries).map Tui.extraLine)) = true := by
        rw [NetText.isWhiteSpace_iff, Text.trim_eq_empty_iff]
        intro hall
        -- the equals sign of the first line is no white space
        have hfirst : Tui.extraLine entry
            ∈ extraLines (texts.newLine.intercalate ((entry :: entries).map Tui.extraLine)) := by
          rw [hlines]
          exact List.mem_cons_self
        obtain ⟨cs, hcs, hline⟩ := List.mem_map.mp hfirst
        have hsign : '=' ∈ cs := by
          have hmem : '=' ∈ (Tui.extraLine entry).toList := by
            rw [Tui.extraLine_toList]
            simp
          rwa [← hline, String.toList_ofList] at hmem
        have hkept := (Text.sublist_of_mem_splitOn '\n' _ cs hcs).subset hsign
        exact absurd (hall '=' (List.mem_filter.mp hkept).1) (by decide)
      rw [if_neg hblank]
      show (extraLines _).foldlM tryApplyExtraField ∅ = _
      rw [hlines, foldlM_tryApplyExtraField hentries, insertMany_perm hperm]

/-- The texts of a platform that ends its lines with a line feed. -/
def lineFeedTexts : CardTexts where
  powerText := fun _ => "0"
  decimalHz := fun _ => none
  minute := fun _ => ""
  date := fun _ => ""
  time := fun _ => none
  coordinate := fun _ => "0"
  double := fun _ => none
  newLine := "\n"

/-- A field with an equals sign in its value. -/
def signField : Std.ExtTreeMap String String :=
  (∅ : Std.ExtTreeMap String String).insert "APP_X" "a=b"

theorem signField_plain : PlainFields signField := by
  intro key value hvalue
  rw [signField, Std.ExtTreeMap.getElem?_insert] at hvalue
  split_ifs at hvalue with hkey
  · obtain rfl := Std.LawfulEqCmp.eq_of_compare hkey
    cases hvalue
    have hkept : Text.trim "APP_X" = "APP_X" ∧ NetText.toUpperInvariant "APP_X" = "APP_X"
        ∧ Text.trim "a=b" = "a=b" := by
      decide +kernel
    exact ⟨⟨⟨by simp, hkept.1⟩, hkept.2.1⟩, by simp, ⟨by simp, by simp⟩, hkept.2.2,
      ⟨by simp, by simp⟩⟩
  · simp at hvalue

theorem tryApplyExtraFields_iff_sign :
    tryApplyExtraFields (formatExtraFields lineFeedTexts signField) = .ok signField :=
  (tryApplyExtraFields_iff (Or.inl rfl)).mpr signField_plain

end QsoRipper.Gui
