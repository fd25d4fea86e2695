/-
QsoRipper/Lib/Lines.lean

Lines of text, and `KEY=value` on a line.  What is joined with line breaks comes
apart again, if none of its lines has a break of its own.
-/
import QsoRipper.Lib.Text

namespace Text

/-! ### Operations -/

/-- `str::split_once`, with a character. -/
def splitOnce (c : Char) (s : String) : Option (String × String) :=
  if c ∈ s.toList then
    some (String.ofList (s.toList.takeWhile (· ≠ c)),
      String.ofList (s.toList.dropWhile (· ≠ c)).tail)
  else none

/-! ### Splitting once -/

theorem splitOnce_append {c : Char} {s t : String} (hs : c ∉ s.toList) :
    splitOnce c (s ++ String.singleton c ++ t) = some (s, t) := by
  have hlist : (s ++ String.singleton c ++ t).toList = s.toList ++ c :: t.toList := by simp
  have hpass : ∀ d ∈ s.toList, (decide (d ≠ c)) = true := by
    intro d hd
    exact decide_eq_true fun h => hs (h ▸ hd)
  rw [splitOnce, hlist, if_pos (List.mem_append_right _ List.mem_cons_self),
    List.takeWhile_append_of_pos hpass, List.dropWhile_append_of_pos hpass]
  simp

theorem splitOnce_notMem {c : Char} {s t u : String} (h : splitOnce c s = some (t, u)) :
    c ∉ t.toList := by
  rw [splitOnce] at h
  split_ifs at h
  cases h
  rw [String.toList_ofList]
  intro hmem
  simpa using List.mem_takeWhile_imp hmem

theorem splitOnce_subset {c : Char} {s t u : String} (h : splitOnce c s = some (t, u)) :
    t.toList ⊆ s.toList ∧ u.toList ⊆ s.toList := by
  rw [splitOnce] at h
  split_ifs at h
  cases h
  simp only [String.toList_ofList]
  exact ⟨(List.takeWhile_sublist _).subset,
    ((List.tail_sublist _).trans (List.dropWhile_sublist _)).subset⟩

/-! ### Trimming -/

theorem trim_subset (s : String) : (trim s).toList ⊆ s.toList := by
  rw [toList_trim, trimList]
  exact ((List.rdropWhile_prefix _ _).sublist.trans (List.dropWhile_sublist _)).subset

/-- Containing a text. -/
theorem contains_iff {s t : String} : contains s t = true ↔ t.toList <:+: s.toList := by
  rw [contains, List.any_eq_true]
  simp only [List.mem_tails, List.isPrefixOf_iff_prefix]
  rw [List.infix_iff_prefix_suffix]
  exact exists_congr fun _ => and_comm

theorem trim_infix (s : String) : (trim s).toList <:+: s.toList := by
  rw [toList_trim, trimList]
  exact (List.rdropWhile_prefix _ _).isInfix.trans (List.dropWhile_suffix _).isInfix

/-- A text is trimmed exactly if it neither begins nor ends with white space. -/
theorem trim_eq_self_iff {s : String} :
    trim s = s ↔ (∀ c ∈ s.toList.head?, isWhitespace c = false)
      ∧ ∀ c ∈ s.toList.getLast?, isWhitespace c = false := by
  have hfront : s.toList.dropWhile isWhitespace = s.toList
      ↔ ∀ c ∈ s.toList.head?, isWhitespace c = false := by
    cases s.toList with
    | nil => simp
    | cons c cs =>
        rw [List.dropWhile_eq_self_iff]
        simp
  have hback : s.toList.rdropWhile isWhitespace = s.toList
      ↔ ∀ c ∈ s.toList.getLast?, isWhitespace c = false := by
    rw [List.rdropWhile_eq_self_iff]
    cases hlist : s.toList using List.reverseRecOn with
    | nil => simp
    | append_singleton cs c => simp
  rw [← hfront, ← hback, ← String.toList_inj, toList_trim, trimList]
  constructor
  · intro h
    -- nothing can be dropped at either end
    have hlength := congrArg List.length h
    have hfirst : s.toList.dropWhile isWhitespace = s.toList := by
      refine (List.dropWhile_suffix isWhitespace).sublist.eq_of_length_le ?_
      rw [← hlength]
      exact (List.rdropWhile_prefix _ _).length_le
    rw [hfirst] at h
    exact ⟨hfirst, h⟩
  · rintro ⟨hfirst, hlast⟩
    rw [hfirst, hlast]

/-- Nothing is left of a text exactly if it is all white space. -/
theorem trim_eq_empty_iff {s : String} :
    trim s = "" ↔ ∀ c ∈ s.toList, isWhitespace c = true := by
  rw [← String.toList_inj, toList_trim, trimList, String.toList_empty, List.rdropWhile_eq_nil_iff]
  constructor
  · intro h c hc
    rw [← List.takeWhile_append_dropWhile (p := isWhitespace) (l := s.toList)] at hc
    rcases List.mem_append.mp hc with hfront | hrest
    · exact List.mem_takeWhile_imp hfront
    · exact h c hrest
  · exact fun h c hc => h c ((List.dropWhile_sublist _).subset hc)

/-- Beginning with a text. -/
theorem startsWith_iff {s t : String} : startsWith s t = true ↔ t.toList <+: s.toList := by
  rw [startsWith, List.isPrefixOf_iff_prefix]

theorem isWhitespace_of_isDigit {c : Char} (h : c.isDigit = true) : isWhitespace c = false := by
  rw [Char.isDigit_iff_toNat] at h
  simp only [isWhitespace, Unicode.isSpaceCode]
  have hbounds : 48 ≤ c.toNat ∧ c.toNat ≤ 57 := h
  grind

/-- A text without white space is trimmed. -/
theorem trim_eq_self {s : String} (h : ∀ c ∈ s.toList, isWhitespace c = false) : trim s = s :=
  trim_eq_self_iff.mpr ⟨fun c hc => h c (List.mem_of_mem_head? hc),
    fun c hc => h c (List.mem_of_mem_getLast? hc)⟩

/-! ### Upper case -/

theorem asciiUpperChar_cases (c : Char) :
    asciiUpperChar c = c
      ∨ (97 ≤ c.toNat ∧ c.toNat ≤ 122) ∧ (asciiUpperChar c).toNat = c.toNat - 32 := by
  rw [asciiUpperChar]
  split_ifs with h
  · right
    refine ⟨h, Text.toNat_ofNat ?_⟩
    left
    omega
  · exact .inl rfl

/-- A character that is no letter is the upper case of itself only. -/
theorem eq_of_asciiUpperChar {c d : Char} (hd : d.toNat < 65) (h : asciiUpperChar c = d) :
    c = d := by
  rcases asciiUpperChar_cases c with hsame | ⟨hletter, hupper⟩
  · rw [← h, hsame]
  · rw [h] at hupper
    omega

theorem isWhitespace_asciiUpperChar (c : Char) :
    isWhitespace (asciiUpperChar c) = isWhitespace c := by
  rcases asciiUpperChar_cases c with hsame | ⟨hletter, hupper⟩
  · rw [hsame]
  · simp only [isWhitespace, Unicode.isSpaceCode, hupper]
    grind

theorem notMem_toAsciiUppercase {d : Char} {s : String} (hd : d.toNat < 65) (h : d ∉ s.toList) :
    d ∉ (toAsciiUppercase s).toList := by
  rw [toAsciiUppercase, String.toList_ofList]
  intro hmem
  obtain ⟨c, hc, heq⟩ := List.mem_map.mp hmem
  rw [eq_of_asciiUpperChar hd heq] at hc
  exact h hc

theorem trim_toAsciiUppercase {s : String} (h : trim s = s) :
    trim (toAsciiUppercase s) = toAsciiUppercase s := by
  rw [trim_eq_self_iff] at h ⊢
  rw [toAsciiUppercase, String.toList_ofList, List.head?_map, List.getLast?_map]
  refine ⟨fun c hc => ?_, fun c hc => ?_⟩
  · obtain ⟨d, hd, rfl⟩ := Option.map_eq_some_iff.mp hc
    rw [isWhitespace_asciiUpperChar]
    exact h.1 d hd
  · obtain ⟨d, hd, rfl⟩ := Option.map_eq_some_iff.mp hc
    rw [isWhitespace_asciiUpperChar]
    exact h.2 d hd

/-! ### Lines -/

/-- A line has no line break, and no carriage return at its end. -/
def IsLine (s : String) : Prop := '\n' ∉ s.toList ∧ s.toList.getLast? ≠ some '\r'

theorem notMem_splitOn {α : Type} [BEq α] [LawfulBEq α] (a : α) (xs : List α) :
    ∀ l ∈ xs.splitOn a, a ∉ l := by
  induction xs with
  | nil => simp
  | cons x xs ih =>
      rw [List.splitOn_cons_eq_if_modifyHead]
      split_ifs with hx
      · simpa using ih
      · cases hparts : xs.splitOn a with
        | nil => exact absurd hparts (List.splitOn_ne_nil a xs)
        | cons part parts =>
            rw [hparts] at ih
            rw [List.modifyHead_cons]
            intro l hl
            rcases List.mem_cons.mp hl with rfl | hl
            · have hpart := ih part List.mem_cons_self
              intro hmem
              rcases List.mem_cons.mp hmem with rfl | hmem
              · exact hx (BEq.refl a)
              · exact hpart hmem
            · exact ih l (List.mem_cons_of_mem _ hl)

theorem sublist_of_mem_splitOn {α : Type} [BEq α] [LawfulBEq α] (a : α) (xs : List α) :
    ∀ l ∈ xs.splitOn a, l.Sublist xs := by
  induction xs with
  | nil => simp
  | cons x xs ih =>
      rw [List.splitOn_cons_eq_if_modifyHead]
      split_ifs with hx
      · intro l hl
        rcases List.mem_cons.mp hl with rfl | hl
        · exact List.nil_sublist _
        · exact (ih l hl).cons x
      · cases hparts : xs.splitOn a with
        | nil => exact absurd hparts (List.splitOn_ne_nil a xs)
        | cons part parts =>
            rw [hparts] at ih
            rw [List.modifyHead_cons]
            intro l hl
            rcases List.mem_cons.mp hl with rfl | hl
            · exact (ih part List.mem_cons_self).cons_cons x
            · exact (ih l (List.mem_cons_of_mem _ hl)).cons x

theorem dropCarriageReturn_subset (line : List Char) : dropCarriageReturn line ⊆ line := by
  rw [dropCarriageReturn]
  split_ifs
  · exact (List.dropLast_sublist line).subset
  · exact List.Subset.refl line

theorem notMem_of_mem_lines {s line : String} (h : line ∈ lines s) : '\n' ∉ line.toList := by
  unfold lines at h
  obtain ⟨part, hpart, rfl⟩ := List.mem_map.mp h
  rw [String.toList_ofList]
  have hsplit := notMem_splitOn '\n' s.toList
  rcases List.mem_append.mp hpart with hpart | hpart
  · obtain ⟨part', hpart', rfl⟩ := List.mem_map.mp hpart
    intro hmem
    exact hsplit part' (List.mem_of_mem_dropLast hpart') (dropCarriageReturn_subset _ hmem)
  · obtain ⟨hlast, -⟩ := Option.filter_eq_some_iff.mp (Option.mem_toList.mp hpart)
    exact hsplit part (List.mem_of_getLast? hlast)

/-- A line is a part of its text. -/
theorem sublist_of_mem_lines {s line : String} (h : line ∈ lines s) :
    line.toList.Sublist s.toList := by
  unfold lines at h
  obtain ⟨part, hpart, rfl⟩ := List.mem_map.mp h
  rw [String.toList_ofList]
  have hsplit := sublist_of_mem_splitOn '\n' s.toList
  rcases List.mem_append.mp hpart with hpart | hpart
  · obtain ⟨part', hpart', rfl⟩ := List.mem_map.mp hpart
    refine List.Sublist.trans ?_ (hsplit part' (List.mem_of_mem_dropLast hpart'))
    rw [dropCarriageReturn]
    split_ifs
    · exact List.dropLast_sublist part'
    · exact List.Sublist.refl part'
  · obtain ⟨hlast, -⟩ := Option.filter_eq_some_iff.mp (Option.mem_toList.mp hpart)
    exact hsplit part (List.mem_of_getLast? hlast)

/-- **Lines that are joined come apart again.** -/
theorem lines_intercalate {ls : List String} (hlines : ∀ l ∈ ls, IsLine l)
    (hne : ∀ l ∈ ls, l ≠ "") : lines ("\n".intercalate ls) = ls := by
  rcases List.eq_nil_or_concat' ls with rfl | ⟨init, last, rfl⟩
  · simp [lines]
  · have hsplit : ("\n".intercalate (init ++ [last])).toList.splitOn '\n'
        = init.map String.toList ++ [last.toList] := by
      rw [String.toList_intercalate, ← List.map_singleton, ← List.map_append]
      refine List.splitOn_intercalate '\n' ?_ (by simp)
      intro chars hchars
      obtain ⟨l, hl, rfl⟩ := List.mem_map.mp hchars
      exact (hlines l hl).1
    have hkeep : ∀ l ∈ init, dropCarriageReturn l.toList = l.toList := by
      intro l hl
      rw [dropCarriageReturn, if_neg (hlines l (List.mem_append_left _ hl)).2]
    have hlast : last.toList.isEmpty = false := by
      simpa using hne last (List.mem_append_right _ List.mem_cons_self)
    unfold lines
    dsimp only
    rw [hsplit, List.dropLast_concat, List.getLast?_concat, List.map_map, Option.filter_some, hlast]
    simp only [Bool.not_false, if_true, Option.toList_some, List.map_append, List.map_map,
      List.map_singleton, String.ofList_toList]
    congr 1
    refine (List.map_congr_left fun l hl => ?_).trans (List.map_id init)
    rw [Function.comp_apply, Function.comp_apply, hkeep l hl, String.ofList_toList, id]

end Text
