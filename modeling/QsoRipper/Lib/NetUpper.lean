/-
QsoRipper/Lib/NetUpper.lean

How `ToUpperInvariant` composes with itself and with `Trim`.  The simple mapping is the
full one where that has one character; where it does not, the characters that it keeps are
listed, and what it makes of them is checked.
-/
import QsoRipper.Lib.NetText

namespace NetText

/-! ### Characters -/

/-- The characters that the full mapping writes with an iota behind them. -/
def iotaCodes : List ℕ :=
  [0x1FB3, 0x1FC3, 0x1FF3] ++ (List.range 40).filterMap fun i =>
    if i % 16 < 8 then some (0x1F80 + i) else none

/-- What the tables are checked for: nothing below `A` is written, a mapping to one character
stays on its plane, and what becomes of the listed characters. -/
theorem tables_checked :
    (∀ p ∈ Unicode.specialCasing, p.2.length ≠ 1 ∧ ∀ d ∈ p.2, 65 ≤ d)
      ∧ (∀ r ∈ Unicode.simpleRuns, 65 ≤ r.upper r.lo
        ∧ (r.hi < 0x10000 ∧ r.upper r.hi < 0x10000 ∨ 0x10000 ≤ r.lo ∧ 0x10000 ≤ r.upper r.lo))
      ∧ ∀ n ∈ iotaCodes, (Unicode.upperCode n).length = 2
        ∧ upperInvariantChar (upperInvariantChar (Char.ofNat n)) = upperInvariantChar (Char.ofNat n)
        ∧ Text.isWhitespace (upperInvariantChar (Char.ofNat n)) = Text.isWhitespace (Char.ofNat n)
        ∧ 65 ≤ (upperInvariantChar (Char.ofNat n)).toNat
        ∧ (upperInvariantChar (Char.ofNat n)).toNat < 0x10000 ∧ n < 0x10000 := by
  decide +kernel

/-- The characters below `A` come from themselves only. -/
theorem eq_of_mem_upperCode {n d : ℕ} (h : d ∈ Unicode.upperCode n) (hd : d < 65) : d = n := by
  unfold Unicode.upperCode at h
  split at h
  · split at h
    · have hn := List.mem_singleton.mp h
      omega
    · exact List.mem_singleton.mp h
  · split at h
    · rename_i us hus
      have hlow := (tables_checked.1 _ (Unicode.mem_of_lookup hus)).2 d h
      omega
    · split at h
      · rename_i r hr
        have hlow := (tables_checked.2.1 r (List.mem_of_find?_eq_some hr)).1
        have hcov := List.find?_some hr
        simp only [Unicode.Run.covers, Bool.and_eq_true, Nat.ble_eq] at hcov
        have hmono := r.upper_mono hcov.1.1
        have hn := List.mem_singleton.mp h
        omega
      · exact List.mem_singleton.mp h

/-- An uppercase form of one character is on the plane of the character. -/
theorem plane_of_upperCode {n d : ℕ} (h : Unicode.upperCode n = [d]) :
    d < 0x10000 ↔ n < 0x10000 := by
  unfold Unicode.upperCode at h
  split at h
  · split at h <;> simp only [List.cons.injEq, and_true] at h <;> omega
  · split at h
    · rename_i us hus
      have hlength := (tables_checked.1 _ (Unicode.mem_of_lookup hus)).1
      rw [h] at hlength
      exact absurd rfl hlength
    · split at h
      · rename_i r hr
        have hcov := List.find?_some hr
        simp only [Unicode.Run.covers, Bool.and_eq_true, Nat.ble_eq] at hcov
        have hlo := r.upper_mono hcov.1.1
        have hhi := r.upper_mono hcov.1.2
        have hd : r.upper n = d := by simpa using h
        have hplane := (tables_checked.2.1 r (List.mem_of_find?_eq_some hr)).2
        omega
      · simp only [List.cons.injEq, and_true] at h
        rw [h]

/-- The mapping is the full one, or keeps the character, or the character is listed. -/
theorem upperInvariantChar_cases (c : Char) :
    c.toNat ∈ iotaCodes ∨ Text.upperChar c = [upperInvariantChar c] ∨ upperInvariantChar c = c := by
  unfold upperInvariantChar
  dsimp only
  split_ifs with hkept hthree hrange
  · exact .inr (.inr rfl)
  · exact .inl (List.mem_append_left _ hthree)
  · refine .inl (List.mem_append_right _ (List.mem_filterMap.mpr ⟨c.toNat - 0x1F80, ?_, ?_⟩))
    · exact List.mem_range.mpr (by omega)
    · rw [if_pos (by omega)]
      exact congrArg some (by omega)
  · split
    · exact .inr (.inl ‹_›)
    · exact .inr (.inr rfl)

/-- A character that the full mapping keeps is kept. -/
theorem upperInvariantChar_of_upperChar {c : Char} (h : Text.upperChar c = [c]) :
    upperInvariantChar c = c := by
  have hlength : (Unicode.upperCode c.toNat).length = 1 := by
    have hmap := congrArg List.length h
    rwa [Text.upperChar, List.length_map, List.length_singleton] at hmap
  rcases upperInvariantChar_cases c with hlisted | hfull | hkept
  · have htwo := (tables_checked.2.2 _ hlisted).1
    omega
  · rw [h] at hfull
    exact (List.singleton_injective hfull).symm
  · exact hkept

theorem upperInvariantChar_idem (c : Char) :
    upperInvariantChar (upperInvariantChar c) = upperInvariantChar c := by
  rcases upperInvariantChar_cases c with hlisted | hfull | hkept
  · have hupper := (tables_checked.2.2 _ hlisted).2.1
    rwa [Char.ofNat_toNat] at hupper
  · exact upperInvariantChar_of_upperChar (Text.upperChar_idem (hfull ▸ List.mem_cons_self))
  · rw [hkept, hkept]

theorem isWhitespace_upperInvariantChar (c : Char) :
    Text.isWhitespace (upperInvariantChar c) = Text.isWhitespace c := by
  rcases upperInvariantChar_cases c with hlisted | hfull | hkept
  · have hupper := (tables_checked.2.2 _ hlisted).2.2.1
    rwa [Char.ofNat_toNat] at hupper
  · exact Text.isWhitespace_of_mem (hfull ▸ List.mem_cons_self)
  · rw [hkept]

/-- No other character becomes one below `A`. -/
theorem eq_of_upperInvariantChar {c d : Char} (hd : d.toNat < 65)
    (h : upperInvariantChar c = d) : c = d := by
  rcases upperInvariantChar_cases c with hlisted | hfull | hkept
  · have hupper := (tables_checked.2.2 _ hlisted).2.2.2.1
    rw [Char.ofNat_toNat, h] at hupper
    omega
  · have hmem : d ∈ Text.upperChar c := by
      rw [hfull, h]
      exact List.mem_cons_self
    have hcode := eq_of_mem_upperCode (Text.toNat_of_mem_upperChar hmem) hd
    exact (Char.toNat_inj.mp hcode).symm
  · rw [← hkept, h]

theorem plane_upperInvariantChar (c : Char) :
    (upperInvariantChar c).toNat < 0x10000 ↔ c.toNat < 0x10000 := by
  rcases upperInvariantChar_cases c with hlisted | hfull | hkept
  · have hboth := (tables_checked.2.2 _ hlisted).2.2.2.2
    rw [Char.ofNat_toNat] at hboth
    exact iff_of_true hboth.1 hboth.2
  · apply plane_of_upperCode
    obtain ⟨code, hcode⟩ : ∃ code, Unicode.upperCode c.toNat = [code] := by
      have hone := congrArg List.length hfull
      rw [Text.upperChar, List.length_map, List.length_singleton] at hone
      exact List.length_eq_one_iff.mp hone
    have hmem : upperInvariantChar c ∈ Text.upperChar c := hfull ▸ List.mem_cons_self
    have hnat := Text.toNat_of_mem_upperChar hmem
    rw [hcode, List.mem_singleton] at hnat
    rw [hcode, hnat]
  · rw [hkept]

/-! ### Texts -/

theorem toList_toUpperInvariant (s : String) :
    (toUpperInvariant s).toList = s.toList.map upperInvariantChar :=
  String.toList_ofList

@[simp] theorem toUpperInvariant_idem (s : String) :
    toUpperInvariant (toUpperInvariant s) = toUpperInvariant s := by
  rw [toUpperInvariant, toList_toUpperInvariant, List.map_map]
  exact congrArg String.ofList (List.map_congr_left fun c _ => upperInvariantChar_idem c)

/-- **Trimming commutes with uppercasing.** -/
theorem trim_toUpperInvariant (s : String) :
    Text.trim (toUpperInvariant s) = toUpperInvariant (Text.trim s) := by
  rw [← String.toList_inj, Text.toList_trim, toList_toUpperInvariant, toList_toUpperInvariant,
    Text.toList_trim]
  have htrim := Text.trimList_flatMap (p := Text.isWhitespace) (f := fun c => [upperInvariantChar c])
    (fun c => List.cons_ne_nil _ _)
    (fun c d hd => by rw [List.mem_singleton.mp hd, isWhitespace_upperInvariantChar]) s.toList
  rwa [← List.map_eq_flatMap, ← List.map_eq_flatMap] at htrim

@[simp] theorem isWhiteSpace_toUpperInvariant (s : String) :
    isWhiteSpace (toUpperInvariant s) = isWhiteSpace s := by
  rw [isWhiteSpace, trim_toUpperInvariant, isWhiteSpace, Bool.eq_iff_iff, String.isEmpty_iff,
    String.isEmpty_iff, ← String.toList_eq_nil_iff, toList_toUpperInvariant, List.map_eq_nil_iff,
    String.toList_eq_nil_iff]

/-- Uppercasing makes no character below `A`. -/
theorem notMem_toUpperInvariant {d : Char} {s : String} (hd : d.toNat < 65)
    (h : d ∉ s.toList) : d ∉ (toUpperInvariant s).toList := by
  rw [toList_toUpperInvariant]
  intro hmem
  obtain ⟨c, hc, hupper⟩ := List.mem_map.mp hmem
  rw [eq_of_upperInvariantChar hd hupper] at hc
  exact h hc

/-! ### Lengths -/

/-- `string.Length`. -/
def length (s : String) : ℕ := (utf16 s).length

@[simp] theorem length_append (s t : String) : length (s ++ t) = length s + length t := by
  simp [length, utf16]

/-- A character takes one code unit or two. -/
theorem length_utf16Char (c : Char) :
    (utf16Char c).length = if c.toNat < 0x10000 then 1 else 2 := by
  unfold utf16Char
  dsimp only
  split_ifs with h <;> rfl

/-- Uppercasing keeps the length. -/
@[simp] theorem length_toUpperInvariant (s : String) : length (toUpperInvariant s) = length s := by
  unfold length utf16
  rw [toList_toUpperInvariant, List.flatMap_map, List.length_flatMap, List.length_flatMap]
  apply congrArg List.sum
  apply List.map_congr_left
  intro c hc
  rw [length_utf16Char, length_utf16Char]
  simp only [plane_upperInvariantChar]

/-! ### Blank texts -/

theorem isWhiteSpace_iff {s : String} : isWhiteSpace s = true ↔ Text.trim s = "" := by
  rw [isWhiteSpace, String.isEmpty_iff]

@[simp] theorem isWhiteSpace_trim (s : String) : isWhiteSpace (Text.trim s) = isWhiteSpace s := by
  rw [isWhiteSpace, Text.trim_trim, isWhiteSpace]

end NetText
