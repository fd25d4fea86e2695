/-
QsoRipper/Lib/Segments.lean

Cutting a text at every occurrence of a character, at the first one only, or at white space.
The first two survive a change of the characters, if it neither makes nor loses the one that
is cut at.
-/
import QsoRipper.Lib.Lines

namespace Text

variable {c : Char} {s : String} {f : Char → Char}

/-- `str::split`, with a character. -/
def segments (c : Char) (s : String) : List String := (s.toList.splitOn c).map String.ofList

/-- A text with every character replaced. -/
def mapChars (f : Char → Char) (s : String) : String := String.ofList (s.toList.map f)

@[simp] theorem toList_mapChars (f : Char → Char) (s : String) :
    (mapChars f s).toList = s.toList.map f :=
  String.toList_ofList

theorem length_mapChars (f : Char → Char) (s : String) :
    (mapChars f s).toList.length = s.toList.length := by
  simp

theorem mapChars_append (f : Char → Char) (s t : String) :
    mapChars f (s ++ t) = mapChars f s ++ mapChars f t := by
  apply String.toList_inj.mp
  simp

theorem segments_ne_nil (c : Char) (s : String) : segments c s ≠ [] := by
  intro h
  exact List.splitOn_ne_nil c s.toList (List.map_eq_nil_iff.mp h)

/-- No segment has the character. -/
theorem notMem_of_mem_segments {segment : String} (h : segment ∈ segments c s) :
    c ∉ segment.toList := by
  obtain ⟨chars, hchars, rfl⟩ := List.mem_map.mp h
  rw [String.toList_ofList]
  exact notMem_splitOn c s.toList chars hchars

/-- The segments joined are the text. -/
theorem intercalate_segments (c : Char) (s : String) :
    (String.singleton c).intercalate (segments c s) = s := by
  apply String.toList_inj.mp
  rw [String.toList_intercalate, segments, List.map_map]
  have hid : (s.toList.splitOn c).map (String.toList ∘ String.ofList) = s.toList.splitOn c := by
    simp [Function.comp_def]
  rw [hid]
  simp [String.toList_singleton, List.intercalate_splitOn]

/-- The first segment and what is behind it. -/
theorem eq_append_of_segments {first : String} {rest : List String}
    (h : segments c s = first :: rest) (hrest : rest ≠ []) :
    s = first ++ String.singleton c ++ (String.singleton c).intercalate rest := by
  have hjoin := intercalate_segments c s
  rw [h] at hjoin
  rw [← hjoin]
  obtain ⟨second, others, rfl⟩ := List.exists_cons_of_ne_nil hrest
  apply String.toList_inj.mp
  simp [String.toList_intercalate]

theorem segments_of_notMem (h : c ∉ s.toList) : segments c s = [s] := by
  rw [segments, List.splitOn_eq_singleton h]
  simp

/-- One segment: there is nothing to cut at. -/
theorem splitOnce_of_segments_singleton {only : String} (h : segments c s = [only]) :
    splitOnce c s = none := by
  have hjoin := intercalate_segments c s
  rw [h] at hjoin
  have hs : only = s := by simpa using hjoin
  have hmem : c ∉ s.toList := by
    apply notMem_of_mem_segments (s := s)
    rw [h, hs]
    exact List.mem_singleton_self s
  rw [splitOnce, if_neg hmem]

/-- Several segments: the first one comes off. -/
theorem splitOnce_of_segments_cons {first : String} {rest : List String}
    (h : segments c s = first :: rest) (hrest : rest ≠ []) :
    splitOnce c s = some (first, (String.singleton c).intercalate rest) := by
  have hfirst : c ∉ first.toList := by
    apply notMem_of_mem_segments (s := s)
    rw [h]
    exact List.mem_cons_self
  rw [eq_append_of_segments h hrest]
  exact splitOnce_append hfirst

/-- The change keeps the character apart from the others. -/
def Separates (f : Char → Char) (c : Char) : Prop := ∀ d, f d = c ↔ d = c

theorem splitOn_map (h : Separates f c) (chars : List Char) :
    (chars.map f).splitOn c = (chars.splitOn c).map (List.map f) := by
  induction chars with
  | nil => simp
  | cons d chars ih =>
      rw [List.map_cons, List.splitOn_cons_eq_if_modifyHead, List.splitOn_cons_eq_if_modifyHead, ih]
      by_cases hd : d = c
      · have hf : f d = c := (h d).mpr hd
        rw [if_pos (by simpa using hf), if_pos (by simpa using hd)]
        rfl
      · have hf : f d ≠ c := fun hfd => hd ((h d).mp hfd)
        rw [if_neg (by simpa using hf), if_neg (by simpa using hd)]
        cases chars.splitOn c with
        | nil => rfl
        | cons part parts => rfl

/-- **Changing the characters changes the segments.** -/
theorem segments_mapChars (h : Separates f c) (s : String) :
    segments c (mapChars f s) = (segments c s).map (mapChars f) := by
  rw [segments, toList_mapChars, splitOn_map h, segments, List.map_map, List.map_map]
  apply List.map_congr_left
  intro chars hchars
  simp [mapChars]

/-- What is joined comes apart. -/
theorem segments_intercalate {parts : List String} (h : ∀ part ∈ parts, c ∉ part.toList)
    (hne : parts ≠ []) : segments c ((String.singleton c).intercalate parts) = parts := by
  have hsplit : ((String.singleton c).intercalate parts).toList.splitOn c
      = parts.map String.toList := by
    rw [String.toList_intercalate, String.toList_singleton]
    apply List.splitOn_intercalate
    · intro chars hchars
      obtain ⟨part, hmem, rfl⟩ := List.mem_map.mp hchars
      exact h part hmem
    · simpa using hne
  rw [segments, hsplit, List.map_map]
  exact (List.map_congr_left fun part _ => String.ofList_toList).trans (List.map_id parts)

/-! ### Words -/

/-- `str::split_whitespace`. -/
def words (s : String) : List String :=
  ((s.toList.splitOnP isWhitespace).filter fun chars => !chars.isEmpty).map String.ofList

/-- Two words with a blank between them. -/
theorem words_pair {s t : String} (hs : s ≠ "") (ht : t ≠ "")
    (hsWord : ∀ d ∈ s.toList, isWhitespace d = false)
    (htWord : ∀ d ∈ t.toList, isWhitespace d = false) : words (s ++ " " ++ t) = [s, t] := by
  have hlist : (s ++ " " ++ t).toList = s.toList ++ ' ' :: t.toList := by simp
  rw [words, hlist, List.splitOnP_append_cons_of_forall_mem hsWord ' ' (by decide),
    List.splitOnP_eq_singleton htWord]
  simp [hs, ht]

end Text
