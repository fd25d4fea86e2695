/-
QsoRipper/Domain/HomeCall.lean

Which segment `parse_callsign` takes for the callsign of the station.  A short
home call looks like a prefix, so a location behind it is taken instead; and of
three segments it is always the middle one.
-/
import QsoRipper.Domain.Callsign

namespace QsoRipper

/-! ### Segments -/

/-- A complete callsign: letters and digits up to a digit, then letters. -/
def IsHomeCall (segment : String) : Prop :=
  ∃ (front letters : List Char) (digit : Char), segment.toList = front ++ digit :: letters
    ∧ (∀ c ∈ front, c.isUpper = true ∨ c.isDigit = true) ∧ digit.isDigit = true
    ∧ letters ≠ [] ∧ ∀ c ∈ letters, c.isUpper = true

/-- A prefix or a modifier: a segment that is no complete callsign. -/
structure IsPart (segment : String) : Prop where
  nonempty : segment ≠ ""
  notMem : '/' ∉ segment.toList
  incomplete : ¬ IsHomeCall segment

variable {home part : String} {before after segments : List String}

theorem toNat_of_isUpper {c : Char} (h : c.isUpper = true) : 65 ≤ c.toNat ∧ c.toNat ≤ 90 := by
  simpa [Char.isUpper, UInt32.le_iff_toNat_le] using h

theorem isUpper_alpha {c : Char} (h : c.isUpper = true) :
    (decide (c.toNat < 128) && c.isAlpha) = true := by
  have hcode := toNat_of_isUpper h
  rw [Char.isAlpha, h, Bool.true_or, Bool.and_true, decide_eq_true_iff]
  omega

namespace IsHomeCall

theorem notMem (h : IsHomeCall home) : '/' ∉ home.toList := by
  obtain ⟨front, letters, digit, hlist, hfront, hdigit, -, hletters⟩ := h
  rw [hlist]
  intro hmem
  rcases List.mem_append.mp hmem with hmem | hmem
  · exact absurd (hfront _ hmem) (by decide)
  · rcases List.mem_cons.mp hmem with rfl | hmem
    · exact absurd hdigit (by decide)
    · exact absurd (hletters _ hmem) (by decide)

theorem exists_digit (h : IsHomeCall home) : ∃ c ∈ home.toList, c.isDigit = true := by
  obtain ⟨front, letters, digit, hlist, -, hdigit, -, -⟩ := h
  refine ⟨digit, ?_, hdigit⟩
  rw [hlist]
  simp

theorem exists_letter (h : IsHomeCall home) : ∃ c ∈ home.toList, c.isUpper = true := by
  obtain ⟨front, letters, digit, hlist, -, -, hne, hletters⟩ := h
  refine ⟨letters.head hne, ?_, hletters _ (List.head_mem hne)⟩
  rw [hlist]
  simp

theorem isUpper_getLast (h : IsHomeCall home) : ∀ c ∈ home.toList.getLast?, c.isUpper = true := by
  obtain ⟨front, letters, digit, hlist, -, -, hne, hletters⟩ := h
  intro c hc
  rw [hlist, List.append_cons, List.getLast?_append_of_ne_nil _ hne] at hc
  exact hletters c (List.mem_of_getLast? hc)

theorem looksLikeFullCallsign (h : IsHomeCall home) : looksLikeFullCallsign home = true := by
  obtain ⟨digit, hdigitMem, hdigit⟩ := h.exists_digit
  obtain ⟨letter, hletterMem, hletter⟩ := h.exists_letter
  rw [QsoRipper.looksLikeFullCallsign, Bool.and_eq_true, List.any_eq_true, List.any_eq_true]
  exact ⟨⟨digit, hdigitMem, hdigit⟩, letter, hletterMem, isUpper_alpha hletter⟩

/-- A complete callsign is no suffix that the parser knows. -/
theorem find?_knownSuffixes (h : IsHomeCall home) :
    (knownSuffixes.find? fun suffix => suffix.1 == home) = none := by
  rw [List.find?_eq_none]
  intro suffix hmem heq
  obtain ⟨digit, hdigitMem, hdigit⟩ := h.exists_digit
  rw [beq_iff_eq] at heq
  rw [← heq] at hdigitMem
  have hletters : suffix.1.toList.all (fun c => !c.isDigit) = true := by
    simp only [knownSuffixes, List.mem_cons, List.not_mem_nil, or_false] at hmem
    rcases hmem with rfl | rfl | rfl | rfl <;> decide
  have hnone := List.all_eq_true.mp hletters digit hdigitMem
  rw [hdigit] at hnone
  cases hnone

theorem isCallArea (h : IsHomeCall home) : isCallArea home = false := by
  obtain ⟨digit, hdigitMem, hdigit⟩ := h.exists_digit
  obtain ⟨letter, hletterMem, hletter⟩ := h.exists_letter
  rw [QsoRipper.isCallArea]
  split
  · rename_i c hlist
    rw [hlist, List.mem_singleton] at hletterMem hdigitMem
    rw [hletterMem] at hletter
    rw [hdigitMem, Char.isDigit_iff_toNat] at hdigit
    have hcode := toNat_of_isUpper hletter
    have hdigitCode : 48 ≤ c.toNat ∧ c.toNat ≤ 57 := hdigit
    omega
  · rfl

end IsHomeCall

/-! ### Finding the home call -/

/-- A segment behind the home call that the parser may take for the home call: no suffix that it
knows and no digit alone, with a digit and a letter. -/
def DisguisedSuffix (right : String) : Prop :=
  (∀ suffix ∈ knownSuffixes, suffix.1 ≠ right) ∧ isCallArea right = false
    ∧ looksLikeFullCallsign right = true

/-- When the parser finds the home call. -/
def FindsHome : List String → String → List String → Prop
  | [], home, [right] => ¬ (looksLikePrefix home = true ∧ DisguisedSuffix right)
  | [left], _, [] => looksLikePrefix left = true
  | before, _, after => before.length = after.length

/-- The segments come apart. -/
theorem splitOn_segments (h : ∀ s ∈ segments, '/' ∉ s.toList) (hne : segments ≠ []) :
    (("/".intercalate segments).toList.splitOn '/').map String.ofList = segments := by
  have hsplit : ("/".intercalate segments).toList.splitOn '/' = segments.map String.toList := by
    rw [String.toList_intercalate]
    refine List.splitOn_intercalate '/' ?_ (by simpa using hne)
    intro chars hchars
    obtain ⟨segment, hmem, rfl⟩ := List.mem_map.mp hchars
    exact h segment hmem
  rw [hsplit, List.map_map]
  exact (List.map_congr_left fun segment _ => String.ofList_toList).trans (List.map_id segments)

theorem IsPart.ne (hpart : IsPart part) (hhome : IsHomeCall home) : part ≠ home := by
  intro heq
  exact hpart.incomplete (heq ▸ hhome)

/-- Two segments, the home call first. -/
theorem parseTwoSegment_first (hhome : IsHomeCall home) (hpart : IsPart part) :
    (parseTwoSegment home part).baseCallsign = home
      ↔ ¬ (looksLikePrefix home = true ∧ DisguisedSuffix part) := by
  unfold parseTwoSegment
  split
  · rename_i suffix kind hfind
    have hknown : suffix = part := by simpa using List.find?_some hfind
    refine iff_of_true rfl fun h => ?_
    exact h.2.1 _ (List.mem_of_find?_eq_some hfind) hknown
  · rename_i hfind
    have hunknown : ∀ suffix ∈ knownSuffixes, suffix.1 ≠ part := by
      simpa using hfind
    split_ifs with harea hprefix
    · refine iff_of_true rfl fun h => ?_
      rw [h.2.2.1] at harea
      cases harea
    · rw [Bool.and_eq_true] at hprefix
      refine iff_of_false (hpart.ne hhome) fun h => h ⟨ hprefix.1, hunknown, ?_, hprefix.2⟩
      exact Bool.eq_false_of_not_eq_true harea
    · rw [Bool.and_eq_true] at hprefix
      exact iff_of_true rfl fun h => hprefix ⟨h.1, h.2.2.2⟩

/-- Two segments, the home call second. -/
theorem parseTwoSegment_second (hhome : IsHomeCall home) (hpart : IsPart part) :
    (parseTwoSegment part home).baseCallsign = home ↔ looksLikePrefix part = true := by
  unfold parseTwoSegment
  rw [hhome.find?_knownSuffixes]
  dsimp only
  rw [if_neg (by rw [hhome.isCallArea]; exact Bool.false_ne_true), hhome.looksLikeFullCallsign,
    Bool.and_true]
  split_ifs with hprefix
  · exact iff_of_true rfl hprefix
  · exact iff_of_false (hpart.ne hhome) hprefix

/-- **Where the parser finds the home call.** -/
theorem parseCallsign_finds_iff (hhome : IsHomeCall home)
    (hparts : ∀ part ∈ before ++ after, IsPart part)
    (hcount : (before ++ after).length = 1 ∨ (before ++ after).length = 2) :
    (parseCallsign ("/".intercalate (before ++ home :: after))).baseCallsign = home
      ↔ FindsHome before home after := by
  have hsegments : ∀ segment ∈ before ++ home :: after, '/' ∉ segment.toList := by
    intro segment hmem
    rcases List.mem_append.mp hmem with hmem | hmem
    · exact (hparts segment (List.mem_append_left _ hmem)).notMem
    · rcases List.mem_cons.mp hmem with rfl | hmem
      · exact hhome.notMem
      · exact (hparts segment (List.mem_append_right _ hmem)).notMem
  unfold parseCallsign
  rw [splitOn_segments hsegments (by simp)]
  match before, after with
  | [], [right] => exact parseTwoSegment_first hhome (hparts right (by simp))
  | [left], [] => exact parseTwoSegment_second hhome (hparts left (by simp))
  | [left], [right] => exact iff_of_true rfl rfl
  | [], [middle, right] =>
      exact iff_of_false ((hparts middle (by simp)).ne hhome) (by simp [FindsHome])
  | [left, middle], [] =>
      exact iff_of_false ((hparts middle (by simp)).ne hhome) (by simp [FindsHome])
  | [], [] => simp at hcount
  | [], _ :: _ :: _ :: _ => simp at hcount
  | [_], _ :: _ :: _ => simp at hcount
  | [_, _], _ :: _ => simp at hcount
  | _ :: _ :: _ :: _, _ => simp at hcount

/-- A segment that ends in a digit is no complete callsign. -/
theorem isPart_of_digit {segment : String} (hnotMem : '/' ∉ segment.toList)
    (hdigit : segment.toList.getLast?.any Char.isDigit = true) : IsPart segment where
  nonempty hempty := by
    rw [hempty] at hdigit
    cases hdigit
  notMem := hnotMem
  incomplete h := by
    cases hlast : segment.toList.getLast? with
    | none =>
        rw [hlast] at hdigit
        cases hdigit
    | some c =>
        have hupper := toNat_of_isUpper (h.isUpper_getLast c hlast)
        rw [hlast, Option.any_some, Char.isDigit_iff_toNat] at hdigit
        have hcode : 48 ≤ c.toNat ∧ c.toNat ≤ 57 := hdigit
        omega

/-- The home call behind a prefix. -/
theorem parseCallsign_finds_ae7xi :
    (parseCallsign ("/".intercalate ["EA8", "AE7XI"])).baseCallsign = "AE7XI" := by
  have hhome : IsHomeCall "AE7XI" :=
    ⟨['A', 'E'], ['X', 'I'], '7', rfl, by simp, rfl, by simp, by simp⟩
  show (parseCallsign ("/".intercalate (["EA8"] ++ "AE7XI" :: []))).baseCallsign = "AE7XI"
  refine (parseCallsign_finds_iff hhome ?_ (by decide)).mpr ?_
  · intro part hpart
    rw [List.append_nil, List.mem_singleton] at hpart
    rw [hpart]
    exact isPart_of_digit (by decide) (by decide)
  · show looksLikePrefix "EA8" = true
    decide

/-- A short home call in front of a location. -/
theorem not_parseCallsign_finds_home : ¬ ∀ (before : List String) (home : String)
    (after : List String), IsHomeCall home → (∀ part ∈ before ++ after, IsPart part) →
      (before ++ after).length = 1 ∨ (before ++ after).length = 2 →
      (parseCallsign ("/".intercalate (before ++ home :: after))).baseCallsign = home := by
  intro h
  have hhome : IsHomeCall "W1AW" :=
    ⟨['W'], ['A', 'W'], '1', rfl, by simp, rfl, by simp, by simp⟩
  have hparts : ∀ part ∈ ([] : List String) ++ ["KH6"], IsPart part := by
    intro part hpart
    rw [List.nil_append, List.mem_singleton] at hpart
    rw [hpart]
    exact isPart_of_digit (by decide) (by decide)
  exact absurd (h [] "W1AW" ["KH6"] hhome hparts (by decide)) (by decide)

end QsoRipper
