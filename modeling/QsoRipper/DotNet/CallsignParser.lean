/-
QsoRipper/DotNet/CallsignParser.lean

`CallsignParser.Parse` of the managed engine, beside `parse_callsign`.  It cuts at the first
slash only and goes by the lengths of the two sides, so the engines part on every callsign
with two modifiers, and wherever a short side is the callsign of the station.
-/
import QsoRipper.Domain.HomeCall
import QsoRipper.Lib.NetUpper
import QsoRipper.Lib.Segments
import QsoRipper.Storage.Store

namespace NetText

theorem separates_upperInvariantChar {c : Char} (h : c.toNat < 65) (hc : upperInvariantChar c = c) :
    Text.Separates upperInvariantChar c := by
  intro d
  refine ⟨eq_of_upperInvariantChar h, ?_⟩
  rintro rfl
  exact hc

end NetText

namespace QsoRipper.DotNet

open NetText

/-! ### Parsing -/

/-- `ModifierPosition`. -/
inductive ModifierPosition where
  | none
  | leading
  | trailing
  deriving DecidableEq

/-- `ParsedCallsign`. -/
structure ParsedCallsign where
  originalCallsign : String
  baseCallsign : String
  modifier : Option String
  position : ModifierPosition
  deriving DecidableEq

/-- `CallsignParser.Parse`, `none` where it throws. -/
def CallsignParser.parse (callsign : String) : Option ParsedCallsign :=
  if isWhiteSpace callsign then none
  else
    let normalized := toUpperInvariant (Text.trim callsign)
    match Text.splitOnce '/' normalized with
    | none => some ⟨normalized, normalized, none, .none⟩
    | some (left, right) =>
        if left.isEmpty || right.isEmpty then some ⟨normalized, normalized, none, .none⟩
        else if length right ≤ length left ∧ length right ≤ 3 then
          some ⟨normalized, left, some right, .trailing⟩
        else some ⟨normalized, right, some left, .leading⟩

/-- The callsign that `LookupAsync` falls back to. -/
def ParsedCallsign.base (parsed : ParsedCallsign) : Option String :=
  if parsed.position ≠ .none then some parsed.baseCallsign else none

/-! ### Where the engines agree -/

variable {callsign first left middle right : String} {rest : List String}

/-- The engines write the two alike: one folds ASCII letters only. -/
def SameCall (s t : String) : Prop := Text.toAsciiUppercase s = toUpperInvariant t

/-- `parse_two_segment` takes the segment behind the slash. -/
def TakesBehind (left right : String) : Prop :=
  looksLikePrefix (Text.toAsciiUppercase left) = true
    ∧ DisguisedSuffix (Text.toAsciiUppercase right)

/-- `Parse` takes the segment in front of the slash. -/
def TakesFront (left right : String) : Prop := length right ≤ length left ∧ length right ≤ 3

instance (left right : String) : Decidable (TakesFront left right) :=
  inferInstanceAs (Decidable (_ ∧ _))

/-- Two segments: the engines take the same one, or two that are written alike. -/
def SidesAgree (left right : String) : Prop :=
  TakesBehind left right ∧ ¬ TakesFront left right ∧ SameCall right right
    ∨ ¬ TakesBehind left right ∧ TakesFront left right ∧ SameCall left left
    ∨ TakesBehind left right ∧ TakesFront left right ∧ SameCall right left
    ∨ ¬ TakesBehind left right ∧ ¬ TakesFront left right ∧ SameCall left right

/-- When the engines agree about a trimmed callsign. -/
def EnginesAgree (callsign : String) : Prop :=
  match Text.segments '/' callsign with
  | [] => False
  | [_] => SameCall callsign callsign
  | [left, right] => left ≠ "" ∧ right ≠ "" ∧ SidesAgree left right
  | [_, _, _] => False
  | first :: _ => first = "" ∧ SameCall callsign callsign

theorem toAsciiUppercase_eq (s : String) :
    Text.toAsciiUppercase s = Text.mapChars Text.asciiUpperChar s := by
  unfold Text.toAsciiUppercase
  rfl

theorem separates_asciiUpperChar : Text.Separates Text.asciiUpperChar '/' := by
  intro d
  refine ⟨Text.eq_of_asciiUpperChar (by decide), ?_⟩
  rintro rfl
  decide

theorem separates_upperInvariant : Text.Separates upperInvariantChar '/' :=
  separates_upperInvariantChar (by decide) (by decide +kernel)

theorem segments_toAsciiUppercase (s : String) :
    Text.segments '/' (Text.toAsciiUppercase s)
      = (Text.segments '/' s).map Text.toAsciiUppercase := by
  rw [toAsciiUppercase_eq, Text.segments_mapChars separates_asciiUpperChar]
  apply List.map_congr_left
  intro segment hsegment
  rw [toAsciiUppercase_eq]

theorem segments_toUpperInvariant (s : String) :
    Text.segments '/' (toUpperInvariant s) = (Text.segments '/' s).map toUpperInvariant :=
  Text.segments_mapChars separates_upperInvariant s

theorem toUpperInvariant_eq_empty {s : String} : toUpperInvariant s = "" ↔ s = "" := by
  rw [← String.toList_eq_nil_iff, toList_toUpperInvariant, List.map_eq_nil_iff,
    String.toList_eq_nil_iff]

/-! ### What each parser takes -/

/-- One of two segments, and a modifier. -/
theorem parseTwoSegment_cases (left right : String) :
    (parseTwoSegment left right).modifierKind.isSome = true
      ∧ (looksLikePrefix left = true ∧ DisguisedSuffix right
          ∧ (parseTwoSegment left right).baseCallsign = right
        ∨ ¬ (looksLikePrefix left = true ∧ DisguisedSuffix right)
          ∧ (parseTwoSegment left right).baseCallsign = left) := by
  unfold parseTwoSegment
  split
  · rename_i suffix kind hfind
    have hknown : suffix = right := by simpa using List.find?_some hfind
    refine ⟨rfl, .inr ⟨fun h => ?_, rfl⟩⟩
    exact h.2.1 _ (List.mem_of_find?_eq_some hfind) hknown
  · rename_i hfind
    have hunknown : ∀ suffix ∈ knownSuffixes, suffix.1 ≠ right := by
      simpa using hfind
    split_ifs with harea hboth
    · refine ⟨rfl, .inr ⟨fun h => ?_, rfl⟩⟩
      rw [h.2.2.1] at harea
      cases harea
    · rw [Bool.and_eq_true] at hboth
      have hsuffix : DisguisedSuffix right :=
        ⟨hunknown, Bool.eq_false_of_not_eq_true harea, hboth.2⟩
      exact ⟨rfl, .inl ⟨ hboth.1, hsuffix, rfl⟩⟩
    · rw [Bool.and_eq_true] at hboth
      exact ⟨rfl, .inr ⟨fun h => hboth ⟨h.1, h.2.2.2⟩, rfl⟩⟩

/-- `parse_callsign`, by the segments. -/
theorem parseCallsign_segments (s : String) :
    parseCallsign s = match Text.segments '/' s with
      | [only] => { baseCallsign := only }
      | [left, right] => parseTwoSegment left right
      | [left, middle, _] =>
          { baseCallsign := middle
            modifierText := some left
            modifierKind := some .prefixOverride
            prefixOverride := some left
            ambiguity := .ambiguous }
      | _ => { baseCallsign := s, ambiguity := .nonStandard } :=
  rfl

theorem parse_single {only : String} (hblank : isWhiteSpace callsign = false)
    (h : Text.segments '/' (Text.trim callsign) = [only]) :
    CallsignParser.parse callsign = some ⟨toUpperInvariant (Text.trim callsign),
      toUpperInvariant (Text.trim callsign), none, .none⟩ := by
  have hsegments : Text.segments '/' (toUpperInvariant (Text.trim callsign))
      = [toUpperInvariant only] := by
    rw [segments_toUpperInvariant, h]
    rfl
  unfold CallsignParser.parse
  rw [if_neg (by simp [hblank])]
  dsimp only
  rw [Text.splitOnce_of_segments_singleton hsegments]

theorem parse_cons (hblank : isWhiteSpace callsign = false)
    (h : Text.segments '/' (Text.trim callsign) = first :: rest) (hrest : rest ≠ []) :
    CallsignParser.parse callsign =
      let normalized := toUpperInvariant (Text.trim callsign)
      let behind := "/".intercalate (rest.map toUpperInvariant)
      if first = "" ∨ behind = "" then some ⟨normalized, normalized, none, .none⟩
      else if length behind ≤ length first ∧ length behind ≤ 3 then
        some ⟨normalized, toUpperInvariant first, some behind, .trailing⟩
      else some ⟨normalized, behind, some (toUpperInvariant first), .leading⟩ := by
  have hsegments : Text.segments '/' (toUpperInvariant (Text.trim callsign))
      = toUpperInvariant first :: rest.map toUpperInvariant := by
    rw [segments_toUpperInvariant, h]
    rfl
  unfold CallsignParser.parse
  rw [if_neg (by simp [hblank])]
  dsimp only
  rw [Text.splitOnce_of_segments_cons hsegments (by simpa using hrest)]
  simp only [Bool.or_eq_true, String.isEmpty_iff, toUpperInvariant_eq_empty,
    length_toUpperInvariant]
  rfl

/-! ### The parsers compared -/

theorem notMem_toAsciiUppercase {s : String} (h : '/' ∉ s.toList) :
    '/' ∉ (Text.toAsciiUppercase s).toList :=
  Text.notMem_toAsciiUppercase (by decide) h

theorem mem_toUpperInvariant_iff {s : String} :
    '/' ∈ (toUpperInvariant s).toList ↔ '/' ∈ s.toList := by
  rw [toList_toUpperInvariant, List.mem_map]
  constructor
  · rintro ⟨c, hc, hupper⟩
    rwa [(separates_upperInvariant c).mp hupper] at hc
  · intro hmem
    exact ⟨'/', hmem, (separates_upperInvariant '/').mpr rfl⟩

/-- A text with a slash is not one without. -/
theorem ne_of_mem {s t : String} (hs : '/' ∈ s.toList) (ht : '/' ∉ t.toList) : t ≠ s := by
  rintro rfl
  exact ht hs

theorem length_toList_toAsciiUppercase (s : String) :
    (Text.toAsciiUppercase s).toList.length = s.toList.length := by
  rw [toAsciiUppercase_eq, Text.length_mapChars]

theorem length_toAsciiUppercase (s : String) : length (Text.toAsciiUppercase s) = length s := by
  unfold length utf16
  rw [toAsciiUppercase_eq, Text.toList_mapChars, List.flatMap_map, List.length_flatMap,
    List.length_flatMap]
  apply congrArg List.sum
  apply List.map_congr_left
  intro c hc
  rw [length_utf16Char, length_utf16Char]
  rcases Text.asciiUpperChar_cases c with hsame | ⟨hletter, hupper⟩
  · rw [hsame]
  · rw [hupper, if_pos (by omega), if_pos (by omega)]

/-- Two segments: each engine takes one of them. -/
theorem sides_iff (hleft : left ≠ "") (hright : right ≠ "") :
    ((parseTwoSegment (Text.toAsciiUppercase left) (Text.toAsciiUppercase right)).baseCallsign
        = if TakesFront left right then toUpperInvariant left else toUpperInvariant right)
      ↔ left ≠ "" ∧ right ≠ "" ∧ SidesAgree left right := by
  rw [and_iff_right hleft, and_iff_right hright]
  obtain ⟨-, ⟨hshort, hfull, hbase⟩ | ⟨hfront, hbase⟩⟩ :=
    parseTwoSegment_cases (Text.toAsciiUppercase left) (Text.toAsciiUppercase right)
  · have hbehind : TakesBehind left right := ⟨hshort, hfull⟩
    rw [hbase, SidesAgree]
    split_ifs with htakes <;> simp [hbehind, htakes, SameCall]
  · have hbehind : ¬ TakesBehind left right := hfront
    rw [hbase, SidesAgree]
    split_ifs with htakes <;> simp [hbehind, htakes, SameCall]

/-- The callsign before its case is folded has the slash between its segments. -/
theorem mem_of_segments_cons {s : String} (h : Text.segments '/' s = first :: rest)
    (hrest : rest ≠ []) : '/' ∈ s.toList := by
  rw [Text.eq_append_of_segments h hrest]
  simp

theorem length_lt_of_segments {s : String} (h : Text.segments '/' s = first :: rest)
    (hrest : rest ≠ []) :
    first.toList.length < s.toList.length
      ∧ ("/".intercalate (rest.map toUpperInvariant)).toList.length < s.toList.length := by
  have hupper : Text.segments '/' (toUpperInvariant s)
      = toUpperInvariant first :: rest.map toUpperInvariant := by
    rw [segments_toUpperInvariant, h]
    rfl
  have happend := congrArg (fun text => text.toList.length)
    (Text.eq_append_of_segments hupper (by simpa using hrest))
  have hslash : String.singleton '/' = "/" := rfl
  simp only [hslash, toList_toUpperInvariant, List.length_map, String.toList_append,
    List.length_append] at happend
  have hone : "/".toList.length = 1 := rfl
  omega

/-- What the two parsers make of a callsign. -/
structure ParsedAlike (callsign : String) (parsed : ParsedCallsign) : Prop where
  base_iff : parsed.baseCallsign = (parseCallsign (normalizeCallsign callsign)).baseCallsign
    ↔ EnginesAgree (Text.trim callsign)
  fallback : EnginesAgree (Text.trim callsign) →
    parsed.base = (parseCallsign (normalizeCallsign callsign)).base

section Shapes

variable (hblank : isWhiteSpace callsign = false)

include hblank

theorem normalizeCallsign_of_nonblank :
    normalizeCallsign callsign = Text.toAsciiUppercase (Text.trim callsign) := by
  rw [normalizeCallsign, if_neg]
  simpa [isWhiteSpace] using hblank

/-- `parse_callsign`, by the segments of the text that was given. -/
theorem parseCallsign_normalized :
    parseCallsign (normalizeCallsign callsign)
      = match (Text.segments '/' (Text.trim callsign)).map Text.toAsciiUppercase with
      | [only] => { baseCallsign := only }
      | [left, right] => parseTwoSegment left right
      | [left, middle, _] =>
          { baseCallsign := middle
            modifierText := some left
            modifierKind := some .prefixOverride
            prefixOverride := some left
            ambiguity := .ambiguous }
      | _ => { baseCallsign := normalizeCallsign callsign, ambiguity := .nonStandard } := by
  rw [parseCallsign_segments, ← segments_toAsciiUppercase, normalizeCallsign_of_nonblank hblank]

theorem parsedAlike_single {only : String}
    (h : Text.segments '/' (Text.trim callsign) = [only]) :
    ∃ parsed, CallsignParser.parse callsign = some parsed ∧ ParsedAlike callsign parsed := by
  refine ⟨_, parse_single hblank h, ?_, fun _ => ?_⟩
  · have hagree : EnginesAgree (Text.trim callsign)
        = SameCall (Text.trim callsign) (Text.trim callsign) := by
      rw [EnginesAgree, h]
    have honly : only = Text.trim callsign := by
      have hjoin := Text.intercalate_segments '/' (Text.trim callsign)
      rw [h] at hjoin
      simpa using hjoin
    rw [hagree, parseCallsign_normalized hblank, h, honly]
    exact eq_comm
  · rw [parseCallsign_normalized hblank, h]
    rfl

theorem parsedAlike_pair (h : Text.segments '/' (Text.trim callsign) = [left, right]) :
    ∃ parsed, CallsignParser.parse callsign = some parsed ∧ ParsedAlike callsign parsed := by
  have hparse := parse_cons hblank h (List.cons_ne_nil _ _)
  have hbehind : "/".intercalate ([right].map toUpperInvariant) = toUpperInvariant right := by
    simp
  have hagree : EnginesAgree (Text.trim callsign)
      = (left ≠ "" ∧ right ≠ "" ∧ SidesAgree left right) := by
    rw [EnginesAgree, h]
  have hrust : parseCallsign (normalizeCallsign callsign)
      = parseTwoSegment (Text.toAsciiUppercase left) (Text.toAsciiUppercase right) := by
    rw [parseCallsign_normalized hblank, h]
    rfl
  have hnotMem : ∀ segment ∈ [left, right], '/' ∉ segment.toList := by
    rw [← h]
    exact fun segment => Text.notMem_of_mem_segments
  obtain ⟨hmodifier, hcases⟩ :=
    parseTwoSegment_cases (Text.toAsciiUppercase left) (Text.toAsciiUppercase right)
  dsimp only at hparse
  simp only [hbehind, toUpperInvariant_eq_empty, length_toUpperInvariant] at hparse
  by_cases hempty : left = "" ∨ right = ""
  · rw [if_pos hempty] at hparse
    have hnot : ¬ EnginesAgree (Text.trim callsign) := by
      rw [hagree]
      exact fun hboth => hempty.elim hboth.1 hboth.2.1
    refine ⟨_, hparse, ⟨iff_of_false ?_ hnot, fun hagrees => absurd hagrees hnot⟩⟩
    -- the managed engine keeps the slash
    have hmem : '/' ∈ (toUpperInvariant (Text.trim callsign)).toList :=
      mem_toUpperInvariant_iff.mpr (mem_of_segments_cons h (List.cons_ne_nil _ _))
    rw [hrust]
    rcases hcases with ⟨-, -, hbase⟩ | ⟨-, hbase⟩
    · rw [hbase]
      exact (ne_of_mem hmem (notMem_toAsciiUppercase (hnotMem right (by simp)))).symm
    · rw [hbase]
      exact (ne_of_mem hmem (notMem_toAsciiUppercase (hnotMem left (by simp)))).symm
  · rw [if_neg hempty] at hparse
    rw [not_or] at hempty
    have hsides := sides_iff hempty.1 hempty.2
    rw [← hrust, ← hagree] at hsides
    by_cases htakes : length right ≤ length left ∧ length right ≤ 3
    · have hfront : TakesFront left right := htakes
      rw [if_pos htakes] at hparse
      rw [if_pos hfront] at hsides
      refine ⟨_, hparse, ⟨eq_comm.trans hsides, fun hagrees => ?_⟩⟩
      rw [QsoRipper.ParsedCallsign.base, hrust, if_pos hmodifier, ← hrust, hsides.mpr hagrees]
      rfl
    · have hfront : ¬ TakesFront left right := htakes
      rw [if_neg htakes] at hparse
      rw [if_neg hfront] at hsides
      refine ⟨_, hparse, ⟨eq_comm.trans hsides, fun hagrees => ?_⟩⟩
      rw [QsoRipper.ParsedCallsign.base, hrust, if_pos hmodifier, ← hrust, hsides.mpr hagrees]
      rfl

theorem parsedAlike_triple (h : Text.segments '/' (Text.trim callsign) = [left, middle, right]) :
    ∃ parsed, CallsignParser.parse callsign = some parsed ∧ ParsedAlike callsign parsed := by
  have hparse := parse_cons hblank h (List.cons_ne_nil _ _)
  have hbehind : "/".intercalate ([middle, right].map toUpperInvariant)
      = toUpperInvariant middle ++ "/" ++ toUpperInvariant right := by
    simp
  have hnot : ¬ EnginesAgree (Text.trim callsign) := by
    rw [EnginesAgree, h]
    exact not_false
  have hrust : (parseCallsign (normalizeCallsign callsign)).baseCallsign
      = Text.toAsciiUppercase middle := by
    rw [parseCallsign_normalized hblank, h]
    rfl
  have hmiddle : '/' ∉ (Text.toAsciiUppercase middle).toList := by
    apply notMem_toAsciiUppercase
    apply Text.notMem_of_mem_segments (s := Text.trim callsign)
    rw [h]
    simp
  dsimp only at hparse
  rw [hbehind] at hparse
  split_ifs at hparse with hempty htakes
  · refine ⟨_, hparse, ⟨iff_of_false ?_ hnot, fun hagrees => absurd hagrees hnot⟩⟩
    rw [hrust]
    exact (ne_of_mem (mem_toUpperInvariant_iff.mpr
      (mem_of_segments_cons h (List.cons_ne_nil _ _))) hmiddle).symm
  · refine ⟨_, hparse, ⟨iff_of_false ?_ hnot, fun hagrees => absurd hagrees hnot⟩⟩
    rw [hrust]
    intro hbase
    -- the segment in front is longer than what is behind the slash
    have hlength := congrArg length hbase
    have hone : length "/" = 1 := by decide
    rw [length_toUpperInvariant, length_toAsciiUppercase] at hlength
    simp only [length_append, length_toUpperInvariant, hone] at htakes
    omega
  · refine ⟨_, hparse, ⟨iff_of_false ?_ hnot, fun hagrees => absurd hagrees hnot⟩⟩
    rw [hrust]
    exact (ne_of_mem (by simp) hmiddle).symm

theorem parsedAlike_many {second third fourth : String}
    (h : Text.segments '/' (Text.trim callsign) = first :: second :: third :: fourth :: rest) :
    ∃ parsed, CallsignParser.parse callsign = some parsed ∧ ParsedAlike callsign parsed := by
  have hparse := parse_cons hblank h (List.cons_ne_nil _ _)
  have hagree : EnginesAgree (Text.trim callsign)
      = (first = "" ∧ SameCall (Text.trim callsign) (Text.trim callsign)) := by
    rw [EnginesAgree, h]
  have hrust : parseCallsign (normalizeCallsign callsign)
      = { baseCallsign := Text.toAsciiUppercase (Text.trim callsign)
          ambiguity := .nonStandard } := by
    rw [parseCallsign_normalized hblank, h, normalizeCallsign_of_nonblank hblank]
    rfl
  obtain ⟨hfirst, hbehind⟩ := length_lt_of_segments h (List.cons_ne_nil _ _)
  -- a side of the slash is shorter than the whole text
  have hshort (side : String) (hside : side.toList.length < (Text.trim callsign).toList.length) :
      side ≠ (parseCallsign (normalizeCallsign callsign)).baseCallsign := by
    rw [hrust]
    rintro rfl
    dsimp only at hside
    rw [length_toList_toAsciiUppercase] at hside
    exact absurd hside (Nat.lt_irrefl _)
  dsimp only at hparse
  have hbehindNe : "/".intercalate
      ((second :: third :: fourth :: rest).map toUpperInvariant) ≠ "" := by
    intro hempty
    have hchars := congrArg String.toList hempty
    rw [String.toList_intercalate] at hchars
    simp at hchars
  simp only [hbehindNe, or_false] at hparse
  split_ifs at hparse with hempty htakes
  · refine ⟨_, hparse, ⟨?_, fun _ => ?_⟩⟩
    · rw [hagree, and_iff_right hempty, hrust]
      exact eq_comm
    · rw [hrust]
      rfl
  all_goals
    have hnot : ¬ EnginesAgree (Text.trim callsign) := by
      rw [hagree]
      exact fun hboth => hempty hboth.1
    refine ⟨_, hparse, ⟨iff_of_false (hshort _ ?_) hnot, fun hagrees => absurd hagrees hnot⟩⟩
  · dsimp only
    rwa [toList_toUpperInvariant, List.length_map]
  · exact hbehind

end Shapes

/-- **The base call is the same** exactly where `EnginesAgree`, and then both engines fall back to
it, or neither does. -/
theorem parse_baseCallsign_iff (hblank : isWhiteSpace callsign = false) :
    ∃ parsed, CallsignParser.parse callsign = some parsed ∧ ParsedAlike callsign parsed := by
  match hsegments : Text.segments '/' (Text.trim callsign) with
  | [] => exact absurd hsegments (Text.segments_ne_nil _ _)
  | [only] => exact parsedAlike_single hblank hsegments
  | [left, right] => exact parsedAlike_pair hblank hsegments
  | [left, middle, right] => exact parsedAlike_triple hblank hsegments
  | first :: second :: third :: fourth :: rest => exact parsedAlike_many hblank hsegments

/-- A prefix and a suffix around the home call. -/
theorem parse_baseCallsign_portable :
    (CallsignParser.parse "DL/AE7XI/P").map (·.baseCallsign) = some "AE7XI/P"
      ∧ (parseCallsign (normalizeCallsign "DL/AE7XI/P")).baseCallsign = "AE7XI"
      ∧ ¬ ∀ callsign, isWhiteSpace callsign = false →
        (CallsignParser.parse callsign).map (·.baseCallsign)
          = some (parseCallsign (normalizeCallsign callsign)).baseCallsign := by
  have hdotNet : (CallsignParser.parse "DL/AE7XI/P").map (·.baseCallsign) = some "AE7XI/P" := by
    decide +kernel
  have hrust : (parseCallsign (normalizeCallsign "DL/AE7XI/P")).baseCallsign = "AE7XI" := by
    decide +kernel
  refine ⟨hdotNet, hrust, fun hall => ?_⟩
  have hsame := hall "DL/AE7XI/P" (by decide +kernel)
  rw [hdotNet, hrust] at hsame
  exact absurd hsame (by decide)

/-- A known suffix: both engines take the home call. -/
theorem parse_baseCallsign_mobile :
    ∃ parsed, CallsignParser.parse "K7ABC/M" = some parsed ∧ ParsedAlike "K7ABC/M" parsed :=
  parse_baseCallsign_iff (by decide +kernel)

end QsoRipper.DotNet
