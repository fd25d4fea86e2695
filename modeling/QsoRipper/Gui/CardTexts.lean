/-
QsoRipper/Gui/CardTexts.lean

Each formatter of the card with the parser that reads it back, and what survives the two.
-/
import QsoRipper.Gui.Card
import QsoRipper.Lib.NetUpper
import QsoRipper.Tui.Texts

namespace QsoRipper.Gui

/-! ### Texts -/

/-- A text that is kept: it is trimmed and not empty. -/
def IsText (s : String) : Prop := s ≠ "" ∧ Text.trim s = s

/-- A text in capitals that is kept. -/
def IsToken (s : String) : Prop := IsText s ∧ NetText.toUpperInvariant s = s

/-- What is read in an empty text. -/
theorem empty_reads :
    noteOrNull "" = none ∧ (∀ uppercase, optionalString "" uppercase = none)
      ∧ parseUInt "" = none ∧ tryParseRst "" = none := by
  decide +kernel

theorem noteOrNull_empty : noteOrNull "" = none := empty_reads.1

theorem noteOrNull_of_trim {s : String} (hne : s ≠ "") (htrim : Text.trim s = s) :
    noteOrNull s = some s := by
  rw [noteOrNull, NetText.isWhiteSpace, htrim, if_neg]
  rwa [String.isEmpty_iff]

theorem noteOrNull_eq_some {s t : String} (h : noteOrNull s = some t) :
    t ≠ "" ∧ Text.trim s = t := by
  rw [noteOrNull] at h
  split_ifs at h with hblank
  cases h
  rw [NetText.isWhiteSpace_iff] at hblank
  exact ⟨hblank, rfl⟩

@[simp] theorem normalizeToken_idem (value : String) (uppercase : Bool) :
    normalizeToken (normalizeToken value uppercase) uppercase = normalizeToken value uppercase := by
  cases uppercase <;> simp [normalizeToken, NetText.trim_toUpperInvariant]

theorem trim_normalizeToken (value : String) (uppercase : Bool) :
    Text.trim (normalizeToken value uppercase) = normalizeToken value uppercase := by
  cases uppercase <;> simp [normalizeToken, NetText.trim_toUpperInvariant]

theorem normalizeToken_eq_empty_iff {value : String} {uppercase : Bool} :
    normalizeToken value uppercase = "" ↔ NetText.isWhiteSpace value = true := by
  cases uppercase with
  | false => exact NetText.isWhiteSpace_iff.symm
  | true =>
      rw [← NetText.isWhiteSpace_toUpperInvariant, NetText.isWhiteSpace_iff,
        NetText.trim_toUpperInvariant]
      rfl

theorem normalizeToken_eq_self_iff {s : String} {uppercase : Bool} :
    normalizeToken s uppercase = s
      ↔ Text.trim s = s ∧ (uppercase = true → NetText.toUpperInvariant s = s) := by
  constructor
  · intro h
    have htrim : Text.trim s = s := by
      rw [← h, trim_normalizeToken]
    refine ⟨htrim, fun hupper => ?_⟩
    rwa [normalizeToken, htrim, if_pos hupper] at h
  · rintro ⟨htrim, hupper⟩
    cases uppercase with
    | false => exact htrim
    | true => rw [normalizeToken, htrim, if_pos rfl, hupper rfl]

/-- A text field reads back exactly if its text is kept. -/
theorem optionalString_eq_iff {x : Option String} {uppercase : Bool} :
    optionalString (x.getD "") uppercase = x
      ↔ ∀ s ∈ x, IsText s ∧ (uppercase = true → NetText.toUpperInvariant s = s) := by
  cases x with
  | none =>
      have hempty : optionalString "" uppercase = none := empty_reads.2.1 uppercase
      simp [hempty]
  | some s =>
      simp only [Option.getD_some, Option.mem_def, Option.some.injEq, forall_eq', IsText, and_assoc,
        ← normalizeToken_eq_self_iff, optionalString, String.isEmpty_iff]
      constructor
      · intro h
        split_ifs at h with hempty
        rw [Option.some_inj] at h
        exact ⟨h ▸ hempty, h⟩
      · rintro ⟨hne, h⟩
        rw [h, if_neg hne]

theorem optionalString_text_iff {x : Option String} :
    optionalString (x.getD "") = x ↔ ∀ s ∈ x, IsText s := by
  rw [optionalString_eq_iff]
  simp

theorem optionalString_token_iff {x : Option String} :
    optionalString (x.getD "") true = x ↔ ∀ s ∈ x, IsToken s := by
  rw [optionalString_eq_iff]
  simp [IsToken]

/-- The callsign of the operator, which is never left blank. -/
theorem optionalString_operator_iff {x : Option String} {callsign : String}
    (hcallsign : IsToken callsign) :
    optionalString ((firstNonBlank [x.getD "", callsign]).getD "") true = x
      ↔ ∃ s, x = some s ∧ IsToken s := by
  obtain ⟨⟨hne, htrim⟩, hupper⟩ := hcallsign
  have hown : optionalString callsign true = some callsign :=
    (optionalString_token_iff (x := some callsign)).mpr (by simp [IsToken, IsText, hne, htrim, hupper])
  have hsecond : noteOrNull callsign = some callsign := noteOrNull_of_trim hne htrim
  cases x with
  | none => simp [firstNonBlank, noteOrNull_empty, hsecond, hown]
  | some s =>
      cases hnote : noteOrNull s with
      | none =>
          -- a blank callsign is replaced by that of the station
          have hblank : NetText.isWhiteSpace s = true := by
            rw [noteOrNull] at hnote
            by_contra hblank
            rw [if_neg hblank] at hnote
            cases hnote
          simp only [firstNonBlank, List.findSome?, Option.getD_some, hnote, hsecond, hown,
            Option.some.injEq, exists_eq_left']
          constructor
          · rintro rfl
            exact ⟨⟨hne, htrim⟩, hupper⟩
          · rintro ⟨⟨hs, hstrim⟩, -⟩
            rw [NetText.isWhiteSpace_iff, hstrim] at hblank
            exact absurd hblank hs
      | some t =>
          obtain ⟨-, rfl⟩ := noteOrNull_eq_some hnote
          have hsame : optionalString (Text.trim s) true = optionalString s true := by
            simp [optionalString, normalizeToken]
          have hread := optionalString_token_iff (x := some s)
          simp only [firstNonBlank, List.findSome?, Option.getD_some, hnote, hsame,
            Option.some.injEq, exists_eq_left'] at hread ⊢
          rw [hread]
          simp

/-! ### Numbers -/

theorem ofDigits_reverse (ds : List Char) :
    Nat.ofDigits 10 (ds.reverse.map fun c => c.toNat - 48) = Text.decimalValue ds := by
  induction ds using List.reverseRecOn with
  | nil => rfl
  | append_singleton ds d ih =>
      have hvalue : Text.decimalValue (ds ++ [d]) = Text.decimalValue ds * 10 + (d.toNat - 48) := by
        simp [Text.decimalValue]
      rw [List.reverse_append, List.reverse_singleton, List.singleton_append, List.map_cons,
        Nat.ofDigits_cons, ih, hvalue]
      omega

theorem parseDigits_padded {n : ℕ} (zeroes : ℕ) (h : n < 2 ^ 64) :
    parseDigits (String.ofList (List.replicate zeroes '0' ++ Nat.toDigits 10 n)) = some n := by
  have hdigits : (List.replicate zeroes '0' ++ Nat.toDigits 10 n).all Char.isDigit = true := by
    rw [List.all_eq_true]
    intro c hc
    rcases List.mem_append.mp hc with hc | hc
    · rw [List.eq_of_mem_replicate hc]
      decide
    · exact Nat.isDigit_of_mem_toDigits (by decide) (by decide) hc
  have hne : (String.ofList (List.replicate zeroes '0' ++ Nat.toDigits 10 n)).isEmpty = false := by
    simp [Nat.toDigits_ne_nil]
  simp only [parseDigits, hne, String.toList_ofList, hdigits, ofDigits_reverse,
    Text.decimalValue_padded, h, if_true, Bool.false_eq_true, if_false]

theorem parseDigits_toString {n : ℕ} (h : n < 2 ^ 64) : parseDigits (toString n) = some n := by
  rw [Nat.toString_eq_ofList_toDigits]
  exact parseDigits_padded 0 h

theorem parseUInt_toString {n : ℕ} (h : n < 2 ^ 32) : parseUInt (toString n) = some n := by
  rw [parseUInt, parseDigits_toString (by omega), Option.filter_some, if_pos (decide_eq_true h)]

theorem noteOrNull_toString (n : ℕ) : noteOrNull (toString n) = some (toString n) := by
  refine noteOrNull_of_trim ?_ ?_
  · rw [Nat.toString_eq_ofList_toDigits, ne_eq, ← String.toList_eq_nil_iff, String.toList_ofList]
    exact Nat.toDigits_ne_nil
  · exact Text.trim_eq_self fun c hc =>
      Text.isWhitespace_of_isDigit (Tui.toString_digits n c hc)

theorem optionalUInt_formatNumber {x : Option ℕ} (h : ∀ n ∈ x, n < 2 ^ 32) (fieldName : String) :
    optionalUInt (formatNumber x) fieldName = .ok x := by
  cases x with
  | none =>
      simp only [optionalUInt, formatNumber, Option.map_none, Option.getD_none, noteOrNull_empty]
  | some n =>
      simp only [optionalUInt, formatNumber, Option.map_some, Option.getD_some,
        noteOrNull_toString, parseUInt_toString (h n rfl)]

theorem parseUInt_formatNumber {x : Option ℕ} (h : ∀ n ∈ x, n < 2 ^ 32) :
    parseUInt (formatNumber x) = x := by
  cases x with
  | none => exact empty_reads.2.2.1
  | some n => exact parseUInt_toString (h n rfl)

/-- A speed of 0 is not read back. -/
theorem wpm_eq_iff {x : Option ℕ} (h : ∀ n ∈ x, n < 2 ^ 32) :
    (parseUInt (formatNumber x)).filter (0 < ·) = x ↔ x ≠ some 0 := by
  rw [parseUInt_formatNumber h]
  rcases x with - | - | n <;> simp

/-! ### Codes -/

/-- A band that has a name. -/
def IsKnownBand (code : ℤ) : Prop := 0 < code ∧ code ≤ 33

/-- A mode that has a name. -/
def IsKnownMode (code : ℤ) : Prop := 0 < code ∧ code ≤ 45

/-- Every label has a token, and no two labels have the same. -/
def LabelsDistinct (labels : List String) : Prop :=
  (labels.map enumToken).Nodup ∧ "" ∉ (labels.drop 1).map enumToken

/-- A label that can be told from the others is read as its code. -/
theorem tryParseEnum_label {labels : List String} (h : LabelsDistinct labels) {n : ℕ}
    (hn : n + 1 < labels.length) :
    tryParseEnum labels labels[n + 1] = some ((n + 1 : ℕ) : ℤ) := by
  have hlength : n < (labels.zipIdx.drop 1).length := by
    rw [List.length_drop, List.length_zipIdx]
    omega
  have hentry : (labels.zipIdx.drop 1)[n] = (labels[n + 1], n + 1) := by
    simp [Nat.add_comm]
  have hsome : enumToken labels[n + 1] ≠ "" := by
    intro hblank
    apply h.2
    rw [← hblank]
    apply List.mem_map_of_mem
    rw [List.mem_drop_iff_getElem]
    exact ⟨n, by omega, by simp [Nat.add_comm]⟩
  rw [tryParseEnum]
  dsimp only
  rw [if_neg (by rwa [String.isEmpty_iff]), List.findSome?_eq_some_iff]
  refine ⟨(labels.zipIdx.drop 1).take n, (labels[n + 1], n + 1), (labels.zipIdx.drop 1).drop (n + 1),
    ?_, if_pos rfl, ?_⟩
  · rw [← hentry, ← List.drop_eq_getElem_cons hlength, List.take_append_drop]
  · -- an earlier label has another token
    intro entry hmem
    obtain ⟨i, hi, rfl⟩ := List.mem_take_iff_getElem.mp hmem
    have hbefore : i < n := (Nat.lt_min.mp hi).1
    have hbound : i + 1 < (labels.map enumToken).length := by
      rw [List.length_map]
      omega
    have hlast : n + 1 < (labels.map enumToken).length := by rwa [List.length_map]
    have hother : (labels.zipIdx.drop 1)[i] = (labels[i + 1], i + 1) := by
      simp [Nat.add_comm]
    have hne := List.pairwise_iff_getElem.mp h.1 (i + 1) (n + 1) hbound hlast (by omega)
    rw [List.getElem_map, List.getElem_map] at hne
    rw [hother]
    exact if_neg hne

theorem labels_distinct : LabelsDistinct bandLabels ∧ LabelsDistinct modeLabels := by
  rw [LabelsDistinct, LabelsDistinct]
  decide +kernel

/-- A code with a name is shown as its label. -/
theorem labels_shown :
    (∀ n ∈ List.range 33, forBand (n + 1 : ℕ) = bandLabels.getD (n + 1) "")
      ∧ ∀ n ∈ List.range 45, forMode (n + 1 : ℕ) = modeLabels.getD (n + 1) "" := by
  decide +kernel

theorem tryParseBand_forBand {code : ℤ} (h : IsKnownBand code) :
    tryParseEnum bandLabels (forBand code) = some code := by
  obtain ⟨n, hn⟩ := Int.eq_ofNat_of_zero_le (show 0 ≤ code - 1 by have := h.1; omega)
  have hcode : code = (n + 1 : ℕ) := by omega
  have hbound : n < 33 := by
    have := h.2
    omega
  have hlength : n + 1 < bandLabels.length := Nat.succ_lt_succ hbound
  rw [hcode, labels_shown.1 n (List.mem_range.mpr hbound), List.getD_eq_getElem _ _ hlength]
  exact tryParseEnum_label labels_distinct.1 hlength

theorem tryParseMode_forMode {code : ℤ} (h : IsKnownMode code) :
    tryParseEnum modeLabels (forMode code) = some code := by
  obtain ⟨n, hn⟩ := Int.eq_ofNat_of_zero_le (show 0 ≤ code - 1 by have := h.1; omega)
  have hcode : code = (n + 1 : ℕ) := by omega
  have hbound : n < 45 := by
    have := h.2
    omega
  have hlength : n + 1 < modeLabels.length := Nat.succ_lt_succ hbound
  rw [hcode, labels_shown.2 n (List.mem_range.mpr hbound), List.getD_eq_getElem _ _ hlength]
  exact tryParseEnum_label labels_distinct.2 hlength

theorem qslStatus_eq_iff {status : ℤ} :
    (parseQslStatus (formatQslStatus status)).toI32 = status ↔ (QslStatus.tryFrom status).isSome := by
  have hread : parseQslStatus (formatQslStatus status)
      = (QslStatus.tryFrom status).getD .unspecified := by
    rw [formatQslStatus]
    cases QslStatus.tryFrom status with
    | none => decide +kernel
    | some status => cases status <;> decide +kernel
  rw [hread]
  exact Tui.qslStatus_toI32_eq_iff

/-! ### Reports -/

/-- A report that is what its text reads as. -/
def ReportKept (report : RstReport) : Prop := tryParseRst report.raw = some report

theorem tryParseRst_raw {value : String} {report : RstReport} (h : tryParseRst value = some report) :
    report.raw = Text.trim value := by
  unfold tryParseRst at h
  dsimp only at h
  split_ifs at h
  · cases h
    rfl
  · split at h
    · split_ifs at h
      cases h
      rfl
    · split_ifs at h
      cases h
      rfl
    · cases h

theorem tryParseRst_trim (value : String) : tryParseRst (Text.trim value) = tryParseRst value := by
  unfold tryParseRst
  rw [Text.trim_trim]

theorem optionalRst_eq_iff {report : Option RstReport} {fieldName : String} :
    optionalRst (formatRst report) fieldName = .ok report ↔ ∀ r ∈ report, ReportKept r := by
  cases report with
  | none =>
      simp only [formatRst, optionalRst, noteOrNull_empty, Option.mem_def]
      exact iff_of_true trivial nofun
  | some report =>
      simp only [Option.mem_def, Option.some.injEq, forall_eq', ReportKept]
      by_cases hraw : Text.trim report.raw = ""
      · -- without a text the report gets one
        have hnone : ¬tryParseRst report.raw = some report := by
          rw [← tryParseRst_trim, hraw]
          intro h
          rw [empty_reads.2.2.2] at h
          cases h
        refine iff_of_false (fun h => ?_) hnone
        rw [optionalRst] at h
        cases hnote : noteOrNull (formatRst (some report)) with
        | none =>
            rw [hnote] at h
            cases h
        | some text =>
            rw [hnote] at h
            dsimp only at h
            cases hparse : tryParseRst text with
            | none =>
                rw [hparse] at h
                cases h
            | some parsed =>
                rw [hparse] at h
                cases h
                obtain ⟨hne, htext⟩ := noteOrNull_eq_some hnote
                have htrim : Text.trim text = text := by
                  rw [← htext, Text.trim_trim]
                rw [tryParseRst_raw hparse, htrim, htrim] at hraw
                exact hne hraw
      · have hformat : formatRst (some report) = Text.trim report.raw := by
          rw [formatRst, if_neg]
          rwa [String.isEmpty_iff]
        rw [optionalRst, hformat, noteOrNull_of_trim hraw (Text.trim_trim _)]
        dsimp only
        rw [tryParseRst_trim]
        cases tryParseRst report.raw with
        | none => exact iff_of_false nofun nofun
        | some parsed => rw [Except.ok.injEq]

/-! ### Frequencies -/

theorem toList_pushn (n : ℕ) : ("".pushn '0' n).toList = List.replicate n '0' := by
  rw [String.pushn_eq_repeat_push]
  induction n with
  | zero => rfl
  | succ n ih => rw [Nat.repeat, String.toList_push, ih, List.replicate_succ']

theorem threeDigits_eq (n : ℕ) :
    threeDigits n
      = String.ofList (List.replicate (3 - (Nat.toDigits 10 n).length) '0' ++ Nat.toDigits 10 n) := by
  rw [← String.toList_inj, threeDigits, Nat.toString_eq_ofList_toDigits]
  simp [String.length_ofList, toList_pushn]

theorem threeDigits_digits (n : ℕ) : ∀ c ∈ (threeDigits n).toList, c.isDigit = true := by
  rw [threeDigits_eq, String.toList_ofList, ← Tui.threeDigits_toList]
  exact Tui.threeDigits_digits n

theorem threeDigits_length {n : ℕ} (h : n < 1000) : (threeDigits n).length = 3 := by
  have hlength := Tui.toDigits_length h
  rw [threeDigits_eq, String.length_ofList, List.length_append, List.length_replicate]
  omega

theorem formatMhz_toList (hz : ℕ) :
    (formatMhz hz).toList
      = (toString (hz / 1000000)).toList ++ '.' :: ((threeDigits (hz % 1000000 / 1000)).toList
        ++ '.' :: (threeDigits (hz % 1000)).toList) := by
  simp [formatMhz]

theorem noteOrNull_formatMhz (hz : ℕ) : noteOrNull (formatMhz hz) = some (formatMhz hz) := by
  refine noteOrNull_of_trim ?_ (Text.trim_eq_self ?_)
  · rw [ne_eq, ← String.toList_eq_nil_iff, formatMhz_toList]
    simp
  · rw [formatMhz_toList]
    intro c hc
    simp only [List.mem_append, List.mem_cons] at hc
    rcases hc with hc | rfl | hc | rfl | hc
    · exact Text.isWhitespace_of_isDigit (Tui.toString_digits _ c hc)
    · decide
    · exact Text.isWhitespace_of_isDigit (threeDigits_digits _ c hc)
    · decide
    · exact Text.isWhitespace_of_isDigit (threeDigits_digits _ c hc)

theorem tryParseRadioStyle_formatMhz {hz : ℕ} (h : hz < 2 ^ 64) :
    tryParseRadioStyle (formatMhz hz) = if 0 < hz then some hz else none := by
  have hdots : ∀ {n : ℕ}, '.' ∉ (threeDigits n).toList := fun h =>
    absurd (threeDigits_digits _ '.' h) (by decide)
  have hdot : '.' ∉ (toString (hz / 1000000)).toList := fun h =>
    absurd (Tui.toString_digits _ '.' h) (by decide)
  have hparts : ((formatMhz hz).toList.splitOn '.').map String.ofList
      = [toString (hz / 1000000), threeDigits (hz % 1000000 / 1000), threeDigits (hz % 1000)] := by
    rw [formatMhz_toList, List.splitOn_append_cons_self_of_not_mem hdot,
      List.splitOn_append_cons_self_of_not_mem hdots, List.splitOn_eq_singleton hdots]
    simp only [List.map_cons, String.ofList_toList, List.map_nil]
  have hthree {n : ℕ} (hn : n < 1000) : parseDigits (threeDigits n) = some n := by
    rw [threeDigits_eq]
    exact parseDigits_padded _ (by omega)
  have hkhz : hz % 1000000 / 1000 < 1000 := by omega
  have htail : hz % 1000 < 1000 := by omega
  have hvalid : ¬(3 < 3 ∨ 999 < hz % 1000000 / 1000 ∨ 999 < hz % 1000) := by omega
  have hlong : ¬(3 ≤ 2) := by decide
  have hroom : ¬(2 ^ 64 - 1 - (hz % 1000000 / 1000 * 1000 + hz % 1000)) / 1000000
      < hz / 1000000 := by omega
  have hsum : hz / 1000000 * 1000000 + (hz % 1000000 / 1000 * 1000 + hz % 1000) = hz := by omega
  unfold tryParseRadioStyle
  rw [hparts]
  simp only [parseDigits_toString (show hz / 1000000 < 2 ^ 64 by omega), hthree hkhz,
    hthree htail, threeDigits_length htail, bind, Option.bind_some]
  rw [if_neg hvalid, if_neg hlong, if_neg hroom, hsum]

/-! ### Times and coordinates -/

/-- **Times and coordinates read back**: a time as its minute or its midnight.  A frequency
of zero is no number to .NET, and a line break is one of two. -/
structure CardTexts.Reads (texts : CardTexts) : Prop where
  minute : ∀ t, isNormalized t = true →
    texts.time (texts.minute t.seconds) = some { seconds := t.seconds / 60 * 60 }
      ∧ Text.trim (texts.minute t.seconds) = texts.minute t.seconds
      ∧ texts.minute t.seconds ≠ ""
  date : ∀ t, isNormalized t = true →
    texts.time (texts.date t.seconds) = some { seconds := t.seconds / 86400 * 86400 }
      ∧ Text.trim (texts.date t.seconds) = texts.date t.seconds ∧ texts.date t.seconds ≠ ""
  double : ∀ x, (texts.double (Text.trim (texts.coordinate x))).isSome = true
  zero : texts.decimalHz "0.000.000" = none
  newLine : texts.newLine = "\n" ∨ texts.newLine = "\r\n"

/-- A time without seconds. -/
def IsMinute (ts : Timestamp) : Prop := ts.seconds % 60 = 0 ∧ ts.nanos = 0

/-- A midnight. -/
def IsMidnight (ts : Timestamp) : Prop := ts.seconds % 86400 = 0 ∧ ts.nanos = 0

section Reads

variable {texts : CardTexts}

theorem optionalTimestamp_of_read {value fieldName : String} {read : Timestamp}
    (hread : texts.time value = some read) (htrim : Text.trim value = value) (hne : value ≠ "") :
    optionalTimestamp texts value fieldName = .ok (if read = minTime then none else some read) := by
  simp only [optionalTimestamp, tryParseTimestamp, noteOrNull_of_trim hne htrim, hread]

theorem optionalTimestamp_empty (fieldName : String) :
    optionalTimestamp texts "" fieldName = .ok none := by
  simp [optionalTimestamp, tryParseTimestamp, noteOrNull_empty]

/-- A cut time is the time itself if it has nothing to cut and is not the first there is. -/
theorem cut_eq_iff {ts : Timestamp} {k : ℤ} :
    (if ({ seconds := ts.seconds / k * k } : Timestamp) = minTime then none
      else some ({ seconds := ts.seconds / k * k } : Timestamp)) = some ts
      ↔ (ts.seconds % k = 0 ∧ ts.nanos = 0) ∧ ts ≠ minTime := by
  have hcut : ({ seconds := ts.seconds / k * k } : Timestamp) = ts
      ↔ ts.seconds % k = 0 ∧ ts.nanos = 0 := by
    rcases ts with ⟨seconds, nanos⟩
    rw [Timestamp.mk.injEq, eq_comm (a := 0)]
    refine and_congr_left fun _ => ?_
    have hdiv := Int.ediv_mul_add_emod seconds k
    constructor <;> intro h <;> simp only at h ⊢ <;> linarith
  constructor
  · intro h
    split_ifs at h with hmin
    rw [Option.some_inj] at h
    exact ⟨hcut.mp h, h ▸ hmin⟩
  · rintro ⟨h, hmin⟩
    rw [hcut.mpr h, if_neg hmin]

theorem optionalTimestamp_minute_iff (h : texts.Reads) {ts : Option Timestamp}
    (hts : ts.all isNormalized = true) {fieldName : String} :
    optionalTimestamp texts (formatTimestamp texts ts) fieldName = .ok ts
      ↔ ∀ t ∈ ts, IsMinute t ∧ t ≠ minTime := by
  cases ts with
  | none =>
      rw [formatTimestamp, Option.map_none, Option.getD_none, optionalTimestamp_empty]
      exact iff_of_true rfl nofun
  | some t =>
      obtain ⟨hread, htrim, hne⟩ := h.minute t hts
      rw [formatTimestamp, Option.map_some, Option.getD_some,
        optionalTimestamp_of_read hread htrim hne, Except.ok.injEq, cut_eq_iff]
      simp [IsMinute]

theorem optionalTimestamp_date_iff (h : texts.Reads) {ts : Option Timestamp}
    (hts : ts.all isNormalized = true) {fieldName : String} :
    optionalTimestamp texts (formatDate texts ts) fieldName = .ok ts
      ↔ ∀ t ∈ ts, IsMidnight t ∧ t ≠ minTime := by
  cases ts with
  | none =>
      rw [formatDate, Option.map_none, Option.getD_none, optionalTimestamp_empty]
      exact iff_of_true rfl nofun
  | some t =>
      obtain ⟨hread, htrim, hne⟩ := h.date t hts
      rw [formatDate, Option.map_some, Option.getD_some,
        optionalTimestamp_of_read hread htrim hne, Except.ok.injEq, cut_eq_iff]
      simp [IsMidnight]

/-- The start has to be there. -/
theorem tryParseTimestamp_minute_iff (h : texts.Reads) {ts : Option Timestamp}
    (hts : ts.all isNormalized = true) :
    (∃ start, tryParseTimestamp texts (formatTimestamp texts ts) true = some start
        ∧ some start = ts)
      ↔ ∃ t, ts = some t ∧ IsMinute t := by
  cases ts with
  | none => simp [formatTimestamp, tryParseTimestamp, noteOrNull_empty]
  | some t =>
      obtain ⟨hread, htrim, hne⟩ := h.minute t hts
      simp only [formatTimestamp, Option.map_some, Option.getD_some, tryParseTimestamp,
        noteOrNull_of_trim hne htrim, hread, Option.some.injEq, exists_eq_left', IsMinute]
      rcases t with ⟨seconds, nanos⟩
      rw [Timestamp.mk.injEq]
      simp only
      omega

theorem optionalDouble_coordinate (h : texts.Reads) (x : Option Float64) (fieldName : String) :
    ∃ y, optionalDouble texts ((x.map texts.coordinate).getD "") fieldName = .ok y := by
  unfold optionalDouble
  cases hnote : noteOrNull ((x.map texts.coordinate).getD "") with
  | none => exact ⟨none, rfl⟩
  | some value =>
      cases x with
      | none =>
          rw [Option.map_none, Option.getD_none, noteOrNull_empty] at hnote
          cases hnote
      | some x =>
          obtain ⟨-, htrim⟩ := noteOrNull_eq_some hnote
          obtain ⟨y, hy⟩ := Option.isSome_iff_exists.mp (h.double x)
          rw [Option.map_some, Option.getD_some] at htrim
          rw [← htrim]
          simp only [hy]
          exact ⟨some y, rfl⟩

/-- The frequency in kHz is that in Hz, and not zero. -/
def FrequencyKept (r : QsoRecord) : Prop :=
  r.frequencyHz ≠ some 0 ∧ r.frequencyHz.map toKhz = r.frequencyKhz

theorem optionalFrequency_formatMhz (h : texts.Reads) {hz : ℕ} (hhz : hz < 2 ^ 64) :
    (0 < hz → optionalFrequency texts (formatMhz hz) = .ok (some hz))
      ∧ (hz = 0 → ∃ error, optionalFrequency texts (formatMhz hz) = .error error) := by
  have hnote := noteOrNull_formatMhz hz
  obtain ⟨hne, htrim⟩ := noteOrNull_eq_some hnote
  have hblank : NetText.isWhiteSpace (formatMhz hz) = false := by
    rw [← Bool.not_eq_true, NetText.isWhiteSpace_iff, htrim]
    exact hne
  have hread : tryParseMhzToHz texts.toNumberTexts (formatMhz hz)
      = (if 0 < hz then some hz else none).or (texts.decimalHz (formatMhz hz)) := by
    rw [tryParseMhzToHz, htrim, hblank, tryParseRadioStyle_formatMhz hhz]
    rfl
  constructor
  · intro hpos
    simp only [optionalFrequency, hnote, hread, if_pos hpos, Option.some_or]
  · rintro rfl
    have hzero : formatMhz 0 = "0.000.000" := by decide +kernel
    refine ⟨"Invalid frequency: " ++ formatMhz 0 ++ ". Use MHz such as 14.074.", ?_⟩
    simp only [optionalFrequency, hnote, hread, lt_irrefl, if_false, Option.none_or]
    rw [hzero, h.zero]

theorem frequency_eq_iff (h : texts.Reads) {r : QsoRecord}
    (hr : ∀ n ∈ r.frequencyHz, n < 2 ^ 64) :
    (∃ hz, optionalFrequency texts (formatFrequency r) = .ok hz ∧ hz = r.frequencyHz
        ∧ hz.map toKhz = r.frequencyKhz)
      ↔ FrequencyKept r := by
  unfold FrequencyKept formatFrequency
  cases hhz : r.frequencyHz with
  | some hz =>
      obtain ⟨hpos, hzero⟩ := optionalFrequency_formatMhz h (hr hz hhz)
      rcases Nat.eq_zero_or_pos hz with rfl | hlt
      · obtain ⟨error, herror⟩ := hzero rfl
        simp [herror]
      · have hne : hz ≠ 0 := Nat.ne_of_gt hlt
        simp [hpos hlt, hne]
  | none =>
      cases hkhz : r.frequencyKhz with
      | none => simp [optionalFrequency, noteOrNull_empty]
      | some khz =>
          -- the frequency in kHz is read back as one in Hz
          have hbound : khz * 1000 % 2 ^ 64 < 2 ^ 64 := Nat.mod_lt _ (by decide)
          simp only [Option.map_none, reduceCtorEq, and_false, iff_false, not_exists, not_and]
          rintro hz - rfl
          simp

end Reads

end QsoRipper.Gui
