/-
QsoRipper/Qrz/Folding.lean

What writing the markers of a payload in capitals does to it.  The replacement
does not go by the lengths, so it also reaches what looks like a marker inside a
value; of the payload it makes another one, whose values may be written
differently but are as long as before.

Neither the callsign's being blank nor the start of a contact depends on it.
-/
import QsoRipper.Lib.AsciiCase
import QsoRipper.Qrz.Fetch

namespace QsoRipper.QrzLogbook

open Adif Text

/-! ### One word -/

/-- A word that can stand in a marker. -/
def IsWord (word : List Char) : Prop := ∀ c ∈ word, c ≠ '<' ∧ c ≠ '>' ∧ c ≠ ':'

/-- The markers of a word, in capitals. -/
def foldWord (word cs : List Char) : List Char :=
  replaceAll (marker word) (marker (word.map asciiUpperChar)) cs

theorem marker_ne (word : List Char) : marker word ≠ [] := List.cons_ne_nil _ _

theorem sameText_foldWord (word cs : List Char) : SameText (foldWord word cs) cs := by
  have hword : SameText (word.map asciiUpperChar) word := by
    induction word with
    | nil => exact .nil
    | cons c word ih => exact .cons (.inr rfl) ih
  have hmarker : SameText (marker (word.map asciiUpperChar)) (marker word) :=
    .cons (.refl _) (List.rel_append hword (SameText.refl _))
  exact SameText.replaceAll hmarker (marker_ne _) cs

/-- The end of a marker has an angle bracket, and it is not an opening one. -/
theorem mem_of_marker_split {word s t : List Char} (hword : IsWord word)
    (h : s ++ t = marker word) (hs : s ≠ []) (ht : t ≠ []) : '>' ∈ t ∧ '<' ∉ t := by
  obtain ⟨c, s, rfl⟩ := List.exists_cons_of_ne_nil hs
  have htail : s ++ t = word ++ ['>'] := (List.cons.inj h).2
  constructor
  · obtain ⟨front, d, rfl⟩ := List.eq_nil_or_concat' t |>.resolve_left ht
    have hlast := congrArg List.getLast? htail
    simp only [← List.append_assoc, List.getLast?_append, List.getLast?_singleton] at hlast
    simp at hlast
    simp [hlast]
  · intro hmem
    have hin : '<' ∈ word ++ ['>'] := htail ▸ List.mem_append_right s hmem
    rcases List.mem_append.mp hin with hin | hin
    · exact (hword _ hin).1 rfl
    · exact absurd (List.mem_singleton.mp hin) (by decide)

/-- What may follow a value and the text behind it. -/
def NextTag (rest : List Char) : Prop := ∀ c ∈ rest.head?, c = '<'

theorem seam_filler {word : List Char} (hword : IsWord word) (value : List Char)
    {filler rest : List Char} (hfiller : Filler filler) (hrest : NextTag rest) :
    Seam (marker word) value (filler ++ rest) := by
  intro s t hst hs ht _ hpre
  obtain ⟨hclose, hopen⟩ := mem_of_marker_split hword hst hs ht
  -- the closing bracket is not in the filler, so that the next tag is reached
  rcases List.prefix_or_prefix_of_prefix hpre (List.prefix_append filler rest) with hle | ⟨u, rfl⟩
  · exact (hfiller _ (hle.subset hclose)).2 rfl
  · have hu : u <+: rest := (List.prefix_append_right_inj _).mp hpre
    rcases List.mem_append.mp hclose with hin | hin
    · exact (hfiller _ hin).2 rfl
    · cases u with
      | nil => exact absurd hin List.not_mem_nil
      | cons d u =>
          obtain ⟨more, rfl⟩ := hu
          have hd : d = '<' := hrest d rfl
          exact hopen (List.mem_append_right _ (hd ▸ List.mem_cons_self))

theorem foldWord_filler {word filler : List Char} (h : Filler filler) (rest : List Char) :
    foldWord word (filler ++ rest) = filler ++ foldWord word rest :=
  replaceAll_append_of_notMem (fun hmem => (h _ hmem).1 rfl) rest

section

variable {word : List Char} (hword : IsWord word)

include hword

/-- The tag of a field is no marker. -/
theorem foldWord_tag (f : WrittenField) (rest : List Char) :
    foldWord word ('<' :: f.tag ++ '>' :: rest) = '<' :: f.tag ++ '>' :: foldWord word rest := by
  have hcolon : ':' ∉ marker word := by
    intro hmem
    rcases List.mem_cons.mp hmem with heq | hmem
    · exact absurd heq (by decide)
    · rcases List.mem_append.mp hmem with hmem | hmem
      · exact (hword _ hmem).2.2 rfl
      · exact absurd (List.mem_singleton.mp hmem) (by decide)
  have hfront : ¬ marker word <:+: '<' :: f.name ++ [':'] := by
    intro hin
    have hmem : '>' ∈ '<' :: f.name ++ [':'] :=
      hin.subset (List.mem_cons_of_mem _ (List.mem_append_right _ (List.mem_singleton_self _)))
    simp only [List.cons_append, List.mem_cons, List.mem_append, List.not_mem_nil, or_false] at hmem
    rcases hmem with heq | hname | heq
    · exact absurd heq (by decide)
    · exact (f.name_plain _ hname).2.1 rfl
    · exact absurd heq (by decide)
  have hdigits : '<' ∉ Nat.toDigits 10 (Utf8.encode f.value).length ++ ['>'] := by
    intro hmem
    rcases List.mem_append.mp hmem with hmem | hmem
    · exact absurd (Nat.isDigit_of_mem_toDigits (by decide) (by decide) hmem) (by decide)
    · exact absurd (List.mem_singleton.mp hmem) (by decide)
  have hsplit : ∀ rest : List Char, '<' :: f.tag ++ '>' :: rest = '<' :: f.name ++ [':']
      ++ (Nat.toDigits 10 (Utf8.encode f.value).length ++ ['>'] ++ rest) := by
    intro rest
    simp [WrittenField.tag]
  rw [hsplit, hsplit, foldWord, replaceAll_append (.of_last hcolon) (marker_ne _),
    replaceAll_eq_self hfront]
  congr 1
  exact replaceAll_append_of_notMem hdigits rest

theorem foldWord_value (value : List Char) {filler rest : List Char} (hfiller : Filler filler)
    (hrest : NextTag rest) :
    foldWord word (value ++ (filler ++ rest))
      = foldWord word value ++ (filler ++ foldWord word rest) := by
  rw [foldWord, replaceAll_append (seam_filler hword value hfiller hrest) (marker_ne _)]
  congr 1
  exact foldWord_filler hfiller rest

/-- A marker is written in capitals if it is the word's. -/
theorem foldWord_marker {m : List Char} (hopen : '<' ∉ m) (hclose : '>' ∉ m) (rest : List Char) :
    foldWord word ('<' :: m ++ '>' :: rest)
      = '<' :: (if m = word then word.map asciiUpperChar else m) ++ '>' :: foldWord word rest := by
  by_cases hm : m = word
  · subst hm
    have hsplit : '<' :: m ++ '>' :: rest = marker m ++ rest := by simp [marker]
    rw [if_pos rfl, hsplit, foldWord, replaceAll_pattern (marker_ne _)]
    simp [marker, foldWord]
  · have hhead : ¬ marker word <+: '<' :: (m ++ '>' :: rest) := by
      intro hpre
      obtain ⟨more, hmore⟩ := (List.cons_prefix_cons.mp hpre).2
      have hnot : '>' ∉ word := fun hmem => (hword _ hmem).2.1 rfl
      have htake := congrArg (List.takeWhile (· ≠ '>')) hmore
      have hstop : ∀ {l : List Char} (rest : List Char), '>' ∉ l →
          (l ++ '>' :: rest).takeWhile (· ≠ '>') = l := by
        intro l rest hl
        have hpass : ∀ c ∈ l, decide (c ≠ '>') = true :=
          fun c hc => decide_eq_true fun heq => hl (heq ▸ hc)
        rw [List.takeWhile_append_of_pos hpass]
        simp
      rw [List.append_assoc, List.singleton_append, hstop more hnot, hstop rest hclose] at htake
      exact hm htake.symm
    have hpass : '<' ∉ m ++ ['>'] := by
      simpa using hopen
    have hrest : replaceAll ('<' :: (word ++ ['>'])) (marker (word.map asciiUpperChar))
        (m ++ ['>'] ++ rest) = m ++ ['>'] ++ foldWord word rest :=
      replaceAll_append_of_notMem hpass rest
    rw [if_neg hm, List.cons_append, foldWord, replaceAll_cons hhead]
    simp only [List.append_assoc, List.singleton_append] at hrest
    show '<' :: replaceAll ('<' :: (word ++ ['>'])) _ (m ++ '>' :: rest) = _
    rw [hrest]
    rfl

end

/-! ### Payloads -/

/-- A field with the markers in its value written in capitals. -/
def foldField (word : List Char) (f : WrittenField) : WrittenField :=
  { f with value := foldWord word f.value }

theorem foldField_tag (word : List Char) (f : WrittenField) : (foldField word f).tag = f.tag := by
  have hlength := (sameText_foldWord word f.value).length_encode
  show f.name ++ ':' :: Nat.toDigits 10 (Utf8.encode (foldWord word f.value)).length = _
  rw [hlength]
  rfl

def foldSection {keyword : List Char} (word : List Char) (s : WrittenSection keyword) :
    WrittenSection keyword where
  fields := s.fields.map (foldField word)
  marker := if s.marker = word then word.map asciiUpperChar else s.marker
  filler := s.filler
  distinct := by
    rw [List.map_map]
    exact s.distinct
  marker_eq := by
    split_ifs with hword
    · rw [← s.marker_eq, hword, List.map_map]
      exact List.map_congr_left fun c _ => asciiUpperChar_idem c
    · exact s.marker_eq
  filler_plain := s.filler_plain

def foldHeader (word : List Char) (h : WrittenHeader) : WrittenHeader :=
  { foldSection word h.toWrittenSection with
    preamble := h.preamble
    preamble_plain := h.preamble_plain }

def foldPayload (word : List Char) (p : Payload) : Payload where
  header := p.header.map (foldHeader word)
  records := p.records.map (foldSection word)

section

variable {word : List Char} (hword : IsWord word)

include hword

theorem foldWord_field (f : WrittenField) {rest : List Char} (hrest : NextTag rest) :
    foldWord word (f.text ++ rest) = (foldField word f).text ++ foldWord word rest := by
  have hleft : f.text ++ rest = '<' :: f.tag ++ '>' :: (f.value ++ (f.filler ++ rest)) := by
    simp [WrittenField.text]
  have hright : (foldField word f).text ++ foldWord word rest
      = '<' :: f.tag ++ '>' :: (foldWord word f.value ++ (f.filler ++ foldWord word rest)) := by
    rw [WrittenField.text, foldField_tag]
    simp [foldField]
  rw [hleft, hright, foldWord_tag hword, foldWord_value hword f.value f.filler_plain hrest]

theorem foldWord_fields (fields : List WrittenField) {rest : List Char} (hrest : NextTag rest) :
    foldWord word (fields.flatMap WrittenField.text ++ rest)
      = (fields.map (foldField word)).flatMap WrittenField.text ++ foldWord word rest := by
  induction fields with
  | nil => rfl
  | cons f fields ih =>
      have hnext : NextTag (fields.flatMap WrittenField.text ++ rest) := by
        cases fields with
        | nil => exact hrest
        | cons g fields =>
            intro c hc
            simp [WrittenField.text] at hc
            exact hc.symm
      rw [List.flatMap_cons, List.append_assoc, foldWord_field hword f hnext, ih]
      simp

theorem foldWord_section {keyword : List Char} (s : WrittenSection keyword) {rest : List Char}
    (hopen : '<' ∉ keyword) (hclose : '>' ∉ keyword) :
    foldWord word (s.text ++ rest) = (foldSection word s).text ++ foldWord word rest := by
  have hleft : s.text ++ rest = s.fields.flatMap WrittenField.text
      ++ ('<' :: s.marker ++ '>' :: (s.filler ++ rest)) := by
    simp [WrittenSection.text]
  have hnext : NextTag ('<' :: s.marker ++ '>' :: (s.filler ++ rest)) := by
    intro c hc
    simp at hc
    exact hc.symm
  rw [hleft, foldWord_fields hword s.fields hnext,
    foldWord_marker hword (notMem_of_upper (by decide) s.marker_eq hopen)
      (notMem_of_upper (by decide) s.marker_eq hclose),
    foldWord_filler s.filler_plain]
  simp [WrittenSection.text, foldSection]

theorem foldWord_records (records : List (WrittenSection eor)) :
    foldWord word (records.flatMap WrittenSection.text)
      = (records.map (foldSection word)).flatMap WrittenSection.text := by
  induction records with
  | nil => rfl
  | cons r records ih =>
      rw [List.flatMap_cons, foldWord_section hword r (by decide) (by decide), ih,
        List.map_cons, List.flatMap_cons]

/-- Writing markers in capitals makes another payload of a payload. -/
theorem foldWord_text (p : Payload) : foldWord word p.text = (foldPayload word p).text := by
  obtain ⟨header, records⟩ := p
  cases header with
  | none => exact foldWord_records hword records
  | some h =>
      have htext : Payload.text ⟨some h, records⟩
          = h.preamble ++ (h.toWrittenSection.text ++ records.flatMap WrittenSection.text) := by
        simp [Payload.text, WrittenHeader.headerText]
      rw [htext, foldWord_filler h.preamble_plain,
        foldWord_section hword _ (by decide) (by decide), foldWord_records hword]
      simp [Payload.text, WrittenHeader.headerText, foldPayload, foldHeader]

end

/-- Both markers are written in capitals, those of a record first. -/
def folded (p : Payload) : Payload := foldPayload eohSmall (foldPayload eorSmall p)

def foldedRecord (r : WrittenSection eor) : WrittenSection eor :=
  foldSection eohSmall (foldSection eorSmall r)

theorem records_folded (p : Payload) : (folded p).records = p.records.map foldedRecord := by
  simp [folded, foldPayload, foldedRecord]

theorem normalizeAdifRecordMarkers_text (p : Payload) :
    normalizeAdifRecordMarkers p.text = (folded p).text := by
  have hpasses : normalizeAdifRecordMarkers p.text
      = foldWord eohSmall (foldWord eorSmall p.text) := rfl
  have heor : IsWord eorSmall := by simp [IsWord, eorSmall]
  have heoh : IsWord eohSmall := by simp [IsWord, eohSmall]
  rw [hpasses, foldWord_text heor, foldWord_text heoh]
  rfl

/-! ### What the columns do not see -/

/-- Fields under the same names, with texts that differ in case only. -/
def SameFields (fs gs : List AdifField) : Prop :=
  List.Forall₂ (fun f g => f.1 = g.1 ∧ SameText f.2.toList g.2.toList) fs gs

theorem sameFields_foldSection {keyword : List Char} (word : List Char)
    (s : WrittenSection keyword) : SameFields (foldSection word s).adifFields s.adifFields := by
  have hfields : ∀ fields : List WrittenField,
      SameFields ((fields.map (foldField word)).map WrittenField.adifField)
        (fields.map WrittenField.adifField) := by
    intro fields
    induction fields with
    | nil => exact .nil
    | cons f fields ih =>
        refine .cons ⟨rfl, ?_⟩ ih
        simpa [WrittenField.adifField, foldField] using sameText_foldWord word f.value
  exact hfields s.fields

theorem SameFields.trans {fs gs hs : List AdifField} (h : SameFields fs gs)
    (h' : SameFields gs hs) : SameFields fs hs := by
  induction h generalizing hs with
  | nil => exact h'
  | cons hfg _ ih =>
      cases h' with
      | cons hgh hrest => exact .cons ⟨hfg.1.trans hgh.1, hfg.2.trans hgh.2⟩ (ih hrest)

theorem sameFields_foldedRecord (r : WrittenSection eor) :
    SameFields (foldedRecord r).adifFields r.adifFields :=
  (sameFields_foldSection eohSmall _).trans (sameFields_foldSection eorSmall r)

/-- Texts that both are there, or neither. -/
def SameOption : Option String → Option String → Prop
  | some s, some t => SameText s.toList t.toList
  | none, none => True
  | _, _ => False

/-- Columns that differ in case only. -/
structure SameColumns (a b : ContactColumns) : Prop where
  call : SameText a.call.toList b.call.toList
  qsoDate : SameOption a.qsoDate b.qsoDate
  timeOn : SameOption a.timeOn b.timeOn

theorem SameColumns.read {a b : ContactColumns} (h : SameColumns a b) {f g : AdifField}
    (hname : f.1 = g.1) (hvalue : SameText f.2.toList g.2.toList) :
    SameColumns (a.read f) (b.read g) := by
  unfold ContactColumns.read
  rw [hname]
  split
  · exact ⟨hvalue, h.qsoDate, h.timeOn⟩
  · exact ⟨h.call, hvalue, h.timeOn⟩
  · exact ⟨h.call, h.qsoDate, hvalue⟩
  · exact h

theorem SameFields.columns {fs gs : List AdifField} (h : SameFields fs gs) :
    SameColumns (ContactColumns.ofFields fs) (ContactColumns.ofFields gs) := by
  have hrun : ∀ {a b : ContactColumns}, SameColumns a b →
      SameColumns (fs.foldl ContactColumns.read a) (gs.foldl ContactColumns.read b) := by
    induction h with
    | nil => exact fun h => h
    | cons hfg _ ih => exact fun h => ih (h.read hfg.1 hfg.2)
  exact hrun ⟨SameText.refl _, trivial, trivial⟩

/-! ### Dates and times -/

theorem parseSigned_eq {cs ds : List Char} (h : SameText cs ds) :
    parseSigned cs = parseSigned ds := by
  by_cases hdigits : ds.all Char.isDigit = true
  · rw [h.eq_of_digits hdigits]
  · -- behind a sign there are digits on both sides, or on neither
    have hsigned : ∀ {sign : Char} {cs ds : List Char}, sign = '-' ∨ sign = '+' →
        SameText cs ds → parseSigned (sign :: cs) = parseSigned (sign :: ds) := by
      rintro sign cs ds hsign h
      by_cases hdigits : ds.all Char.isDigit = true
      · rw [h.eq_of_digits hdigits]
      · have hcs : cs.all Char.isDigit = false := by
          rw [h.isDigit_eq]
          simpa using hdigits
        have hds : ds.all Char.isDigit = false := by simpa using hdigits
        rcases hsign with rfl | rfl <;> simp [parseSigned, hcs, hds]
    have hminus : ¬ (65 ≤ '-'.toNat ∧ '-'.toNat ≤ 122) := by decide
    have hplus : ¬ (65 ≤ '+'.toNat ∧ '+'.toNat ≤ 122) := by decide
    rcases h.sign hminus with ⟨cs', ds', rfl, rfl, hrest⟩ | ⟨hcs, hds⟩
    · exact hsigned (.inl rfl) hrest
    rcases h.sign hplus with ⟨cs', ds', rfl, rfl, hrest⟩ | ⟨hcs', hds'⟩
    · exact hsigned (.inr rfl) hrest
    have hnone : ∀ {cs : List Char}, (∀ cs', cs ≠ '-' :: cs') → (∀ cs', cs ≠ '+' :: cs') →
        ¬ cs.all Char.isDigit = true → parseSigned cs = none := by
      intro cs hminus hplus hall
      unfold parseSigned
      split
      rename_i negative digits heq
      split at heq
      · exact absurd rfl (hminus _)
      · exact absurd rfl (hplus _)
      · cases heq
        simp [Bool.not_eq_true _ ▸ hall]
    rw [hnone hcs hcs' (by rwa [h.isDigit_eq]), hnone hds hds' hdigits]

theorem parseAdifDate_eq {s t : String} (h : SameText s.toList t.toList) :
    parseAdifDate s = parseAdifDate t := by
  have hlength : s.toList.length = t.toList.length := h.length_eq
  have htake (n : ℕ) : parseSigned (s.toList.take n) = parseSigned (t.toList.take n) :=
    parseSigned_eq (List.forall₂_take n h)
  have hdrop (n : ℕ) : parseSigned (s.toList.drop n) = parseSigned (t.toList.drop n) :=
    parseSigned_eq (List.forall₂_drop n h)
  have hmonth : parseSigned ((s.toList.drop 4).take 2) = parseSigned ((t.toList.drop 4).take 2) :=
    parseSigned_eq (List.forall₂_take 2 (List.forall₂_drop 4 h))
  unfold parseAdifDate
  dsimp only
  rw [hlength, h.ascii_eq, htake, hdrop, hmonth]

theorem parseAdifTime_eq {cs ds : List Char} (h : SameText cs ds) :
    parseAdifTime cs = parseAdifTime ds := by
  have hpart (start : ℕ) : parseUnsigned (2 ^ 32) (String.ofList ((cs.drop start).take 2))
      = parseUnsigned (2 ^ 32) (String.ofList ((ds.drop start).take 2)) :=
    SameText.parseUnsigned_eq (List.forall₂_take 2 (List.forall₂_drop start h)) _
  unfold parseAdifTime
  dsimp only
  simp only [hpart, h.length_eq]

theorem SameColumns.start {a b : ContactColumns} (h : SameColumns a b) : a.start = b.start := by
  obtain ⟨call, date, time⟩ := a
  obtain ⟨call', date', time'⟩ := b
  have hdate := h.qsoDate
  have htime := h.timeOn
  cases date with
  | none =>
      cases date' with
      | none => rfl
      | some d' => exact absurd hdate id
  | some d =>
      cases date' with
      | none => exact absurd hdate id
      | some d' =>
          show parseAdifDatetime d time = parseAdifDatetime d' time'
          have hday := parseAdifDate_eq hdate
          cases time with
          | none =>
              cases time' with
              | none => simp only [parseAdifDatetime, hday]
              | some t' => exact absurd htime id
          | some t =>
              cases time' with
              | none => exact absurd htime id
              | some t' =>
                  have hascii : (t.toList.all fun c => decide (c.toNat < 128))
                      = t'.toList.all fun c => decide (c.toNat < 128) := SameText.ascii_eq htime
                  have hseconds := parseAdifTime_eq htime
                  simp only [parseAdifDatetime, hday, Option.any_some, hascii, Option.map_some,
                    Option.elim_some, hseconds]

/-- **Whether a record is usable** does not depend on how its markers are written. -/
theorem isSyncableQso_folded (others : List AdifField → QsoRecord) (r : WrittenSection eor) :
    isSyncableQso (recordToQso others (foldedRecord r).adifFields)
      = isSyncableQso (recordToQso others r.adifFields) := by
  have hcolumns := (sameFields_foldedRecord r).columns
  have hblank : trim (ContactColumns.ofFields (foldedRecord r).adifFields).call = ""
      ↔ trim (ContactColumns.ofFields r.adifFields).call = "" := by
    rw [trim_eq_empty_iff, trim_eq_empty_iff]
    exact hcolumns.call.blank_iff
  show (decide (_ ≠ _) && Option.isSome _) = (decide (_ ≠ _) && Option.isSome _)
  congr 1
  · exact decide_eq_decide.mpr (not_congr hblank)
  · exact congrArg Option.isSome hcolumns.start

end QsoRipper.QrzLogbook
