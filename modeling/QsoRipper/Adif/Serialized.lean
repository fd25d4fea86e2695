/-
QsoRipper/Adif/Serialized.lean

ADI text as a conforming serializer writes it: sections of fields that have the
length of their values in front of them, each closed by a marker, in whatever
case; the first may be a header.

A value may have any characters, those of a marker among them.  Who goes by the
lengths reads back what was written: `readSections` is such a reader.
-/
import QsoRipper.Adif.Mapper
import QsoRipper.Lib.Number
import QsoRipper.Lib.Text

namespace QsoRipper.Adif

/-! ### What is written -/

/-- Text between fields has no angle brackets. -/
def Filler (cs : List Char) : Prop := ∀ c ∈ cs, c ≠ '<' ∧ c ≠ '>'

/-- A field and the text behind it. -/
structure WrittenField where
  name : List Char
  value : List Char
  filler : List Char
  name_plain : ∀ c ∈ name, c ≠ '<' ∧ c ≠ '>' ∧ c ≠ ':'
  filler_plain : Filler filler

/-- What stands between the angle brackets. -/
def WrittenField.tag (f : WrittenField) : List Char :=
  f.name ++ ':' :: Nat.toDigits 10 (Utf8.encode f.value).length

def WrittenField.text (f : WrittenField) : List Char :=
  '<' :: f.tag ++ '>' :: (f.value ++ f.filler)

def WrittenField.adifField (f : WrittenField) : AdifField :=
  (String.ofList f.name, String.ofList f.value)

/-- Fields, of which no two have the same name, up to a marker. -/
structure WrittenSection (keyword : List Char) where
  fields : List WrittenField
  marker : List Char
  filler : List Char
  distinct : (fields.map fun f => f.name.map Text.asciiUpperChar).Nodup
  marker_eq : marker.map Text.asciiUpperChar = keyword
  filler_plain : Filler filler

def WrittenSection.text {keyword : List Char} (s : WrittenSection keyword) : List Char :=
  s.fields.flatMap WrittenField.text ++ ('<' :: s.marker ++ '>' :: s.filler)

def WrittenSection.adifFields {keyword : List Char} (s : WrittenSection keyword) :
    List AdifField :=
  s.fields.map WrittenField.adifField

/-- The word that ends a record, and the one that ends a header. -/
def eor : List Char := ['E', 'O', 'R']

def eoh : List Char := ['E', 'O', 'H']

/-- A header and the text in front of it. -/
structure WrittenHeader extends WrittenSection eoh where
  preamble : List Char
  preamble_plain : Filler preamble

/-- Records, with or without a header. -/
structure Payload where
  header : Option WrittenHeader
  records : List (WrittenSection eor)

def WrittenHeader.headerText (h : WrittenHeader) : List Char :=
  h.preamble ++ h.toWrittenSection.text

def Payload.text (p : Payload) : List Char :=
  p.header.elim [] WrittenHeader.headerText ++ p.records.flatMap WrittenSection.text

/-- `difa::Record`. -/
structure AdifRecord where
  header : Bool
  fields : List AdifField
  deriving DecidableEq

/-- What a payload says. -/
def Payload.adifRecords (p : Payload) : List AdifRecord :=
  p.header.elim [] (fun h => [⟨true, h.adifFields⟩]) ++ p.records.map fun r => ⟨false, r.adifFields⟩

/-! ### A reader that goes by the lengths -/

/-- The characters that make up so many bytes, and what follows them. -/
def takeBytes : ℕ → List Char → List Char × List Char
  | 0, cs => ([], cs)
  | _ + 1, [] => ([], [])
  | n + 1, c :: cs =>
      let (value, rest) := takeBytes (n + 1 - c.utf8Size) cs
      (c :: value, rest)

/-- Reads tag by tag; `fields` are those of the section so far. -/
def readSections : ℕ → List AdifField → List Char → List AdifRecord
  | 0, _, _ => []
  | fuel + 1, fields, cs =>
      match cs.dropWhile (· ≠ '<') with
      | [] => []
      | _ :: cs =>
          let tag := cs.takeWhile (· ≠ '>')
          let body := (cs.dropWhile (· ≠ '>')).tail
          if tag.map Text.asciiUpperChar = eor then ⟨false, fields⟩ :: readSections fuel [] body
          else if tag.map Text.asciiUpperChar = eoh then
            ⟨true, fields⟩ :: readSections fuel [] body
          else
            let name := tag.takeWhile (· ≠ ':')
            let length := Text.decimalValue (tag.dropWhile (· ≠ ':')).tail
            let (value, rest) := takeBytes length body
            readSections fuel (fields ++ [(String.ofList name, String.ofList value)]) rest

theorem takeBytes_encode (value rest : List Char) :
    takeBytes (Utf8.encode value).length (value ++ rest) = (value, rest) := by
  induction value with
  | nil => cases rest <;> rfl
  | cons c cs ih =>
      have hpos := c.utf8Size_pos
      obtain ⟨n, hn⟩ : ∃ n, c.utf8Size + (Utf8.encode cs).length = n + 1 :=
        ⟨c.utf8Size + (Utf8.encode cs).length - 1, by omega⟩
      have hrest : n + 1 - c.utf8Size = (Utf8.encode cs).length := by omega
      rw [Utf8.encode_cons, List.length_append, String.length_utf8EncodeChar, hn, List.cons_append,
        takeBytes, hrest, ih]

theorem readSections_nil (fuel : ℕ) (fields : List AdifField) : readSections fuel fields [] = [] := by
  cases fuel <;> rfl

/-- Text in front of the next tag is passed over. -/
theorem readSections_filler {filler : List Char} (h : Filler filler) (fuel : ℕ)
    (fields : List AdifField) (cs : List Char) :
    readSections fuel fields (filler ++ cs) = readSections fuel fields cs := by
  have hpass : ∀ c ∈ filler, decide (c ≠ '<') = true := fun c hc => decide_eq_true (h c hc).1
  cases fuel with
  | zero => rfl
  | succ fuel => rw [readSections, readSections, List.dropWhile_append_of_pos hpass]

/-- A tag and what it is followed by. -/
theorem readSections_tag {tag : List Char} (h : '>' ∉ tag) (fuel : ℕ) (fields : List AdifField)
    (body : List Char) :
    readSections (fuel + 1) fields ('<' :: tag ++ '>' :: body)
      = if tag.map Text.asciiUpperChar = eor then ⟨false, fields⟩ :: readSections fuel [] body
        else if tag.map Text.asciiUpperChar = eoh then
          ⟨true, fields⟩ :: readSections fuel [] body
        else
          let name := tag.takeWhile (· ≠ ':')
          let length := Text.decimalValue (tag.dropWhile (· ≠ ':')).tail
          let (value, rest) := takeBytes length body
          readSections fuel (fields ++ [(String.ofList name, String.ofList value)]) rest := by
  have hpass : ∀ c ∈ tag, decide (c ≠ '>') = true :=
    fun c hc => decide_eq_true fun heq => h (heq ▸ hc)
  have htag : (tag ++ '>' :: body).takeWhile (· ≠ '>') = tag := by
    rw [List.takeWhile_append_of_pos hpass]
    simp
  have hbody : (tag ++ '>' :: body).dropWhile (· ≠ '>') = '>' :: body := by
    rw [List.dropWhile_append_of_pos hpass]
    simp
  have hopen : ('<' :: tag ++ '>' :: body).dropWhile (· ≠ '<') = '<' :: (tag ++ '>' :: body) := by
    simp
  rw [readSections, hopen]
  dsimp only
  rw [htag, hbody]
  rfl

theorem WrittenField.notMem_tag (f : WrittenField) : '>' ∉ f.tag := by
  intro hmem
  rcases List.mem_append.mp hmem with hname | htail
  · exact (f.name_plain _ hname).2.1 rfl
  · rcases List.mem_cons.mp htail with heq | hdigit
    · exact absurd heq (by decide)
    · exact absurd (Nat.isDigit_of_mem_toDigits (by decide) (by decide) hdigit) (by decide)

theorem WrittenField.tag_ne {f : WrittenField} {keyword : List Char} (h : ':' ∉ keyword) :
    f.tag.map Text.asciiUpperChar ≠ keyword := by
  intro heq
  have hmem : ':' ∈ f.tag := List.mem_append_right _ List.mem_cons_self
  exact h (heq ▸ List.mem_map.mpr ⟨':', hmem, by decide⟩)

theorem readSections_field (f : WrittenField) (fuel : ℕ) (fields : List AdifField)
    (cs : List Char) :
    readSections (fuel + 1) fields (f.text ++ cs)
      = readSections fuel (fields ++ [f.adifField]) cs := by
  have hpass : ∀ c ∈ f.name, decide (c ≠ ':') = true :=
    fun c hc => decide_eq_true (f.name_plain c hc).2.2
  have hname : f.tag.takeWhile (· ≠ ':') = f.name := by
    rw [WrittenField.tag, List.takeWhile_append_of_pos hpass]
    simp
  have hlength : Text.decimalValue (f.tag.dropWhile (· ≠ ':')).tail
      = (Utf8.encode f.value).length := by
    have hzeroes := Text.decimalValue_padded 0 (Utf8.encode f.value).length
    rw [WrittenField.tag, List.dropWhile_append_of_pos hpass]
    simpa using hzeroes
  have htext : f.text ++ cs = '<' :: f.tag ++ '>' :: (f.value ++ (f.filler ++ cs)) := by
    simp [WrittenField.text]
  rw [htext, readSections_tag f.notMem_tag, if_neg (f.tag_ne (by decide)),
    if_neg (f.tag_ne (by decide))]
  dsimp only
  rw [hname, hlength, takeBytes_encode]
  exact readSections_filler f.filler_plain fuel _ cs

theorem readSections_fields (written : List WrittenField) (fuel : ℕ) (fields : List AdifField)
    (cs : List Char) :
    readSections (fuel + written.length) fields (written.flatMap WrittenField.text ++ cs)
      = readSections fuel (fields ++ written.map WrittenField.adifField) cs := by
  induction written generalizing fields with
  | nil => simp
  | cons f written ih =>
      rw [List.flatMap_cons, List.append_assoc, List.length_cons, ← Nat.add_assoc,
        readSections_field, ih]
      simp

theorem notMem_of_upper {c : Char} (hc : Text.asciiUpperChar c = c) {marker keyword : List Char}
    (h : marker.map Text.asciiUpperChar = keyword) (hkeyword : c ∉ keyword) : c ∉ marker :=
  fun hmem => hkeyword (h ▸ List.mem_map.mpr ⟨c, hmem, hc⟩)

theorem readSections_record (r : WrittenSection eor) (fuel : ℕ) (cs : List Char) :
    readSections (fuel + 1 + r.fields.length) [] (r.text ++ cs)
      = ⟨false, r.adifFields⟩ :: readSections fuel [] cs := by
  have htext : r.text ++ cs = r.fields.flatMap WrittenField.text
      ++ ('<' :: r.marker ++ '>' :: (r.filler ++ cs)) := by
    simp [WrittenSection.text]
  rw [htext, readSections_fields, readSections_tag (notMem_of_upper (by decide) r.marker_eq (by decide)),
    if_pos r.marker_eq, readSections_filler r.filler_plain]
  rfl

theorem readSections_header (h : WrittenHeader) (fuel : ℕ) (cs : List Char) :
    readSections (fuel + 1 + h.fields.length) [] (h.headerText ++ cs)
      = ⟨true, h.adifFields⟩ :: readSections fuel [] cs := by
  have htext : h.headerText ++ cs = h.preamble ++ (h.fields.flatMap WrittenField.text
      ++ ('<' :: h.marker ++ '>' :: (h.filler ++ cs))) := by
    simp [WrittenHeader.headerText, WrittenSection.text]
  have hmarker : ¬ h.marker.map Text.asciiUpperChar = eor := by
    rw [h.marker_eq]
    decide
  rw [htext, readSections_filler h.preamble_plain, readSections_fields,
    readSections_tag (notMem_of_upper (by decide) h.marker_eq (by decide)), if_neg hmarker,
    if_pos h.marker_eq, readSections_filler h.filler_plain]
  rfl

/-- The tags of a section are no more than its characters. -/
theorem WrittenSection.tags_le {keyword : List Char} (s : WrittenSection keyword) :
    1 + s.fields.length ≤ s.text.length := by
  have hfields : ∀ fields : List WrittenField,
      fields.length ≤ (fields.flatMap WrittenField.text).length := by
    intro fields
    induction fields with
    | nil => exact Nat.le_refl _
    | cons f fields ih =>
        rw [List.flatMap_cons, List.length_append, List.length_cons]
        have hpos : 0 < f.text.length := by simp [WrittenField.text]
        omega
  have hsection := hfields s.fields
  rw [WrittenSection.text]
  simp only [List.length_append, List.length_cons]
  omega

theorem readSections_records (records : List (WrittenSection eor)) (fuel : ℕ)
    (hfuel : (records.flatMap WrittenSection.text).length ≤ fuel) :
    readSections fuel [] (records.flatMap WrittenSection.text)
      = records.map fun r => ⟨false, r.adifFields⟩ := by
  induction records generalizing fuel with
  | nil => exact readSections_nil fuel []
  | cons r records ih =>
      rw [List.flatMap_cons, List.length_append] at hfuel
      have htags := r.tags_le
      obtain ⟨more, rfl⟩ : ∃ more, fuel = more + 1 + r.fields.length :=
        ⟨fuel - (1 + r.fields.length), by omega⟩
      rw [List.flatMap_cons, readSections_record, ih more (by omega), List.map_cons]

/-- **Going by the lengths**, one reads what was written. -/
theorem readSections_text (p : Payload) : readSections p.text.length [] p.text = p.adifRecords := by
  obtain ⟨header, records⟩ := p
  cases header with
  | none => exact readSections_records records _ (Nat.le_refl _)
  | some h =>
      have htext : Payload.text ⟨some h, records⟩
          = h.headerText ++ records.flatMap WrittenSection.text := rfl
      have hlength : h.toWrittenSection.text.length ≤ h.headerText.length := by
        rw [WrittenHeader.headerText, List.length_append]
        omega
      have htags := h.toWrittenSection.tags_le
      rw [htext, List.length_append]
      obtain ⟨more, hmore⟩ : ∃ more, h.headerText.length
          + (records.flatMap WrittenSection.text).length = more + 1 + h.fields.length :=
        ⟨h.headerText.length + (records.flatMap WrittenSection.text).length
          - (1 + h.fields.length), by omega⟩
      rw [hmore, readSections_header, readSections_records records more (by omega)]
      rfl

end QsoRipper.Adif
