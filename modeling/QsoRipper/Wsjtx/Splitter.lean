/-
QsoRipper/Wsjtx/Splitter.lean

How much of an ADIF text consists of complete records: `complete_adif_prefix_len`
goes from tag to tag, steps over the value of a field by its length in
characters, and remembers where the last end-of-record marker stood.

To step over a value it decodes everything behind the tag.  What it would find
by decoding the value alone is `recordsEnd Utf8.skip`; the two agree on text that
is well formed from its first value on, and on other text the splitter stops at
the first value.
-/
import QsoRipper.Lib.Tail
import QsoRipper.Lib.Utf8

namespace QsoRipper.Wsjtx

/-! ### The splitter -/

/-- `b'<'`, `b'>'` and `b':'`. -/
def lessThan : UInt8 := 60

@[inherit_doc lessThan] def greaterThan : UInt8 := 62

@[inherit_doc lessThan] def colon : UInt8 := 58

/-- `u8::is_ascii_whitespace`. -/
def isAsciiWhitespace (byte : UInt8) : Bool :=
  byte == 32 || byte == 9 || byte == 10 || byte == 12 || byte == 13

/-- `u8::is_ascii_digit`. -/
def isAsciiDigit (byte : UInt8) : Bool := 48 ≤ byte && byte ≤ 57

/-- `u8::to_ascii_lowercase`. -/
def toAsciiLowercase (byte : UInt8) : UInt8 :=
  if 65 ≤ byte && byte ≤ 90 then byte + 32 else byte

/-- `adif_tag_name`. -/
def adifTagName (tagBody : List UInt8) : List UInt8 :=
  tagBody.takeWhile fun byte => !(byte == colon || isAsciiWhitespace byte)

/-- Is the field name `eor`, in any case? -/
def isEndOfRecord (tagBody : List UInt8) : Bool :=
  (adifTagName tagBody).map toAsciiLowercase == [101, 111, 114]

/-- `usize::MAX`, for the checked arithmetic. -/
def usizeMax : ℕ := 2 ^ 64 - 1

/-- The digits of a length, up to a second colon. -/
def adifDigits : List UInt8 → ℕ → Bool → Option ℕ
  | [], length, sawDigit => if sawDigit then some length else none
  | byte :: rest, length, sawDigit =>
      if byte == colon then if sawDigit then some length else none
      else if !isAsciiDigit byte then none
      else if usizeMax < length * 10 + (byte.toNat - 48) then none
      else adifDigits rest (length * 10 + (byte.toNat - 48)) true

/-- `adif_field_len`. -/
def adifFieldLen (tagBody : List UInt8) : Option ℕ :=
  match tagBody.findIdx? (· == colon) with
  | none => none
  | some at_ => adifDigits (tagBody.drop (at_ + 1)) 0 false

/-- The bytes of the first `charCount` characters. -/
def charsEnd : ℕ → List Char → Option ℕ
  | 0, _ => some 0
  | _ + 1, [] => none
  | charCount + 1, ch :: rest => (charsEnd charCount rest).map (ch.utf8Size + ·)

/-- `cursor_after_utf8_chars`. -/
def cursorAfterUtf8Chars (bytes : List UInt8) (start charCount : ℕ) : Option ℕ :=
  match Utf8.decode (bytes.drop start) with
  | none => none
  | some remaining => (charsEnd charCount remaining).map (start + ·)

/-- The loop of `complete_adif_prefix_len`. -/
def completeAdifPrefixLenLoop (bytes : List UInt8) : ℕ → ℕ → Option ℕ → Option ℕ
  | 0, _, lastEnd => lastEnd
  | fuel + 1, cursor, lastEnd =>
      if cursor < bytes.length then
        match (bytes.drop cursor).findIdx? (· == lessThan) with
        | none => lastEnd
        | some tagStartOffset =>
            let tagStart := cursor + tagStartOffset
            match (bytes.drop tagStart).findIdx? (· == greaterThan) with
            | none => lastEnd
            | some tagEndOffset =>
                let tagEnd := tagStart + tagEndOffset
                let tagBody := (bytes.drop (tagStart + 1)).take (tagEnd - (tagStart + 1))
                if isEndOfRecord tagBody then
                  completeAdifPrefixLenLoop bytes fuel (tagEnd + 1) (some (tagEnd + 1))
                else
                  match adifFieldLen tagBody with
                  | none => completeAdifPrefixLenLoop bytes fuel (tagEnd + 1) lastEnd
                  | some fieldLen =>
                      match cursorAfterUtf8Chars bytes (tagEnd + 1) fieldLen with
                      | none => lastEnd
                      | some nextCursor => completeAdifPrefixLenLoop bytes fuel nextCursor lastEnd
      else lastEnd

/-- `complete_adif_prefix_len`; every turn of the loop moves the cursor on. -/
def completeAdifPrefixLen (bytes : List UInt8) : Option ℕ :=
  completeAdifPrefixLenLoop bytes bytes.length 0 none

/-! ### Tags -/

/-- What a tag is to the splitter. -/
inductive TagKind where
  | endOfRecord
  | field (fieldLen : ℕ)
  | other
deriving DecidableEq

/-- The kind of a tag. -/
def tagKind (tagBody : List UInt8) : TagKind :=
  if isEndOfRecord tagBody then .endOfRecord
  else
    match adifFieldLen tagBody with
    | none => .other
    | some fieldLen => .field fieldLen

/-- The first tag of a text: where it ends, and its kind. -/
def firstTag (bytes : List UInt8) : Option (ℕ × TagKind) :=
  match bytes.findIdx? (· == lessThan) with
  | none => none
  | some tagStart =>
      match (bytes.drop tagStart).findIdx? (· == greaterThan) with
      | none => none
      | some tagEndOffset =>
          some (tagStart + tagEndOffset + 1,
            tagKind ((bytes.drop (tagStart + 1)).take (tagEndOffset - 1)))

theorem findIdx?_append_of_some {p : UInt8 → Bool} {bytes : List UInt8} {i : ℕ}
    (more : List UInt8) (h : bytes.findIdx? p = some i) : (bytes ++ more).findIdx? p = some i := by
  rw [List.findIdx?_append, h]
  rfl

/-- The text around a byte that has been found. -/
theorem split_of_findIdx? {byte : UInt8} {bytes : List UInt8} {i : ℕ}
    (h : bytes.findIdx? (· == byte) = some i) :
    bytes = bytes.take i ++ byte :: bytes.drop (i + 1) ∧ (bytes.take i).length = i := by
  obtain ⟨hlt, hbyte, -⟩ := List.findIdx?_eq_some_iff_getElem.mp h
  have heq : bytes[i] = byte := by simpa using hbyte
  refine ⟨?_, by simp [hlt.le]⟩
  conv_lhs => rw [← List.take_append_drop i bytes, List.drop_eq_getElem_cons hlt, heq]

/-- The text around a first tag. -/
theorem firstTag_cases {bytes : List UInt8} {size : ℕ} {kind : TagKind}
    (h : firstTag bytes = some (size, kind)) :
    ∃ before body after, bytes = before ++ lessThan :: (body ++ greaterThan :: after)
      ∧ size = before.length + body.length + 2 ∧ kind = tagKind body := by
  rw [firstTag] at h
  rcases hstart : bytes.findIdx? (· == lessThan) with - | tagStart
  · rw [hstart] at h
    cases h
  rw [hstart] at h
  dsimp only at h
  obtain ⟨hbytes, hlen⟩ := split_of_findIdx? hstart
  have hdrop : bytes.drop tagStart = lessThan :: bytes.drop (tagStart + 1) := by
    conv_lhs => rw [hbytes]
    exact List.drop_left' hlen
  have hne : (lessThan == greaterThan) = false := by decide
  rw [hdrop, List.findIdx?_cons, hne] at h
  rcases hend : (bytes.drop (tagStart + 1)).findIdx? (· == greaterThan) with - | e
  · rw [hend] at h
    cases h
  rw [hend] at h
  obtain ⟨hrest, hlen'⟩ := split_of_findIdx? hend
  cases h
  refine ⟨bytes.take tagStart, (bytes.drop (tagStart + 1)).take e,
    (bytes.drop (tagStart + 1)).drop (e + 1), ?_, ?_, rfl⟩
  · rw [← hrest]
    exact hbytes
  · rw [hlen, hlen']
    dsimp only
    omega

/-- A tag is found wherever its text stands, if no tag begins before it. -/
theorem firstTag_append {bytes : List UInt8} {tag : ℕ × TagKind} (more : List UInt8)
    (h : firstTag bytes = some tag) : firstTag (bytes ++ more) = some tag := by
  rw [firstTag] at h ⊢
  rcases hstart : bytes.findIdx? (· == lessThan) with - | tagStart
  · rw [hstart] at h
    cases h
  rw [hstart] at h
  rw [findIdx?_append_of_some more hstart]
  dsimp only at h ⊢
  rcases hend : (bytes.drop tagStart).findIdx? (· == greaterThan) with - | e
  · rw [hend] at h
    cases h
  obtain ⟨hlt, -⟩ := List.findIdx?_eq_some_iff_getElem.mp hstart
  obtain ⟨hlt', -⟩ := List.findIdx?_eq_some_iff_getElem.mp hend
  rw [List.length_drop] at hlt'
  rw [hend] at h
  rw [List.drop_append_of_le_length hlt.le, findIdx?_append_of_some more hend,
    List.drop_append_of_le_length hlt]
  dsimp only at h ⊢
  rw [List.take_append_of_le_length (by rw [List.length_drop]; omega)]
  exact h

theorem firstTag_size {bytes : List UInt8} {size : ℕ} {kind : TagKind}
    (h : firstTag bytes = some (size, kind)) : 0 < size ∧ size ≤ bytes.length := by
  obtain ⟨before, body, after, rfl, rfl, -⟩ := firstTag_cases h
  simp
  omega

/-! ### Where records end -/

/-- What has been found behind `offset`, if something has. -/
def beyond (offset : ℕ) : ℕ → ℕ
  | 0 => 0
  | last + 1 => offset + (last + 1)

/-- The end of the last complete record, when values are stepped over by `step`:
nothing, if there is none. -/
def recordsEnd (step : ℕ → List UInt8 → Option ℕ) (bytes : List UInt8) : ℕ :=
  match _htag : firstTag bytes with
  | none => 0
  | some (size, .endOfRecord) => size + recordsEnd step (bytes.drop size)
  | some (size, .other) => beyond size (recordsEnd step (bytes.drop size))
  | some (size, .field fieldLen) =>
      match step fieldLen (bytes.drop size) with
      | none => 0
      | some value => beyond (size + value) (recordsEnd step (bytes.drop (size + value)))
termination_by bytes.length
decreasing_by
  all_goals
    obtain ⟨hpos, hle⟩ := firstTag_size _htag
    simp only [List.length_drop]
    omega

/-- Where the first value of a field begins. -/
def firstValue (bytes : List UInt8) : Option ℕ :=
  match _htag : firstTag bytes with
  | none => none
  | some (size, .field _) => some size
  | some (size, _) => (firstValue (bytes.drop size)).map (size + ·)
termination_by bytes.length
decreasing_by
  obtain ⟨hpos, hle⟩ := firstTag_size _htag
  simp only [List.length_drop]
  omega

section Tags

variable {step : ℕ → List UInt8 → Option ℕ} {bytes : List UInt8} {size fieldLen value : ℕ}

theorem recordsEnd_none (h : firstTag bytes = none) : recordsEnd step bytes = 0 := by
  rw [recordsEnd]
  split <;> simp_all

theorem recordsEnd_endOfRecord (h : firstTag bytes = some (size, .endOfRecord)) :
    recordsEnd step bytes = size + recordsEnd step (bytes.drop size) := by
  rw [recordsEnd]
  split <;> simp_all

theorem recordsEnd_other (h : firstTag bytes = some (size, .other)) :
    recordsEnd step bytes = beyond size (recordsEnd step (bytes.drop size)) := by
  rw [recordsEnd]
  split <;> simp_all

theorem recordsEnd_field (h : firstTag bytes = some (size, .field fieldLen))
    (hstep : step fieldLen (bytes.drop size) = some value) :
    recordsEnd step bytes
      = beyond (size + value) (recordsEnd step (bytes.drop (size + value))) := by
  rw [recordsEnd]
  split <;> simp_all

theorem recordsEnd_stuck (h : firstTag bytes = some (size, .field fieldLen))
    (hstep : step fieldLen (bytes.drop size) = none) : recordsEnd step bytes = 0 := by
  rw [recordsEnd]
  split <;> simp_all

theorem firstValue_none (h : firstTag bytes = none) : firstValue bytes = none := by
  rw [firstValue]
  split <;> simp_all

theorem firstValue_field (h : firstTag bytes = some (size, .field fieldLen)) :
    firstValue bytes = some size := by
  rw [firstValue]
  split <;> simp_all

theorem firstValue_endOfRecord (h : firstTag bytes = some (size, .endOfRecord)) :
    firstValue bytes = (firstValue (bytes.drop size)).map (size + ·) := by
  rw [firstValue]
  split <;> simp_all

theorem firstValue_other (h : firstTag bytes = some (size, .other)) :
    firstValue bytes = (firstValue (bytes.drop size)).map (size + ·) := by
  rw [firstValue]
  split <;> simp_all

end Tags

/-- Induction from tag to tag. -/
theorem tags_induction {motive : List UInt8 → Prop}
    (none : ∀ bytes, firstTag bytes = .none → motive bytes)
    (endOfRecord : ∀ bytes size, firstTag bytes = some (size, .endOfRecord) →
      motive (bytes.drop size) → motive bytes)
    (other : ∀ bytes size, firstTag bytes = some (size, .other) →
      motive (bytes.drop size) → motive bytes)
    (field : ∀ bytes size fieldLen, firstTag bytes = some (size, .field fieldLen) →
      (∀ value, motive (bytes.drop (size + value))) → motive bytes)
    (bytes : List UInt8) : motive bytes := by
  induction hlen : bytes.length using Nat.strong_induction_on generalizing bytes with
  | _ n ih =>
      have hshorter : ∀ size kind, firstTag bytes = some (size, kind) → ∀ value,
          motive (bytes.drop (size + value)) := by
        intro size kind htag value
        obtain ⟨hpos, hle⟩ := firstTag_size htag
        exact ih _ (by rw [← hlen, List.length_drop]; omega) _ rfl
      rcases htag : firstTag bytes with - | ⟨size, kind⟩
      · exact none bytes htag
      rcases kind with - | fieldLen | -
      · exact endOfRecord bytes size htag (hshorter size _ htag 0)
      · exact field bytes size fieldLen htag (hshorter size _ htag)
      · exact other bytes size htag (hshorter size _ htag 0)

/-! ### How records end -/

@[simp] theorem beyond_zero (offset : ℕ) : beyond offset 0 = 0 := rfl

theorem beyond_of_pos {offset last : ℕ} (h : 0 < last) : beyond offset last = offset + last := by
  obtain ⟨last, rfl⟩ := Nat.exists_eq_succ_of_ne_zero h.ne'
  rfl

theorem beyond_mono {offset m n : ℕ} (h : m ≤ n) : beyond offset m ≤ beyond offset n := by
  rcases Nat.eq_zero_or_pos m with rfl | hm
  · exact Nat.zero_le _
  · rw [beyond_of_pos hm, beyond_of_pos (hm.trans_le h)]
    omega

theorem beyond_le (offset last : ℕ) : beyond offset last ≤ offset + last := by
  rcases Nat.eq_zero_or_pos last with rfl | hpos
  · exact Nat.zero_le _
  · exact (beyond_of_pos hpos).le

/-- A way to step over values that looks at nothing behind them. -/
structure Local (step : ℕ → List UInt8 → Option ℕ) : Prop where
  le : ∀ {n bytes k}, step n bytes = some k → k ≤ bytes.length
  append : ∀ {n bytes k} (more), step n bytes = some k → step n (bytes ++ more) = some k

theorem local_skip : Local Utf8.skip := ⟨Utf8.skip_le, Utf8.skip_append⟩

section Ends

variable {step step' : ℕ → List UInt8 → Option ℕ}

theorem recordsEnd_le (hstep : ∀ {n bytes k}, step n bytes = some k → k ≤ bytes.length)
    (bytes : List UInt8) : recordsEnd step bytes ≤ bytes.length := by
  induction bytes using tags_induction with
  | none bytes htag => rw [recordsEnd_none htag]; exact Nat.zero_le _
  | endOfRecord bytes size htag ih =>
      have hsize := firstTag_size htag
      rw [recordsEnd_endOfRecord htag]
      rw [List.length_drop] at ih
      omega
  | other bytes size htag ih =>
      have hsize := firstTag_size htag
      rw [recordsEnd_other htag]
      rw [List.length_drop] at ih
      have := beyond_le size (recordsEnd step (bytes.drop size))
      omega
  | field bytes size fieldLen htag ih =>
      have hsize := firstTag_size htag
      rcases hvalue : step fieldLen (bytes.drop size) with - | value
      · rw [recordsEnd_stuck htag hvalue]
        exact Nat.zero_le _
      · have hle := hstep hvalue
        have hrest := ih value
        rw [recordsEnd_field htag hvalue]
        rw [List.length_drop] at hle hrest
        have := beyond_le (size + value) (recordsEnd step (bytes.drop (size + value)))
        omega

/-- Whoever steps over more values finds more records. -/
theorem recordsEnd_mono (h : ∀ {n bytes k}, step n bytes = some k → step' n bytes = some k)
    (bytes : List UInt8) : recordsEnd step bytes ≤ recordsEnd step' bytes := by
  induction bytes using tags_induction with
  | none bytes htag => rw [recordsEnd_none htag]; exact Nat.zero_le _
  | endOfRecord bytes size htag ih =>
      rw [recordsEnd_endOfRecord htag, recordsEnd_endOfRecord htag]
      omega
  | other bytes size htag ih =>
      rw [recordsEnd_other htag, recordsEnd_other htag]
      exact beyond_mono ih
  | field bytes size fieldLen htag ih =>
      rcases hvalue : step fieldLen (bytes.drop size) with - | value
      · rw [recordsEnd_stuck htag hvalue]
        exact Nat.zero_le _
      · rw [recordsEnd_field htag hvalue, recordsEnd_field htag (h hvalue)]
        exact beyond_mono (ih value)

/-- What holds after a first tag that both texts have. -/
theorem drop_size_append {a b : List UInt8} {size : ℕ} {kind : TagKind}
    (h : firstTag a = some (size, kind)) : (a ++ b).drop size = a.drop size ++ b :=
  List.drop_append_of_le_length (firstTag_size h).2

/-- What holds after a first value that both texts have. -/
theorem drop_value_append {a b : List UInt8} {size value : ℕ} {kind : TagKind}
    (h : firstTag a = some (size, kind)) (hle : value ≤ (a.drop size).length) (n : ℕ) :
    (a ++ b).drop (size + value + n) = (a.drop (size + value) ++ b).drop n := by
  have hsize := firstTag_size h
  rw [List.length_drop] at hle
  rw [← List.drop_append_of_le_length (by omega), List.drop_drop]

/-- **The records of a prefix are records of the whole, and the rest can be
looked at alone.** -/
theorem recordsEnd_append (hlocal : Local step) (a b : List UInt8) :
    recordsEnd step (a ++ b)
      = recordsEnd step a + recordsEnd step ((a ++ b).drop (recordsEnd step a)) := by
  induction a using tags_induction with
  | none a htag => rw [recordsEnd_none htag]; simp
  | endOfRecord a size htag ih =>
      rw [recordsEnd_endOfRecord htag, recordsEnd_endOfRecord (firstTag_append b htag),
        drop_size_append htag, ih, ← List.drop_drop, drop_size_append htag]
      omega
  | other a size htag ih =>
      rw [recordsEnd_other htag]
      rcases Nat.eq_zero_or_pos (recordsEnd step (a.drop size)) with hzero | hpos
      · rw [hzero]
        simp
      · rw [beyond_of_pos hpos, recordsEnd_other (firstTag_append b htag), drop_size_append htag, ih,
          beyond_of_pos (by omega), ← List.drop_drop, drop_size_append htag]
        omega
  | field a size fieldLen htag ih =>
      rcases hvalue : step fieldLen (a.drop size) with - | value
      · rw [recordsEnd_stuck htag hvalue]
        simp
      have hmore : step fieldLen ((a ++ b).drop size) = some value := by
        rw [drop_size_append htag]
        exact hlocal.append b hvalue
      have hdrop : (a ++ b).drop (size + value) = a.drop (size + value) ++ b :=
        drop_value_append htag (hlocal.le hvalue) 0
      rw [recordsEnd_field htag hvalue]
      rcases Nat.eq_zero_or_pos (recordsEnd step (a.drop (size + value))) with hzero | hpos
      · rw [hzero]
        simp
      · rw [beyond_of_pos hpos, recordsEnd_field (firstTag_append b htag) hmore, hdrop, ih value,
          beyond_of_pos (by omega), drop_value_append htag (hlocal.le hvalue)]
        omega

/-! ### Before the first value -/

/-- The end of the last record before the first value. -/
def leadEnd (bytes : List UInt8) : ℕ := recordsEnd (fun _ _ => none) bytes

theorem leadEnd_le_recordsEnd (bytes : List UInt8) : leadEnd bytes ≤ recordsEnd step bytes :=
  recordsEnd_mono (fun h => by cases h) bytes

variable (step) in
/-- The rest behind the leading records can be looked at alone, in every way. -/
theorem lead_append (a b : List UInt8) :
    recordsEnd step (a ++ b)
        = leadEnd a + recordsEnd step ((a ++ b).drop (leadEnd a))
      ∧ firstValue (a ++ b) = (firstValue ((a ++ b).drop (leadEnd a))).map (leadEnd a + ·) := by
  rw [leadEnd]
  induction a using tags_induction with
  | none a htag => rw [recordsEnd_none htag]; simp
  | endOfRecord a size htag ih =>
      rw [recordsEnd_endOfRecord htag, recordsEnd_endOfRecord (firstTag_append b htag),
        firstValue_endOfRecord (firstTag_append b htag), drop_size_append htag, ih.1, ih.2,
        ← List.drop_drop, drop_size_append htag, Option.map_map]
      refine ⟨by omega, ?_⟩
      congr 1
      funext c
      exact (Nat.add_assoc _ _ _).symm
  | other a size htag ih =>
      rw [recordsEnd_other htag]
      rcases Nat.eq_zero_or_pos (recordsEnd (fun _ _ => none) (a.drop size)) with hzero | hpos
      · rw [hzero]
        simp
      · have hrest : 0 < recordsEnd step (a.drop size ++ b) := by
          rw [ih.1]
          omega
        rw [beyond_of_pos hpos, recordsEnd_other (firstTag_append b htag),
          firstValue_other (firstTag_append b htag), drop_size_append htag,
          beyond_of_pos hrest, ih.1, ih.2, ← List.drop_drop, drop_size_append htag, Option.map_map]
        refine ⟨by omega, ?_⟩
        congr 1
        funext c
        exact (Nat.add_assoc _ _ _).symm
  | field a size fieldLen htag ih =>
      rw [recordsEnd_stuck htag rfl]
      simp

/-- The leading records end before the first value. -/
theorem leadEnd_le_firstValue {bytes : List UInt8} {c : ℕ} (h : firstValue bytes = some c) :
    leadEnd bytes ≤ c := by
  have hmap : firstValue (bytes ++ []) = _ := (lead_append (fun _ _ => none) bytes []).2
  rw [List.append_nil, h] at hmap
  obtain ⟨d, -, hd⟩ := Option.map_eq_some_iff.mp hmap.symm
  omega

/-- Without a value there is nothing to step over. -/
theorem recordsEnd_of_firstValue_none {bytes : List UInt8} (h : firstValue bytes = none) :
    recordsEnd step bytes = leadEnd bytes := by
  rw [leadEnd]
  induction bytes using tags_induction with
  | none bytes htag => rw [recordsEnd_none htag, recordsEnd_none htag]
  | endOfRecord bytes size htag ih =>
      rw [firstValue_endOfRecord htag, Option.map_eq_none_iff] at h
      rw [recordsEnd_endOfRecord htag, recordsEnd_endOfRecord htag, ih h]
  | other bytes size htag ih =>
      rw [firstValue_other htag, Option.map_eq_none_iff] at h
      rw [recordsEnd_other htag, recordsEnd_other htag, ih h]
  | field bytes size fieldLen htag ih =>
      rw [firstValue_field htag] at h
      cases h

/-- The first value of a prefix is the first value of the whole. -/
theorem firstValue_append {a : List UInt8} {c : ℕ} (b : List UInt8) (h : firstValue a = some c) :
    firstValue (a ++ b) = some c ∧ c ≤ a.length := by
  induction a using tags_induction generalizing c with
  | none a htag =>
      rw [firstValue_none htag] at h
      cases h
  | endOfRecord a size htag ih =>
      rw [firstValue_endOfRecord htag] at h
      obtain ⟨d, hd, rfl⟩ := Option.map_eq_some_iff.mp h
      obtain ⟨hwhole, hle⟩ := ih hd
      have hsize := firstTag_size htag
      rw [List.length_drop] at hle
      rw [firstValue_endOfRecord (firstTag_append b htag), drop_size_append htag, hwhole]
      exact ⟨rfl, by omega⟩
  | other a size htag ih =>
      rw [firstValue_other htag] at h
      obtain ⟨d, hd, rfl⟩ := Option.map_eq_some_iff.mp h
      obtain ⟨hwhole, hle⟩ := ih hd
      have hsize := firstTag_size htag
      rw [List.length_drop] at hle
      rw [firstValue_other (firstTag_append b htag), drop_size_append htag, hwhole]
      exact ⟨rfl, by omega⟩
  | field a size fieldLen htag ih =>
      rw [firstValue_field htag] at h
      cases h
      exact ⟨firstValue_field (firstTag_append b htag), (firstTag_size htag).2⟩

end Ends

/-! ### The code's way over a value -/

/-- How the code steps over a value: all that follows has to be well formed. -/
def stepDecoded (charCount : ℕ) (after : List UInt8) : Option ℕ :=
  match Utf8.decode after with
  | none => none
  | some remaining => charsEnd charCount remaining

theorem charsEnd_eq_skip (charCount : ℕ) (cs : List Char) :
    charsEnd charCount cs = Utf8.skip charCount (Utf8.encode cs) := by
  induction charCount generalizing cs with
  | zero => rcases cs with - | ⟨c, cs⟩ <;> rfl
  | succ charCount ih =>
      rcases cs with - | ⟨c, cs⟩
      · rw [Utf8.skip_encode]
        rfl
      · have hdrop : (String.utf8EncodeChar c ++ Utf8.encode cs).drop c.utf8Size
            = Utf8.encode cs := List.drop_left' (String.length_utf8EncodeChar c)
        rw [charsEnd, Utf8.skip, Utf8.encode_cons, Utf8.first?_encode]
        simp only [hdrop, ih]

theorem stepDecoded_of_valid {after : List UInt8} (h : Utf8.Valid after) (charCount : ℕ) :
    stepDecoded charCount after = Utf8.skip charCount after := by
  obtain ⟨cs, rfl⟩ := h
  rw [stepDecoded, Utf8.decode_eq_some_iff.mpr rfl]
  exact charsEnd_eq_skip charCount cs

theorem stepDecoded_of_not_valid {after : List UInt8} (h : ¬ Utf8.Valid after) (charCount : ℕ) :
    stepDecoded charCount after = none := by
  rw [Utf8.valid_iff, Option.not_isSome_iff_eq_none] at h
  rw [stepDecoded, h]

theorem skip_of_stepDecoded {n k : ℕ} {after : List UInt8} (h : stepDecoded n after = some k) :
    Utf8.skip n after = some k := by
  by_cases hvalid : Utf8.Valid after
  · rwa [stepDecoded_of_valid hvalid] at h
  · rw [stepDecoded_of_not_valid hvalid] at h
    cases h

theorem cursorAfterUtf8Chars_eq (bytes : List UInt8) (start charCount : ℕ) :
    cursorAfterUtf8Chars bytes start charCount
      = (stepDecoded charCount (bytes.drop start)).map (start + ·) := by
  rw [cursorAfterUtf8Chars, stepDecoded]
  rcases Utf8.decode (bytes.drop start) with - | remaining <;> rfl

/-- A found end, or what was found before. -/
def endOr (lastEnd : Option ℕ) (cursor : ℕ) : ℕ → Option ℕ
  | 0 => lastEnd
  | last + 1 => some (cursor + (last + 1))

theorem endOr_beyond (lastEnd : Option ℕ) (cursor offset last : ℕ) :
    endOr lastEnd cursor (beyond offset last) = endOr lastEnd (cursor + offset) last := by
  rcases last with - | last
  · rfl
  · rw [beyond_of_pos (Nat.succ_pos last)]
    show some (cursor + (offset + last + 1)) = some (cursor + offset + (last + 1))
    congr 1
    omega

/-- A loop from tag to tag finds the end of the last record behind its cursor. -/
theorem endOr_of_turns {step : ℕ → List UInt8 → Option ℕ} {bytes : List UInt8}
    {loop : ℕ → ℕ → Option ℕ → Option ℕ}
    (hzero : ∀ cursor lastEnd, loop 0 cursor lastEnd = lastEnd)
    (hturn : ∀ fuel cursor lastEnd, loop (fuel + 1) cursor lastEnd
      = match firstTag (bytes.drop cursor) with
        | none => lastEnd
        | some (size, .endOfRecord) => loop fuel (cursor + size) (some (cursor + size))
        | some (size, .other) => loop fuel (cursor + size) lastEnd
        | some (size, .field fieldLen) =>
            match step fieldLen (bytes.drop (cursor + size)) with
            | none => lastEnd
            | some value => loop fuel (cursor + (size + value)) lastEnd)
    {fuel cursor : ℕ} {lastEnd : Option ℕ} (hfuel : bytes.length ≤ fuel + cursor) :
    loop fuel cursor lastEnd = endOr lastEnd cursor (recordsEnd step (bytes.drop cursor)) := by
  induction fuel generalizing cursor lastEnd with
  | zero =>
      have hnil : bytes.drop cursor = [] := List.drop_eq_nil_of_le (by omega)
      have htag : firstTag [] = none := rfl
      rw [hzero, hnil, recordsEnd_none htag]
      rfl
  | succ fuel ih =>
      rw [hturn]
      rcases htag : firstTag (bytes.drop cursor) with - | ⟨size, kind⟩
      · rw [recordsEnd_none htag]
        rfl
      have hsize := firstTag_size htag
      rcases kind with - | fieldLen | -
      · rw [recordsEnd_endOfRecord htag]
        dsimp only
        rw [ih (by omega), List.drop_drop]
        rcases recordsEnd step (bytes.drop (cursor + size)) with - | last
        · obtain ⟨size, rfl⟩ := Nat.exists_eq_succ_of_ne_zero hsize.1.ne'
          rfl
        · show some (cursor + size + (last + 1)) = some (cursor + (size + last + 1))
          congr 1
          omega
      · dsimp only
        rw [← List.drop_drop]
        rcases hvalue : step fieldLen ((bytes.drop cursor).drop size) with - | value
        · rw [recordsEnd_stuck htag hvalue]
          rfl
        · rw [recordsEnd_field htag hvalue, endOr_beyond]
          dsimp only
          rw [ih (by omega), List.drop_drop]
      · rw [recordsEnd_other htag, endOr_beyond]
        dsimp only
        rw [ih (by omega), List.drop_drop]

/-- The first tag behind a cursor, as the loop computes it. -/
theorem firstTag_drop (bytes : List UInt8) (cursor : ℕ) :
    firstTag (bytes.drop cursor)
      = match (bytes.drop cursor).findIdx? (· == lessThan) with
        | none => none
        | some tagStart =>
            match (bytes.drop (cursor + tagStart)).findIdx? (· == greaterThan) with
            | none => none
            | some tagEndOffset =>
                some (tagStart + tagEndOffset + 1,
                  tagKind ((bytes.drop (cursor + tagStart + 1)).take
                    (cursor + tagStart + tagEndOffset - (cursor + tagStart + 1)))) := by
  rw [firstTag]
  rcases hstart : (bytes.drop cursor).findIdx? (· == lessThan) with - | tagStart
  · rfl
  dsimp only
  rw [List.drop_drop]
  rcases hend : (bytes.drop (cursor + tagStart)).findIdx? (· == greaterThan) with - | e
  · rfl
  dsimp only
  have hsize : cursor + tagStart + e - (cursor + tagStart + 1) = e - 1 := by omega
  rw [List.drop_drop, hsize, Nat.add_assoc cursor]

/-- A turn of the loop, by the first tag behind the cursor. -/
theorem completeAdifPrefixLenLoop_succ (bytes : List UInt8) (fuel cursor : ℕ)
    (lastEnd : Option ℕ) :
    completeAdifPrefixLenLoop bytes (fuel + 1) cursor lastEnd
      = match firstTag (bytes.drop cursor) with
        | none => lastEnd
        | some (size, .endOfRecord) =>
            completeAdifPrefixLenLoop bytes fuel (cursor + size) (some (cursor + size))
        | some (size, .other) => completeAdifPrefixLenLoop bytes fuel (cursor + size) lastEnd
        | some (size, .field fieldLen) =>
            match stepDecoded fieldLen (bytes.drop (cursor + size)) with
            | none => lastEnd
            | some value =>
                completeAdifPrefixLenLoop bytes fuel (cursor + (size + value)) lastEnd := by
  rw [completeAdifPrefixLenLoop]
  by_cases hcursor : cursor < bytes.length
  · rw [if_pos hcursor, firstTag_drop]
    rcases (bytes.drop cursor).findIdx? (· == lessThan) with - | tagStart
    · rfl
    dsimp only
    rcases (bytes.drop (cursor + tagStart)).findIdx? (· == greaterThan) with - | e
    · rfl
    dsimp only
    have hcur : cursor + tagStart + e + 1 = cursor + (tagStart + e + 1) := by omega
    rw [hcur, tagKind]
    split
    · rfl
    · split
      · rfl
      · rw [cursorAfterUtf8Chars_eq]
        dsimp only
        rename_i fieldLen hlen
        rcases stepDecoded fieldLen (bytes.drop (cursor + (tagStart + e + 1))) with - | value
        · rfl
        · simp only [Option.map_some, Nat.add_assoc]
  · rw [if_neg hcursor]
    have hnil : bytes.drop cursor = [] := List.drop_eq_nil_of_le (by omega)
    rw [hnil]
    rfl

/-- **What the splitter finds.** -/
theorem completeAdifPrefixLen_eq (bytes : List UInt8) :
    completeAdifPrefixLen bytes = endOr none 0 (recordsEnd stepDecoded bytes) := by
  rw [completeAdifPrefixLen, endOr_of_turns (fun _ _ => rfl)
    (completeAdifPrefixLenLoop_succ bytes) (by omega), List.drop_zero]

end QsoRipper.Wsjtx
