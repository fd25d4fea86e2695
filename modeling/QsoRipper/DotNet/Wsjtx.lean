/-
QsoRipper/DotNet/Wsjtx.lean

WSJT-X input in the managed engine: `WsjtxDatagram` reads frames, `WsjtxAdifTail` splits the
log.  Both say that they mirror the Rust engine.

The frames are read alike.  The splitters differ on lengths that fit `usize` and not `int`:
such a length is longer than any text, so that the Rust splitter stops there, while the
managed one takes the tag for one without a length and reads on.
-/
import QsoRipper.Lib.NetText
import QsoRipper.Wsjtx.Datagram
import QsoRipper.Wsjtx.Splitter

namespace QsoRipper.DotNet.Wsjtx

open QsoRipper.Wsjtx hiding isAsciiWhitespace adifTagName adifDigits cursorAfterUtf8Chars
  cursorAfterUtf8Chars_eq

/-! ### The splitter -/

/-- `int.MaxValue`. -/
def intMax : ℕ := 2 ^ 31 - 1

/-- A span, which an `int` counts. -/
abbrev Span := { bytes : List UInt8 // bytes.length ≤ intMax }

/-- `IsAsciiWhitespace`. -/
def isAsciiWhitespace (b : UInt8) : Bool := b == 32 || b == 9 || b == 10 || b == 0x0C || b == 13

/-- `ToAsciiLower`. -/
def toAsciiLower (b : UInt8) : UInt8 := if 65 ≤ b && b ≤ 90 then b + 32 else b

/-- `EqualsIgnoreAsciiCase`. -/
def equalsIgnoreAsciiCase (value ascii : List UInt8) : Bool :=
  value.length == ascii.length
    && (value.zip ascii).all fun (a, b) => toAsciiLower a == toAsciiLower b

/-- `AdifTagName`. -/
def adifTagName (tagBody : List UInt8) : List UInt8 :=
  match tagBody.findIdx? fun b => b == colon || isAsciiWhitespace b with
  | some index => tagBody.take index
  | none => tagBody

/-- The loop of `AdifFieldLength`. -/
def adifDigits : List UInt8 → ℕ → Bool → Option ℕ
  | [], length, sawDigit => if sawDigit then some length else none
  | b :: rest, length, sawDigit =>
      if b == colon then if sawDigit then some length else none
      else if b < 48 || 57 < b then none
      else if intMax < length * 10 + (b.toNat - 48) then none
      else adifDigits rest (length * 10 + (b.toNat - 48)) true

/-- `AdifFieldLength`. -/
def adifFieldLength (tagBody : List UInt8) : Option ℕ :=
  match tagBody.findIdx? (· == colon) with
  | none => none
  | some at_ => adifDigits (tagBody.drop (at_ + 1)) 0 false

/-- The loop of `Utf8IsValid`; every turn takes bytes off the span. -/
def utf8IsValidLoop : ℕ → List UInt8 → Bool
  | _, [] => true
  | 0, _ :: _ => false
  | fuel + 1, span =>
      match Utf8.first? span with
      | none => false
      | some rune => utf8IsValidLoop fuel (span.drop rune.utf8Size)

/-- `Utf8IsValid`. -/
def utf8IsValid (bytes : List UInt8) : Bool := utf8IsValidLoop bytes.length bytes

/-- The loop of `CursorAfterUtf8Chars`. -/
def runesEnd (slice : List UInt8) : ℕ → ℕ → Option ℕ
  | 0, endOffset => some endOffset
  | charCount + 1, endOffset =>
      match Utf8.first? (slice.drop endOffset) with
      | none => none
      | some rune => runesEnd slice charCount (endOffset + rune.utf8Size)

/-- `CursorAfterUtf8Chars`. -/
def cursorAfterUtf8Chars (bytes : List UInt8) (start charCount : ℕ) : Option ℕ :=
  if bytes.length < start then none
  else if !utf8IsValid (bytes.drop start) then none
  else (runesEnd (bytes.drop start) charCount 0).map (start + ·)

/-- The loop of `CompleteAdifPrefixLength`. -/
def completeAdifPrefixLengthLoop (bytes : List UInt8) : ℕ → ℕ → Option ℕ → Option ℕ
  | 0, _, lastEnd => lastEnd
  | fuel + 1, cursor, lastEnd =>
      if cursor < bytes.length then
        match (bytes.drop cursor).findIdx? (· == lessThan) with
        | none => lastEnd
        | some tagStartOffset =>
            let tagStart := cursor + tagStartOffset
            match (bytes.drop tagStart).findIdx? (· == greaterThan) with
            | none => lastEnd
            | some tagEndOffset =>
                let tagEnd := tagStart + tagEndOffset
                let tagBody := (bytes.drop (tagStart + 1)).take (tagEnd - (tagStart + 1))
                if equalsIgnoreAsciiCase (adifTagName tagBody) [101, 111, 114] then
                  completeAdifPrefixLengthLoop bytes fuel (tagEnd + 1) (some (tagEnd + 1))
                else
                  match adifFieldLength tagBody with
                  | none => completeAdifPrefixLengthLoop bytes fuel (tagEnd + 1) lastEnd
                  | some fieldLen =>
                      match cursorAfterUtf8Chars bytes (tagEnd + 1) fieldLen with
                      | none => lastEnd
                      | some nextCursor =>
                          completeAdifPrefixLengthLoop bytes fuel nextCursor lastEnd
      else lastEnd

/-- `CompleteAdifPrefixLength`. -/
def completeAdifPrefixLength (bytes : List UInt8) : Option ℕ :=
  completeAdifPrefixLengthLoop bytes bytes.length 0 none

/-! ### The frame -/

/-- `WsjtxDatagramParseResult`; the errors have the texts of the Rust reader. -/
inductive WsjtxDatagramParseResult where
  | logged (adif : List UInt8)
  | ignored
  | malformed (error : DatagramError)
deriving DecidableEq

/-- `TryReadBeU32`; no offset is negative. -/
def tryReadBeU32 (bytes : List UInt8) (offset : ℕ) : Option ℕ :=
  if bytes.length < offset + 4 then none
  else some (BigEndian.decode ((bytes.drop offset).take 4))

/-- `TryReadWsjtxUtf8`, with the cursor behind the string. -/
def tryReadWsjtxUtf8 (bytes : List UInt8) (cursor : ℕ) :
    Except DatagramError (String × ℕ) :=
  match tryReadBeU32 bytes cursor with
  | none => .error .missingStringLength
  | some length =>
      if length = wsjtxNullStringLength then .ok ("", cursor + 4)
      else if bytes.length < cursor + 4 + length then .error .pastPacketEnd
      else
        -- `StrictUtf8.GetString`
        match Utf8.decode ((bytes.drop (cursor + 4)).take length) with
        | none => .error .notUtf8
        | some chars => .ok (String.ofList chars, cursor + 4 + length)

/-- `TryParseLoggedAdif`. -/
def tryParseLoggedAdif (datagram : List UInt8) : WsjtxDatagramParseResult :=
  match tryReadBeU32 datagram 0 with
  | none => .ignored
  | some magic =>
      if magic ≠ wsjtxMagic then .ignored
      else
        match tryReadBeU32 datagram 4, tryReadBeU32 datagram 8 with
        | none, _ => .malformed .missingSchema
        | some _, none => .malformed .missingMessageType
        | some _, some messageType =>
            if messageType ≠ wsjtxLoggedAdifMessageType then .ignored
            else
              match tryReadWsjtxUtf8 datagram 12 with
              | .error idError => .malformed idError
              | .ok (_, cursor) =>
                  match tryReadWsjtxUtf8 datagram cursor with
                  | .error adifError => .malformed adifError
                  | .ok (adif, _) =>
                      if NetText.isNullOrWhiteSpace (some adif) then .malformed .emptyPayload
                      else .logged (Utf8.encode adif.toList)

/-- What the Rust reader's result is called here. -/
def WsjtxDatagramParseResult.ofExtract :
    Except DatagramError (Option (List UInt8)) → WsjtxDatagramParseResult
  | .ok (some adif) => .logged adif
  | .ok none => .ignored
  | .error error => .malformed error

/-! ### Frames are read alike -/

theorem tryReadBeU32_eq (bytes : List UInt8) (offset : ℕ) :
    tryReadBeU32 bytes offset = wordAt bytes offset := by
  rw [tryReadBeU32, wordAt]
  split_ifs <;> first | rfl | omega

theorem tryReadWsjtxUtf8_eq (bytes : List UInt8) (cursor : ℕ) :
    tryReadWsjtxUtf8 bytes cursor = textAt bytes cursor := by
  rw [tryReadWsjtxUtf8, textAt, tryReadBeU32_eq]
  rcases wordAt bytes cursor with - | length
  · rfl
  dsimp only
  by_cases hnull : length = wsjtxNullStringLength
  · rw [if_pos hnull, if_pos hnull]
  rw [if_neg hnull, if_neg hnull]
  by_cases hinside : cursor + 4 + length ≤ bytes.length
  · rw [if_neg (by omega), if_pos hinside]
    rcases Utf8.decode ((bytes.drop (cursor + 4)).take length) with - | chars <;> rfl
  · rw [if_pos (by omega), if_neg hinside]

theorem tryParseLoggedAdif_eq (datagram : List UInt8) :
    tryParseLoggedAdif datagram
      = .ofExtract (extractWsjtxLoggedAdif datagram) := by
  rw [extractWsjtxLoggedAdif_eq, outcome, tryParseLoggedAdif]
  simp only [tryReadBeU32_eq, tryReadWsjtxUtf8_eq]
  rcases wordAt datagram 0 with - | magic
  · rfl
  dsimp only
  split_ifs with hmagic hschema
  · rfl
  · rw [hschema]
    rfl
  obtain ⟨schema, hword⟩ := Option.ne_none_iff_exists'.mp hschema
  rw [hword]
  rcases wordAt datagram 8 with - | messageType
  · rfl
  dsimp only
  split_ifs with htype
  · rfl
  rw [payload]
  rcases textAt datagram 12 with error | ⟨id, cursor⟩
  · rfl
  dsimp only
  rcases textAt datagram cursor with error | ⟨adif, after⟩
  · rfl
  dsimp only
  -- both take a text of white space for an empty one
  have hblank : NetText.isNullOrWhiteSpace (some adif) = true ↔ Text.trim adif = "" := by
    simp [NetText.isNullOrWhiteSpace, NetText.isWhiteSpace, String.isEmpty_iff]
  by_cases hempty : Text.trim adif = ""
  · rw [if_pos (hblank.mpr hempty), if_pos hempty]
    rfl
  · rw [if_neg fun h => hempty (hblank.mp h), if_neg hempty]
    rfl

/-! ### Tags are read alike -/

theorem adifTagName_eq (tagBody : List UInt8) :
    adifTagName tagBody = QsoRipper.Wsjtx.adifTagName tagBody := by
  rw [adifTagName, QsoRipper.Wsjtx.adifTagName]
  induction tagBody with
  | nil => rfl
  | cons b rest ih =>
      rw [List.findIdx?_cons, List.takeWhile_cons]
      by_cases hstop : (b == colon || isAsciiWhitespace b) = true
      · have hstop' : (b == colon || QsoRipper.Wsjtx.isAsciiWhitespace b) = true := hstop
        simp [hstop, hstop']
      · have hgo : (b == colon || QsoRipper.Wsjtx.isAsciiWhitespace b) = false := by
          rw [Bool.not_eq_true] at hstop
          exact hstop
        rw [Bool.not_eq_true] at hstop
        simp only [hstop, hgo, Bool.not_false, if_true]
        rw [← ih]
        rcases rest.findIdx? fun b => b == colon || isAsciiWhitespace b with - | index <;> rfl

theorem equalsIgnoreAsciiCase_eor (tagBody : List UInt8) :
    equalsIgnoreAsciiCase (adifTagName tagBody) [101, 111, 114]
      = isEndOfRecord tagBody := by
  rw [isEndOfRecord, ← adifTagName_eq]
  generalize adifTagName tagBody = name
  have hlower : ∀ b, toAsciiLower b = toAsciiLowercase b := fun b => rfl
  have hascii : toAsciiLower 101 = 101 ∧ toAsciiLower 111 = 111 ∧ toAsciiLower 114 = 114 := by
    decide
  rw [equalsIgnoreAsciiCase]
  match name with
  | [] => rfl
  | [_] => simp
  | [_, _] => simp
  | [a, b, c] => simp [hascii, ← hlower]
  | _ :: _ :: _ :: _ :: _ => simp

/-- A length grows with its digits. -/
theorem le_of_adifDigits {digits : List UInt8} {length n : ℕ} {sawDigit : Bool}
    (h : QsoRipper.Wsjtx.adifDigits digits length sawDigit = some n) : length ≤ n := by
  induction digits generalizing length sawDigit with
  | nil =>
      rw [QsoRipper.Wsjtx.adifDigits] at h
      split_ifs at h
      exact (Option.some.inj h).le
  | cons byte rest ih =>
      rw [QsoRipper.Wsjtx.adifDigits] at h
      split_ifs at h with hcolon hsaw hdigit hover
      · exact (Option.some.inj h).le
      · have := ih h
        omega

/-- A length that no `int` holds is given up at once. -/
theorem adifDigits_eq {digits : List UInt8} {length : ℕ} {sawDigit : Bool}
    (hlength : length ≤ intMax) :
    adifDigits digits length sawDigit
      = (QsoRipper.Wsjtx.adifDigits digits length sawDigit).filter (decide <| · ≤ intMax) := by
  induction digits generalizing length sawDigit with
  | nil =>
      rw [adifDigits, QsoRipper.Wsjtx.adifDigits]
      cases sawDigit
      · rfl
      · simp [Option.filter, hlength]
  | cons b rest ih =>
      rw [adifDigits, QsoRipper.Wsjtx.adifDigits]
      by_cases hcolon : (b == colon) = true
      · rw [if_pos hcolon, if_pos hcolon]
        cases sawDigit
        · rfl
        · simp [Option.filter, hlength]
      rw [if_neg hcolon, if_neg hcolon]
      have hdigit : (b < 48 || 57 < b) = !isAsciiDigit b := by
        rw [isAsciiDigit, Bool.not_and, ← decide_not, ← decide_not]
        simp only [UInt8.not_le]
      rw [hdigit]
      by_cases hnone : (!isAsciiDigit b) = true
      · rw [if_pos hnone, if_pos hnone]
        rfl
      rw [if_neg hnone, if_neg hnone]
      by_cases hlong : intMax < length * 10 + (b.toNat - 48)
      · rw [if_pos hlong]
        by_cases hover : usizeMax < length * 10 + (b.toNat - 48)
        · rw [if_pos hover]
          rfl
        · rw [if_neg hover]
          symm
          rw [Option.filter_eq_none_iff]
          intro n hn
          have hle := le_of_adifDigits hn
          simp only [decide_eq_true_eq]
          omega
      · have hover : ¬ usizeMax < length * 10 + (b.toNat - 48) := by
          have : intMax < usizeMax := by decide
          omega
        rw [if_neg hlong, if_neg hover]
        exact ih (by omega)

theorem adifFieldLength_eq (tagBody : List UInt8) :
    adifFieldLength tagBody
      = (adifFieldLen tagBody).filter (decide <| · ≤ intMax) := by
  rw [adifFieldLength, adifFieldLen]
  rcases tagBody.findIdx? (· == colon) with - | at_
  · rfl
  · exact adifDigits_eq (Nat.zero_le _)

/-! ### Values are stepped over alike -/

theorem utf8IsValidLoop_eq (fuel : ℕ) (bytes : List UInt8) :
    utf8IsValidLoop fuel bytes = (Utf8.decodeFuel fuel bytes).isSome := by
  induction fuel generalizing bytes with
  | zero => rcases bytes with - | ⟨b, bytes⟩ <;> rfl
  | succ fuel ih =>
      rcases bytes with - | ⟨b, bytes⟩
      · rfl
      rw [utf8IsValidLoop, Utf8.decodeFuel]
      · rcases Utf8.first? (b :: bytes) with - | rune
        · rfl
        · simp [ih]
      · exact List.cons_ne_nil b bytes
      · exact List.cons_ne_nil b bytes

theorem runesEnd_eq (slice : List UInt8) (charCount endOffset : ℕ) :
    runesEnd slice charCount endOffset
      = (Utf8.skip charCount (slice.drop endOffset)).map (endOffset + ·) := by
  induction charCount generalizing endOffset with
  | zero => simp [runesEnd, Utf8.skip]
  | succ charCount ih =>
      rw [runesEnd, Utf8.skip]
      rcases Utf8.first? (slice.drop endOffset) with - | rune
      · rfl
      · simp [ih, List.drop_drop, Function.comp_def, Nat.add_assoc]

theorem cursorAfterUtf8Chars_eq {bytes : List UInt8} {start : ℕ} (hstart : start ≤ bytes.length)
    (charCount : ℕ) :
    cursorAfterUtf8Chars bytes start charCount
      = (stepDecoded charCount (bytes.drop start)).map (start + ·) := by
  rw [cursorAfterUtf8Chars, if_neg (by omega), utf8IsValid, utf8IsValidLoop_eq, runesEnd_eq,
    List.drop_zero]
  by_cases hvalid : Utf8.Valid (bytes.drop start)
  · have hsome : (Utf8.decodeFuel (bytes.drop start).length (bytes.drop start)).isSome = true :=
      Utf8.valid_iff.mp hvalid
    rw [stepDecoded_of_valid hvalid, hsome]
    simp
  · have hnone : (Utf8.decodeFuel (bytes.drop start).length (bytes.drop start)).isSome = false := by
      rw [Utf8.valid_iff] at hvalid
      simpa [Utf8.decode] using hvalid
    rw [stepDecoded_of_not_valid hvalid, hnone]
    rfl

/-- No value is longer than the text. -/
theorem stepDecoded_eq_none {charCount : ℕ} {after : List UInt8} (h : after.length < charCount) :
    stepDecoded charCount after = none := by
  by_cases hvalid : Utf8.Valid after
  · obtain ⟨cs, rfl⟩ := hvalid
    have hle := Utf8.length_le_encode cs
    rw [stepDecoded_of_valid ⟨cs, rfl⟩, Utf8.skip_encode, if_neg (by omega)]
  · exact stepDecoded_of_not_valid hvalid charCount

/-- How the managed splitter steps over a value: over none, if no `int` holds the length. -/
def step (charCount : ℕ) (after : List UInt8) : Option ℕ :=
  if charCount ≤ intMax then stepDecoded charCount after else some 0

/-- A turn of the loop, by the first tag behind the cursor. -/
theorem completeAdifPrefixLengthLoop_succ (bytes : List UInt8) (fuel cursor : ℕ)
    (lastEnd : Option ℕ) :
    completeAdifPrefixLengthLoop bytes (fuel + 1) cursor lastEnd
      = match firstTag (bytes.drop cursor) with
        | none => lastEnd
        | some (size, .endOfRecord) =>
            completeAdifPrefixLengthLoop bytes fuel (cursor + size) (some (cursor + size))
        | some (size, .other) => completeAdifPrefixLengthLoop bytes fuel (cursor + size) lastEnd
        | some (size, .field fieldLen) =>
            match step fieldLen (bytes.drop (cursor + size)) with
            | none => lastEnd
            | some value =>
                completeAdifPrefixLengthLoop bytes fuel (cursor + (size + value)) lastEnd := by
  rw [completeAdifPrefixLengthLoop]
  by_cases hcursor : cursor < bytes.length
  · rw [if_pos hcursor, firstTag_drop]
    rcases (bytes.drop cursor).findIdx? (· == lessThan) with - | tagStart
    · rfl
    dsimp only
    rcases hend : (bytes.drop (cursor + tagStart)).findIdx? (· == greaterThan) with - | e
    · rfl
    dsimp only
    obtain ⟨hlt, -⟩ := List.findIdx?_eq_some_iff_getElem.mp hend
    rw [List.length_drop] at hlt
    have hcur : cursor + tagStart + e + 1 = cursor + (tagStart + e + 1) := by omega
    rw [hcur, tagKind, equalsIgnoreAsciiCase_eor, adifFieldLength_eq]
    split
    · rfl
    rcases adifFieldLen _ with - | fieldLen
    · rfl
    by_cases hint : fieldLen ≤ intMax
    · have hkept : (some fieldLen).filter (decide <| · ≤ intMax) = some fieldLen := by
        simp [Option.filter, hint]
      rw [hkept]
      dsimp only
      rw [cursorAfterUtf8Chars_eq (by omega), step, if_pos hint]
      rcases stepDecoded fieldLen (bytes.drop (cursor + (tagStart + e + 1))) with - | value
      · rfl
      · simp only [Option.map_some, Nat.add_assoc]
    · have hlost : (some fieldLen).filter (decide <| · ≤ intMax) = none := by
        simp [Option.filter, hint]
      rw [hlost]
      dsimp only
      rw [step, if_neg hint]
  · rw [if_neg hcursor]
    have hnil : bytes.drop cursor = [] := List.drop_eq_nil_of_le (by omega)
    rw [hnil]
    rfl

/-! ### Records are found alike -/

/-- The managed splitter reads on from one text to another: behind a tag, and behind its
value if an `int` holds the length. -/
inductive Passes : List UInt8 → List UInt8 → Prop where
  | endOfRecord {bytes : List UInt8} {size : ℕ} (h : firstTag bytes = some (size, .endOfRecord)) :
      Passes bytes (bytes.drop size)
  | other {bytes : List UInt8} {size : ℕ} (h : firstTag bytes = some (size, .other)) :
      Passes bytes (bytes.drop size)
  | field {bytes : List UInt8} {size fieldLen value : ℕ}
      (h : firstTag bytes = some (size, .field fieldLen)) (hint : fieldLen ≤ intMax)
      (hvalue : stepDecoded fieldLen (bytes.drop size) = some value) :
      Passes bytes (bytes.drop (size + value))
  | long {bytes : List UInt8} {size fieldLen : ℕ}
      (h : firstTag bytes = some (size, .field fieldLen)) (hlong : intMax < fieldLen) :
      Passes bytes (bytes.drop size)

/-- An end-of-record tag is come to. -/
def FindsRecord (bytes : List UInt8) : Prop :=
  ∃ place size, Relation.ReflTransGen Passes bytes place
    ∧ firstTag place = some (size, .endOfRecord)

/-- A length that no `int` holds is come to, and behind it an end-of-record tag. -/
def LosesRecord (bytes : List UInt8) : Prop :=
  ∃ place size fieldLen, Relation.ReflTransGen Passes bytes place
    ∧ firstTag place = some (size, .field fieldLen) ∧ intMax < fieldLen
    ∧ FindsRecord (place.drop size)

theorem FindsRecord.of_passes {bytes behind : List UInt8} (h : Passes bytes behind)
    (hfinds : FindsRecord behind) : FindsRecord bytes := by
  obtain ⟨place, size, hreach, htag⟩ := hfinds
  exact ⟨place, size, hreach.head h, htag⟩

theorem LosesRecord.of_passes {bytes behind : List UInt8} (h : Passes bytes behind)
    (hloses : LosesRecord behind) : LosesRecord bytes := by
  obtain ⟨place, size, fieldLen, hreach, htag⟩ := hloses
  exact ⟨place, size, fieldLen, hreach.head h, htag⟩

/-- A record that is lost is there to be found. -/
theorem LosesRecord.findsRecord {bytes : List UInt8} (h : LosesRecord bytes) :
    FindsRecord bytes := by
  obtain ⟨place, size, fieldLen, hreach, htag, hlong, last, size', hreach', htag'⟩ := h
  exact ⟨last, size', (hreach.tail (.long htag hlong)).trans hreach', htag'⟩

/-- There is one way to read on. -/
theorem Passes.unique {bytes a b : List UInt8} (ha : Passes bytes a) (hb : Passes bytes b) :
    a = b := by
  rcases ha with ha | ha | ⟨ha, hint, hvalue⟩ | ⟨ha, hlong⟩
  all_goals rcases hb with hb | hb | ⟨hb, hint', hvalue'⟩ | ⟨hb, hlong'⟩
  all_goals rw [ha] at hb
  all_goals cases hb
  all_goals first | rfl | omega | skip
  rw [hvalue] at hvalue'
  cases hvalue'
  rfl

theorem findsRecord_iff {bytes behind : List UInt8} (h : Passes bytes behind)
    (hother : ∀ size, firstTag bytes ≠ some (size, .endOfRecord)) :
    FindsRecord bytes ↔ FindsRecord behind := by
  refine ⟨?_, FindsRecord.of_passes h⟩
  rintro ⟨place, size, hreach, htag⟩
  rcases hreach.cases_head with rfl | ⟨next, hnext, hreach⟩
  · exact absurd htag (hother size)
  · rw [h.unique hnext]
    exact ⟨place, size, hreach, htag⟩

theorem losesRecord_iff {bytes behind : List UInt8} (h : Passes bytes behind)
    (hother : ∀ size fieldLen, firstTag bytes = some (size, .field fieldLen) → fieldLen ≤ intMax) :
    LosesRecord bytes ↔ LosesRecord behind := by
  refine ⟨?_, LosesRecord.of_passes h⟩
  rintro ⟨place, size, fieldLen, hreach, htag, hlong, hfinds⟩
  rcases hreach.cases_head with rfl | ⟨next, hnext, hreach⟩
  · exact absurd (hother size fieldLen htag) (Nat.not_le_of_lt hlong)
  · rw [h.unique hnext]
    exact ⟨place, size, fieldLen, hreach, htag, hlong, hfinds⟩

/-- Where nothing is passed, nothing is found behind. -/
theorem not_findsRecord {bytes : List UInt8} (h : ∀ behind, ¬ Passes bytes behind) :
    ¬ FindsRecord bytes := by
  rintro ⟨place, size, hreach, htag⟩
  rcases hreach.cases_head with rfl | ⟨next, hnext, -⟩
  · exact h _ (.endOfRecord htag)
  · exact h _ hnext

theorem not_passes_of_none {bytes : List UInt8} (h : firstTag bytes = none)
    (behind : List UInt8) : ¬ Passes bytes behind := by
  rintro (h' | h' | ⟨h', -, -⟩ | ⟨h', -⟩) <;> rw [h] at h' <;> cases h'

theorem not_passes_of_stuck {bytes : List UInt8} {size fieldLen : ℕ}
    (h : firstTag bytes = some (size, .field fieldLen)) (hint : fieldLen ≤ intMax)
    (hstuck : stepDecoded fieldLen (bytes.drop size) = none) (behind : List UInt8) :
    ¬ Passes bytes behind := by
  rintro (h' | h' | ⟨h', hint', hvalue⟩ | ⟨h', hlong⟩) <;> rw [h] at h' <;> cases h'
  · rw [hstuck] at hvalue
    cases hvalue
  · omega

theorem beyond_eq_zero_iff {offset last : ℕ} : beyond offset last = 0 ↔ last = 0 := by
  rcases last with - | last
  · exact Iff.rfl
  · rw [beyond_of_pos (Nat.succ_pos last)]
    omega

theorem beyond_inj {offset m n : ℕ} : beyond offset m = beyond offset n ↔ m = n := by
  rcases m with - | m <;> rcases n with - | n
  · simp
  · rw [beyond_of_pos (Nat.succ_pos n), beyond_zero]
    omega
  · rw [beyond_of_pos (Nat.succ_pos m), beyond_zero]
    omega
  · rw [beyond_of_pos (Nat.succ_pos m), beyond_of_pos (Nat.succ_pos n)]
    omega

theorem recordsEnd_step_ne_zero_iff (bytes : List UInt8) :
    recordsEnd step bytes ≠ 0 ↔ FindsRecord bytes := by
  induction bytes using tags_induction with
  | none bytes htag =>
      rw [recordsEnd_none htag]
      exact iff_of_false (fun h => h rfl) (not_findsRecord (not_passes_of_none htag))
  | endOfRecord bytes size htag ih =>
      have hpos := (firstTag_size htag).1
      rw [recordsEnd_endOfRecord htag]
      exact iff_of_true (by omega) ⟨bytes, size, .refl, htag⟩
  | other bytes size htag ih =>
      rw [recordsEnd_other htag, Ne, beyond_eq_zero_iff, ← Ne, ih]
      exact (findsRecord_iff (.other htag) (by simp [htag])).symm
  | field bytes size fieldLen htag ih =>
      have hother : ∀ size, firstTag bytes ≠ some (size, .endOfRecord) := by simp [htag]
      by_cases hint : fieldLen ≤ intMax
      · rcases hvalue : stepDecoded fieldLen (bytes.drop size) with - | value
        · have hstep : step fieldLen (bytes.drop size) = none := by rw [step, if_pos hint, hvalue]
          rw [recordsEnd_stuck htag hstep]
          exact iff_of_false (fun h => h rfl)
            (not_findsRecord (not_passes_of_stuck htag hint hvalue))
        · have hstep : step fieldLen (bytes.drop size) = some value := by
            rw [step, if_pos hint, hvalue]
          rw [recordsEnd_field htag hstep, Ne, beyond_eq_zero_iff, ← Ne, ih]
          exact (findsRecord_iff (.field htag hint hvalue) hother).symm
      · have hstep : step fieldLen (bytes.drop size) = some 0 := by rw [step, if_neg hint]
        rw [recordsEnd_field htag hstep, Ne, beyond_eq_zero_iff, ← Ne, ih]
        exact (findsRecord_iff (.long htag (by omega)) hother).symm

/-- The records found are the same exactly if none is lost. -/
theorem recordsEnd_step_eq_iff (bytes : List UInt8) (hspan : bytes.length ≤ intMax) :
    recordsEnd step bytes = recordsEnd stepDecoded bytes ↔ ¬ LosesRecord bytes := by
  induction bytes using tags_induction with
  | none bytes htag =>
      rw [recordsEnd_none htag, recordsEnd_none htag]
      exact iff_of_true rfl fun h => not_findsRecord (not_passes_of_none htag) h.findsRecord
  | endOfRecord bytes size htag ih =>
      have hrest := ih (by rw [List.length_drop]; omega)
      rw [recordsEnd_endOfRecord htag, recordsEnd_endOfRecord htag,
        Nat.add_left_cancel_iff, hrest, losesRecord_iff (.endOfRecord htag) (by simp [htag])]
  | other bytes size htag ih =>
      have hrest := ih (by rw [List.length_drop]; omega)
      rw [recordsEnd_other htag, recordsEnd_other htag, beyond_inj,
        hrest, losesRecord_iff (.other htag) (by simp [htag])]
  | field bytes size fieldLen htag ih =>
      have hrest : ∀ value, _ := fun value => ih value (by rw [List.length_drop]; omega)
      by_cases hint : fieldLen ≤ intMax
      · have hsame : step fieldLen (bytes.drop size) = stepDecoded fieldLen (bytes.drop size) := by
          rw [step, if_pos hint]
        rcases hvalue : stepDecoded fieldLen (bytes.drop size) with - | value
        · rw [recordsEnd_stuck htag (hsame.trans hvalue),
            recordsEnd_stuck htag hvalue]
          exact iff_of_true rfl fun h =>
            not_findsRecord (not_passes_of_stuck htag hint hvalue) h.findsRecord
        · have hlosesBehind : LosesRecord bytes ↔ LosesRecord (bytes.drop (size + value)) := by
            apply losesRecord_iff (.field htag hint hvalue)
            intro size' fieldLen' htag'
            rw [htag] at htag'
            cases htag'
            exact hint
          rw [recordsEnd_field htag (hsame.trans hvalue),
            recordsEnd_field htag hvalue, beyond_inj, hrest value, hlosesBehind]
      · -- the Rust splitter stops here
        have hstep : step fieldLen (bytes.drop size) = some 0 := by rw [step, if_neg hint]
        have hstuck : stepDecoded fieldLen (bytes.drop size) = none := by
          apply stepDecoded_eq_none
          rw [List.length_drop]
          omega
        have hlong : intMax < fieldLen := by omega
        rw [recordsEnd_stuck htag hstuck,
          recordsEnd_field htag hstep, beyond_eq_zero_iff, ← not_iff_not, ← Ne,
          recordsEnd_step_ne_zero_iff, not_not, Nat.add_zero]
        constructor
        · intro hfinds
          exact ⟨bytes, size, fieldLen, .refl, htag, hlong, hfinds⟩
        · rintro ⟨place, size', fieldLen', hreach, htag', hlong', hfinds⟩
          rcases hreach.cases_head with rfl | ⟨next, hnext, hreach⟩
          · rw [htag] at htag'
            cases htag'
            exact hfinds
          · rw [← (Passes.long htag hlong).unique hnext] at hreach
            exact LosesRecord.findsRecord ⟨place, size', fieldLen', hreach, htag', hlong', hfinds⟩

theorem endOr_inj {m n : ℕ} : endOr none 0 m = endOr none 0 n ↔ m = n := by
  rcases m with - | m <;> rcases n with - | n <;> simp [endOr]

theorem completeAdifPrefixLength_eq (bytes : List UInt8) :
    completeAdifPrefixLength bytes = endOr none 0 (recordsEnd step bytes) := by
  rw [completeAdifPrefixLength, endOr_of_turns (fun _ _ => rfl)
    (completeAdifPrefixLengthLoop_succ bytes) (by omega), List.drop_zero]

/-- **Both engines read the bytes alike exactly if the managed splitter comes to no
end-of-record tag behind a length that fits `usize` and not `int`.** -/
theorem wsjtx_alike_iff (bytes : Span) :
    (completeAdifPrefixLength bytes.1 = completeAdifPrefixLen bytes.1
        ∧ tryParseLoggedAdif bytes.1
          = .ofExtract (extractWsjtxLoggedAdif bytes.1))
      ↔ ¬ LosesRecord bytes.1 := by
  rw [completeAdifPrefixLength_eq, completeAdifPrefixLen_eq, endOr_inj,
    recordsEnd_step_eq_iff bytes.1 bytes.2]
  exact and_iff_left (tryParseLoggedAdif_eq bytes.1)

/-- `<A:3000000000><eor>`: the Rust splitter finds no record, the managed one does. -/
theorem splits_long_length :
    completeAdifPrefixLength (Utf8.encode "<A:3000000000><eor>".toList) = some 19
      ∧ completeAdifPrefixLen (Utf8.encode "<A:3000000000><eor>".toList)
        = none := by
  decide +kernel

end QsoRipper.DotNet.Wsjtx
