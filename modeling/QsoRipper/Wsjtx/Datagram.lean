/-
QsoRipper/Wsjtx/Datagram.lean

The frame of a logged contact on the network: magic number, schema, message type, and two
strings, each a length of four bytes and as many bytes of UTF-8.

A reader carries a list of the ranges whose bytes it has taken.  What it computes is written
once more without this list (`wordAt`, `textAt`, `outcome`), and the grammar is compared with
that.
-/
import QsoRipper.Lib.BigEndian
import QsoRipper.Lib.Text
import QsoRipper.Lib.Utf8

namespace QsoRipper.Wsjtx

/-! ### The reader -/

/-- `WSJTX_MAGIC`. -/
def wsjtxMagic : ℕ := 0xadbccbda

/-- `WSJTX_LOGGED_ADIF_MESSAGE_TYPE`. -/
def wsjtxLoggedAdifMessageType : ℕ := 12

/-- `WSJTX_NULL_STRING_LENGTH`. -/
def wsjtxNullStringLength : ℕ := 2 ^ 32 - 1

/-- The errors of the reader; the text of `notUtf8` goes on with the decoder's own. -/
inductive DatagramError where
  | offsetOverflow
  | missingSchema
  | missingMessageType
  | missingStringLength
  | cursorOverflow
  | lengthOverflow
  | pastPacketEnd
  | notUtf8
  | emptyPayload
deriving DecidableEq

/-- The text of an error. -/
def DatagramError.text : DatagramError → String
  | offsetOverflow => "WSJT-X datagram offset overflow"
  | missingSchema => "WSJT-X datagram is missing schema field"
  | missingMessageType => "WSJT-X datagram is missing message type field"
  | missingStringLength => "WSJT-X datagram is missing string length"
  | cursorOverflow => "WSJT-X datagram cursor overflow"
  | lengthOverflow => "WSJT-X datagram string length overflow"
  | pastPacketEnd => "WSJT-X datagram string extends past packet end"
  | notUtf8 => "WSJT-X datagram string is not UTF-8: "
  | emptyPayload => "WSJT-X Logged ADIF datagram has an empty ADIF payload"

/-- A reader, with the ranges that it has taken. -/
abbrev Reader (α : Type) := ExceptT DatagramError (StateM (List (ℕ × ℕ))) α

/-- `bytes.get(start..stop)`. -/
def get (bytes : List UInt8) (start stop : ℕ) : Reader (Option (List UInt8)) := do
  if start ≤ stop ∧ stop ≤ bytes.length then
    modify (· ++ [(start, stop)])
    return some ((bytes.drop start).take (stop - start))
  else return none

/-- `checked_add` on `usize`. -/
def checkedAdd (a b : ℕ) (error : DatagramError) : Reader ℕ :=
  if a + b < 2 ^ 64 then return a + b else throw error

/-- `read_be_u32`. -/
def readBeU32 (bytes : List UInt8) (offset : ℕ) : Reader (Option ℕ) := do
  let stop ← checkedAdd offset 4 .offsetOverflow
  let some slice ← get bytes offset stop | return none
  return some (BigEndian.decode slice)

/-- `read_wsjtx_utf8`, with the cursor behind the string. -/
def readWsjtxUtf8 (bytes : List UInt8) (cursor : ℕ) : Reader (String × ℕ) := do
  let some length ← readBeU32 bytes cursor | throw .missingStringLength
  let cursor ← checkedAdd cursor 4 .cursorOverflow
  if length = wsjtxNullStringLength then
    return ("", cursor)
  let stop ← checkedAdd cursor length .lengthOverflow
  let some slice ← get bytes cursor stop | throw .pastPacketEnd
  match Utf8.decode slice with
  | some chars => return (String.ofList chars, stop)
  | none => throw .notUtf8

/-- The body of `extract_wsjtx_logged_adif`. -/
def readLoggedAdif (datagram : List UInt8) : Reader (Option (List UInt8)) := do
  let some magic ← readBeU32 datagram 0 | return none
  if magic ≠ wsjtxMagic then
    return none
  let some _ ← readBeU32 datagram 4 | throw .missingSchema
  let some messageType ← readBeU32 datagram 8 | throw .missingMessageType
  if messageType ≠ wsjtxLoggedAdifMessageType then
    return none
  let (_, cursor) ← readWsjtxUtf8 datagram 12
  let (adif, _) ← readWsjtxUtf8 datagram cursor
  if Text.trim adif = "" then
    throw .emptyPayload
  return some (Utf8.encode adif.toList)

/-- `extract_wsjtx_logged_adif`. -/
def extractWsjtxLoggedAdif (datagram : List UInt8) : Except DatagramError (Option (List UInt8)) :=
  ((readLoggedAdif datagram).run.run []).1

/-- The ranges that are read in a datagram. -/
def rangesRead (datagram : List UInt8) : List (ℕ × ℕ) :=
  ((readLoggedAdif datagram).run.run []).2

/-! ### Readers that stay inside -/

/-- The reader computes this, and takes only bytes that are there. -/
def Yields {α : Type} (bytes : List UInt8) (reader : Reader α) (result : Except DatagramError α) :
    Prop :=
  ∀ taken, ∃ more, reader.run.run taken = (result, taken ++ more)
    ∧ ∀ range ∈ more, range.1 ≤ range.2 ∧ range.2 ≤ bytes.length

section Rules

variable {α β : Type} {bytes : List UInt8} {reader : Reader α} {next : α → Reader β}

theorem yields_pure (a : α) : Yields bytes (pure a) (.ok a) := by
  intro taken
  exact ⟨[], by simp [ExceptT.run, StateT.run, pure, ExceptT.pure, ExceptT.mk, StateT.pure], nofun⟩

theorem yields_throw (error : DatagramError) :
    Yields bytes (throw error : Reader α) (.error error) := by
  intro taken
  refine ⟨[], ?_, nofun⟩
  rw [List.append_nil]
  rfl

theorem Yields.bind {a : α} {result : Except DatagramError β} (h : Yields bytes reader (.ok a))
    (hnext : Yields bytes (next a) result) : Yields bytes (reader >>= next) result := by
  intro taken
  obtain ⟨first, hfirst, hin⟩ := h taken
  obtain ⟨second, hsecond, hin'⟩ := hnext (taken ++ first)
  refine ⟨first ++ second, ?_, ?_⟩
  · show (do
      let r ← reader.run
      ExceptT.bindCont next r : StateM (List (ℕ × ℕ)) _).run taken = _
    rw [StateT.run_bind, hfirst, ← List.append_assoc]
    exact hsecond
  · intro range hrange
    rcases List.mem_append.mp hrange with hmem | hmem
    · exact hin range hmem
    · exact hin' range hmem

theorem Yields.bind_error {error : DatagramError} (h : Yields bytes reader (.error error)) :
    Yields bytes (reader >>= next) (.error error) := by
  intro taken
  obtain ⟨first, hfirst, hin⟩ := h taken
  refine ⟨first, ?_, hin⟩
  show (do
    let r ← reader.run
    ExceptT.bindCont next r : StateM (List (ℕ × ℕ)) _).run taken = _
  rw [StateT.run_bind, hfirst]
  rfl

end Rules

theorem yields_get (bytes : List UInt8) (start stop : ℕ) :
    Yields bytes (get bytes start stop)
      (.ok (if start ≤ stop ∧ stop ≤ bytes.length then
        some ((bytes.drop start).take (stop - start)) else none)) := by
  rw [get]
  split_ifs with hinside
  · intro taken
    refine ⟨[(start, stop)], rfl, ?_⟩
    intro range hrange
    rw [List.mem_singleton.mp hrange]
    exact hinside
  · exact yields_pure none

theorem yields_checkedAdd {bytes : List UInt8} {a b : ℕ} {error : DatagramError}
    (h : a + b < 2 ^ 64) : Yields bytes (checkedAdd a b error) (.ok (a + b)) := by
  rw [checkedAdd, if_pos h]
  exact yields_pure _

/-! ### What the reader computes -/

/-- The number in the four bytes at an offset. -/
def wordAt (bytes : List UInt8) (offset : ℕ) : Option ℕ :=
  if offset + 4 ≤ bytes.length then some (BigEndian.decode ((bytes.drop offset).take 4)) else none

/-- The string at an offset, and the offset behind it. -/
def textAt (bytes : List UInt8) (cursor : ℕ) : Except DatagramError (String × ℕ) :=
  match wordAt bytes cursor with
  | none => .error .missingStringLength
  | some length =>
      if length = wsjtxNullStringLength then .ok ("", cursor + 4)
      else if cursor + 4 + length ≤ bytes.length then
        match Utf8.decode ((bytes.drop (cursor + 4)).take length) with
        | some chars => .ok (String.ofList chars, cursor + 4 + length)
        | none => .error .notUtf8
      else .error .pastPacketEnd

/-- The payload behind the header. -/
def payload (datagram : List UInt8) : Except DatagramError (List UInt8) :=
  match textAt datagram 12 with
  | .error error => .error error
  | .ok (_, cursor) =>
      match textAt datagram cursor with
      | .error error => .error error
      | .ok (adif, _) =>
          if Text.trim adif = "" then .error .emptyPayload else .ok (Utf8.encode adif.toList)

/-- What becomes of a datagram. -/
def outcome (datagram : List UInt8) : Except DatagramError (Option (List UInt8)) :=
  match wordAt datagram 0 with
  | none => .ok none
  | some magic =>
      if magic ≠ wsjtxMagic then .ok none
      else if wordAt datagram 4 = none then .error .missingSchema
      else
        match wordAt datagram 8 with
        | none => .error .missingMessageType
        | some messageType =>
            if messageType ≠ wsjtxLoggedAdifMessageType then .ok none
            else (payload datagram).map some

theorem wordAt_lt {bytes : List UInt8} {offset n : ℕ} (h : wordAt bytes offset = some n) :
    n < 2 ^ 32 := by
  rw [wordAt] at h
  split_ifs at h with hinside
  cases h
  have hlength : ((bytes.drop offset).take 4).length = 4 := by
    rw [List.length_take, List.length_drop]
    omega
  have hlt := BigEndian.decode_lt ((bytes.drop offset).take 4)
  rw [hlength] at hlt
  exact hlt

theorem yields_readBeU32 (bytes : List UInt8) {offset : ℕ} (h : offset < 2 ^ 63) :
    Yields bytes (readBeU32 bytes offset) (.ok (wordAt bytes offset)) := by
  rw [readBeU32, wordAt]
  apply (yields_checkedAdd (by omega)).bind
  apply (yields_get bytes offset (offset + 4)).bind
  by_cases hinside : offset + 4 ≤ bytes.length
  · rw [if_pos hinside, if_pos ⟨by omega, hinside⟩, Nat.add_sub_cancel_left]
    exact yields_pure _
  · rw [if_neg hinside, if_neg fun hget => hinside hget.2]
    exact yields_pure _

theorem yields_readWsjtxUtf8 (bytes : List UInt8) {cursor : ℕ} (h : cursor < 2 ^ 34) :
    Yields bytes (readWsjtxUtf8 bytes cursor) (textAt bytes cursor) := by
  rw [readWsjtxUtf8, textAt]
  apply (yields_readBeU32 bytes (by omega)).bind
  rcases hword : wordAt bytes cursor with - | length
  · exact yields_throw _
  have hlength := wordAt_lt hword
  apply (yields_checkedAdd (by omega)).bind
  simp only
  split_ifs with hnull hinside
  · exact yields_pure _
  · apply (yields_checkedAdd (by omega)).bind
    apply (yields_get _ _ _).bind
    rw [if_pos ⟨by omega, hinside⟩, Nat.add_sub_cancel_left]
    simp only
    rcases Utf8.decode ((bytes.drop (cursor + 4)).take length) with - | chars
    · exact yields_throw _
    · exact yields_pure _
  · apply (yields_checkedAdd (by omega)).bind
    apply (yields_get _ _ _).bind
    rw [if_neg fun hget => hinside hget.2]
    exact yields_throw _

/-- The cursor behind a string is small enough for the next one. -/
theorem textAt_cursor_lt {bytes : List UInt8} {cursor after : ℕ} {text : String}
    (h : textAt bytes cursor = .ok (text, after)) : after < cursor + 2 ^ 33 := by
  rw [textAt] at h
  rcases hword : wordAt bytes cursor with - | length
  · rw [hword] at h
    cases h
  have hlength := wordAt_lt hword
  rw [hword] at h
  simp only at h
  split_ifs at h with hnull hinside
  · cases h
    omega
  · split at h
    · cases h
      omega
    · cases h

theorem yields_readLoggedAdif (datagram : List UInt8) :
    Yields datagram (readLoggedAdif datagram) (outcome datagram) := by
  rw [readLoggedAdif, outcome]
  apply (yields_readBeU32 datagram (by norm_num)).bind
  rcases wordAt datagram 0 with - | magic
  · exact yields_pure _
  simp only
  split_ifs with hmagic hschema
  · exact yields_pure _
  · apply (yields_readBeU32 datagram (by norm_num)).bind
    rw [hschema]
    exact yields_throw _
  apply (yields_readBeU32 datagram (by norm_num)).bind
  obtain ⟨schema, hword⟩ := Option.ne_none_iff_exists'.mp hschema
  rw [hword]
  apply (yields_readBeU32 datagram (by norm_num)).bind
  rcases wordAt datagram 8 with - | messageType
  · exact yields_throw _
  simp only
  split_ifs with htype
  · exact yields_pure _
  rw [payload]
  rcases hid : textAt datagram 12 with error | ⟨id, cursor⟩
  · exact Yields.bind_error (hid ▸ yields_readWsjtxUtf8 datagram (by norm_num))
  apply (hid ▸ yields_readWsjtxUtf8 datagram (by norm_num)).bind
  have hcursor := textAt_cursor_lt hid
  simp only
  rcases hadif : textAt datagram cursor with error | ⟨adif, after⟩
  · exact Yields.bind_error (hadif ▸ yields_readWsjtxUtf8 datagram (by omega))
  apply (hadif ▸ yields_readWsjtxUtf8 datagram (by omega)).bind
  simp only
  split_ifs with hblank
  · exact Yields.bind_error (yields_throw _)
  · exact yields_pure _

theorem extractWsjtxLoggedAdif_eq (datagram : List UInt8) :
    extractWsjtxLoggedAdif datagram = outcome datagram := by
  obtain ⟨more, hrun, -⟩ := yields_readLoggedAdif datagram []
  rw [extractWsjtxLoggedAdif, hrun]

theorem rangesRead_inside (datagram : List UInt8) :
    ∀ range ∈ rangesRead datagram, range.1 ≤ range.2 ∧ range.2 ≤ datagram.length := by
  obtain ⟨more, hrun, hinside⟩ := yields_readLoggedAdif datagram []
  rw [rangesRead, hrun]
  exact hinside

/-! ### The grammar -/

/-- A string, and a field that it is read from. -/
inductive IsField : String → List UInt8 → Prop where
  | null : IsField "" (BigEndian.encode 4 wsjtxNullStringLength)
  | text {s : String} (h : (Utf8.encode s.toList).length < wsjtxNullStringLength) :
      IsField s (BigEndian.encode 4 (Utf8.encode s.toList).length ++ Utf8.encode s.toList)

/-- The header of a message. -/
def header (schema : List UInt8) (messageType : ℕ) : List UInt8 :=
  BigEndian.encode 4 wsjtxMagic ++ schema ++ BigEndian.encode 4 messageType

theorem wordAt_eq_some_iff {bytes : List UInt8} {offset n : ℕ} :
    wordAt bytes offset = some n
      ↔ n < 2 ^ 32 ∧ ∃ rest, bytes.drop offset = BigEndian.encode 4 n ++ rest := by
  rw [wordAt]
  constructor
  · intro h
    have hn := wordAt_lt h
    split_ifs at h with hinside
    refine ⟨hn, (bytes.drop offset).drop 4, ?_⟩
    have hlength : ((bytes.drop offset).take 4).length = 4 := by
      rw [List.length_take, List.length_drop]
      omega
    rw [← (BigEndian.decode_eq_iff hn hlength).mp (Option.some.inj h), List.take_append_drop]
  · rintro ⟨hn, rest, hrest⟩
    have hlength := congrArg List.length hrest
    rw [List.length_drop, List.length_append, BigEndian.length_encode] at hlength
    rw [if_pos (by omega), hrest, List.take_left' (BigEndian.length_encode 4 n),
      BigEndian.decode_encode hn]

theorem wordAt_eq_none_iff {bytes : List UInt8} {offset : ℕ} :
    wordAt bytes offset = none ↔ bytes.length < offset + 4 := by
  simp [wordAt]

/-- **A string is read exactly from its fields.** -/
theorem textAt_eq_ok_iff {bytes : List UInt8} {cursor after : ℕ} {text : String} :
    textAt bytes cursor = .ok (text, after)
      ↔ ∃ field rest, IsField text field ∧ bytes.drop cursor = field ++ rest
        ∧ after = cursor + field.length := by
  constructor
  · intro h
    rw [textAt] at h
    rcases hword : wordAt bytes cursor with - | length
    · rw [hword] at h
      cases h
    rw [hword] at h
    obtain ⟨hlt, rest, hrest⟩ := wordAt_eq_some_iff.mp hword
    simp only at h
    split_ifs at h with hnull hinside
    · cases h
      exact ⟨_, rest, .null, hnull ▸ hrest, by rw [BigEndian.length_encode]⟩
    -- the bytes behind the length are the text and what follows
    have hdrop : bytes.drop (cursor + 4) = rest := by
      rw [← List.drop_drop, hrest, List.drop_left' (BigEndian.length_encode 4 length)]
    have hlength := congrArg List.length hdrop
    rw [List.length_drop] at hlength
    split at h
    · rename_i chars hdecode
      cases h
      have hbytes := Utf8.decode_eq_some_iff.mp hdecode
      have hsize : (Utf8.encode chars).length = length := by
        rw [← hbytes, hdrop, List.length_take]
        omega
      refine ⟨_, rest.drop length, .text ?_, ?_, ?_⟩
      · rw [String.toList_ofList, hsize]
        rw [wsjtxNullStringLength] at hnull ⊢
        omega
      · rw [String.toList_ofList, hsize, hrest, ← hbytes, hdrop, List.append_assoc,
          List.take_append_drop]
      · rw [String.toList_ofList, List.length_append, BigEndian.length_encode, hsize]
        omega
    · cases h
  · rintro ⟨field, rest, hfield, hdrop, rfl⟩
    rw [textAt]
    rcases hfield with - | hsize
    · have hword : wordAt bytes cursor = some wsjtxNullStringLength :=
        wordAt_eq_some_iff.mpr ⟨by decide, rest, hdrop⟩
      simp [hword]
    · rw [List.append_assoc] at hdrop
      have hlt : (Utf8.encode text.toList).length < 2 ^ 32 :=
        hsize.trans (by decide)
      have hword := wordAt_eq_some_iff.mpr ⟨hlt, _, hdrop⟩
      have hbehind : bytes.drop (cursor + 4) = Utf8.encode text.toList ++ rest := by
        rw [← List.drop_drop, hdrop, List.drop_left' (BigEndian.length_encode 4 _)]
      have hlength := congrArg List.length hdrop
      rw [List.length_drop, List.length_append, List.length_append,
        BigEndian.length_encode] at hlength
      have hdecode : Utf8.decode (Utf8.encode text.toList) = some text.toList :=
        Utf8.decode_eq_some_iff.mpr rfl
      rw [hword]
      simp only
      rw [if_neg (by omega), if_pos (by omega), hbehind, List.take_left' rfl, hdecode]
      simp only [String.ofList_toList]
      congr 2
      rw [List.length_append, BigEndian.length_encode]
      omega

theorem payload_eq_ok_iff {datagram a : List UInt8} :
    payload datagram = .ok a
      ↔ ∃ id adif idField adifField rest, IsField id idField ∧ IsField adif adifField
        ∧ Text.trim adif ≠ "" ∧ a = Utf8.encode adif.toList
        ∧ datagram.drop 12 = idField ++ adifField ++ rest := by
  constructor
  · intro h
    rw [payload] at h
    rcases hid : textAt datagram 12 with error | ⟨id, cursor⟩
    · rw [hid] at h
      cases h
    rw [hid] at h
    simp only at h
    rcases hadif : textAt datagram cursor with error | ⟨adif, after⟩
    · rw [hadif] at h
      cases h
    rw [hadif] at h
    simp only at h
    split_ifs at h with hblank
    cases h
    obtain ⟨idField, more, hidField, hmore, rfl⟩ := textAt_eq_ok_iff.mp hid
    obtain ⟨adifField, rest, hadifField, hrest, -⟩ := textAt_eq_ok_iff.mp hadif
    refine ⟨id, adif, idField, adifField, rest, hidField, hadifField, hblank, rfl, ?_⟩
    rw [← List.drop_drop, hmore, List.drop_left' rfl] at hrest
    rw [hmore, hrest, List.append_assoc]
  · rintro ⟨id, adif, idField, adifField, rest, hidField, hadifField, hblank, rfl, hdrop⟩
    rw [List.append_assoc] at hdrop
    have hid := textAt_eq_ok_iff.mpr ⟨idField, _, hidField, hdrop, rfl⟩
    have hbehind : datagram.drop (12 + idField.length) = adifField ++ rest := by
      rw [← List.drop_drop, hdrop, List.drop_left' rfl]
    have hadif := textAt_eq_ok_iff.mpr ⟨adifField, rest, hadifField, hbehind, rfl⟩
    rw [payload, hid]
    simp only [hadif]
    rw [if_neg hblank]

/-- Three words, and what is behind them. -/
theorem words_iff {datagram : List UInt8} {magic messageType : ℕ} {tail : List UInt8} :
    (wordAt datagram 0 = some magic ∧ wordAt datagram 8 = some messageType
        ∧ datagram.drop 12 = tail)
      ↔ magic < 2 ^ 32 ∧ messageType < 2 ^ 32 ∧ ∃ schema : List UInt8, schema.length = 4
        ∧ datagram
          = BigEndian.encode 4 magic ++ schema ++ BigEndian.encode 4 messageType ++ tail := by
  constructor
  · rintro ⟨hmagic, htype, rfl⟩
    obtain ⟨hmagic, more, hmore⟩ := wordAt_eq_some_iff.mp hmagic
    obtain ⟨htype, tail, htail⟩ := wordAt_eq_some_iff.mp htype
    rw [List.drop_zero] at hmore
    have hmore' : datagram.drop 4 = more := by
      rw [hmore, List.drop_left' (BigEndian.length_encode 4 magic)]
    have htail' : more.drop 4 = BigEndian.encode 4 messageType ++ tail := by
      rw [← htail, ← hmore', List.drop_drop]
    have hdrop : datagram.drop 12 = tail := by
      have htwelve : datagram.drop 12 = (datagram.drop 8).drop 4 := by rw [List.drop_drop]
      rw [htwelve, htail, List.drop_left' (BigEndian.length_encode 4 messageType)]
    have hlength := congrArg List.length htail'
    rw [List.length_drop, List.length_append, BigEndian.length_encode] at hlength
    refine ⟨hmagic, htype, more.take 4, ?_, ?_⟩
    · rw [List.length_take]
      omega
    · rw [hdrop, List.append_assoc, List.append_assoc, ← htail', List.take_append_drop, hmore]
  · rintro ⟨hmagic, htype, schema, hschema, rfl⟩
    have hfirst : ((BigEndian.encode 4 magic ++ schema) ++ BigEndian.encode 4 messageType).length
        = 12 := by
      simp [hschema]
    refine ⟨wordAt_eq_some_iff.mpr
        ⟨hmagic, schema ++ (BigEndian.encode 4 messageType ++ tail), ?_⟩,
      wordAt_eq_some_iff.mpr ⟨htype, tail, ?_⟩,
      List.drop_left' hfirst⟩
    · rw [List.drop_zero, List.append_assoc, List.append_assoc]
    · rw [List.append_assoc]
      exact List.drop_left' (by simp [hschema])

theorem outcome_eq_some_iff {datagram a : List UInt8} :
    outcome datagram = .ok (some a)
      ↔ wordAt datagram 0 = some wsjtxMagic
        ∧ wordAt datagram 8 = some wsjtxLoggedAdifMessageType
        ∧ payload datagram = .ok a := by
  rw [outcome]
  rcases hmagic : wordAt datagram 0 with - | magic
  · simp
  by_cases hours : magic = wsjtxMagic
  · rcases hschema : wordAt datagram 4 with - | schema
    · -- a datagram that ends before the schema ends before the type
      have hnone : wordAt datagram 8 = none := by
        rw [wordAt_eq_none_iff] at hschema ⊢
        omega
      simp [hours, hnone]
    · rcases wordAt datagram 8 with - | messageType
      · simp [hours]
      · by_cases htype : messageType = wsjtxLoggedAdifMessageType
        · rcases payload datagram with error | b <;> simp [hours, htype, Except.map]
        · simp [hours, htype]
  · simp [hours]

theorem outcome_eq_none_iff {datagram : List UInt8} :
    outcome datagram = .ok none
      ↔ (∀ magic, wordAt datagram 0 = some magic → magic ≠ wsjtxMagic)
        ∨ ∃ messageType, wordAt datagram 0 = some wsjtxMagic
          ∧ wordAt datagram 8 = some messageType
          ∧ messageType ≠ wsjtxLoggedAdifMessageType := by
  rw [outcome]
  rcases hmagic : wordAt datagram 0 with - | magic
  · simp
  by_cases hours : magic = wsjtxMagic
  · rcases hschema : wordAt datagram 4 with - | schema
    · have hnone : wordAt datagram 8 = none := by
        rw [wordAt_eq_none_iff] at hschema ⊢
        omega
      simp [hours, hnone]
    · rcases wordAt datagram 8 with - | messageType
      · simp [hours]
      · by_cases htype : messageType = wsjtxLoggedAdifMessageType
        · rcases payload datagram with error | b <;> simp [hours, htype, Except.map]
        · simp [hours, htype]
  · simp [hours]

/-- **The frame reader accepts exactly its grammar, passes over exactly the datagrams that
are not for it, and takes only bytes of the datagram.** -/
theorem extractWsjtxLoggedAdif_grammar (datagram : List UInt8) :
    (∀ a, extractWsjtxLoggedAdif datagram = .ok (some a)
      ↔ ∃ schema id adif idField adifField rest, schema.length = 4
        ∧ IsField id idField ∧ IsField adif adifField ∧ Text.trim adif ≠ ""
        ∧ a = Utf8.encode adif.toList
        ∧ datagram = header schema wsjtxLoggedAdifMessageType ++ idField ++ adifField ++ rest)
      ∧ (extractWsjtxLoggedAdif datagram = .ok none
        ↔ datagram.length < 4
          ∨ (4 ≤ datagram.length ∧ datagram.take 4 ≠ BigEndian.encode 4 wsjtxMagic)
          ∨ ∃ schema messageType rest, schema.length = 4 ∧ messageType < 2 ^ 32
            ∧ messageType ≠ wsjtxLoggedAdifMessageType
            ∧ datagram = header schema messageType ++ rest)
      ∧ ∀ range ∈ rangesRead datagram, range.1 ≤ range.2 ∧ range.2 ≤ datagram.length := by
  refine ⟨fun a => ?_, ?_, rangesRead_inside datagram⟩
  · rw [extractWsjtxLoggedAdif_eq, outcome_eq_some_iff, payload_eq_ok_iff]
    constructor
    · rintro ⟨hmagic, htype, id, adif, idField, adifField, rest, hid, hadif, hblank, ha, hdrop⟩
      obtain ⟨-, -, schema, hschema, hwhole⟩ := words_iff.mp ⟨hmagic, htype, hdrop⟩
      refine ⟨schema, id, adif, idField, adifField, rest, hschema, hid, hadif, hblank, ha, ?_⟩
      rw [hwhole, header]
      simp only [List.append_assoc]
    · rintro ⟨schema, id, adif, idField, adifField, rest, hschema, hid, hadif, hblank, ha, hwhole⟩
      rw [header, List.append_assoc, List.append_assoc, ← List.append_assoc idField] at hwhole
      obtain ⟨hmagic, htype, hdrop⟩ :=
        words_iff.mpr ⟨by decide, by decide, schema, hschema, hwhole⟩
      exact ⟨hmagic, htype, id, adif, idField, adifField, rest, hid, hadif, hblank, ha, hdrop⟩
  · rw [extractWsjtxLoggedAdif_eq, outcome_eq_none_iff, ← or_assoc]
    refine or_congr ?_ ?_
    · rw [wordAt]
      by_cases hlength : 4 ≤ datagram.length
      · have htake : (datagram.take 4).length = 4 := by
          rw [List.length_take]
          omega
        have hother := BigEndian.decode_eq_iff (n := wsjtxMagic) (by decide) htake
        simp [hlength, hother]
      · simp [hlength, Nat.lt_of_not_le hlength]
    · constructor
      · rintro ⟨messageType, hmagic, htype, hother⟩
        obtain ⟨-, hlt, schema, hschema, hwhole⟩ := words_iff.mp ⟨hmagic, htype, rfl⟩
        exact ⟨schema, messageType, _, hschema, hlt, hother, hwhole⟩
      · rintro ⟨schema, messageType, rest, hschema, hlt, hother, hwhole⟩
        obtain ⟨hmagic, htype, -⟩ := words_iff.mpr ⟨by decide, hlt, schema, hschema, hwhole⟩
        exact ⟨messageType, hmagic, htype, hother⟩

end QsoRipper.Wsjtx
