/-
QsoRipper/Qrz/FetchExact.lean

When `fetch_qsos` gives back exactly the usable records of a payload.

A payload is sent as it is or with its special characters escaped; decoding
undoes both.  If one of its records is usable and no more of them are than were
announced, the parser's records are taken: those of the folded payload, which are
the payload's own unless a marker in a value was written in capitals.  Otherwise
the pieces between the end markers are taken for records, also where they are
pieces of a value.
-/
import QsoRipper.Qrz.Folding

namespace QsoRipper.QrzLogbook

open Adif Text

/-! ### Sending -/

/-- A character as it stands in escaped text. -/
def escapeChar : Char → List Char
  | '<' => ['&', 'l', 't', ';']
  | '>' => ['&', 'g', 't', ';']
  | '"' => ['&', 'q', 'u', 'o', 't', ';']
  | '\'' => ['&', '#', '3', '9', ';']
  | '&' => ['&', 'a', 'm', 'p', ';']
  | c => [c]

/-- The special characters, in the order in which decoding goes through them. -/
def specialChars : List Char := ['<', '>', '"', '\'', '&']

/-- A text in which only these characters are escaped. -/
def escapeOnly (special : List Char) (text : List Char) : List Char :=
  text.flatMap fun c => if c ∈ special then escapeChar c else [c]

/-- The forms in which a payload's text may be sent. -/
inductive Sent (text : List Char) : List Char → Prop
  | raw (h : ∀ c ∈ specialChars, ¬ escapeChar c <:+: text) : Sent text text
  | escaped : Sent text (escapeOnly specialChars text)

/-- An escape begins with an ampersand, and has no other. -/
theorem escapeChar_eq {c : Char} (hc : c ∈ specialChars) :
    ∃ body, escapeChar c = '&' :: body ∧ '&' ∉ body := by
  simp only [specialChars, List.mem_cons, List.not_mem_nil, or_false] at hc
  rcases hc with rfl | rfl | rfl | rfl | rfl <;> exact ⟨_, rfl, by decide⟩

/-- No escape begins like another. -/
theorem not_prefix_escapeChar {c d : Char} (hc : c ∈ specialChars) (hd : d ∈ specialChars)
    (hne : d ≠ c) (rest : List Char) : ¬ escapeChar c <+: escapeChar d ++ rest := by
  simp only [specialChars, List.mem_cons, List.not_mem_nil, or_false] at hc hd
  rcases hc with rfl | rfl | rfl | rfl | rfl <;> rcases hd with rfl | rfl | rfl | rfl | rfl <;>
    first
      | exact absurd rfl hne
      | simp [escapeChar]

/-- One pass of decoding undoes the escapes of one character. -/
theorem replaceAll_escapeOnly {c : Char} {special : List Char} (hc : c ∉ special)
    (hspecial : c :: special ⊆ specialChars) (hamp : '&' ∈ c :: special) (text : List Char) :
    replaceAll (escapeChar c) [c] (escapeOnly (c :: special) text) = escapeOnly special text := by
  have hcSpecial : c ∈ specialChars := hspecial List.mem_cons_self
  obtain ⟨body, hbody, -⟩ := escapeChar_eq hcSpecial
  refine replaceAll_flatMap (fun d rest => ?_) text
  by_cases hdc : d = c
  · -- an escape of this character
    subst hdc
    have hne : escapeChar d ≠ [] := by
      rw [hbody]
      exact List.cons_ne_nil _ _
    rw [if_pos List.mem_cons_self, if_neg hc, replaceAll_pattern hne]
  by_cases hd : d ∈ special
  · -- that of another, which is passed over
    have hdSpecial : d ∈ specialChars := hspecial (List.mem_cons_of_mem c hd)
    have hhead := not_prefix_escapeChar hcSpecial hdSpecial hdc rest
    obtain ⟨body', hbody', hnot⟩ := escapeChar_eq hdSpecial
    rw [if_pos (List.mem_cons_of_mem c hd), if_pos hd, hbody', List.cons_append]
    rw [hbody', List.cons_append] at hhead
    rw [replaceAll_cons hhead, hbody, replaceAll_append_of_notMem hnot, List.cons_append]
  · have hmem : d ∉ c :: special := by
      simp only [List.mem_cons, not_or]
      exact ⟨hdc, hd⟩
    have hhead : ¬ escapeChar c <+: d :: rest := by
      rw [hbody]
      intro hpre
      exact hmem ((List.cons_prefix_cons.mp hpre).1 ▸ hamp)
    rw [if_neg hmem, if_neg hd, List.singleton_append, replaceAll_cons hhead,
      List.singleton_append]

theorem escapeOnly_nil (text : List Char) : escapeOnly [] text = text := by
  rw [escapeOnly]
  simp

/-- What is escaped has no ampersand only where nothing was escaped. -/
theorem escapeOnly_eq_self {text : List Char} (h : '&' ∉ escapeOnly specialChars text) :
    escapeOnly specialChars text = text := by
  refine (flatMap_eq_self fun c hc => ?_)
  by_cases hspecial : c ∈ specialChars
  · obtain ⟨body, hbody, -⟩ := escapeChar_eq hspecial
    refine absurd (List.mem_flatMap.mpr ⟨c, hc, ?_⟩) h
    rw [if_pos hspecial, hbody]
    exact List.mem_cons_self
  · rw [if_neg hspecial]

/-- **Decoding** gives back the text that was sent. -/
theorem decodeFetchAdifPayload_eq {text sent : List Char} (h : Sent text sent) :
    decodeFetchAdifPayload sent = text := by
  cases h with
  | raw hplain =>
      have hpass (c : Char) (hc : c ∈ specialChars) :
          replaceAll (escapeChar c) [c] text = text := replaceAll_eq_self (hplain c hc)
      rw [decodeFetchAdifPayload]
      by_cases hamp : '&' ∉ text
      · rw [if_pos hamp]
      · rw [if_neg hamp]
        show replaceAll (escapeChar '&') ['&'] (replaceAll (escapeChar '\'') ['\'']
          (replaceAll (escapeChar '"') ['"'] (replaceAll (escapeChar '>') ['>']
            (replaceAll (escapeChar '<') ['<'] text)))) = text
        rw [hpass '<' (by decide), hpass '>' (by decide), hpass '"' (by decide),
          hpass '\'' (by decide), hpass '&' (by decide)]
  | escaped =>
      rw [decodeFetchAdifPayload]
      by_cases hamp : '&' ∉ escapeOnly specialChars text
      · rw [if_pos hamp]
        exact escapeOnly_eq_self hamp
      · rw [if_neg hamp]
        show replaceAll (escapeChar '&') ['&'] (replaceAll (escapeChar '\'') ['\'']
          (replaceAll (escapeChar '"') ['"'] (replaceAll (escapeChar '>') ['>']
            (replaceAll (escapeChar '<') ['<'] (escapeOnly specialChars text))))) = text
        rw [specialChars, replaceAll_escapeOnly (by decide) (by decide) (by decide),
          replaceAll_escapeOnly (by decide) (by decide) (by decide),
          replaceAll_escapeOnly (by decide) (by decide) (by decide),
          replaceAll_escapeOnly (by decide) (by decide) (by decide),
          replaceAll_escapeOnly (by decide) (by decide) (by decide), escapeOnly_nil]

/-! ### The body around it -/

/-- `RESULT=OK&COUNT=`, a number and `&`. -/
def responseHead (n : ℕ) : List Char :=
  ['R', 'E', 'S', 'U', 'L', 'T', '=', 'O', 'K', '&', 'C', 'O', 'U', 'N', 'T', '=']
    ++ Nat.toDigits 10 n ++ ['&']

/-- The body of a response. -/
def responseBody (n : ℕ) (sent : List Char) : List Char := responseHead n ++ adifMarker ++ sent

theorem findAdifMarkerIndex_responseBody (n : ℕ) (sent : List Char) :
    findAdifMarkerIndex (responseBody n sent) = some (responseHead n).length := by
  have hletters : ∀ c ∈ ['R', 'E', 'S', 'U', 'L', 'T', '=', 'O', 'K', '&', 'C', 'O', 'U', 'N', 'T',
      '='], c ≠ 'A' ∧ c ≠ 'a' := by simp
  have hnot : 'A' ∉ (responseHead n).map asciiUpperChar := by
    intro hmem
    obtain ⟨c, hc, hupper⟩ := List.mem_map.mp hmem
    have hA : c = 'A' ∨ c = 'a' := by
      rcases CaseOf.cases (.inr hupper.symm : CaseOf 'A' c) with heq | ⟨hlow, -, hvalue⟩
      · exact .inl heq.symm
      · right
        have hcode : c.toNat = 'a'.toNat := by
          have h65 : 'A'.toNat = 65 := rfl
          have h97 : 'a'.toNat = 97 := rfl
          omega
        rw [← Char.ofNat_toNat c, hcode]
        rfl
    rcases List.mem_append.mp hc with hc | hc
    · rcases List.mem_append.mp hc with hc | hc
      · exact hA.elim (hletters c hc).1 (hletters c hc).2
      · have hdigit := Nat.isDigit_of_mem_toDigits (by decide) (by decide) hc
        rcases hA with rfl | rfl <;> exact absurd hdigit (by decide)
    · rcases hA with rfl | rfl <;> exact absurd (List.mem_singleton.mp hc) (by decide)
  have hfind : find adifMarker ((responseHead n).map asciiUpperChar ++ adifMarker
      ++ sent.map asciiUpperChar) = some ((responseHead n).map asciiUpperChar).length :=
    find_append hnot (sent.map asciiUpperChar)
  rw [List.length_map] at hfind
  have hmarker : adifMarker.map asciiUpperChar = adifMarker := by decide
  rw [findAdifMarkerIndex, responseBody, List.map_append, List.map_append, hmarker]
  exact hfind

theorem take_responseBody (n : ℕ) (sent : List Char) :
    (responseBody n sent).take (responseHead n).length = responseHead n := by
  rw [responseBody, List.append_assoc]
  exact List.take_left

theorem extractAdifFromFetchBody_responseBody (n : ℕ) (sent : List Char) :
    (extractAdifFromFetchBody (responseBody n sent)).getD [] = sent := by
  have hdrop : (responseBody n sent).drop ((responseHead n).length + adifMarker.length) = sent := by
    have hfront : (responseHead n).length + adifMarker.length
        = (responseHead n ++ adifMarker).length := by rw [List.length_append]
    rw [responseBody, hfront]
    exact List.drop_left
  rw [extractAdifFromFetchBody, findAdifMarkerIndex_responseBody]
  show (if _ then _ else _ : Option (List Char)).getD [] = _
  split_ifs with hshort
  · have hlength : sent.length = 0 := by
      rw [responseBody, List.length_append, List.length_append] at hshort
      omega
    rw [List.length_eq_zero_iff.mp hlength]
    rfl
  · rw [hdrop]
    rfl

theorem trim_responseHead (n : ℕ) :
    trim (String.ofList (responseHead n)) = String.ofList (responseHead n) := by
  rw [trim_eq_self_iff]
  constructor
  · intro c hc
    have hR : 'R' = c := by simpa [responseHead] using hc
    rw [← hR]
    decide
  · intro c hc
    rw [String.toList_ofList, responseHead, List.getLast?_append] at hc
    have hamp : '&' = c := by simpa using hc
    rw [← hamp]
    decide

theorem parseKvResponse_responseHead (n : ℕ) :
    parseKvResponse (String.ofList (responseHead n))
      = [("RESULT", "OK"), ("COUNT", String.ofList (Nat.toDigits 10 n))] := by
  have hdigits : '&' ∉ ['C', 'O', 'U', 'N', 'T', '='] ++ Nat.toDigits 10 n := by
    intro hmem
    rcases List.mem_append.mp hmem with hmem | hmem
    · exact absurd hmem (by decide)
    · exact absurd (Nat.isDigit_of_mem_toDigits (by decide) (by decide) hmem) (by decide)
  have hparts : responseHead n = ['R', 'E', 'S', 'U', 'L', 'T', '=', 'O', 'K']
      ++ '&' :: (['C', 'O', 'U', 'N', 'T', '='] ++ Nat.toDigits 10 n ++ '&' :: []) := by
    simp [responseHead]
  have hresult : splitOnce '=' (String.ofList ['R', 'E', 'S', 'U', 'L', 'T', '=', 'O', 'K'])
      = some ("RESULT", "OK") := by decide +kernel
  have hcount : splitOnce '=' (String.ofList (['C', 'O', 'U', 'N', 'T', '='] ++ Nat.toDigits 10 n))
      = some ("COUNT", String.ofList (Nat.toDigits 10 n)) := by
    have hsplit : '=' ∉ "COUNT".toList := by decide
    have htext : String.ofList (['C', 'O', 'U', 'N', 'T', '='] ++ Nat.toDigits 10 n)
        = "COUNT" ++ String.singleton '=' ++ String.ofList (Nat.toDigits 10 n) := by
      rw [← String.toList_inj]
      simp
    rw [htext]
    exact splitOnce_append hsplit
  have hempty : splitOnce '=' (String.ofList []) = none := by decide +kernel
  have hRESULT : toUppercase "RESULT" = "RESULT" := by decide +kernel
  have hCOUNT : toUppercase "COUNT" = "COUNT" := by decide +kernel
  rw [parseKvResponse, trim_responseHead, String.toList_ofList, hparts,
    List.splitOn_append_cons_self_of_not_mem (by decide),
    List.splitOn_append_cons_self_of_not_mem hdigits,
    List.splitOn_eq_singleton List.not_mem_nil]
  simp only [List.filterMap_cons, List.filterMap_nil, hresult, hcount, hempty, Option.map_some,
    Option.map_none, hRESULT, hCOUNT]

/-- The announced number of records, if it is one. -/
def announced (n : ℕ) : Option ℕ := if n < 2 ^ 64 then some n else none

theorem parseUnsigned_toDigits (n : ℕ) :
    parseUnsigned (2 ^ 64) (String.ofList (Nat.toDigits 10 n)) = announced n := by
  by_cases hn : n < 2 ^ 64
  · rw [announced, if_pos hn]
    exact parseUnsigned_padded 0 hn
  · rw [announced, if_neg hn, Option.eq_none_iff_forall_ne_some]
    intro value hread
    obtain ⟨digits, htext, -, hdigits, hvalue, hlt⟩ := parseUnsigned_eq_some_iff.mp hread
    rw [String.toList_ofList] at htext
    rcases htext with rfl | hplus
    · have hn' := decimalValue_padded 0 n
      rw [List.replicate_zero, List.nil_append] at hn'
      omega
    · have hmem : '+' ∈ Nat.toDigits 10 n := hplus ▸ List.mem_cons_self
      exact absurd (Nat.isDigit_of_mem_toDigits (by decide) (by decide) hmem) (by decide)

section

variable (stream : RecordStream) (others : List AdifField → QsoRecord)

/-- The body of a response comes down to its payload. -/
theorem fetchQsos_responseBody (n : ℕ) (sent : List Char) :
    fetchQsos stream others (.ok (responseBody n sent))
      = if sent.all isWhitespace then .ok []
        else parseFetchAdifPayload stream others sent (announced n) := by
  have hcheck : checkResult [("RESULT", "OK"), ("COUNT", String.ofList (Nat.toDigits 10 n))]
      = .ok [("RESULT", "OK"), ("COUNT", String.ofList (Nat.toDigits 10 n))] := by
    simp [checkResult, KvResponse.get]
  have hget : KvResponse.get [("RESULT", "OK"), ("COUNT", String.ofList (Nat.toDigits 10 n))]
      "COUNT" = some (String.ofList (Nat.toDigits 10 n)) := by
    simp [KvResponse.get]
  have hsome : (KvResponse.get [("RESULT", "OK"), ("COUNT", String.ofList (Nat.toDigits 10 n))]
      "RESULT").isSome = true := by
    simp [KvResponse.get]
  unfold fetchQsos
  simp only [bind, Except.bind, findAdifMarkerIndex_responseBody]
  rw [take_responseBody, parseKvResponse_responseHead, if_pos hsome, hcheck]
  dsimp only
  rw [hget, extractAdifFromFetchBody_responseBody]
  rw [Option.bind_some, parseUnsigned_toDigits]
  by_cases hblank : sent.all isWhitespace = true
  · rw [if_pos hblank, if_neg (by simpa using hblank)]
    rfl
  · rw [if_neg hblank, if_pos (by simpa using hblank)]

/-! ### What is read -/

/-- A parser that reads back what a conforming serializer writes. -/
structure Difa where
  stream : RecordStream
  reads_back : ∀ p : Payload, stream true p.text = p.adifRecords.map .ok

/-- The usable records of a payload. -/
def kept (records : List (WrittenSection eor)) : List QsoRecord :=
  (records.map fun r => recordToQso others r.adifFields).filter isSyncableQso

/-- A piece of text, taken for a record. -/
def readAlone (piece : List Char) : List QsoRecord := parseFragment stream others [] piece

/-- The pieces between end markers, if there is one. -/
def pieces (text : List Char) : List (List Char) :=
  if mentions eor text then splitAll (marker eor) text else []

theorem parseFragment_eq (parsed : List QsoRecord) (piece : List Char) :
    parseFragment stream others parsed piece = parsed ++ readAlone stream others piece := by
  unfold readAlone parseFragment
  dsimp only
  split_ifs
  · simp
  · split <;> simp

theorem parseAdifRecordsTolerantly_eq (text : List Char) :
    parseAdifRecordsTolerantly stream others text
      = (pieces text).flatMap (readAlone stream others) := by
  have hrun : ∀ (fragments : List (List Char)) (parsed : List QsoRecord),
      fragments.foldl (parseFragment stream others) parsed
        = parsed ++ fragments.flatMap (readAlone stream others) := by
    intro fragments
    induction fragments with
    | nil => simp
    | cons piece fragments ih =>
        intro parsed
        rw [List.foldl_cons, ih, parseFragment_eq, List.flatMap_cons, List.append_assoc]
  rw [parseAdifRecordsTolerantly, pieces]
  cases mentions eor text with
  | false => rfl
  | true => exact hrun _ []

theorem parseRecords_records (detectHeaders : Bool) (records : List (WrittenSection eor)) :
    parseRecords others detectHeaders
        ((records.map fun r => (⟨false, r.adifFields⟩ : AdifRecord)).map .ok)
      = .ok (records.map fun r => recordToQso others r.adifFields) := by
  induction records with
  | nil => rfl
  | cons r records ih =>
      rw [List.map_cons, List.map_cons, parseRecords, Bool.and_false, if_neg Bool.false_ne_true,
        ih]
      rfl

/-- Parsing a payload maps its records. -/
theorem parseAdiQsos_text (difa : Difa) (p : Payload) :
    parseAdiQsos difa.stream others p.text
      = .ok (p.records.map fun r => recordToQso others r.adifFields) := by
  rw [parseAdiQsos, difa.reads_back]
  obtain ⟨header, records⟩ := p
  cases header with
  | none => exact parseRecords_records others true records
  | some h => exact parseRecords_records others true records

end

/-! ### The text that is parsed -/

/-- A payload's text with its markers in capitals, behind a header if it mentions none. -/
def normalizedText (p : Payload) : List Char := ensureAdifHasEoh (folded p).text

/-- A header that has nothing in it. -/
def emptyHeader : WrittenHeader where
  fields := []
  marker := eoh
  filler := ['\n']
  distinct := List.nodup_nil
  marker_eq := by decide
  filler_plain := by simp [Filler]
  preamble := []
  preamble_plain := nofun

theorem mentions_iff {word payload : List Char} :
    mentions word payload = true ↔ marker word <:+: payload.map asciiUpperChar := by
  rw [mentions, List.any_eq_true]
  simp only [List.mem_tails, List.isPrefixOf_iff_prefix]
  rw [List.infix_iff_prefix_suffix]
  exact exists_congr fun _ => and_comm

/-- A section's text has its marker. -/
theorem mentions_section {keyword : List Char} (s : WrittenSection keyword)
    (front rest : List Char) : mentions keyword (front ++ s.text ++ rest) = true := by
  have hopen : asciiUpperChar '<' = '<' := by decide
  have hclose : asciiUpperChar '>' = '>' := by decide
  rw [mentions_iff]
  refine ⟨(front ++ s.fields.flatMap WrittenField.text).map asciiUpperChar,
    (s.filler ++ rest).map asciiUpperChar, ?_⟩
  simp [WrittenSection.text, marker, hopen, hclose, s.marker_eq]

/-- It is the text of a payload with the same records. -/
theorem normalizedText_eq (p : Payload) :
    ∃ q : Payload, normalizedText p = q.text ∧ q.records = (folded p).records := by
  rw [normalizedText, ensureAdifHasEoh]
  split_ifs with hmentions
  · exact ⟨folded p, rfl, rfl⟩
  · -- a payload with a header mentions it
    have hnone : (folded p).header = none := by
      rcases hheader : (folded p).header with - | h
      · rfl
      · refine absurd ?_ hmentions
        have hsection := mentions_section h.toWrittenSection h.preamble
          ((folded p).records.flatMap WrittenSection.text)
        rw [Payload.text, hheader]
        exact hsection
    refine ⟨⟨some emptyHeader, (folded p).records⟩, ?_, rfl⟩
    simp [Payload.text, hnone, WrittenHeader.headerText, WrittenSection.text, emptyHeader, marker]

section

variable (others : List AdifField → QsoRecord)

/-- The usable records of the folded payload are the payload's, each folded. -/
theorem kept_folded (p : Payload) :
    kept others (folded p).records
      = (p.records.filter fun r => isSyncableQso (recordToQso others r.adifFields)).map
          fun r => recordToQso others (foldedRecord r).adifFields := by
  have hsame : ((isSyncableQso ∘ fun r : WrittenSection eor => recordToQso others r.adifFields)
      ∘ foldedRecord) = fun r => isSyncableQso (recordToQso others r.adifFields) := by
    funext r
    exact isSyncableQso_folded others r
  rw [kept, records_folded, List.filter_map, List.filter_map, List.map_map, hsame]
  rfl

theorem kept_eq (p : Payload) :
    kept others p.records
      = (p.records.filter fun r => isSyncableQso (recordToQso others r.adifFields)).map
          fun r => recordToQso others r.adifFields := by
  rw [kept, List.filter_map]
  rfl

theorem length_kept_folded (p : Payload) :
    (kept others (folded p).records).length = (kept others p.records).length := by
  rw [kept_folded, kept_eq, List.length_map, List.length_map]

/-- The records of the payload are not taken as the parser finds them. -/
def FallsBack (n : ℕ) (records : List QsoRecord) : Prop :=
  records = [] ∨ (0 < n ∧ n < 2 ^ 64 ∧ n < records.length)

instance (n : ℕ) (records : List QsoRecord) : Decidable (FallsBack n records) :=
  inferInstanceAs (Decidable (_ ∨ _))

variable (difa : Difa)

/-- The payload comes down to its folded records, or to its pieces. -/
theorem parseFetchAdifPayload_eq (p : Payload) (n : ℕ) {sent : List Char} (hsent : Sent p.text sent) :
    parseFetchAdifPayload difa.stream others sent (announced n)
      = .ok (if FallsBack n (kept others p.records) then
          ((pieces (normalizedText p)).flatMap (readAlone difa.stream others)).filter isSyncableQso
        else kept others (folded p).records) := by
  obtain ⟨q, htext, hrecords⟩ := normalizedText_eq p
  have hnormalized : ensureAdifHasEoh (normalizeAdifRecordMarkers (decodeFetchAdifPayload sent))
      = normalizedText p := by
    rw [decodeFetchAdifPayload_eq hsent, normalizeAdifRecordMarkers_text, normalizedText]
  have hparsed : parseAdiQsos difa.stream others (normalizedText p)
      = .ok ((folded p).records.map fun r => recordToQso others r.adifFields) := by
    rw [htext, parseAdiQsos_text, hrecords]
  have hvalid : ((folded p).records.map fun r => recordToQso others r.adifFields).filter
      isSyncableQso = kept others (folded p).records := rfl
  have htolerant : ∀ valid : List QsoRecord,
      (if (!valid.isEmpty) = true then (.ok valid : Except QrzLogbookError (List QsoRecord))
        else .ok []) = .ok valid := by
    intro valid
    cases valid <;> rfl
  have hover : ((announced n).any fun expected =>
        decide (0 < expected) && decide (expected < (kept others (folded p).records).length)) = true
      ↔ 0 < n ∧ n < 2 ^ 64 ∧ n < (kept others p.records).length := by
    rw [length_kept_folded, announced]
    split_ifs with hn
    · simp only [Option.any_some, Bool.and_eq_true, decide_eq_true_eq]
      exact ⟨fun h => ⟨h.1, hn, h.2⟩, fun h => ⟨h.1, h.2.2⟩⟩
    · simp only [Option.any_none]
      exact ⟨nofun, fun h => absurd h.2.1 hn⟩
  have hempty : (kept others (folded p).records).isEmpty = true ↔ kept others p.records = [] := by
    rw [List.isEmpty_iff, ← List.length_eq_zero_iff, ← List.length_eq_zero_iff,
      length_kept_folded]
  have hsome : kept others (folded p).records ≠ [] →
      ((folded p).records.map fun r => recordToQso others r.adifFields).isEmpty = false := by
    intro hne
    rw [List.isEmpty_eq_false_iff]
    rintro hnil
    rw [← hvalid, hnil] at hne
    exact hne rfl
  unfold parseFetchAdifPayload
  dsimp only
  rw [hnormalized, hparsed]
  dsimp only
  rw [hvalid, parseAdifRecordsTolerantly_eq, htolerant]
  by_cases hfalls : FallsBack n (kept others p.records)
  · rw [if_pos hfalls]
    refine if_neg ?_
    rw [Bool.and_eq_true, Bool.and_eq_true, Bool.not_eq_true', Bool.not_eq_true',
      Bool.not_eq_true']
    rintro ⟨⟨-, hne⟩, hnot⟩
    rcases hfalls with hnil | hmore
    · exact absurd (hempty.mpr hnil) (by rw [hne]; exact Bool.false_ne_true)
    · exact absurd (hover.mpr hmore) (by rw [hnot]; exact Bool.false_ne_true)
  · rw [if_neg hfalls]
    refine if_pos ?_
    have hne : (kept others (folded p).records).isEmpty = false := by
      rw [← Bool.not_eq_true, hempty]
      exact fun hnil => hfalls (.inl hnil)
    have hnot := mt hover.mp fun hmore => hfalls (.inr hmore)
    rw [Bool.not_eq_true] at hnot
    rw [hsome (by simpa using hne), hne, hnot]
    rfl

theorem bracket_mem_text {keyword : List Char} (s : WrittenSection keyword) :
    '<' ∈ s.text :=
  List.mem_append_right _ List.mem_cons_self

/-- A payload without a tag is empty. -/
theorem records_eq_nil {p : Payload} (h : '<' ∉ p.text) : p.text = [] ∧ p.records = [] := by
  obtain ⟨header, records⟩ := p
  cases header with
  | some h' =>
      exact absurd (List.mem_append_left _ (List.mem_append_right _
        (bracket_mem_text h'.toWrittenSection))) h
  | none =>
      cases records with
      | nil => exact ⟨rfl, rfl⟩
      | cons r records =>
          exact absurd (List.mem_append_left _ (bracket_mem_text r)) h

/-- Of an empty payload there are no pieces. -/
theorem pieces_normalizedText_of_nil {p : Payload} (h : p.text = []) :
    pieces (normalizedText p) = [] := by
  have hnormalized : normalizedText p = ensureAdifHasEoh [] := by
    rw [normalizedText, ← normalizeAdifRecordMarkers_text, h]
    rfl
  rw [hnormalized]
  decide +kernel

/-- Only an empty payload is sent as blank text. -/
theorem text_eq_nil_of_blank {p : Payload} {sent : List Char} (hsent : Sent p.text sent)
    (hblank : sent.all isWhitespace = true) : p.text = [] ∧ p.records = [] := by
  have hnotMem : ∀ c, isWhitespace c = false → c ∉ sent := by
    intro c hc hmem
    have htrue := List.all_eq_true.mp hblank c hmem
    rw [hc] at htrue
    exact Bool.false_ne_true htrue
  have hdecoded := decodeFetchAdifPayload_eq hsent
  rw [decodeFetchAdifPayload, if_pos (hnotMem '&' (by decide))] at hdecoded
  rw [hdecoded] at hnotMem
  exact records_eq_nil (hnotMem '<' (by decide))

/-- What decides whether a response gives back exactly the usable records. -/
structure ReadsExactly (p : Payload) (n : ℕ) : Prop where
  folding : ¬ FallsBack n (kept others p.records) → ∀ r ∈ p.records,
    isSyncableQso (recordToQso others r.adifFields) = true →
      recordToQso others (foldedRecord r).adifFields = recordToQso others r.adifFields
  pieces : FallsBack n (kept others p.records) →
    ((pieces (normalizedText p)).flatMap (readAlone difa.stream others)).filter isSyncableQso
      = kept others p.records

/-- Folding leaves the usable records alone exactly if it leaves each of them alone. -/
theorem kept_folded_eq_iff (p : Payload) :
    kept others (folded p).records = kept others p.records
      ↔ ∀ r ∈ p.records, isSyncableQso (recordToQso others r.adifFields) = true →
          recordToQso others (foldedRecord r).adifFields = recordToQso others r.adifFields := by
  rw [kept_folded, kept_eq, List.map_inj_left]
  simp only [List.mem_filter, and_imp]

end

/-- The parser that goes by the lengths. -/
def byLengths : Difa where
  stream := fun _ cs => (readSections cs.length [] cs).map Except.ok
  reads_back := fun p => congrArg (List.map Except.ok) (readSections_text p)

/-- The mapping of a comment, beside the callsign and the start. -/
def commentOnly (fields : List AdifField) : QsoRecord :=
  { comment := (fields.find? fun field => field.1 == "COMMENT").map (·.2) }

/-- A payload of one contact, with a comment. -/
def oneContact (comment : List Char) : Payload where
  header := none
  records := [{
    fields := [
      ⟨['C', 'A', 'L', 'L'], ['W', '1', 'A', 'W'], ['\n'], by simp, by simp [Filler]⟩,
      ⟨['Q', 'S', 'O', '_', 'D', 'A', 'T', 'E'], ['2', '0', '2', '4', '0', '1', '0', '1'], ['\n'],
        by simp, by simp [Filler]⟩,
      ⟨['T', 'I', 'M', 'E', '_', 'O', 'N'], ['1', '2', '0', '0'], ['\n'], by simp,
        by simp [Filler]⟩,
      ⟨['C', 'O', 'M', 'M', 'E', 'N', 'T'], comment, ['\n'], by simp, by simp [Filler]⟩]
    marker := eor
    filler := ['\n']
    distinct := by
      show (List.map (List.map asciiUpperChar) [['C', 'A', 'L', 'L'],
        ['Q', 'S', 'O', '_', 'D', 'A', 'T', 'E'], ['T', 'I', 'M', 'E', '_', 'O', 'N'],
        ['C', 'O', 'M', 'M', 'E', 'N', 'T']]).Nodup
      decide +kernel
    marker_eq := by decide
    filler_plain := by simp [Filler] }]

end QsoRipper.QrzLogbook
