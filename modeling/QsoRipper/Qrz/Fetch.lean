/-
QsoRipper/Qrz/Fetch.lean

`fetch_qsos` of the QRZ logbook client: how the body of a FETCH response becomes
records.  The ADIF text in it is decoded, its markers are written in capitals,
it is given a header if it mentions none, and it is parsed; where that leaves no
usable record, or more of them than were announced, it is cut at its end markers
and the pieces are parsed one by one.

The parser is that of another crate; it is given by the records that it finds.
Of `record_to_qso` the columns that decide whether a record is usable are spelled
out; what it makes of the others is given, but for the fresh local id.
-/
import QsoRipper.Adif.LotwColumns
import QsoRipper.Adif.Serialized
import QsoRipper.Lib.Lines
import QsoRipper.Lib.Replace
import QsoRipper.Ports

namespace QsoRipper.QrzLogbook

open Adif

/-! ### Key-value responses -/

/-- The entries of a response; of two with one key the later one counts. -/
abbrev KvResponse := List (String × String)

/-- `parse_kv_response`. -/
def parseKvResponse (body : String) : KvResponse :=
  ((Text.trim body).toList.splitOn '&').filterMap fun pair =>
    (Text.splitOnce '=' (String.ofList pair)).map fun entry => (Text.toUppercase entry.1, entry.2)

/-- `HashMap::get`. -/
def KvResponse.get (map : KvResponse) (key : String) : Option String :=
  (map.reverse.find? fun entry => entry.1 == key).map (·.2)

/-- `is_auth_error`. -/
def isAuthError (reason : String) : Bool :=
  let lower := Text.toAsciiLowercase reason
  Text.contains lower "invalid api key"
    || Text.contains lower "api key required"
    || Text.contains lower "access denied"

/-- `check_result`. -/
def checkResult (map : KvResponse) : Except QrzLogbookError KvResponse :=
  match map.get "RESULT" with
  | some "OK" | some "REPLACE" => .ok map
  | some "FAIL" =>
      let reason := (map.get "REASON").getD "unknown error"
      if isAuthError reason then .error (.authenticationFailed reason)
      else .error (.apiError reason)
  | some other => .error (.parseError ("unexpected RESULT value: " ++ other))
  | none => .error (.parseError "response missing RESULT field")

/-- `is_empty_fetch_fail`. -/
def isEmptyFetchFail (map : KvResponse) : Bool :=
  (map.get "RESULT").any (Text.eqIgnoreAsciiCase · "FAIL")
    && (map.get "COUNT").any (· == "0")
    && (map.get "REASON").isNone

/-! ### The ADIF text of a response -/

/-- `ADIF=`. -/
def adifMarker : List Char := ['A', 'D', 'I', 'F', '=']

/-- `find_adif_marker_index`. -/
def findAdifMarkerIndex (body : List Char) : Option ℕ :=
  Text.find adifMarker (body.map Text.asciiUpperChar)

/-- `extract_adif_from_fetch_body`. -/
def extractAdifFromFetchBody (body : List Char) : Option (List Char) := do
  let markerPos ← findAdifMarkerIndex body
  let start := markerPos + adifMarker.length
  if body.length ≤ start then none else some (body.drop start)

/-- `decode_fetch_adif_payload`. -/
def decodeFetchAdifPayload (payload : List Char) : List Char :=
  if '&' ∉ payload then payload
  else
    let payload := Text.replaceAll ['&', 'l', 't', ';'] ['<'] payload
    let payload := Text.replaceAll ['&', 'g', 't', ';'] ['>'] payload
    let payload := Text.replaceAll ['&', 'q', 'u', 'o', 't', ';'] ['"'] payload
    let payload := Text.replaceAll ['&', '#', '3', '9', ';'] ['\''] payload
    Text.replaceAll ['&', 'a', 'm', 'p', ';'] ['&'] payload

/-- A word between angle brackets. -/
def marker (word : List Char) : List Char := '<' :: (word ++ ['>'])

/-- Whether a payload has a marker, in whatever case. -/
def mentions (word payload : List Char) : Bool :=
  (payload.map Text.asciiUpperChar).tails.any (marker word).isPrefixOf

/-- `ensure_adif_has_eoh`. -/
def ensureAdifHasEoh (payload : List Char) : List Char :=
  if mentions eoh payload then payload else marker eoh ++ '\n' :: payload

/-- The words as they are replaced. -/
def eorSmall : List Char := ['e', 'o', 'r']

def eohSmall : List Char := ['e', 'o', 'h']

/-- `normalize_adif_record_markers`. -/
def normalizeAdifRecordMarkers (payload : List Char) : List Char :=
  Text.replaceAll (marker eohSmall) (marker eoh)
    (Text.replaceAll (marker eorSmall) (marker eor) payload)

/-! ### Records -/

/-- Seconds of `HHMM` or `HHMMSS`; a time of any other length counts as midnight. -/
def parseAdifTime (time : List Char) : Option ℤ :=
  let part (start : ℕ) := Text.parseUnsigned (2 ^ 32) (String.ofList ((time.drop start).take 2))
  let ofHms (h m s : ℕ) : Option ℤ :=
    if h < 24 ∧ m < 60 ∧ s < 60 then some (h * 3600 + m * 60 + s) else none
  match time.length with
  | 4 => do ofHms (← part 0) (← part 2) 0
  | 6 => do ofHms (← part 0) (← part 2) (← part 4)
  | _ => some 0

/-- `parse_adif_datetime`. -/
def parseAdifDatetime (date : String) (time : Option String) : Option Timestamp :=
  if time.any fun time => !time.toList.all fun c => decide (c.toNat < 128) then none
  else do
    let day ← parseAdifDate date
    let seconds ← (time.map (·.toList)).elim (some 0) parseAdifTime
    some ⟨day.seconds + seconds, 0⟩

/-- The columns that say who was worked and when. -/
structure ContactColumns where
  call : String := ""
  qsoDate : Option String := none
  timeOn : Option String := none

/-- Their arms of `record_to_qso`. -/
def ContactColumns.read (columns : ContactColumns) (field : AdifField) : ContactColumns :=
  match Text.toUppercase field.1 with
  | "CALL" => { columns with call := field.2 }
  | "QSO_DATE" => { columns with qsoDate := some field.2 }
  | "TIME_ON" => { columns with timeOn := some field.2 }
  | _ => columns

def ContactColumns.ofFields (fields : List AdifField) : ContactColumns := fields.foldl read {}

/-- The start of a contact. -/
def ContactColumns.start (columns : ContactColumns) : Option Timestamp :=
  columns.qsoDate.bind (parseAdifDatetime · columns.timeOn)

/-- `record_to_qso`, given what the other columns come to. -/
def recordToQso (others : List AdifField → QsoRecord) (fields : List AdifField) : QsoRecord :=
  { others fields with
    workedCallsign := (ContactColumns.ofFields fields).call
    utcTimestamp := (ContactColumns.ofFields fields).start }

/-- `is_syncable_qso`. -/
def isSyncableQso (qso : QsoRecord) : Bool :=
  Text.trim qso.workedCallsign ≠ "" && qso.utcTimestamp.isSome

/-- `difa::RecordStream`: what comes out of it, with and without header detection. -/
abbrev RecordStream := Bool → List Char → List (Except String AdifRecord)

/-- The loop of `parse_adi_qsos_internal`. -/
def parseRecords (others : List AdifField → QsoRecord) (detectHeaders : Bool) :
    List (Except String AdifRecord) → Except String (List QsoRecord)
  | [] => .ok []
  | .error error :: _ => .error error
  | .ok record :: rest =>
      if detectHeaders && record.header then parseRecords others detectHeaders rest
      else (parseRecords others detectHeaders rest).map (recordToQso others record.fields :: ·)

section

variable (stream : RecordStream) (others : List AdifField → QsoRecord)

/-- `parse_adi_qsos`. -/
def parseAdiQsos (data : List Char) : Except String (List QsoRecord) :=
  parseRecords others true (stream true data)

/-- `parse_adi_qsos_without_header_detection`. -/
def parseAdiQsosWithoutHeaderDetection (data : List Char) : Except String (List QsoRecord) :=
  parseRecords others false (stream false data)

/-- One turn of the loop over the pieces between end markers. -/
def parseFragment (parsed : List QsoRecord) (fragment : List Char) : List QsoRecord :=
  let record := Text.trimList Text.isWhitespace fragment
  if record.isEmpty then parsed
  else
    match parseAdiQsosWithoutHeaderDetection stream others
        (marker eoh ++ '\n' :: (record ++ (marker eor ++ ['\n']))) with
    | .ok qsos => parsed ++ qsos
    | .error _ => parsed

/-- `parse_adif_records_tolerantly`. -/
def parseAdifRecordsTolerantly (payload : List Char) : List QsoRecord :=
  if !mentions eor payload then []
  else (Text.splitAll (marker eor) payload).foldl (parseFragment stream others) []

/-- `parse_fetch_adif_payload`. -/
def parseFetchAdifPayload (adifPayload : List Char) (expectedCount : Option ℕ) :
    Except QrzLogbookError (List QsoRecord) :=
  let decodedAdif := decodeFetchAdifPayload adifPayload
  let normalizedAdif := ensureAdifHasEoh (normalizeAdifRecordMarkers decodedAdif)
  let tolerantly (strictParseError : Option String) : Except QrzLogbookError (List QsoRecord) :=
    let validTolerant :=
      (parseAdifRecordsTolerantly stream others normalizedAdif).filter isSyncableQso
    if !validTolerant.isEmpty then .ok validTolerant
    else
      match strictParseError with
      | some error => .error (.parseError error)
      | none => .ok []
  match parseAdiQsos stream others normalizedAdif with
  | .ok qsos =>
      let valid := qsos.filter isSyncableQso
      let overParsed := expectedCount.any fun expected => 0 < expected && expected < valid.length
      if !qsos.isEmpty && !valid.isEmpty && !overParsed then .ok valid else tolerantly none
  | .error error => tolerantly (some error)

/-- `fetch_qsos`, given what its request comes back with. -/
def fetchQsos (response : Except QrzLogbookError (List Char)) :
    Except QrzLogbookError (List QsoRecord) := do
  let body ← response
  let whole : Except QrzLogbookError (List QsoRecord) :=
    (parseAdiQsos stream others body).mapError .parseError
  match findAdifMarkerIndex body with
  | none =>
      let map := parseKvResponse (String.ofList body)
      if (map.get "RESULT").isSome then
        if isEmptyFetchFail map then return []
        let _ ← checkResult map
        return []
      whole
  | some markerPos =>
      let map := parseKvResponse (String.ofList (body.take markerPos))
      if (map.get "RESULT").isSome then
        let map ← checkResult map
        let expectedCount := (map.get "COUNT").bind (Text.parseUnsigned (2 ^ 64))
        let adif := (extractAdifFromFetchBody body).getD []
        if !adif.all Text.isWhitespace then
          return ← parseFetchAdifPayload stream others adif expectedCount
        return []
      whole

end

end QsoRipper.QrzLogbook
