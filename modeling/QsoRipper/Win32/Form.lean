/-
QsoRipper/Win32/Form.lean

The form of the Win32 client: its fields with their buffers, how a key edits them,
how the form is cleared and filled, and the request that is built from it.

A buffer is the text before its null byte.  What is only painted is left out.
-/
import Mathlib

namespace QsoRipper.Win32

/-! ### Texts -/

/-- The bytes of a C string before its null byte. -/
abbrev CString := List UInt8

/-- The bytes of a literal. -/
def lit (s : String) : CString := s.toList.map fun c => UInt8.ofNat c.toNat

/-- `safe_strcpy`, into a buffer of this size. -/
def safeStrcpy (size : ℕ) (src : CString) : CString := src.take (size - 1)

/-- `toupper`. -/
def toupper (c : UInt8) : UInt8 := if 97 ≤ c ∧ c ≤ 122 then c - 32 else c

/-- `tolower`. -/
def tolower (c : UInt8) : UInt8 := if 65 ≤ c ∧ c ≤ 90 then c + 32 else c

/-- `_stricmp(a, b) == 0`. -/
def stricmpEq (a b : CString) : Bool := a.map tolower == b.map tolower

/-- A number with leading zeros up to a width. -/
def padded (width n : ℕ) : CString :=
  let digits := lit (toString n)
  List.replicate (width - digits.length) 48 ++ digits

/-! ### Fields -/

/-- `enum Field`. -/
inductive Field where
  | callsign
  | band
  | mode
  | rstSent
  | rstRcvd
  | comment
  | notes
  | freq
  | date
  | time
  | timeOff
  | stationCallsign
  | qth
  | workedOperatorCallsign
  | workedName
  | workedGrid
  | workedCountry
  | workedDxcc
  | workedCqZone
  | workedItuZone
  | workedContinent
  | txPower
  | submode
  | contestId
  | serialSent
  | serialRcvd
  | exchangeSent
  | exchangeRcvd
  | propMode
  | satName
  | satMode
  | iota
  | arrlSection
  | workedState
  | workedCounty
  | skcc
  | qslSentStatus
  | qslSentDate
  | qslRcvdStatus
  | qslRcvdDate
  | lotwSent
  | lotwRcvd
  | eqslSent
  | eqslRcvd
  | qrzLogId
  | qrzBookId
  | snapshotStationCallsign
  | snapshotOperatorCallsign
  | snapshotProfile
  | snapshotOperatorName
  | snapshotGrid
  | snapshotCountry
  | snapshotState
  | snapshotCounty
  | snapshotArrlSection
  | snapshotDxcc
  | snapshotCqZone
  | snapshotItuZone
  | snapshotLatitude
  | snapshotLongitude
  | cwRxWpm
  | cwTranscript
  | localId
  | syncStatus
  | createdAt
  | updatedAt
  | extraFields
  deriving DecidableEq

namespace Field

/-- The fields of the basic view, in their order. -/
def basic : List Field :=
  [callsign, band, mode, rstSent, rstRcvd, comment, notes, freq, date, time]

/-- The fields in the order of the enumeration. -/
def all : List Field :=
  basic ++
    [timeOff, stationCallsign, qth, workedOperatorCallsign, workedName, workedGrid,
      workedCountry, workedDxcc, workedCqZone, workedItuZone, workedContinent, txPower, submode,
      contestId, serialSent, serialRcvd, exchangeSent, exchangeRcvd, propMode, satName, satMode,
      iota, arrlSection, workedState, workedCounty, skcc, qslSentStatus, qslSentDate,
      qslRcvdStatus, qslRcvdDate, lotwSent, lotwRcvd, eqslSent, eqslRcvd, qrzLogId, qrzBookId,
      snapshotStationCallsign, snapshotOperatorCallsign, snapshotProfile, snapshotOperatorName,
      snapshotGrid, snapshotCountry, snapshotState, snapshotCounty, snapshotArrlSection,
      snapshotDxcc, snapshotCqZone, snapshotItuZone, snapshotLatitude, snapshotLongitude,
      cwRxWpm, cwTranscript, localId, syncStatus, createdAt, updatedAt, extraFields]

/-- The field that Shift+Tab goes to in the basic view. -/
def before (f : Field) : Field :=
  if f = callsign then time else all.getD (all.idxOf f - 1) callsign

/-- The field that Tab goes to in the basic view. -/
def after (f : Field) : Field :=
  if f ∈ basic.dropLast then all.getD (all.idxOf f + 1) callsign else callsign

/-- `FieldBuffer` is null for the cycle selectors. -/
def hasBuffer : Field → Bool
  | band | mode => false
  | _ => true

/-- The size of a buffer. -/
def size : Field → ℕ
  | callsign | stationCallsign | workedOperatorCallsign | contestId | satName | workedCounty
  | qrzLogId | qrzBookId | snapshotStationCallsign | snapshotOperatorCallsign
  | snapshotCounty | createdAt | updatedAt => 32
  | rstSent | rstRcvd | workedContinent | lotwSent | lotwRcvd | eqslSent | eqslRcvd
  | cwRxWpm => 8
  | comment | notes | cwTranscript | extraFields => 256
  | qth | workedName | workedCountry | exchangeSent | exchangeRcvd | snapshotProfile
  | snapshotOperatorName | snapshotCountry | localId => 64
  | snapshotLatitude | snapshotLongitude | syncStatus => 24
  | band | mode => 0
  | _ => 16

/-- `FIELD_MAX_LEN`. -/
def maxLen : Field → ℕ
  | callsign | stationCallsign | workedOperatorCallsign | contestId | satName | workedCounty
  | qrzLogId | qrzBookId | snapshotStationCallsign | snapshotOperatorCallsign
  | snapshotCounty => 30
  | rstSent | rstRcvd | lotwSent | lotwRcvd | eqslSent | eqslRcvd => 6
  | comment | notes | cwTranscript | extraFields => 250
  | qth | workedName | workedCountry | exchangeSent | exchangeRcvd | snapshotProfile
  | snapshotOperatorName | snapshotCountry => 60
  | workedContinent | cwRxWpm => 8
  | skcc => 16
  | snapshotLatitude | snapshotLongitude | syncStatus => 20
  | createdAt | updatedAt => 24
  | localId => 63
  | band | mode => 0
  | _ => 14

end Field

/-! ### Bands and modes -/

scoped instance neZero_bands : NeZero 13 := ⟨Nat.succ_ne_zero 12⟩

scoped instance neZero_modes : NeZero 8 := ⟨Nat.succ_ne_zero 7⟩

/-- `BANDS`. -/
def bands : Fin 13 → CString :=
  ![lit "160M", lit "80M", lit "60M", lit "40M", lit "30M", lit "20M", lit "17M", lit "15M",
    lit "12M", lit "10M", lit "6M", lit "2M", lit "70CM"]

/-- `MODES`. -/
def modes : Fin 8 → CString :=
  ![lit "SSB", lit "CW", lit "FT8", lit "FT4", lit "RTTY", lit "PSK31", lit "AM", lit "FM"]

/-- `BAND_DEFAULT_FREQS`, in Hz. -/
def bandDefaultFreqs : Fin 13 → ℕ :=
  ![1900000, 3750000, 5330000, 7150000, 10125000, 14225000, 18100000, 21200000, 24940000,
    28400000, 50125000, 146520000, 446000000]

/-- The index that matches a text, or the one there is. -/
def matchIndex {n : ℕ} (texts : Fin n → CString) (text : CString) (index : Fin n) : Fin n :=
  ((List.finRange n).find? fun i => stricmpEq (texts i) text).getD index

/-- The next index after `index` whose text starts with this character. -/
def typeSelect {n : ℕ} [NeZero n] (texts : Fin n → CString) (c : UInt8) (index : Fin n) :
    Option (Fin n) :=
  ((List.finRange n).map fun attempt => index + 1 + attempt).find? fun i =>
    ((texts i).head?.map toupper) == some (toupper c)

/-- `freq_to_radio_style`, of a frequency in Hz. -/
def radioStyle (hz : ℕ) : CString :=
  safeStrcpy 16 (lit (toString (hz / 1000000)) ++ lit "." ++ padded 3 (hz % 1000000 / 1000)
    ++ lit "." ++ padded 3 (hz % 1000))

/-- The conversions through `double`: `atof` of MHz to Hz, and `freq_parse_mhz` to kHz. -/
structure Frequencies where
  hz : CString → ℕ
  khz : CString → UInt64

/-- For inputs without a frequency. -/
def noFrequencies : Frequencies := { hz := fun _ => 0, khz := fun _ => 0 }

/-- `SYSTEMTIME`. -/
structure SystemTime where
  year : ℕ
  month : ℕ
  day : ℕ
  hour : ℕ
  minute : ℕ

namespace SystemTime

def date (st : SystemTime) : CString :=
  padded 4 st.year ++ lit "-" ++ padded 2 st.month ++ lit "-" ++ padded 2 st.day

def time (st : SystemTime) : CString := padded 2 st.hour ++ lit ":" ++ padded 2 st.minute

end SystemTime

/-! ### The form -/

/-- The form, with its focus. -/
structure Form where
  focusedField : Field := .callsign
  fieldAllSelected : Bool := true
  bandIdx : Fin 13 := 5
  modeIdx : Fin 8 := 0
  qsoTimerActive : Bool := false
  timestampAutomatic : Bool := true
  buffers : Field → CString := fun _ => []
  cursorPos : Field → ℕ := fun _ => 0
  editingLocalId : CString := []
  lookupGeneration : UInt32 := 0

namespace Form

variable (form : Form)

/-- A buffer gets a text that fits it. -/
def write (f : Field) (text : CString) : Form :=
  { form with buffers := Function.update form.buffers f text }

def setCursor (f : Field) (pos : ℕ) : Form :=
  { form with cursorPos := Function.update form.cursorPos f pos }

/-- The cursor stands at the end of the text. -/
def cursorToEnd (f : Field) : Form := form.setCursor f (form.buffers f).length

/-- `safe_strcpy` into a buffer. -/
def copy (f : Field) (src : CString) : Form := form.write f (safeStrcpy f.size src)

/-- `SetCurrentDateTime`. -/
def setCurrentDateTime (now : SystemTime) : Form :=
  (form.copy .date now.date).copy .time now.time

/-- `SetFocusField`. -/
def setFocusField (f : Field) : Form :=
  { form with focusedField := f, fieldAllSelected := f.hasBuffer }

/-- The RST of a mode. -/
def defaultRst (mode : CString) : CString :=
  if stricmpEq mode (lit "CW") || stricmpEq mode (lit "RTTY") then lit "599" else lit "59"

/-- `ApplyModeDefaults`. -/
def applyModeDefaults : Form :=
  let rst := defaultRst (modes form.modeIdx)
  (((form.write .rstSent rst).write .rstRcvd rst).setCursor .rstSent rst.length).setCursor .rstRcvd
    rst.length

/-- The frequency that a band starts with. -/
def setDefaultFreq : Form := form.write .freq (radioStyle (bandDefaultFreqs form.bandIdx))

/-- The buffers that `ClearForm` empties. -/
def clearedFields : List Field :=
  [.callsign, .comment, .notes, .timeOff, .qth, .workedName, .workedGrid, .workedCountry,
    .workedDxcc, .workedCqZone, .workedItuZone, .workedContinent, .txPower, .submode, .contestId,
    .serialSent, .serialRcvd, .exchangeSent, .exchangeRcvd, .propMode, .satName, .satMode, .iota,
    .arrlSection, .workedState, .workedCounty, .skcc]

/-- `ClearForm`, in the form. -/
def clearForm (now : SystemTime) : Form :=
  let form := { form with
    buffers := fun f => if f ∈ clearedFields then [] else form.buffers f
    timestampAutomatic := true
    editingLocalId := []
    qsoTimerActive := false
    lookupGeneration := form.lookupGeneration + 1
    cursorPos := fun _ => 0 }
  (((form.setDefaultFreq).setCurrentDateTime now).setFocusField .callsign).applyModeDefaults

/-! ### Editing -/

/-- The date and the time are no longer kept current once they are edited. -/
def touch (f : Field) : Form :=
  if f = .date ∨ f = .time then { form with timestampAutomatic := false } else form

/-- The whole field is replaced. -/
def eraseSelected (f : Field) : Form :=
  { (form.write f (if f.hasBuffer then [] else form.buffers f)).setCursor f 0 with
    fieldAllSelected := false }

/-- `InsertChar`. A null byte ends the text. -/
def insertChar (now : SystemTime) (f : Field) (c : UInt8) : Form :=
  let startingCallsign := f = .callsign ∧ (form.buffers .callsign = [] ∨ form.fieldAllSelected)
  let form := form.touch f
  let form :=
    if startingCallsign ∧ form.timestampAutomatic ∧ ¬ form.qsoTimerActive ∧ form.editingLocalId = []
    then form.setCurrentDateTime now else form
  let form := if form.fieldAllSelected then form.eraseSelected f else form
  let buf := form.buffers f
  if !f.hasBuffer || f.maxLen - 1 ≤ buf.length then form
  else
    let pos := min (form.cursorPos f) buf.length
    let buf := (buf.take pos ++ c :: buf.drop pos).takeWhile (· ≠ 0)
    (form.write f (if f = .callsign then buf.map toupper else buf)).setCursor f (pos + 1)

/-- `DeleteChar`. -/
def deleteChar (f : Field) : Form :=
  if form.fieldAllSelected then (form.touch f).eraseSelected f
  else
    let pos := form.cursorPos f
    if !f.hasBuffer || pos = 0 then form
    else
      let form := form.touch f
      (form.write f ((form.buffers f).eraseIdx (pos - 1))).setCursor f (pos - 1)

/-- The band changes, and the frequency with it. -/
def setBand (bandIdx : Fin 13) : Form :=
  ({ form with bandIdx }.setDefaultFreq).cursorToEnd .freq

/-- The mode changes, and the reports with it. -/
def setMode (modeIdx : Fin 8) : Form := { form with modeIdx }.applyModeDefaults

/-- `TypeSelectBand`. -/
def typeSelectBand (c : UInt8) : Form := (typeSelect bands c form.bandIdx).elim form form.setBand

/-- `TypeSelectMode`. -/
def typeSelectMode (c : UInt8) : Form := (typeSelect modes c form.modeIdx).elim form form.setMode

/-! ### Lookups, the rig and stored contacts -/

/-- `ClearLookupDisplay`, in the form. -/
def clearLookupDisplay : Form :=
  let looked : List Field := [.workedName, .workedGrid, .workedCountry, .workedCqZone, .qth]
  { form with
    lookupGeneration := form.lookupGeneration + 1
    buffers := fun f => if f ∈ looked then [] else form.buffers f
    cursorPos := fun f => if f ∈ looked then 0 else form.cursorPos f }

end Form

/-- `LookupResultMsg`. -/
structure LookupResultMsg where
  callsign : CString
  name : CString := []
  qth : CString := []
  grid : CString := []
  country : CString := []
  cqZone : ℤ := 0
  hasData : Bool := false
  generation : UInt32

/-- `RigPollResult`. -/
structure RigPollResult where
  connected : Bool
  freqDisplay : CString := []
  band : CString := []
  mode : CString := []

/-- `QsrQsoDetail`, with the texts that the form shows in a field under that field. -/
structure QsrQsoDetail where
  band : CString := []
  mode : CString := []
  freqMhz : CString := []
  texts : Field → CString := fun _ => []

namespace Form

variable (form : Form)

/-- A field gets a text, with the cursor behind it. -/
def fill (f : Field) (src : CString) : Form := (form.copy f src).cursorToEnd f

/-- `ApplyLookupResult`, in the form. -/
def applyLookupResult (res : LookupResultMsg) : Form :=
  if res.generation ≠ form.lookupGeneration then form
  else if stricmpEq res.callsign (form.buffers .callsign) && res.hasData then
    ((((form.fill .workedName res.name).fill .workedGrid res.grid).fill .workedCountry
      res.country).fill .workedCqZone
        (if 0 < res.cqZone then lit (toString res.cqZone) else [])).fill .qth res.qth
  else form

/-- `ApplyRigPollResult`, in the form, with the rig enabled. -/
def applyRigPollResult (res : RigPollResult) : Form :=
  if !res.connected then form
  else
    let form :=
      if form.buffers .callsign ≠ [] then form
      else
        let form := { form with bandIdx := matchIndex bands res.band form.bandIdx }
        ((List.finRange 8).find? fun i => stricmpEq (modes i) res.mode).elim form form.setMode
    if res.freqDisplay ≠ [] ∧ form.focusedField ≠ .freq then form.copy .freq res.freqDisplay
    else form

/-- The fields that `ApplyLoadedQsoDetail` copies from the texts of the contact. -/
def loadedFields : List Field :=
  [.callsign, .stationCallsign, .date, .time, .comment, .notes, .workedOperatorCallsign,
    .workedName, .workedGrid, .workedCountry, .workedDxcc, .workedCqZone, .workedItuZone,
    .workedContinent, .txPower, .submode, .contestId, .serialSent, .serialRcvd, .exchangeSent,
    .exchangeRcvd, .propMode, .satName, .satMode, .iota, .arrlSection, .workedState,
    .workedCounty, .skcc, .qslSentStatus, .qslSentDate, .qslRcvdStatus, .qslRcvdDate, .lotwSent,
    .lotwRcvd, .eqslSent, .eqslRcvd, .qrzLogId, .qrzBookId, .snapshotStationCallsign,
    .snapshotOperatorCallsign, .snapshotProfile, .snapshotOperatorName, .snapshotGrid,
    .snapshotCountry, .snapshotState, .snapshotCounty, .snapshotArrlSection, .snapshotDxcc,
    .snapshotCqZone, .snapshotItuZone, .snapshotLatitude, .snapshotLongitude, .cwRxWpm,
    .cwTranscript, .syncStatus, .createdAt, .updatedAt, .extraFields]

/-- `ApplyLoadedQsoDetail`, in the form. -/
def applyLoadedQsoDetail (frequencies : Frequencies) (now : SystemTime) (loadedId : CString)
    (detail : QsrQsoDetail) : Form :=
  let form := form.clearForm now
  let form := { form with
    bandIdx := matchIndex bands detail.band form.bandIdx
    modeIdx := matchIndex modes detail.mode form.modeIdx
    timestampAutomatic := false
    buffers := fun f =>
      if f ∈ loadedFields then safeStrcpy f.size (detail.texts f) else form.buffers f }
  let form := if detail.freqMhz = [] then form.setDefaultFreq
    else form.write .freq (radioStyle (frequencies.hz detail.freqMhz))
  let rst := fun f => if detail.texts f = [] then lit "59" else detail.texts f
  let form := (form.copy .rstSent (rst .rstSent)).copy .rstRcvd (rst .rstRcvd)
  let form :=
    if detail.texts .timeOff = [] then form else form.copy .timeOff (detail.texts .timeOff)
  let form := { form.copy .localId loadedId with editingLocalId := safeStrcpy 64 loadedId }
  let shown : List Field := [.callsign, .rstSent, .rstRcvd, .freq, .date, .time]
  (shown.foldl cursorToEnd form).setFocusField .callsign

end Form

/-! ### The request -/

/-- `QsrRstReport`. -/
structure QsrRstReport where
  readability : ℤ := 0
  strength : ℤ := 0
  tone : ℤ := 0
  deriving DecidableEq

/-- The digits of a report; a `char` is signed. -/
def parseRst (rst : CString) : QsrRstReport :=
  let digit (i : ℕ) : ℤ := ((rst.getD i 48).toInt8.toInt - 48)
  if rst.length < 2 then {}
  else
    { readability := digit 0, strength := digit 1
      tone := if 3 ≤ rst.length then digit 2 else 0 }

/-- The fields that a request has under their own names. -/
def requestFields : List Field :=
  [.callsign, .stationCallsign, .comment, .notes, .workedOperatorCallsign, .workedName,
    .workedGrid, .workedCountry, .workedDxcc, .workedCqZone, .workedItuZone, .workedContinent,
    .txPower, .submode, .contestId, .serialSent, .serialRcvd, .exchangeSent, .exchangeRcvd,
    .propMode, .satName, .satMode, .iota, .arrlSection, .workedState, .workedCounty, .skcc,
    .qslSentStatus, .qslSentDate, .qslRcvdStatus, .qslRcvdDate, .lotwSent, .lotwRcvd, .eqslSent,
    .eqslRcvd, .qrzLogId, .qrzBookId, .snapshotStationCallsign, .snapshotOperatorCallsign,
    .snapshotProfile, .snapshotOperatorName, .snapshotGrid, .snapshotCountry, .snapshotState,
    .snapshotCounty, .snapshotArrlSection, .snapshotDxcc, .snapshotCqZone, .snapshotItuZone,
    .snapshotLatitude, .snapshotLongitude, .cwRxWpm, .cwTranscript, .extraFields]

/-- `QsrLogQsoRequest`, with the texts of `requestFields` under their fields. -/
structure QsrLogQsoRequest where
  texts : Field → CString
  band : CString
  mode : CString
  datetime : CString
  rstSent : QsrRstReport
  rstRcvd : QsrRstReport
  freqKhz : UInt64
  timeOff : CString

/-- `fill_log_request`. Each text of a request has the size of its field. -/
def fillLogRequest (frequencies : Frequencies) (form : Form) : QsrLogQsoRequest where
  texts := fun f =>
    if f ∈ requestFields then safeStrcpy f.size (form.buffers f) else []
  band := safeStrcpy 8 (bands form.bandIdx)
  mode := safeStrcpy 8 (modes form.modeIdx)
  datetime := safeStrcpy 32 (safeStrcpy 64 (form.buffers .date ++ lit " " ++ form.buffers .time))
  rstSent := parseRst (form.buffers .rstSent)
  rstRcvd := parseRst (form.buffers .rstRcvd)
  freqKhz := if form.buffers .freq = [] then 0 else frequencies.khz (form.buffers .freq)
  timeOff :=
    if form.buffers .timeOff ≠ [] ∧ form.buffers .date ≠ [] then
      safeStrcpy 32 (safeStrcpy 64 (form.buffers .date ++ lit " " ++ form.buffers .timeOff))
    else []

end QsoRipper.Win32
