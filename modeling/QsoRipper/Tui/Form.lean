/-
QsoRipper/Tui/Form.lean

The QSO entry form of the terminal client: its fields with their texts, and how keys
move between them and edit them.

The texts of the fields are one map.  A form also says which form it is, for the
record of a run; nothing reads that.
-/
import Mathlib

namespace QsoRipper.Tui

/-! ### Fields and tabs -/

/-- `Field`. -/
inductive Field where
  | callsign
  | band
  | mode
  | rstSent
  | rstRcvd
  | comment
  | notes
  | frequencyMhz
  | date
  | time
  | timeOff
  | stationCallsign
  | qth
  | txPower
  | submode
  | contestId
  | serialSent
  | serialRcvd
  | exchangeSent
  | exchangeRcvd
  | propMode
  | satName
  | satMode
  | iota
  | arrlSection
  | workedState
  | workedCounty
  | workedOperatorCallsign
  | workedName
  | workedGrid
  | workedCountry
  | workedDxcc
  | workedCqZone
  | workedItuZone
  | workedContinent
  | skcc
  | qslSentStatus
  | qslSentDate
  | qslReceivedStatus
  | qslReceivedDate
  | lotwSent
  | lotwReceived
  | eqslSent
  | eqslReceived
  | qrzLogId
  | qrzBookId
  | snapshotProfileName
  | snapshotStationCallsign
  | snapshotOperatorCallsign
  | snapshotOperatorName
  | snapshotGrid
  | snapshotCountry
  | snapshotState
  | snapshotCounty
  | snapshotArrlSection
  | snapshotDxcc
  | snapshotCqZone
  | snapshotItuZone
  | snapshotLatitude
  | snapshotLongitude
  | cwDecodeRxWpm
  | cwDecodeTranscript
  | localId
  | syncStatus
  | createdAt
  | updatedAt
  | extraFields
  deriving DecidableEq

/-- `FIELD_ORDER`. -/
def fieldOrder : List Field :=
  [.callsign, .band, .mode, .rstSent, .rstRcvd, .comment, .notes, .frequencyMhz, .date, .time,
    .timeOff, .qth]

/-- A text field that can be edited; `current_field_text` of the others is `None`. -/
def Field.isText : Field → Bool
  | .band | .mode | .localId | .syncStatus | .createdAt | .updatedAt => false
  | _ => true

/-- `is_cycle_field`. -/
def Field.isCycle : Field → Bool
  | .band | .mode => true
  | _ => false

/-- `AdvancedTab`. -/
inductive AdvancedTab where
  | core
  | lookup
  | qsl
  | contest
  | station
  | transcript
  | metadata
  deriving DecidableEq

namespace AdvancedTab

/-- `AdvancedTab::next`. -/
def next : AdvancedTab → AdvancedTab
  | core => lookup
  | lookup => qsl
  | qsl => contest
  | contest => station
  | station => transcript
  | transcript => metadata
  | metadata => core

/-- `AdvancedTab::prev`. -/
def prev : AdvancedTab → AdvancedTab
  | core => metadata
  | lookup => core
  | qsl => lookup
  | contest => qsl
  | station => contest
  | transcript => station
  | metadata => transcript

/-- `AdvancedTab::fields`. -/
def fields : AdvancedTab → List Field
  | core =>
      [.callsign, .date, .time, .timeOff, .stationCallsign, .band, .mode, .frequencyMhz, .rstSent,
        .rstRcvd, .txPower, .submode, .comment, .notes, .cwDecodeRxWpm]
  | lookup =>
      [.workedOperatorCallsign, .workedName, .workedGrid, .workedCountry, .workedDxcc,
        .workedState, .workedCqZone, .workedItuZone, .workedCounty, .iota, .workedContinent,
        .arrlSection, .skcc]
  | qsl =>
      [.qslSentStatus, .qslSentDate, .qslReceivedStatus, .qslReceivedDate, .lotwSent,
        .lotwReceived, .eqslSent, .eqslReceived, .qrzLogId, .qrzBookId]
  | contest =>
      [.contestId, .serialSent, .serialRcvd, .exchangeSent, .exchangeRcvd, .propMode, .satName,
        .satMode]
  | station =>
      [.snapshotStationCallsign, .snapshotOperatorCallsign, .snapshotOperatorName, .snapshotGrid,
        .snapshotCountry, .snapshotState, .snapshotCounty, .snapshotProfileName,
        .snapshotArrlSection, .snapshotDxcc, .snapshotCqZone, .snapshotItuZone,
        .snapshotLatitude, .snapshotLongitude]
  | transcript => [.cwDecodeRxWpm, .cwDecodeTranscript]
  | metadata => [.localId, .syncStatus, .createdAt, .updatedAt, .extraFields]

/-- `AdvancedTab::first_field`. -/
def firstField (tab : AdvancedTab) : Field := tab.fields.headD .callsign

end AdvancedTab

/-- Every field is in the basic view or on a tab. -/
theorem Field.mem_views (f : Field) :
    f ∈ fieldOrder ++ [.core, .lookup, .qsl, .contest, .station, .transcript, .metadata].flatMap
      AdvancedTab.fields := by
  cases f <;> decide

instance : Fintype Field := .ofList _ Field.mem_views

/-! ### Bands and modes -/

scoped instance neZero_bands : NeZero 13 := ⟨Nat.succ_ne_zero 12⟩

scoped instance neZero_modes : NeZero 8 := ⟨Nat.succ_ne_zero 7⟩

/-- `BANDS`. -/
def bands : Fin 13 → String :=
  !["160M", "80M", "60M", "40M", "30M", "20M", "17M", "15M", "12M", "10M", "6M", "2M", "70CM"]

/-- `MODES`. -/
def modes : Fin 8 → String := !["SSB", "CW", "FT8", "FT4", "RTTY", "PSK31", "AM", "FM"]

/-- `mhz_to_hz` of `BAND_DEFAULT_FREQS`. -/
def bandDefaultFreqs : Fin 13 → ℕ :=
  ![1900000, 3750000, 5330000, 7150000, 10125000, 14225000, 18100000, 21200000, 24940000,
    28400000, 50125000, 146520000, 446000000]

/-- The position of a text. -/
def position {n : ℕ} (texts : Fin n → String) (text : String) : Option (Fin n) :=
  (List.finRange n).find? fun i => texts i == text

/-- The next index whose text starts with this character, if one does. -/
def typeSelect {n : ℕ} (texts : Fin n → String) (ch : Char) (idx : Fin n) : Option (Fin n) :=
  let found := (List.finRange n).filter fun i =>
    ((texts i).toList.head?.map Char.toLower) == some ch.toLower
  if found = [] then none
  else found[if idx ∈ found then (found.idxOf idx + 1) % found.length else 0]?

/-- `"{n:03}"`. -/
def threeDigits (n : ℕ) : String :=
  String.ofList (List.replicate (3 - (toString n).length) '0') ++ toString n

/-- `format_frequency_mhz`. -/
def formatFrequencyMhz (hz : ℕ) : String :=
  toString (hz / 1000000) ++ "." ++ threeDigits (hz % 1000000 / 1000) ++ "."
    ++ threeDigits (hz % 1000)

/-- `default_rst_for_mode`. -/
def defaultRstForMode (modeIdx : Fin 8) : String :=
  if modes modeIdx ∈ ["SSB", "AM", "FM"] then "59" else "599"

/-! ### The form -/

/-- The clock, as `%Y-%m-%d` and `%H:%M`. -/
structure Now where
  date : String
  time : String

/-- Which form it is: the number of forms before it, and the row it was loaded from. -/
structure Provenance where
  serial : ℕ := 0
  loadedFrom : Option String := none
  deriving DecidableEq

/-- `LogForm`. -/
structure LogForm where
  focused : Field := .callsign
  fieldSelected : Bool := false
  fieldCursor : ℕ := 0
  advancedTab : AdvancedTab := .core
  bandIdx : Fin 13 := 5
  modeIdx : Fin 8 := 0
  rigFrequencyRxHz : Option ℕ := none
  rigBandRx : Option String := none
  timestampAutomatic : Bool := true
  text : Field → String := fun _ => ""
  provenance : Provenance := {}

namespace LogForm

variable (form : LogForm)

def setText (f : Field) (value : String) : LogForm :=
  { form with text := Function.update form.text f value }

/-- The date and the time are set. -/
def setTimestamp (now : Now) : LogForm := (form.setText .date now.date).setText .time now.time

/-- `on_mode_change`. -/
def onModeChange : LogForm :=
  let rst := defaultRstForMode form.modeIdx
  (form.setText .rstSent rst).setText .rstRcvd rst

/-- `on_band_change`. -/
def onBandChange : LogForm :=
  (form.setText .frequencyMhz (formatFrequencyMhz (bandDefaultFreqs form.bandIdx))).onModeChange

/-- `LogForm::new`. -/
def new (now : Now) (provenance : Provenance) : LogForm :=
  (setTimestamp { provenance } now).onBandChange

/-- `refresh_automatic_timestamp`. -/
def refreshAutomaticTimestamp (now : Now) : LogForm :=
  if form.timestampAutomatic then form.setTimestamp now else form

/-- `set_explicit_timestamp`. -/
def setExplicitTimestamp (now : Now) : LogForm :=
  { form.setTimestamp now with timestampAutomatic := false }

/-! ### Moving -/

/-- `focused_text_len`. -/
def focusedTextLen : ℕ := if form.focused.isText then (form.text form.focused).length else 0

/-- A field is focused and selected. -/
def focus (f : Field) : LogForm :=
  let form := { form with focused := f, fieldSelected := true }
  { form with fieldCursor := form.focusedTextLen }

/-- The field after the focused one, wrapping around. -/
def fieldAfter (fields : List Field) : Field :=
  let idx := if form.focused ∈ fields then fields.idxOf form.focused else 0
  fields.getD ((idx + 1) % fields.length) .callsign

/-- The field before the focused one, wrapping around. -/
def fieldBefore (fields : List Field) : Field :=
  let idx := if form.focused ∈ fields then fields.idxOf form.focused else 0
  fields.getD (if idx = 0 then fields.length - 1 else idx - 1) .callsign

/-- `next_advanced_tab` and `prev_advanced_tab`. -/
def openTab (tab : AdvancedTab) : LogForm := focus { form with advancedTab := tab } tab.firstField

/-- `move_cursor_left`. -/
def moveCursorLeft : LogForm :=
  if form.focused.isText then
    { form with
      fieldCursor := if form.fieldSelected then 0 else form.fieldCursor - 1
      fieldSelected := false }
  else form

/-- `move_cursor_right`. -/
def moveCursorRight : LogForm :=
  let len := form.focusedTextLen
  if form.focused.isText then
    { form with
      fieldCursor := if form.fieldSelected then len else min (form.fieldCursor + 1) len
      fieldSelected := false }
  else form

/-- `move_cursor_home`. -/
def moveCursorHome : LogForm :=
  if form.focused.isText then { form with fieldCursor := 0, fieldSelected := false } else form

/-- `move_cursor_end`. -/
def moveCursorEnd : LogForm :=
  if form.focused.isText then
    { form with fieldCursor := form.focusedTextLen, fieldSelected := false }
  else form

/-! ### Editing -/

/-- The date and the time are no longer automatic once they are edited. -/
def touch : LogForm :=
  if form.focused = .date ∨ form.focused = .time then { form with timestampAutomatic := false }
  else form

/-- The text of the focused field is replaced. -/
def setFocusedText (value : List Char) : LogForm :=
  if form.focused.isText then form.setText form.focused (String.ofList value) else form

/-- The text of the focused field is cleared. -/
def clearFocused : LogForm :=
  { form.setFocusedText [] with fieldCursor := 0, fieldSelected := false }

/-- `insert_char_at_cursor`. -/
def insertCharAtCursor (ch : Char) : LogForm :=
  let form := form.touch
  let form := if form.fieldSelected then form.clearFocused else form
  let text := (form.text form.focused).toList
  let cursor := form.fieldCursor
  if form.focused.isText then
    { form.setFocusedText (text.take cursor ++ ch :: text.drop cursor) with
      fieldCursor := cursor + 1 }
  else form

/-- `backspace_at_cursor`. -/
def backspaceAtCursor : LogForm :=
  if form.fieldSelected then form.touch.clearFocused
  else if form.fieldCursor = 0 then form
  else
    let form := form.touch
    let cursor := form.fieldCursor
    if form.focused.isText then
      { form.setFocusedText ((form.text form.focused).toList.eraseIdx (cursor - 1)) with
        fieldCursor := cursor - 1 }
    else form

/-- `delete_at_cursor`. -/
def deleteAtCursor : LogForm :=
  if form.fieldSelected then form.touch.clearFocused
  else
    let form := if form.fieldCursor < form.focusedTextLen then form.touch else form
    form.setFocusedText ((form.text form.focused).toList.eraseIdx form.fieldCursor)

/-- `clear_focused_text_field`. -/
def clearFocusedTextField : LogForm := form.touch.clearFocused

/-- The band changes. -/
def setBand (bandIdx : Fin 13) : LogForm := { form with bandIdx }.onBandChange

/-- The mode changes. -/
def setMode (modeIdx : Fin 8) : LogForm := { form with modeIdx }.onModeChange

/-- `type_select_band`. -/
def typeSelectBand (ch : Char) : LogForm :=
  (typeSelect bands ch form.bandIdx).elim form form.setBand

/-- `type_select_mode`. -/
def typeSelectMode (ch : Char) : LogForm :=
  (typeSelect modes ch form.modeIdx).elim form form.setMode

end LogForm

end QsoRipper.Tui
