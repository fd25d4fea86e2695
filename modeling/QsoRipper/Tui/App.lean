/-
QsoRipper/Tui/App.lean

The terminal client as a state machine over key presses and the events of its
background tasks: what each does to the form and to the row that is edited, and what
is sent to the engine.

The status line, the clock and what is only drawn are left out, as are the lookups
that a key starts: their results come as events.
-/
import QsoRipper.Adif.Mapper
import QsoRipper.Lib.Text
import QsoRipper.Lib.FloatText
import QsoRipper.Tui.Form

namespace QsoRipper.Tui

/-! ### Data -/

/-- What is formatted outside this repository: `to_lowercase`, a time as `%Y-%m-%d`, as
`%H:%M` and as `%Y-%m-%d %H:%M:%SZ` if it is in range, and a double. -/
structure Formats where
  toLowercase : String → String
  date : ℤ → Option String
  time : ℤ → Option String
  stamp : ℤ → Option String
  float : Float64 → String

/-- `CallsignInfo`. -/
structure CallsignInfo where
  callsign : String
  name : Option String := none
  qth : Option String := none
  grid : Option String := none
  country : Option String := none
  cqZone : Option ℕ := none
  dxcc : Option ℕ := none

/-- `RigInfo`, with the transmitter power as it is formatted if it is finite and not
negative. -/
structure RigInfo where
  connected : Bool
  frequencyHz : ℕ := 0
  frequencyRxHz : Option ℕ := none
  band : Option String := none
  bandRx : Option String := none
  mode : Option String := none
  txPower : Option String := none

/-- `RecentQso`. -/
structure RecentQso where
  localId : String
  date : String
  utc : String
  callsign : String
  band : String
  mode : String
  rstSent : String
  rstRcvd : String
  country : Option String
  grid : Option String
  name : Option String
  sourceRecord : QsoRecord

/-- `View`. -/
inductive View where
  | logEntry
  | advanced
  | help
  | confirmDeleteQso
  | confirmPurge
  deriving DecidableEq

/-- `App`. -/
structure App where
  view : View := .logEntry
  form : LogForm
  lookupResult : Option CallsignInfo := none
  recentQsos : List RecentQso := []
  lastAutoRigFrequencyMhz : Option String := none
  lastAutoRigTxPower : Option String := none
  rigControlEnabled : Bool := true
  qsoListFocused : Bool := false
  qsoSelected : Option ℕ := none
  editingLocalId : Option String := none
  deleteCandidateId : Option String := none
  searchText : String := ""
  searchFocused : Bool := false
  running : Bool := true
  qsoTimerActive : Bool := false

/-- `LookupEnrichment`: grid, country, CQ zone and DXCC. -/
abbrev LookupEnrichment := Option (Option String × Option String × Option ℕ × Option ℕ)

/-- What a save captures: the id that is edited, the form on screen, the form that is
sent, the enrichment and the record to start from. -/
structure Save where
  editingId : Option String
  form : LogForm
  formSnap : LogForm
  lookup : LookupEnrichment
  baseRecord : Option QsoRecord

/-- `KeyCode`. -/
inductive KeyCode where
  | char (c : Char)
  | f (n : ℕ)
  | enter
  | esc
  | tab
  | backTab
  | backspace
  | delete
  | up
  | down
  | left
  | right
  | home
  | end
  | other
  deriving DecidableEq

/-- A key press with its modifiers. -/
structure KeyEvent where
  code : KeyCode
  control : Bool := false
  alt : Bool := false

/-- `AppEvent`, but for a save, whose completion is `saved`. -/
inductive AppEvent where
  | key (key : KeyEvent)
  | lookupResult (result : Option CallsignInfo)
  | rigSnapshot (rig : Option RigInfo)
  /-- `QsoLogged`, `QsoLogFailed`, `QsoUpdated` and `QsoUpdateFailed`. -/
  | saved (update success : Bool)
  | qsoDeleted
  | qsoDeleteFailed
  | purgeComplete
  | purgeFailed
  | recentQsos (qsos : List RecentQso)
  | qsoNameEnriched (localId name : String)

/-- What a task is started with. -/
inductive Request where
  | save (save : Save)
  | deleteQso (localId : String)
  | purgeDeletedQsos

/-! ### The list -/

/-- `matches_search`, of a text in lower case. -/
def RecentQso.matchesSearch (formats : Formats) (q : RecentQso) (lower : String) : Bool :=
  let found (text : String) : Bool := Text.contains (formats.toLowercase text) lower
  found q.callsign || found q.band || found q.mode || found q.rstSent || found q.rstRcvd
    || found (q.country.getD "") || found (q.grid.getD "") || found (q.name.getD "")
    || found (q.sourceRecord.comment.getD "") || Text.contains q.date lower
    || Text.contains q.utc lower

namespace App

variable (formats : Formats) (now : Now) (app : App)

/-- `filtered_qsos`. -/
def filteredQsos : List RecentQso :=
  if app.searchText = "" then app.recentQsos
  else app.recentQsos.filter fun q => q.matchesSearch formats (formats.toLowercase app.searchText)

/-! ### A new form -/

/-- `LogForm::new`, as the next form. -/
def freshForm : LogForm := .new now { serial := app.form.provenance.serial + 1 }

/-- The form is cleared: Esc. -/
def clearForm : App :=
  { app with
    form := app.freshForm now
    lastAutoRigFrequencyMhz := none
    lastAutoRigTxPower := none
    lookupResult := none
    editingLocalId := none
    qsoTimerActive := false }

/-- A new form with the band and the mode there were. -/
def nextForm : LogForm :=
  { app.freshForm now with bandIdx := app.form.bandIdx, modeIdx := app.form.modeIdx }.onBandChange

/-- `QsoLogged`. -/
def qsoLogged : App :=
  { app with
    form := app.nextForm now
    lastAutoRigFrequencyMhz := none
    lastAutoRigTxPower := none
    lookupResult := none
    qsoTimerActive := false }

/-- `QsoUpdated`: the editing id goes as well. -/
def qsoUpdated : App := { app.qsoLogged now with editingLocalId := none }

end App

/-! ### Loading a row -/

/-- `sync_status_label`. -/
def syncStatusLabel (status : ℤ) : String :=
  match SyncStatus.tryFrom status with
  | some .localOnly => "Local only"
  | some .synced => "Synced"
  | some .modified => "Modified"
  | some .conflict => "Conflict"
  | none => "Unspecified"

/-- `format_qsl_status`. -/
def formatQslStatus (status : ℤ) : String :=
  ((QslStatus.tryFrom status).bind Adif.qslStatusToAdif).getD ""

/-- `format_optional_bool`. -/
def formatOptionalBool : Option Bool → String
  | some true => "Y"
  | some false => "N"
  | none => ""

/-- `format_optional_date` and `format_optional_timestamp`, by the format. -/
def formatOptional (format : ℤ → Option String) (ts : Option Timestamp) : String :=
  (ts.bind fun ts => format ts.seconds).getD ""

/-- `format_extra_fields`; the map is ordered by its keys. -/
def formatExtraFields (extraFields : Std.ExtTreeMap String String) : String :=
  "\n".intercalate (extraFields.toList.map fun entry => entry.1 ++ "=" ++ entry.2)

/-- An optional number. -/
def formatNumber (value : Option ℕ) : String := (value.map toString).getD ""

/-- The frequency that is shown: `frequency_hz`, else `frequency_khz` as a `u64` of Hz. -/
def formatFrequency (src : QsoRecord) : String :=
  ((src.frequencyHz.or (src.frequencyKhz.map fun khz => khz * 1000 % 2 ^ 64)).map
    formatFrequencyMhz).getD ""

/-- The text of a snapshot field. -/
def snapshotText (formats : Formats) (snapshot : StationSnapshot) : Field → String
  | .snapshotProfileName => snapshot.profileName.getD ""
  | .snapshotStationCallsign => snapshot.stationCallsign
  | .snapshotOperatorCallsign => snapshot.operatorCallsign.getD ""
  | .snapshotOperatorName => snapshot.operatorName.getD ""
  | .snapshotGrid => snapshot.grid.getD ""
  | .snapshotCountry => snapshot.country.getD ""
  | .snapshotState => snapshot.state.getD ""
  | .snapshotCounty => snapshot.county.getD ""
  | .snapshotArrlSection => snapshot.arrlSection.getD ""
  | .snapshotDxcc => formatNumber snapshot.dxcc
  | .snapshotCqZone => formatNumber snapshot.cqZone
  | .snapshotItuZone => formatNumber snapshot.ituZone
  | .snapshotLatitude => (snapshot.latitude.map formats.float).getD ""
  | .snapshotLongitude => (snapshot.longitude.map formats.float).getD ""
  | _ => ""

/-- The text that `load_qso_into_form` puts into a field. -/
def loadedText (formats : Formats) (now : Now) (qso : RecentQso) (f : Field) : String :=
  let src := qso.sourceRecord
  match f with
  | .callsign => qso.callsign
  | .frequencyMhz => formatFrequency src
  | .rstSent => qso.rstSent
  | .rstRcvd => qso.rstRcvd
  | .date => (src.utcTimestamp.bind fun ts => formats.date ts.seconds).getD now.date
  | .time => qso.utc
  | .timeOff => formatOptional formats.time src.utcEndTimestamp
  | .stationCallsign => src.stationCallsign
  | .comment => src.comment.getD ""
  | .notes => src.notes.getD ""
  | .txPower => src.txPower.getD ""
  | .submode => src.submode.getD ""
  | .contestId => src.contestId.getD ""
  | .serialSent => src.serialSent.getD ""
  | .serialRcvd => src.serialReceived.getD ""
  | .exchangeSent => src.exchangeSent.getD ""
  | .exchangeRcvd => src.exchangeReceived.getD ""
  | .propMode => src.propMode.getD ""
  | .satName => src.satName.getD ""
  | .satMode => src.satMode.getD ""
  | .iota => src.workedIota.getD ""
  | .arrlSection => src.workedArrlSection.getD ""
  | .workedState => src.workedState.getD ""
  | .workedCounty => src.workedCounty.getD ""
  | .workedOperatorCallsign => src.workedOperatorCallsign.getD ""
  | .workedName => qso.name.getD ""
  | .workedGrid => src.workedGrid.getD ""
  | .workedCountry => src.workedCountry.getD ""
  | .workedDxcc => formatNumber src.workedDxcc
  | .workedCqZone => formatNumber src.workedCqZone
  | .workedItuZone => formatNumber src.workedItuZone
  | .workedContinent => src.workedContinent.getD ""
  | .skcc => src.skcc.getD ""
  | .qslSentStatus => formatQslStatus src.qslSentStatus
  | .qslSentDate => formatOptional formats.date src.qslSentDate
  | .qslReceivedStatus => formatQslStatus src.qslReceivedStatus
  | .qslReceivedDate => formatOptional formats.date src.qslReceivedDate
  | .lotwSent => formatOptionalBool src.lotwSent
  | .lotwReceived => formatOptionalBool src.lotwReceived
  | .eqslSent => formatOptionalBool src.eqslSent
  | .eqslReceived => formatOptionalBool src.eqslReceived
  | .qrzLogId => src.qrzLogid.getD ""
  | .qrzBookId => src.qrzBookid.getD ""
  | .cwDecodeRxWpm => formatNumber src.cwDecodeRxWpm
  | .cwDecodeTranscript => src.cwDecodeTranscript.getD ""
  | .localId => src.localId
  | .syncStatus => syncStatusLabel src.syncStatus
  | .createdAt => formatOptional formats.stamp src.createdAt
  | .updatedAt => formatOptional formats.stamp src.updatedAt
  | .extraFields => formatExtraFields src.extraFields
  | .band | .mode | .qth => ""
  | f => src.stationSnapshot.elim "" fun snapshot => snapshotText formats snapshot f

/-- The form that `load_qso_into_form` makes of a row. -/
def loadedForm (formats : Formats) (now : Now) (advancedTab : AdvancedTab)
    (provenance : Provenance) (qso : RecentQso) : LogForm :=
  let form := LogForm.new now provenance
  { form with
    fieldSelected := true
    advancedTab
    bandIdx := (position bands qso.band).getD form.bandIdx
    modeIdx := (position modes qso.mode).getD form.modeIdx
    rigFrequencyRxHz := qso.sourceRecord.frequencyRxHz
    rigBandRx := (Band.tryFrom qso.sourceRecord.bandRx).bind Adif.bandToAdif
    timestampAutomatic := false
    text := loadedText formats now qso }

namespace App

variable (formats : Formats) (now : Now) (app : App)

/-- `load_qso_into_form`. -/
def loadQsoIntoForm (localId : String) : App :=
  match app.recentQsos.find? (·.localId == localId) with
  | none => app
  | some qso =>
      { app with
        form := loadedForm formats now app.form.advancedTab
          { serial := app.form.provenance.serial + 1, loadedFrom := some localId } qso
        lastAutoRigFrequencyMhz := none
        lastAutoRigTxPower := none
        qsoListFocused := false
        qsoSelected := none
        editingLocalId := some localId
        view := if app.view = .advanced then .logEntry else app.view }

/-- `spawn_log_qso`. -/
def spawnLogQso : Save where
  editingId := app.editingLocalId
  form := app.form
  formSnap :=
    if app.editingLocalId.isNone && app.qsoTimerActive then app.form.setText .timeOff now.time
    else app.form
  lookup := app.lookupResult.map fun info => (info.grid, info.country, info.cqZone, info.dxcc)
  baseRecord := app.editingLocalId.bind fun localId =>
    (app.recentQsos.find? (·.localId == localId)).map (·.sourceRecord)

/-! ### Keys -/

/-- `handle_search_key`. -/
def handleSearchKey (key : KeyEvent) : App :=
  match key.code with
  | .esc => { app with searchText := "", searchFocused := false, qsoSelected := none }
  | .backspace =>
      { app with
        searchText := String.ofList app.searchText.toList.dropLast
        qsoSelected := none }
  | .down | .enter | .f 3 =>
      if app.filteredQsos formats = [] then { app with searchFocused := false }
      else { app with searchFocused := false, qsoListFocused := true, qsoSelected := some 0 }
  | .tab => { app with searchFocused := false }
  | .char c =>
      if key.control || key.alt then app
      else { app with searchText := app.searchText.push c, qsoSelected := none }
  | _ => app

/-- `switch_to_tab`. -/
def switchToTab (tab : AdvancedTab) : App :=
  { app with view := .advanced, form := app.form.openTab tab, qsoListFocused := false }

/-- `handle_qso_list_key`. -/
def handleQsoListKey (key : KeyEvent) : App :=
  let filtered := app.filteredQsos formats
  let max := filtered.length - 1
  let selectedId := app.qsoSelected.bind fun i => filtered[i]?.map (·.localId)
  match key.code with
  | .up => { app with qsoSelected := some (app.qsoSelected.elim 0 (· - 1)) }
  | .down => { app with qsoSelected := some (app.qsoSelected.elim 0 fun i => min (i + 1) max) }
  | .home => if key.control then { app with qsoSelected := some 0 } else app
  | .end => if key.control then { app with qsoSelected := some max } else app
  | .enter =>
      match selectedId with
      | some localId => app.loadQsoIntoForm formats now localId
      | none => { app with qsoListFocused := false }
  | .f 2 =>
      match selectedId with
      | some localId => (app.loadQsoIntoForm formats now localId).switchToTab .core
      | none => { app with qsoListFocused := false }
  | .char 'd' | .char 'D' | .delete =>
      match selectedId with
      | some localId => { app with deleteCandidateId := some localId, view := .confirmDeleteQso }
      | none => app
  | .char 'p' | .char 'P' => { app with view := .confirmPurge }
  | .esc | .f 3 => { app with qsoListFocused := false, qsoSelected := none }
  | _ => app

/-- `handle_confirm_delete_key`. -/
def handleConfirmDeleteKey (key : KeyEvent) : App × Option Request :=
  match key.code with
  | .char 'y' | .char 'Y' | .enter => (app, app.deleteCandidateId.map .deleteQso)
  | .char 'n' | .char 'N' | .esc =>
      ({ app with deleteCandidateId := none, view := .logEntry }, none)
  | _ => (app, none)

/-- `handle_confirm_purge_key`. -/
def handleConfirmPurgeKey (key : KeyEvent) : App × Option Request :=
  match key.code with
  | .char 'y' | .char 'Y' | .enter => (app, some .purgeDeletedQsos)
  | .char 'n' | .char 'N' | .esc => ({ app with view := .logEntry }, none)
  | _ => (app, none)

/-- The fields whose characters become upper case. -/
def upperFields : List Field :=
  [.callsign, .stationCallsign, .workedOperatorCallsign, .snapshotStationCallsign,
    .snapshotOperatorCallsign]

/-- `handle_char_key`. -/
def handleCharKey (c : Char) : App :=
  let focused := app.form.focused
  let form :=
    if focused = .callsign && (app.form.text .callsign == "" || app.form.fieldSelected)
        && app.editingLocalId.isNone && !app.qsoTimerActive then
      app.form.refreshAutomaticTimestamp now
    else app.form
  let form :=
    match focused with
    | .band => form.typeSelectBand c
    | .mode => form.typeSelectMode c
    | f => form.insertCharAtCursor (if f ∈ upperFields then Text.asciiUpperChar c else c)
  { app with form }

/-- `digit_to_tab`. -/
def digitToTab : Char → Option AdvancedTab
  | '1' => some .core
  | '2' => some .lookup
  | '3' => some .qsl
  | '4' => some .contest
  | '5' => some .station
  | '6' => some .transcript
  | '7' => some .metadata
  | _ => none

/-- The field that Alt and a letter jump to, with its tab if it is an advanced one. -/
def jumpTarget : Char → Option (Field × Option AdvancedTab)
  | 'c' => some (.callsign, none)
  | 'b' => some (.band, none)
  | 'm' => some (.mode, none)
  | 's' => some (.rstSent, none)
  | 'r' => some (.rstRcvd, none)
  | 'o' => some (.comment, none)
  | 'n' => some (.notes, none)
  | 'f' => some (.frequencyMhz, none)
  | 'd' => some (.date, none)
  | 't' => some (.time, none)
  | 'e' => some (.timeOff, none)
  | 'q' => some (.qth, none)
  | 'a' => some (.workedName, some .lookup)
  | 'k' => some (.skcc, some .lookup)
  | 'w' => some (.txPower, some .core)
  | 'p' => some (.propMode, some .contest)
  | 'u' => some (.submode, some .core)
  | 'l' => some (.workedGrid, some .lookup)
  | 'v' => some (.workedContinent, some .lookup)
  | 'i' => some (.iota, some .lookup)
  | 'h' => some (.workedState, some .lookup)
  | 'y' => some (.workedCounty, some .lookup)
  | 'x' => some (.arrlSection, some .lookup)
  | 'g' => some (.contestId, some .contest)
  | 'j' => some (.serialSent, some .contest)
  | 'z' => some (.serialRcvd, some .contest)
  | _ => none

/-- `advanced_tab_for_field`, of a field that is jumped to without a tab. -/
def advancedTabForField : Field → AdvancedTab
  | .qth => .station
  | _ => .core

/-- `jump_to_field`. -/
def jumpToField (ch : Char) : App :=
  match digitToTab ch with
  | some tab => app.switchToTab tab
  | none =>
      let select (f : Field) : App :=
        { app with
          form := { app.form with focused := f, fieldSelected := true }
          qsoListFocused := false }
      if app.view = .advanced ∧ app.form.advancedTab = .contest ∧ ch.toLower = 'o' then
        select .exchangeSent
      else if app.view = .advanced ∧ app.form.advancedTab = .contest ∧ ch.toLower = 'n' then
        select .exchangeRcvd
      else
        match jumpTarget ch.toLower with
        | none => app
        | some (target, tab) =>
            let tab := if tab.isNone ∧ app.view = .advanced then some (advancedTabForField target)
              else tab
            let app := tab.elim app app.switchToTab
            { app with form := app.form.focus target, qsoListFocused := false }

/-- The keys of the form. -/
def handleFormKey (key : KeyEvent) : App × Option Request :=
  let edit (form : LogForm) : App × Option Request := ({ app with form }, none)
  let advanced := app.view == .advanced
  -- back to the basic view
  let leave : App × Option Request :=
    ({ app with
      view := .logEntry
      form := { app.form with focused := .callsign, fieldSelected := false } }, none)
  match key.code with
  | .tab =>
      if advanced && key.control then edit (app.form.openTab app.form.advancedTab.next)
      else edit (app.form.focus (app.form.fieldAfter
        (if advanced then app.form.advancedTab.fields else fieldOrder)))
  | .backTab =>
      if advanced && key.control then edit (app.form.openTab app.form.advancedTab.prev)
      else edit (app.form.focus (app.form.fieldBefore
        (if advanced then app.form.advancedTab.fields else fieldOrder)))
  | .f 1 => ({ app with view := .help }, none)
  | .f 2 =>
      match app.view with
      | .advanced => leave
      | .logEntry =>
          ({ app with
            view := .advanced
            form := { app.form with
              advancedTab := .core, focused := .callsign, fieldSelected := true } }, none)
      | _ => (app, none)
  | .f 3 =>
      (if app.filteredQsos formats = [] then app
        else { app with qsoListFocused := true, qsoSelected := some 0 }, none)
  | .f 4 => ({ app with searchFocused := true, qsoListFocused := false }, none)
  | .f 5 => if advanced then edit (app.form.openTab app.form.advancedTab.next) else (app, none)
  | .f 6 => if advanced then edit (app.form.openTab app.form.advancedTab.prev) else (app, none)
  | .f 7 =>
      ({ app with qsoTimerActive := true, form := app.form.setExplicitTimestamp now }, none)
  | .f 10 => (app, some (.save (app.spawnLogQso now)))
  | .enter => (app, if key.alt then some (.save (app.spawnLogQso now)) else none)
  | .home => edit app.form.moveCursorHome
  | .end => edit app.form.moveCursorEnd
  | .esc =>
      match app.view with
      | .advanced => leave
      | .logEntry => (app.clearForm now, none)
      | _ => (app, none)
  | .left =>
      edit <| match app.form.focused with
        | .band => app.form.setBand (app.form.bandIdx - 1)
        | .mode => app.form.setMode (app.form.modeIdx - 1)
        | _ => app.form.moveCursorLeft
  | .right =>
      edit <| match app.form.focused with
        | .band => app.form.setBand (app.form.bandIdx + 1)
        | .mode => app.form.setMode (app.form.modeIdx + 1)
        | _ => app.form.moveCursorRight
  | .backspace =>
      if key.control then
        ({ app with
          form := app.form.clearFocusedTextField
          lookupResult := if app.form.focused = .callsign then none else app.lookupResult }, none)
      else edit app.form.backspaceAtCursor
  | .delete =>
      if key.control then
        ({ app with
          form := app.form.clearFocusedTextField
          lookupResult := if app.form.focused = .callsign then none else app.lookupResult }, none)
      else edit app.form.deleteAtCursor
  | .char c => (if key.alt then app.jumpToField c else app.handleCharKey now c, none)
  | _ => (app, none)

/-- `handle_key`. -/
def handleKey (key : KeyEvent) : App × Option Request :=
  if key.control && (key.code == .char 'q' || key.code == .char 'Q') then
    ({ app with running := false }, none)
  else if key.code = .f 8 then ({ app with rigControlEnabled := !app.rigControlEnabled }, none)
  else
    match app.view with
    | .help => ({ app with view := .logEntry }, none)
    | .confirmDeleteQso => app.handleConfirmDeleteKey key
    | .confirmPurge => app.handleConfirmPurgeKey key
    | _ =>
        if app.searchFocused then (app.handleSearchKey formats key, none)
        else if app.qsoListFocused then (app.handleQsoListKey formats now key, none)
        else app.handleFormKey formats now key

/-! ### Events -/

/-- A field that is empty gets what the lookup found. -/
def fillEmpty (form : LogForm) (f : Field) (value : Option String) : LogForm :=
  match value with
  | some value => if form.text f = "" then form.setText f value else form
  | none => form

/-- `apply_lookup_result`. -/
def applyLookupResult (result : Option CallsignInfo) : App :=
  let currentCall := Text.toUppercase (Text.trim (app.form.text .callsign))
  match result with
  | none => if currentCall = "" then { app with lookupResult := none } else app
  | some info =>
      if Text.eqIgnoreAsciiCase (Text.trim info.callsign) currentCall then
        let form := fillEmpty (fillEmpty app.form .qth info.qth) .workedName info.name
        let form := fillEmpty (fillEmpty form .workedGrid info.grid) .workedCountry info.country
        let form := fillEmpty (fillEmpty form .workedCqZone (info.cqZone.map toString)) .workedDxcc
          (info.dxcc.map toString)
        { app with form, lookupResult := some info }
      else app

/-- The band and the mode of the rig, for a form without a callsign. -/
def tuneForm (form : LogForm) (info : RigInfo) : LogForm :=
  if form.text .callsign ≠ "" then form
  else
    { form with
      bandIdx := (info.band.bind (position bands)).getD form.bandIdx
      modeIdx := (info.mode.bind (position modes)).getD form.modeIdx }

/-- The frequency of the rig. -/
def trackFrequency (info : RigInfo) : App :=
  let current := app.form.text .frequencyMhz
  if 0 < info.frequencyHz
      ∧ (app.form.text .callsign = "" ∨ current = "" ∨ app.lastAutoRigFrequencyMhz = some current)
  then
    { app with
      form := app.form.setText .frequencyMhz (formatFrequencyMhz info.frequencyHz)
      lastAutoRigFrequencyMhz := some (formatFrequencyMhz info.frequencyHz) }
  else app

/-- The reports, the split and the power, for a form without a callsign. -/
def trackDefaults (info : RigInfo) : App :=
  if app.form.text .callsign ≠ "" then app
  else
    let form := { app.form.onModeChange with
      rigFrequencyRxHz := info.frequencyRxHz, rigBandRx := info.bandRx }
    let powerStillAuto := app.lastAutoRigTxPower = some (form.text .txPower)
    match info.txPower with
    | some formatted =>
        if form.text .txPower = "" ∨ powerStillAuto then
          { app with form := form.setText .txPower formatted, lastAutoRigTxPower := some formatted }
        else { app with form }
    | none =>
        if powerStillAuto then
          { app with form := form.setText .txPower "", lastAutoRigTxPower := none }
        else { app with form }

/-- `apply_rig_snapshot`. -/
def applyRigSnapshot (rig : Option RigInfo) : App :=
  match rig with
  | none => app
  | some info =>
      if info.connected && app.rigControlEnabled && app.editingLocalId.isNone then
        (trackFrequency { app with form := tuneForm app.form info } info).trackDefaults info
      else app

/-- `RecentQsos`: the selection is clamped. -/
def setRecentQsos (qsos : List RecentQso) : App :=
  let app := { app with recentQsos := qsos }
  let filtered := app.filteredQsos formats
  match app.qsoSelected with
  | none => app
  | some sel =>
      if filtered.length - 1 < sel then
        { app with qsoSelected := if filtered = [] then none else some (filtered.length - 1) }
      else app

/-- The deletion or the purge is over: the list is left. -/
def leaveList : App :=
  { app with view := .logEntry, qsoListFocused := false, qsoSelected := none }

/-- `handle_event`. -/
def handleEvent : AppEvent → App × Option Request
  | .key key => app.handleKey formats now key
  | .lookupResult result => (app.applyLookupResult result, none)
  | .rigSnapshot rig => (app.applyRigSnapshot rig, none)
  | .saved update success =>
      (if success then if update then app.qsoUpdated now else app.qsoLogged now else app, none)
  | .qsoDeleted => ({ app.leaveList with deleteCandidateId := none }, none)
  | .qsoDeleteFailed => ({ app with deleteCandidateId := none, view := .logEntry }, none)
  | .purgeComplete => (app.leaveList, none)
  | .purgeFailed => ({ app with view := .logEntry }, none)
  | .recentQsos qsos => (app.setRecentQsos formats qsos, none)
  | .qsoNameEnriched localId name =>
      ({ app with
        -- the first row with the id
        recentQsos :=
          match app.recentQsos.findIdx? (·.localId == localId) with
          | some i => app.recentQsos.modify i fun q => { q with name := some name }
          | none => app.recentQsos }, none)

end App

/-- `App::new`. -/
def App.new (now : Now) : App := { form := .new now {} }

end QsoRipper.Tui
