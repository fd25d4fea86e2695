/-
QsoRipper/Win32/Window.lean

The window of the Win32 client as a state machine: the form, the list of recent
contacts and the background tasks, driven by keys, the mouse and the messages that
the tasks post.

A click is given by what it hits.  What the system answers while an input is
handled (the clock, whether a task starts, the output of the CLI) comes with the
input.
-/
import QsoRipper.Win32.Form

namespace QsoRipper.Win32

/-! ### State -/

/-- `RecentQso`. -/
structure RecentQso where
  callsign : CString
  localId : CString
  deriving DecidableEq

/-- `BackendMode`. -/
inductive BackendMode where
  | cli
  | ffi
  deriving DecidableEq

scoped instance neZero_tabs : NeZero 7 := ⟨Nat.succ_ne_zero 6⟩

/-- What has the focus, and what is open. -/
structure Panes where
  qsoListFocused : Bool := false
  searchFocused : Bool := false
  helpVisible : Bool := false
  advancedView : Bool := false
  advancedTab : Fin 7 := 0
  confirmDeleteVisible : Bool := false

/-- The list of recent contacts, with the selection: -1 is none. -/
structure QsoList where
  recentQsos : List RecentQso := []
  qsoSelected : ℤ := -1
  qsoPageSize : ℕ := 0

/-- What is under way in the background. -/
structure Tasks where
  logInProgress : Bool := false
  qsoDetailLoading : Bool := false
  qsoDeleteInProgress : Bool := false
  rigEnabled : Bool := true

/-- `AppState`, with the mode of the backend. -/
structure AppState where
  backend : BackendMode := .ffi
  form : Form := {}
  panes : Panes := {}
  list : QsoList := {}
  tasks : Tasks := {}

namespace QsoList

variable (list : QsoList)

/-- The selected row, if the selection is an index of the list. -/
def selectedRow : Option RecentQso :=
  if list.qsoSelected < 0 then none else list.recentQsos[list.qsoSelected.toNat]?

def select (qsoSelected : ℤ) : QsoList := { list with qsoSelected }

/-- The number of rows, as an `int`. -/
def count : ℤ := list.recentQsos.length

end QsoList

/-! ### Inputs and requests -/

/-- A virtual key. -/
inductive Key where
  | letter (c : Char)
  | digit (n : ℕ)
  | function (n : ℕ)
  | escape
  | tab
  | enter
  | back
  | delete
  | up
  | down
  | left
  | right
  | home
  | end
  | pageUp
  | pageDown
  | other
  deriving DecidableEq

/-- A key press with the modifiers that are down. -/
structure KeyPress where
  vk : Key
  alt : Bool := false
  ctrl : Bool := false
  shift : Bool := false

/-- What the system answers while an input is handled. -/
structure Answers where
  now : SystemTime
  /-- A background task is allocated and starts. -/
  starts : Bool := true
  /-- The CLI command succeeds. -/
  succeeds : Bool := true
  /-- The contact that the CLI prints. -/
  detail : QsrQsoDetail := {}

/-- `LogQsoResultMsg`. -/
structure LogQsoResultMsg where
  isUpdate : Bool
  success : Bool

/-- `QsoDetailLoadResult`. -/
structure QsoDetailLoadResult where
  loaded : Bool
  localId : CString
  detail : QsrQsoDetail := {}

/-- What a click hits. -/
inductive Hit where
  | advancedTab (tab : Fin 7)
  | advancedField (f : Field)
  | basicField (f : Field) (pos : ℕ)
  | listRow (row : ℕ)
  | listHeader

/-- What the window procedure is called with. -/
inductive Input where
  | key (press : KeyPress)
  /-- A UTF-16 unit. -/
  | char (ch : ℕ)
  | click (hit : Hit)
  | doubleClick (row : ℕ)
  | wheel (up : Bool)
  | menuHelp
  /-- The list is painted with room for these rows. -/
  | paint (rows : ℕ)
  | lookupDone (res : LookupResultMsg)
  | rigDone (res : Option RigPollResult)
  | qsoLoaded (qsos : Option (List RecentQso))
  | logDone (res : Option LogQsoResultMsg)
  | qsoDetailDone (res : Option QsoDetailLoadResult)
  | qsoDeleteDone (ok : Option Bool)

/-- What is sent to the engine, by a task or through the CLI. -/
inductive Request where
  | logQso (req : QsrLogQsoRequest)
  | updateQso (localId : CString) (req : QsrLogQsoRequest)
  | cliLog (arguments : List (String × CString))
  | cliUpdate (localId : CString) (arguments : List (String × CString))
  | getQso (localId : CString)
  | deleteQso (localId : CString)

/-- `InitState`, with the backend that was found. -/
def AppState.initState (backend : BackendMode) (now : SystemTime) : AppState where
  backend
  form := (Form.setDefaultFreq ((Form.write {} .rstSent (lit "59")).write .rstRcvd
    (lit "59"))).setCurrentDateTime now

/-! ### The advanced view -/

/-- `ADV_TABS`. -/
def advTabs : Fin 7 → List Field :=
  ![[.callsign, .date, .time, .timeOff, .band, .mode, .freq, .rstSent, .rstRcvd,
      .stationCallsign, .txPower, .submode, .comment, .notes],
    [.workedOperatorCallsign, .workedName, .workedGrid, .workedCountry, .workedDxcc,
      .workedState, .workedCqZone, .workedItuZone, .workedCounty, .iota, .workedContinent,
      .arrlSection, .skcc],
    [.qslSentStatus, .qslSentDate, .qslRcvdStatus, .qslRcvdDate, .lotwSent, .lotwRcvd,
      .eqslSent, .eqslRcvd, .qrzLogId, .qrzBookId],
    [.contestId, .serialSent, .serialRcvd, .exchangeSent, .exchangeRcvd, .propMode, .satName,
      .satMode],
    [.snapshotStationCallsign, .snapshotOperatorCallsign, .snapshotProfile,
      .snapshotOperatorName, .snapshotGrid, .snapshotCountry, .snapshotState, .snapshotCounty,
      .snapshotArrlSection, .snapshotDxcc, .snapshotCqZone, .snapshotItuZone,
      .snapshotLatitude, .snapshotLongitude],
    [.cwRxWpm, .cwTranscript],
    [.localId, .syncStatus, .createdAt, .updatedAt, .extraFields]]

/-- `AdvTabForField`. -/
def advTabForField (f : Field) : Option (Fin 7) :=
  (List.finRange 7).find? fun tab => decide (f ∈ advTabs tab)

/-- The first field of a tab. -/
def firstField (tab : Fin 7) : Field := (advTabs tab).headD .callsign

namespace AppState

variable (frequencies : Frequencies) (answers : Answers) (s : AppState)

/-- The form has the focus. -/
def focusForm : AppState :=
  { s with panes := { s.panes with qsoListFocused := false, searchFocused := false } }

/-- `ClearForm`. -/
def clearForm : AppState := { s.focusForm with form := s.form.clearForm answers.now }

/-- `SetAdvancedTab`. -/
def setAdvancedTab (tab : Fin 7) : AppState :=
  { s with
    panes := { s.panes with advancedTab := tab }
    form := s.form.setFocusField (firstField tab) }

/-- The focus goes back to a field of the basic view. -/
def focusBasic : AppState :=
  if s.form.focusedField ∈ Field.basic then s
  else { s with form := s.form.setFocusField .callsign }

/-! ### Saving, loading and deleting -/

/-- The arguments of the CLI; the empty ones are left out. -/
def cliArguments (form : Form) : List (String × CString) :=
  [("--call", form.buffers .callsign), ("--band", bands form.bandIdx),
    ("--mode", modes form.modeIdx),
    ("--datetime", safeStrcpy 64 (form.buffers .date ++ lit " " ++ form.buffers .time)),
    ("--rst-sent", form.buffers .rstSent), ("--rst-rcvd", form.buffers .rstRcvd),
    ("--freq", if form.buffers .freq = [] then []
      else lit (toString (frequencies.khz (form.buffers .freq)).toNat)),
    ("--comment", form.buffers .comment), ("--notes", form.buffers .notes),
    ("--name", form.buffers .workedName), ("--power", form.buffers .txPower),
    ("--submode", form.buffers .submode), ("--contest", form.buffers .contestId),
    ("--serial-sent", form.buffers .serialSent), ("--serial-rcvd", form.buffers .serialRcvd),
    ("--exchange-sent", form.buffers .exchangeSent),
    ("--exchange-rcvd", form.buffers .exchangeRcvd), ("--prop-mode", form.buffers .propMode),
    ("--sat-name", form.buffers .satName), ("--sat-mode", form.buffers .satMode),
    ("--iota", form.buffers .iota), ("--arrl-section", form.buffers .arrlSection),
    ("--state", form.buffers .workedState), ("--county", form.buffers .workedCounty),
    ("--skcc", form.buffers .skcc),
    ("--time-off", if form.buffers .timeOff ≠ [] ∧ form.buffers .date ≠ [] then
      safeStrcpy 64 (form.buffers .date ++ lit " " ++ form.buffers .timeOff) else [])].filter
    fun argument => !argument.2.isEmpty

/-- `LogQso`. -/
def logQso : AppState × Option Request :=
  if s.form.buffers .callsign = [] then (s, none)
  else
    let isUpdate := s.form.editingLocalId ≠ []
    let form :=
      if ¬ isUpdate ∧ s.form.qsoTimerActive ∧ s.form.buffers .timeOff = [] then
        s.form.copy .timeOff answers.now.time
      else s.form
    let s := { s with form }
    match s.backend with
    | .ffi =>
        if s.tasks.logInProgress ∨ ¬ answers.starts then (s, none)
        else
          let req := fillLogRequest frequencies form
          ({ s with tasks := { s.tasks with logInProgress := true } },
            some (if isUpdate then .updateQso form.editingLocalId req else .logQso req))
    | .cli =>
        let arguments := cliArguments frequencies form
        -- the form is cleared whether the command succeeds or not
        (s.clearForm answers,
          some (if isUpdate then .cliUpdate form.editingLocalId arguments else .cliLog arguments))

/-- `ApplyLoadedQsoDetail`. -/
def applyLoadedQsoDetail (localId : CString) (detail : QsrQsoDetail) : AppState :=
  { s.focusForm with form := s.form.applyLoadedQsoDetail frequencies answers.now localId detail }

/-- `LoadSelectedQso`. -/
def loadSelectedQso : AppState × Option Request :=
  match s.list.selectedRow with
  | none => (s, none)
  | some q =>
      if q.localId = [] then (s, none)
      else
        match s.backend with
        | .ffi =>
            if s.tasks.qsoDetailLoading ∨ ¬ answers.starts then (s, none)
            else ({ s with tasks := { s.tasks with qsoDetailLoading := true } },
              some (.getQso q.localId))
        | .cli =>
            (if answers.succeeds then
              s.applyLoadedQsoDetail frequencies answers q.localId answers.detail else s,
              some (.getQso q.localId))

/-- `DeleteSelectedQso`. -/
def deleteSelectedQso : AppState × Option Request :=
  match s.list.selectedRow with
  | none => (s, none)
  | some q =>
      if q.localId = [] then (s, none)
      else
        match s.backend with
        | .ffi =>
            if s.tasks.qsoDeleteInProgress ∨ ¬ answers.starts then (s, none)
            else ({ s with tasks := { s.tasks with qsoDeleteInProgress := true } },
              some (.deleteQso q.localId))
        | .cli =>
            ({ s with
              list := s.list.select (-1)
              panes := { s.panes with confirmDeleteVisible := false } },
              some (.deleteQso q.localId))

/-! ### Keys -/

/-- `ToggleAdvancedView`. -/
def toggleAdvancedView : AppState × Option Request :=
  if !s.panes.advancedView && s.panes.qsoListFocused && s.list.selectedRow.isSome then
    loadSelectedQso frequencies answers
      { s.focusForm with
        panes := { s.focusForm.panes with advancedView := true, advancedTab := 0 } }
  else
    let advancedView := !s.panes.advancedView
    let s := { s.focusForm with panes := { s.focusForm.panes with advancedView } }
    if advancedView then
      match advTabForField s.form.focusedField with
      | some tab => ({ s with panes := { s.panes with advancedTab := tab } }, none)
      | none => ({ s with form := s.form.setFocusField (firstField s.panes.advancedTab) }, none)
    else (s.focusBasic, none)

/-- The field that Alt and a letter jump to. -/
def altField : Char → Option Field
  | 'C' => some .callsign
  | 'B' => some .band
  | 'M' => some .mode
  | 'S' => some .rstSent
  | 'R' => some .rstRcvd
  | 'O' => some .comment
  | 'N' => some .notes
  | 'Z' => some .freq
  | 'D' => some .date
  | 'T' => some .time
  | 'A' => some .workedName
  | 'I' => some .timeOff
  | 'Q' => some .qth
  | 'W' => some .txPower
  | 'U' => some .submode
  | 'E' => some .serialSent
  | 'P' => some .propMode
  | 'K' => some .skcc
  | _ => none

/-- The shortcuts that work everywhere, if the key is one. -/
def globalKey (press : KeyPress) : Option (AppState × Option Request) :=
  match press.vk with
  | .letter 'Q' => if press.ctrl then some (s, none) else none
  | .function 1 =>
      some ({ s with panes := { s.panes with helpVisible := !s.panes.helpVisible } }, none)
  | .function 2 => some (s.toggleAdvancedView frequencies answers)
  | .function 5 =>
      if s.panes.advancedView then some (s.setAdvancedTab (s.panes.advancedTab + 1), none) else none
  | .function 6 =>
      if s.panes.advancedView then some (s.setAdvancedTab (s.panes.advancedTab - 1), none) else none
  | .tab =>
      if press.ctrl && s.panes.advancedView then
        some (s.setAdvancedTab (if press.shift then s.panes.advancedTab - 1
          else s.panes.advancedTab + 1), none)
      else none
  | .function 3 =>
      let qsoListFocused := !s.panes.qsoListFocused
      some ({ s with
        panes := { s.panes with searchFocused := false, qsoListFocused }
        list := if qsoListFocused && decide (s.list.qsoSelected < 0 ∧ 0 < s.list.count) then
          s.list.select 0 else s.list }, none)
  | .function 4 =>
      let searchFocused := !s.panes.searchFocused
      some ({ s with panes := { s.panes with
        searchFocused, qsoListFocused := searchFocused || s.panes.qsoListFocused } }, none)
  | .function 7 =>
      some ({ s with form := { s.form.setCurrentDateTime answers.now with
        qsoTimerActive := true, timestampAutomatic := false } }, none)
  | .function 8 =>
      some ({ s with tasks := { s.tasks with rigEnabled := !s.tasks.rigEnabled } }, none)
  | .function 10 => some (s.logQso frequencies answers)
  | .enter => if press.shift || press.alt then some (s.logQso frequencies answers) else none
  | _ => none

/-- Alt and a key, which jump to a tab or to a field. -/
def altKey (press : KeyPress) : Option AppState :=
  if !press.alt || press.ctrl then none
  else
    match press.vk with
    | .digit n =>
        if h : s.panes.advancedView = true ∧ 1 ≤ n ∧ n ≤ 7 then
          some (s.setAdvancedTab ⟨n - 1, by omega⟩).focusForm
        else none
    | .letter c =>
        (altField c).map fun target =>
          let advancedTab := if s.panes.advancedView then
            (advTabForField target).getD s.panes.advancedTab else s.panes.advancedTab
          focusForm { s with
            panes := { s.panes with advancedTab }
            form := s.form.setFocusField target }
    | _ => none

/-- The keys of the search field; its text is only painted. -/
def searchKey (vk : Key) : AppState :=
  match vk with
  | .escape => { s with panes := { s.panes with searchFocused := false } }
  | .tab => { s with panes := { s.panes with searchFocused := false, qsoListFocused := true } }
  | _ => s

/-- The keys of the list. -/
def listKey (vk : Key) : AppState × Option Request :=
  let selected := s.list.qsoSelected
  let page : ℤ := if 0 < s.list.qsoPageSize then s.list.qsoPageSize else 10
  let move (qsoSelected : ℤ) : AppState × Option Request :=
    ({ s with list := s.list.select qsoSelected }, none)
  match vk with
  | .escape =>
      ({ s with
        panes := { s.panes with qsoListFocused := false }
        list := s.list.select (-1) }, none)
  | .up =>
      if 0 < selected then move (selected - 1)
      else if 0 < s.list.count then move 0
      else (s, none)
  | .down => if selected < s.list.count - 1 then move (selected + 1) else (s, none)
  | .pageUp => move (max (selected - page) 0)
  | .pageDown => move (if s.list.count ≤ selected + page then s.list.count - 1 else selected + page)
  | .enter => s.loadSelectedQso frequencies answers
  | .letter 'D' | .delete =>
      (if 0 ≤ selected then { s with panes := { s.panes with confirmDeleteVisible := true } }
        else s, none)
  | .tab =>
      ({ s with
        panes := { s.panes with qsoListFocused := false }
        form := s.form.setFocusField .callsign }, none)
  | _ => (s, none)

/-- Home and End in the list, with Ctrl. -/
def listEndKey (press : KeyPress) : Option AppState :=
  match press.vk with
  | .home =>
      if press.ctrl then
        some { s with list := s.list.select (if 0 < s.list.count then 0 else -1) }
      else none
  | .end => if press.ctrl then some { s with list := s.list.select (s.list.count - 1) } else none
  | _ => none

/-- The field after the focused one, or before it. -/
def tabField (shift : Bool) : Field :=
  let focused := s.form.focusedField
  if s.panes.advancedView then
    let fields := advTabs s.panes.advancedTab
    let idx := if focused ∈ fields then fields.idxOf focused else 0
    let idx := if shift then (idx + fields.length - 1) % fields.length
      else (idx + 1) % fields.length
    fields.getD idx .callsign
  else if shift then focused.before
  else focused.after

/-- The keys of the form. -/
def formKey (press : KeyPress) : AppState :=
  let f := s.form.focusedField
  let edit (form : Form) : AppState := { s with form }
  match press.vk with
  | .escape =>
      if s.panes.advancedView then
        focusBasic { s with panes := { s.panes with advancedView := false } }
      else s.clearForm answers
  | .tab => edit (s.form.setFocusField (s.tabField press.shift))
  | .left =>
      edit <|
        if f = .band then s.form.setBand (s.form.bandIdx - 1)
        else if f = .mode then s.form.setMode (s.form.modeIdx - 1)
        else if s.form.fieldAllSelected then { s.form.setCursor f 0 with fieldAllSelected := false }
        else s.form.setCursor f (s.form.cursorPos f - 1)
  | .right =>
      edit <|
        if f = .band then s.form.setBand (s.form.bandIdx + 1)
        else if f = .mode then s.form.setMode (s.form.modeIdx + 1)
        else if s.form.fieldAllSelected then { s.form.cursorToEnd f with fieldAllSelected := false }
        else if s.form.cursorPos f < (s.form.buffers f).length then
          s.form.setCursor f (s.form.cursorPos f + 1)
        else s.form
  | .back =>
      if f.hasBuffer then
        edit (if f = .callsign then (s.form.deleteChar f).clearLookupDisplay
          else s.form.deleteChar f)
      else s
  | .home => edit { s.form.setCursor f 0 with fieldAllSelected := false }
  | .end =>
      edit (if f.hasBuffer then { s.form.cursorToEnd f with fieldAllSelected := false }
        else { s.form with fieldAllSelected := false })
  | _ => s

/-- `OnKeyDown`. -/
def onKeyDown (press : KeyPress) : AppState × Option Request :=
  if s.panes.confirmDeleteVisible then
    if press.vk = .letter 'Y' then s.deleteSelectedQso answers
    else ({ s with panes := { s.panes with confirmDeleteVisible := false } }, none)
  else if s.panes.helpVisible then
    (if press.vk = .function 1 ∨ press.vk = .escape then
      { s with panes := { s.panes with helpVisible := false } } else s, none)
  else
    match s.globalKey frequencies answers press with
    | some result => result
    | none =>
        match s.altKey press with
        | some s => (s, none)
        | none =>
            if s.panes.searchFocused then (s.searchKey press.vk, none)
            else if s.panes.qsoListFocused then
              match s.listEndKey press with
              | some s => (s, none)
              | none => s.listKey frequencies answers press.vk
            else (s.formKey answers press, none)

/-- `OnChar`. -/
def onChar (ch : ℕ) : AppState :=
  if ch < 32 ∨ ch = 127 then s
  else if s.panes.searchFocused then s
  else if s.panes.qsoListFocused then s
  else
    let c := UInt8.ofNat ch
    let form :=
      match s.form.focusedField with
      | .band => s.form.typeSelectBand c
      | .mode => s.form.typeSelectMode c
      | .callsign => (s.form.insertChar answers.now .callsign c).clearLookupDisplay
      | f => s.form.insertChar answers.now f c
    { s with form }

/-! ### The mouse -/

/-- `WM_MOUSEWHEEL`: the selection moves. -/
def wheelSelection (up : Bool) : ℤ :=
  let selected := s.list.qsoSelected
  if s.panes.qsoListFocused then
    if up then if 0 < selected then selected - 1 else selected
    else if selected < s.list.count - 1 then selected + 1 else selected
  else selected

/-- `WM_LBUTTONDOWN`. -/
def onClick : Hit → AppState
  | .advancedTab tab => if s.panes.advancedView then (s.setAdvancedTab tab).focusForm else s
  | .advancedField f =>
      if s.panes.advancedView ∧ f ∈ advTabs s.panes.advancedTab then
        focusForm { s with form := s.form.setFocusField f }
      else s
  | .basicField f pos =>
      if s.panes.advancedView ∨ f ∉ Field.basic then s
      else
        let form := if f.hasBuffer then s.form.setCursor f (min pos (s.form.buffers f).length)
          else s.form
        focusForm { s with form := { form with focusedField := f } }
  | .listRow row =>
      if row < s.list.recentQsos.length then
        { s with
          panes := { s.panes with qsoListFocused := true, searchFocused := false }
          list := s.list.select row }
      else s
  | .listHeader =>
      if s.list.recentQsos = [] then s
      else
        { s with
          panes := { s.panes with qsoListFocused := true, searchFocused := false }
          list := if s.list.qsoSelected < 0 then s.list.select 0 else s.list }

/-- `WM_LBUTTONDBLCLK`. -/
def onDoubleClick (row : ℕ) : AppState × Option Request :=
  if row < s.list.recentQsos.length then
    loadSelectedQso frequencies answers { s with list := s.list.select row }
  else (s, none)

/-! ### The window procedure -/

/-- `WndProc`. -/
def wndProc : Input → AppState × Option Request
  | .key press => s.onKeyDown frequencies answers press
  | .char ch => (s.onChar answers ch, none)
  | .click hit => (s.onClick hit, none)
  | .doubleClick row => s.onDoubleClick frequencies answers row
  | .wheel up => ({ s with list := s.list.select (s.wheelSelection up) }, none)
  | .menuHelp => ({ s with panes := { s.panes with helpVisible := !s.panes.helpVisible } }, none)
  | .paint rows => ({ s with list := { s.list with qsoPageSize := rows } }, none)
  | .lookupDone res => ({ s with form := s.form.applyLookupResult res }, none)
  | .rigDone res =>
      (match res with
        | some res =>
            if s.tasks.rigEnabled then { s with form := s.form.applyRigPollResult res } else s
        | none => s, none)
  | .qsoLoaded qsos =>
      ({ s with list := { s.list with recentQsos := qsos.getD s.list.recentQsos } }, none)
  | .logDone _ =>
      -- the form is cleared whatever the result is
      (clearForm answers { s with tasks := { s.tasks with logInProgress := false } }, none)
  | .qsoDetailDone res =>
      let s := { s with tasks := { s.tasks with qsoDetailLoading := false } }
      (match res with
        | some res =>
            if res.loaded then
              s.applyLoadedQsoDetail frequencies answers res.localId res.detail else s
        | none => s, none)
  | .qsoDeleteDone _ =>
      ({ s with
        tasks := { s.tasks with qsoDeleteInProgress := false }
        list := s.list.select (-1)
        panes := { s.panes with confirmDeleteVisible := false } }, none)

end AppState

end QsoRipper.Win32
