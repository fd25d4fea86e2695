/-
QsoRipper/Win32/Selection.lean

Deleting the contact that was chosen.  The confirmation remembers no id: it is about
whatever row has the selected index when it is answered, and the list under that
index may be replaced in between.
-/
import QsoRipper.Lib.Transition
import QsoRipper.Win32.Window

namespace QsoRipper.Win32

open Interaction

/-! ### What is promised -/

/-- The id of the contact that a request deletes. -/
def Request.deleted : Request → Option CString
  | .deleteQso localId => some localId
  | _ => none

/-- The id of the selected row. -/
def QsoList.selectedId (list : QsoList) : Option CString := list.selectedRow.map (·.localId)

/-- The selection is none or an index of the list. -/
def QsoList.Valid (list : QsoList) : Prop :=
  list.qsoSelected = -1 ∨ 0 ≤ list.qsoSelected ∧ list.qsoSelected < list.count

/-- The window, with the id of the row that was selected when the confirmation was
opened. -/
structure Watched where
  window : AppState
  chosen : Option CString := none

/-- An input with the answers to it, the request that is sent, and what had been chosen. -/
structure Event where
  input : Input
  answers : Answers
  request : Option Request
  chosen : Option CString

/-- What is chosen after an input: opening the confirmation chooses the selected row. -/
def chosenAfter (before : Watched) (after : AppState) : Option CString :=
  if !after.panes.confirmDeleteVisible then none
  else if before.window.panes.confirmDeleteVisible then before.chosen
  else after.list.selectedId

/-- The window handles an input. -/
def Watched.handle (frequencies : Frequencies) (p : Watched) (turn : Input × Answers) :
    Option (Event × Watched) :=
  let result := p.window.wndProc frequencies turn.2 turn.1
  some (⟨turn.1, turn.2, result.2, p.chosen⟩, ⟨result.1, chosenAfter p result.1⟩)

/-- One input. -/
def Watched.Step (frequencies : Frequencies) (p : Watched) (event : Event) (q : Watched) : Prop :=
  p.handle frequencies (event.input, event.answers) = some (event, q)

/-- The contact that is deleted is the one that was chosen. -/
def Event.DeletesChosen (event : Event) : Prop :=
  ∀ localId ∈ event.request.bind Request.deleted, event.chosen = some localId

/-! ### The condition -/

/-- The keys go to the list. -/
def AppState.listHasKeys (s : AppState) : Prop :=
  s.panes.confirmDeleteVisible = false ∧ s.panes.helpVisible = false
    ∧ s.panes.searchFocused = false ∧ s.panes.qsoListFocused = true

/-- A row that is selected instead has the same id. -/
def QsoList.SameId (list : QsoList) (qsoSelected : ℤ) : Prop :=
  (list.select qsoSelected).selectedId = list.selectedId

/-- While the confirmation is open, another row does not come under the selection; a
new list is not too short for the selection; and no empty list is paged up. -/
def AppState.Undisturbed (s : AppState) : Input → Prop
  | .qsoLoaded (some qsos) =>
      s.list.qsoSelected < qsos.length
        ∧ (s.panes.confirmDeleteVisible = true →
            { s.list with recentQsos := qsos }.selectedId = s.list.selectedId)
  | .wheel up => s.panes.confirmDeleteVisible = true → s.list.SameId (s.wheelSelection up)
  | .click (.listRow row) | .doubleClick row =>
      s.panes.confirmDeleteVisible = true → row < s.list.recentQsos.length → s.list.SameId row
  | .key press => press.vk = .pageUp → s.listHasKeys → s.list.recentQsos ≠ []
  | _ => True

/-! ### What leaves the list alone -/

/-- The list and the confirmation stay, and nothing is deleted. -/
structure Aside (s : AppState) (result : AppState × Option Request) : Prop where
  list : result.1.list = s.list
  confirm : result.1.panes.confirmDeleteVisible = s.panes.confirmDeleteVisible
  deleted : result.2.bind Request.deleted = none

section Aside

variable {frequencies : Frequencies} {answers : Answers} {s t : AppState}

theorem Aside.trans {result : AppState × Option Request} (h : Aside s (t, none))
    (h' : Aside t result) : Aside s result :=
  ⟨h'.list.trans h.list, h'.confirm.trans h.confirm, h'.deleted⟩

theorem aside_form (form : Form) : Aside s ({ s with form }, none) := ⟨rfl, rfl, rfl⟩

theorem aside_tasks (tasks : Tasks) : Aside s ({ s with tasks }, none) := ⟨rfl, rfl, rfl⟩

theorem aside_focusForm : Aside s (s.focusForm, none) := ⟨rfl, rfl, rfl⟩

theorem aside_clearForm : Aside s (s.clearForm answers, none) := ⟨rfl, rfl, rfl⟩

theorem aside_setAdvancedTab (tab : Fin 7) : Aside s (s.setAdvancedTab tab, none) :=
  ⟨rfl, rfl, rfl⟩

theorem aside_focusBasic : Aside s (s.focusBasic, none) := by
  rw [AppState.focusBasic]
  split_ifs
  · exact ⟨rfl, rfl, rfl⟩
  · exact aside_form _

theorem aside_logQso : Aside s (s.logQso frequencies answers) := by
  rw [AppState.logQso]
  split_ifs with hcallsign
  · exact ⟨rfl, rfl, rfl⟩
  · dsimp only
    cases s.backend with
    | ffi =>
        dsimp only
        split_ifs <;> exact ⟨rfl, rfl, rfl⟩
    | cli =>
        dsimp only
        split_ifs <;> exact ⟨rfl, rfl, rfl⟩

theorem aside_loadSelectedQso : Aside s (s.loadSelectedQso frequencies answers) := by
  rw [AppState.loadSelectedQso]
  cases s.list.selectedRow with
  | none => exact ⟨rfl, rfl, rfl⟩
  | some q =>
      dsimp only
      by_cases hid : q.localId = []
      · rw [if_pos hid]
        exact ⟨rfl, rfl, rfl⟩
      · rw [if_neg hid]
        cases s.backend with
        | ffi =>
            dsimp only
            split_ifs <;> exact ⟨rfl, rfl, rfl⟩
        | cli =>
            dsimp only
            split_ifs <;> exact ⟨rfl, rfl, rfl⟩

theorem aside_toggleAdvancedView : Aside s (s.toggleAdvancedView frequencies answers) := by
  rw [AppState.toggleAdvancedView]
  split_ifs with hload
  · refine Aside.trans ?_ aside_loadSelectedQso
    exact ⟨rfl, rfl, rfl⟩
  · dsimp only
    split_ifs
    · cases advTabForField s.focusForm.form.focusedField <;> exact ⟨rfl, rfl, rfl⟩
    · refine Aside.trans ?_ aside_focusBasic
      exact ⟨rfl, rfl, rfl⟩

theorem aside_altKey {press : KeyPress} (h : s.altKey press = some t) : Aside s (t, none) := by
  rw [AppState.altKey] at h
  by_cases halt : (!press.alt || press.ctrl) = true
  · rw [if_pos halt] at h
    cases h
  · rw [if_neg halt] at h
    generalize press.vk = vk at h
    cases vk with
    | digit n =>
        dsimp only at h
        split_ifs at h
        cases h
        exact ⟨rfl, rfl, rfl⟩
    | letter c =>
        obtain ⟨target, -, rfl⟩ := Option.map_eq_some_iff.mp h
        exact ⟨rfl, rfl, rfl⟩
    | _ => cases h

theorem aside_searchKey (vk : Key) : Aside s (s.searchKey vk, none) := by
  unfold AppState.searchKey
  split <;> exact ⟨rfl, rfl, rfl⟩

theorem aside_formKey (press : KeyPress) : Aside s (s.formKey answers press, none) := by
  rw [AppState.formKey]
  cases press.vk with
  | escape =>
      dsimp only
      by_cases hadvanced : s.panes.advancedView = true
      · rw [if_pos hadvanced]
        refine Aside.trans ?_ aside_focusBasic
        exact ⟨rfl, rfl, rfl⟩
      · rw [if_neg hadvanced]
        exact aside_clearForm
  | back =>
      dsimp only
      by_cases hbuffer : s.form.focusedField.hasBuffer = true
      · rw [if_pos hbuffer]
        exact aside_form _
      · rw [if_neg hbuffer]
        exact ⟨rfl, rfl, rfl⟩
  | _ => exact ⟨rfl, rfl, rfl⟩

/-- With the confirmation closed: the selection stays valid, nothing is deleted, and the
confirmation is only opened on a row. -/
structure Kept (result : AppState × Option Request) : Prop where
  valid : result.1.list.Valid
  deleted : result.2.bind Request.deleted = none
  opened : result.1.panes.confirmDeleteVisible = true → 0 ≤ result.1.list.qsoSelected

theorem Aside.kept {result : AppState × Option Request} (h : Aside s result)
    (hvalid : s.list.Valid) (hclosed : s.panes.confirmDeleteVisible = false) : Kept result where
  valid := by
    rw [h.list]
    exact hvalid
  deleted := h.deleted
  opened := by
    rw [h.confirm, hclosed]
    exact fun hopen => (nomatch hopen)

/-- A selection that is valid moves. -/
theorem kept_select {list : QsoList} (hvalid : list.Valid)
    (hclosed : s.panes.confirmDeleteVisible = false) : Kept ({ s with list }, none) where
  valid := hvalid
  deleted := rfl
  opened := by
    rw [hclosed]
    exact fun hopen => (nomatch hopen)

/-- A shortcut leaves the selection valid. -/
theorem globalKey_spec {press : KeyPress} {result : AppState × Option Request}
    (h : s.globalKey frequencies answers press = some result) (hvalid : s.list.Valid)
    (hclosed : s.panes.confirmDeleteVisible = false) : Kept result := by
  have hopened {P : Prop} (hopen : s.panes.confirmDeleteVisible = true) : P := by
    rw [hclosed] at hopen
    cases hopen
  unfold AppState.globalKey at h
  split at h
  case h_7 =>
    -- the focus goes to the list, where nothing may be selected yet
    cases h
    refine ⟨?_, rfl, hopened⟩
    dsimp only
    split_ifs with hfirst
    · have hcount := (of_decide_eq_true ((Bool.and_eq_true _ _).mp hfirst).2).2
      exact .inr ⟨le_rfl, hcount⟩
    · exact hvalid
  case h_3 =>
    cases h
    exact aside_toggleAdvancedView.kept hvalid hclosed
  case h_11 =>
    cases h
    exact aside_logQso.kept hvalid hclosed
  case h_12 =>
    split_ifs at h
    cases h
    exact aside_logQso.kept hvalid hclosed
  all_goals
    try split_ifs at h
    all_goals cases h <;> exact ⟨hvalid, rfl, hopened⟩

/-- A key of the list leaves the selection valid, unless it pages an empty list up. -/
theorem listKey_spec (vk : Key) (hvalid : s.list.Valid)
    (hclosed : s.panes.confirmDeleteVisible = false)
    (hpage : vk = .pageUp → s.list.recentQsos ≠ []) :
    Kept (s.listKey frequencies answers vk) := by
  unfold AppState.listKey
  have hcount : 0 ≤ s.list.count := Int.natCast_nonneg _
  dsimp only
  generalize hsize : (if 0 < s.list.qsoPageSize then (s.list.qsoPageSize : ℤ) else 10) = page
  have hpos : 0 < page := by
    rw [← hsize]
    split_ifs with hpages
    · exact_mod_cast hpages
    · norm_num
  -- each move goes to an index of the list, or to -1 when there is none
  have hmove (i : ℤ) (hi : i = -1 ∨ 0 ≤ i ∧ i < s.list.count) :
      Kept ({ s with list := s.list.select i }, none) := kept_select hi hclosed
  have hstay : Kept (s, none) := kept_select hvalid hclosed
  have hconfirm : Kept (if 0 ≤ s.list.qsoSelected then
      { s with panes := { s.panes with confirmDeleteVisible := true } } else s, none) := by
    split_ifs with hselected
    · exact ⟨hvalid, rfl, fun _ => hselected⟩
    · exact hstay
  cases vk with
  | escape => exact ⟨.inl rfl, rfl, fun hopen => absurd hopen (by rw [hclosed]; decide)⟩
  | up =>
      dsimp only
      split_ifs with hup hrows
      · exact hmove _ (by unfold QsoList.Valid at hvalid; omega)
      · exact hmove _ (.inr ⟨le_rfl, hrows⟩)
      · exact hstay
  | down =>
      dsimp only
      split_ifs with hdown
      · exact hmove _ (by unfold QsoList.Valid at hvalid; omega)
      · exact hstay
  | pageUp =>
      have hrows : 0 < s.list.count := by
        have hne := List.length_pos_of_ne_nil (hpage rfl)
        exact Int.natCast_pos.mpr hne
      exact hmove _ (by unfold QsoList.Valid at hvalid; omega)
  | pageDown =>
      refine hmove _ ?_
      unfold QsoList.Valid at hvalid
      split_ifs <;> omega
  | enter => exact aside_loadSelectedQso.kept hvalid hclosed
  | letter c => split <;> first | contradiction | exact hstay | exact hconfirm
  | delete => exact hconfirm
  | tab => exact ⟨hvalid, rfl, fun hopen => absurd hopen (by rw [hclosed]; decide)⟩
  | _ => exact hstay

/-- Home and End select a row of the list, or none of an empty one. -/
theorem listEndKey_spec {press : KeyPress} (h : s.listEndKey press = some t)
    (hclosed : s.panes.confirmDeleteVisible = false) : Kept (t, none) := by
  have hcount : 0 ≤ s.list.count := Int.natCast_nonneg _
  unfold AppState.listEndKey at h
  split at h
  · split_ifs at h with hctrl hrows <;> cases h
    · exact kept_select (.inr ⟨le_rfl, hrows⟩) hclosed
    · exact kept_select (.inl rfl) hclosed
  · split_ifs at h
    cases h
    refine kept_select ?_ hclosed
    show s.list.count - 1 = -1 ∨ 0 ≤ s.list.count - 1 ∧ s.list.count - 1 < s.list.count
    omega
  · cases h

/-- A deletion is about the selected row, and leaves the list or selects nothing. -/
theorem deleteSelectedQso_spec (hvalid : s.list.Valid) :
    (∀ localId ∈ (s.deleteSelectedQso answers).2.bind Request.deleted,
        s.list.selectedId = some localId)
      ∧ (s.deleteSelectedQso answers).1.list.Valid
      ∧ ((s.deleteSelectedQso answers).1.panes.confirmDeleteVisible = true →
        (s.deleteSelectedQso answers).1.list = s.list) := by
  rw [AppState.deleteSelectedQso, QsoList.selectedId]
  cases hrow : s.list.selectedRow with
  | none => exact ⟨fun _ h => (nomatch h), hvalid, fun _ => rfl⟩
  | some q =>
      dsimp only
      by_cases hid : q.localId = []
      · rw [if_pos hid]
        exact ⟨fun _ h => (nomatch h), hvalid, fun _ => rfl⟩
      · rw [if_neg hid]
        cases s.backend with
        | ffi =>
            dsimp only
            split_ifs
            · exact ⟨fun _ h => (nomatch h), hvalid, fun _ => rfl⟩
            · exact ⟨fun localId h => h, hvalid, fun _ => rfl⟩
        | cli => exact ⟨fun localId h => h, .inl rfl, fun h => (nomatch h)⟩

theorem aside_onChar (ch : ℕ) : Aside s (s.onChar answers ch, none) := by
  rw [AppState.onChar]
  split_ifs <;> exact ⟨rfl, rfl, rfl⟩

/-! ### One input -/

/-- A key while the confirmation is closed. -/
theorem onKeyDown_closed {press : KeyPress} (hvalid : s.list.Valid)
    (hclosed : s.panes.confirmDeleteVisible = false) (hE : s.Undisturbed (.key press)) :
    Kept (s.onKeyDown frequencies answers press) := by
  have hstay : Kept (s, none) := kept_select hvalid hclosed
  rw [AppState.onKeyDown, if_neg (by rw [hclosed]; decide)]
  by_cases hhelp : s.panes.helpVisible = true
  · rw [if_pos hhelp]
    refine Aside.kept (s := s) ?_ hvalid hclosed
    split_ifs <;> exact ⟨rfl, rfl, rfl⟩
  · rw [if_neg hhelp]
    cases hglobal : s.globalKey frequencies answers press with
    | some result => exact globalKey_spec hglobal hvalid hclosed
    | none =>
        dsimp only
        cases halt : s.altKey press with
        | some t => exact (aside_altKey halt).kept hvalid hclosed
        | none =>
            dsimp only
            by_cases hsearch : s.panes.searchFocused = true
            · rw [if_pos hsearch]
              exact (aside_searchKey _).kept hvalid hclosed
            · rw [if_neg hsearch]
              by_cases hlist : s.panes.qsoListFocused = true
              · rw [if_pos hlist]
                cases hend : s.listEndKey press with
                | some t => exact listEndKey_spec hend hclosed
                | none =>
                    refine listKey_spec _ hvalid hclosed fun hpage => ?_
                    exact hE hpage ⟨hclosed, by simpa using hhelp, by simpa using hsearch, hlist⟩
              · rw [if_neg hlist]
                exact (aside_formKey _).kept hvalid hclosed

/-- The wheel moves within the list. -/
theorem wheelSelection_valid (up : Bool) (hvalid : s.list.Valid) :
    (s.list.select (s.wheelSelection up)).Valid := by
  have hcount : 0 ≤ s.list.count := Int.natCast_nonneg _
  show s.wheelSelection up = -1 ∨ 0 ≤ s.wheelSelection up ∧ s.wheelSelection up < s.list.count
  unfold QsoList.Valid at hvalid
  unfold AppState.wheelSelection
  dsimp only
  split_ifs <;> omega

theorem row_valid {list : QsoList} {row : ℕ} (hrow : row < list.recentQsos.length) :
    (list.select row).Valid := .inr ⟨Int.natCast_nonneg row, Int.ofNat_lt.mpr hrow⟩

/-- A message about a task leaves the list and the confirmation, or selects nothing. -/
theorem aside_qsoDetailDone (res : Option QsoDetailLoadResult) :
    Aside s (s.wndProc frequencies answers (.qsoDetailDone res)) := by
  cases res with
  | none => exact ⟨rfl, rfl, rfl⟩
  | some res =>
      unfold AppState.wndProc
      dsimp only
      split_ifs <;> exact ⟨rfl, rfl, rfl⟩

theorem aside_rigDone (res : Option RigPollResult) :
    Aside s (s.wndProc frequencies answers (.rigDone res)) := by
  cases res with
  | none => exact ⟨rfl, rfl, rfl⟩
  | some res =>
      unfold AppState.wndProc
      dsimp only
      split_ifs <;> exact ⟨rfl, rfl, rfl⟩

/-- An input while the confirmation is closed. -/
theorem wndProc_closed {input : Input} (hvalid : s.list.Valid)
    (hclosed : s.panes.confirmDeleteVisible = false) (hE : s.Undisturbed input) :
    Kept (s.wndProc frequencies answers input) := by
  have hstay : Kept (s, none) := kept_select hvalid hclosed
  have hopened {P : Prop} (hopen : s.panes.confirmDeleteVisible = true) : P := by
    rw [hclosed] at hopen
    cases hopen
  cases input with
  | key press => exact onKeyDown_closed hvalid hclosed hE
  | char ch => exact (aside_onChar ch).kept hvalid hclosed
  | click hit =>
      cases hit with
      | listRow row =>
          unfold AppState.wndProc AppState.onClick
          dsimp only
          split_ifs with hrow
          · exact ⟨row_valid hrow, rfl, hopened⟩
          · exact hstay
      | listHeader =>
          unfold AppState.wndProc AppState.onClick
          dsimp only
          split_ifs with hrows hselected
          · exact hstay
          · have hcount : 0 < s.list.count := Int.natCast_pos.mpr (List.length_pos_of_ne_nil hrows)
            exact ⟨.inr ⟨le_rfl, hcount⟩, rfl, hopened⟩
          · exact ⟨hvalid, rfl, hopened⟩
      | _ =>
          unfold AppState.wndProc AppState.onClick
          dsimp only
          split_ifs <;> exact ⟨hvalid, rfl, hopened⟩
  | doubleClick row =>
      unfold AppState.wndProc AppState.onDoubleClick
      dsimp only
      split_ifs with hrow
      · exact aside_loadSelectedQso.kept (row_valid hrow) hclosed
      · exact hstay
  | wheel up => exact kept_select (wheelSelection_valid up hvalid) hclosed
  | qsoLoaded qsos =>
      cases qsos with
      | none => exact hstay
      | some qsos =>
          refine kept_select ?_ hclosed
          exact hvalid.imp_right fun hindex => ⟨hindex.1, hE.1⟩
  | rigDone res => exact (aside_rigDone res).kept hvalid hclosed
  | qsoDetailDone res => exact (aside_qsoDetailDone res).kept hvalid hclosed
  | qsoDeleteDone ok => exact ⟨.inl rfl, rfl, fun hopen => (nomatch hopen)⟩
  | _ => exact ⟨hvalid, rfl, hopened⟩

/-- With the confirmation open: a deletion is about the selected row, and while the
confirmation stays open so does the id of that row. -/
structure Steady (s : AppState) (result : AppState × Option Request) : Prop where
  valid : result.1.list.Valid
  deleted : ∀ localId ∈ result.2.bind Request.deleted, s.list.selectedId = some localId
  same : result.1.panes.confirmDeleteVisible = true →
    result.1.list.selectedId = s.list.selectedId ∧ 0 ≤ result.1.list.qsoSelected

theorem Aside.steady {result : AppState × Option Request} (h : Aside s result)
    (hvalid : s.list.Valid) (hselected : 0 ≤ s.list.qsoSelected) : Steady s result where
  valid := by
    rw [h.list]
    exact hvalid
  deleted := by
    rw [h.deleted]
    exact fun _ hnone => (nomatch hnone)
  same := by
    rw [h.list]
    exact fun _ => ⟨rfl, hselected⟩

/-- Another row with the same id is selected. -/
theorem steady_select {i : ℤ} {panes : Panes} (hvalid : (s.list.select i).Valid)
    (hselected : 0 ≤ i) (hsame : s.list.SameId i) :
    Steady s ({ s with panes, list := s.list.select i }, none) :=
  ⟨hvalid, fun _ hnone => (nomatch hnone), fun _ => ⟨hsame, hselected⟩⟩

/-- An input while the confirmation is open. -/
theorem wndProc_open {input : Input} (hvalid : s.list.Valid)
    (hopen : s.panes.confirmDeleteVisible = true) (hselected : 0 ≤ s.list.qsoSelected)
    (hE : s.Undisturbed input) : Steady s (s.wndProc frequencies answers input) := by
  have hstay : Steady s (s, none) := (aside_form s.form).steady hvalid hselected
  cases input with
  | key press =>
      unfold AppState.wndProc AppState.onKeyDown
      dsimp only
      rw [if_pos hopen]
      split_ifs
      · obtain ⟨hdeleted, hvalid', hlist⟩ := @deleteSelectedQso_spec answers s hvalid
        refine ⟨hvalid', hdeleted, fun hstill => ?_⟩
        rw [hlist hstill]
        exact ⟨rfl, hselected⟩
      · exact ⟨hvalid, fun _ hnone => (nomatch hnone), fun hstill => (nomatch hstill)⟩
  | char ch => exact (aside_onChar ch).steady hvalid hselected
  | click hit =>
      cases hit with
      | listRow row =>
          unfold AppState.wndProc AppState.onClick
          dsimp only
          split_ifs with hrow
          · exact steady_select (row_valid hrow) (Int.natCast_nonneg row) (hE hopen hrow)
          · exact hstay
      | listHeader =>
          unfold AppState.wndProc AppState.onClick
          dsimp only
          rw [if_neg (not_lt.mpr hselected)]
          split_ifs
          · exact hstay
          · exact ⟨hvalid, fun _ hnone => (nomatch hnone), fun _ => ⟨rfl, hselected⟩⟩
      | _ =>
          unfold AppState.wndProc AppState.onClick
          dsimp only
          split_ifs <;> exact ⟨hvalid, fun _ hnone => (nomatch hnone), fun _ => ⟨rfl, hselected⟩⟩
  | doubleClick row =>
      unfold AppState.wndProc AppState.onDoubleClick
      dsimp only
      split_ifs with hrow
      · have hmoved : Steady s ({ s with list := s.list.select row }, none) :=
          steady_select (row_valid hrow) (Int.natCast_nonneg row) (hE hopen hrow)
        have hload := @aside_loadSelectedQso frequencies answers
          { s with list := s.list.select row }
        refine ⟨?_, ?_, ?_⟩
        · rw [hload.list]
          exact hmoved.valid
        · rw [hload.deleted]
          exact hmoved.deleted
        · rw [hload.list]
          exact fun _ => hmoved.same hopen
      · exact hstay
  | wheel up =>
      have hmoved : 0 ≤ s.wheelSelection up := by
        unfold AppState.wheelSelection
        dsimp only
        split_ifs <;> omega
      exact steady_select (wheelSelection_valid up hvalid) hmoved (hE hopen)
  | qsoLoaded qsos =>
      cases qsos with
      | none => exact hstay
      | some qsos =>
          refine ⟨?_, fun _ hnone => (nomatch hnone), fun _ => ⟨hE.2 hopen, hselected⟩⟩
          exact .inr ⟨hselected, hE.1⟩
  | rigDone res => exact (aside_rigDone res).steady hvalid hselected
  | qsoDetailDone res => exact (aside_qsoDetailDone res).steady hvalid hselected
  | qsoDeleteDone ok =>
      exact ⟨.inl rfl, fun _ hnone => (nomatch hnone), fun hstill => (nomatch hstill)⟩
  | _ => exact ⟨hvalid, fun _ hnone => (nomatch hnone), fun _ => ⟨rfl, hselected⟩⟩

end Aside

/-! ### Every run -/

/-- The selection is valid, and while the confirmation is open it is on the row that was
chosen. -/
structure Watched.Inv (p : Watched) : Prop where
  valid : p.window.list.Valid
  chosen : p.window.panes.confirmDeleteVisible = true →
    p.chosen = p.window.list.selectedId ∧ 0 ≤ p.window.list.qsoSelected

variable {frequencies : Frequencies} {p q : Watched} {event : Event}

theorem chosenAfter_still {s : AppState} (hstill : s.panes.confirmDeleteVisible = true)
    (hopen : p.window.panes.confirmDeleteVisible = true) : chosenAfter p s = p.chosen := by
  rw [chosenAfter, hstill, hopen]
  rfl

theorem chosenAfter_opened {s : AppState} (hstill : s.panes.confirmDeleteVisible = true)
    (hclosed : p.window.panes.confirmDeleteVisible = false) :
    chosenAfter p s = s.list.selectedId := by
  rw [chosenAfter, hstill, hclosed]
  rfl

theorem Watched.handle_step {turn : Input × Answers}
    (h : p.handle frequencies turn = some (event, q)) : p.Step frequencies event q := by
  cases h
  exact rfl

/-- **Step lemma.** -/
theorem Watched.Step.inv (h : p.Step frequencies event q) (hp : p.Inv)
    (hE : p.window.Undisturbed event.input) : q.Inv ∧ event.DeletesChosen := by
  obtain ⟨input, answers, request, chosen⟩ := event
  unfold Watched.Step Watched.handle at h
  dsimp only at h
  cases h
  by_cases hopen : p.window.panes.confirmDeleteVisible = true
  · obtain ⟨hchosen, hselected⟩ := hp.chosen hopen
    have hsteady : Steady p.window (p.window.wndProc frequencies answers input) :=
      wndProc_open hp.valid hopen hselected hE
    refine ⟨⟨hsteady.valid, fun hstill => ?_⟩, fun localId hid => ?_⟩
    · obtain ⟨hsame, hselected'⟩ := hsteady.same hstill
      refine ⟨?_, hselected'⟩
      exact (chosenAfter_still hstill hopen).trans (hchosen.trans hsame.symm)
    · exact hchosen.trans (hsteady.deleted localId hid)
  · have hclosed : p.window.panes.confirmDeleteVisible = false := by simpa using hopen
    have hkept : Kept (p.window.wndProc frequencies answers input) :=
      wndProc_closed hp.valid hclosed hE
    refine ⟨⟨hkept.valid, fun hstill => ?_⟩, fun localId hid => ?_⟩
    · exact ⟨chosenAfter_opened hstill hclosed, hkept.opened hstill⟩
    · dsimp only at hid
      rw [hkept.deleted] at hid
      cases hid

/-- **Run lemma.**  In an undisturbed run the selection is valid and each deletion is of
the row that was chosen. -/
theorem selection_of_undisturbed {backend : BackendMode} {now : SystemTime} {events : List Event}
    (hr : Transition.Run (Watched.Step frequencies)
      (fun _ p event => p.window.Undisturbed event.input)
      { window := AppState.initState backend now } events p) :
    p.window.list.Valid ∧ ∀ event ∈ events, event.DeletesChosen := by
  have hinv : p.Inv ∧ ∀ event ∈ events, event.DeletesChosen := by
    refine hr.invariant (I := fun events p => p.Inv ∧ ∀ event ∈ events, event.DeletesChosen) ?_ ?_
    · refine ⟨⟨.inl rfl, fun hopen => (nomatch hopen)⟩, fun event hin => ?_⟩
      exact absurd hin List.not_mem_nil
    · intro events q event r hq hE hs
      obtain ⟨hr, hevent⟩ := hs.inv hq.1 hE
      refine ⟨hr, fun event' hin => ?_⟩
      rcases List.mem_append.mp hin with hpast | hnew
      · exact hq.2 event' hpast
      · rw [List.mem_singleton.mp hnew]
        exact hevent
  exact ⟨hinv.1.valid, hinv.2⟩

/-! ### A row that moves -/

instance (s : AppState) : Decidable s.listHasKeys := inferInstanceAs (Decidable (_ ∧ _))

instance (list : QsoList) (i : ℤ) : Decidable (list.SameId i) := inferInstanceAs (Decidable (_ = _))

instance (s : AppState) : (input : Input) → Decidable (s.Undisturbed input)
  | .qsoLoaded (some _) => inferInstanceAs (Decidable (_ ∧ (_ → _)))
  | .wheel _ => inferInstanceAs (Decidable (_ → _))
  | .click (.listRow _) | .doubleClick _ => inferInstanceAs (Decidable (_ → _ → _))
  | .key _ => inferInstanceAs (Decidable (_ → _ → _))
  | .qsoLoaded none | .click (.advancedTab _) | .click (.advancedField _) | .click (.basicField _ _)
  | .click .listHeader | .char _ | .menuHelp | .paint _ | .lookupDone _ | .rigDone _ | .logDone _
  | .qsoDetailDone _ | .qsoDeleteDone _ => inferInstanceAs (Decidable True)

/-- A contact is chosen for deletion and the deletion is confirmed; in between, the list
may be loaded. -/
def deletion (reloaded : Option (List RecentQso)) : List (Input × Answers) :=
  let answers : Answers := { now := ⟨2024, 5, 1, 12, 0⟩ }
  [(.qsoLoaded (some [⟨lit "K1ABC", lit "a"⟩, ⟨lit "W1AW", lit "b"⟩]), answers),
    (.key { vk := .function 3 }, answers), (.key { vk := .letter 'D' }, answers),
    (.qsoLoaded reloaded, answers), (.key { vk := .letter 'Y' }, answers)]

/-- The window before these inputs. -/
def startWindow : Watched := { window := AppState.initState .ffi ⟨2024, 5, 1, 12, 0⟩ }

/-- The run of these inputs. -/
def deletionRun (reloaded : Option (List RecentQso)) : List Event × Watched :=
  Transition.schedule (Watched.handle noFrequencies) (deletion reloaded) startWindow

theorem Watched.schedule_run {E : List Event → Watched → Event → Prop}
    [∀ events p event, Decidable (E events p event)] {turns : List (Input × Answers)}
    (hm : Transition.meets (Watched.handle frequencies) E [] turns p) :
    Transition.Run (Watched.Step frequencies) E p
      (Transition.schedule (Watched.handle frequencies) turns p).1
      (Transition.schedule (Watched.handle frequencies) turns p).2 := by
  have hturn (p : Watched) (turn : Input × Answers) (event : Event) (q : Watched)
      (h : p.handle frequencies turn = some (event, q)) : p.Step frequencies event q :=
    Watched.handle_step h
  exact Transition.schedule_run hturn hm

theorem selection_deletionRun :
    (deletionRun none).2.window.list.Valid ∧ ∀ event ∈ (deletionRun none).1, event.DeletesChosen :=
  selection_of_undisturbed (Watched.schedule_run (by decide +kernel))

/-- The list after another contact was logged. -/
def inserted : List RecentQso :=
  [⟨lit "N0CALL", lit "n"⟩, ⟨lit "K1ABC", lit "a"⟩, ⟨lit "W1AW", lit "b"⟩]

/-- A contact that is inserted at the top in between is deleted instead. -/
theorem not_selection_inserted :
    ¬ ∀ (frequencies : Frequencies) (backend : BackendMode) (now : SystemTime) (events : List Event)
      (p : Watched), Transition.Run (Watched.Step frequencies) (fun _ _ _ => True)
        { window := AppState.initState backend now } events p →
      p.window.list.Valid ∧ ∀ event ∈ events, event.DeletesChosen := by
  intro hall
  have hrun : Transition.Run (Watched.Step noFrequencies) (fun _ _ _ => True) startWindow
      (deletionRun (some inserted)).1 (deletionRun (some inserted)).2 :=
    Watched.schedule_run (by decide +kernel)
  have hevents : ∃ event ∈ (deletionRun (some inserted)).1,
      event.request.bind Request.deleted = some (lit "n") ∧ event.chosen = some (lit "a") := by
    decide +kernel
  obtain ⟨event, hin, hdeleted, hchosen⟩ := hevents
  have hsame := (hall _ _ _ _ _ hrun).2 event hin (lit "n") hdeleted
  rw [hchosen] at hsame
  exact absurd hsame (by decide)

end QsoRipper.Win32
