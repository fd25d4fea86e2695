/-
QsoRipper/Win32/Inherit.lean

What a new contact inherits from an earlier one.  Two windows that are alike handle
the same inputs alike and send the same requests.  After `ClearForm` they are alike
exactly if they agree on the fields that it leaves and a request has.
-/
import QsoRipper.Win32.Alike

namespace QsoRipper.Win32

/-! ### Requests -/

section Requests

variable {E : List Field} {d : UInt32} {x y : Form} {frequencies : Frequencies}

/-- A request has no field that is only shown. -/
theorem fillLogRequest_eq (h : Form.Alike E d x y) (hE : E ⊆ shownFields) :
    fillLogRequest frequencies x = fillLogRequest frequencies y := by
  have htext (f : Field) (hf : f ∉ shownFields) : x.buffers f = y.buffers f :=
    h.text f fun hin => hf (hE hin)
  unfold fillLogRequest
  rw [htext .date (by decide), htext .time (by decide), htext .timeOff (by decide),
    htext .rstSent (by decide), htext .rstRcvd (by decide), htext .freq (by decide), h.band,
    h.mode]
  congr 1
  funext f
  split_ifs with hf
  · rw [htext f]
    revert hf
    cases f <;> decide
  · rfl

/-- The arguments of the CLI have no field that `ClearForm` leaves. -/
theorem cliArguments_eq (h : Form.Alike E d x y) (hE : E ⊆ shownFields ++ keptFields) :
    AppState.cliArguments frequencies x = AppState.cliArguments frequencies y := by
  have htext (f : Field) (hf : f ∉ shownFields ++ keptFields) : x.buffers f = y.buffers f :=
    h.text f fun hin => hf (hE hin)
  unfold AppState.cliArguments
  rw [h.band, h.mode]
  simp (disch := decide) only [htext]

/-- The request of a new contact. -/
def Request.logged : Request → Option QsrLogQsoRequest
  | .logQso req => some req
  | _ => none

end Requests

/-! ### Windows -/

/-- Two windows with alike forms, which differ in nothing that is sent. -/
def AppState.Alike (E : List Field) (d : UInt32) (s t : AppState) : Prop :=
  ∃ y, t = { s with form := y } ∧ Form.Alike E d s.form y ∧ E ⊆ unsentFields s.backend

/-- Two results with alike windows and the same request. -/
structure ResultAlike (E : List Field) (d : UInt32) (r r' : AppState × Option Request) :
    Prop where
  state : AppState.Alike E d r.1 r'.1
  request : r.2 = r'.2

/-- The result of a lookup belongs to the lookup that has started `d` later. -/
def Input.shift (d : UInt32) : Input → Input
  | .lookupDone res => .lookupDone { res with generation := res.generation + d }
  | input => input

namespace AppState.Alike

variable {E : List Field} {d : UInt32} {s t : AppState} {frequencies : Frequencies}
  {answers : Answers}

theorem unread {backend : BackendMode} (hE : E ⊆ unsentFields backend) :
    E ⊆ shownFields ++ keptFields := by
  cases backend with
  | ffi => exact fun f hf => List.mem_append_left _ (hE hf)
  | cli => exact hE

/-- Nothing is sent, and the form is edited. -/
theorem edited (h : AppState.Alike E d s t) {x y : Form} (hform : Form.Alike E d x y) :
    AppState.Alike E d { s with form := x } { t with form := y } := by
  obtain ⟨z, rfl, -, hunsent⟩ := h
  exact ⟨y, rfl, hform, hunsent⟩

theorem quiet (h : AppState.Alike E d s t) : ResultAlike E d (s, none) (t, none) := ⟨h, rfl⟩

theorem focusForm (h : AppState.Alike E d s t) : AppState.Alike E d s.focusForm t.focusForm := by
  obtain ⟨y, rfl, hform, hunsent⟩ := h
  exact ⟨y, rfl, hform, hunsent⟩

theorem clearForm (h : AppState.Alike E d s t) :
    AppState.Alike E d (s.clearForm answers) (t.clearForm answers) := by
  obtain ⟨y, rfl, hform, hunsent⟩ := h
  exact ⟨_, rfl, hform.clearForm, hunsent⟩

theorem setAdvancedTab (h : AppState.Alike E d s t) (tab : Fin 7) :
    AppState.Alike E d (s.setAdvancedTab tab) (t.setAdvancedTab tab) := by
  obtain ⟨y, rfl, hform, hunsent⟩ := h
  exact ⟨_, rfl, hform.setFocusField _, hunsent⟩

theorem setPanes (h : AppState.Alike E d s t) (panes : Panes) :
    AppState.Alike E d { s with panes } { t with panes } := by
  obtain ⟨y, rfl, hform, hunsent⟩ := h
  exact ⟨y, rfl, hform, hunsent⟩

theorem focusBasic (h : AppState.Alike E d s t) : AppState.Alike E d s.focusBasic t.focusBasic := by
  obtain ⟨y, rfl, hform, hunsent⟩ := h
  unfold AppState.focusBasic
  dsimp only
  rw [← hform.focus]
  split_ifs
  · exact ⟨y, rfl, hform, hunsent⟩
  · exact ⟨_, rfl, hform.setFocusField _, hunsent⟩

theorem logQso (h : AppState.Alike E d s t) :
    ResultAlike E d (s.logQso frequencies answers) (t.logQso frequencies answers) := by
  obtain ⟨y, rfl, hform, hunsent⟩ := h
  have htext (f : Field) (hf : f ∉ shownFields ++ keptFields) : s.form.buffers f = y.buffers f :=
    hform.text f fun hin => hf (unread hunsent hin)
  have hstarted : Form.Alike E d
      (if ¬ s.form.editingLocalId ≠ [] ∧ s.form.qsoTimerActive ∧ s.form.buffers .timeOff = [] then
        s.form.copy .timeOff answers.now.time else s.form)
      (if ¬ y.editingLocalId ≠ [] ∧ y.qsoTimerActive ∧ y.buffers .timeOff = [] then
        y.copy .timeOff answers.now.time else y) := by
    rw [← hform.editing, ← hform.timer, ← htext .timeOff (by decide)]
    split_ifs
    · exact hform.copy .timeOff _
    · exact hform
  unfold AppState.logQso
  dsimp only
  rw [← htext .callsign (by decide)]
  by_cases hcallsign : s.form.buffers .callsign = []
  · rw [if_pos hcallsign, if_pos hcallsign]
    exact ⟨⟨y, rfl, hform, hunsent⟩, rfl⟩
  rw [if_neg hcallsign, if_neg hcallsign]
  generalize (if ¬ s.form.editingLocalId ≠ [] ∧ s.form.qsoTimerActive
    ∧ s.form.buffers .timeOff = [] then s.form.copy .timeOff answers.now.time
    else s.form) = x₁ at hstarted ⊢
  generalize (if ¬ y.editingLocalId ≠ [] ∧ y.qsoTimerActive
    ∧ y.buffers .timeOff = [] then y.copy .timeOff answers.now.time
    else y) = y₁ at hstarted ⊢
  rw [← hform.editing]
  cases hbackend : s.backend with
  | ffi =>
      rw [hbackend] at hunsent
      dsimp only
      rw [fillLogRequest_eq hstarted hunsent, ← hstarted.editing]
      split_ifs
      · exact ⟨⟨y₁, rfl, hstarted, hunsent⟩, rfl⟩
      · exact ⟨⟨y₁, rfl, hstarted, hunsent⟩, rfl⟩
      · exact ⟨⟨y₁, rfl, hstarted, hunsent⟩, rfl⟩
  | cli =>
      rw [hbackend] at hunsent
      dsimp only
      rw [cliArguments_eq hstarted (unread hunsent), ← hstarted.editing]
      exact ⟨⟨y₁.clearForm answers.now, rfl, hstarted.clearForm, hunsent⟩, rfl⟩

theorem loadSelectedQso (h : AppState.Alike E d s t) :
    ResultAlike E d (s.loadSelectedQso frequencies answers)
      (t.loadSelectedQso frequencies answers) := by
  obtain ⟨backend, x, panes, list, tasks⟩ := s
  obtain ⟨y, rfl, hform, hunsent⟩ := h
  unfold AppState.loadSelectedQso
  dsimp only
  cases list.selectedRow with
  | none => exact ⟨⟨y, rfl, hform, hunsent⟩, rfl⟩
  | some q =>
      dsimp only
      by_cases hid : q.localId = []
      · rw [if_pos hid, if_pos hid]
        exact ⟨⟨y, rfl, hform, hunsent⟩, rfl⟩
      rw [if_neg hid, if_neg hid]
      cases backend with
      | ffi =>
          dsimp only
          split_ifs <;> exact ⟨⟨y, rfl, hform, hunsent⟩, rfl⟩
      | cli =>
          dsimp only
          split_ifs
          · exact ⟨⟨_, rfl, hform.applyLoadedQsoDetail q.localId answers.detail, hunsent⟩, rfl⟩
          · exact ⟨⟨y, rfl, hform, hunsent⟩, rfl⟩

theorem deleteSelectedQso (h : AppState.Alike E d s t) :
    ResultAlike E d (s.deleteSelectedQso answers) (t.deleteSelectedQso answers) := by
  obtain ⟨backend, x, panes, list, tasks⟩ := s
  obtain ⟨y, rfl, hform, hunsent⟩ := h
  unfold AppState.deleteSelectedQso
  dsimp only
  cases list.selectedRow with
  | none => exact ⟨⟨y, rfl, hform, hunsent⟩, rfl⟩
  | some q =>
      dsimp only
      by_cases hid : q.localId = []
      · rw [if_pos hid, if_pos hid]
        exact ⟨⟨y, rfl, hform, hunsent⟩, rfl⟩
      rw [if_neg hid, if_neg hid]
      cases backend with
      | ffi =>
          dsimp only
          split_ifs <;> exact ⟨⟨y, rfl, hform, hunsent⟩, rfl⟩
      | cli => exact ⟨⟨y, rfl, hform, hunsent⟩, rfl⟩

theorem toggleAdvancedView (h : AppState.Alike E d s t) :
    ResultAlike E d (s.toggleAdvancedView frequencies answers)
      (t.toggleAdvancedView frequencies answers) := by
  obtain ⟨y, rfl, hform, hunsent⟩ := h
  have hopened (panes : Panes) : AppState.Alike E d { s with panes } { s with panes, form := y } :=
    ⟨y, rfl, hform, hunsent⟩
  unfold AppState.toggleAdvancedView
  dsimp only [AppState.focusForm]
  by_cases hload :
    (!s.panes.advancedView && s.panes.qsoListFocused && s.list.selectedRow.isSome) = true
  · rw [if_pos hload, if_pos hload]
    exact (hopened _).loadSelectedQso
  rw [if_neg hload, if_neg hload]
  by_cases hadvanced : (!s.panes.advancedView) = true
  · rw [if_pos hadvanced, if_pos hadvanced, ← hform.focus]
    cases advTabForField s.form.focusedField with
    | some tab => exact ⟨⟨y, rfl, hform, hunsent⟩, rfl⟩
    | none => exact ⟨⟨_, rfl, hform.setFocusField _, hunsent⟩, rfl⟩
  · rw [if_neg hadvanced, if_neg hadvanced]
    exact (hopened _).focusBasic.quiet

/-- The timer is started. -/
theorem readyTimer {x y : Form} {now : SystemTime} (h : Form.Alike E d x y) :
    Form.Alike E d
      { x.setCurrentDateTime now with qsoTimerActive := true, timestampAutomatic := false }
      { y.setCurrentDateTime now with qsoTimerActive := true, timestampAutomatic := false } :=
  { h.setCurrentDateTime with timer := rfl, timestamp := rfl }

theorem globalKey (h : AppState.Alike E d s t) (press : KeyPress) :
    Option.Rel (ResultAlike E d) (s.globalKey frequencies answers press)
      (t.globalKey frequencies answers press) := by
  have hlog : ResultAlike E d (s.logQso frequencies answers) (t.logQso frequencies answers) :=
    h.logQso
  have htoggle : ResultAlike E d (s.toggleAdvancedView frequencies answers)
      (t.toggleAdvancedView frequencies answers) := h.toggleAdvancedView
  obtain ⟨y, rfl, hform, hunsent⟩ := h
  unfold AppState.globalKey
  dsimp only
  split
  case h_3 => exact .some htoggle
  case h_7 => exact .some ⟨⟨y, rfl, hform, hunsent⟩, rfl⟩
  case h_9 => exact .some ⟨⟨_, rfl, (readyTimer hform), hunsent⟩, rfl⟩
  case h_11 => exact .some hlog
  case h_4 =>
    split_ifs
    · exact .some ⟨⟨_, rfl, hform.setFocusField _, hunsent⟩, rfl⟩
    · exact .none
  case h_5 =>
    split_ifs
    · exact .some ⟨⟨_, rfl, hform.setFocusField _, hunsent⟩, rfl⟩
    · exact .none
  case h_6 =>
    split_ifs
    · exact .some ⟨⟨_, rfl, hform.setFocusField _, hunsent⟩, rfl⟩
    · exact .some ⟨⟨_, rfl, hform.setFocusField _, hunsent⟩, rfl⟩
    · exact .none
  case h_12 =>
    split_ifs
    · exact .some hlog
    · exact .none
  all_goals
    try split_ifs
    all_goals first | exact .none | exact .some ⟨⟨y, rfl, hform, hunsent⟩, rfl⟩

theorem altKey (h : AppState.Alike E d s t) (press : KeyPress) :
    Option.Rel (AppState.Alike E d) (s.altKey press) (t.altKey press) := by
  obtain ⟨y, rfl, hform, hunsent⟩ := h
  unfold AppState.altKey
  dsimp only
  by_cases halt : (!press.alt || press.ctrl) = true
  · rw [if_pos halt, if_pos halt]
    exact .none
  rw [if_neg halt, if_neg halt]
  cases press.vk with
  | digit n =>
      dsimp only
      split_ifs
      · exact .some ⟨_, rfl, hform.setFocusField _, hunsent⟩
      · exact .none
  | letter c =>
      dsimp only
      cases altField c with
      | none => exact .none
      | some target => exact .some ⟨_, rfl, hform.setFocusField _, hunsent⟩
  | _ => exact .none

theorem searchKey (h : AppState.Alike E d s t) (vk : Key) :
    AppState.Alike E d (s.searchKey vk) (t.searchKey vk) := by
  obtain ⟨y, rfl, hform, hunsent⟩ := h
  unfold AppState.searchKey
  split <;> exact ⟨y, rfl, hform, hunsent⟩

theorem listEndKey (h : AppState.Alike E d s t) (press : KeyPress) :
    Option.Rel (AppState.Alike E d) (s.listEndKey press) (t.listEndKey press) := by
  obtain ⟨y, rfl, hform, hunsent⟩ := h
  unfold AppState.listEndKey
  split
  · dsimp only
    split_ifs
    all_goals first | exact .none | exact .some ⟨y, rfl, hform, hunsent⟩
  · dsimp only
    split_ifs
    all_goals first | exact .none | exact .some ⟨y, rfl, hform, hunsent⟩
  · exact .none

theorem listKey (h : AppState.Alike E d s t) (vk : Key) :
    ResultAlike E d (s.listKey frequencies answers vk) (t.listKey frequencies answers vk) := by
  have hload : ResultAlike E d (s.loadSelectedQso frequencies answers)
      (t.loadSelectedQso frequencies answers) := h.loadSelectedQso
  obtain ⟨y, rfl, hform, hunsent⟩ := h
  unfold AppState.listKey
  dsimp only
  split
  case h_6 => exact hload
  case h_9 => exact ⟨⟨_, rfl, hform.setFocusField _, hunsent⟩, rfl⟩
  all_goals
    try split_ifs
    all_goals exact ⟨⟨y, rfl, hform, hunsent⟩, rfl⟩

theorem tabField (h : AppState.Alike E d s t) (shift : Bool) :
    s.tabField shift = t.tabField shift := by
  obtain ⟨y, rfl, hform, hunsent⟩ := h
  unfold AppState.tabField
  rw [hform.focus]

theorem setCursor_self (form : Form) (f : Field) : form.setCursor f (form.cursorPos f) = form := by
  simp [Form.setCursor]

/-- The cursor moves to the right within the text. -/
theorem cursorRight {x y : Form} (h : Form.Alike E d x y) (f : Field) :
    Form.Alike E d
      (if x.cursorPos f < (x.buffers f).length then x.setCursor f (x.cursorPos f + 1) else x)
      (if y.cursorPos f < (y.buffers f).length then y.setCursor f (y.cursorPos f + 1) else y) := by
  have hmoved (form : Form) :
      (if form.cursorPos f < (form.buffers f).length then form.setCursor f (form.cursorPos f + 1)
        else form)
      = form.setCursor f (if form.cursorPos f < (form.buffers f).length then form.cursorPos f + 1
        else form.cursorPos f) := by
    split_ifs
    · rfl
    · exact (setCursor_self form f).symm
  rw [hmoved, hmoved]
  refine h.setCursor f fun hf => ?_
  rw [h.text f hf, h.cursor f hf]

theorem formKey (h : AppState.Alike E d s t) (press : KeyPress) :
    AppState.Alike E d (s.formKey answers press) (t.formKey answers press) := by
  have hclear : AppState.Alike E d (s.clearForm answers) (t.clearForm answers) := h.clearForm
  have htab := h.tabField press.shift
  obtain ⟨y, rfl, hform, hunsent⟩ := h
  have hE := unread hunsent
  have hedited {x' y' : Form} (h : Form.Alike E d x' y') :
      AppState.Alike E d { s with form := x' } { s with form := y' } := ⟨y', rfl, h, hunsent⟩
  unfold AppState.formKey
  cases press.vk with
  | escape =>
      dsimp only
      by_cases hadvanced : s.panes.advancedView = true
      · rw [if_pos hadvanced, if_pos hadvanced]
        refine focusBasic ?_
        exact ⟨y, rfl, hform, hunsent⟩
      · rw [if_neg hadvanced, if_neg hadvanced]
        exact hclear
  | tab =>
      dsimp only
      rw [htab]
      exact hedited (hform.setFocusField _)
  | left =>
      dsimp only
      rw [← hform.focus, ← hform.band, ← hform.mode, ← hform.selected]
      refine hedited ?_
      split_ifs
      · exact hform.setBand _
      · exact hform.setMode _
      · exact (hform.setCursor _ fun _ => rfl).selectNone
      · exact hform.setCursor _ fun hf => by rw [hform.cursor _ hf]
  | right =>
      dsimp only
      rw [← hform.focus, ← hform.band, ← hform.mode, ← hform.selected]
      refine hedited ?_
      by_cases hband : s.form.focusedField = .band
      · rw [if_pos hband, if_pos hband]
        exact hform.setBand _
      rw [if_neg hband, if_neg hband]
      by_cases hmode : s.form.focusedField = .mode
      · rw [if_pos hmode, if_pos hmode]
        exact hform.setMode _
      rw [if_neg hmode, if_neg hmode]
      by_cases hselected : s.form.fieldAllSelected = true
      · rw [if_pos hselected, if_pos hselected]
        exact (hform.cursorToEnd _).selectNone
      · rw [if_neg hselected, if_neg hselected]
        exact cursorRight hform _
  | back =>
      dsimp only
      rw [← hform.focus]
      split_ifs
      · exact hedited (Form.Alike.deleteChar hE hform _).clearLookupDisplay
      · exact hedited (Form.Alike.deleteChar hE hform _)
      · exact ⟨y, rfl, hform, hunsent⟩
  | home =>
      dsimp only
      rw [← hform.focus]
      exact hedited (hform.setCursor _ fun _ => rfl).selectNone
  | «end» =>
      dsimp only
      rw [← hform.focus]
      refine hedited ?_
      split_ifs
      · exact (hform.cursorToEnd _).selectNone
      · exact { hform.selectNone with focus := rfl }
  | _ => exact ⟨y, rfl, hform, hunsent⟩

theorem onKeyDown (h : AppState.Alike E d s t) (press : KeyPress) :
    ResultAlike E d (s.onKeyDown frequencies answers press)
      (t.onKeyDown frequencies answers press) := by
  have hglobal : Option.Rel (ResultAlike E d) (s.globalKey frequencies answers press)
      (t.globalKey frequencies answers press) := h.globalKey press
  have halt := h.altKey press
  have hend := h.listEndKey press
  have hlist : ResultAlike E d (s.listKey frequencies answers press.vk)
      (t.listKey frequencies answers press.vk) := h.listKey press.vk
  have hdelete : ResultAlike E d (s.deleteSelectedQso answers) (t.deleteSelectedQso answers) :=
    h.deleteSelectedQso
  have hkey : AppState.Alike E d (s.formKey answers press) (t.formKey answers press) :=
    h.formKey press
  have hsearch := h.searchKey press.vk
  have hpanes : t.panes = s.panes := by
    obtain ⟨y, rfl, -, -⟩ := h
    rfl
  unfold AppState.onKeyDown
  rw [hpanes]
  by_cases hconfirm : s.panes.confirmDeleteVisible = true
  · rw [if_pos hconfirm, if_pos hconfirm]
    split_ifs
    · exact hdelete
    · exact (h.setPanes _).quiet
  rw [if_neg hconfirm, if_neg hconfirm]
  by_cases hhelp : s.panes.helpVisible = true
  · rw [if_pos hhelp, if_pos hhelp]
    split_ifs
    · exact (h.setPanes _).quiet
    · exact h.quiet
  rw [if_neg hhelp, if_neg hhelp]
  generalize s.globalKey frequencies answers press = global, t.globalKey frequencies answers press
    = global' at hglobal ⊢
  cases hglobal with
  | some hresult => exact hresult
  | none =>
      dsimp only
      generalize s.altKey press = alt, t.altKey press = alt' at halt ⊢
      cases halt with
      | some hstate => exact hstate.quiet
      | none =>
          dsimp only
          by_cases hsearching : s.panes.searchFocused = true
          · rw [if_pos hsearching, if_pos hsearching]
            exact hsearch.quiet
          rw [if_neg hsearching, if_neg hsearching]
          by_cases hlisting : s.panes.qsoListFocused = true
          · rw [if_pos hlisting, if_pos hlisting]
            generalize s.listEndKey press = last, t.listEndKey press = last' at hend ⊢
            cases hend with
            | some hstate => exact hstate.quiet
            | none => exact hlist
          · rw [if_neg hlisting, if_neg hlisting]
            exact hkey.quiet

theorem onChar (h : AppState.Alike E d s t) (ch : ℕ) :
    AppState.Alike E d (s.onChar answers ch) (t.onChar answers ch) := by
  obtain ⟨y, rfl, hform, hunsent⟩ := h
  have hE := unread hunsent
  have hedited {x' y' : Form} (h : Form.Alike E d x' y') :
      AppState.Alike E d { s with form := x' } { s with form := y' } := ⟨y', rfl, h, hunsent⟩
  have hsame : AppState.Alike E d s { s with form := y } := ⟨y, rfl, hform, hunsent⟩
  unfold AppState.onChar
  split_ifs
  · exact hsame
  · exact hsame
  · exact hsame
  dsimp only
  rw [← hform.focus]
  refine hedited ?_
  generalize s.form.focusedField = f
  cases f
  case band => exact hform.typeSelectBand _
  case mode => exact hform.typeSelectMode _
  case callsign => exact (Form.Alike.insertChar hE hform _ _).clearLookupDisplay
  all_goals exact Form.Alike.insertChar hE hform _ _

theorem onClick (h : AppState.Alike E d s t) (hit : Hit) :
    AppState.Alike E d (s.onClick hit) (t.onClick hit) := by
  obtain ⟨y, rfl, hform, hunsent⟩ := h
  have hsame : AppState.Alike E d s { s with form := y } := ⟨y, rfl, hform, hunsent⟩
  cases hit with
  | advancedTab tab =>
      unfold AppState.onClick
      dsimp only
      split_ifs
      · exact (hsame.setAdvancedTab tab).focusForm
      · exact hsame
  | advancedField f =>
      unfold AppState.onClick
      dsimp only
      split_ifs
      · exact ⟨_, rfl, hform.setFocusField f, hunsent⟩
      · exact hsame
  | basicField f pos =>
      unfold AppState.onClick
      dsimp only
      by_cases haway : s.panes.advancedView = true ∨ f ∉ Field.basic
      · rw [if_pos haway, if_pos haway]
        exact hsame
      rw [if_neg haway, if_neg haway]
      have hcursor : Form.Alike E d
          (if f.hasBuffer then s.form.setCursor f (min pos (s.form.buffers f).length) else s.form)
          (if f.hasBuffer then y.setCursor f (min pos (y.buffers f).length) else y) := by
        split_ifs
        · exact hform.setCursor f fun hf => by rw [hform.text f hf]
        · exact hform
      exact ⟨_, rfl, { hcursor with focus := rfl }, hunsent⟩
  | listRow row =>
      unfold AppState.onClick
      dsimp only
      split_ifs
      · exact ⟨y, rfl, hform, hunsent⟩
      · exact hsame
  | listHeader =>
      unfold AppState.onClick
      dsimp only
      split_ifs
      · exact hsame
      · exact ⟨y, rfl, hform, hunsent⟩
      · exact ⟨y, rfl, hform, hunsent⟩

/-- **Step lemma.** -/
theorem wndProc (h : AppState.Alike E d s t) (input : Input) :
    ResultAlike E d (s.wndProc frequencies answers input)
      (t.wndProc frequencies answers (input.shift d)) := by
  cases input with
  | key press => exact h.onKeyDown press
  | char ch => exact (h.onChar ch).quiet
  | click hit => exact (h.onClick hit).quiet
  | doubleClick row =>
      obtain ⟨y, rfl, hform, hunsent⟩ := h
      have hselected : AppState.Alike E d { s with list := s.list.select row }
          { s with list := s.list.select row, form := y } := ⟨y, rfl, hform, hunsent⟩
      unfold AppState.wndProc AppState.onDoubleClick
      dsimp only [Input.shift]
      split_ifs
      · exact hselected.loadSelectedQso
      · exact ⟨⟨y, rfl, hform, hunsent⟩, rfl⟩
  | lookupDone res =>
      obtain ⟨y, rfl, hform, hunsent⟩ := h
      exact ⟨⟨_, rfl, Form.Alike.applyLookupResult (unread hunsent) hform res, hunsent⟩, rfl⟩
  | rigDone res =>
      obtain ⟨y, rfl, hform, hunsent⟩ := h
      cases res with
      | none => exact ⟨⟨y, rfl, hform, hunsent⟩, rfl⟩
      | some res =>
          unfold AppState.wndProc
          dsimp only [Input.shift]
          split_ifs
          · exact ⟨⟨_, rfl, Form.Alike.applyRigPollResult (unread hunsent) hform res, hunsent⟩, rfl⟩
          · exact ⟨⟨y, rfl, hform, hunsent⟩, rfl⟩
  | logDone res =>
      obtain ⟨y, rfl, hform, hunsent⟩ := h
      exact ⟨⟨_, rfl, hform.clearForm, hunsent⟩, rfl⟩
  | qsoDetailDone res =>
      obtain ⟨y, rfl, hform, hunsent⟩ := h
      cases res with
      | none => exact ⟨⟨y, rfl, hform, hunsent⟩, rfl⟩
      | some res =>
          unfold AppState.wndProc
          dsimp only [Input.shift]
          split_ifs
          · exact ⟨⟨_, rfl, hform.applyLoadedQsoDetail res.localId res.detail, hunsent⟩, rfl⟩
          · exact ⟨⟨y, rfl, hform, hunsent⟩, rfl⟩
  | _ =>
      obtain ⟨y, rfl, hform, hunsent⟩ := h
      exact ⟨⟨y, rfl, hform, hunsent⟩, rfl⟩

end AppState.Alike

/-! ### Two runs -/

section Runs

variable {frequencies : Frequencies} {backend : BackendMode} {E : List Field} {d : UInt32}
  {s t : AppState}

/-- The windows that the inputs lead to. -/
inductive Reached (frequencies : Frequencies) (backend : BackendMode) : AppState → Prop
  | start (now : SystemTime) : Reached frequencies backend (AppState.initState backend now)
  | step {s : AppState} (answers : Answers) (input : Input) :
      Reached frequencies backend s →
        Reached frequencies backend (s.wndProc frequencies answers input).1

/-- The requests of new contacts that are sent while these inputs are handled. -/
def AppState.sent (frequencies : Frequencies) :
    AppState → List (Input × Answers) → List QsrLogQsoRequest
  | _, [] => []
  | s, (input, answers) :: inputs =>
      ((s.wndProc frequencies answers input).2.bind Request.logged).toList
        ++ AppState.sent frequencies (s.wndProc frequencies answers input).1 inputs

/-- The same inputs, where `d` more lookups were started before. -/
def shifted (d : UInt32) (inputs : List (Input × Answers)) : List (Input × Answers) :=
  inputs.map fun given => (given.1.shift d, given.2)

/-- **Run lemma.**  Alike windows send the same. -/
theorem AppState.Alike.sent_eq (h : AppState.Alike E d s t) (inputs : List (Input × Answers)) :
    s.sent frequencies inputs = t.sent frequencies (shifted d inputs) := by
  induction inputs generalizing s t with
  | nil => rfl
  | cons given inputs ih =>
      obtain ⟨input, answers⟩ := given
      have hresult : ResultAlike E d (s.wndProc frequencies answers input)
        (t.wndProc frequencies answers (input.shift d)) := h.wndProc input
      show _ ++ _ = _ ++ _
      rw [hresult.request, ih hresult.state]
      rfl

theorem Input.shift_zero (input : Input) : input.shift 0 = input := by
  cases input <;> simp [Input.shift]

/-- The window starts with texts that fit. -/
theorem initState_alike (now : SystemTime) :
    AppState.Alike [] 0 (AppState.initState backend now) (AppState.initState backend now) := by
  have hempty : Form.Alike [] 0 {} {} := by
    refine ⟨rfl, rfl, rfl, rfl, rfl, rfl, rfl, rfl, fun _ _ => rfl, fun _ _ => rfl, ?_⟩
    exact fun f => ⟨Nat.zero_le _, Nat.zero_le _⟩
  have hlength : (lit "59").length ≤ 7 := by decide
  have hsent := hempty.write .rstSent (fun _ => rfl) hlength hlength
  have hrcvd := hsent.write .rstRcvd (fun _ => rfl) hlength hlength
  exact ⟨_, rfl, hrcvd.setDefaultFreq.setCurrentDateTime, List.nil_subset _⟩

/-- The texts of every window that is reached fit. -/
theorem Reached.fits (h : Reached frequencies backend s) (f : Field) :
    (s.form.buffers f).length ≤ f.size - 1 := by
  have halike : AppState.Alike [] 0 s s := by
    induction h with
    | start now => exact initState_alike now
    | @step s answers input _ ih =>
        have hnext : ResultAlike [] 0 (s.wndProc frequencies answers input)
          (s.wndProc frequencies answers (input.shift 0)) := ih.wndProc input
        rw [Input.shift_zero] at hnext
        exact hnext.state
  obtain ⟨y, -, hform, -⟩ := halike
  exact (hform.fits f).1

/-- What two runs agree on at a `ClearForm`: all but what was typed, looked up or loaded. -/
structure SameSetting (s t : AppState) : Prop where
  backend : s.backend = t.backend
  panes : s.panes = t.panes
  list : s.list = t.list
  tasks : s.tasks = t.tasks
  band : s.form.bandIdx = t.form.bandIdx
  mode : s.form.modeIdx = t.form.modeIdx

/-! ### A contact that shows what is kept -/

/-- A callsign is typed into a form that was cleared. -/
def typedForm (form : Form) (now : SystemTime) : Form :=
  ((form.clearForm now).insertChar now .callsign 75).clearLookupDisplay

theorem typedForm_callsign (form : Form) (now : SystemTime) :
    (typedForm form now).buffers .callsign = [75] := rfl

theorem typedForm_new (form : Form) (now : SystemTime) :
    (typedForm form now).editingLocalId = [] ∧ (typedForm form now).qsoTimerActive = false :=
  ⟨rfl, rfl⟩

theorem typedForm_kept (form : Form) (now : SystemTime) (f : Field) (hf : f ∈ keptFields) :
    (typedForm form now).buffers f = form.buffers f := by
  revert f
  simp only [keptFields, List.forall_mem_cons, List.not_mem_nil, IsEmpty.forall_iff, implies_true,
    and_true]
  and_intros <;> rfl

/-- Some inputs send a contact with what was kept, whatever that is. -/
def Shows (frequencies : Frequencies) (now : SystemTime) (panes : Panes) (list : QsoList)
    (tasks : Tasks) : Prop :=
  ∃ inputs, (∀ d, shifted d inputs = inputs) ∧ ∀ form : Form, ∃ saved : Form,
    (∀ f ∈ keptFields, saved.buffers f = form.buffers f)
      ∧ AppState.sent frequencies { form := form.clearForm now, panes, list, tasks } inputs
        = [fillLogRequest frequencies saved]

variable {now : SystemTime} {panes : Panes} {list : QsoList} {tasks : Tasks}

/-- Where the keys go to the form and no save is under way, a callsign and F10 do. -/
theorem shows_ready (hconfirm : panes.confirmDeleteVisible = false)
    (hhelp : panes.helpVisible = false) (hsearch : panes.searchFocused = false)
    (hlist : panes.qsoListFocused = false) (hsave : tasks.logInProgress = false) :
    Shows frequencies now panes list tasks := by
  refine ⟨[(.char 75, { now }), (.key { vk := .function 10 }, { now })], fun d => rfl,
    fun form => ⟨typedForm form now, fun f hf => typedForm_kept form now f hf, ?_⟩⟩
  have hchar (answers : Answers) (hnow : answers.now = now) :
      AppState.wndProc frequencies answers { form := form.clearForm now, panes, list, tasks }
          (.char 75)
        = ({ form := typedForm form now, panes, list, tasks }, none) := by
    unfold AppState.wndProc AppState.onChar
    dsimp only
    rw [if_neg (by decide), hsearch, hlist, hnow]
    rfl
  have hkey (answers : Answers) (hstarts : answers.starts = true) :
      AppState.wndProc frequencies answers { form := typedForm form now, panes, list, tasks }
          (.key { vk := .function 10 })
        = ({ form := typedForm form now, panes, list
             tasks := { tasks with logInProgress := true } },
            some (.logQso (fillLogRequest frequencies (typedForm form now)))) := by
    obtain ⟨hnew, htimer⟩ := typedForm_new form now
    have hcallsign := typedForm_callsign form now
    generalize typedForm form now = z at hnew htimer hcallsign ⊢
    have hglobal : AppState.globalKey frequencies answers { form := z, panes, list, tasks }
        { vk := .function 10 }
        = some (AppState.logQso frequencies answers { form := z, panes, list, tasks }) := by
      simp [AppState.globalKey]
    unfold AppState.wndProc AppState.onKeyDown
    dsimp only
    rw [if_neg (by simp [hconfirm]), if_neg (by simp [hhelp]), hglobal]
    unfold AppState.logQso
    dsimp only
    rw [hcallsign, hnew, htimer, hsave, hstarts]
    rfl
  rw [AppState.sent, hchar { now } rfl, AppState.sent, hkey { now } rfl]
  rfl

/-- An input comes before the others. -/
theorem shows_cons {panes' : Panes} {list' : QsoList} {tasks' : Tasks} (input : Input)
    (hshift : ∀ d, input.shift d = input)
    (hstep : ∀ form : Form, ∃ next : Form, (∀ f ∈ keptFields, next.buffers f = form.buffers f)
      ∧ AppState.wndProc frequencies { now }
          { form := form.clearForm now, panes, list, tasks } input
        = ({ form := next.clearForm now, panes := panes', list := list', tasks := tasks' }, none))
    (h : Shows frequencies now panes' list' tasks') : Shows frequencies now panes list tasks := by
  obtain ⟨inputs, hsame, hsent⟩ := h
  refine ⟨(input, { now }) :: inputs, fun d => ?_, fun form => ?_⟩
  · rw [shifted, List.map_cons, hshift]
    exact congrArg _ (hsame d)
  · obtain ⟨next, hnext, hresult⟩ := hstep form
    obtain ⟨saved, hsaved, hsent⟩ := hsent next
    refine ⟨saved, fun f hf => (hsaved f hf).trans (hnext f hf), ?_⟩
    rw [AppState.sent, hresult]
    exact hsent

theorem clearForm_kept (form : Form) (f : Field) (hf : f ∈ keptFields) :
    (form.clearForm now).buffers f = form.buffers f := by
  rw [Form.clearForm_buffers, if_neg]
  revert f
  decide

/-- Whatever is open or under way, some inputs show what was kept. -/
theorem shows_all (hsearch : panes.searchFocused = false) (hlist : panes.qsoListFocused = false) :
    Shows frequencies now panes list tasks := by
  -- a save that is under way ends first, then the help and the confirmation are closed
  have hsaved (panes : Panes) (hconfirm : panes.confirmDeleteVisible = false)
      (hhelp : panes.helpVisible = false) (hsearch : panes.searchFocused = false)
      (hlist : panes.qsoListFocused = false) : Shows frequencies now panes list tasks := by
    cases hsave : tasks.logInProgress with
    | false => exact shows_ready hconfirm hhelp hsearch hlist hsave
    | true =>
        have hready : Shows frequencies now
            { panes with qsoListFocused := false, searchFocused := false } list
            { tasks with logInProgress := false } := shows_ready hconfirm hhelp rfl rfl rfl
        refine shows_cons (.logDone none) (fun d => rfl) (fun form => ?_) hready
        exact ⟨form.clearForm now, clearForm_kept form, rfl⟩
  have hclosed (panes : Panes) (hconfirm : panes.confirmDeleteVisible = false)
      (hsearch : panes.searchFocused = false) (hlist : panes.qsoListFocused = false) :
      Shows frequencies now panes list tasks := by
    cases hhelp : panes.helpVisible with
    | false => exact hsaved panes hconfirm hhelp hsearch hlist
    | true =>
        have hnext := hsaved { panes with helpVisible := false } hconfirm rfl hsearch hlist
        refine shows_cons .menuHelp (fun d => rfl) (fun form => ⟨form, fun _ _ => rfl, ?_⟩) hnext
        unfold AppState.wndProc
        dsimp only
        rw [hhelp]
        rfl
  cases hconfirm : panes.confirmDeleteVisible with
  | false => exact hclosed panes hconfirm hsearch hlist
  | true =>
      have hnext := hclosed { panes with confirmDeleteVisible := false } rfl hsearch hlist
      refine shows_cons (.key { vk := .other }) (fun d => rfl)
        (fun form => ⟨form, fun _ _ => rfl, ?_⟩) hnext
      unfold AppState.wndProc AppState.onKeyDown
      dsimp only
      rw [if_pos hconfirm]
      rfl

/-! ### The result -/

theorem kept_requested (f : Field) (hf : f ∈ keptFields) : f ∈ requestFields := by
  revert f
  decide

theorem mem_unwritten (f : Field) (hf : f ∉ Form.writtenFields) :
    f ∈ shownFields ++ keptFields ∨ f.size = 0 := by
  revert hf
  cases f <;> decide

/-- **What is inherited.**  After a `ClearForm` in two runs, the same inputs send the same
new contacts exactly if the contacts go through the CLI or the runs agree on what
`ClearForm` leaves. -/
theorem sent_eq_iff_kept_eq {answers : Answers} {backend' : BackendMode}
    (hs : Reached frequencies backend s) (ht : Reached frequencies backend' t)
    (hsame : SameSetting s t) :
    (∀ inputs, (s.clearForm answers).sent frequencies inputs
        = (t.clearForm answers).sent frequencies
          (shifted (t.form.lookupGeneration - s.form.lookupGeneration) inputs))
      ↔ s.backend = .cli ∨ ∀ f ∈ keptFields, s.form.buffers f = t.form.buffers f := by
  have hfits (f : Field) : (s.form.buffers f).length ≤ f.size - 1
      ∧ (t.form.buffers f).length ≤ f.size - 1 := ⟨hs.fits f, ht.fits f⟩
  obtain ⟨backend, x, panes, list, tasks⟩ := s
  obtain ⟨backend', y, panes', list', tasks'⟩ := t
  obtain ⟨hbackend, hpanes, hlist, htasks, hband, hmode⟩ := hsame
  dsimp only at hbackend hpanes hlist htasks hband hmode hfits ⊢
  subst hbackend hpanes hlist htasks
  constructor
  · intro hall
    cases backend with
    | cli => exact .inl rfl
    | ffi =>
        refine .inr fun f hf => ?_
        -- the inputs that show what was kept send the same from both
        have hshows : Shows frequencies answers.now
            { panes with qsoListFocused := false, searchFocused := false } list tasks :=
          shows_all rfl rfl
        obtain ⟨inputs, hshift, hsent⟩ := hshows
        obtain ⟨saved, hsaved, hsent_x⟩ := hsent x
        obtain ⟨saved', hsaved', hsent_y⟩ := hsent y
        have hrequests := hall inputs
        rw [hshift] at hrequests
        have hsame := List.singleton_inj.mp (hsent_x.symm.trans (hrequests.trans hsent_y))
        have htexts := congrFun (congrArg QsrLogQsoRequest.texts hsame) f
        dsimp only [fillLogRequest] at htexts
        rw [if_pos (kept_requested f hf), if_pos (kept_requested f hf), hsaved f hf, hsaved' f hf,
          safeStrcpy, safeStrcpy, List.take_of_length_le (hfits f).1,
          List.take_of_length_le (hfits f).2] at htexts
        exact htexts
  · intro hkept
    have hd : y.lookupGeneration
        = x.lookupGeneration + (y.lookupGeneration - x.lookupGeneration) := by simp
    obtain ⟨E, hunsent, htext⟩ : ∃ E, E ⊆ unsentFields backend
        ∧ ∀ f ∉ E, f ∈ shownFields ++ keptFields → x.buffers f = y.buffers f := by
      rcases hkept with rfl | hkept
      · exact ⟨shownFields ++ keptFields, List.Subset.refl _, fun f hf hin => absurd hin hf⟩
      · refine ⟨shownFields, ?_, fun f hf hin => ?_⟩
        · cases backend with
          | ffi => exact List.Subset.refl _
          | cli => exact List.subset_append_left _ _
        · exact hkept f ((List.mem_append.mp hin).resolve_left hf)
    have hcleared : Form.Alike.Cleared E x y := by
      refine ⟨hband, hmode, fun f hf hwritten => ?_, hfits⟩
      rcases mem_unwritten f hwritten with hin | hsize
      · exact htext f hf hin
      · have hboth := hfits f
        rw [hsize] at hboth
        rw [List.length_eq_zero_iff.mp (Nat.le_zero.mp hboth.1),
          List.length_eq_zero_iff.mp (Nat.le_zero.mp hboth.2)]
    have hform : Form.Alike E (y.lookupGeneration - x.lookupGeneration)
        (x.clearForm answers.now) (y.clearForm answers.now) :=
      Form.Alike.clearForm_of_cleared hcleared hd
    exact fun inputs => AppState.Alike.sent_eq ⟨_, rfl, hform, hunsent⟩ inputs

end Runs

/-! ### A contact that is loaded -/

/-- Noon. -/
def noon : Answers := { now := ⟨2024, 5, 1, 12, 0⟩ }

/-- The window before any input. -/
def atStart : AppState := AppState.initState .ffi noon.now

/-- The window after an input. -/
def after (input : Input) : AppState := (atStart.wndProc noFrequencies noon input).1

theorem reached_after (input : Input) : Reached noFrequencies .ffi (after input) :=
  .step noon input (.start noon.now)

/-- A new contact is typed and saved. -/
def newContact : List (Input × Answers) := [(.char 75, noon), (.key { vk := .function 10 }, noon)]

/-- A callsign that was typed is not inherited. -/
theorem sent_eq_typed :
    ((after (.char 75)).clearForm noon).sent noFrequencies newContact
      = (atStart.clearForm noon).sent noFrequencies
        (shifted (atStart.form.lookupGeneration - (after (.char 75)).form.lookupGeneration)
          newContact) :=
  (sent_eq_iff_kept_eq (reached_after (.char 75)) (.start noon.now)
    ⟨rfl, rfl, rfl, rfl, rfl, rfl⟩).mpr (.inr (by decide +kernel)) newContact

/-- A contact with this QRZ log id is loaded for editing. -/
def loadedContact : Input :=
  .qsoDetailDone (some
    { loaded := true, localId := lit "a"
      detail := { texts := fun f => if f = .qrzLogId then lit "1" else [] } })

/-- Its QRZ log id is sent with the next contact. -/
theorem not_sent_eq_loaded :
    ¬ ∀ (frequencies : Frequencies) (backend backend' : BackendMode) (s t : AppState)
      (answers : Answers), Reached frequencies backend s → Reached frequencies backend' t →
      SameSetting s t → ∀ inputs, (s.clearForm answers).sent frequencies inputs
        = (t.clearForm answers).sent frequencies
          (shifted (t.form.lookupGeneration - s.form.lookupGeneration) inputs) := by
  intro hall
  have hsame : SameSetting (after loadedContact) atStart := by
    refine ⟨rfl, rfl, rfl, rfl, ?_, ?_⟩ <;> decide +kernel
  have hsent := hall noFrequencies .ffi .ffi _ _ noon (reached_after loadedContact)
    (.start noon.now) hsame newContact
  have hids := congrArg (List.map fun req => req.texts .qrzLogId) hsent
  revert hids
  decide +kernel

end QsoRipper.Win32
