/-
QsoRipper/Tui/Provenance.lean

Which form is on screen, through every handler.  A handler edits the form there is, or
puts a new one in its place; a new form comes with the editing id of the row it was
loaded from.
-/
import QsoRipper.Tui.App

namespace QsoRipper.Tui

/-! ### Editing keeps the form -/

namespace LogForm

variable (form : LogForm)

@[simp] theorem setText_provenance (f : Field) (value : String) :
    (form.setText f value).provenance = form.provenance := rfl

@[simp] theorem setTimestamp_provenance (now : Now) :
    (form.setTimestamp now).provenance = form.provenance := rfl

@[simp] theorem onModeChange_provenance : form.onModeChange.provenance = form.provenance := rfl

@[simp] theorem onBandChange_provenance : form.onBandChange.provenance = form.provenance := rfl

@[simp] theorem new_provenance (now : Now) (provenance : Provenance) :
    (new now provenance).provenance = provenance := rfl

@[simp] theorem setExplicitTimestamp_provenance (now : Now) :
    (form.setExplicitTimestamp now).provenance = form.provenance := rfl

@[simp] theorem refreshAutomaticTimestamp_provenance (now : Now) :
    (form.refreshAutomaticTimestamp now).provenance = form.provenance := by
  rw [refreshAutomaticTimestamp]
  split_ifs <;> rfl

@[simp] theorem focus_provenance (f : Field) : (form.focus f).provenance = form.provenance := rfl

@[simp] theorem openTab_provenance (tab : AdvancedTab) :
    (form.openTab tab).provenance = form.provenance := rfl

@[simp] theorem moveCursorLeft_provenance : form.moveCursorLeft.provenance = form.provenance := by
  rw [moveCursorLeft]
  split_ifs <;> rfl

@[simp] theorem moveCursorRight_provenance :
    form.moveCursorRight.provenance = form.provenance := by
  unfold moveCursorRight
  dsimp only
  split_ifs <;> rfl

@[simp] theorem moveCursorHome_provenance : form.moveCursorHome.provenance = form.provenance := by
  rw [moveCursorHome]
  split_ifs <;> rfl

@[simp] theorem moveCursorEnd_provenance : form.moveCursorEnd.provenance = form.provenance := by
  rw [moveCursorEnd]
  split_ifs <;> rfl

@[simp] theorem touch_provenance : form.touch.provenance = form.provenance := by
  rw [touch]
  split_ifs <;> rfl

@[simp] theorem setFocusedText_provenance (value : List Char) :
    (form.setFocusedText value).provenance = form.provenance := by
  rw [setFocusedText]
  split_ifs <;> rfl

@[simp] theorem clearFocused_provenance : form.clearFocused.provenance = form.provenance := by
  simp [clearFocused]

@[simp] theorem insertCharAtCursor_provenance (ch : Char) :
    (form.insertCharAtCursor ch).provenance = form.provenance := by
  unfold insertCharAtCursor
  dsimp only
  split_ifs <;> simp

@[simp] theorem backspaceAtCursor_provenance :
    form.backspaceAtCursor.provenance = form.provenance := by
  unfold backspaceAtCursor
  dsimp only
  split_ifs <;> simp

@[simp] theorem deleteAtCursor_provenance :
    form.deleteAtCursor.provenance = form.provenance := by
  unfold deleteAtCursor
  dsimp only
  split_ifs <;> simp

@[simp] theorem clearFocusedTextField_provenance :
    form.clearFocusedTextField.provenance = form.provenance := by
  simp [clearFocusedTextField]

@[simp] theorem setBand_provenance (bandIdx : Fin 13) :
    (form.setBand bandIdx).provenance = form.provenance := rfl

@[simp] theorem setMode_provenance (modeIdx : Fin 8) :
    (form.setMode modeIdx).provenance = form.provenance := rfl

@[simp] theorem typeSelectBand_provenance (ch : Char) :
    (form.typeSelectBand ch).provenance = form.provenance := by
  rw [typeSelectBand]
  cases typeSelect bands ch form.bandIdx <;> rfl

@[simp] theorem typeSelectMode_provenance (ch : Char) :
    (form.typeSelectMode ch).provenance = form.provenance := by
  rw [typeSelectMode]
  cases typeSelect modes ch form.modeIdx <;> rfl

end LogForm

@[simp] theorem fillEmpty_provenance (form : LogForm) (f : Field) (value : Option String) :
    (App.fillEmpty form f value).provenance = form.provenance := by
  unfold App.fillEmpty
  cases value with
  | none => rfl
  | some value =>
      dsimp only
      split_ifs <;> rfl

@[simp] theorem tuneForm_provenance (form : LogForm) (info : RigInfo) :
    (App.tuneForm form info).provenance = form.provenance := by
  rw [App.tuneForm]
  split_ifs <;> rfl

/-! ### The same form, or a new one -/

/-- The editing id is that of the row the form was loaded from. -/
def App.Linked (app : App) : Prop := app.editingLocalId = app.form.provenance.loadedFrom

/-- The form is the one there was, with its editing id, or a new one. -/
inductive App.Follows (app app' : App) : Prop
  | same (hform : app'.form.provenance = app.form.provenance)
      (hid : app'.editingLocalId = app.editingLocalId)
  | new (hserial : app.form.provenance.serial < app'.form.provenance.serial) (hlinked : app'.Linked)

namespace App

variable {formats : Formats} {now : Now} {app app' : App}

theorem Follows.refl : app.Follows app := .same rfl rfl

theorem Follows.linked (h : app.Follows app') (hlinked : app.Linked) : app'.Linked := by
  cases h with
  | same hform hid =>
      show app'.editingLocalId = app'.form.provenance.loadedFrom
      rw [hid, hform]
      exact hlinked
  | new _ hlinked' => exact hlinked'

theorem Follows.serial_le (h : app.Follows app') :
    app.form.provenance.serial ≤ app'.form.provenance.serial := by
  cases h with
  | same hform _ => rw [hform]
  | new hserial _ => exact hserial.le

/-- A form that is edited after a new one was made. -/
theorem Follows.edit {app'' : App} (h : app.Follows app')
    (hform : app''.form.provenance = app'.form.provenance)
    (hid : app''.editingLocalId = app'.editingLocalId) : app.Follows app'' := by
  cases h with
  | same hform' hid' => exact .same (hform.trans hform') (hid.trans hid')
  | new hserial hlinked =>
      refine .new ?_ ?_
      · rw [hform]
        exact hserial
      · show app''.editingLocalId = app''.form.provenance.loadedFrom
        rw [hform, hid]
        exact hlinked

theorem clearForm_follows : app.Follows (app.clearForm now) := .new (Nat.lt_succ_self _) rfl

theorem loadQsoIntoForm_follows (localId : String) :
    app.Follows (app.loadQsoIntoForm formats now localId) := by
  rw [loadQsoIntoForm]
  cases app.recentQsos.find? (·.localId == localId) with
  | none => exact .refl
  | some qso => exact .new (Nat.lt_succ_self _) rfl

theorem handleSearchKey_follows (key : KeyEvent) :
    app.Follows (app.handleSearchKey formats key) := by
  unfold handleSearchKey
  split
  all_goals try split_ifs
  all_goals exact .same rfl rfl

theorem handleQsoListKey_follows (key : KeyEvent) :
    app.Follows (app.handleQsoListKey formats now key) := by
  unfold handleQsoListKey
  dsimp only
  generalize app.qsoSelected.bind _ = selectedId
  split
  -- a row is loaded into the basic view, or into the advanced one
  case h_5 =>
    cases selectedId with
    | none => exact .same rfl rfl
    | some localId => exact loadQsoIntoForm_follows localId
  case h_6 =>
    cases selectedId with
    | none => exact .same rfl rfl
    | some localId => exact (loadQsoIntoForm_follows localId).edit rfl rfl
  all_goals try cases selectedId
  all_goals try split_ifs
  all_goals exact .same rfl rfl

theorem handleConfirmDeleteKey_follows (key : KeyEvent) :
    app.Follows (app.handleConfirmDeleteKey key).1 := by
  unfold handleConfirmDeleteKey
  split <;> exact .same rfl rfl

theorem handleConfirmPurgeKey_follows (key : KeyEvent) :
    app.Follows (app.handleConfirmPurgeKey key).1 := by
  unfold handleConfirmPurgeKey
  split <;> exact .same rfl rfl

theorem handleCharKey_follows (c : Char) : app.Follows (app.handleCharKey now c) := by
  refine .same ?_ rfl
  unfold handleCharKey
  dsimp only
  split <;> simp only [LogForm.typeSelectBand_provenance, LogForm.typeSelectMode_provenance,
    LogForm.insertCharAtCursor_provenance]
  all_goals split_ifs <;> simp

theorem jumpToField_follows (ch : Char) : app.Follows (app.jumpToField ch) := by
  unfold jumpToField
  dsimp only
  cases digitToTab ch with
  | some tab => exact .same rfl rfl
  | none =>
      dsimp only
      split_ifs
      · exact .same rfl rfl
      · exact .same rfl rfl
      · cases jumpTarget ch.toLower with
        | none => exact .same rfl rfl
        | some target =>
            obtain ⟨f, tab⟩ := target
            dsimp only
            split_ifs
            · exact .same rfl rfl
            · cases tab <;> exact .same rfl rfl

theorem handleFormKey_follows (key : KeyEvent) :
    app.Follows (app.handleFormKey formats now key).1 := by
  unfold handleFormKey
  dsimp only
  split
  all_goals try split_ifs
  all_goals try cases app.view
  all_goals try exact clearForm_follows
  all_goals try exact handleCharKey_follows _
  all_goals try exact jumpToField_follows _
  all_goals refine .same ?_ rfl
  all_goals dsimp only
  all_goals try split
  all_goals simp

theorem handleKey_follows (key : KeyEvent) : app.Follows (app.handleKey formats now key).1 := by
  unfold handleKey
  split_ifs
  · exact .same rfl rfl
  · exact .same rfl rfl
  · split
    · exact .same rfl rfl
    · exact handleConfirmDeleteKey_follows key
    · exact handleConfirmPurgeKey_follows key
    · exact handleSearchKey_follows key
  · split
    · exact .same rfl rfl
    · exact handleConfirmDeleteKey_follows key
    · exact handleConfirmPurgeKey_follows key
    · exact handleQsoListKey_follows key
  · split
    · exact .same rfl rfl
    · exact handleConfirmDeleteKey_follows key
    · exact handleConfirmPurgeKey_follows key
    · exact handleFormKey_follows key

theorem applyLookupResult_follows (result : Option CallsignInfo) :
    app.Follows (app.applyLookupResult result) := by
  unfold applyLookupResult
  dsimp only
  cases result with
  | none =>
      dsimp only
      split_ifs <;> exact .same rfl rfl
  | some info =>
      dsimp only
      split_ifs
      · refine .same ?_ rfl
        simp
      · exact .refl

@[simp] theorem trackFrequency_provenance (info : RigInfo) :
    (app.trackFrequency info).form.provenance = app.form.provenance := by
  unfold trackFrequency
  dsimp only
  split_ifs <;> rfl

@[simp] theorem trackFrequency_editingLocalId (info : RigInfo) :
    (app.trackFrequency info).editingLocalId = app.editingLocalId := by
  unfold trackFrequency
  dsimp only
  split_ifs <;> rfl

@[simp] theorem trackDefaults_provenance (info : RigInfo) :
    (app.trackDefaults info).form.provenance = app.form.provenance := by
  unfold trackDefaults
  dsimp only
  cases info.txPower <;> dsimp only <;> split_ifs <;> rfl

@[simp] theorem trackDefaults_editingLocalId (info : RigInfo) :
    (app.trackDefaults info).editingLocalId = app.editingLocalId := by
  unfold trackDefaults
  dsimp only
  cases info.txPower <;> dsimp only <;> split_ifs <;> rfl

theorem applyRigSnapshot_follows (rig : Option RigInfo) :
    app.Follows (app.applyRigSnapshot rig) := by
  unfold applyRigSnapshot
  cases rig with
  | none => exact .refl
  | some info =>
      dsimp only
      split_ifs
      · refine .same ?_ ?_
        · simp
        · simp
      · exact .refl

theorem setRecentQsos_follows (qsos : List RecentQso) :
    app.Follows (app.setRecentQsos formats qsos) := by
  unfold setRecentQsos
  dsimp only
  cases app.qsoSelected with
  | none => exact .same rfl rfl
  | some sel =>
      dsimp only
      split_ifs <;> exact .same rfl rfl

end App

end QsoRipper.Tui
