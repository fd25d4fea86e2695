/-
QsoRipper/Win32/Content.lean

What the form shows after it is cleared and after a contact is loaded, field by field.
-/
import QsoRipper.Win32.Window

namespace QsoRipper.Win32

namespace Form

/-- What a field shows. -/
def content (form : Form) : Field → CString
  | .band => bands form.bandIdx
  | .mode => modes form.modeIdx
  | f => form.buffers f

/-- The fields that `ClearForm` writes. -/
def writtenFields : List Field :=
  clearedFields ++ [.freq, .date, .time, .rstSent, .rstRcvd]

/-- The text that a field starts a new contact with. -/
def startText (form : Form) (now : SystemTime) : Field → CString
  | .freq => radioStyle (bandDefaultFreqs form.bandIdx)
  | .date => safeStrcpy 16 now.date
  | .time => safeStrcpy 16 now.time
  | .rstSent | .rstRcvd => defaultRst (modes form.modeIdx)
  | _ => []

/-- The text that a field has of a stored contact. -/
def storedText (frequencies : Frequencies) (form : Form) (localId : CString)
    (detail : QsrQsoDetail) : Field → CString
  | .band => bands (matchIndex bands detail.band form.bandIdx)
  | .mode => modes (matchIndex modes detail.mode form.modeIdx)
  | .freq =>
      if detail.freqMhz = [] then
        radioStyle (bandDefaultFreqs (matchIndex bands detail.band form.bandIdx))
      else radioStyle (frequencies.hz detail.freqMhz)
  | .rstSent =>
      safeStrcpy 8 (if detail.texts .rstSent = [] then lit "59" else detail.texts .rstSent)
  | .rstRcvd =>
      safeStrcpy 8 (if detail.texts .rstRcvd = [] then lit "59" else detail.texts .rstRcvd)
  | .qth => []
  | .localId => safeStrcpy 64 localId
  | f => safeStrcpy f.size (detail.texts f)

variable {frequencies : Frequencies} {now : SystemTime} (form : Form)

@[simp] theorem write_buffers (f g : Field) (text : CString) :
    (form.write f text).buffers g = if g = f then text else form.buffers g :=
  Function.update_apply ..

@[simp] theorem copy_buffers (f g : Field) (src : CString) :
    (form.copy f src).buffers g = if g = f then safeStrcpy f.size src else form.buffers g :=
  form.write_buffers ..

theorem clearForm_buffers (f : Field) :
    (form.clearForm now).buffers f
      = if f ∈ writtenFields then form.startText now f else form.buffers f := by
  rw [clearForm]
  dsimp only [applyModeDefaults, setCursor, setFocusField, setCurrentDateTime, setDefaultFreq]
  simp only [write_buffers, copy_buffers]
  cases f <;> simp [writtenFields, clearedFields, startText, Field.size, write, copy]

theorem content_clearForm (f : Field) :
    (form.clearForm now).content f
      = if f ∈ writtenFields then form.startText now f else form.content f := by
  cases f
  case band => rfl
  case mode => rfl
  all_goals exact form.clearForm_buffers _

theorem applyLoadedQsoDetail_buffers (localId : CString) (detail : QsrQsoDetail) (f : Field)
    (hf : f.hasBuffer = true) :
    (form.applyLoadedQsoDetail frequencies now localId detail).buffers f
      = form.storedText frequencies localId detail f := by
  rw [applyLoadedQsoDetail]
  dsimp only [List.foldl, cursorToEnd, setCursor, setFocusField]
  simp only [copy_buffers, apply_ite Form.buffers, ite_apply, write_buffers, setDefaultFreq]
  have hqth : (form.clearForm now).buffers .qth = [] := form.clearForm_buffers .qth
  have htimeOff : (form.clearForm now).buffers .timeOff = [] := form.clearForm_buffers .timeOff
  cases f
  case timeOff =>
    by_cases htext : detail.texts .timeOff = []
    · simp [htext, htimeOff, loadedFields, storedText, safeStrcpy]
    · simp [htext, storedText]
  case qth => simp [hqth, loadedFields, storedText]
  case freq =>
    have hband : (form.clearForm now).bandIdx = form.bandIdx := rfl
    simp [storedText, hband]
  case band => cases hf
  case mode => cases hf
  all_goals simp [loadedFields, storedText, Field.size]

theorem applyLoadedQsoDetail_index (localId : CString) (detail : QsrQsoDetail) :
    (form.applyLoadedQsoDetail frequencies now localId detail).bandIdx
        = matchIndex bands detail.band form.bandIdx
      ∧ (form.applyLoadedQsoDetail frequencies now localId detail).modeIdx
        = matchIndex modes detail.mode form.modeIdx := by
  rw [applyLoadedQsoDetail]
  dsimp only [List.foldl, cursorToEnd, setCursor, setFocusField]
  constructor
  · simp only [copy, write, setDefaultFreq, apply_ite Form.bandIdx, ite_self]
    rfl
  · simp only [copy, write, setDefaultFreq, apply_ite Form.modeIdx, ite_self]
    rfl

/-- A loaded contact is in every field. -/
theorem content_applyLoadedQsoDetail (localId : CString) (detail : QsrQsoDetail) (f : Field) :
    (form.applyLoadedQsoDetail frequencies now localId detail).content f
      = form.storedText frequencies localId detail f := by
  obtain ⟨hband, hmode⟩ :=
    @applyLoadedQsoDetail_index frequencies now form localId detail
  cases f
  case band => exact congrArg bands hband
  case mode => exact congrArg modes hmode
  all_goals exact form.applyLoadedQsoDetail_buffers localId detail _ rfl

end Form

end QsoRipper.Win32
