/-
QsoRipper/Win32/Alike.lean

Two forms that differ in some fields only, and in the number of lookups that were
started.  Each operation on the form keeps them so, as long as it does not read one
of these fields into another.
-/
import QsoRipper.Win32.Content

namespace QsoRipper.Win32

/-! ### The fields that are not read -/

/-- The fields of the advanced view that `ClearForm` leaves and a request has. -/
def keptFields : List Field :=
  [.stationCallsign, .workedOperatorCallsign, .qslSentStatus, .qslSentDate, .qslRcvdStatus,
    .qslRcvdDate, .lotwSent, .lotwRcvd, .eqslSent, .eqslRcvd, .qrzLogId, .qrzBookId,
    .snapshotStationCallsign, .snapshotOperatorCallsign, .snapshotProfile, .snapshotOperatorName,
    .snapshotGrid, .snapshotCountry, .snapshotState, .snapshotCounty, .snapshotArrlSection,
    .snapshotDxcc, .snapshotCqZone, .snapshotItuZone, .snapshotLatitude, .snapshotLongitude,
    .cwRxWpm, .cwTranscript, .extraFields]

/-- The fields that are only shown. -/
def shownFields : List Field := [.localId, .syncStatus, .createdAt, .updatedAt]

/-- The fields that nothing which is sent depends on. -/
def unsentFields : BackendMode → List Field
  | .ffi => shownFields
  | .cli => shownFields ++ keptFields

/-! ### Forms -/

/-- Two forms that differ only in the fields `E` and in their lookups, of which the
second has started `d` more; with texts that fit. -/
structure Form.Alike (E : List Field) (d : UInt32) (x y : Form) : Prop where
  focus : x.focusedField = y.focusedField
  selected : x.fieldAllSelected = y.fieldAllSelected
  band : x.bandIdx = y.bandIdx
  mode : x.modeIdx = y.modeIdx
  timer : x.qsoTimerActive = y.qsoTimerActive
  timestamp : x.timestampAutomatic = y.timestampAutomatic
  editing : x.editingLocalId = y.editingLocalId
  generation : y.lookupGeneration = x.lookupGeneration + d
  text : ∀ f ∉ E, x.buffers f = y.buffers f
  cursor : ∀ f ∉ E, x.cursorPos f = y.cursorPos f
  fits : ∀ f, (x.buffers f).length ≤ f.size - 1 ∧ (y.buffers f).length ≤ f.size - 1

namespace Form.Alike

variable {E : List Field} {d : UInt32} {x y : Form} {now : SystemTime} {frequencies : Frequencies}

theorem safeStrcpy_fits (f : Field) (src : CString) :
    (safeStrcpy f.size src).length ≤ f.size - 1 := List.length_take_le ..

/-! ### Writing -/

theorem write (h : Alike E d x y) (f : Field) {text text' : CString}
    (htext : f ∉ E → text = text') (hfits : text.length ≤ f.size - 1)
    (hfits' : text'.length ≤ f.size - 1) : Alike E d (x.write f text) (y.write f text') :=
  { h with
    text := by
      intro g hg
      by_cases hgf : g = f
      · subst hgf
        simp only [Form.write, Function.update_self]
        exact htext hg
      · simp only [Form.write, Function.update_of_ne hgf]
        exact h.text g hg
    fits := by
      intro g
      by_cases hgf : g = f
      · subst hgf
        simp only [Form.write, Function.update_self]
        exact ⟨hfits, hfits'⟩
      · simp only [Form.write, Function.update_of_ne hgf]
        exact h.fits g }

theorem setCursor (h : Alike E d x y) (f : Field) {pos pos' : ℕ} (hpos : f ∉ E → pos = pos') :
    Alike E d (x.setCursor f pos) (y.setCursor f pos') :=
  { h with
    cursor := by
      intro g hg
      by_cases hgf : g = f
      · subst hgf
        simp only [Form.setCursor, Function.update_self]
        exact hpos hg
      · simp only [Form.setCursor, Function.update_of_ne hgf]
        exact h.cursor g hg }

theorem cursorToEnd (h : Alike E d x y) (f : Field) :
    Alike E d (x.cursorToEnd f) (y.cursorToEnd f) :=
  h.setCursor f fun hf => congrArg List.length (h.text f hf)

theorem copy (h : Alike E d x y) (f : Field) (src : CString) :
    Alike E d (x.copy f src) (y.copy f src) :=
  h.write f (fun _ => rfl) (safeStrcpy_fits f src) (safeStrcpy_fits f src)

theorem fill (h : Alike E d x y) (f : Field) (src : CString) :
    Alike E d (x.fill f src) (y.fill f src) := (h.copy f src).cursorToEnd f

theorem setCurrentDateTime (h : Alike E d x y) :
    Alike E d (x.setCurrentDateTime now) (y.setCurrentDateTime now) :=
  (h.copy .date now.date).copy .time now.time

theorem setFocusField (h : Alike E d x y) (f : Field) :
    Alike E d (x.setFocusField f) (y.setFocusField f) :=
  { h with focus := rfl, selected := rfl }

theorem selectNone (h : Alike E d x y) :
    Alike E d { x with fieldAllSelected := false } { y with fieldAllSelected := false } :=
  { h with selected := rfl }

theorem defaultRst_fits (mode : CString) : (defaultRst mode).length ≤ 7 := by
  unfold defaultRst
  split_ifs <;> decide

theorem edit (h : Alike E d x y) (id : CString) :
    Alike E d { x with editingLocalId := id } { y with editingLocalId := id } :=
  { h with editing := rfl }

theorem applyModeDefaults (h : Alike E d x y) :
    Alike E d x.applyModeDefaults y.applyModeDefaults := by
  unfold Form.applyModeDefaults
  rw [← h.mode]
  have hfits := defaultRst_fits (modes x.modeIdx)
  have hsent := h.write .rstSent (fun _ => rfl) hfits hfits
  have hrcvd := hsent.write .rstRcvd (fun _ => rfl) hfits hfits
  exact (hrcvd.setCursor .rstSent fun _ => rfl).setCursor .rstRcvd fun _ => rfl

theorem radioStyle_fits (hz : ℕ) : (radioStyle hz).length ≤ 15 := List.length_take_le ..

theorem setDefaultFreq (h : Alike E d x y) : Alike E d x.setDefaultFreq y.setDefaultFreq := by
  unfold Form.setDefaultFreq
  rw [← h.band]
  exact h.write .freq (fun _ => rfl) (radioStyle_fits _) (radioStyle_fits _)

theorem setBand (h : Alike E d x y) (i : Fin 13) : Alike E d (x.setBand i) (y.setBand i) := by
  have hband : Alike E d { x with bandIdx := i } { y with bandIdx := i } := { h with band := rfl }
  exact hband.setDefaultFreq.cursorToEnd .freq

theorem setMode (h : Alike E d x y) (i : Fin 8) : Alike E d (x.setMode i) (y.setMode i) := by
  have hmode : Alike E d { x with modeIdx := i } { y with modeIdx := i } := { h with mode := rfl }
  exact hmode.applyModeDefaults

theorem typeSelectBand (h : Alike E d x y) (c : UInt8) :
    Alike E d (x.typeSelectBand c) (y.typeSelectBand c) := by
  unfold Form.typeSelectBand
  rw [← h.band]
  cases typeSelect bands c x.bandIdx with
  | none => exact h
  | some i => exact h.setBand i

theorem typeSelectMode (h : Alike E d x y) (c : UInt8) :
    Alike E d (x.typeSelectMode c) (y.typeSelectMode c) := by
  unfold Form.typeSelectMode
  rw [← h.mode]
  cases typeSelect modes c x.modeIdx with
  | none => exact h
  | some i => exact h.setMode i

/-! ### Editing -/

theorem touch (h : Alike E d x y) (f : Field) : Alike E d (x.touch f) (y.touch f) := by
  unfold Form.touch
  split_ifs
  · exact { h with timestamp := rfl }
  · exact h

theorem eraseSelected (h : Alike E d x y) (f : Field) :
    Alike E d (x.eraseSelected f) (y.eraseSelected f) := by
  unfold Form.eraseSelected
  refine selectNone (setCursor ?_ f fun _ => rfl)
  cases f.hasBuffer with
  | true => exact h.write f (fun _ => rfl) (Nat.zero_le _) (Nat.zero_le _)
  | false => exact h.write f (h.text f) (h.fits f).1 (h.fits f).2

theorem maxLen_le (f : Field) (hf : f.hasBuffer = true) : 1 < f.maxLen ∧ f.maxLen ≤ f.size := by
  cases f <;> first | decide | cases hf

/-- The text with a character inserted. -/
def inserted (form : Form) (f : Field) (c : UInt8) : CString :=
  let buf := form.buffers f
  let pos := min (form.cursorPos f) buf.length
  let buf := (buf.take pos ++ c :: buf.drop pos).takeWhile (· ≠ 0)
  if f = .callsign then buf.map toupper else buf

theorem length_inserted (form : Form) (f : Field) (c : UInt8) :
    (inserted form f c).length ≤ (form.buffers f).length + 1 := by
  have htake (buf : CString) : (buf.takeWhile (· ≠ 0)).length ≤ buf.length :=
    (List.takeWhile_sublist _).length_le
  unfold inserted
  dsimp only
  split_ifs
  all_goals
    first | rw [List.length_map] | skip
    refine (htake _).trans ?_
    simp only [List.length_append, List.length_take, List.length_cons, List.length_drop]
    omega

theorem write_self (form : Form) (f : Field) :
    (form.write f (form.buffers f)).setCursor f (form.cursorPos f) = form := by
  simp [Form.write, Form.setCursor]

/-- A field gets a text and a cursor that are the same unless it is one of `E`. -/
theorem put (h : Alike E d x y) (f : Field) {text text' : CString} {pos pos' : ℕ}
    (htext : f ∉ E → text = text') (hpos : f ∉ E → pos = pos') (hfits : text.length ≤ f.size - 1)
    (hfits' : text'.length ≤ f.size - 1) :
    Alike E d ((x.write f text).setCursor f pos) ((y.write f text').setCursor f pos') :=
  (h.write f htext hfits hfits').setCursor f hpos

/-- A character goes into the text, if there is room. -/
def insertInto (form : Form) (f : Field) (c : UInt8) : Form :=
  if !f.hasBuffer || f.maxLen - 1 ≤ (form.buffers f).length then form
  else (form.write f (inserted form f c)).setCursor f
    (min (form.cursorPos f) (form.buffers f).length + 1)

theorem inserted_fits {form : Form} {f : Field} {c : UInt8}
    (hroom : ¬(!f.hasBuffer || f.maxLen - 1 ≤ (form.buffers f).length) = true) :
    (inserted form f c).length ≤ f.size - 1 := by
  obtain ⟨hbuffer, hroom⟩ : f.hasBuffer = true ∧ (form.buffers f).length + 1 < f.maxLen := by
    simpa using hroom
  have hmax := maxLen_le f hbuffer
  have hlength := length_inserted form f c
  omega

theorem insertInto_eq {form : Form} {f : Field} {c : UInt8}
    (hfits : (form.buffers f).length ≤ f.size - 1) :
    ∃ text pos, text.length ≤ f.size - 1
      ∧ insertInto form f c = (form.write f text).setCursor f pos := by
  unfold insertInto
  split_ifs with hfull
  · exact ⟨_, _, hfits, (write_self form f).symm⟩
  · exact ⟨_, _, inserted_fits hfull, rfl⟩

theorem insertInto_alike (h : Alike E d x y) (f : Field) (c : UInt8) :
    Alike E d (insertInto x f c) (insertInto y f c) := by
  by_cases hf : f ∈ E
  · obtain ⟨text, pos, hfits, heq⟩ := insertInto_eq (c := c) (h.fits f).1
    obtain ⟨text', pos', hfits', heq'⟩ := insertInto_eq (c := c) (h.fits f).2
    rw [heq, heq']
    exact h.put f (fun hout => absurd hf hout) (fun hout => absurd hf hout) hfits hfits'
  · have hinserted : inserted y f c = inserted x f c := by
      unfold inserted
      rw [h.text f hf, h.cursor f hf]
    unfold insertInto
    rw [← h.text f hf, ← h.cursor f hf, hinserted]
    split_ifs with hfull
    · exact h
    · exact h.put f (fun _ => rfl) (fun _ => rfl) (inserted_fits hfull) (inserted_fits hfull)

/-- The form as a character is about to go into it. -/
def readied (now : SystemTime) (form : Form) (f : Field) : Form :=
  let start :=
    if (f = .callsign ∧ (form.buffers .callsign = [] ∨ form.fieldAllSelected))
        ∧ (form.touch f).timestampAutomatic ∧ ¬ (form.touch f).qsoTimerActive
        ∧ (form.touch f).editingLocalId = []
    then (form.touch f).setCurrentDateTime now else form.touch f
  if start.fieldAllSelected then start.eraseSelected f else start

theorem insertChar_eq (form : Form) (f : Field) (c : UInt8) :
    form.insertChar now f c = insertInto (readied now form f) f c := rfl

theorem eraseIfSelected (h : Alike E d x y) (f : Field) :
    Alike E d (if x.fieldAllSelected then x.eraseSelected f else x)
      (if y.fieldAllSelected then y.eraseSelected f else y) := by
  rw [← h.selected]
  split_ifs
  · exact h.eraseSelected f
  · exact h

/-- A character is taken out of the text. -/
def deleteFrom (form : Form) (f : Field) : Form :=
  if !f.hasBuffer || form.cursorPos f = 0 then form
  else (form.write f ((form.buffers f).eraseIdx (form.cursorPos f - 1))).setCursor f
    (form.cursorPos f - 1)

theorem deleteFrom_eq {form : Form} {f : Field} (hfits : (form.buffers f).length ≤ f.size - 1) :
    ∃ text pos, text.length ≤ f.size - 1
      ∧ deleteFrom form f = (form.write f text).setCursor f pos := by
  unfold deleteFrom
  split_ifs
  · exact ⟨_, _, hfits, (write_self form f).symm⟩
  · exact ⟨_, _, (List.length_eraseIdx_le ..).trans hfits, rfl⟩

theorem deleteFrom_alike (h : Alike E d x y) (f : Field) :
    Alike E d (deleteFrom x f) (deleteFrom y f) := by
  obtain ⟨text, pos, hfits, heq⟩ := deleteFrom_eq (h.fits f).1
  obtain ⟨text', pos', hfits', heq'⟩ := deleteFrom_eq (h.fits f).2
  by_cases hf : f ∈ E
  · rw [heq, heq']
    exact h.put f (fun hout => absurd hf hout) (fun hout => absurd hf hout) hfits hfits'
  · have herase := List.length_eraseIdx_le (x.buffers f) (x.cursorPos f - 1)
    unfold deleteFrom
    rw [← h.text f hf, ← h.cursor f hf]
    split_ifs
    · exact h
    · exact h.put f (fun _ => rfl) (fun _ => rfl) (herase.trans (h.fits f).1)
        (herase.trans (h.fits f).1)

theorem tuned_freq (h : Alike E d x y) (res : RigPollResult) :
    Alike E d (if res.freqDisplay ≠ [] ∧ x.focusedField ≠ .freq then x.copy .freq res.freqDisplay
        else x)
      (if res.freqDisplay ≠ [] ∧ y.focusedField ≠ .freq then y.copy .freq res.freqDisplay
        else y) := by
  rw [← h.focus]
  split_ifs
  · exact h.copy .freq res.freqDisplay
  · exact h

section Unread

variable (hE : E ⊆ shownFields ++ keptFields)

include hE

theorem not_mem {f : Field} (hf : f ∉ shownFields ++ keptFields) : f ∉ E := fun hin => hf (hE hin)

theorem insertChar (h : Alike E d x y) (f : Field) (c : UInt8) :
    Alike E d (x.insertChar now f c) (y.insertChar now f c) := by
  have htouch := h.touch f
  rw [insertChar_eq, insertChar_eq]
  refine insertInto_alike ?_ f c
  unfold readied
  dsimp only
  rw [← h.text .callsign (not_mem hE (by decide)), ← h.selected, ← htouch.timestamp,
    ← htouch.timer, ← htouch.editing]
  refine eraseIfSelected ?_ f
  split_ifs
  · exact htouch.setCurrentDateTime
  · exact htouch

theorem deleteChar (h : Alike E d x y) (f : Field) :
    Alike E d (x.deleteChar f) (y.deleteChar f) := by
  unfold Form.deleteChar
  rw [← h.selected]
  split_ifs
  · exact (h.touch f).eraseSelected f
  · by_cases hf : f ∈ E
    · have htouch (form : Form) : form.touch f = form := by
        rw [Form.touch, if_neg]
        rintro (rfl | rfl)
        · exact not_mem hE (by decide) hf
        · exact not_mem hE (by decide) hf
      dsimp only
      rw [htouch, htouch]
      exact deleteFrom_alike h f
    · have herase := List.length_eraseIdx_le (x.buffers f) (x.cursorPos f - 1)
      have hbuffers (form : Form) : (form.touch f).buffers f = form.buffers f := by
        unfold Form.touch
        split_ifs <;> rfl
      dsimp only
      rw [← h.cursor f hf, hbuffers, hbuffers, ← h.text f hf]
      split_ifs
      · exact h
      · exact (h.touch f).put f (fun _ => rfl) (fun _ => rfl) (herase.trans (h.fits f).1)
          (herase.trans (h.fits f).1)

theorem applyLookupResult (h : Alike E d x y) (res : LookupResultMsg) :
    Alike E d (x.applyLookupResult res)
      (y.applyLookupResult { res with generation := res.generation + d }) := by
  unfold Form.applyLookupResult
  dsimp only
  rw [h.generation, ← h.text .callsign (not_mem hE (by decide))]
  have hcurrent : res.generation + d ≠ x.lookupGeneration + d
      ↔ res.generation ≠ x.lookupGeneration := not_congr (by simp)
  simp only [hcurrent]
  by_cases hstale : res.generation ≠ x.lookupGeneration
  · rw [if_pos hstale, if_pos hstale]
    exact h
  rw [if_neg hstale, if_neg hstale]
  by_cases hfound : (stricmpEq res.callsign (x.buffers .callsign) && res.hasData) = true
  · rw [if_pos hfound, if_pos hfound]
    have hgrid := (h.fill .workedName res.name).fill .workedGrid res.grid
    have hzone := (hgrid.fill .workedCountry res.country).fill .workedCqZone
      (if 0 < res.cqZone then lit (toString res.cqZone) else [])
    exact hzone.fill .qth res.qth
  · rw [if_neg hfound, if_neg hfound]
    exact h

theorem applyRigPollResult (h : Alike E d x y) (res : RigPollResult) :
    Alike E d (x.applyRigPollResult res) (y.applyRigPollResult res) := by
  have hmatch : Alike E d { x with bandIdx := matchIndex bands res.band x.bandIdx }
      { y with bandIdx := matchIndex bands res.band y.bandIdx } :=
    { h with band := congrArg (matchIndex bands res.band) h.band }
  have htuned : Alike E d
      (if x.buffers .callsign ≠ [] then x
        else ((List.finRange 8).find? fun i => stricmpEq (modes i) res.mode).elim
          { x with bandIdx := matchIndex bands res.band x.bandIdx }
          (Form.setMode { x with bandIdx := matchIndex bands res.band x.bandIdx }))
      (if y.buffers .callsign ≠ [] then y
        else ((List.finRange 8).find? fun i => stricmpEq (modes i) res.mode).elim
          { y with bandIdx := matchIndex bands res.band y.bandIdx }
          (Form.setMode { y with bandIdx := matchIndex bands res.band y.bandIdx })) := by
    rw [← h.text .callsign (not_mem hE (by decide))]
    split_ifs
    · exact h
    · cases (List.finRange 8).find? fun i => stricmpEq (modes i) res.mode with
      | none => exact hmatch
      | some i => exact hmatch.setMode i
  unfold Form.applyRigPollResult
  dsimp only
  by_cases hconnected : (!res.connected) = true
  · rw [if_pos hconnected, if_pos hconnected]
    exact h
  · rw [if_neg hconnected, if_neg hconnected]
    exact tuned_freq htuned res

end Unread

theorem clearLookupDisplay (h : Alike E d x y) :
    Alike E d x.clearLookupDisplay y.clearLookupDisplay :=
  { h with
    generation := by
      show y.lookupGeneration + 1 = x.lookupGeneration + 1 + d
      rw [h.generation, UInt32.add_assoc, UInt32.add_comm d 1, ← UInt32.add_assoc]
    text := by
      intro f hf
      show (if _ then _ else _) = if _ then _ else _
      split_ifs
      · rfl
      · exact h.text f hf
    cursor := by
      intro f hf
      show (if _ then _ else _) = if _ then _ else _
      split_ifs
      · rfl
      · exact h.cursor f hf
    fits := by
      intro f
      dsimp only [Form.clearLookupDisplay]
      split_ifs
      · exact ⟨Nat.zero_le _, Nat.zero_le _⟩
      · exact h.fits f }

/-! ### Clearing and loading -/

/-- Two forms with the same band and mode, which agree on the fields that `ClearForm` does
not write. -/
structure Cleared (E : List Field) (x y : Form) : Prop where
  band : x.bandIdx = y.bandIdx
  mode : x.modeIdx = y.modeIdx
  text : ∀ f ∉ E, f ∉ writtenFields → x.buffers f = y.buffers f
  fits : ∀ f, (x.buffers f).length ≤ f.size - 1 ∧ (y.buffers f).length ≤ f.size - 1

theorem Cleared.of_alike (h : Alike E d x y) : Cleared E x y :=
  ⟨h.band, h.mode, fun f hf _ => h.text f hf, h.fits⟩

/-- What a new contact starts with fits. -/
theorem startText_fits (form : Form) (f : Field) (hf : f ∈ writtenFields) :
    (form.startText now f).length ≤ f.size - 1 := by
  cases f
  case freq => exact radioStyle_fits _
  case date => exact safeStrcpy_fits .date now.date
  case time => exact safeStrcpy_fits .time now.time
  case rstSent => exact defaultRst_fits _
  case rstRcvd => exact defaultRst_fits _
  all_goals exact Nat.zero_le _

theorem clearForm_of_cleared (h : Cleared E x y)
    (hd : y.lookupGeneration = x.lookupGeneration + d) :
    Alike E d (x.clearForm now) (y.clearForm now) where
  focus := rfl
  selected := rfl
  band := h.band
  mode := h.mode
  timer := rfl
  timestamp := rfl
  editing := rfl
  generation := by
    show y.lookupGeneration + 1 = x.lookupGeneration + 1 + d
    rw [hd, UInt32.add_assoc, UInt32.add_comm d 1, ← UInt32.add_assoc]
  text := by
    intro f hf
    rw [Form.clearForm_buffers, Form.clearForm_buffers]
    split_ifs with hwritten
    · unfold Form.startText
      rw [h.band, h.mode]
    · exact h.text f hf hwritten
  cursor := by
    intro f _
    have hmode := h.mode
    unfold Form.clearForm Form.applyModeDefaults
    dsimp only [Form.setFocusField, Form.setCurrentDateTime, Form.setDefaultFreq, Form.copy,
      Form.write, Form.setCursor]
    rw [hmode]
  fits := by
    intro f
    rw [Form.clearForm_buffers, Form.clearForm_buffers]
    split_ifs with hwritten
    · exact ⟨startText_fits x f hwritten, startText_fits y f hwritten⟩
    · exact h.fits f

theorem clearForm (h : Alike E d x y) : Alike E d (x.clearForm now) (y.clearForm now) :=
  clearForm_of_cleared (.of_alike h) h.generation

/-- The texts of a contact go into their fields. -/
theorem loadTexts (h : Alike E d x y) (detail : QsrQsoDetail) :
    Alike E d
      { x with
        bandIdx := matchIndex bands detail.band x.bandIdx
        modeIdx := matchIndex modes detail.mode x.modeIdx
        timestampAutomatic := false
        buffers := fun f =>
          if f ∈ loadedFields then safeStrcpy f.size (detail.texts f) else x.buffers f }
      { y with
        bandIdx := matchIndex bands detail.band y.bandIdx
        modeIdx := matchIndex modes detail.mode y.modeIdx
        timestampAutomatic := false
        buffers := fun f =>
          if f ∈ loadedFields then safeStrcpy f.size (detail.texts f) else y.buffers f } :=
  { h with
    band := congrArg (matchIndex bands detail.band) h.band
    mode := congrArg (matchIndex modes detail.mode) h.mode
    timestamp := rfl
    text := by
      intro f hf
      dsimp only
      split_ifs
      · rfl
      · exact h.text f hf
    fits := by
      intro f
      dsimp only
      split_ifs
      · exact ⟨safeStrcpy_fits f _, safeStrcpy_fits f _⟩
      · exact h.fits f }

theorem loadFreq (h : Alike E d x y) (detail : QsrQsoDetail) :
    Alike E d
      (if detail.freqMhz = [] then x.setDefaultFreq
        else x.write .freq (radioStyle (frequencies.hz detail.freqMhz)))
      (if detail.freqMhz = [] then y.setDefaultFreq
        else y.write .freq (radioStyle (frequencies.hz detail.freqMhz))) := by
  split_ifs
  · exact h.setDefaultFreq
  · exact h.write .freq (fun _ => rfl) (radioStyle_fits _) (radioStyle_fits _)

theorem loadTimeOff (h : Alike E d x y) (detail : QsrQsoDetail) :
    Alike E d
      (if detail.texts .timeOff = [] then x else x.copy .timeOff (detail.texts .timeOff))
      (if detail.texts .timeOff = [] then y else y.copy .timeOff (detail.texts .timeOff)) := by
  split_ifs
  · exact h
  · exact h.copy .timeOff _

theorem foldl_cursorToEnd (h : Alike E d x y) (fields : List Field) :
    Alike E d (fields.foldl Form.cursorToEnd x) (fields.foldl Form.cursorToEnd y) := by
  induction fields generalizing x y with
  | nil => exact h
  | cons f fields ih => exact ih (h.cursorToEnd f)

theorem applyLoadedQsoDetail (h : Alike E d x y) (loadedId : CString) (detail : QsrQsoDetail) :
    Alike E d (x.applyLoadedQsoDetail frequencies now loadedId detail)
      (y.applyLoadedQsoDetail frequencies now loadedId detail) := by
  have hclear : Alike E d (x.clearForm now) (y.clearForm now) := h.clearForm
  have hfreq := @loadFreq E d _ _ frequencies (hclear.loadTexts detail) detail
  have hsent := hfreq.copy .rstSent
    (if detail.texts .rstSent = [] then lit "59" else detail.texts .rstSent)
  have hrcvd := hsent.copy .rstRcvd
    (if detail.texts .rstRcvd = [] then lit "59" else detail.texts .rstRcvd)
  have hid := ((hrcvd.loadTimeOff detail).copy .localId loadedId).edit (safeStrcpy 64 loadedId)
  have hends := hid.foldl_cursorToEnd [.callsign, .rstSent, .rstRcvd, .freq, .date, .time]
  exact hends.setFocusField .callsign

end Form.Alike

end QsoRipper.Win32
