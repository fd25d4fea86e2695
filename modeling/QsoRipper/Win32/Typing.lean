/-
QsoRipper/Win32/Typing.lean

What the operator typed while a contact is saved or loaded.  The completion of a
save clears the form whatever the result is, and a loaded contact replaces it,
without regard to what has been typed by then.
-/
import QsoRipper.Lib.Transition
import QsoRipper.Win32.Content

namespace QsoRipper.Win32

open Interaction

/-! ### What the operator has typed -/

/-- A draft: the content and the editing id that a save was started with, kept up with
what was typed since; whether a contact has been loaded since; and the fields that were
typed in. -/
structure Draft where
  content : Field → CString
  editingLocalId : CString
  loaded : Bool := false
  typed : List Field := []

def Form.draft (form : Form) : Draft where
  content := form.content
  editingLocalId := form.editingLocalId

namespace AppState

variable (s : AppState)

/-- The keys go to the form. -/
def formHasKeys : Bool :=
  !s.panes.confirmDeleteVisible && !s.panes.helpVisible && !s.panes.searchFocused
    && !s.panes.qsoListFocused

/-- The field that an input is typed in. -/
def typedField : Input → Option Field
  | .char ch =>
      if ch < 32 ∨ ch = 127 ∨ s.panes.searchFocused ∨ s.panes.qsoListFocused then none
      else some s.form.focusedField
  | .key press =>
      if s.formHasKeys ∧ (if s.form.focusedField.hasBuffer then press.vk = .back
        else press.vk = .left ∨ press.vk = .right) then some s.form.focusedField
      else none
  | _ => none

/-- The form starts a new contact: a save was completed, or the operator cleared it. -/
def startsOver : Input → Bool
  | .logDone _ => true
  | .key press => s.formHasKeys && !s.panes.advancedView && press.vk == .escape
  | _ => false

/-- The form with which a save is started. -/
def startedForm (now : SystemTime) : Form :=
  if s.form.editingLocalId = [] ∧ s.form.qsoTimerActive ∧ s.form.buffers .timeOff = [] then
    s.form.copy .timeOff now.time
  else s.form

/-- A key that saves the contact of the form. -/
def SavesOn (press : KeyPress) : Prop :=
  s.panes.confirmDeleteVisible = false ∧ s.panes.helpVisible = false
    ∧ (press.vk = .function 10 ∨ press.vk = .enter ∧ (press.shift || press.alt) = true)
    ∧ s.form.buffers .callsign ≠ []

end AppState

/-- A contact arrives that is put into the form. -/
def Input.loads : Input → Bool
  | .qsoDetailDone (some res) => res.loaded
  | _ => false

namespace Request

/-- A save in the background. -/
def isSave : Request → Bool
  | .logQso _ | .updateQso _ _ => true
  | _ => false

/-- A save through the CLI. -/
def isCliSave : Request → Bool
  | .cliLog _ | .cliUpdate _ _ => true
  | _ => false

def isLoad : Request → Bool
  | .getQso _ => true
  | _ => false

end Request

/-- The fields typed in, after an input. -/
def typedAfter (s : AppState) (input : Input) (typed : List Field) : List Field :=
  if s.startsOver input || input.loads then [] else (s.typedField input).toList ++ typed

/-- The draft after an input. -/
def Draft.next (draft : Draft) (s : AppState) (input : Input) (result : AppState × Option Request) :
    Draft :=
  if result.2.any Request.isSave || s.startsOver input then result.1.form.draft
  else if input.loads then { draft with loaded := true, typed := [] }
  else
    { content := fun f =>
        if result.1.form.content f = s.form.content f then draft.content f
        else result.1.form.content f
      editingLocalId :=
        if result.1.form.editingLocalId = s.form.editingLocalId then draft.editingLocalId
        else result.1.form.editingLocalId
      loaded := draft.loaded
      typed := typedAfter s input draft.typed }

/-- The window with what was typed since the last save and the last load were started. -/
structure Session where
  window : AppState
  draft : Draft
  typedSinceLoad : List Field := []

/-- An input with the answers to it, and the window before and after it. -/
structure Turn where
  input : Input
  answers : Answers
  before : Session
  request : Option Request
  after : AppState

/-- A task posts its message while it is under way. -/
def AppState.mayReceive (s : AppState) : Input → Bool
  | .logDone _ => s.tasks.logInProgress
  | .qsoDetailDone _ => s.tasks.qsoDetailLoading
  | _ => true

/-- The window handles an input. -/
def Session.handle (frequencies : Frequencies) (p : Session) (given : Input × Answers) :
    Option (Turn × Session) :=
  if p.window.mayReceive given.1 then
    let result := p.window.wndProc frequencies given.2 given.1
    some (⟨given.1, given.2, p, result.2, result.1⟩,
      { window := result.1
        draft := p.draft.next p.window given.1 result
        typedSinceLoad :=
          if result.2.any Request.isLoad then []
          else typedAfter p.window given.1 p.typedSinceLoad })
  else none

/-- One input. -/
def Session.Step (frequencies : Frequencies) (p : Session) (turn : Turn) (q : Session) : Prop :=
  p.handle frequencies (turn.input, turn.answers) = some (turn, q)

/-! ### What is promised -/

namespace Turn

variable (turn : Turn)

/-- A save fails. -/
def Fails : Prop :=
  match turn.input with
  | .logDone res => res.any (·.success) = false
  | _ => turn.request.any Request.isCliSave = true ∧ turn.answers.succeeds = false

/-- The draft of the save that an input completes. -/
def expected : Draft :=
  match turn.input with
  | .logDone _ => turn.before.draft
  | _ => (turn.before.window.startedForm turn.answers.now).draft

/-- The fields typed in since the save or the load was started that a message is about. -/
def typedSince : List Field :=
  match turn.input with
  | .logDone _ => turn.before.draft.typed
  | .qsoDetailDone _ => turn.before.typedSinceLoad
  | _ => []

/-- A failed save leaves the draft in the form, and a message leaves what was typed. -/
structure KeepsTyped : Prop where
  failed : turn.Fails → turn.after.form.content = turn.expected.content
    ∧ turn.after.form.editingLocalId = turn.expected.editingLocalId
  typed : ∀ f ∈ turn.typedSince, turn.after.form.content f = turn.before.window.form.content f

end Turn

/-! ### The condition -/

/-- A field holds what a new contact starts with. -/
def Form.AtStart (form : Form) (now : SystemTime) (f : Field) : Prop :=
  f ∈ Form.writtenFields → form.content f = form.startText now f

/-- A failed save finds a form that starts a new contact, with none loaded since; what
was typed since is what a new contact starts with, or what the loaded contact has; and no
command of the CLI that saves a contact fails. -/
def Session.Spares (frequencies : Frequencies) (p : Session) (answers : Answers) : Input → Prop
  | .logDone res =>
      (res.any (·.success) = false →
        p.draft.loaded = false ∧ p.window.form.editingLocalId = []
          ∧ ∀ f ∈ Form.writtenFields, p.window.form.AtStart answers.now f)
        ∧ ∀ f ∈ p.draft.typed, p.window.form.AtStart answers.now f
  | .qsoDetailDone (some res) =>
      res.loaded = true → ∀ f ∈ p.typedSinceLoad,
        p.window.form.content f = p.window.form.storedText frequencies res.localId res.detail f
  | .key press => p.window.backend = .cli → p.window.SavesOn press → answers.succeeds = true
  | _ => True

/-! ### Saves through the CLI -/

section Cli

variable {frequencies : Frequencies} {answers : Answers} {s : AppState}

theorem loadSelectedQso_not_cliSave :
    (s.loadSelectedQso frequencies answers).2.any Request.isCliSave = false := by
  rw [AppState.loadSelectedQso]
  cases s.list.selectedRow with
  | none => rfl
  | some q =>
      dsimp only
      by_cases hid : q.localId = []
      · rw [if_pos hid]
        rfl
      · rw [if_neg hid]
        cases s.backend with
        | ffi =>
            dsimp only
            split_ifs <;> rfl
        | cli => rfl

theorem deleteSelectedQso_not_cliSave :
    (s.deleteSelectedQso answers).2.any Request.isCliSave = false := by
  rw [AppState.deleteSelectedQso]
  cases s.list.selectedRow with
  | none => rfl
  | some q =>
      dsimp only
      by_cases hid : q.localId = []
      · rw [if_pos hid]
        rfl
      · rw [if_neg hid]
        cases s.backend with
        | ffi =>
            dsimp only
            split_ifs <;> rfl
        | cli => rfl

theorem toggleAdvancedView_not_cliSave :
    (s.toggleAdvancedView frequencies answers).2.any Request.isCliSave = false := by
  rw [AppState.toggleAdvancedView]
  split_ifs with hload
  · exact loadSelectedQso_not_cliSave
  · dsimp only
    split_ifs
    · cases advTabForField s.focusForm.form.focusedField <;> rfl
    · rfl

theorem listKey_not_cliSave (vk : Key) :
    (s.listKey frequencies answers vk).2.any Request.isCliSave = false := by
  unfold AppState.listKey
  dsimp only
  split
  case h_6 => exact loadSelectedQso_not_cliSave
  all_goals try split_ifs
  all_goals rfl

theorem logQso_cliSave (h : (s.logQso frequencies answers).2.any Request.isCliSave = true) :
    s.backend = .cli ∧ s.form.buffers .callsign ≠ [] := by
  rw [AppState.logQso] at h
  by_cases hcallsign : s.form.buffers .callsign = []
  · rw [if_pos hcallsign] at h
    cases h
  · refine ⟨?_, hcallsign⟩
    rw [if_neg hcallsign] at h
    cases hbackend : s.backend with
    | cli => rfl
    | ffi =>
        dsimp only at h
        rw [hbackend] at h
        dsimp only at h
        split_ifs at h <;> cases h

theorem globalKey_cliSave {press : KeyPress} {result : AppState × Option Request}
    (hkey : s.globalKey frequencies answers press = some result)
    (h : result.2.any Request.isCliSave = true) :
    s.backend = .cli ∧ s.form.buffers .callsign ≠ []
      ∧ (press.vk = .function 10 ∨ press.vk = .enter ∧ (press.shift || press.alt) = true) := by
  unfold AppState.globalKey at hkey
  split at hkey
  case h_3 =>
    cases hkey
    rw [toggleAdvancedView_not_cliSave] at h
    cases h
  case h_11 hvk =>
    cases hkey
    obtain ⟨hbackend, hcallsign⟩ := logQso_cliSave h
    exact ⟨hbackend, hcallsign, .inl hvk⟩
  case h_12 hvk =>
    split_ifs at hkey with hdown
    cases hkey
    obtain ⟨hbackend, hcallsign⟩ := logQso_cliSave h
    exact ⟨hbackend, hcallsign, .inr ⟨hvk, hdown⟩⟩
  all_goals
    try split_ifs at hkey
    all_goals cases hkey <;> cases h

theorem onKeyDown_cliSave {press : KeyPress}
    (h : (s.onKeyDown frequencies answers press).2.any Request.isCliSave = true) :
    s.backend = .cli ∧ s.SavesOn press := by
  unfold AppState.onKeyDown at h
  by_cases hconfirm : s.panes.confirmDeleteVisible = true
  · rw [if_pos hconfirm] at h
    split_ifs at h
    · rw [deleteSelectedQso_not_cliSave] at h
      cases h
    · cases h
  · rw [if_neg hconfirm] at h
    by_cases hhelp : s.panes.helpVisible = true
    · rw [if_pos hhelp] at h
      cases h
    · rw [if_neg hhelp] at h
      have hfree : s.panes.confirmDeleteVisible = false ∧ s.panes.helpVisible = false :=
        ⟨by simpa using hconfirm, by simpa using hhelp⟩
      cases hglobal : s.globalKey frequencies answers press with
      | some result =>
          rw [hglobal] at h
          obtain ⟨hbackend, hcallsign, hvk⟩ := globalKey_cliSave hglobal h
          exact ⟨hbackend, hfree.1, hfree.2, hvk, hcallsign⟩
      | none =>
          -- only the shortcuts save
          rw [hglobal] at h
          dsimp only at h
          split at h
          · cases h
          · split_ifs at h
            · cases h
            · split at h
              · cases h
              · rw [listKey_not_cliSave] at h
                cases h
            · cases h

/-- Only a key saves through the CLI. -/
theorem wndProc_cliSave {input : Input}
    (h : (s.wndProc frequencies answers input).2.any Request.isCliSave = true) :
    ∃ press, input = .key press ∧ s.backend = .cli ∧ s.SavesOn press := by
  cases input with
  | key press => exact ⟨press, rfl, onKeyDown_cliSave h⟩
  | doubleClick row =>
      unfold AppState.wndProc AppState.onDoubleClick at h
      dsimp only at h
      split_ifs at h
      · rw [loadSelectedQso_not_cliSave] at h
        cases h
      · cases h
  | _ => cases h

end Cli

/-! ### Every run -/

variable {frequencies : Frequencies} {p q : Session} {turn : Turn}

/-- As long as no contact is loaded, the draft is what the form shows. -/
def Session.Inv (p : Session) : Prop :=
  p.draft.loaded = false → p.draft.content = p.window.form.content
    ∧ p.draft.editingLocalId = p.window.form.editingLocalId

/-- The draft follows the form. -/
theorem Draft.next_follows {draft : Draft} {s : AppState} {input : Input}
    {result : AppState × Option Request}
    (h : draft.loaded = false →
      draft.content = s.form.content ∧ draft.editingLocalId = s.form.editingLocalId)
    (hloaded : (draft.next s input result).loaded = false) :
    (draft.next s input result).content = result.1.form.content
      ∧ (draft.next s input result).editingLocalId = result.1.form.editingLocalId := by
  unfold Draft.next at hloaded ⊢
  by_cases hstart : (result.2.any Request.isSave || s.startsOver input) = true
  · rw [if_pos hstart]
    exact ⟨rfl, rfl⟩
  · rw [if_neg hstart] at hloaded ⊢
    by_cases hload : input.loads = true
    · rw [if_pos hload] at hloaded
      cases hloaded
    · rw [if_neg hload] at hloaded ⊢
      obtain ⟨hcontent, hid⟩ := h hloaded
      constructor
      · funext f
        dsimp only
        split_ifs with hsame
        · rw [hcontent, hsame]
        · rfl
      · dsimp only
        split_ifs with hsame
        · rw [hid, hsame]
        · rfl

/-- The window before any input. -/
def Session.start (window : AppState) : Session where
  window
  draft := window.form.draft

theorem Session.start_inv (window : AppState) : (Session.start window).Inv := fun _ => ⟨rfl, rfl⟩

theorem Session.handle_step {given : Input × Answers}
    (h : p.handle frequencies given = some (turn, q)) : p.Step frequencies turn q := by
  unfold Session.handle at h
  split_ifs at h with hreceive
  cases h
  unfold Session.Step Session.handle
  rw [if_pos hreceive]

/-- What a completed save leaves. -/
theorem keepsTyped_logDone {answers : Answers} {res : Option LogQsoResultMsg}
    (hp : p.Inv) (hE : p.Spares frequencies answers (.logDone res)) :
    Turn.KeepsTyped { input := .logDone res, answers, before := p, request := none
                      after := (p.window.wndProc frequencies answers (.logDone res)).1 } where
  failed := by
    intro hfails
    obtain ⟨hloaded, hid, hstart⟩ := hE.1 hfails
    obtain ⟨hcontent, hediting⟩ := hp hloaded
    constructor
    · funext f
      show (p.window.form.clearForm answers.now).content f = p.draft.content f
      rw [Form.content_clearForm, hcontent]
      split_ifs with hf
      · exact (hstart f hf hf).symm
      · rfl
    · exact (hediting.trans hid).symm
  typed := by
    intro f hf
    show (p.window.form.clearForm answers.now).content f = p.window.form.content f
    rw [Form.content_clearForm]
    split_ifs with hwritten
    · exact (hE.2 f hf hwritten).symm
    · rfl

/-- What a loaded contact leaves. -/
theorem keepsTyped_qsoDetailDone {answers : Answers} {res : Option QsoDetailLoadResult}
    (hE : p.Spares frequencies answers (.qsoDetailDone res)) :
    Turn.KeepsTyped { input := .qsoDetailDone res, answers, before := p
                      request := (p.window.wndProc frequencies answers (.qsoDetailDone res)).2
                      after := (p.window.wndProc frequencies answers (.qsoDetailDone res)).1 } where
  failed := by
    rintro ⟨hcli, -⟩
    obtain ⟨press, hkey, -⟩ := wndProc_cliSave hcli
    cases hkey
  typed := by
    intro f hf
    cases res with
    | none => rfl
    | some res =>
        unfold AppState.wndProc
        dsimp only
        split_ifs with hloaded
        · refine Eq.trans ?_ (hE hloaded f hf).symm
          exact p.window.form.content_applyLoadedQsoDetail res.localId res.detail f
        · rfl

/-- **Step lemma.** -/
theorem Session.Step.inv (h : p.Step frequencies turn q) (hp : p.Inv)
    (hE : p.Spares frequencies turn.answers turn.input) : q.Inv ∧ turn.KeepsTyped := by
  obtain ⟨input, answers, before, request, after⟩ := turn
  unfold Session.Step Session.handle at h
  dsimp only at h
  by_cases hreceive : p.window.mayReceive input = true
  swap
  · rw [if_neg hreceive] at h
    cases h
  rw [if_pos hreceive] at h
  cases h
  refine ⟨fun hloaded => Draft.next_follows hp hloaded, ?_⟩
  cases input with
  | logDone res => exact keepsTyped_logDone hp hE
  | qsoDetailDone res => exact keepsTyped_qsoDetailDone hE
  | _ =>
      refine ⟨?_, fun f hf => absurd hf List.not_mem_nil⟩
      rintro ⟨hcli, hfails⟩
      obtain ⟨press, hkey, hbackend, hsaves⟩ := wndProc_cliSave hcli
      cases hkey
      all_goals
        have hsucceeds := hE hbackend hsaves
        rw [hfails] at hsucceeds
        cases hsucceeds

/-- **Run lemma.** -/
theorem keepsTyped_of_spares {backend : BackendMode} {now : SystemTime} {turns : List Turn}
    (hr : Transition.Run (Session.Step frequencies)
      (fun _ p turn => p.Spares frequencies turn.answers turn.input)
      (Session.start (AppState.initState backend now)) turns p) :
    ∀ turn ∈ turns, turn.KeepsTyped := by
  have hinv : p.Inv ∧ ∀ turn ∈ turns, turn.KeepsTyped := by
    refine hr.invariant (I := fun turns p => p.Inv ∧ ∀ turn ∈ turns, turn.KeepsTyped) ?_ ?_
    · refine ⟨Session.start_inv _, fun turn hin => ?_⟩
      exact absurd hin List.not_mem_nil
    · intro turns q turn r hq hE hs
      obtain ⟨hr, hturn⟩ := hs.inv hq.1 hE
      refine ⟨hr, fun turn' hin => ?_⟩
      rcases List.mem_append.mp hin with hpast | hnew
      · exact hq.2 turn' hpast
      · rw [List.mem_singleton.mp hnew]
        exact hturn
  exact hinv.2

/-! ### A save that fails -/

instance (form : Form) (now : SystemTime) (f : Field) : Decidable (form.AtStart now f) :=
  inferInstanceAs (Decidable (_ → _))

instance (s : AppState) (press : KeyPress) : Decidable (s.SavesOn press) :=
  inferInstanceAs (Decidable (_ ∧ _ ∧ _ ∧ _))

instance (p : Session) (answers : Answers) :
    (input : Input) → Decidable (p.Spares frequencies answers input)
  | .logDone _ => inferInstanceAs (Decidable ((_ → _) ∧ ∀ f ∈ p.draft.typed, _))
  | .qsoDetailDone (some _) => inferInstanceAs (Decidable (_ → ∀ f ∈ p.typedSinceLoad, _))
  | .key _ => inferInstanceAs (Decidable (_ → _ → _))
  | .qsoDetailDone none | .char _ | .click _ | .doubleClick _ | .wheel _ | .menuHelp | .paint _
  | .lookupDone _ | .rigDone _ | .qsoLoaded _ | .qsoDeleteDone _ => inferInstanceAs (Decidable True)

instance : (turn : Turn) → Decidable turn.Fails
  | ⟨.logDone _, _, _, _, _⟩ => inferInstanceAs (Decidable (_ = _))
  | ⟨.key _, _, _, _, _⟩ | ⟨.char _, _, _, _, _⟩ | ⟨.click _, _, _, _, _⟩
  | ⟨.doubleClick _, _, _, _, _⟩ | ⟨.wheel _, _, _, _, _⟩ | ⟨.menuHelp, _, _, _, _⟩
  | ⟨.paint _, _, _, _, _⟩ | ⟨.lookupDone _, _, _, _, _⟩ | ⟨.rigDone _, _, _, _, _⟩
  | ⟨.qsoLoaded _, _, _, _, _⟩ | ⟨.qsoDetailDone _, _, _, _, _⟩
  | ⟨.qsoDeleteDone _, _, _, _, _⟩ => inferInstanceAs (Decidable (_ ∧ _))

/-- A callsign is typed and the contact is saved. -/
def saving (success : Bool) : List (Input × Answers) :=
  let answers : Answers := { now := ⟨2024, 5, 1, 12, 0⟩ }
  [(.char 75, answers), (.key { vk := .function 10 }, answers),
    (.logDone (some { isUpdate := false, success }), answers)]

/-- The run of these inputs. -/
def savingRun (success : Bool) : List Turn × Session :=
  Transition.schedule (Session.handle noFrequencies) (saving success)
    (Session.start (AppState.initState .ffi ⟨2024, 5, 1, 12, 0⟩))

theorem Session.schedule_run {E : List Turn → Session → Turn → Prop}
    [∀ turns p turn, Decidable (E turns p turn)] {given : List (Input × Answers)}
    (hm : Transition.meets (Session.handle frequencies) E [] given p) :
    Transition.Run (Session.Step frequencies) E p
      (Transition.schedule (Session.handle frequencies) given p).1
      (Transition.schedule (Session.handle frequencies) given p).2 := by
  have hturn (p : Session) (given : Input × Answers) (turn : Turn) (q : Session)
      (h : p.handle frequencies given = some (turn, q)) : p.Step frequencies turn q :=
    Session.handle_step h
  exact Transition.schedule_run hturn hm

theorem keepsTyped_savingRun :
    (savingRun true).1.length = 3 ∧ ∀ turn ∈ (savingRun true).1, turn.KeepsTyped :=
  ⟨by decide +kernel, keepsTyped_of_spares (Session.schedule_run (by decide +kernel))⟩

/-- A save that fails loses the callsign. -/
theorem not_keepsTyped_failed :
    ¬ ∀ (frequencies : Frequencies) (backend : BackendMode) (now : SystemTime) (turns : List Turn)
      (p : Session), Transition.Run (Session.Step frequencies) (fun _ _ _ => True)
        (Session.start (AppState.initState backend now)) turns p →
      ∀ turn ∈ turns, turn.KeepsTyped := by
  intro hall
  have hrun : Transition.Run (Session.Step noFrequencies) (fun _ _ _ => True)
      (Session.start (AppState.initState .ffi ⟨2024, 5, 1, 12, 0⟩))
      (savingRun false).1 (savingRun false).2 :=
    Session.schedule_run (by decide +kernel)
  obtain ⟨turn, hin, hfails, hlost⟩ : ∃ turn ∈ (savingRun false).1,
      turn.Fails ∧ turn.after.form.content .callsign ≠ turn.expected.content .callsign := by
    decide +kernel
  exact hlost (congrFun ((hall _ _ _ _ _ hrun turn hin).failed hfails).1 .callsign)

end QsoRipper.Win32
