/-
QsoRipper/Tui/Saves.lean

Saves in the background, while the operator goes on.  The completion of a save clears
whatever form is on screen by then, that of a logged contact leaves the editing id, and
nothing keeps a form from being logged twice.
-/
import QsoRipper.Lib.Transition
import QsoRipper.Tui.Provenance

namespace QsoRipper.Tui

open Interaction

/-! ### Runs -/

/-- A save under way, and whether the engine stores it. -/
structure Launched where
  save : Save
  succeeds : Bool

/-- The application with its saves under way, and the contacts it has had logged. -/
structure Session where
  app : App
  pending : List Launched := []
  logged : List Save := []

/-- An event, with what becomes of the save it may start; or the completion of a save. -/
inductive Input where
  | event (event : AppEvent) (succeeds : Bool)
  | completion (i : ℕ)

/-- An input with the time it comes at, and what is there before and after it. -/
structure Turn where
  input : Input
  now : Now
  before : Session
  request : Option Request
  after : App

/-- `QsoLogged` and its siblings. -/
def Launched.completion (l : Launched) : AppEvent := .saved l.save.editingId.isSome l.succeeds

namespace Session

variable (formats : Formats) (p : Session)

/-- What is there after an event. -/
def launch (result : App × Option Request) (succeeds : Bool) : Session :=
  match result.2 with
  | some (.save save) =>
      { app := result.1
        pending := p.pending ++ [⟨save, succeeds⟩]
        logged := if save.editingId = none ∧ succeeds = true then p.logged ++ [save] else p.logged }
  | _ => { p with app := result.1 }

/-- The application handles an input.  A save completes once. -/
def handle (given : Input × Now) : Option (Turn × Session) :=
  if p.app.running then
    match given.1 with
    | .event (.saved _ _) _ => none
    | .event event succeeds =>
        let result := p.app.handleEvent formats given.2 event
        some (⟨given.1, given.2, p, result.2, result.1⟩, p.launch result succeeds)
    | .completion i =>
        p.pending[i]?.map fun l =>
          let result := p.app.handleEvent formats given.2 l.completion
          (⟨given.1, given.2, p, result.2, result.1⟩,
            { p with app := result.1, pending := p.pending.eraseIdx i })
  else none

/-- One input. -/
def Step (turn : Turn) (q : Session) : Prop :=
  p.handle formats (turn.input, turn.now) = some (turn, q)

end Session

/-! ### What is promised -/

/-- What the operator sees of a form, but for the cursor. -/
def LogForm.content (form : LogForm) :
    (Field → String) × Fin 13 × Fin 8 × Option ℕ × Option String :=
  (form.text, form.bandIdx, form.modeIdx, form.rigFrequencyRxHz, form.rigBandRx)

/-- The form and the editing id are still those of this save. -/
structure App.StillOf (app : App) (save : Save) : Prop where
  editingLocalId : app.editingLocalId = save.editingId
  provenance : app.form.provenance = save.form.provenance
  content : app.form.content = save.form.content

/-- A save goes to the contact on screen, and its completion to the form it saved. -/
structure Turn.OnScreen (turn : Turn) : Prop where
  update : ∀ save, turn.request = some (.save save) → ∀ localId, save.editingId = some localId →
    save.formSnap.provenance.loadedFrom = some localId
  log : ∀ save, turn.request = some (.save save) → save.editingId = none →
    save.formSnap.provenance.loadedFrom = none
  once : ∀ save event, turn.request = some (.save save) → save.editingId = none →
    turn.input = .event event true →
    ∀ saved ∈ turn.before.logged, saved.form.provenance ≠ save.form.provenance
  completion : ∀ i l, turn.input = .completion i → turn.before.pending[i]? = some l →
    turn.after.form.content ≠ turn.before.app.form.content
      ∨ turn.after.editingLocalId ≠ turn.before.app.editingLocalId →
    turn.before.app.StillOf l.save

/-! ### The condition -/

namespace App

/-- A key that saves the form. -/
def SavesOn (app : App) (key : KeyEvent) : Prop :=
  (app.view = .logEntry ∨ app.view = .advanced) ∧ app.searchFocused = false
    ∧ app.qsoListFocused = false ∧ (key.code = .f 10 ∨ key.code = .enter ∧ key.alt = true)

/-- The form is empty: a new one has nothing else, and no row is edited. -/
def Blank (app : App) (now : Now) : Prop :=
  app.editingLocalId = none ∧ app.form.content = (app.nextForm now).content

end App

/-- A form is not logged while a LogQso of it is under way, both to be stored; and a save
that is stored completes while the form and the editing id are still its own, or while the
form is empty. -/
def Session.Meets (p : Session) (now : Now) : Input → Prop
  | .event (.key key) true =>
      p.app.SavesOn key → p.app.editingLocalId = none →
        ∀ l ∈ p.pending, l.save.editingId = none → l.succeeds = true →
          l.save.form.provenance ≠ p.app.form.provenance
  | .event _ _ => True
  | .completion i =>
      ∀ l ∈ p.pending[i]?, l.succeeds = true → p.app.StillOf l.save ∨ p.app.Blank now

/-! ### Saves that are started -/

section Requests

variable {formats : Formats} {now : Now} {app : App} {key : KeyEvent} {save : Save}

theorem handleFormKey_save (h : (app.handleFormKey formats now key).2 = some (.save save)) :
    (app.handleFormKey formats now key).1 = app ∧ save = app.spawnLogQso now
      ∧ (key.code = .f 10 ∨ key.code = .enter ∧ key.alt = true) := by
  unfold App.handleFormKey at h ⊢
  dsimp only at h ⊢
  split at h
  case h_10 hcode =>
    cases h
    exact ⟨rfl, rfl, .inl hcode⟩
  case h_11 hcode =>
    split_ifs at h with halt
    cases h
    exact ⟨rfl, rfl, .inr ⟨hcode, halt⟩⟩
  all_goals try split_ifs at h
  all_goals try cases hview : app.view <;> rw [hview] at h
  all_goals cases h

/-- A save is of the form on screen, and leaves the application as it is. -/
theorem handleKey_save (h : (app.handleKey formats now key).2 = some (.save save)) :
    (app.handleKey formats now key).1 = app ∧ save = app.spawnLogQso now ∧ app.SavesOn key := by
  -- only the form saves
  have hform (hview : app.view = .logEntry ∨ app.view = .advanced)
      (h : (if app.searchFocused then (app.handleSearchKey formats key, none)
        else if app.qsoListFocused then (app.handleQsoListKey formats now key, none)
        else app.handleFormKey formats now key).2 = some (.save save)) :
      (if app.searchFocused then (app.handleSearchKey formats key, none)
        else if app.qsoListFocused then (app.handleQsoListKey formats now key, none)
        else app.handleFormKey formats now key).1 = app ∧ save = app.spawnLogQso now
        ∧ app.SavesOn key := by
    by_cases hsearch : app.searchFocused = true
    · rw [if_pos hsearch] at h
      cases h
    · rw [if_neg hsearch] at h ⊢
      by_cases hlist : app.qsoListFocused = true
      · rw [if_pos hlist] at h
        cases h
      · rw [if_neg hlist] at h ⊢
        obtain ⟨happ, hsave, hcode⟩ := handleFormKey_save h
        exact ⟨happ, hsave, hview, by simpa using hsearch, by simpa using hlist, hcode⟩
  unfold App.handleKey at h ⊢
  by_cases hquit : (key.control && (key.code == .char 'q' || key.code == .char 'Q')) = true
  · rw [if_pos hquit] at h
    cases h
  · rw [if_neg hquit] at h ⊢
    by_cases hrig : key.code = .f 8
    · rw [if_pos hrig] at h
      cases h
    · rw [if_neg hrig] at h ⊢
      cases hview : app.view with
      | logEntry =>
          rw [hview] at h
          exact hform (.inl hview) h
      | advanced =>
          rw [hview] at h
          exact hform (.inr hview) h
      | help =>
          rw [hview] at h
          cases h
      | confirmDeleteQso =>
          rw [hview] at h
          dsimp only at h
          unfold App.handleConfirmDeleteKey at h
          split at h
          all_goals try cases hid : app.deleteCandidateId <;> rw [hid] at h
          all_goals cases h
      | confirmPurge =>
          rw [hview] at h
          dsimp only at h
          unfold App.handleConfirmPurgeKey at h
          split at h <;> cases h

theorem spawnLogQso_editingId : (app.spawnLogQso now).editingId = app.editingLocalId := rfl

theorem spawnLogQso_form : (app.spawnLogQso now).form = app.form := rfl

theorem spawnLogQso_provenance :
    (app.spawnLogQso now).formSnap.provenance = app.form.provenance := by
  unfold App.spawnLogQso
  dsimp only
  split_ifs <;> rfl

end Requests

/-! ### What is kept -/

section Step

variable {formats : Formats} {now : Now} {app : App} {p q : Session} {turn : Turn}

/-- Every event but the completion of a save edits the form there is or makes a new one. -/
theorem handleEvent_follows (formats : Formats) (now : Now) (app : App) {event : AppEvent}
    (hevent : ∀ update success, event ≠ .saved update success) :
    app.Follows (app.handleEvent formats now event).1 := by
  cases event with
  | key key => exact App.handleKey_follows key
  | lookupResult result => exact App.applyLookupResult_follows result
  | rigSnapshot rig => exact App.applyRigSnapshot_follows rig
  | saved update success => exact absurd rfl (hevent update success)
  | recentQsos qsos => exact App.setRecentQsos_follows qsos
  | _ => exact .same rfl rfl

/-- Only a key saves. -/
theorem handleEvent_save {event : AppEvent} {save : Save}
    (h : (app.handleEvent formats now event).2 = some (.save save)) :
    (app.handleEvent formats now event).1 = app ∧ save = app.spawnLogQso now
      ∧ ∃ key, event = .key key ∧ app.SavesOn key := by
  cases event with
  | key key =>
      obtain ⟨happ, hsave, hkey⟩ := handleKey_save h
      exact ⟨happ, hsave, key, rfl, hkey⟩
  | _ => cases h

/-- A completion that is not of a stored save changes nothing, and one that is makes a new
form; it keeps the editing id if a contact was logged. -/
theorem handleEvent_completion (formats : Formats) (now : Now) (app : App) (l : Launched) :
    (app.handleEvent formats now l.completion).2 = none
      ∧ (l.succeeds = false → (app.handleEvent formats now l.completion).1 = app)
      ∧ (l.succeeds = true →
        (app.handleEvent formats now l.completion).1.form = app.nextForm now
          ∧ (app.handleEvent formats now l.completion).1.editingLocalId
            = if l.save.editingId = none then app.editingLocalId else none) := by
  refine ⟨rfl, ?_, ?_⟩
  · intro hfails
    show (if l.succeeds = true then _ else app) = app
    rw [hfails]
    rfl
  · intro hsucceeds
    obtain ⟨save, succeeds⟩ := l
    cases hsucceeds
    cases hid : save.editingId with
    | none =>
        simp only [App.handleEvent, Launched.completion, hid]
        exact ⟨rfl, rfl⟩
    | some localId =>
        simp only [App.handleEvent, Launched.completion, hid]
        exact ⟨rfl, rfl⟩

/-- An input is an event with its handler, or a completion that is under way. -/
theorem Session.Step.cases (hs : p.Step formats turn q) :
    turn.before = p
      ∧ ((∃ event succeeds, (∀ update success, event ≠ .saved update success)
          ∧ turn.input = .event event succeeds
          ∧ (turn.after, turn.request) = p.app.handleEvent formats turn.now event
          ∧ q = p.launch (turn.after, turn.request) succeeds)
        ∨ ∃ i l, turn.input = .completion i ∧ p.pending[i]? = some l
          ∧ (turn.after, turn.request) = p.app.handleEvent formats turn.now l.completion
          ∧ q = { p with app := turn.after, pending := p.pending.eraseIdx i }) := by
  obtain ⟨input, now, before, request, after⟩ := turn
  unfold Session.Step Session.handle at hs
  dsimp only at hs
  split_ifs at hs
  cases input with
  | completion i =>
      dsimp only at hs
      obtain ⟨l, hl, heq⟩ := Option.map_eq_some_iff.mp hs
      cases heq
      exact ⟨rfl, .inr ⟨i, l, rfl, hl, rfl, rfl⟩⟩
  | event event succeeds =>
      cases event with
      | saved update success => cases hs
      | _ =>
          cases hs
          refine ⟨rfl, .inl ⟨_, succeeds, fun update success h => ?_, rfl, rfl, rfl⟩⟩
          cases h

/-- The editing id is that of the form, and a form that has been logged is an old one, or
its LogQso is still under way. -/
structure Session.Inv (p : Session) : Prop where
  linked : p.app.Linked
  logged : ∀ save ∈ p.logged, save.form.provenance.serial < p.app.form.provenance.serial
    ∨ save.form.provenance.serial = p.app.form.provenance.serial ∧ save.editingId = none
      ∧ ⟨save, true⟩ ∈ p.pending

/-- A new form is none of those that have been logged. -/
theorem Session.Inv.new (hinv : p.Inv) {app' : App} {pending : List Launched}
    (hserial : p.app.form.provenance.serial < app'.form.provenance.serial)
    (hlinked : app'.Linked) : Session.Inv { p with app := app', pending } where
  linked := hlinked
  logged := by
    intro save hmem
    left
    rcases hinv.logged save hmem with hold | ⟨hsame, -⟩
    · exact hold.trans hserial
    · exact hsame.trans_lt hserial

/-- The form stays the one it was, with more saves under way. -/
theorem Session.Inv.follows (hinv : p.Inv) {app' : App} (hfollows : p.app.Follows app') :
    Session.Inv { p with app := app' } where
  linked := hfollows.linked hinv.linked
  logged := by
    intro save hmem
    rcases hinv.logged save hmem with hold | ⟨hsame, hid, hpending⟩
    · exact .inl (hold.trans_le hfollows.serial_le)
    · rcases hfollows.serial_le.lt_or_eq with hnew | heq
      · exact .inl (hsame.trans_lt hnew)
      · exact .inr ⟨hsame.trans heq, hid, hpending⟩

/-- A save is started of the form on screen. -/
theorem Session.Inv.launch (hinv : p.Inv) (succeeds : Bool) :
    (p.launch (p.app, some (.save (p.app.spawnLogQso now))) succeeds).Inv where
  linked := hinv.linked
  logged := by
    intro save hmem
    unfold Session.launch at hmem ⊢
    dsimp only at hmem ⊢
    by_cases hmem' : save ∈ p.logged
    · rcases hinv.logged save hmem' with hold | ⟨hsame, hid, hpending⟩
      · exact .inl hold
      · exact .inr ⟨hsame, hid, List.mem_append_left _ hpending⟩
    · split_ifs at hmem with hlog
      · obtain ⟨hid, rfl⟩ := hlog
        rcases List.mem_append.mp hmem with h | h
        · exact absurd h hmem'
        · cases List.mem_singleton.mp h
          exact .inr ⟨rfl, hid, List.mem_append_right _ (List.mem_singleton_self _)⟩
      · exact absurd hmem hmem'

/-- **An event keeps the invariant**, whatever the save it starts comes to. -/
theorem Session.Inv.event (hinv : p.Inv) {event : AppEvent} (succeeds : Bool)
    (hevent : ∀ update success, event ≠ .saved update success) :
    (p.launch (p.app.handleEvent formats now event) succeeds).Inv := by
  have hfollows := handleEvent_follows formats now p.app hevent
  generalize hresult : p.app.handleEvent formats now event = result at hfollows
  obtain ⟨app', request⟩ := result
  cases request with
  | none => exact hinv.follows hfollows
  | some request =>
      cases request with
      | save save =>
          have hrequest : (p.app.handleEvent formats now event).2 = some (.save save) := by
            rw [hresult]
          obtain ⟨happ, rfl, -⟩ := handleEvent_save hrequest
          rw [hresult] at happ
          cases happ
          exact hinv.launch succeeds
      | deleteQso localId => exact hinv.follows hfollows
      | purgeDeletedQsos => exact hinv.follows hfollows

/-- A save that is not stored leaves the others under way. -/
theorem Session.Inv.failed (hinv : p.Inv) {i : ℕ} {l : Launched} (hl : p.pending[i]? = some l)
    (hfails : l.succeeds = false) :
    Session.Inv { p with pending := p.pending.eraseIdx i } where
  linked := hinv.linked
  logged := by
    intro save hmem
    refine (hinv.logged save hmem).imp_right fun ⟨hsame, hid, hpending⟩ => ⟨hsame, hid, ?_⟩
    obtain ⟨j, hj⟩ := List.mem_iff_getElem?.mp hpending
    refine List.mem_eraseIdx_iff_getElem?.mpr ⟨j, ?_, hj⟩
    rintro rfl
    rw [hl] at hj
    cases hj
    cases hfails

/-- **A completion keeps the invariant** if it finds its form, or an empty one. -/
theorem Session.Inv.completion (hinv : p.Inv) {i : ℕ} {l : Launched}
    (hl : p.pending[i]? = some l) (hmeets : p.Meets now (.completion i)) :
    Session.Inv
      { p with
        app := (p.app.handleEvent formats now l.completion).1
        pending := p.pending.eraseIdx i } := by
  obtain ⟨-, hfailed, hstored⟩ := handleEvent_completion formats now p.app l
  cases hsucceeds : l.succeeds with
  | false =>
      rw [hfailed hsucceeds]
      exact hinv.failed hl hsucceeds
  | true =>
      obtain ⟨hform, hid⟩ := hstored hsucceeds
      refine hinv.new ?_ ?_
      · rw [hform]
        exact Nat.lt_succ_self _
      · show _ = _
        rw [hform, hid]
        show (if l.save.editingId = none then p.app.editingLocalId else none) = none
        split_ifs with hlog
        · rcases hmeets l hl hsucceeds with hown | hblank
          · rw [hown.editingLocalId]
            exact hlog
          · exact hblank.1
        · rfl

theorem Session.Inv.step (hinv : p.Inv) (hs : p.Step formats turn q)
    (hmeets : p.Meets turn.now turn.input) : q.Inv := by
  obtain ⟨-, ⟨event, succeeds, hevent, -, hafter, rfl⟩ | ⟨i, l, hinput, hl, hafter, rfl⟩⟩ :=
    hs.cases
  · rw [hafter]
    exact hinv.event succeeds hevent
  · rw [hinput] at hmeets
    have hkept : Session.Inv
        { p with
          app := (p.app.handleEvent formats turn.now l.completion).1
          pending := p.pending.eraseIdx i } := hinv.completion hl hmeets
    rwa [← hafter] at hkept

/-! ### The promise -/

/-- **A good step keeps the promise.** -/
theorem onScreen_step (hinv : p.Inv) (hs : p.Step formats turn q)
    (hmeets : p.Meets turn.now turn.input) : turn.OnScreen := by
  obtain ⟨rfl, ⟨event, succeeds, hevent, hinput, hafter, -⟩ | ⟨i, l, hinput, hl, hafter, -⟩⟩ :=
    hs.cases
  · have hrequest : turn.request = (turn.before.app.handleEvent formats turn.now event).2 := by
      rw [← hafter]
    have hsaved {save : Save} (h : turn.request = some (.save save)) :
        save = turn.before.app.spawnLogQso turn.now
          ∧ ∃ key, event = .key key ∧ turn.before.app.SavesOn key :=
      (handleEvent_save (hrequest.symm.trans h)).2
    refine ⟨?_, ?_, ?_, ?_⟩
    · intro save h localId hid
      obtain ⟨rfl, -⟩ := hsaved h
      rw [spawnLogQso_provenance, ← hinv.linked]
      exact hid
    · intro save h hid
      obtain ⟨rfl, -⟩ := hsaved h
      rw [spawnLogQso_provenance, ← hinv.linked]
      exact hid
    · intro save event' h hid hevent' saved hmem heq
      obtain ⟨rfl, key, rfl, hkey⟩ := hsaved h
      rw [hevent'] at hinput
      cases hinput
      rw [hevent'] at hmeets
      -- one that is stored already is under way
      rcases hinv.logged saved hmem with hold | ⟨-, hlog, hpending⟩
      · rw [heq] at hold
        exact lt_irrefl _ hold
      · exact hmeets hkey hid ⟨saved, true⟩ hpending hlog rfl heq
    · intro i l h
      rw [hinput] at h
      cases h
  · obtain ⟨hnone, hfailed, hstored⟩ := handleEvent_completion formats turn.now turn.before.app l
    rw [← hafter] at hnone hfailed hstored
    dsimp only at hnone hfailed hstored
    refine ⟨?_, ?_, ?_, ?_⟩
    · intro save h
      rw [hnone] at h
      cases h
    · intro save h
      rw [hnone] at h
      cases h
    · intro save event h
      rw [hnone] at h
      cases h
    · intro i' l' h hl' hchanged
      rw [hinput] at h hmeets
      cases h
      rw [hl] at hl'
      cases hl'
      cases hsucceeds : l.succeeds with
      | false =>
          rw [hfailed hsucceeds] at hchanged
          exact absurd hchanged (by simp)
      | true =>
          rcases hmeets l hl hsucceeds with hown | ⟨hid, hcontent⟩
          · exact hown
          · -- an empty form is made empty
            obtain ⟨hform, hid'⟩ := hstored hsucceeds
            rw [hform, hid', hcontent, hid] at hchanged
            simp at hchanged

end Step

/-- The application as it starts. -/
def Session.start (now : Now) : Session := { app := App.new now }

theorem Session.start_inv (now : Now) : (Session.start now).Inv := by
  refine ⟨?_, fun save h => absurd h List.not_mem_nil⟩
  show none = (LogForm.new now {}).provenance.loadedFrom
  rw [LogForm.new_provenance]

/-- **Run rule.** -/
theorem Session.run_inv {formats : Formats} {now : Now} {turns : List Turn} {q : Session}
    (hr : Transition.Run (Session.Step formats) (fun _ p turn => p.Meets turn.now turn.input)
      (.start now) turns q) : q.Inv ∧ ∀ turn ∈ turns, turn.OnScreen := by
  refine hr.invariant (I := fun turns q => q.Inv ∧ ∀ turn ∈ turns, turn.OnScreen) ?_ ?_
  · exact ⟨start_inv now, fun turn h => absurd h List.not_mem_nil⟩
  · intro turns p turn q ⟨hinv, hall⟩ hmeets hs
    refine ⟨hinv.step hs hmeets, ?_⟩
    rw [List.forall_mem_append, List.forall_mem_singleton]
    exact ⟨hall, onScreen_step hinv hs hmeets⟩

/-- **Saves go to the contact on screen** in every run whose forms are not logged again
while they are being logged, and whose stored saves complete while their form and editing
id are still there, or while the form is empty. -/
theorem onScreen_of_meets {formats : Formats} {now : Now} {turns : List Turn} {q : Session}
    (hr : Transition.Run (Session.Step formats) (fun _ p turn => p.Meets turn.now turn.input)
      (.start now) turns q) : ∀ turn ∈ turns, turn.OnScreen := (Session.run_inv hr).2

/-! ### Runs that are computed -/

instance (app : App) (save : Save) : Decidable (app.StillOf save) :=
  decidable_of_iff (app.editingLocalId = save.editingId
      ∧ app.form.provenance = save.form.provenance ∧ app.form.content = save.form.content)
    ⟨fun h => ⟨h.1, h.2.1, h.2.2⟩, fun h => ⟨h.1, h.2, h.3⟩⟩

instance (app : App) (now : Now) : Decidable (app.Blank now) :=
  inferInstanceAs (Decidable (_ ∧ _))

instance (app : App) (key : KeyEvent) : Decidable (app.SavesOn key) :=
  inferInstanceAs (Decidable ((_ ∨ _) ∧ _ ∧ _ ∧ (_ ∨ _ ∧ _)))

instance (p : Session) (now : Now) : (input : Input) → Decidable (p.Meets now input)
  | .event (.key key) true =>
      inferInstanceAs (Decidable (p.app.SavesOn key → p.app.editingLocalId = none →
        ∀ l ∈ p.pending, l.save.editingId = none → l.succeeds = true →
          l.save.form.provenance ≠ p.app.form.provenance))
  | .completion i =>
      inferInstanceAs (Decidable (∀ l ∈ p.pending[i]?, l.succeeds = true →
        p.app.StillOf l.save ∨ p.app.Blank now))
  | .event (.key _) false | .event (.lookupResult _) _ | .event (.rigSnapshot _) _
  | .event (.saved _ _) _ | .event .qsoDeleted _ | .event .qsoDeleteFailed _
  | .event .purgeComplete _ | .event .purgeFailed _ | .event (.recentQsos _) _
  | .event (.qsoNameEnriched _ _) _ => .isTrue trivial

theorem Session.handle_step {formats : Formats} {p q : Session} {given : Input × Now} {turn : Turn}
    (h : p.handle formats given = some (turn, q)) : p.Step formats turn q := by
  have hgiven : (turn.input, turn.now) = given := by
    obtain ⟨input, now⟩ := given
    unfold Session.handle at h
    dsimp only at h
    split_ifs at h
    cases input with
    | completion i =>
        obtain ⟨l, -, heq⟩ := Option.map_eq_some_iff.mp h
        cases heq
        rfl
    | event event succeeds =>
        cases event <;> cases h <;> rfl
  show p.handle formats (turn.input, turn.now) = some (turn, q)
  rw [hgiven]
  exact h

theorem Session.schedule_run {formats : Formats} {p : Session}
    {E : List Turn → Session → Turn → Prop} [∀ turns p turn, Decidable (E turns p turn)]
    {given : List (Input × Now)}
    (hm : Transition.meets (Session.handle formats) E [] given p) :
    Transition.Run (Session.Step formats) E p
      (Transition.schedule (Session.handle formats) given p).1
      (Transition.schedule (Session.handle formats) given p).2 := by
  have hturn (p : Session) (given : Input × Now) (turn : Turn) (q : Session)
      (h : p.handle formats given = some (turn, q)) : p.Step formats turn q :=
    Session.handle_step h
  exact Transition.schedule_run hturn hm

/-- Formats of a client that has no times to show. -/
def noFormats : Formats where
  toLowercase := id
  date _ := none
  time _ := none
  stamp _ := none
  float _ := ""

/-- A minute. -/
def noon : Now := ⟨"2024-05-01", "12:00"⟩

/-- A callsign is typed and the contact is logged. -/
def loggingRun : List Turn × Session :=
  Transition.schedule (Session.handle noFormats)
    [(.event (.key { code := .char 'w' }) true, noon), (.event (.key { code := .f 10 }) true, noon),
      (.completion 0, noon)] (.start noon)

theorem onScreen_loggingRun : loggingRun.1.length = 3 ∧ ∀ turn ∈ loggingRun.1, turn.OnScreen :=
  ⟨by decide +kernel, onScreen_of_meets (Session.schedule_run (by decide +kernel))⟩

/-- The save that a request starts. -/
def Request.toSave : Request → Option Save
  | .save started => some started
  | _ => none

/-- A row of the list. -/
def row : RecentQso where
  localId := "7"
  date := "2024-04-30"
  utc := "18:05"
  callsign := "K7DEF"
  band := "40M"
  mode := "CW"
  rstSent := "599"
  rstRcvd := "599"
  country := none
  grid := none
  name := none
  sourceRecord := { localId := "7", workedCallsign := "K7DEF" }

/-- A contact is logged; before the answer comes, the row is opened.  Then the next contact
is typed and saved. -/
def strayRun : List Turn × Session :=
  Transition.schedule (Session.handle noFormats)
    ([.event (.recentQsos [row]) true, .event (.key { code := .char 'w' }) true,
      .event (.key { code := .f 10 }) true, .event (.key { code := .f 3 }) true,
      .event (.key { code := .enter }) true, .completion 0,
      .event (.key { code := .char 'n' }) true, .event (.key { code := .f 10 }) true].map
        (·, noon)) (.start noon)

/-- The row is overwritten by the next contact. -/
theorem not_onScreen_stray :
    ¬ ∀ (formats : Formats) (now : Now) (turns : List Turn) (q : Session),
      Transition.Run (Session.Step formats) (fun _ _ _ => True) (.start now) turns q →
      ∀ turn ∈ turns, turn.OnScreen := by
  intro hall
  have hrun : Transition.Run (Session.Step noFormats) (fun _ _ _ => True) (.start noon)
      strayRun.1 strayRun.2 := Session.schedule_run (by decide +kernel)
  obtain ⟨turn, hin, save, hsave, hid, hfrom⟩ : ∃ turn ∈ strayRun.1,
      ∃ save ∈ turn.request.bind Request.toSave,
        save.editingId = some "7" ∧ save.formSnap.provenance.loadedFrom = none := by
    decide +kernel
  obtain ⟨request, hrequest, hsave⟩ := Option.bind_eq_some_iff.mp hsave
  cases request with
  | save save' =>
      cases hsave
      have hloaded := (hall _ _ _ _ hrun turn hin).update save hrequest "7" hid
      rw [hfrom] at hloaded
      cases hloaded
  | _ => cases hsave

end QsoRipper.Tui
