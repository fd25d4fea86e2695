/-
QsoRipper/Gui/Inherited.lean

What a contact in the panel inherits from the one before.  `Clear` sets the band
and the mode back and leaves it to their notifications to write the frequency
and the reports; but a band that does not change notifies nobody, and the values
of the radio are not cleared at all.

So four parts of the panel outlive `Clear`: the frequency, the two reports and
the values of the radio.  Nothing the panel decides depends on them, and of each
one can say which event writes it.
-/
import QsoRipper.Gui.Logger

namespace QsoRipper.Gui

/-- What outlives `Clear`. -/
inductive Leftover where
  | frequency
  | rstSent
  | rstRcvd
  | rig
  deriving DecidableEq

namespace LoggerState

variable {s t s' t' : LoggerState} {e : LoggerEvent} {l : Leftover}

/-! ### States that differ in leftovers -/

/-- The panel without its leftovers, its lookups and the save under way. -/
def core (s : LoggerState) : LoggerState :=
  { s with
    frequencyMhz := "", rstSent := "", rstRcvd := ""
    rigFrequencyRxHz := none, rigBandRx := 0, rigTxPowerWatts := none
    lookups := [], logging := false }

/-- A lookup that has not been cancelled. -/
def liveLookup (s : LoggerState) (lookup : ℕ) : Option LookupTask :=
  s.lookups[lookup]?.filter fun task => !task.cancelled

/-- Two panels that differ in leftovers and cancelled lookups alone. -/
structure Alike (s t : LoggerState) : Prop where
  core_eq : s.core = t.core
  live_eq : ∀ lookup, s.liveLookup lookup = t.liveLookup lookup

/-- The two panels have the same leftover. -/
def Agree : Leftover → LoggerState → LoggerState → Prop
  | .frequency, s, t => s.frequencyMhz = t.frequencyMhz
  | .rstSent, s, t => s.rstSent = t.rstSent
  | .rstRcvd, s, t => s.rstRcvd = t.rstRcvd
  | .rig, s, t => s.rigFrequencyRxHz = t.rigFrequencyRxHz ∧ s.rigBandRx = t.rigBandRx
      ∧ s.rigTxPowerWatts = t.rigTxPowerWatts

/-- Which leftover an event writes. -/
def writes (s : LoggerState) : LoggerEvent → Leftover → Bool
  | .typeFrequency _, .frequency => true
  | .typeRstSent _, .rstSent => true
  | .typeRstRcvd _, .rstRcvd => true
  | .cycleBandForward, .frequency => !s.frequencyManuallySet
  | .cycleBandBackward, .frequency => !s.frequencyManuallySet
  | .cycleModeForward, .rstSent => !s.rstManuallySet
  | .cycleModeForward, .rstRcvd => !s.rstManuallySet
  | .cycleModeBackward, .rstSent => !s.rstManuallySet
  | .cycleModeBackward, .rstRcvd => !s.rstManuallySet
  | .rigSnapshot snapshot, l =>
      snapshot.connected && NetText.isWhiteSpace s.callsign &&
        match l with
        | .frequency => !s.frequencyManuallySet && (decide (0 < snapshot.frequencyHz)
            || !s.bandManuallySet && snapshot.band != Band.unspecified.toI32
              && s.selectedBandIndex != findBandIndex snapshot.band)
        | .rig => true
        | _ => !s.rstManuallySet && !s.modeManuallySet && snapshot.mode != Mode.unspecified.toI32
            && s.selectedModeIndex != findModeIndex snapshot.mode (some snapshot.submode)
  | .clear, .frequency => s.selectedBandIndex != BandIndex.initial
  | .logged, .frequency => s.selectedBandIndex != BandIndex.initial
  | .clear, .rstSent => s.selectedModeIndex != ModeIndex.initial
  | .logged, .rstSent => s.selectedModeIndex != ModeIndex.initial
  | .clear, .rstRcvd => s.selectedModeIndex != ModeIndex.initial
  | .logged, .rstRcvd => s.selectedModeIndex != ModeIndex.initial
  | _, _ => false

/-- Does no event of a run write the leftover? -/
def survives (s : LoggerState) : List LoggerEvent → Leftover → Bool
  | [], _ => true
  | e :: events, l => !s.writes e l && (s.react e).survives events l

/-! ### What the setters read -/

theorem core_core (s : LoggerState) : s.core.core = s.core := rfl

theorem core_setSelectedBandIndex (s : LoggerState) (value : BandIndex) :
    (s.setSelectedBandIndex value).core = { s.core with selectedBandIndex := value } := by
  rw [setSelectedBandIndex]
  split_ifs with h
  · rw [← h]
    rfl
  · rw [onSelectedBandIndexChanged]
    split_ifs <;> rfl

theorem core_setSelectedModeIndex (s : LoggerState) (value : ModeIndex) :
    (s.setSelectedModeIndex value).core = { s.core with selectedModeIndex := value } := by
  rw [setSelectedModeIndex]
  split_ifs with h
  · rw [← h]
    rfl
  · rw [onSelectedModeIndexChanged]
    split_ifs <;> rfl

theorem core_onCallsignChanged (s : LoggerState) :
    (onCallsignChanged s).core = (onCallsignChanged s.core).core := by
  cases hblank : NetText.isWhiteSpace s.callsign <;>
    by_cases hshort : (NetText.utf16 (Text.trim s.callsign)).length < 3 <;>
      simp [onCallsignChanged, core, cancelLookup, clearLookupFields, hblank, hshort]

theorem core_setCallsign (s : LoggerState) (value : String) :
    (s.setCallsign value).core = (s.core.setCallsign value).core := by
  by_cases h : s.callsign = value
  · have hcore : s.core.callsign = value := h
    rw [setCallsign, if_pos h, setCallsign, if_pos hcore, core_core]
  · have hcore : ¬ s.core.callsign = value := h
    rw [setCallsign, if_neg h, setCallsign, if_neg hcore, core_onCallsignChanged]
    rfl

theorem callsign_onCallsignChanged (s : LoggerState) :
    (onCallsignChanged s).callsign = s.callsign := by
  unfold onCallsignChanged
  dsimp only
  split_ifs <;> rfl

theorem callsign_setCallsign_empty (s : LoggerState) : (s.setCallsign "").callsign = "" := by
  rw [setCallsign]
  split_ifs with h
  · exact h
  · rw [callsign_onCallsignChanged]
    rfl

/-- After `Clear` only the leftovers tell two panels apart. -/
theorem core_clear (s : LoggerState) : s.clear.core = core {} := by
  unfold clear
  generalize hs : s.cancelLookup.setCallsign "" = s₁
  have hcallsign : s₁.callsign = "" := by
    rw [← hs]
    exact callsign_setCallsign_empty _
  have htimer (u : LoggerState) : core { u with timer := none } = { u.core with timer := none } :=
    rfl
  rw [htimer, core_setSelectedModeIndex, core_setSelectedBandIndex]
  simp [core, clearLookupFields, hcallsign]

theorem core_applyRigBand (s : LoggerState) (snapshot : RigSnapshot) :
    (s.applyRigBand snapshot).core = (s.core.applyRigBand snapshot).core := by
  rw [applyRigBand, applyRigBand, show s.core.bandManuallySet = s.bandManuallySet from rfl]
  split_ifs
  · rw [core_setSelectedBandIndex, core_setSelectedBandIndex, core_core]
  · rw [core_core]

theorem core_applyRigMode (s : LoggerState) (snapshot : RigSnapshot) :
    (s.applyRigMode snapshot).core = (s.core.applyRigMode snapshot).core := by
  rw [applyRigMode, applyRigMode, show s.core.modeManuallySet = s.modeManuallySet from rfl]
  split_ifs
  · rw [core_setSelectedModeIndex, core_setSelectedModeIndex, core_core]
  · rw [core_core]

theorem core_applyRigFrequency (s : LoggerState) (snapshot : RigSnapshot) :
    (s.applyRigFrequency snapshot).core = s.core := by
  rw [applyRigFrequency]
  split_ifs <;> rfl

theorem core_applyRigRest (s : LoggerState) (snapshot : RigSnapshot) :
    (s.applyRigRest snapshot).core = s.core := rfl

theorem core_applyRigSnapshot (s : LoggerState) (snapshot : RigSnapshot) :
    (s.applyRigSnapshot snapshot).core = (s.core.applyRigSnapshot snapshot).core := by
  rw [applyRigSnapshot, applyRigSnapshot, show s.core.callsign = s.callsign from rfl]
  split_ifs
  · rw [core_core]
  · rw [core_core]
  · rw [core_applyRigRest, core_applyRigRest, core_applyRigFrequency, core_applyRigFrequency,
      core_applyRigMode, core_applyRigMode (s.core.applyRigBand snapshot), core_applyRigBand]

/-! ### Lookups -/

theorem liveLookup_cancelLookup (s : LoggerState) (lookup : ℕ) :
    s.cancelLookup.liveLookup lookup = if lookup = 0 then none else s.liveLookup lookup := by
  unfold cancelLookup liveLookup
  cases s.lookups with
  | nil => simp
  | cons task older =>
      cases lookup with
      | zero => simp
      | succ lookup => simp

theorem liveLookup_lookupDelayed (s : LoggerState) (lookup j : ℕ) :
    (s.lookupDelayed lookup).liveLookup j
      = if lookup = j then (s.liveLookup j).map fun task => { task with asked := true }
        else s.liveLookup j := by
  unfold lookupDelayed liveLookup
  rw [List.getElem?_modify]
  cases s.lookups[j]? with
  | none => simp
  | some task =>
      split_ifs <;> cases hcancelled : task.cancelled <;> simp [Option.filter_some, hcancelled]

theorem lookups_lookupAnswered (s : LoggerState) (lookup : ℕ) (outcome : LookupOutcome) :
    (s.lookupAnswered lookup outcome).lookups
      = s.lookups.modify lookup fun task =>
          if task.asked then { task with cancelled := true } else task := by
  refine List.ext_getElem? fun j => ?_
  rw [List.getElem?_modify, lookupAnswered]
  cases hget : s.lookups[lookup]? with
  | none =>
      split_ifs with hj
      · rw [← hj, hget]
        rfl
      · simp
  | some task =>
      obtain ⟨callsign, asked, cancelled⟩ := task
      by_cases hj : lookup = j
      · subst hj
        obtain ⟨hbound, hvalue⟩ := List.getElem?_eq_some_iff.mp hget
        cases asked <;> cases cancelled <;> simp [hbound, hvalue]
      · cases asked <;> cases cancelled <;> simp [hj]

theorem liveLookup_lookupAnswered (s : LoggerState) (lookup j : ℕ) (outcome : LookupOutcome) :
    (s.lookupAnswered lookup outcome).liveLookup j
      = if lookup = j then (s.liveLookup j).filter fun task => !task.asked else s.liveLookup j := by
  rw [liveLookup, lookups_lookupAnswered, List.getElem?_modify, liveLookup]
  cases s.lookups[j]? with
  | none => simp
  | some task =>
      split_ifs with hj
      · cases hasked : task.asked <;> cases hcancelled : task.cancelled <;>
          simp [Option.filter_some, hasked, hcancelled]
      · simp

/-- The answer to a lookup counts while the lookup is live. -/
theorem core_lookupAnswered (s : LoggerState) (lookup : ℕ) (outcome : LookupOutcome) :
    (s.lookupAnswered lookup outcome).core
      = if ((s.liveLookup lookup).any (·.asked)) = true then (s.core.applyLookup outcome).core
        else s.core := by
  have hcore : (s.applyLookup outcome).core = (s.core.applyLookup outcome).core := by
    rcases outcome with (_ | record) | _ | _ <;> rfl
  rw [lookupAnswered, liveLookup]
  cases hget : s.lookups[lookup]? with
  | none => simp
  | some task =>
      cases hasked : task.asked <;> cases hcancelled : task.cancelled <;>
        simp [Option.filter_some, hasked, hcancelled]
      exact hcore

/-! ### One event -/

theorem Alike.refl (s : LoggerState) : Alike s s := ⟨rfl, fun _ => rfl⟩

/-- The lookups after a change of the callsign. -/
theorem lookups_onCallsignChanged (s : LoggerState) :
    (onCallsignChanged s).lookups
      = if (NetText.utf16 (Text.trim s.callsign)).length < 3 then s.cancelLookup.lookups
        else { callsign := Text.trim s.callsign } :: s.cancelLookup.lookups := by
  cases hblank : NetText.isWhiteSpace s.callsign <;>
    by_cases hshort : (NetText.utf16 (Text.trim s.callsign)).length < 3 <;>
      simp [onCallsignChanged, cancelLookup, clearLookupFields, hblank, hshort]

theorem live_onCallsignChanged (s : LoggerState) (lookup : ℕ) :
    (onCallsignChanged s).liveLookup lookup
      = if (NetText.utf16 (Text.trim s.callsign)).length < 3 then s.cancelLookup.liveLookup lookup
        else
          match lookup with
          | 0 => some { callsign := Text.trim s.callsign }
          | lookup + 1 => s.cancelLookup.liveLookup lookup := by
  rw [liveLookup, lookups_onCallsignChanged]
  split_ifs
  · rfl
  · cases lookup <;> rfl

theorem Alike.cancelLookup (h : Alike s t) : Alike s.cancelLookup t.cancelLookup where
  core_eq := h.core_eq
  live_eq lookup := by rw [liveLookup_cancelLookup, liveLookup_cancelLookup, h.live_eq]

theorem Alike.callsign (h : Alike s t) : s.callsign = t.callsign :=
  (congrArg LoggerState.callsign h.core_eq : s.core.callsign = t.core.callsign)

theorem Alike.onCallsignChanged (h : Alike s t) :
    Alike s.onCallsignChanged t.onCallsignChanged where
  core_eq := by rw [core_onCallsignChanged, core_onCallsignChanged t, h.core_eq]
  live_eq lookup := by
    rw [live_onCallsignChanged, live_onCallsignChanged, h.callsign]
    split_ifs
    · exact h.cancelLookup.live_eq lookup
    · cases lookup with
      | zero => rfl
      | succ lookup => exact h.cancelLookup.live_eq lookup

theorem Alike.setCallsign (h : Alike s t) (value : String) :
    Alike (s.setCallsign value) (t.setCallsign value) := by
  rw [LoggerState.setCallsign, LoggerState.setCallsign, h.callsign]
  split_ifs
  · exact h
  · refine Alike.onCallsignChanged ⟨?_, h.live_eq⟩
    exact congrArg (fun u : LoggerState => { u with callsign := NetText.toUpperInvariant value })
      h.core_eq

/-- An event that keeps the lookups and reads the core alone. -/
theorem Alike.react_of_core (h : Alike s t) (hcore : ∀ u, (react u e).core = (u.core.react e).core)
    (hlookups : ∀ u, (react u e).lookups = u.lookups) : Alike (s.react e) (t.react e) where
  core_eq := by rw [hcore, hcore t, h.core_eq]
  live_eq lookup := by
    rw [liveLookup, hlookups, liveLookup, hlookups]
    exact h.live_eq lookup

theorem lookups_setSelectedBandIndex (s : LoggerState) (value : BandIndex) :
    (s.setSelectedBandIndex value).lookups = s.lookups := by
  unfold setSelectedBandIndex onSelectedBandIndexChanged
  split_ifs <;> rfl

theorem lookups_setSelectedModeIndex (s : LoggerState) (value : ModeIndex) :
    (s.setSelectedModeIndex value).lookups = s.lookups := by
  unfold setSelectedModeIndex onSelectedModeIndexChanged
  split_ifs <;> rfl

theorem lookups_applyRigSnapshot (s : LoggerState) (snapshot : RigSnapshot) :
    (s.applyRigSnapshot snapshot).lookups = s.lookups := by
  have hband : (s.applyRigBand snapshot).lookups = s.lookups := by
    unfold applyRigBand
    split_ifs
    · exact lookups_setSelectedBandIndex s _
    · rfl
  have hmode (u : LoggerState) : (u.applyRigMode snapshot).lookups = u.lookups := by
    unfold applyRigMode
    split_ifs
    · exact lookups_setSelectedModeIndex u _
    · rfl
  have hfrequency (u : LoggerState) : (u.applyRigFrequency snapshot).lookups = u.lookups := by
    unfold applyRigFrequency
    split_ifs <;> rfl
  unfold applyRigSnapshot
  split_ifs
  · rfl
  · rfl
  · exact (hfrequency _).trans ((hmode _).trans hband)

theorem lookups_clear (s : LoggerState) :
    s.clear.lookups = (s.cancelLookup.setCallsign "").lookups := by
  unfold clear
  generalize s.cancelLookup.setCallsign "" = u
  exact (lookups_setSelectedModeIndex _ _).trans (lookups_setSelectedBandIndex _ _)

theorem Alike.clear (h : Alike s t) : Alike s.clear t.clear where
  core_eq := by rw [core_clear, core_clear]
  live_eq lookup := by
    rw [liveLookup, lookups_clear, liveLookup, lookups_clear]
    exact (h.cancelLookup.setCallsign "").live_eq lookup

/-- **One event** on two panels that are alike. -/
theorem Alike.react (h : Alike s t) (e : LoggerEvent) : Alike (s.react e) (t.react e) := by
  cases e with
  | typeCallsign text => exact h.setCallsign text
  | typeRstSent text => exact ⟨h.core_eq, h.live_eq⟩
  | typeRstRcvd text => exact ⟨h.core_eq, h.live_eq⟩
  | typeFrequency text => exact ⟨h.core_eq, h.live_eq⟩
  | typeComment text => exact h.react_of_core (fun u => rfl) fun u => rfl
  | typeNotes text => exact h.react_of_core (fun u => rfl) fun u => rfl
  | typeContestId text => exact h.react_of_core (fun u => rfl) fun u => rfl
  | typeExchangeSent text => exact h.react_of_core (fun u => rfl) fun u => rfl
  | notifyFrequencyManuallySet => exact h.react_of_core (fun u => rfl) fun u => rfl
  | notifyRstManuallySet => exact h.react_of_core (fun u => rfl) fun u => rfl
  | cycleBandForward =>
      refine h.react_of_core (fun u => ?_) fun u => lookups_setSelectedBandIndex _ _
      rw [LoggerState.react, LoggerState.react, core_setSelectedBandIndex,
        core_setSelectedBandIndex]
      rfl
  | cycleBandBackward =>
      refine h.react_of_core (fun u => ?_) fun u => lookups_setSelectedBandIndex _ _
      rw [LoggerState.react, LoggerState.react, core_setSelectedBandIndex,
        core_setSelectedBandIndex]
      rfl
  | cycleModeForward =>
      refine h.react_of_core (fun u => ?_) fun u => lookups_setSelectedModeIndex _ _
      rw [LoggerState.react, LoggerState.react, core_setSelectedModeIndex,
        core_setSelectedModeIndex]
      rfl
  | cycleModeBackward =>
      refine h.react_of_core (fun u => ?_) fun u => lookups_setSelectedModeIndex _ _
      rw [LoggerState.react, LoggerState.react, core_setSelectedModeIndex,
        core_setSelectedModeIndex]
      rfl
  | acknowledgeQsoStart utcNow => exact h.react_of_core (fun u => rfl) fun u => rfl
  | rigSnapshot snapshot =>
      exact h.react_of_core (fun u => core_applyRigSnapshot u snapshot)
        (fun u => lookups_applyRigSnapshot u snapshot)
  | acceptLookupRecord record =>
      refine h.react_of_core (fun u => ?_) fun u => ?_
      · rw [LoggerState.react, LoggerState.react, acceptLookupRecord, acceptLookupRecord,
          show u.core.callsign = u.callsign from rfl]
        split_ifs <;> rfl
      · rw [LoggerState.react, acceptLookupRecord]
        split_ifs <;> rfl
  | lookupDelayed lookup =>
      refine ⟨h.core_eq, fun j => ?_⟩
      show (s.lookupDelayed lookup).liveLookup j = (t.lookupDelayed lookup).liveLookup j
      rw [liveLookup_lookupDelayed, liveLookup_lookupDelayed, h.live_eq]
  | lookupAnswered lookup outcome =>
      refine ⟨?_, fun j => ?_⟩
      · show (s.lookupAnswered lookup outcome).core = (t.lookupAnswered lookup outcome).core
        rw [core_lookupAnswered, core_lookupAnswered, h.live_eq, h.core_eq]
      · show (s.lookupAnswered lookup outcome).liveLookup j
          = (t.lookupAnswered lookup outcome).liveLookup j
        rw [liveLookup_lookupAnswered, liveLookup_lookupAnswered, h.live_eq]
  | clear => exact h.clear
  | logQso => exact ⟨h.core_eq, h.live_eq⟩
  | logged =>
      have hcleared := h.clear
      show Alike { s.clear with logging := false } { t.clear with logging := false }
      generalize s.clear = s' at hcleared ⊢
      generalize t.clear = t' at hcleared ⊢
      exact ⟨hcleared.core_eq, hcleared.live_eq⟩
  | logFailed => exact ⟨h.core_eq, h.live_eq⟩

/-! ### What an event writes -/

theorem frequency_setSelectedBandIndex (s : LoggerState) (value : BandIndex) :
    (s.setSelectedBandIndex value).frequencyMhz
      = if !s.frequencyManuallySet && s.selectedBandIndex != value then
          formatMhz (bands.get value).defaultFrequencyHz
        else s.frequencyMhz := by
  unfold setSelectedBandIndex onSelectedBandIndexChanged
  by_cases hsame : s.selectedBandIndex = value
  · simp [hsame]
  · have hne : (s.selectedBandIndex != value) = true := by simpa using hsame
    rw [if_neg hsame, hne, Bool.and_true]
    cases s.frequencyManuallySet <;> rfl

theorem reports_setSelectedBandIndex (s : LoggerState) (value : BandIndex) :
    (s.setSelectedBandIndex value).rstSent = s.rstSent
      ∧ (s.setSelectedBandIndex value).rstRcvd = s.rstRcvd := by
  unfold setSelectedBandIndex onSelectedBandIndexChanged
  split_ifs <;> exact ⟨rfl, rfl⟩

theorem reports_setSelectedModeIndex (s : LoggerState) (value : ModeIndex) :
    (s.setSelectedModeIndex value).rstSent
        = (if !s.rstManuallySet && s.selectedModeIndex != value then
            (modes.get value).defaultRst else s.rstSent)
      ∧ (s.setSelectedModeIndex value).rstRcvd
        = if !s.rstManuallySet && s.selectedModeIndex != value then
            (modes.get value).defaultRst else s.rstRcvd := by
  unfold setSelectedModeIndex onSelectedModeIndexChanged
  by_cases hsame : s.selectedModeIndex = value
  · simp [hsame]
  · have hne : (s.selectedModeIndex != value) = true := by simpa using hsame
    rw [if_neg hsame, hne, Bool.and_true]
    cases s.rstManuallySet <;> exact ⟨rfl, rfl⟩

theorem frequency_setSelectedModeIndex (s : LoggerState) (value : ModeIndex) :
    (s.setSelectedModeIndex value).frequencyMhz = s.frequencyMhz := by
  unfold setSelectedModeIndex onSelectedModeIndexChanged
  split_ifs <;> rfl

theorem next_ne {n : ℕ} (hn : 1 < n) (i : Fin n) : i ≠ next i := by
  intro h
  have hval : i.val = (i.val + 1) % n := congrArg Fin.val h
  have hlt := i.isLt
  rcases Nat.lt_or_ge (i.val + 1) n with hinside | hlast
  · rw [Nat.mod_eq_of_lt hinside] at hval
    omega
  · rw [show i.val + 1 = n by omega, Nat.mod_self] at hval
    omega

theorem previous_ne {n : ℕ} (hn : 1 < n) (i : Fin n) : i ≠ previous i := by
  intro h
  have hval : i.val = (i.val + n - 1) % n := congrArg Fin.val h
  have hlt := i.isLt
  rcases Nat.eq_zero_or_pos i.val with hfirst | hpos
  · rw [hfirst, Nat.zero_add, Nat.mod_eq_of_lt (by omega)] at hval
    omega
  · rw [show i.val + n - 1 = i.val - 1 + n by omega, Nat.add_mod_right,
      Nat.mod_eq_of_lt (by omega)] at hval
    omega

/-- The frequency that an event writes. -/
def writtenFrequency (s : LoggerState) : LoggerEvent → String
  | .typeFrequency text => text
  | .cycleBandForward => formatMhz (bands.get (next s.selectedBandIndex)).defaultFrequencyHz
  | .cycleBandBackward => formatMhz (bands.get (previous s.selectedBandIndex)).defaultFrequencyHz
  | .rigSnapshot snapshot =>
      if 0 < snapshot.frequencyHz then formatMhz snapshot.frequencyHz
      else formatMhz (bands.get (findBandIndex snapshot.band)).defaultFrequencyHz
  | _ => formatMhz (bands.get BandIndex.initial).defaultFrequencyHz

/-- A change of the callsign keeps the rest of the form. -/
theorem setCallsign_frame (s : LoggerState) (value : String) :
    (∀ l, Agree l (s.setCallsign value) s)
      ∧ (s.setCallsign value).selectedBandIndex = s.selectedBandIndex
      ∧ (s.setCallsign value).selectedModeIndex = s.selectedModeIndex := by
  unfold setCallsign onCallsignChanged
  dsimp only
  split_ifs <;> refine ⟨fun l => ?_, rfl, rfl⟩ <;> cases l <;> first | rfl | exact ⟨rfl, rfl, rfl⟩

theorem lookupAnswered_frame (s : LoggerState) (lookup : ℕ) (outcome : LookupOutcome)
    (l : Leftover) : Agree l (s.lookupAnswered lookup outcome) s := by
  unfold lookupAnswered
  cases s.lookups[lookup]? with
  | none => cases l <;> first | rfl | exact ⟨rfl, rfl, rfl⟩
  | some task =>
      dsimp only
      split_ifs
      · cases l <;> first | rfl | exact ⟨rfl, rfl, rfl⟩
      · rcases outcome with (_ | record) | _ | _ <;> cases l <;>
          first | rfl | exact ⟨rfl, rfl, rfl⟩

theorem frequency_clear (s : LoggerState) :
    s.clear.frequencyMhz = if s.selectedBandIndex != BandIndex.initial then
      formatMhz (bands.get BandIndex.initial).defaultFrequencyHz else s.frequencyMhz := by
  obtain ⟨hkept, hband, -⟩ := setCallsign_frame s.cancelLookup ""
  have hfrequency : (s.cancelLookup.setCallsign "").frequencyMhz = s.frequencyMhz :=
    hkept .frequency
  unfold clear
  dsimp only
  rw [frequency_setSelectedModeIndex, frequency_setSelectedBandIndex]
  dsimp only [clearLookupFields]
  rw [hfrequency, hband]
  rfl

theorem frequency_applyRigSnapshot (s : LoggerState) (snapshot : RigSnapshot) :
    (s.applyRigSnapshot snapshot).frequencyMhz
      = if s.writes (.rigSnapshot snapshot) .frequency then
          s.writtenFrequency (.rigSnapshot snapshot)
        else s.frequencyMhz := by
  have hband : (s.applyRigBand snapshot).frequencyMhz
      = if !s.frequencyManuallySet && (!s.bandManuallySet
          && snapshot.band != Band.unspecified.toI32
          && s.selectedBandIndex != findBandIndex snapshot.band) then
          formatMhz (bands.get (findBandIndex snapshot.band)).defaultFrequencyHz
        else s.frequencyMhz := by
    rw [applyRigBand]
    split_ifs with hset hwrites hwrites
    · rw [frequency_setSelectedBandIndex, if_pos]
      grind
    · rw [frequency_setSelectedBandIndex, if_neg]
      grind
    · grind
    · rfl
  have hmode : ((s.applyRigBand snapshot).applyRigMode snapshot).frequencyMhz
      = (s.applyRigBand snapshot).frequencyMhz := by
    rw [applyRigMode]
    split_ifs
    · exact frequency_setSelectedModeIndex _ _
    · rfl
  have hmanual : ((s.applyRigBand snapshot).applyRigMode snapshot).frequencyManuallySet
      = s.frequencyManuallySet := by
    have hmodeSet (u : LoggerState) (value : ModeIndex) :
        (u.setSelectedModeIndex value).frequencyManuallySet = u.frequencyManuallySet :=
      (congrArg frequencyManuallySet (core_setSelectedModeIndex u value) :)
    have hbandSet (value : BandIndex) :
        (s.setSelectedBandIndex value).frequencyManuallySet = s.frequencyManuallySet :=
      (congrArg frequencyManuallySet (core_setSelectedBandIndex s value) :)
    rw [applyRigMode, applyRigBand]
    split_ifs <;> simp only [hmodeSet, hbandSet]
  have hfrequency (u : LoggerState) : ((u.applyRigFrequency snapshot).applyRigRest
      snapshot).frequencyMhz = if !u.frequencyManuallySet && decide (0 < snapshot.frequencyHz) then
        formatMhz snapshot.frequencyHz else u.frequencyMhz := by
    rw [applyRigFrequency]
    split_ifs <;> rfl
  rw [applyRigSnapshot, writes, writtenFrequency]
  cases snapshot.connected with
  | false => rfl
  | true =>
      cases NetText.isWhiteSpace s.callsign with
      | false => rfl
      | true =>
          rw [if_neg (by decide), if_neg (by decide), hfrequency, hmanual, hmode, hband]
          cases s.frequencyManuallySet with
          | true => simp
          | false =>
              by_cases hpositive : 0 < snapshot.frequencyHz
              · simp [hpositive]
              · simp [hpositive]

/-- What becomes of the frequency. -/
theorem frequency_react (s : LoggerState) (e : LoggerEvent) :
    (s.react e).frequencyMhz
      = if s.writes e .frequency then s.writtenFrequency e else s.frequencyMhz := by
  cases e with
  | typeCallsign text => exact (setCallsign_frame s text).1 .frequency
  | cycleBandForward =>
      rw [react, frequency_setSelectedBandIndex]
      have hne := next_ne (by decide) s.selectedBandIndex
      simp [writes, writtenFrequency, hne]
  | cycleBandBackward =>
      rw [react, frequency_setSelectedBandIndex]
      have hne := previous_ne (by decide) s.selectedBandIndex
      simp [writes, writtenFrequency, hne]
  | cycleModeForward => exact frequency_setSelectedModeIndex _ _
  | cycleModeBackward => exact frequency_setSelectedModeIndex _ _
  | rigSnapshot snapshot => exact frequency_applyRigSnapshot s snapshot
  | acceptLookupRecord record =>
      rw [react, acceptLookupRecord]
      split_ifs <;> first | rfl | contradiction
  | lookupAnswered lookup outcome => exact lookupAnswered_frame s lookup outcome .frequency
  | clear => exact frequency_clear s
  | logged =>
      have hcleared := frequency_clear s
      show { s.clear with logging := false }.frequencyMhz = _
      generalize s.clear = u at hcleared ⊢
      exact hcleared
  | _ => rfl

/-- The report that an event writes. -/
def writtenReport (s : LoggerState) : LoggerEvent → String
  | .typeRstSent text => text
  | .typeRstRcvd text => text
  | .cycleModeForward => (modes.get (next s.selectedModeIndex)).defaultRst
  | .cycleModeBackward => (modes.get (previous s.selectedModeIndex)).defaultRst
  | .rigSnapshot snapshot =>
      (modes.get (findModeIndex snapshot.mode (some snapshot.submode))).defaultRst
  | _ => (modes.get ModeIndex.initial).defaultRst

theorem reports_clear (s : LoggerState) :
    s.clear.rstSent
        = (if s.selectedModeIndex != ModeIndex.initial then
            (modes.get ModeIndex.initial).defaultRst else s.rstSent)
      ∧ s.clear.rstRcvd = if s.selectedModeIndex != ModeIndex.initial then
            (modes.get ModeIndex.initial).defaultRst else s.rstRcvd := by
  obtain ⟨hkept, -, hmode⟩ := setCallsign_frame s.cancelLookup ""
  have hsent : (s.cancelLookup.setCallsign "").rstSent = s.rstSent := hkept .rstSent
  have hrcvd : (s.cancelLookup.setCallsign "").rstRcvd = s.rstRcvd := hkept .rstRcvd
  have hmodeSet (u : LoggerState) (value : BandIndex) :
      (u.setSelectedBandIndex value).selectedModeIndex = u.selectedModeIndex
        ∧ (u.setSelectedBandIndex value).rstManuallySet = u.rstManuallySet :=
    ⟨(congrArg selectedModeIndex (core_setSelectedBandIndex u value) :),
      (congrArg rstManuallySet (core_setSelectedBandIndex u value) :)⟩
  unfold clear
  dsimp only
  rw [(reports_setSelectedModeIndex _ _).1, (reports_setSelectedModeIndex _ _).2,
    (hmodeSet _ _).1, (hmodeSet _ _).2, (reports_setSelectedBandIndex _ _).1,
    (reports_setSelectedBandIndex _ _).2]
  dsimp only [clearLookupFields]
  rw [hsent, hrcvd, hmode]
  exact ⟨rfl, rfl⟩

theorem reports_applyRigSnapshot (s : LoggerState) (snapshot : RigSnapshot) :
    (s.applyRigSnapshot snapshot).rstSent
        = (if s.writes (.rigSnapshot snapshot) .rstSent then
            s.writtenReport (.rigSnapshot snapshot) else s.rstSent)
      ∧ (s.applyRigSnapshot snapshot).rstRcvd
        = if s.writes (.rigSnapshot snapshot) .rstRcvd then
            s.writtenReport (.rigSnapshot snapshot) else s.rstRcvd := by
  have hband : (s.applyRigBand snapshot).rstSent = s.rstSent
      ∧ (s.applyRigBand snapshot).rstRcvd = s.rstRcvd
      ∧ (s.applyRigBand snapshot).selectedModeIndex = s.selectedModeIndex
      ∧ (s.applyRigBand snapshot).rstManuallySet = s.rstManuallySet
      ∧ (s.applyRigBand snapshot).modeManuallySet = s.modeManuallySet := by
    rw [applyRigBand]
    split_ifs
    · refine ⟨(reports_setSelectedBandIndex _ _).1, (reports_setSelectedBandIndex _ _).2, ?_, ?_,
        ?_⟩
      · exact (congrArg selectedModeIndex (core_setSelectedBandIndex s _) :)
      · exact (congrArg rstManuallySet (core_setSelectedBandIndex s _) :)
      · exact (congrArg modeManuallySet (core_setSelectedBandIndex s _) :)
    · exact ⟨rfl, rfl, rfl, rfl, rfl⟩
  have hrest (u : LoggerState) :
      ((u.applyRigFrequency snapshot).applyRigRest snapshot).rstSent = u.rstSent
        ∧ ((u.applyRigFrequency snapshot).applyRigRest snapshot).rstRcvd = u.rstRcvd := by
    rw [applyRigFrequency]
    split_ifs <;> exact ⟨rfl, rfl⟩
  obtain ⟨hsent, hrcvd, hindex, hmanual, hmodeManual⟩ := hband
  have hwrites : ∀ l ∈ [Leftover.rstSent, .rstRcvd], s.writes (.rigSnapshot snapshot) l
      = (snapshot.connected && NetText.isWhiteSpace s.callsign &&
          (!s.rstManuallySet && !s.modeManuallySet && snapshot.mode != Mode.unspecified.toI32
            && s.selectedModeIndex != findModeIndex snapshot.mode (some snapshot.submode))) := by
    intro l hl
    rcases List.mem_pair.mp hl with rfl | rfl <;> rfl
  rw [hwrites .rstSent (by simp), hwrites .rstRcvd (by simp), applyRigSnapshot, writtenReport]
  cases snapshot.connected with
  | false => exact ⟨rfl, rfl⟩
  | true =>
      cases NetText.isWhiteSpace s.callsign with
      | false => exact ⟨rfl, rfl⟩
      | true =>
          rw [if_neg (by decide), if_neg (by decide), (hrest _).1, (hrest _).2, Bool.true_and,
            Bool.true_and]
          by_cases hmode : (!s.modeManuallySet && snapshot.mode != Mode.unspecified.toI32) = true
          · rw [applyRigMode, hmodeManual, if_pos hmode, (reports_setSelectedModeIndex _ _).1,
              (reports_setSelectedModeIndex _ _).2, hsent, hrcvd, hindex, hmanual]
            rw [Bool.and_eq_true] at hmode
            rw [hmode.1, hmode.2, Bool.and_true, Bool.and_true]
            exact ⟨rfl, rfl⟩
          · have hkept : ¬ (!s.rstManuallySet && !s.modeManuallySet
                && snapshot.mode != Mode.unspecified.toI32
                && s.selectedModeIndex != findModeIndex snapshot.mode (some snapshot.submode))
                = true := by
              grind
            rw [applyRigMode, hmodeManual, if_neg hmode, if_neg hkept, if_neg hkept]
            exact ⟨hsent, hrcvd⟩

/-- What becomes of the reports. -/
theorem reports_react (s : LoggerState) (e : LoggerEvent) :
    (s.react e).rstSent = (if s.writes e .rstSent then s.writtenReport e else s.rstSent)
      ∧ (s.react e).rstRcvd
        = if s.writes e .rstRcvd then s.writtenReport e else s.rstRcvd := by
  cases e with
  | typeCallsign text => exact ⟨(setCallsign_frame s text).1 .rstSent,
      (setCallsign_frame s text).1 .rstRcvd⟩
  | cycleBandForward => exact reports_setSelectedBandIndex _ _
  | cycleBandBackward => exact reports_setSelectedBandIndex _ _
  | cycleModeForward =>
      rw [react, (reports_setSelectedModeIndex _ _).1, (reports_setSelectedModeIndex _ _).2]
      have hne := next_ne (by decide) s.selectedModeIndex
      simp [writes, writtenReport, hne]
  | cycleModeBackward =>
      rw [react, (reports_setSelectedModeIndex _ _).1, (reports_setSelectedModeIndex _ _).2]
      have hne := previous_ne (by decide) s.selectedModeIndex
      simp [writes, writtenReport, hne]
  | rigSnapshot snapshot => exact reports_applyRigSnapshot s snapshot
  | acceptLookupRecord record =>
      rw [react, acceptLookupRecord]
      split_ifs <;> first | exact ⟨rfl, rfl⟩ | contradiction
  | lookupAnswered lookup outcome =>
      exact ⟨lookupAnswered_frame s lookup outcome .rstSent,
        lookupAnswered_frame s lookup outcome .rstRcvd⟩
  | clear => exact reports_clear s
  | logged =>
      have hcleared := reports_clear s
      show { s.clear with logging := false }.rstSent = _
        ∧ { s.clear with logging := false }.rstRcvd = _
      generalize s.clear = u at hcleared ⊢
      exact hcleared
  | _ => exact ⟨rfl, rfl⟩

theorem rig_setSelectedBandIndex (s : LoggerState) (value : BandIndex) :
    Agree .rig (s.setSelectedBandIndex value) s := by
  unfold setSelectedBandIndex onSelectedBandIndexChanged
  split_ifs <;> exact ⟨rfl, rfl, rfl⟩

theorem rig_setSelectedModeIndex (s : LoggerState) (value : ModeIndex) :
    Agree .rig (s.setSelectedModeIndex value) s := by
  unfold setSelectedModeIndex onSelectedModeIndexChanged
  split_ifs <;> exact ⟨rfl, rfl, rfl⟩

theorem Agree.trans {u : LoggerState} (h : Agree l s t) (h' : Agree l t u) : Agree l s u := by
  cases l with
  | frequency => exact Eq.trans h h'
  | rstSent => exact Eq.trans h h'
  | rstRcvd => exact Eq.trans h h'
  | rig => exact ⟨h.1.trans h'.1, h.2.1.trans h'.2.1, h.2.2.trans h'.2.2⟩

theorem Agree.symm (h : Agree l s t) : Agree l t s := by
  cases l with
  | frequency => exact Eq.symm h
  | rstSent => exact Eq.symm h
  | rstRcvd => exact Eq.symm h
  | rig => exact ⟨h.1.symm, h.2.1.symm, h.2.2.symm⟩

theorem rig_clear (s : LoggerState) : Agree .rig s.clear s := by
  refine Agree.trans (t := s.cancelLookup.setCallsign "") ?_
    ((setCallsign_frame s.cancelLookup "").1 .rig)
  unfold clear
  generalize s.cancelLookup.setCallsign "" = u
  exact (rig_setSelectedModeIndex _ _).trans (rig_setSelectedBandIndex _ _)

/-- The values of the radio change with what it reports alone. -/
theorem rig_react_of_not (h : s.writes e .rig = false) : Agree .rig (s.react e) s := by
  cases e with
  | typeCallsign text => exact (setCallsign_frame s text).1 .rig
  | cycleBandForward => exact rig_setSelectedBandIndex _ _
  | cycleBandBackward => exact rig_setSelectedBandIndex _ _
  | cycleModeForward => exact rig_setSelectedModeIndex _ _
  | cycleModeBackward => exact rig_setSelectedModeIndex _ _
  | rigSnapshot snapshot =>
      have hkept : (snapshot.connected && NetText.isWhiteSpace s.callsign && true) = false := h
      rw [react, applyRigSnapshot]
      cases hconnected : snapshot.connected with
      | false => exact ⟨rfl, rfl, rfl⟩
      | true =>
          cases hblank : NetText.isWhiteSpace s.callsign with
          | false => exact ⟨rfl, rfl, rfl⟩
          | true =>
              rw [hconnected, hblank] at hkept
              cases hkept
  | acceptLookupRecord record =>
      rw [react, acceptLookupRecord]
      split_ifs <;> exact ⟨rfl, rfl, rfl⟩
  | lookupAnswered lookup outcome => exact lookupAnswered_frame s lookup outcome .rig
  | clear => exact rig_clear s
  | logged =>
      have hcleared := rig_clear s
      show Agree .rig { s.clear with logging := false } s
      generalize s.clear = u at hcleared ⊢
      exact hcleared
  | _ => exact ⟨rfl, rfl, rfl⟩

theorem rig_react_of_writes (hs : s.writes e .rig = true) (ht : t.writes e .rig = true) :
    Agree .rig (s.react e) (t.react e) := by
  cases e with
  | rigSnapshot snapshot =>
      have happly {u : LoggerState} (hu : u.writes (.rigSnapshot snapshot) .rig = true) :
          u.react (.rigSnapshot snapshot) = (((u.applyRigBand snapshot).applyRigMode
            snapshot).applyRigFrequency snapshot).applyRigRest snapshot := by
        have hopen : (snapshot.connected && NetText.isWhiteSpace u.callsign && true) = true := hu
        rw [Bool.and_true, Bool.and_eq_true] at hopen
        rw [react, applyRigSnapshot, hopen.1, hopen.2]
        rfl
      rw [happly hs, happly ht]
      exact ⟨rfl, rfl, rfl⟩
  | _ => cases hs

/-- **One event**, and each leftover: it is kept, or written with what both panels know. -/
theorem Alike.react_agree (h : Alike s t) (e : LoggerEvent) (l : Leftover) :
    s.writes e l = t.writes e l
      ∧ (s.writes e l = true → Agree l (s.react e) (t.react e))
      ∧ (s.writes e l = false → Agree l (s.react e) s) := by
  have hwrites (u : LoggerState) : u.writes e l = u.core.writes e l := by cases e <;> rfl
  have hfrequency (u : LoggerState) : u.writtenFrequency e = u.core.writtenFrequency e := by
    cases e <;> rfl
  have hreport (u : LoggerState) : u.writtenReport e = u.core.writtenReport e := by
    cases e <;> rfl
  have hsame : s.writes e l = t.writes e l := by rw [hwrites, hwrites t, h.core_eq]
  refine ⟨hsame, fun hs => ?_, fun hs => ?_⟩
  · have ht := hsame ▸ hs
    cases l with
    | frequency =>
        show (s.react e).frequencyMhz = (t.react e).frequencyMhz
        rw [frequency_react, frequency_react, if_pos hs, if_pos ht, hfrequency, hfrequency t,
          h.core_eq]
    | rstSent =>
        show (s.react e).rstSent = (t.react e).rstSent
        rw [(reports_react s e).1, (reports_react t e).1, if_pos hs, if_pos ht, hreport, hreport t,
          h.core_eq]
    | rstRcvd =>
        show (s.react e).rstRcvd = (t.react e).rstRcvd
        rw [(reports_react s e).2, (reports_react t e).2, if_pos hs, if_pos ht, hreport, hreport t,
          h.core_eq]
    | rig => exact rig_react_of_writes hs ht
  · have hnot : ¬ s.writes e l = true := by
      rw [hs]
      exact Bool.false_ne_true
    cases l with
    | frequency => exact (frequency_react s e).trans (if_neg hnot)
    | rstSent => exact (reports_react s e).1.trans (if_neg hnot)
    | rstRcvd => exact (reports_react s e).2.trans (if_neg hnot)
    | rig => exact rig_react_of_not hs

/-! ### Runs -/

theorem Agree.refl (l : Leftover) (s : LoggerState) : Agree l s s := by
  cases l <;> first | rfl | exact ⟨rfl, rfl, rfl⟩

theorem Alike.symm (h : Alike s t) : Alike t s :=
  ⟨h.core_eq.symm, fun lookup => (h.live_eq lookup).symm⟩

theorem run_cons {events : List LoggerEvent} (h : s.run (e :: events) = some s') :
    (s.react e).run events = some s' := by
  rw [run, List.foldlM_cons, step] at h
  split_ifs at h
  · exact h
  · cases h

/-- **A run** on two panels that are alike: a leftover that it does not write is what it was, and
one that it writes is the same. -/
theorem Alike.run {events : List LoggerEvent} (h : Alike s t) (hs : s.run events = some s')
    (ht : t.run events = some t') : Alike s' t' ∧ ∀ l,
      (s.survives events l = true → Agree l s' s ∧ Agree l t' t)
        ∧ (s.survives events l = false → Agree l s' t') := by
  induction events generalizing s t with
  | nil =>
      cases hs
      cases ht
      refine ⟨h, fun l => ⟨fun _ => ⟨.refl l s', .refl l t'⟩, fun hwritten => ?_⟩⟩
      cases hwritten
  | cons e events ih =>
      obtain ⟨hfinal, hrest⟩ := ih (h.react e) (run_cons hs) (run_cons ht)
      refine ⟨hfinal, fun l => ?_⟩
      obtain ⟨hwrites, hwritten, hkept⟩ := h.react_agree e l
      obtain ⟨-, -, hkept'⟩ := h.symm.react_agree e l
      obtain ⟨hlater, hlost⟩ := hrest l
      rw [survives]
      cases he : s.writes e l with
      | true =>
          refine ⟨fun hsurvives => ?_, fun _ => ?_⟩
          · cases hsurvives
          · cases hl : (s.react e).survives events l with
            | true =>
                obtain ⟨hs₁, ht₁⟩ := hlater hl
                exact (hs₁.trans (hwritten he)).trans ht₁.symm
            | false => exact hlost hl
      | false =>
          refine ⟨fun hsurvives => ?_, fun hsurvives => hlost hsurvives⟩
          obtain ⟨hs₁, ht₁⟩ := hlater hsurvives
          exact ⟨hs₁.trans (hkept he), ht₁.trans (hkept' (hwrites ▸ he))⟩

/-! ### The next request -/

/-- The request takes the same from both leftovers. -/
def SameSent (texts : NumberTexts) : Leftover → LoggerState → LoggerState → Prop
  | .frequency, s, t =>
      tryParseMhzToHz texts s.frequencyMhz = tryParseMhzToHz texts t.frequencyMhz
  | .rstSent, s, t => Text.trim s.rstSent = Text.trim t.rstSent
  | .rstRcvd, s, t => Text.trim s.rstRcvd = Text.trim t.rstRcvd
  | .rig, s, t => s.rigFrequencyRxHz = t.rigFrequencyRxHz ∧ s.rigBandRx = t.rigBandRx
      ∧ s.rigTxPowerWatts.map texts.powerText = t.rigTxPowerWatts.map texts.powerText

variable {texts : NumberTexts}

theorem raw_parseRst (value : String) : (parseRst value).raw = value := by
  unfold parseRst
  split
  · split_ifs <;> rfl
  · split_ifs <;> rfl
  · rfl

/-- What a lookup and the decoder fill in is none of the leftovers. -/
theorem enrich_frame (qso : QsoRecord) (record : Option CallsignRecord) (decoder : CwDecoder)
    (utcStart utcEnd : Timestamp) :
    (enrichFromCwDecoder (enrichFromLookup qso record) decoder utcStart utcEnd).frequencyHz
        = qso.frequencyHz
      ∧ (enrichFromCwDecoder (enrichFromLookup qso record) decoder utcStart utcEnd).rstSent
        = qso.rstSent
      ∧ (enrichFromCwDecoder (enrichFromLookup qso record) decoder utcStart utcEnd).rstReceived
        = qso.rstReceived
      ∧ (enrichFromCwDecoder (enrichFromLookup qso record) decoder utcStart utcEnd).frequencyRxHz
        = qso.frequencyRxHz
      ∧ (enrichFromCwDecoder (enrichFromLookup qso record) decoder utcStart utcEnd).bandRx
        = qso.bandRx
      ∧ (enrichFromCwDecoder (enrichFromLookup qso record) decoder utcStart utcEnd).txPower
        = qso.txPower := by
  have hlookup : (enrichFromLookup qso record).frequencyHz = qso.frequencyHz
      ∧ (enrichFromLookup qso record).rstSent = qso.rstSent
      ∧ (enrichFromLookup qso record).rstReceived = qso.rstReceived
      ∧ (enrichFromLookup qso record).frequencyRxHz = qso.frequencyRxHz
      ∧ (enrichFromLookup qso record).bandRx = qso.bandRx
      ∧ (enrichFromLookup qso record).txPower = qso.txPower := by
    cases record <;> exact ⟨rfl, rfl, rfl, rfl, rfl, rfl⟩
  generalize enrichFromLookup qso record = looked at hlookup
  obtain ⟨h₁, h₂, h₃, h₄, h₅, h₆⟩ := hlookup
  rw [← h₁, ← h₂, ← h₃, ← h₄, ← h₅, ← h₆]
  unfold enrichFromCwDecoder
  dsimp only
  split_ifs <;> repeat' split
  all_goals exact ⟨rfl, rfl, rfl, rfl, rfl, rfl⟩

/-- Two panels that are alike send the same exactly if what they take from each leftover is. -/
theorem Alike.request_eq_iff (h : Alike s t) (utcNow : Timestamp) (decoder : CwDecoder) :
    s.request texts utcNow decoder = t.request texts utcNow decoder
      ↔ NetText.isWhiteSpace s.workedCallsign = true ∨ ∀ l, SameSent texts l s t := by
  have hcallsign : s.workedCallsign = t.workedCallsign := by
    rw [workedCallsign, workedCallsign, h.callsign]
  have hband : s.selectedBandIndex = t.selectedBandIndex :=
    (congrArg selectedBandIndex h.core_eq :)
  have hmode : s.selectedModeIndex = t.selectedModeIndex :=
    (congrArg selectedModeIndex h.core_eq :)
  have htimer : s.timer = t.timer := (congrArg timer h.core_eq :)
  have hcomment : s.comment = t.comment := (congrArg comment h.core_eq :)
  have hnotes : s.notes = t.notes := (congrArg notes h.core_eq :)
  have hcontest : s.contestId = t.contestId := (congrArg contestId h.core_eq :)
  have hexchange : s.exchangeSent = t.exchangeSent := (congrArg exchangeSent h.core_eq :)
  have hrecord : s.lastLookupRecord = t.lastLookupRecord := (congrArg lastLookupRecord h.core_eq :)
  unfold request
  rw [hcallsign]
  cases hblank : NetText.isWhiteSpace t.workedCallsign with
  | true => exact iff_of_true rfl (.inl rfl)
  | false =>
      rw [if_neg Bool.false_ne_true, if_neg Bool.false_ne_true, Option.some_inj, hband, hmode,
        htimer, hcomment, hnotes, hcontest, hexchange, hrecord]
      constructor
      · intro heq
        refine .inr fun l => ?_
        cases l with
        | frequency =>
            have hsent := congrArg QsoRecord.frequencyHz heq
            rw [(enrich_frame _ _ _ _ _).1, (enrich_frame _ _ _ _ _).1] at hsent
            exact hsent
        | rstSent =>
            have hsent := congrArg QsoRecord.rstSent heq
            rw [(enrich_frame _ _ _ _ _).2.1, (enrich_frame _ _ _ _ _).2.1] at hsent
            have hraw := congrArg RstReport.raw (Option.some.inj hsent)
            rwa [raw_parseRst, raw_parseRst] at hraw
        | rstRcvd =>
            have hsent := congrArg QsoRecord.rstReceived heq
            rw [(enrich_frame _ _ _ _ _).2.2.1, (enrich_frame _ _ _ _ _).2.2.1] at hsent
            have hraw := congrArg RstReport.raw (Option.some.inj hsent)
            rwa [raw_parseRst, raw_parseRst] at hraw
        | rig =>
            have hrx := congrArg QsoRecord.frequencyRxHz heq
            have hbandRx := congrArg QsoRecord.bandRx heq
            have hpower := congrArg QsoRecord.txPower heq
            rw [(enrich_frame _ _ _ _ _).2.2.2.1, (enrich_frame _ _ _ _ _).2.2.2.1] at hrx
            rw [(enrich_frame _ _ _ _ _).2.2.2.2.1, (enrich_frame _ _ _ _ _).2.2.2.2.1] at hbandRx
            rw [(enrich_frame _ _ _ _ _).2.2.2.2.2, (enrich_frame _ _ _ _ _).2.2.2.2.2] at hpower
            exact ⟨hrx, hbandRx, hpower⟩
      · rintro (hfalse | hsame)
        · cases hfalse
        · obtain ⟨hrx, hbandRx, hpower⟩ := hsame .rig
          have hfrequency := hsame .frequency
          have hsent := hsame .rstSent
          have hrcvd := hsame .rstRcvd
          simp only [SameSent] at hfrequency hsent hrcvd
          rw [hrx, hbandRx, hpower, hfrequency, hsent, hrcvd]

theorem SameSent.congr {u v : LoggerState} (hs : Agree l u s) (ht : Agree l v t) :
    SameSent texts l u v ↔ SameSent texts l s t := by
  cases l with
  | frequency => rw [SameSent, SameSent, show u.frequencyMhz = s.frequencyMhz from hs,
      show v.frequencyMhz = t.frequencyMhz from ht]
  | rstSent => rw [SameSent, SameSent, show u.rstSent = s.rstSent from hs,
      show v.rstSent = t.rstSent from ht]
  | rstRcvd => rw [SameSent, SameSent, show u.rstRcvd = s.rstRcvd from hs,
      show v.rstRcvd = t.rstRcvd from ht]
  | rig => rw [SameSent, SameSent, hs.1, hs.2.1, hs.2.2, ht.1, ht.2.1, ht.2.2]

/-- No lookup but the latest can still answer. -/
def OnlyLatest (s : LoggerState) : Prop := ∀ lookup, s.liveLookup (lookup + 1) = none

theorem OnlyLatest.cancelLookup (h : OnlyLatest s) (lookup : ℕ) :
    s.cancelLookup.liveLookup lookup = none := by
  rw [liveLookup_cancelLookup]
  cases lookup with
  | zero => rfl
  | succ lookup => exact (if_neg (Nat.succ_ne_zero lookup)).trans (h lookup)

theorem OnlyLatest.onCallsignChanged (h : OnlyLatest s) : OnlyLatest s.onCallsignChanged := by
  intro lookup
  rw [live_onCallsignChanged]
  split_ifs
  · exact h.cancelLookup (lookup + 1)
  · exact h.cancelLookup lookup

theorem OnlyLatest.setCallsign (h : OnlyLatest s) (value : String) :
    OnlyLatest (s.setCallsign value) := by
  rw [LoggerState.setCallsign]
  split_ifs
  · exact h
  · exact OnlyLatest.onCallsignChanged (s := { s with callsign := _ }) h

theorem OnlyLatest.of_lookups (h : OnlyLatest s) (hsame : t.lookups = s.lookups) :
    OnlyLatest t := by
  intro lookup
  rw [liveLookup, hsame]
  exact h lookup

theorem OnlyLatest.clear (h : OnlyLatest s) : OnlyLatest s.clear :=
  OnlyLatest.of_lookups (s := s.cancelLookup.setCallsign "")
    (OnlyLatest.setCallsign (fun lookup => h.cancelLookup (lookup + 1)) "") (lookups_clear s)

theorem OnlyLatest.react (h : OnlyLatest s) (e : LoggerEvent) : OnlyLatest (s.react e) := by
  cases e with
  | typeCallsign text => exact h.setCallsign text
  | cycleBandForward => exact h.of_lookups (lookups_setSelectedBandIndex _ _)
  | cycleBandBackward => exact h.of_lookups (lookups_setSelectedBandIndex _ _)
  | cycleModeForward => exact h.of_lookups (lookups_setSelectedModeIndex _ _)
  | cycleModeBackward => exact h.of_lookups (lookups_setSelectedModeIndex _ _)
  | rigSnapshot snapshot => exact h.of_lookups (lookups_applyRigSnapshot s snapshot)
  | acceptLookupRecord record =>
      refine h.of_lookups ?_
      rw [LoggerState.react, acceptLookupRecord]
      split_ifs <;> rfl
  | lookupDelayed lookup =>
      intro j
      rw [LoggerState.react, liveLookup_lookupDelayed, h j]
      exact ite_self none
  | lookupAnswered lookup outcome =>
      intro j
      rw [LoggerState.react, liveLookup_lookupAnswered, h j]
      exact ite_self none
  | clear => exact h.clear
  | logged =>
      have hcleared := h.clear
      show OnlyLatest { s.clear with logging := false }
      generalize s.clear = u at hcleared ⊢
      exact hcleared
  | _ => exact h

theorem OnlyLatest.run {events : List LoggerEvent} (h : OnlyLatest s)
    (hs : s.run events = some s') : OnlyLatest s' := by
  induction events generalizing s with
  | nil =>
      cases hs
      exact h
  | cons e events ih => exact ih (h.react e) (run_cons hs)

/-- `Clear` leaves no lookup that can still answer. -/
theorem OnlyLatest.live_clear (h : OnlyLatest s) (lookup : ℕ) :
    s.clear.liveLookup lookup = none := by
  have hcancelled : OnlyLatest s.cancelLookup := fun lookup => h.cancelLookup (lookup + 1)
  rw [liveLookup, lookups_clear, LoggerState.setCallsign]
  split_ifs
  · exact h.cancelLookup lookup
  · have hshort : (NetText.utf16 (Text.trim (NetText.toUpperInvariant ""))).length < 3 := by
      simp [NetText.toUpperInvariant, Text.trim_empty, NetText.utf16]
    show liveLookup (LoggerState.onCallsignChanged _) lookup = none
    rw [live_onCallsignChanged, if_pos hshort]
    exact hcancelled.cancelLookup lookup

theorem Alike.of_clear (hs : OnlyLatest s) (ht : OnlyLatest t) : Alike s.clear t.clear where
  core_eq := by rw [core_clear, core_clear]
  live_eq lookup := by rw [hs.live_clear, ht.live_clear]

theorem OnlyLatest.initial : OnlyLatest {} := fun _ => rfl

/-- **What a contact inherits** from before `Clear`: two runs that do the same from there on send
the same exactly if, of every leftover that the run does not write, they take the same. -/
theorem request_inherits_iff {before before' events : List LoggerEvent}
    (hs : run {} before = some s) (ht : run {} before' = some t)
    (hs' : s.run (.clear :: events) = some s') (ht' : t.run (.clear :: events) = some t')
    (utcNow : Timestamp) (decoder : CwDecoder) :
    s'.request texts utcNow decoder = t'.request texts utcNow decoder
      ↔ NetText.isWhiteSpace s'.workedCallsign = true
        ∨ ∀ l, s.clear.survives events l = true → SameSent texts l s.clear t.clear := by
  have halike := Alike.of_clear (OnlyLatest.initial.run hs) (OnlyLatest.initial.run ht)
  obtain ⟨hfinal, hleft⟩ := halike.run (run_cons hs') (run_cons ht')
  rw [hfinal.request_eq_iff]
  refine or_congr_right (forall_congr' fun l => ?_)
  obtain ⟨hkept, hwritten⟩ := hleft l
  change (s.clear.survives events l = true → _) at hkept
  cases hsurvives : s.clear.survives events l with
  | true =>
      obtain ⟨hs₁, ht₁⟩ := hkept hsurvives
      rw [SameSent.congr hs₁ ht₁]
      exact ⟨fun hsame _ => hsame, fun hsame => hsame rfl⟩
  | false =>
      have hagree : Agree l s' t' := hwritten hsurvives
      refine iff_of_true ?_ fun hfalse => ?_
      · rw [SameSent.congr hagree (.refl l t')]
        cases l <;> first | rfl | exact ⟨rfl, rfl, rfl⟩
      · cases hfalse

/-! ### Two contacts on 20 m -/

/-- Texts of numbers, for contacts without a power. -/
def plainTexts : NumberTexts := ⟨fun _ => "0", fun _ => none⟩

/-- A decoder that has heard nothing. -/
def silentDecoder : CwDecoder := ⟨fun _ _ => none, fun _ _ => none⟩

/-- The next contact. -/
def nextContact : List LoggerEvent := [.typeCallsign "W1AW"]

/-- A band and a mode that were chosen before leave nothing behind. -/
theorem request_inherits_nothing :
    ((((react {} .cycleBandForward).react .clear).react (.typeCallsign "W1AW")).request plainTexts
        ⟨1000, 0⟩ silentDecoder)
      = (((react {} .cycleModeForward).react .clear).react (.typeCallsign "W1AW")).request
        plainTexts ⟨1000, 0⟩ silentDecoder := by
  have hband : run {} [.cycleBandForward] = some _ := rfl
  have hmode : run {} [.cycleModeForward] = some _ := rfl
  have hnext (s : LoggerState) : s.run (.clear :: nextContact) = some _ := rfl
  refine (request_inherits_iff hband hmode (hnext _) (hnext _) ⟨1000, 0⟩ silentDecoder).mpr
    (.inr fun l _ => ?_)
  cases l with
  | frequency => exact congrArg (tryParseMhzToHz plainTexts) rfl
  | rstSent => exact congrArg Text.trim rfl
  | rstRcvd => exact congrArg Text.trim rfl
  | rig => exact ⟨rfl, rfl, rfl⟩

/-- A frequency that was typed on 20 m is sent with the next contact. -/
theorem not_request_inherits_nothing :
    ¬ ∀ (before before' events : List LoggerEvent) (s t s' t' : LoggerState),
      run {} before = some s → run {} before' = some t →
      s.run (.clear :: events) = some s' → t.run (.clear :: events) = some t' →
      s'.request plainTexts ⟨1000, 0⟩ silentDecoder
        = t'.request plainTexts ⟨1000, 0⟩ silentDecoder := by
  intro h
  have hsame := h [.typeFrequency "14.074.000"] [] nextContact _ _ _ _ rfl rfl rfl rfl
  have hfrequency := congrArg (fun qso => qso.map (·.frequencyHz)) hsame
  exact absurd hfrequency (by decide +kernel)

end LoggerState

end QsoRipper.Gui
