/-
QsoRipper/DotNet/CwWatchdog.lean

Text on the keyer and the transmit watchdog of the managed engine.  The keyer
holds text after a successful `SendText` until it has sent it or a successful
`ClearBuffer`; any of its calls may fail, and disposing of it clears nothing.
The watchdog is a timer: when its time has come a callback is queued, which runs
as soon as it gets the gate, even if the timer has been cancelled since.

An abort cancels the timer before it clears the buffer, a callback that finds no
keyer or cannot clear its buffer is not repeated, and `Dispose` asks nobody.
-/
import QsoRipper.Lib.Contract
import QsoRipper.Lib.Transition
import QsoRipper.DotNet.CwKeying

namespace QsoRipper.DotNet.CwWatchdog

open Interaction
open Cw (CwBackendKind CwKeyerConfig BrokerDeviceStatus Keyer)

/-! ### The keyer and the timer -/

/-- The calls of the keyer that may fail. -/
inductive CwOp where
  | creating
  | initializing
  | settingSpeed
  | sending
  | clearing
  | askingBusy
  | closing
  | askingStatus
  | disposing
deriving DecidableEq, Repr

/-- How the keyer behaves while one command has the gate. -/
structure Conduct where
  fails : CwOp → Option CwException := fun _ => none
  revision : UInt8 := 0
  brokerStatus : Option BrokerDeviceStatus := none

/-- The keyer and the timer.  Instants are ticks of 100 ns. -/
structure Bench where
  now : ℕ
  holds : Bool := false
  /-- When text was last accepted. -/
  sentAt : ℕ := 0
  /-- When the timer is to call back. -/
  due : Option ℕ := none
  /-- The callbacks that wait for the gate, with the instants they were due. -/
  expired : List ℕ := []
  nextKeyer : Keyer := 0

/-- `TimeSpan.FromMilliseconds`. -/
def fromMilliseconds (millis : ℕ) : ℕ := millis * 10000

/-- A call that changes nothing when it fails. -/
def Bench.attempt {α : Type} (b : Bench) (failure : Option CwException) (value : α)
    (next : Bench) : Except CwException α × Bench :=
  match failure with
  | some error => (.error error, b)
  | none => (.ok value, next)

/-- Answer a call.  The keyer is busy while it holds text. -/
def serveBench (conduct : Conduct) : (c : CwCmd) → Bench → c.Answer × Bench
  | .portFactory _ _, b | .cathubFactory _ _, b =>
      b.attempt (conduct.fails .creating) b.nextKeyer { b with nextKeyer := b.nextKeyer + 1 }
  | .initializeKeyer _, b => b.attempt (conduct.fails .initializing) conduct.revision b
  | .setSpeed _ _, b => b.attempt (conduct.fails .settingSpeed) () b
  | .sendText _ _, b =>
      b.attempt (conduct.fails .sending) () { b with holds := true, sentAt := b.now }
  | .clearBuffer _, b => b.attempt (conduct.fails .clearing) () { b with holds := false }
  | .isBusy _, b => b.attempt (conduct.fails .askingBusy) b.holds b
  | .closeHostMode _, b => b.attempt (conduct.fails .closing) () b
  | .getBrokerStatus _, b => b.attempt (conduct.fails .askingStatus) conduct.brokerStatus b
  | .disposeKeyer _, b => b.attempt (conduct.fails .disposing) () b
  | .watchdogFactory, b => ((), b)
  | .arm dueTimeMs, b => ((), { b with due := some (b.now + fromMilliseconds dueTimeMs) })
  | .cancel, b | .disposeWatchdog, b => ((), { b with due := none })

/-- Let time pass; the timer calls back once. -/
def Bench.elapse (b : Bench) (ticks : ℕ) : Bench :=
  match b.due with
  | none => { b with now := b.now + ticks }
  | some due =>
      if due ≤ b.now + ticks then
        { b with now := b.now + ticks, due := none, expired := b.expired ++ [due] }
      else { b with now := b.now + ticks }

/-! ### Runs of the controller -/

/-- The controller, the keyer and the timer. -/
structure Keying where
  controller : ManagedCwController
  bench : Bench

/-- A controller that has just been made. -/
def Keying.new (config : CwKeyerConfig) (now : ℕ) : Keying where
  controller := .new config
  bench := { now := now }

/-- What happens next. -/
inductive KeyingEvent where
  | elapse (ticks : ℕ)
  /-- The keyer has sent its text. -/
  | finish
  /-- A command gets the gate. -/
  | call (command : CwCall) (conduct : Conduct)
  /-- A callback of the timer gets the gate. -/
  | callback (conduct : Conduct)

/-- An event: the calls it makes, and what the system is afterwards. -/
def occur (k : Keying) : KeyingEvent → Option (List CwCmd × Keying)
  | .elapse ticks => some ([], { k with bench := k.bench.elapse ticks })
  | .finish => some ([], { k with bench := { k.bench with holds := false } })
  | .call command conduct =>
      let served := k.controller.serve command
      let (controller, bench) := served.run (serveBench conduct) k.bench
      some ((served.trace (serveBench conduct) k.bench).map (·.2.1), ⟨controller, bench⟩)
  | .callback conduct =>
      match k.bench.expired with
      | [] => none
      | _ :: expired =>
          let bench := { k.bench with expired := expired }
          let served := k.controller.expireWatchdog
          let ((_, controller), bench') := served.run (serveBench conduct) bench
          some ((served.trace (serveBench conduct) bench).map (·.2.1), ⟨controller, bench'⟩)

/-- An event of a run. -/
structure Moment where
  event : KeyingEvent
  before : Keying
  calls : List CwCmd
  after : Keying

/-- One event of a run. -/
def KeyingStep (k : Keying) (m : Moment) (k' : Keying) : Prop :=
  occur k m.event = some (m.calls, k') ∧ m.before = k ∧ m.after = k'

/-! ### What the watchdog is for -/

/-- Text on the keyer has a deadline, at most the maximum transmit time after it
was accepted, and the controller is there to act on it. -/
def Covered (k : Keying) : Prop :=
  k.bench.holds = true → k.controller.disposed = false
    ∧ ∃ due, (k.bench.due = some due ∨ due ∈ k.bench.expired)
      ∧ due ≤ k.bench.sentAt + fromMilliseconds k.controller.config.maxTxMs

/-- Text is covered afterwards, and a callback that gets the gate while the keyer
is busy has tried to clear its buffer. -/
def Guarded (m : Moment) : Prop :=
  Covered m.after ∧ ∀ conduct, m.event = .callback conduct → m.before.bench.holds = true →
    ∃ keyer, CwCmd.clearBuffer keyer ∈ m.calls

/-- The backend has hardware that a factory can open. -/
def Opens (config : CwKeyerConfig) : Prop :=
  config.backend = .cathub
    ∨ config.backend = .winkeyer ∧ NetText.isNullOrWhiteSpace config.winkeyerPort = false

/-- The keyer is connected, or can be. -/
def Conduct.reaches (conduct : Conduct) (c : ManagedCwController) : Prop :=
  c.keyer.isSome = true
    ∨ Opens c.config ∧ conduct.fails .creating = none ∧ conduct.fails .initializing = none

/-- The condition on an event that finds text on the keyer: an abort clears the
buffer, or a callback is waiting; the keyer is still connected when a callback
gets the gate, says that it is busy, and is cleared, unless the timer is armed
again or another callback is waiting; and nobody disposes of the controller. -/
def Attended (m : Moment) : Prop :=
  m.before.bench.holds = true →
    match m.event with
    | .call .abort conduct =>
        conduct.reaches m.before.controller ∧ conduct.fails .clearing = none
          ∨ m.before.bench.expired ≠ []
    | .call .dispose _ => False
    | .callback conduct =>
        m.before.controller.keyer.isSome = true ∧ conduct.fails .askingBusy = none
          ∧ (conduct.fails .clearing = none ∨ m.before.bench.due.isSome = true
            ∨ m.before.bench.expired.tail ≠ [])
    | _ => True

/-! ### Calls that leave the text alone -/

/-- The text on the keyer, the clock and the timer are what they were. -/
structure Still (b b' : Bench) : Prop where
  now : b'.now = b.now
  holds : b'.holds = b.holds
  sentAt : b'.sentAt = b.sentAt
  due : b'.due = b.due
  expired : b'.expired = b.expired

theorem Still.refl (b : Bench) : Still b b := ⟨rfl, rfl, rfl, rfl, rfl⟩

theorem Still.trans {b b' b'' : Bench} (h : Still b b') (h' : Still b' b'') : Still b b'' where
  now := h'.now.trans h.now
  holds := h'.holds.trans h.holds
  sentAt := h'.sentAt.trans h.sentAt
  due := h'.due.trans h.due
  expired := h'.expired.trans h.expired

/-- A call that leaves the text and the timer alone. -/
def Gentle : CwCmd → Prop
  | .sendText _ _ | .clearBuffer _ | .arm _ | .cancel | .disposeWatchdog => False
  | _ => True

/-- Only gentle calls. -/
def gentle : Contract CwCmd CwCmd.Answer Unit where
  allowed _ c := Gentle c
  next _ _ _ := ()

theorem still_attempt {α : Type} {b b' : Bench} {failure : Option CwException} {value : α}
    (h : Still b b') : Still b (b.attempt failure value b').2 := by
  rcases failure with - | error
  · exact h
  · exact .refl b

theorem still_serve {conduct : Conduct} {c : CwCmd} (hc : Gentle c) (b : Bench) :
    Still b (serveBench conduct c b).2 := by
  cases c with
  | sendText keyer text => exact hc.elim
  | clearBuffer keyer => exact hc.elim
  | arm dueTimeMs => exact hc.elim
  | cancel => exact hc.elim
  | disposeWatchdog => exact hc.elim
  | watchdogFactory => exact .refl b
  | _ => exact still_attempt ⟨rfl, rfl, rfl, rfl, rfl⟩

/-- A program of gentle calls leaves the text alone. -/
theorem still_run {α : Type} (conduct : Conduct) {Q : Unit → α → Prop} {p : CwProgram α}
    (hp : p.Obeys gentle Q ()) (b : Bench) :
    Still b (p.run (serveBench conduct) b).2 ∧ Q () (p.run (serveBench conduct) b).1 := by
  obtain ⟨-, t, hstill, hQ⟩ := hp.run (h := serveBench conduct) (E := fun _ => True)
    (J := fun _ b' => Still b b')
    (fun _ b' _ hb' hc _ => hb'.trans (still_serve hc b')) (Still.refl b) (fun _ _ => trivial)
  exact ⟨hstill, hQ⟩

/-! ### The connection -/

/-- The settings, the watchdog and the end of the controller are what they were,
and a new connection goes to hardware. -/
structure Kept (c c' : ManagedCwController) : Prop where
  config : c'.config = c.config
  watchdog : c'.watchdog = c.watchdog
  disposed : c'.disposed = c.disposed
  keyer : c'.keyer.isSome = true → c.keyer.isSome = true ∨ Opens c.config

theorem Kept.refl (c : ManagedCwController) : Kept c c := ⟨rfl, rfl, rfl, .inl⟩

theorem Kept.trans {c c' c'' : ManagedCwController} (h : Kept c c') (h' : Kept c' c'') :
    Kept c c'' where
  config := h'.config.trans h.config
  watchdog := h'.watchdog.trans h.watchdog
  disposed := h'.disposed.trans h.disposed
  keyer hsome := by
    rcases h'.keyer hsome with hkeyer | hopens
    · exact h.keyer hkeyer
    · rw [h.config] at hopens
      exact .inr hopens

/-- A method that leaves the text alone and keeps the controller. -/
def Idle {α : Type} (c : ManagedCwController) (p : CwProgram (CwResult α)) : Prop :=
  p.Obeys gentle (fun _ o => Kept c o.2) ()

variable {α β : Type}

theorem Idle.pure (c : ManagedCwController) (a : Except CwException α) :
    Idle c (Pure.pure (a, c) : CwProgram (CwResult α)) := Kept.refl c

/-- One method after another. -/
theorem Idle.bind {c : ManagedCwController} {p : CwProgram (CwResult α)}
    {f : CwResult α → CwProgram (CwResult β)} (hp : Idle c p)
    (hf : ∀ a c', Kept c c' → Idle c (f (a, c'))) : Idle c (p >>= f) := by
  rw [Idle, Prog.obeys_bind]
  exact hp.mono fun _ o hkept => hf o.1 o.2 hkept

/-- What is kept from a later controller is kept from an earlier one. -/
theorem Idle.after {c c' : ManagedCwController} {p : CwProgram (CwResult α)} (hp : Idle c' p)
    (h : Kept c c') : Idle c p :=
  hp.mono fun _ _ hkept => h.trans hkept

theorem release_idle (c : ManagedCwController) (keyer : Keyer) (thrown : Except CwException Unit) :
    Idle c (c.release keyer thrown) := by
  refine ⟨trivial, fun disposed => ?_⟩
  rcases disposed with error | ⟨⟩
  · exact .refl c
  · exact ⟨rfl, rfl, rfl, fun hno => nomatch hno⟩

theorem disconnect_idle (c : ManagedCwController) : Idle c c.disconnect := by
  rw [ManagedCwController.disconnect]
  rcases hkeyer : c.keyer with - | keyer
  · exact .pure c _
  have hsome : c.keyer.isSome = true := by rw [hkeyer, Option.isSome_some]
  refine ⟨trivial, fun closed => ?_⟩
  rcases closed with error | ⟨⟩
  · show Idle c (if error.isDeviceError then _ else _)
    split
    · exact (release_idle _ keyer _).after ⟨rfl, rfl, rfl, fun _ => .inl hsome⟩
    · exact release_idle c keyer _
  · exact release_idle c keyer _

theorem deviceError_idle (c : ManagedCwController) (error : CwException)
    (thrown : Except CwException α) : Idle c (c.deviceError error thrown) := by
  have hdisconnect : Idle c (ManagedCwController.disconnect
      { c with lastError := some error.message }) :=
    (disconnect_idle _).after ⟨rfl, rfl, rfl, .inl⟩
  rw [ManagedCwController.deviceError]
  refine hdisconnect.bind fun disconnected c' hkept => ?_
  rcases disconnected with error | ⟨⟩ <;> exact hkept

/-- Connecting is gentle, and ends with a connection unless it throws. -/
theorem ensureConnected_obeys (c : ManagedCwController) :
    c.ensureConnected.Obeys gentle
      (fun _ o => Kept c o.2 ∧ (o.1 = .ok () → o.2.keyer.isSome = true)) () := by
  rw [ManagedCwController.ensureConnected]
  split
  · rename_i hsome
    exact ⟨.refl c, fun _ => hsome⟩
  have hcreate : c.create.Obeys gentle
      (fun _ created => created.isOk = true → Opens c.config) () := by
    rw [ManagedCwController.create, Opens]
    rcases hbackend : c.config.backend
    · exact fun hno => nomatch hno
    · dsimp only
      split
      · exact fun hno => nomatch hno
      · rename_i hport
        exact ⟨trivial, fun _ _ => .inr ⟨rfl, Bool.eq_false_iff.mpr hport⟩⟩
    · exact fun hno => nomatch hno
    · exact ⟨trivial, fun _ _ => .inl rfl⟩
  rw [Prog.obeys_bind]
  refine hcreate.mono fun _ created hopens => ?_
  rcases created with error | keyer
  · exact ⟨.refl c, fun hno => nomatch hno⟩
  refine ⟨trivial, fun started => ?_⟩
  rcases started with error | revision
  · refine ⟨trivial, fun disposed => ?_⟩
    rcases disposed with error | ⟨⟩ <;> exact ⟨.refl c, fun hno => nomatch hno⟩
  · exact ⟨⟨rfl, rfl, rfl, fun _ => .inr (hopens rfl)⟩, fun _ => rfl⟩

theorem ensureConnected_idle (c : ManagedCwController) : Idle c c.ensureConnected :=
  (ensureConnected_obeys c).mono fun _ _ h => h.1

theorem executeKeyer_idle (c : ManagedCwController)
    {operation : Keyer → CwProgram (Except CwException Unit)}
    (hop : ∀ keyer, (operation keyer).Obeys gentle (fun _ _ => True) ()) :
    Idle c (c.executeKeyer operation) := by
  rw [ManagedCwController.executeKeyer]
  refine (ensureConnected_idle c).bind fun ensured c' hkept => ?_
  dsimp only
  rcases ensured with error | ⟨⟩
  · exact hkept
  rcases hkeyer : c'.keyer with - | keyer
  · exact hkept
  have hsome : c'.keyer.isSome = true := by rw [hkeyer, Option.isSome_some]
  dsimp only
  rw [Idle, Prog.obeys_bind]
  refine (hop keyer).mono fun _ done _ => ?_
  rcases done with error | ⟨⟩
  · dsimp only
    split
    · exact (deviceError_idle c' error _).after hkept
    · exact hkept
  · exact hkept.trans ⟨rfl, rfl, rfl, fun _ => .inl hsome⟩

theorem unlessDisposed_idle {c : ManagedCwController} {rest : CwProgram (CwResult α)}
    (hrest : Idle c rest) : Idle c (c.unlessDisposed rest) := by
  rw [ManagedCwController.unlessDisposed]
  split
  · exact .pure c _
  · exact hrest

theorem setSpeed_idle (c : ManagedCwController) (speedWpm : ℕ) : Idle c (c.setSpeed speedWpm) := by
  have hset : ∀ keyer, (bench (.setSpeed keyer speedWpm)).Obeys gentle (fun _ _ => True) () :=
    fun _ => ⟨trivial, fun _ => trivial⟩
  rw [ManagedCwController.setSpeed]
  rcases validateCwSpeed speedWpm with error | ⟨⟩
  · exact .pure c _
  apply unlessDisposed_idle
  split
  · exact ⟨rfl, rfl, rfl, .inl⟩
  -- the two kinds of hardware
  iterate 2
    refine (executeKeyer_idle c hset).bind fun set c' hkept => ?_
    dsimp only
    rcases set with error | ⟨⟩
    · exact hkept
    · exact hkept.trans ⟨rfl, rfl, rfl, .inl⟩
  exact .pure c _

theorem status_idle (c : ManagedCwController) : Idle c c.status := by
  have hprobe : Idle c c.probeWinkeyer := by
    rw [ManagedCwController.probeWinkeyer]
    refine (ensureConnected_idle c).bind fun ensured c' hkept => ?_
    dsimp only
    rcases ensured with error | ⟨⟩
    · dsimp only
      split
      · exact (deviceError_idle c' error _).after hkept
      · exact hkept
    · exact hkept
  have havailable : Idle c c.available := by
    rw [ManagedCwController.available]
    split
    · exact .pure c _
    · exact hprobe
    · exact hprobe
    · exact ⟨rfl, rfl, rfl, .inl⟩
  rw [ManagedCwController.status]
  apply unlessDisposed_idle
  refine havailable.bind fun available c' hkept => ?_
  dsimp only
  rcases available with error | available
  · exact hkept
  have hask : c'.askBroker.Obeys gentle (fun _ _ => True) () := by
    rw [ManagedCwController.askBroker]
    split
    · exact ⟨trivial, fun _ => trivial⟩
    · exact trivial
  dsimp only
  rw [Idle, Prog.obeys_bind]
  refine hask.mono fun _ broker _ => ?_
  rcases broker with error | broker <;> exact hkept

/-! ### What reaches the keyer -/

/-- A connection is there, or is made, exactly when the keyer can be reached. -/
theorem ensureConnected_isOk (conduct : Conduct) (c : ManagedCwController) (b : Bench) :
    (c.ensureConnected.run (serveBench conduct) b).1.1 = .ok () ↔ conduct.reaches c := by
  rw [ManagedCwController.ensureConnected, Conduct.reaches, Opens]
  rcases hkeyer : c.keyer with - | keyer
  · rw [ManagedCwController.create]
    rcases hcreating : conduct.fails .creating <;> rcases hinit : conduct.fails .initializing <;>
      rcases hdisposing : conduct.fails .disposing <;> rcases hbackend : c.config.backend <;>
      rcases hport : NetText.isNullOrWhiteSpace c.config.winkeyerPort <;>
      simp [bench, serveBench, Bench.attempt, hcreating, hinit, hdisposing]
  · simp

/-- What `ExecuteKeyer` does: it serves the operation when the keyer can be
reached, and throws otherwise. -/
structure Executed (conduct : Conduct) (c : ManagedCwController)
    (operation : Keyer → CwProgram (Except CwException Unit)) (b : Bench)
    (o : CwResult Unit × Bench) : Prop where
  kept : Kept c o.1.2
  served : conduct.reaches c →
    ∃ keyer b', Still b b'
      ∧ (o.1.1 = .ok () ↔ ((operation keyer).run (serveBench conduct) b').1 = .ok ())
      ∧ Still ((operation keyer).run (serveBench conduct) b').2 o.2
  missed : ¬ conduct.reaches c → o.1.1 ≠ .ok () ∧ Still b o.2

/-- A device error is thrown on, unless disposing of the keyer throws another. -/
theorem deviceError_ne_ok (conduct : Conduct) (c : ManagedCwController) (error thrown : CwException)
    (b : Bench) :
    ((c.deviceError error (.error thrown)).run (serveBench conduct) b).1.1 ≠ .ok () := by
  rw [ManagedCwController.deviceError, Prog.run_bind]
  generalize ManagedCwController.disconnect { c with lastError := some error.message } = p
  rcases (p.run (serveBench conduct) b).1 with ⟨disconnected, c'⟩
  rcases disconnected with error | ⟨⟩
  · exact fun hno => nomatch hno
  · exact fun hno => nomatch hno

theorem executeKeyer_run (conduct : Conduct) (c : ManagedCwController)
    (operation : Keyer → CwProgram (Except CwException Unit)) (b : Bench) :
    Executed conduct c operation b ((c.executeKeyer operation).run (serveBench conduct) b) := by
  have hok := ensureConnected_isOk conduct c b
  obtain ⟨hstill, hkept, hsome⟩ := still_run conduct (ensureConnected_obeys c) b
  rw [ManagedCwController.executeKeyer, Prog.run_bind]
  generalize c.ensureConnected.run (serveBench conduct) b = o at hok hstill hkept hsome ⊢
  obtain ⟨⟨ensured, c'⟩, b'⟩ := o
  dsimp only at hok hstill hkept hsome ⊢
  rcases ensured with error | ⟨⟩
  · have hmissed : ¬ conduct.reaches c := fun hreaches => nomatch hok.mpr hreaches
    exact ⟨hkept, fun hreaches => absurd hreaches hmissed,
      fun _ => ⟨(fun hno => nomatch hno), hstill⟩⟩
  have hreached : conduct.reaches c := hok.mp rfl
  obtain ⟨keyer, hkeyer⟩ := Option.isSome_iff_exists.mp (hsome rfl)
  rw [hkeyer]
  dsimp only
  rw [Prog.run_bind]
  rcases hdone : ((operation keyer).run (serveBench conduct) b').1 with error | ⟨⟩
  · dsimp only
    split
    · obtain ⟨hlast, hkept'⟩ := still_run conduct
        (deviceError_idle c' error (.error error : Except CwException Unit))
        ((operation keyer).run (serveBench conduct) b').2
      refine ⟨hkept.trans hkept', fun _ => ⟨keyer, b', hstill, ?_, hlast⟩,
        fun hmissed => absurd hreached hmissed⟩
      rw [hdone]
      exact iff_of_false (deviceError_ne_ok conduct c' error error _) fun hno => nomatch hno
    · refine ⟨hkept, fun _ => ⟨keyer, b', hstill, ?_, .refl _⟩,
        fun hmissed => absurd hreached hmissed⟩
      rw [hdone]
      exact Iff.rfl
  · refine ⟨hkept.trans ⟨rfl, rfl, rfl, fun _ => .inl (hsome rfl)⟩,
      fun _ => ⟨keyer, b', hstill, ?_, .refl _⟩, fun hmissed => absurd hreached hmissed⟩
    rw [hdone]
    exact Iff.rfl

/-! ### The commands -/

/-- Text has been accepted, and the watchdog is armed. -/
structure Accepted (c : ManagedCwController) (b : Bench) (c' : ManagedCwController) (b' : Bench) :
    Prop where
  config : c'.config = c.config
  disposed : c'.disposed = false
  watchdog : c'.watchdog = true
  opens : c.keyer.isSome = true ∨ Opens c.config
  now : b'.now = b.now
  sentAt : b'.sentAt = b.now
  due : b'.due = some (b.now + fromMilliseconds c.config.maxTxMs)
  expired : b'.expired = b.expired

/-- The calls of `SendText`: either the keyer takes the text, or nothing changes. -/
theorem keyText_run (conduct : Conduct) (speed : ℕ) (text : String) (keyer : Keyer) (b : Bench) :
    (ManagedCwController.keyText speed text keyer).run (serveBench conduct) b
        = (.ok (), { b with holds := true, sentAt := b.now })
      ∨ ∃ error, (ManagedCwController.keyText speed text keyer).run (serveBench conduct) b
        = (.error error, b) := by
  rw [ManagedCwController.keyText]
  rcases hspeed : conduct.fails .settingSpeed with - | error
  · rcases hsend : conduct.fails .sending with - | error
    · left
      simp [bench, serveBench, Bench.attempt, hspeed, hsend]
    · right
      exact ⟨error, by simp [bench, serveBench, Bench.attempt, hspeed, hsend]⟩
  · right
    exact ⟨error, by simp [bench, serveBench, Bench.attempt, hspeed]⟩

theorem armWatchdog_run (conduct : Conduct) (c : ManagedCwController) (b : Bench) :
    c.armWatchdog.run (serveBench conduct) b
      = ({ c with watchdog := true },
        { b with due := some (b.now + fromMilliseconds c.config.maxTxMs) }) := by
  rw [ManagedCwController.armWatchdog]
  rcases c.watchdog <;> rfl

theorem transmit_run (conduct : Conduct) (c : ManagedCwController) (text : String) (speed : ℕ)
    (b : Bench) (hlive : c.disposed = false) :
    let o := (c.transmit text speed).run (serveBench conduct) b
    Kept c o.1.2 ∧ Still b o.2 ∨ Accepted c b o.1.2 o.2 := by
  have hexecuted := executeKeyer_run conduct c (ManagedCwController.keyText speed text) b
  rw [ManagedCwController.transmit]
  split
  · exact .inl ⟨.refl c, .refl b⟩
  dsimp only
  rw [Prog.run_bind]
  generalize (c.executeKeyer (ManagedCwController.keyText speed text)).run
    (serveBench conduct) b = o at hexecuted ⊢
  obtain ⟨⟨keyed, c'⟩, b'⟩ := o
  obtain ⟨hkept, hserved, hmissed⟩ := hexecuted
  dsimp only at hkept hserved hmissed ⊢
  by_cases hreaches : conduct.reaches c
  · obtain ⟨keyer, b₁, hfirst, hkeyed, hlast⟩ := hserved hreaches
    rcases keyText_run conduct speed text keyer b₁ with hrun | ⟨error, hrun⟩
    · rw [hrun] at hkeyed hlast
      obtain rfl : keyed = .ok () := hkeyed.mpr rfl
      rw [Prog.run_bind, armWatchdog_run]
      right
      refine ⟨hkept.config, hkept.disposed.trans hlive, rfl, hreaches.imp_right And.left,
        hlast.now.trans hfirst.now, hlast.sentAt.trans hfirst.now, ?_,
        hlast.expired.trans hfirst.expired⟩
      show some (b'.now + fromMilliseconds c'.config.maxTxMs) = _
      rw [hkept.config, hlast.now, ← hfirst.now]
    · rw [hrun] at hkeyed hlast
      rcases keyed with error | ⟨⟩
      · exact .inl ⟨hkept, hfirst.trans hlast⟩
      · exact nomatch hkeyed.mp rfl
  · obtain ⟨hfailed, hstill⟩ := hmissed hreaches
    rcases keyed with error | ⟨⟩
    · exact .inl ⟨hkept, hstill⟩
    · exact absurd rfl hfailed

theorem sendText_run (conduct : Conduct) (c : ManagedCwController) (text : String)
    (speedWpm : Option ℕ) (b : Bench) :
    let o := (c.sendText text speedWpm).run (serveBench conduct) b
    Kept c o.1.2 ∧ Still b o.2 ∨ Accepted c b o.1.2 o.2 := by
  rw [ManagedCwController.sendText]
  rcases validateCwText text with error | ⟨⟩
  · exact .inl ⟨.refl c, .refl b⟩
  dsimp only
  rw [ManagedCwController.unlessDisposed]
  split
  · exact .inl ⟨.refl c, .refl b⟩
  rename_i hlive
  rcases validateCwSpeed (speedWpm.getD c.activeSpeedWpm) with error | ⟨⟩
  · exact .inl ⟨.refl c, .refl b⟩
  dsimp only
  split
  · exact .inl ⟨⟨rfl, rfl, rfl, .inl⟩, .refl b⟩
  · exact transmit_run conduct c text _ b (Bool.eq_false_iff.mpr hlive)
  · exact transmit_run conduct c text _ b (Bool.eq_false_iff.mpr hlive)
  · exact .inl ⟨.refl c, .refl b⟩

/-- The buffer is cleared under the condition `clears`, and left alone otherwise. -/
structure Clearing (clears : Prop) (b b' : Bench) : Prop where
  now : b'.now = b.now
  holds : b'.holds = true ↔ b.holds = true ∧ ¬ clears
  sentAt : b'.sentAt = b.sentAt
  due : b'.due = b.due
  expired : b'.expired = b.expired

theorem Still.clearing {clears : Prop} {b b' : Bench} (h : Still b b')
    (hno : b.holds = true → ¬ clears) : Clearing clears b b' where
  now := h.now
  holds := by
    rw [h.holds]
    exact ⟨fun hholds => ⟨hholds, hno hholds⟩, And.left⟩
  sentAt := h.sentAt
  due := h.due
  expired := h.expired

theorem Clearing.congr {clears : Prop} {b b₁ b₂ b₃ : Bench} (h : Clearing clears b₁ b₂)
    (h₁ : Still b b₁) (h₃ : Still b₂ b₃) : Clearing clears b b₃ where
  now := h₃.now.trans (h.now.trans h₁.now)
  holds := by rw [h₃.holds, h.holds, h₁.holds]
  sentAt := h₃.sentAt.trans (h.sentAt.trans h₁.sentAt)
  due := h₃.due.trans (h.due.trans h₁.due)
  expired := h₃.expired.trans (h.expired.trans h₁.expired)

theorem clearBuffer_clearing (conduct : Conduct) (keyer : Keyer) (b : Bench) :
    Clearing (conduct.fails .clearing = none) b
      ((bench (.clearBuffer keyer)).run (serveBench conduct) b).2 := by
  simp only [bench, Prog.run_call, serveBench]
  rcases hclearing : conduct.fails .clearing with - | error
  · exact ⟨rfl, by simp [Bench.attempt], rfl, rfl, rfl⟩
  · exact (Still.refl b).clearing fun _ hno => nomatch hno

/-- `ExecuteKeyer` with `ClearBuffer`. -/
theorem executeClear_clearing (conduct : Conduct) (c : ManagedCwController) (b : Bench) :
    Clearing (conduct.reaches c ∧ conduct.fails .clearing = none) b
      ((c.executeKeyer fun keyer => bench (.clearBuffer keyer)).run (serveBench conduct) b).2 := by
  obtain ⟨-, hserved, hmissed⟩ := executeKeyer_run conduct c
    (fun keyer => bench (.clearBuffer keyer)) b
  by_cases hreaches : conduct.reaches c
  · obtain ⟨keyer, b', hfirst, -, hlast⟩ := hserved hreaches
    have hclearing := (clearBuffer_clearing conduct keyer b').congr hfirst hlast
    refine ⟨hclearing.now, ?_, hclearing.sentAt, hclearing.due, hclearing.expired⟩
    rw [hclearing.holds, and_iff_right hreaches]
  · exact (hmissed hreaches).2.clearing fun _ hno => hreaches hno.1

/-- The timer of a controller that has one is stopped. -/
def Bench.stop (b : Bench) (watchdog : Bool) : Bench :=
  if watchdog then { b with due := none } else b

/-- The backend is a keyer. -/
def Hardware (config : CwKeyerConfig) : Prop :=
  config.backend = .winkeyer ∨ config.backend = .cathub

theorem abort_run_backend (conduct : Conduct) (c : ManagedCwController) (b : Bench)
    (hlive : c.disposed = false) :
    c.abort.run (serveBench conduct) b
      = Prog.run (serveBench conduct) (match c.config.backend with
        | .null => (return (.ok (), c) : CwProgram (CwResult Unit))
        | .winkeyer | .cathub => c.executeKeyer fun keyer => bench (.clearBuffer keyer)
        | .cwdaemon => return (.error ManagedCwController.reservedError, c))
        (b.stop c.watchdog) := by
  rw [ManagedCwController.abort, ManagedCwController.unlessDisposed, hlive]
  rcases c.watchdog <;> rfl

/-- An abort of a live controller. -/
theorem abort_run (conduct : Conduct) (c : ManagedCwController) (b : Bench)
    (hlive : c.disposed = false) :
    let o := c.abort.run (serveBench conduct) b
    Kept c o.1.2
      ∧ Clearing (Hardware c.config ∧ conduct.reaches c ∧ conduct.fails .clearing = none)
        (b.stop c.watchdog) o.2 := by
  have hexecuted := executeKeyer_run conduct c (fun keyer => bench (.clearBuffer keyer))
    (b.stop c.watchdog)
  have hclearing := executeClear_clearing conduct c (b.stop c.watchdog)
  rw [abort_run_backend conduct c b hlive, Hardware]
  rcases c.config.backend
  · exact ⟨.refl c, (Still.refl _).clearing fun _ hno => by simp at hno⟩
  · simp only [true_or, true_and]
    exact ⟨hexecuted.kept, hclearing⟩
  · exact ⟨.refl c, (Still.refl _).clearing fun _ hno => by simp at hno⟩
  · simp only [or_true, true_and]
    exact ⟨hexecuted.kept, hclearing⟩

/-- The end of a live controller. -/
theorem dispose_run (conduct : Conduct) (c : ManagedCwController) (b : Bench)
    (hlive : c.disposed = false) :
    let o := c.dispose.run (serveBench conduct) b
    Kept { c with disposed := true, watchdog := false } o.1.2 ∧ Still (b.stop c.watchdog) o.2 := by
  have hrun : c.dispose.run (serveBench conduct) b
      = (ManagedCwController.disconnect { c with disposed := true, watchdog := false }).run
        (serveBench conduct) (b.stop c.watchdog) := by
    rw [ManagedCwController.dispose, hlive]
    rcases c.watchdog <;> rfl
  rw [hrun]
  exact (still_run conduct (disconnect_idle _) (b.stop c.watchdog)).symm

/-! ### The callback -/

/-- The keyer is still connected, says whether it is busy, and can be cleared. -/
def Conduct.expires (conduct : Conduct) (c : ManagedCwController) : Prop :=
  c.keyer.isSome = true ∧ conduct.fails .askingBusy = none ∧ conduct.fails .clearing = none

/-- A method that leaves the text alone does not try to clear it. -/
theorem Idle.clears_nothing {c : ManagedCwController} {p : CwProgram (CwResult α)} (hp : Idle c p)
    (conduct : Conduct) (b : Bench) (keyer : Keyer) :
    CwCmd.clearBuffer keyer ∉ (p.trace (serveBench conduct) b).map (·.2.1) := by
  intro hcall
  obtain ⟨m, hm, heq⟩ := List.mem_map.mp hcall
  obtain ⟨hgentle, -⟩ := hp.run (h := serveBench conduct) (E := fun _ => True)
    (J := fun _ _ => True) (fun _ _ _ _ _ _ => trivial) (trivial : True) (s := b)
    (fun _ _ => trivial)
  obtain ⟨t, -, hallowed⟩ := hgentle m hm
  rw [heq] at hallowed
  exact hallowed

theorem expireError_idle (c : ManagedCwController) (error : CwException) :
    Idle c (c.expireError error) := by
  rw [ManagedCwController.expireError]
  split
  · exact deviceError_idle c error _
  · exact .pure c _

/-- What a callback does for a live controller: it tries to clear a busy keyer. -/
theorem expireWatchdog_run (conduct : Conduct) (c : ManagedCwController) (b : Bench)
    (hlive : c.disposed = false) :
    let o := c.expireWatchdog.run (serveBench conduct) b
    Kept c o.1.2 ∧ Clearing (conduct.expires c) b o.2
      ∧ (b.holds = true →
        ((∃ keyer, CwCmd.clearBuffer keyer
            ∈ (c.expireWatchdog.trace (serveBench conduct) b).map (·.2.1))
          ↔ c.keyer.isSome = true ∧ conduct.fails .askingBusy = none)) := by
  rcases hkeyer : c.keyer with - | keyer
  · have hprogram : c.expireWatchdog = pure (.ok (), c) := by
      rw [ManagedCwController.expireWatchdog, hlive, hkeyer]
      rfl
    have hno : ¬ conduct.expires c := fun hexpires => by simp [Conduct.expires, hkeyer] at hexpires
    rw [hprogram]
    refine ⟨.refl c, (Still.refl b).clearing fun _ => hno, fun _ => ?_⟩
    simp [Prog.trace, Pure.pure]
  have hsome : c.keyer.isSome = true := by rw [hkeyer, Option.isSome_some]
  have hexpires : conduct.expires c
      ↔ conduct.fails .askingBusy = none ∧ conduct.fails .clearing = none := by
    rw [Conduct.expires, and_iff_right hsome]
  have hfailed : ∀ error (b' : Bench), let o := (c.expireError error).run (serveBench conduct) b'
      Kept c o.1.2 ∧ Still b' o.2 := fun error b' =>
    (still_run conduct (expireError_idle c error) b').symm
  have hunheard : ∀ error (b' : Bench), ∀ keyer, CwCmd.clearBuffer keyer
      ∉ ((c.expireError error).trace (serveBench conduct) b').map (·.2.1) := fun error b' keyer =>
    (expireError_idle c error).clears_nothing conduct b' keyer
  rcases hbusy : conduct.fails .askingBusy with - | error
  · rcases hholds : b.holds
    · have hrun : c.expireWatchdog.run (serveBench conduct) b
          = ((.ok (), { c with lastError := none }), b) := by
        rw [ManagedCwController.expireWatchdog, hlive, hkeyer]
        simp [bench, serveBench, Bench.attempt, hbusy, hholds]
      rw [hrun]
      refine ⟨⟨rfl, rfl, rfl, .inl⟩, (Still.refl b).clearing fun hno => ?_,
        fun hno => absurd hno Bool.false_ne_true⟩
      rw [hholds] at hno
      cases hno
    · rcases hclearing : conduct.fails .clearing with - | error
      · have hrun : c.expireWatchdog.run (serveBench conduct) b
            = ((.ok (), { c with
                lastError := some (ManagedCwController.ceilingMessage c.config.maxTxMs) }),
              { b with holds := false }) := by
          rw [ManagedCwController.expireWatchdog, hlive, hkeyer]
          simp [bench, serveBench, Bench.attempt, hbusy, hholds, hclearing]
        have htrace : CwCmd.clearBuffer keyer
            ∈ (c.expireWatchdog.trace (serveBench conduct) b).map (·.2.1) := by
          rw [ManagedCwController.expireWatchdog, hlive, hkeyer]
          simp [bench, serveBench, Bench.attempt, hbusy, hholds, Prog.trace]
        rw [hrun]
        refine ⟨⟨rfl, rfl, rfl, .inl⟩, ⟨rfl, ?_, rfl, rfl, rfl⟩, fun _ => ?_⟩
        · simp [hexpires, hbusy, hclearing]
        · exact iff_of_true ⟨keyer, htrace⟩ ⟨rfl, rfl⟩
      · have hrun : c.expireWatchdog.run (serveBench conduct) b
            = (c.expireError error).run (serveBench conduct) b := by
          rw [ManagedCwController.expireWatchdog, hlive, hkeyer]
          simp [bench, serveBench, Bench.attempt, hbusy, hholds, hclearing]
        have htrace : CwCmd.clearBuffer keyer
            ∈ (c.expireWatchdog.trace (serveBench conduct) b).map (·.2.1) := by
          rw [ManagedCwController.expireWatchdog, hlive, hkeyer]
          simp [bench, serveBench, Bench.attempt, hbusy, hholds, Prog.trace]
        obtain ⟨hkept, hstill⟩ := hfailed error b
        rw [hrun]
        refine ⟨hkept, hstill.clearing fun _ hno => ?_, fun _ => ?_⟩
        · rw [hexpires, hclearing] at hno
          cases hno.2
        · exact iff_of_true ⟨keyer, htrace⟩ ⟨rfl, rfl⟩
  · have hrun : c.expireWatchdog.run (serveBench conduct) b
        = (c.expireError error).run (serveBench conduct) b := by
      rw [ManagedCwController.expireWatchdog, hlive, hkeyer]
      simp [bench, serveBench, Bench.attempt, hbusy]
    have htrace : c.expireWatchdog.trace (serveBench conduct) b
        = (b, ⟨.isBusy keyer, .error error⟩)
          :: (c.expireError error).trace (serveBench conduct) b := by
      rw [ManagedCwController.expireWatchdog, hlive, hkeyer]
      simp [bench, serveBench, Bench.attempt, hbusy, Prog.trace]
    obtain ⟨hkept, hstill⟩ := hfailed error b
    rw [hrun, htrace]
    refine ⟨hkept, hstill.clearing fun _ hno => ?_, fun _ => ?_⟩
    · rw [hexpires, hbusy] at hno
      cases hno.1
    · refine iff_of_false ?_ fun hno => Option.some_ne_none error hno.2
      rintro ⟨keyer', hcall⟩
      rw [List.map_cons] at hcall
      rcases List.mem_cons.mp hcall with hno | hlater
      · cases hno
      · exact hunheard error b keyer' hlater

/-! ### What holds of every run -/

/-- Deadlines and callbacks are those of accepted text, and belong to a watchdog
that can be stopped; text and connections are on hardware. -/
structure Timed (k : Keying) : Prop where
  due : ∀ due, k.bench.due = some due ∨ due ∈ k.bench.expired →
    due ≤ k.bench.sentAt + fromMilliseconds k.controller.config.maxTxMs
  clock : k.bench.sentAt ≤ k.bench.now
  opens : k.controller.keyer.isSome = true ∨ k.bench.holds = true → Opens k.controller.config
  armed : k.bench.due.isSome = true → k.controller.watchdog = true

theorem timed_new (config : CwKeyerConfig) (now : ℕ) : Timed (.new config now) where
  due due hno := by rcases hno with hno | hno <;> cases hno
  clock := Nat.zero_le now
  opens hno := by rcases hno with hno | hno <;> cases hno
  armed hno := nomatch hno

/-- Then text is covered if anything is going to call back. -/
theorem Timed.covered_iff {k : Keying} (h : Timed k) :
    Covered k ↔ (k.bench.holds = true → k.controller.disposed = false
      ∧ (k.bench.due.isSome = true ∨ k.bench.expired ≠ [])) := by
  refine imp_congr_right fun _ => and_congr_right fun _ => ⟨?_, ?_⟩
  · rintro ⟨due, hdue | hexpired, -⟩
    · exact .inl (Option.isSome_iff_exists.mpr ⟨due, hdue⟩)
    · exact .inr (List.ne_nil_of_mem hexpired)
  · rintro (hsome | hne)
    · obtain ⟨due, hdue⟩ := Option.isSome_iff_exists.mp hsome
      exact ⟨due, .inl hdue, h.due due (.inl hdue)⟩
    · obtain ⟨due, hexpired⟩ := List.exists_mem_of_ne_nil _ hne
      exact ⟨due, .inr hexpired, h.due due (.inr hexpired)⟩

/-- Nothing new is on the keyer, and no deadline is new. -/
theorem Timed.less {k : Keying} {c : ManagedCwController} {b : Bench} (h : Timed k)
    (hconfig : c.config = k.controller.config)
    (hkeyer : c.keyer.isSome = true → k.controller.keyer.isSome = true ∨ Opens k.controller.config)
    (hnow : b.now = k.bench.now) (hsentAt : b.sentAt = k.bench.sentAt)
    (hholds : b.holds = true → k.bench.holds = true)
    (hdue : b.due = none ∨ b.due = k.bench.due ∧ c.watchdog = k.controller.watchdog)
    (hexpired : ∀ due ∈ b.expired, due ∈ k.bench.expired) : Timed ⟨c, b⟩ where
  due due hsome := by
    show due ≤ b.sentAt + fromMilliseconds c.config.maxTxMs
    rw [hsentAt, hconfig]
    rcases hsome with hsome | hmem
    · rcases hdue with hnone | ⟨hsame, -⟩
      · exact nomatch hnone.symm.trans hsome
      · exact h.due due (.inl (hsame.symm.trans hsome))
    · exact h.due due (.inr (hexpired due hmem))
  clock := by
    show b.sentAt ≤ b.now
    rw [hsentAt, hnow]
    exact h.clock
  opens hon := by
    show Opens c.config
    rw [hconfig]
    rcases hon with hsome | hheld
    · rcases hkeyer hsome with hkeyer | hopens
      · exact h.opens (.inl hkeyer)
      · exact hopens
    · exact h.opens (.inr (hholds hheld))
  armed hsome := by
    rcases hdue with hnone | ⟨hsame, hwatchdog⟩
    · have hsome' : b.due.isSome = true := hsome
      rw [hnone] at hsome'
      cases hsome'
    · exact hwatchdog.trans (h.armed (by rwa [← hsame]))

/-- A command that leaves the text alone. -/
theorem Timed.idle {k : Keying} {c : ManagedCwController} {b : Bench} (h : Timed k)
    (hkept : Kept k.controller c) (hstill : Still k.bench b) :
    Timed ⟨c, b⟩ ∧ (Covered k → Covered ⟨c, b⟩) := by
  refine ⟨h.less hkept.config hkept.keyer hstill.now hstill.sentAt ?_
    (.inr ⟨hstill.due, hkept.watchdog⟩) ?_, ?_⟩
  · rw [hstill.holds]
    exact id
  · rw [hstill.expired]
    exact fun _ => id
  · intro hcovered hholds
    show c.disposed = false ∧ ∃ due, (b.due = some due ∨ due ∈ b.expired)
      ∧ due ≤ b.sentAt + fromMilliseconds c.config.maxTxMs
    rw [hkept.disposed, hkept.config, hstill.due, hstill.expired, hstill.sentAt]
    exact hcovered (hstill.holds.symm.trans hholds)

/-- Text that is accepted has its deadline. -/
theorem Timed.accepted {k : Keying} {c : ManagedCwController} {b : Bench} (h : Timed k)
    (haccepted : Accepted k.controller k.bench c b) : Timed ⟨c, b⟩ ∧ Covered ⟨c, b⟩ := by
  obtain ⟨hconfig, hlive, hwatchdog, hopens, hnow, hsentAt, hdue, hexpired⟩ := haccepted
  have hopens' : Opens k.controller.config := by
    rcases hopens with hkeyer | hopens
    · exact h.opens (.inl hkeyer)
    · exact hopens
  have htimed : Timed ⟨c, b⟩ := by
    refine ⟨fun due hsome => ?_, ?_, fun _ => ?_, fun _ => hwatchdog⟩
    · show due ≤ b.sentAt + fromMilliseconds c.config.maxTxMs
      rw [hsentAt, hconfig]
      rcases hsome with hsome | hmem
      · have heq : k.bench.now + fromMilliseconds k.controller.config.maxTxMs = due :=
          Option.some.inj (hdue.symm.trans hsome)
        exact heq.ge
      · have hold := h.due due (.inr (hexpired ▸ hmem))
        have hclock := h.clock
        omega
    · show b.sentAt ≤ b.now
      rw [hsentAt, hnow]
    · show Opens c.config
      rw [hconfig]
      exact hopens'
  refine ⟨htimed, htimed.covered_iff.mpr fun _ => ⟨hlive, .inl ?_⟩⟩
  show b.due.isSome = true
  rw [hdue, Option.isSome_some]

/-- A timer that is stopped has no deadline. -/
theorem Timed.stop_due {k : Keying} (h : Timed k) :
    (k.bench.stop k.controller.watchdog).due = none := by
  rw [Bench.stop]
  split
  · rfl
  · rename_i hno
    rcases hdue : k.bench.due with - | due
    · rfl
    · exact absurd (h.armed (by rw [hdue, Option.isSome_some])) hno

theorem stop_still (b : Bench) (watchdog : Bool) :
    (b.stop watchdog).now = b.now ∧ (b.stop watchdog).holds = b.holds
      ∧ (b.stop watchdog).sentAt = b.sentAt ∧ (b.stop watchdog).expired = b.expired := by
  rcases watchdog <;> exact ⟨rfl, rfl, rfl, rfl⟩

/-- An abort: text stays covered if it is cleared, or a callback waits. -/
theorem Timed.abort {k : Keying} (conduct : Conduct) (h : Timed k) (hcovered : Covered k) :
    let o := k.controller.abort.run (serveBench conduct) k.bench
    Timed ⟨o.1.2, o.2⟩ ∧ (Covered ⟨o.1.2, o.2⟩ ↔ (k.bench.holds = true →
      conduct.reaches k.controller ∧ conduct.fails .clearing = none ∨ k.bench.expired ≠ [])) := by
  rcases hlive : k.controller.disposed
  · obtain ⟨hkept, hclearing⟩ := abort_run conduct k.controller k.bench hlive
    obtain ⟨hnow, hholds, hsentAt, hexpired⟩ := stop_still k.bench k.controller.watchdog
    generalize k.controller.abort.run (serveBench conduct) k.bench = o at hkept hclearing ⊢
    have hdue : o.2.due = none := hclearing.due.trans h.stop_due
    have hheld := hclearing.holds
    rw [hholds] at hheld
    have hexp : o.2.expired = k.bench.expired := hclearing.expired.trans hexpired
    have htimed : Timed ⟨o.1.2, o.2⟩ :=
      h.less hkept.config hkept.keyer (hclearing.now.trans hnow) (hclearing.sentAt.trans hsentAt)
        (fun hon => (hheld.mp hon).1) (.inl hdue) fun due hmem => hexp ▸ hmem
    refine ⟨htimed, ?_⟩
    rw [htimed.covered_iff]
    show (o.2.holds = true → o.1.2.disposed = false
      ∧ (o.2.due.isSome = true ∨ o.2.expired ≠ [])) ↔ _
    rw [hdue, hexp, hkept.disposed, hlive, hheld]
    constructor
    · intro hguard hon
      by_cases hclears : conduct.reaches k.controller ∧ conduct.fails .clearing = none
      · exact .inl hclears
      · rcases (hguard ⟨hon, fun hall => hclears hall.2⟩).2 with hno | hwaiting
        · cases hno
        · exact .inr hwaiting
    · rintro hguard ⟨hon, hleft⟩
      refine ⟨rfl, .inr ?_⟩
      rcases hguard hon with hclears | hwaiting
      · refine absurd ⟨?_, hclears⟩ hleft
        exact (h.opens (.inr hon)).symm.imp_left And.left
      · exact hwaiting
  · have hrun : k.controller.abort.run (serveBench conduct) k.bench
        = ((.error .objectDisposed, k.controller), k.bench) := by
      rw [ManagedCwController.abort, ManagedCwController.unlessDisposed, hlive]
      rfl
    have hfree : ¬ k.bench.holds = true := fun hon => by
      have hno := (hcovered hon).1
      rw [hlive] at hno
      cases hno
    rw [hrun]
    exact ⟨h, fun _ hon => absurd hon hfree, fun _ => hcovered⟩

/-- The end of the controller: text on the keyer is left behind. -/
theorem Timed.dispose {k : Keying} (conduct : Conduct) (h : Timed k) :
    let o := k.controller.dispose.run (serveBench conduct) k.bench
    Timed ⟨o.1.2, o.2⟩ ∧ (Covered ⟨o.1.2, o.2⟩ ↔ (k.bench.holds = true → False)) := by
  rcases hlive : k.controller.disposed
  · obtain ⟨hkept, hstill⟩ := dispose_run conduct k.controller k.bench hlive
    obtain ⟨hnow, hholds, hsentAt, hexpired⟩ := stop_still k.bench k.controller.watchdog
    generalize k.controller.dispose.run (serveBench conduct) k.bench = o at hkept hstill ⊢
    have hheld : o.2.holds = k.bench.holds := hstill.holds.trans hholds
    have hexp : o.2.expired = k.bench.expired := hstill.expired.trans hexpired
    have htimed : Timed ⟨o.1.2, o.2⟩ :=
      h.less hkept.config hkept.keyer (hstill.now.trans hnow) (hstill.sentAt.trans hsentAt)
        (fun hon => hheld ▸ hon) (.inl (hstill.due.trans h.stop_due)) fun due hmem => hexp ▸ hmem
    refine ⟨htimed, fun hguard hon => ?_, fun hfree hon => absurd (hheld ▸ hon) hfree⟩
    have hno := (hguard (hheld.trans hon)).1
    have hend : o.1.2.disposed = true := hkept.disposed
    exact nomatch hend.symm.trans hno
  · have hrun : k.controller.dispose.run (serveBench conduct) k.bench
        = ((.ok (), k.controller), k.bench) := by
      rw [ManagedCwController.dispose, hlive]
      rfl
    rw [hrun]
    refine ⟨h, fun hguard hon => ?_, fun hfree hon => absurd hon hfree⟩
    have hno := (hguard hon).1
    rw [hlive] at hno
    cases hno

/-- A command: it keeps text covered unless it is an abort that clears nothing,
or the end. -/
theorem Timed.serve {k : Keying} (conduct : Conduct) (command : CwCall) (h : Timed k)
    (hcovered : Covered k) :
    let o := (k.controller.serve command).run (serveBench conduct) k.bench
    Timed ⟨o.1, o.2⟩ ∧ (Covered ⟨o.1, o.2⟩ ↔ (k.bench.holds = true →
      match command with
      | .abort => conduct.reaches k.controller ∧ conduct.fails .clearing = none
          ∨ k.bench.expired ≠ []
      | .dispose => False
      | _ => True)) := by
  rcases command with ⟨text, speedWpm⟩ | - | speedWpm | - | -
  · rw [ManagedCwController.serve, Prog.run_map]
    rcases sendText_run conduct k.controller text speedWpm k.bench with ⟨hkept, hstill⟩ | haccepted
    · obtain ⟨htimed, hkeep⟩ := h.idle hkept hstill
      exact ⟨htimed, iff_of_true (hkeep hcovered) fun _ => trivial⟩
    · obtain ⟨htimed, hnew⟩ := h.accepted haccepted
      exact ⟨htimed, iff_of_true hnew fun _ => trivial⟩
  · rw [ManagedCwController.serve, Prog.run_map]
    exact h.abort conduct hcovered
  · rw [ManagedCwController.serve, Prog.run_map]
    obtain ⟨hstill, hkept⟩ := still_run conduct (setSpeed_idle k.controller speedWpm) k.bench
    obtain ⟨htimed, hkeep⟩ := h.idle hkept hstill
    exact ⟨htimed, iff_of_true (hkeep hcovered) fun _ => trivial⟩
  · rw [ManagedCwController.serve, Prog.run_map]
    obtain ⟨hstill, hkept⟩ := still_run conduct (status_idle k.controller) k.bench
    obtain ⟨htimed, hkeep⟩ := h.idle hkept hstill
    exact ⟨htimed, iff_of_true (hkeep hcovered) fun _ => trivial⟩
  · rw [ManagedCwController.serve, Prog.run_map]
    exact h.dispose conduct

/-- Time passes, and the timer may call back. -/
theorem elapse_cases (b : Bench) (ticks : ℕ) :
    b.elapse ticks = { b with now := b.now + ticks }
      ∨ ∃ due, b.due = some due ∧ b.elapse ticks
        = { b with now := b.now + ticks, due := none, expired := b.expired ++ [due] } := by
  rw [Bench.elapse]
  rcases b.due with - | due
  · exact .inl rfl
  · dsimp only
    split
    · exact .inr ⟨due, rfl, rfl⟩
    · exact .inl rfl

/-- Time passes; a deadline becomes a callback. -/
theorem Timed.elapse {k : Keying} (ticks : ℕ) (h : Timed k) (hcovered : Covered k) :
    Timed { k with bench := k.bench.elapse ticks }
      ∧ Covered { k with bench := k.bench.elapse ticks } := by
  have hclock : k.bench.sentAt ≤ k.bench.now + ticks := h.clock.trans (Nat.le_add_right _ _)
  rcases elapse_cases k.bench ticks with hrun | ⟨due, hdue, hrun⟩
  · rw [hrun]
    exact ⟨⟨h.due, hclock, h.opens, h.armed⟩, hcovered⟩
  rw [hrun]
  refine ⟨⟨fun due' hsome => ?_, hclock, h.opens, fun hno => nomatch hno⟩, fun hon => ?_⟩
  · rcases hsome with hno | hmem
    · cases hno
    · rcases List.mem_append.mp hmem with hold | hnew
      · exact h.due due' (.inr hold)
      · rw [List.mem_singleton.mp hnew]
        exact h.due due (.inl hdue)
  · obtain ⟨hlive, due', hsome, hle⟩ := hcovered hon
    refine ⟨hlive, due', .inr ?_, hle⟩
    rcases hsome with hsame | hold
    · rw [hdue] at hsame
      cases hsame
      exact List.mem_append_right _ (List.mem_singleton_self due)
    · exact List.mem_append_left _ hold

/-- A callback: it tries to clear a busy keyer that is still connected, and leaves
no text without a deadline unless that fails and nothing is left to call back. -/
theorem Timed.callback {k : Keying} {due : ℕ} {expired : List ℕ} (conduct : Conduct) (h : Timed k)
    (hcovered : Covered k) (hexpired : k.bench.expired = due :: expired) :
    let b := { k.bench with expired := expired }
    let o := k.controller.expireWatchdog.run (serveBench conduct) b
    Timed ⟨o.1.2, o.2⟩
      ∧ (Covered ⟨o.1.2, o.2⟩ ∧ (k.bench.holds = true → ∃ keyer, CwCmd.clearBuffer keyer
            ∈ (k.controller.expireWatchdog.trace (serveBench conduct) b).map (·.2.1))
        ↔ (k.bench.holds = true →
          k.controller.keyer.isSome = true ∧ conduct.fails .askingBusy = none
            ∧ (conduct.fails .clearing = none ∨ k.bench.due.isSome = true ∨ expired ≠ []))) := by
  have hrest : Timed { k with bench := { k.bench with expired := expired } } :=
    h.less rfl .inl rfl rfl id (.inr ⟨rfl, rfl⟩) fun due' hmem => by
      rw [hexpired]
      exact List.mem_cons_of_mem due hmem
  dsimp only
  by_cases hon : k.bench.holds = true
  · have hlive := (hcovered hon).1
    obtain ⟨hkept, hclearing, htried⟩ := expireWatchdog_run conduct k.controller
      { k.bench with expired := expired } hlive
    rw [htried hon]
    generalize k.controller.expireWatchdog.run (serveBench conduct)
      { k.bench with expired := expired } = o at hkept hclearing ⊢
    have htimed : Timed ⟨o.1.2, o.2⟩ :=
      hrest.less hkept.config hkept.keyer hclearing.now hclearing.sentAt
        (fun hleft => (hclearing.holds.mp hleft).1) (.inr ⟨hclearing.due, hkept.watchdog⟩)
        fun due' hmem => hclearing.expired ▸ hmem
    refine ⟨htimed, ?_⟩
    rw [htimed.covered_iff]
    show (o.2.holds = true → o.1.2.disposed = false ∧ (o.2.due.isSome = true ∨ o.2.expired ≠ []))
      ∧ _ ↔ _
    rw [hclearing.holds, hclearing.due, hclearing.expired, hkept.disposed, hlive, Conduct.expires]
    simp only [hon, true_and, forall_const]
    tauto
  · have hstill : Kept k.controller
          (k.controller.expireWatchdog.run (serveBench conduct)
            { k.bench with expired := expired }).1.2
        ∧ Clearing (conduct.expires k.controller) { k.bench with expired := expired }
          (k.controller.expireWatchdog.run (serveBench conduct)
            { k.bench with expired := expired }).2 := by
      rcases hlive : k.controller.disposed
      · obtain ⟨hkept, hclearing, -⟩ := expireWatchdog_run conduct k.controller
          { k.bench with expired := expired } hlive
        exact ⟨hkept, hclearing⟩
      · have hrun : k.controller.expireWatchdog.run (serveBench conduct)
              { k.bench with expired := expired }
            = ((.ok (), k.controller), { k.bench with expired := expired }) := by
          rw [ManagedCwController.expireWatchdog, hlive]
          rfl
        rw [hrun]
        exact ⟨.refl _, (Still.refl _).clearing fun hno => absurd hno hon⟩
    obtain ⟨hkept, hclearing⟩ := hstill
    generalize k.controller.expireWatchdog.run (serveBench conduct)
      { k.bench with expired := expired } = o at hkept hclearing ⊢
    have hfree : ¬ o.2.holds = true := fun hleft => hon (hclearing.holds.mp hleft).1
    exact ⟨hrest.less hkept.config hkept.keyer hclearing.now hclearing.sentAt
        (fun hleft => absurd hleft hfree) (.inr ⟨hclearing.due, hkept.watchdog⟩)
        (fun due' hmem => hclearing.expired ▸ hmem),
      iff_of_true ⟨fun hleft => absurd hleft hfree, fun hno => absurd hno hon⟩
        fun hno => absurd hno hon⟩

/-- **One event.** -/
theorem Timed.step {k k' : Keying} {m : Moment} (h : Timed k) (hcovered : Covered k)
    (hs : KeyingStep k m k') : Timed k' ∧ (Guarded m ↔ Attended m) := by
  obtain ⟨event, before, calls, after⟩ := m
  obtain ⟨hoccur, hbefore, hafter⟩ := hs
  dsimp only at hoccur hbefore hafter
  subst hbefore hafter
  rw [Guarded, Attended]
  dsimp only
  rcases event with ticks | - | ⟨command, conduct⟩ | conduct
  · cases hoccur
    obtain ⟨htimed, hkeep⟩ := h.elapse ticks hcovered
    exact ⟨htimed, iff_of_true ⟨hkeep, fun _ hno => nomatch hno⟩ fun _ => trivial⟩
  · cases hoccur
    exact ⟨h.less rfl .inl rfl rfl (fun hno => nomatch hno) (.inr ⟨rfl, rfl⟩) fun _ => id,
      iff_of_true ⟨(fun hno => nomatch hno), fun _ hno => nomatch hno⟩ fun _ => trivial⟩
  · cases hoccur
    obtain ⟨htimed, hkeep⟩ := h.serve conduct command hcovered
    refine ⟨htimed, ?_⟩
    rw [and_iff_left fun _ hno => nomatch hno]
    refine hkeep.trans ?_
    rcases command <;> exact Iff.rfl
  · simp only [occur] at hoccur
    rcases hexpired : before.bench.expired with - | ⟨due, expired⟩
    · rw [hexpired] at hoccur
      cases hoccur
    · rw [hexpired] at hoccur
      cases hoccur
      obtain ⟨htimed, hkeep⟩ := h.callback conduct hcovered hexpired
      refine ⟨htimed, ?_⟩
      rw [List.tail_cons]
      refine Iff.trans ?_ hkeep
      refine and_congr_right fun _ => ⟨fun hall => hall conduct rfl, ?_⟩
      intro htried conduct' heq hon
      exact htried hon

/-- **Keyed text is covered by the watchdog** throughout a run, and a callback
that finds the keyer busy tries to clear it, exactly when every event of the run
that finds text on the keyer is attended to. -/
theorem watchdog_covers_iff {config : CwKeyerConfig} {now : ℕ} {ms : List Moment} {k : Keying}
    (hr : Transition.Run KeyingStep (fun _ _ _ => True) (.new config now) ms k) :
    (∀ m ∈ ms, Guarded m) ↔ ∀ m ∈ ms, Attended m := by
  refine hr.forall_iff (I := fun k => Timed k ∧ Covered k)
    ⟨timed_new config now, fun hno => nomatch hno⟩ ?_
  rintro k m k' ⟨htimed, hcovered⟩ hs
  obtain ⟨hnext, hguarded⟩ := htimed.step hcovered hs
  refine ⟨hguarded, fun hguard => ⟨hnext, ?_⟩⟩
  rw [← hs.2.2]
  exact hguard.1

/-! ### An abort that fails -/

/-- Let an event happen. -/
def happenNext (k : Keying) (event : KeyingEvent) : Option (Moment × Keying) :=
  (occur k event).map fun o => (⟨event, k, o.1, o.2⟩, o.2)

theorem keyingStep_of_happenNext (k : Keying) (event : KeyingEvent) (m : Moment) (k' : Keying)
    (h : happenNext k event = some (m, k')) : KeyingStep k m k' := by
  rw [happenNext, Option.map_eq_some_iff] at h
  obtain ⟨⟨calls, after⟩, hoccur, heq⟩ := h
  cases heq
  exact ⟨hoccur, rfl, rfl⟩

/-- A keyer behind the broker, with a ceiling of two minutes. -/
def brokerConfig : CwKeyerConfig where
  backend := .cathub
  winkeyerPort := none
  winkeyerBaud := 1200
  cathubEndpoint := "http://127.0.0.1:50071"
  cathubClientName := "qsoripper-engine"
  defaultSpeedWpm := 25
  transmitEnabled := true
  maxTxMs := 120000

/-- The broker is gone when the buffer is to be cleared. -/
def brokerGone : Conduct where
  fails
    | .clearing => some (.io "CatHub WinKeyer RPC failed: Unavailable")
    | _ => none

/-- Text is sent, and then aborted in vain. -/
def failedAbort : List KeyingEvent :=
  [.call (.sendText "TEST" none) {}, .call .abort brokerGone]

/-- **A failing abort leaves the text without a deadline.** -/
theorem aborted_text_left_uncovered :
    ∃ ms k, Transition.Run KeyingStep (fun _ _ _ => True) (.new brokerConfig 0) ms k
      ∧ ∃ m ∈ ms, ¬ Guarded m := by
  have hrun : Transition.Run KeyingStep (fun _ _ _ => True) (.new brokerConfig 0)
      (Transition.schedule happenNext failedAbort (.new brokerConfig 0)).1
      (Transition.schedule happenNext failedAbort (.new brokerConfig 0)).2 :=
    Transition.schedule_run keyingStep_of_happenNext (by decide +kernel)
  have hleft : ∃ m ∈ (Transition.schedule happenNext failedAbort (.new brokerConfig 0)).1,
      m.after.bench.holds = true ∧ m.after.bench.due = none ∧ m.after.bench.expired = [] := by
    decide +kernel
  obtain ⟨m, hm, hholds, hdue, hexpired⟩ := hleft
  refine ⟨_, _, hrun, m, hm, fun hguarded => ?_⟩
  obtain ⟨-, due, hsome, -⟩ := hguarded.1 hholds
  rw [hdue, hexpired] at hsome
  rcases hsome with hno | hno <;> cases hno

/-- Text is sent and is still there when the watchdog expires; then the speed is
set. -/
def longText : List KeyingEvent :=
  [.call (.sendText "TEST" none) {}, .elapse 1200000000, .callback {}, .call (.setSpeed 20) {}]

theorem watchdog_covers_iff_long_text :
    (∀ m ∈ (Transition.schedule happenNext longText (.new brokerConfig 0)).1, Guarded m)
      ↔ ∀ m ∈ (Transition.schedule happenNext longText (.new brokerConfig 0)).1, Attended m :=
  watchdog_covers_iff (Transition.schedule_run keyingStep_of_happenNext (by decide +kernel))

end QsoRipper.DotNet.CwWatchdog
