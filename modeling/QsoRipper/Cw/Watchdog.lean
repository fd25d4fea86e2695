/-
QsoRipper/Cw/Watchdog.lean

Text on the keyer and the transmit watchdog.  The worker runs beside callers
that queue commands, a clock, and a keyer that holds text after a successful
`send_text` until it has sent it or a successful `clear_buffer`; any call of the
keyer may fail, and closing it clears nothing.

An abort disarms the watchdog before it clears the buffer, an expiry does so
before it asks whether the keyer is busy, and both find no keyer after a failed
operation has dropped the connection.  Outside these cases text on the keyer has
a deadline.  The deadline is noticed only when the queue is empty, so that a
command that comes in after it is served first.
-/
import QsoRipper.Lib.Transition
import QsoRipper.Cw.Worker

namespace QsoRipper.Cw

open Interaction

/-! ### The keyer -/

/-- The calls of the keyer that may fail. -/
inductive DeviceOp where
  | opening
  | initializing
  | settingSpeed
  | sending
  | clearing
  | askingBusy
  | closing
  | askingStatus
deriving DecidableEq, Repr

/-- How the keyer behaves while the worker serves one command. -/
structure Conduct where
  fails : DeviceOp → Option CwError := fun _ => none
  revision : UInt8 := 0
  brokerStatus : Option BrokerDeviceStatus := none

/-- The keyer, and the clock it is read with. -/
structure Device where
  now : ℕ
  holds : Bool := false
  /-- When text was last accepted. -/
  sentAt : ℕ := 0
  /-- The deadline that has passed while the keyer held text, unless it has
  finished or `clear_buffer` has been tried since. -/
  overdue : Option ℕ := none
  nextKeyer : Keyer := 0

/-- A call that changes nothing when it fails. -/
def Device.attempt {α : Type} (d : Device) (failure : Option CwError) (value : α) (next : Device) :
    Except CwError α × Device :=
  match failure with
  | some error => (.error error, d)
  | none => (.ok value, next)

/-- Answer a call. -/
def serveDevice (conduct : Conduct) : (c : DeviceCmd) → Device → c.Answer × Device
  | .openWinkeyer _ _, d | .openCathub _ _, d =>
      d.attempt (conduct.fails .opening) d.nextKeyer { d with nextKeyer := d.nextKeyer + 1 }
  | .initializeKeyer _, d => d.attempt (conduct.fails .initializing) conduct.revision d
  | .setSpeed _ _, d => d.attempt (conduct.fails .settingSpeed) () d
  | .sendText _ _, d =>
      d.attempt (conduct.fails .sending) () { d with holds := true, sentAt := d.now }
  | .clearBuffer _, d =>
      { d with overdue := none }.attempt (conduct.fails .clearing) ()
        { d with holds := false, overdue := none }
  | .isBusy _, d => d.attempt (conduct.fails .askingBusy) d.holds d
  | .close _, d => d.attempt (conduct.fails .closing) () d
  | .brokerStatus _, d => d.attempt (conduct.fails .askingStatus) conduct.brokerStatus d
  | .instantNow, d => (d.now, d)

/-! ### The worker at its queue -/

/-- A command in the queue. -/
structure Waiting where
  command : CwCommand
  arrivedAt : ℕ

/-- `COMMAND_QUEUE_CAPACITY`. -/
def commandQueueCapacity : ℕ := 32

/-- The worker, its queue and the keyer. -/
structure Keying where
  worker : CwWorker
  queue : List Waiting := []
  device : Device

/-- What happens next. -/
inductive KeyingEvent where
  | elapse (nanos : ℕ)
  /-- The keyer has sent its text. -/
  | finish
  /-- A caller queues a command. -/
  | arrive (command : CwCommand)
  /-- The worker goes once around the loop of `run`. -/
  | turn (conduct : Conduct)

/-- Let time pass. -/
def Device.elapse (d : Device) (deadline : Option ℕ) (nanos : ℕ) : Device :=
  { d with
    now := d.now + nanos
    overdue :=
      d.overdue.or (if d.holds then deadline.filter (decide <| · ≤ d.now + nanos) else none) }

/-- An event: the command that the worker takes, if it takes one, and what the
system is afterwards.  The controller lives, so that the queue is never
disconnected. -/
def occur (k : Keying) : KeyingEvent → Option (Option Waiting × Keying)
  | .elapse nanos =>
      some (none, { k with device := k.device.elapse k.worker.watchdogDeadline nanos })
  | .finish => some (none, { k with device := { k.device with holds := false, overdue := none } })
  | .arrive command =>
      if k.queue.length < commandQueueCapacity then
        some (none, { k with queue := k.queue ++ [⟨command, k.device.now⟩] })
      else none
  | .turn conduct =>
      match k.queue with
      | waiting :: queue =>
          let ((_, worker), device) := (k.worker.handle waiting.command).run (serveDevice conduct)
            k.device
          some (some waiting, ⟨worker, queue, device⟩)
      | [] =>
          match k.worker.watchdogDeadline with
          | none => none
          | some deadline =>
              if deadline ≤ k.device.now then
                let (worker, device) := k.worker.expireWatchdog.run (serveDevice conduct) k.device
                some (none, ⟨worker, [], device⟩)
              else none

/-- An event of a run. -/
structure Moment where
  event : KeyingEvent
  before : Keying
  took : Option Waiting
  after : Keying

/-- One event of a run. -/
def KeyingStep (k : Keying) (m : Moment) (k' : Keying) : Prop :=
  occur k m.event = some (m.took, k') ∧ m.before = k ∧ m.after = k'

/-! ### What the watchdog is for -/

/-- Text on the keyer has a deadline, at most the ceiling after it was accepted. -/
def Covered (k : Keying) : Prop :=
  k.device.holds = true → ∃ deadline, k.worker.watchdogDeadline = some deadline
    ∧ deadline ≤ k.device.sentAt + CwWorker.fromMillis k.worker.config.maxTxMs

/-- When a deadline has passed on a busy keyer, no command that came in later is
served before `clear_buffer` has been tried. -/
def Prompt (m : Moment) : Prop :=
  ∀ waiting deadline, m.took = some waiting → m.before.device.overdue = some deadline →
    waiting.arrivedAt ≤ deadline

/-- The keyer can be reached, perhaps over a new connection, and its buffer
cleared. -/
def Conduct.clears (conduct : Conduct) (w : CwWorker) : Prop :=
  (w.keyer.isSome = true ∨ conduct.fails .opening = none ∧ conduct.fails .initializing = none)
    ∧ conduct.fails .clearing = none

/-- At an expiry the keyer is still connected, and its buffer can be cleared. -/
def Conduct.expires (conduct : Conduct) (w : CwWorker) : Prop :=
  w.keyer.isSome = true ∧ conduct.fails .askingBusy = none ∧ conduct.fails .clearing = none

/-- The condition on an event: aborts and expiries reach a keyer with text, and
no command comes in while a deadline is overdue. -/
def Attended (_ : List Moment) (k : Keying) (m : Moment) : Prop :=
  match m.event, k.queue with
  | .arrive _, _ => k.device.overdue = none
  | .turn conduct, ⟨.abort, _⟩ :: _ => k.device.holds = true → conduct.clears k.worker
  | .turn conduct, [] => k.device.holds = true → conduct.expires k.worker
  | _, _ => True

/-! ### Calls that leave the text alone -/

/-- The text on the keyer and the clock are what they were. -/
structure SameText (d d' : Device) : Prop where
  now : d'.now = d.now
  holds : d'.holds = d.holds
  sentAt : d'.sentAt = d.sentAt
  overdue : d'.overdue = d.overdue

theorem SameText.refl (d : Device) : SameText d d := ⟨rfl, rfl, rfl, rfl⟩

theorem SameText.trans {d d' d'' : Device} (h : SameText d d') (h' : SameText d' d'') :
    SameText d d'' where
  now := h'.now.trans h.now
  holds := h'.holds.trans h.holds
  sentAt := h'.sentAt.trans h.sentAt
  overdue := h'.overdue.trans h.overdue

/-- A call that leaves the text alone. -/
def DeviceCmd.Gentle : DeviceCmd → Prop
  | sendText _ _ | clearBuffer _ => False
  | _ => True

theorem sameText_attempt {α : Type} {d d' : Device} {failure : Option CwError} {value : α}
    (h : SameText d d') : SameText d (d.attempt failure value d').2 := by
  rcases failure with - | error
  · exact h
  · exact .refl d

theorem sameText_serve {conduct : Conduct} {c : DeviceCmd} (hc : c.Gentle) (d : Device) :
    SameText d (serveDevice conduct c d).2 := by
  cases c with
  | sendText keyer text => exact hc.elim
  | clearBuffer keyer => exact hc.elim
  | instantNow => exact .refl d
  | _ => exact sameText_attempt ⟨rfl, rfl, rfl, rfl⟩

theorem sameText_run {α : Type} {conduct : Conduct} {p : CwProgram α}
    (hp : p.Emits DeviceCmd.Gentle) (d : Device) : SameText d (p.run (serveDevice conduct) d).2 := by
  induction p generalizing d with
  | pure a => exact .refl d
  | cmd c k ih => exact (sameText_serve hp.1 d).trans (ih _ (hp.2 _) _)

/-! ### The connection -/

/-- The watchdog and the settings are what they were. -/
structure SameWatch (w w' : CwWorker) : Prop where
  config : w'.config = w.config
  watchdogDeadline : w'.watchdogDeadline = w.watchdogDeadline

/-- The backend has hardware that a factory can open. -/
def CwKeyerConfig.Opens (config : CwKeyerConfig) : Prop :=
  config.backend = .cathub ∨ config.backend = .winkeyer ∧ config.winkeyerPort.isSome = true

/-- What `ensure_keyer` does to the worker. -/
structure Ensured (conduct : Conduct) (w : CwWorker) (o : Except CwError Unit × CwWorker) :
    Prop where
  watch : SameWatch w o.2
  keyer : o.1 = .ok () → o.2.keyer.isSome = true
  hardware : o.2.keyer.isSome = true → w.keyer.isSome = true ∨ w.config.Opens
  opens : w.config.Opens → w.keyer.isSome = true ∨ conduct.fails .opening = none
    ∧ conduct.fails .initializing = none → o.1 = .ok ()

/-- Opening is gentle. -/
theorem ensureKeyer_emits (w : CwWorker) : w.ensureKeyer.Emits DeviceCmd.Gentle := by
  rw [CwWorker.ensureKeyer]
  split
  · exact .pure _
  split
  · exact .pure _
  refine Prog.Emits.bind ?_ fun created => ?_
  · rw [CwWorker.create]
    split
    · split
      · exact .pure _
      · exact .call trivial
    · exact .call trivial
    · exact .pure _
  rcases created with error | keyer
  · exact .pure _
  refine Prog.Emits.bind (.call trivial) fun started => ?_
  rcases started with error | revision
  · exact .bind (.call trivial) fun _ => .pure _
  · exact .pure _

/-- The factories of hardware, and what other backends say. -/
theorem create_run (conduct : Conduct) (w : CwWorker) (d : Device) :
    w.config.Opens ∧ w.create.run (serveDevice conduct) d
        = d.attempt (conduct.fails .opening) d.nextKeyer { d with nextKeyer := d.nextKeyer + 1 }
      ∨ ¬ w.config.Opens ∧ ∃ error, w.create.run (serveDevice conduct) d = (.error error, d) := by
  rw [CwWorker.create, CwKeyerConfig.Opens]
  rcases hbackend : w.config.backend
  · exact .inr ⟨by simp, _, rfl⟩
  · rcases hport : w.config.winkeyerPort with - | portName
    · exact .inr ⟨by simp, _, rfl⟩
    · exact .inl ⟨by simp, rfl⟩
  · exact .inr ⟨by simp, _, rfl⟩
  · exact .inl ⟨by simp, rfl⟩

theorem ensureKeyer_run (conduct : Conduct) (w : CwWorker) (d : Device) :
    Ensured conduct w (w.ensureKeyer.run (serveDevice conduct) d).1 := by
  rw [CwWorker.ensureKeyer]
  rcases hkeyer : w.keyer with - | keyer
  · simp only [Option.isSome_none, Bool.false_eq_true, if_false]
    split
    · constructor <;> simp_all [CwKeyerConfig.Opens]
      exact ⟨rfl, rfl⟩
    rw [Prog.run_bind]
    rcases create_run conduct w d with ⟨hopens, hcreate⟩ | ⟨hopens, error, hcreate⟩
    · rw [hcreate]
      rcases hopening : conduct.fails .opening with - | error
      · rcases hinit : conduct.fails .initializing with - | error
        · constructor <;> simp_all [device, serveDevice, Device.attempt]
          exact ⟨rfl, rfl⟩
        · constructor <;> simp_all [device, serveDevice, Device.attempt, Prog.run_map]
          exact ⟨rfl, rfl⟩
      · constructor <;> simp_all [Device.attempt]
        exact ⟨rfl, rfl⟩
    · rw [hcreate]
      constructor <;> simp_all
      exact ⟨rfl, rfl⟩
  · simp only [Option.isSome_some, if_true]
    exact ⟨⟨rfl, rfl⟩, fun _ => by simp [hkeyer], fun _ => .inl (by simp [hkeyer]), fun _ _ => rfl⟩

/-- The operation was carried out, over some connection. -/
def Operated {α : Type} (conduct : Conduct) (operation : Keyer → CwProgram (Except CwError α))
    (d : Device) (o : (Except CwError α × CwWorker) × Device) : Prop :=
  ∃ keyer d', SameText d d' ∧ o.1.1 = ((operation keyer).run (serveDevice conduct) d').1
    ∧ SameText ((operation keyer).run (serveDevice conduct) d').2 o.2

/-- What `with_keyer` does. -/
structure Served {α : Type} (conduct : Conduct) (w : CwWorker)
    (operation : Keyer → CwProgram (Except CwError α)) (d : Device)
    (o : (Except CwError α × CwWorker) × Device) : Prop where
  watch : SameWatch w o.1.2
  hardware : o.1.2.keyer.isSome = true → w.keyer.isSome = true ∨ w.config.Opens
  served : (w.keyer.isSome = true ∨ w.config.Opens) ∧ Operated conduct operation d o
    ∨ (∃ error, o.1.1 = .error error) ∧ SameText d o.2
  reaches : w.config.Opens → w.keyer.isSome = true ∨ conduct.fails .opening = none
    ∧ conduct.fails .initializing = none → Operated conduct operation d o

theorem withKeyer_run {α : Type} (conduct : Conduct) (w : CwWorker)
    (operation : Keyer → CwProgram (Except CwError α)) (d : Device) :
    Served conduct w operation d ((w.withKeyer operation).run (serveDevice conduct) d) := by
  have htext : SameText d (w.ensureKeyer.run (serveDevice conduct) d).2 :=
    sameText_run (ensureKeyer_emits w) d
  have hensured := ensureKeyer_run conduct w d
  rw [CwWorker.withKeyer, Prog.run_bind]
  generalize w.ensureKeyer.run (serveDevice conduct) d = o at htext hensured ⊢
  obtain ⟨⟨ensured, w₁⟩, d₁⟩ := o
  obtain ⟨hwatch, hkeyer, hhardware, hopens⟩ := hensured
  dsimp only at *
  rcases ensured with error | ⟨⟩
  · exact ⟨hwatch, hhardware, .inr ⟨⟨error, rfl⟩, htext⟩,
      fun hconfig hreach => nomatch hopens hconfig hreach⟩
  obtain ⟨keyer, hsome⟩ := Option.isSome_iff_exists.mp (hkeyer rfl)
  have hreached : w.keyer.isSome = true ∨ w.config.Opens := hhardware (hkeyer rfl)
  rw [hsome]
  simp only [Prog.run_bind]
  rcases hresult : ((operation keyer).run (serveDevice conduct) d₁).1 with error | value
  · have hoperated : Operated conduct operation d
        ((.error error, { w₁ with
          lastError := some error.toText, keyer := none, firmwareRevision := none }),
          ((device (.close keyer)).run (serveDevice conduct)
            ((operation keyer).run (serveDevice conduct) d₁).2).2) :=
      ⟨keyer, d₁, htext, hresult.symm, sameText_serve (c := .close keyer) trivial _⟩
    exact ⟨⟨hwatch.config, hwatch.watchdogDeadline⟩, (fun hnone => nomatch hnone),
      Or.inl ⟨hreached, hoperated⟩, fun _ _ => hoperated⟩
  · have hoperated : Operated conduct operation d
        ((.ok value, { w₁ with lastError := none, keyer := some keyer }),
          ((operation keyer).run (serveDevice conduct) d₁).2) :=
      ⟨keyer, d₁, htext, hresult.symm, .refl _⟩
    exact ⟨⟨hwatch.config, hwatch.watchdogDeadline⟩, fun _ => hreached,
      Or.inl ⟨hreached, hoperated⟩, fun _ _ => hoperated⟩

/-! ### The commands -/

/-- A command that leaves the text and the watchdog alone. -/
structure Idle {α : Type} (w : CwWorker) (d : Device) (o : (α × CwWorker) × Device) : Prop where
  watch : SameWatch w o.1.2
  hardware : o.1.2.keyer.isSome = true → w.keyer.isSome = true ∨ w.config.Opens
  text : SameText d o.2

theorem Idle.refl {α : Type} (a : α) (w : CwWorker) (d : Device) : Idle w d ((a, w), d) :=
  ⟨⟨rfl, rfl⟩, .inl, .refl d⟩

/-- `with_keyer` with an operation that leaves the text alone. -/
theorem withKeyer_idle {α : Type} (conduct : Conduct) (w : CwWorker)
    (operation : Keyer → CwProgram (Except CwError α))
    (hop : ∀ keyer, (operation keyer).Emits DeviceCmd.Gentle) (d : Device) :
    Idle w d ((w.withKeyer operation).run (serveDevice conduct) d) := by
  obtain ⟨hwatch, hhardware, hserved, -⟩ := withKeyer_run conduct w operation d
  refine ⟨hwatch, hhardware, ?_⟩
  rcases hserved with ⟨-, keyer, d', htext, -, hlast⟩ | ⟨-, htext⟩
  · exact (htext.trans (sameText_run (hop keyer) d')).trans hlast
  · exact htext

/-- Another reply makes no difference. -/
theorem Idle.reply {α β : Type} {w : CwWorker} {d : Device} {o : (α × CwWorker) × Device}
    (h : Idle w d o) (b : β) : Idle w d ((b, o.1.2), o.2) :=
  ⟨h.watch, h.hardware, h.text⟩

theorem setSpeed_idle (conduct : Conduct) (w : CwWorker) (speedWpm : ℕ) (d : Device) :
    Idle w d ((w.setSpeed speedWpm).run (serveDevice conduct) d) := by
  have hidle := withKeyer_idle conduct w (fun keyer => device (.setSpeed keyer speedWpm))
    (fun _ => .call trivial) d
  rw [CwWorker.setSpeed]
  rcases validateSpeed speedWpm with error | ⟨⟩
  · exact .refl _ w d
  dsimp only
  split
  · exact ⟨⟨rfl, rfl⟩, .inl, .refl d⟩
  -- the two kinds of hardware
  iterate 2
    rw [Prog.run_bind]
    generalize (w.withKeyer fun keyer => device (.setSpeed keyer speedWpm)).run
      (serveDevice conduct) d = o at hidle ⊢
    obtain ⟨⟨set, w₁⟩, d₁⟩ := o
    rcases set with error | ⟨⟩
    · exact hidle.reply _
    · exact ⟨⟨hidle.watch.config, hidle.watch.watchdogDeadline⟩, hidle.hardware, hidle.text⟩
  exact .refl _ w d

theorem ensureKeyer_idle (conduct : Conduct) (w : CwWorker) (d : Device) :
    Idle w d (w.ensureKeyer.run (serveDevice conduct) d) := by
  obtain ⟨hwatch, -, hhardware, -⟩ := ensureKeyer_run conduct w d
  exact ⟨hwatch, hhardware, sameText_run (ensureKeyer_emits w) d⟩

theorem available_idle (conduct : Conduct) (w : CwWorker) (d : Device) :
    Idle w d (w.available.run (serveDevice conduct) d) := by
  have hidle := ensureKeyer_idle conduct w d
  rw [CwWorker.available]
  split
  · exact .refl _ w d
  · exact ⟨⟨rfl, rfl⟩, .inl, .refl d⟩
  · rw [Prog.run_bind]
    exact hidle.reply _
  · rw [Prog.run_bind]
    exact hidle.reply _
  · exact ⟨⟨rfl, rfl⟩, .inl, .refl d⟩

theorem askBroker_idle (conduct : Conduct) (w : CwWorker) (available : Bool) (d : Device) :
    Idle w d ((w.askBroker available).run (serveDevice conduct) d) := by
  have hidle := withKeyer_idle conduct w (fun keyer => device (.brokerStatus keyer))
    (fun _ => .call trivial) d
  rw [CwWorker.askBroker]
  split
  · rw [Prog.run_bind]
    exact hidle.reply _
  · exact .refl _ w d

theorem Idle.trans {α β : Type} {w : CwWorker} {d : Device} {o : (α × CwWorker) × Device}
    {o' : (β × CwWorker) × Device} (h : Idle w d o) (h' : Idle o.1.2 o.2 o') : Idle w d o' where
  watch := ⟨h'.watch.config.trans h.watch.config,
    h'.watch.watchdogDeadline.trans h.watch.watchdogDeadline⟩
  hardware hsome := by
    rcases h'.hardware hsome with hkeyer | hopens
    · exact h.hardware hkeyer
    · rw [h.watch.config] at hopens
      exact .inr hopens
  text := h.text.trans h'.text

theorem status_idle (conduct : Conduct) (w : CwWorker) (d : Device) :
    Idle w d (w.status.run (serveDevice conduct) d) := by
  have havailable := available_idle conduct w d
  rw [CwWorker.status]
  simp only [Prog.run_bind]
  generalize w.available.run (serveDevice conduct) d = o at havailable ⊢
  obtain ⟨⟨available, w₁⟩, d₁⟩ := o
  exact havailable.trans ((askBroker_idle conduct w₁ available d₁).reply _)

/-- New text has been accepted, and the watchdog is armed. -/
structure Accepted {α : Type} (w : CwWorker) (d : Device) (o : (α × CwWorker) × Device) :
    Prop where
  config : o.1.2.config = w.config
  opens : w.keyer.isSome = true ∨ w.config.Opens
  deadline : o.1.2.watchdogDeadline = some (d.now + CwWorker.fromMillis w.config.maxTxMs)
  now : o.2.now = d.now
  sentAt : o.2.sentAt = d.now
  overdue : o.2.overdue = d.overdue

theorem Accepted.reply {α β : Type} {w : CwWorker} {d : Device} {o : (α × CwWorker) × Device}
    (h : Accepted w d o) (b : β) : Accepted w d ((b, o.1.2), o.2) :=
  ⟨h.config, h.opens, h.deadline, h.now, h.sentAt, h.overdue⟩

/-- The calls of `send_text`: either the keyer takes the text, or nothing changes. -/
theorem keyText_run (conduct : Conduct) (speed : ℕ) (text : String) (keyer : Keyer) (d : Device) :
    (CwWorker.keyText speed text keyer).run (serveDevice conduct) d
        = (.ok (), { d with holds := true, sentAt := d.now })
      ∨ ∃ error, (CwWorker.keyText speed text keyer).run (serveDevice conduct) d
        = (.error error, d) := by
  rw [CwWorker.keyText]
  rcases hspeed : conduct.fails .settingSpeed with - | error
  · rcases hsend : conduct.fails .sending with - | error
    · left
      simp [device, serveDevice, Device.attempt, hspeed, hsend]
    · right
      exact ⟨error, by simp [device, serveDevice, Device.attempt, hspeed, hsend]⟩
  · right
    exact ⟨error, by simp [device, serveDevice, Device.attempt, hspeed]⟩

theorem transmit_run (conduct : Conduct) (w : CwWorker) (text : String) (speed : ℕ) (d : Device) :
    Idle w d ((w.transmit text speed).run (serveDevice conduct) d)
      ∨ Accepted w d ((w.transmit text speed).run (serveDevice conduct) d) := by
  have hserved := withKeyer_run conduct w (CwWorker.keyText speed text) d
  rw [CwWorker.transmit]
  split
  · exact .inl (.refl _ w d)
  rw [Prog.run_bind]
  generalize (w.withKeyer (CwWorker.keyText speed text)).run (serveDevice conduct) d = o at hserved ⊢
  obtain ⟨⟨keyed, w₁⟩, d₁⟩ := o
  obtain ⟨hwatch, hhardware, hserved, -⟩ := hserved
  dsimp only at *
  rcases hserved with ⟨hopens, keyer, d', htext, hkeyed, hlast⟩ | ⟨⟨error, rfl⟩, htext⟩
  · rcases keyText_run conduct speed text keyer d' with hrun | ⟨error, hrun⟩
    · rw [hrun] at hkeyed hlast
      dsimp only at hkeyed hlast
      subst hkeyed
      right
      have hnow : d₁.now = d.now := hlast.now.trans htext.now
      refine ⟨hwatch.config, hopens, ?_, hnow, hlast.sentAt.trans htext.now,
        hlast.overdue.trans htext.overdue⟩
      rw [← hnow, ← hwatch.config]
      rfl
    · rw [hrun] at hkeyed hlast
      dsimp only at hkeyed hlast
      subst hkeyed
      exact .inl ⟨hwatch, hhardware, htext.trans hlast⟩
  · exact .inl ⟨hwatch, hhardware, htext⟩

theorem sendText_run (conduct : Conduct) (w : CwWorker) (text : String) (speedWpm : Option ℕ)
    (d : Device) :
    Idle w d ((w.sendText text speedWpm).run (serveDevice conduct) d)
      ∨ Accepted w d ((w.sendText text speedWpm).run (serveDevice conduct) d) := by
  rw [CwWorker.sendText]
  rcases validateText text with error | ⟨⟩
  · exact .inl (.refl _ w d)
  rcases validateSpeed (speedWpm.getD w.activeSpeedWpm) with error | ⟨⟩
  · exact .inl (.refl _ w d)
  dsimp only
  split
  · exact .inl ⟨⟨rfl, rfl⟩, .inl, .refl d⟩
  · exact transmit_run conduct w text _ d
  · exact transmit_run conduct w text _ d
  · exact .inl (.refl _ w d)

theorem clearBuffer_run (conduct : Conduct) (keyer : Keyer) (d : Device) :
    (device (.clearBuffer keyer)).run (serveDevice conduct) d
      = (match conduct.fails .clearing with
        | none => (.ok (), { d with holds := false, overdue := none })
        | some error => (.error error, { d with overdue := none })) := by
  simp only [device, Prog.run_call, serveDevice, Device.attempt]
  rcases conduct.fails .clearing with - | error <;> rfl

/-- The buffer may have been cleared; it has been if `clears` says so. -/
structure Clearing (clears : Prop) (d d' : Device) : Prop where
  now : d'.now = d.now
  overdue : ∀ deadline, d'.overdue = some deadline → d.overdue = some deadline
  holds : d'.holds = true → d.holds = true
  cleared : clears → d'.holds = false

theorem SameText.clearing {clears : Prop} {d d' : Device} (h : SameText d d') (hno : ¬ clears) :
    Clearing clears d d' where
  now := h.now
  overdue _ hsome := h.overdue ▸ hsome
  holds hholds := h.holds ▸ hholds
  cleared hclears := absurd hclears hno

theorem Clearing.congr {clears : Prop} {d d₁ d₂ d₃ : Device} (h : Clearing clears d₁ d₂)
    (h₁ : SameText d d₁) (h₃ : SameText d₂ d₃) : Clearing clears d d₃ where
  now := h₃.now.trans (h.now.trans h₁.now)
  overdue deadline hsome := by
    rw [h₃.overdue] at hsome
    rw [← h₁.overdue]
    exact h.overdue deadline hsome
  holds hholds := by
    rw [h₃.holds] at hholds
    rw [← h₁.holds]
    exact h.holds hholds
  cleared hclears := h₃.holds.trans (h.cleared hclears)

theorem clearing_of_run (conduct : Conduct) (keyer : Keyer) (d : Device) :
    Clearing (conduct.fails .clearing = none) d
      ((device (.clearBuffer keyer)).run (serveDevice conduct) d).2 := by
  rw [clearBuffer_run]
  rcases hfails : conduct.fails .clearing with - | error
  · exact ⟨rfl, (fun _ hnone => nomatch hnone), (fun hno => nomatch hno), fun _ => rfl⟩
  · exact ⟨rfl, (fun _ hnone => nomatch hnone), id, (fun hno => nomatch hno)⟩

/-- The connection is one that the settings allow. -/
structure Disarmed (w w' : CwWorker) : Prop where
  config : w'.config = w.config
  hardware : w'.keyer.isSome = true → w.keyer.isSome = true ∨ w.config.Opens

/-- `with_keyer` with `clear_buffer`. -/
theorem withKeyer_clear (conduct : Conduct) (w : CwWorker) (d : Device) :
    Disarmed w ((w.withKeyer fun keyer => device (.clearBuffer keyer)).run
        (serveDevice conduct) d).1.2
      ∧ Clearing (w.config.Opens ∧ conduct.clears w) d
        ((w.withKeyer fun keyer => device (.clearBuffer keyer)).run (serveDevice conduct) d).2 := by
  obtain ⟨hwatch, hhardware, hserved, hreaches⟩ :=
    withKeyer_run conduct w (fun keyer => device (.clearBuffer keyer)) d
  generalize (w.withKeyer fun keyer => device (.clearBuffer keyer)).run (serveDevice conduct) d = o
    at hwatch hhardware hserved hreaches ⊢
  refine ⟨⟨hwatch.config, hhardware⟩, ?_⟩
  have hdone : Operated conduct (fun keyer => device (.clearBuffer keyer)) d o →
      Clearing (conduct.fails .clearing = none) d o.2 := by
    rintro ⟨keyer, d', htext, -, hlast⟩
    exact (clearing_of_run conduct keyer d').congr htext hlast
  by_cases hclears : w.config.Opens ∧ conduct.clears w
  · have hclearing := hdone (hreaches hclears.1 hclears.2.1)
    exact ⟨hclearing.now, hclearing.overdue, hclearing.holds,
      fun _ => hclearing.cleared hclears.2.2⟩
  · rcases hserved with ⟨-, hoperated⟩ | ⟨-, htext⟩
    · have hclearing := hdone hoperated
      exact ⟨hclearing.now, hclearing.overdue, hclearing.holds, fun hyes => absurd hyes hclears⟩
    · exact htext.clearing hclears

theorem abort_run (conduct : Conduct) (w : CwWorker) (d : Device) :
    Disarmed w (w.abort.run (serveDevice conduct) d).1.2
      ∧ Clearing (w.config.Opens ∧ conduct.clears w) d (w.abort.run (serveDevice conduct) d).2 := by
  obtain ⟨hdisarmed, hclearing⟩ := withKeyer_clear conduct { w with watchdogDeadline := none } d
  have hdisarmed' : Disarmed w ((CwWorker.withKeyer { w with watchdogDeadline := none }
      fun keyer => device (.clearBuffer keyer)).run (serveDevice conduct) d).1.2 :=
    ⟨hdisarmed.config, hdisarmed.hardware⟩
  rw [CwWorker.abort]
  rcases hbackend : w.config.backend
  · exact ⟨⟨rfl, .inl⟩,
      (SameText.refl d).clearing fun hclears => by simp [CwKeyerConfig.Opens, hbackend] at hclears⟩
  · exact ⟨hdisarmed', hclearing⟩
  · exact ⟨⟨rfl, .inl⟩,
      (SameText.refl d).clearing fun hclears => by simp [CwKeyerConfig.Opens, hbackend] at hclears⟩
  · exact ⟨hdisarmed', hclearing⟩

theorem disconnect_run (conduct : Conduct) (w : CwWorker) (d : Device) :
    (w.disconnect.run (serveDevice conduct) d).1.config = w.config
      ∧ (w.disconnect.run (serveDevice conduct) d).1.keyer = none
      ∧ SameText d (w.disconnect.run (serveDevice conduct) d).2 := by
  rw [CwWorker.disconnect]
  rcases hkeyer : w.keyer with - | keyer
  · exact ⟨rfl, rfl, .refl d⟩
  · exact ⟨rfl, rfl, sameText_serve (c := .close keyer) trivial d⟩

/-- The part of an expiry that asks a connected keyer. -/
theorem expireConnected_run (conduct : Conduct) {w : CwWorker} {keyer : Keyer} (d : Device)
    (hkeyer : w.keyer = some keyer) :
    Disarmed w (w.expireWatchdog.run (serveDevice conduct) d).1
      ∧ Clearing (conduct.expires w) d (w.expireWatchdog.run (serveDevice conduct) d).2 := by
  have hsome : w.keyer.isSome = true := by rw [hkeyer]; rfl
  have hgone : ∀ (error : CwError) d',
      Disarmed w ((CwWorker.disconnect { w with
          watchdogDeadline := none, lastError := some error.toText, keyer := some keyer }).run
            (serveDevice conduct) d').1
        ∧ SameText d' ((CwWorker.disconnect { w with
          watchdogDeadline := none, lastError := some error.toText, keyer := some keyer }).run
            (serveDevice conduct) d').2 := by
    intro error d'
    obtain ⟨hsame, -, htext⟩ := disconnect_run conduct
      { w with watchdogDeadline := none, lastError := some error.toText, keyer := some keyer } d'
    exact ⟨⟨hsame, fun _ => .inl hsome⟩, htext⟩
  have hbusy : (device (.isBusy keyer)).run (serveDevice conduct) d
      = d.attempt (conduct.fails .askingBusy) d.holds d := rfl
  rw [CwWorker.expireWatchdog]
  dsimp only
  rw [hkeyer]
  dsimp only
  rw [Prog.run_bind, hbusy]
  rcases hasking : conduct.fails .askingBusy with - | error
  · rcases hholds : d.holds with - | -
    · exact ⟨⟨rfl, fun _ => .inl hsome⟩, rfl, fun _ => id, fun hyes => hyes, fun _ => hholds⟩
    · have hclearing := clearing_of_run conduct keyer d
      simp only [Device.attempt, Prog.run_bind]
      generalize (device (.clearBuffer keyer)).run (serveDevice conduct) d = o at hclearing ⊢
      obtain ⟨cleared, d₁⟩ := o
      have hexpired : ∀ d₂, SameText d₁ d₂ → Clearing (conduct.expires w) d d₂ := by
        intro d₂ htext
        obtain ⟨hnow, hoverdue, hheld, hcleared⟩ := hclearing.congr (.refl d) htext
        exact ⟨hnow, hoverdue, hheld, fun hexpires => hcleared hexpires.2.2⟩
      rcases cleared with error | ⟨⟩
      · exact ⟨(hgone error d₁).1, hexpired _ (hgone error d₁).2⟩
      · exact ⟨⟨rfl, fun _ => .inl hsome⟩, hexpired _ (.refl d₁)⟩
  · refine ⟨(hgone error d).1, (hgone error d).2.clearing fun hexpires => ?_⟩
    have hfails := hexpires.2.1
    rw [hasking] at hfails
    cases hfails

/-- An expiry. -/
theorem expireWatchdog_run (conduct : Conduct) (w : CwWorker) (d : Device) :
    Disarmed w (w.expireWatchdog.run (serveDevice conduct) d).1
      ∧ Clearing (conduct.expires w) d (w.expireWatchdog.run (serveDevice conduct) d).2 := by
  rcases hkeyer : w.keyer with - | keyer
  · have hrun : w.expireWatchdog.run (serveDevice conduct) d
        = ({ w with watchdogDeadline := none }, d) := by
      rw [CwWorker.expireWatchdog]
      dsimp only
      rw [hkeyer]
      rfl
    rw [hrun]
    refine ⟨⟨rfl, .inl⟩, (SameText.refl d).clearing fun hexpires => ?_⟩
    have hsome := hexpires.1
    rw [hkeyer] at hsome
    cases hsome
  · exact expireConnected_run conduct d hkeyer

/-! ### Runs -/

/-- Text has its deadline, and no command in the queue is younger than a deadline
that is overdue. -/
structure Watched (k : Keying) : Prop where
  covered : Covered k
  opens : k.worker.keyer.isSome = true ∨ k.device.holds = true → k.worker.config.Opens
  overdue : ∀ deadline, k.device.overdue = some deadline →
    ∀ waiting ∈ k.queue, waiting.arrivedAt ≤ deadline
  arrived : ∀ waiting ∈ k.queue, waiting.arrivedAt ≤ k.device.now
  due : k.device.overdue = none → k.device.holds = true →
    ∀ deadline, k.worker.watchdogDeadline = some deadline → k.device.now ≤ deadline

theorem Watched.elapse {k : Keying} (h : Watched k) (nanos : ℕ) :
    Watched { k with device := k.device.elapse k.worker.watchdogDeadline nanos } := by
  obtain ⟨hcovered, hopens, hoverdue, harrived, hdue⟩ := h
  refine ⟨hcovered, hopens, ?_, ?_, ?_⟩
  · intro deadline hsome waiting hwaiting
    simp only [Device.elapse] at hsome
    rcases hbefore : k.device.overdue with - | earlier
    · rw [hbefore] at hsome
      by_cases hholds : k.device.holds = true
      · simp only [hholds, if_true, Option.none_or, Option.filter_eq_some_iff] at hsome
        exact (harrived waiting hwaiting).trans (hdue hbefore hholds deadline hsome.1)
      · simp [hholds] at hsome
    · rw [hbefore] at hsome
      have heq : earlier = deadline := by simpa using hsome
      rw [← heq]
      exact hoverdue earlier hbefore waiting hwaiting
  · intro waiting hwaiting
    exact (harrived waiting hwaiting).trans (Nat.le_add_right _ _)
  · intro hnone hholds deadline hdeadline
    have hholds' : k.device.holds = true := hholds
    have hdeadline' : k.worker.watchdogDeadline = some deadline := hdeadline
    simp only [Device.elapse] at hnone
    simp only [Device.elapse]
    rcases hbefore : k.device.overdue with - | earlier
    · simp [hbefore, hholds', hdeadline'] at hnone
      omega
    · simp [hbefore] at hnone

/-- What is left of a queue. -/
theorem Watched.rest {k : Keying} {queue : List Waiting} (h : Watched k) (hq : queue ⊆ k.queue) :
    Watched { k with queue := queue } where
  covered := h.covered
  opens := h.opens
  overdue deadline hsome waiting hwaiting := h.overdue deadline hsome waiting (hq hwaiting)
  arrived waiting hwaiting := h.arrived waiting (hq hwaiting)
  due := h.due

theorem Watched.idle {α : Type} {k : Keying} {o : (α × CwWorker) × Device} (h : Watched k)
    (ho : Idle k.worker k.device o) : Watched ⟨o.1.2, k.queue, o.2⟩ := by
  obtain ⟨hwatch, hhardware, htext⟩ := ho
  refine ⟨?_, ?_, ?_, ?_, ?_⟩
  · intro hholds
    show ∃ deadline, o.1.2.watchdogDeadline = some deadline ∧ _
    rw [hwatch.watchdogDeadline, hwatch.config, htext.sentAt]
    exact h.covered (htext.holds.symm.trans hholds)
  · rintro (hsome | hholds)
    · rw [hwatch.config]
      rcases hhardware hsome with hkeyer | hopens
      · exact h.opens (.inl hkeyer)
      · exact hopens
    · rw [hwatch.config]
      exact h.opens (.inr (htext.holds.symm.trans hholds))
  · intro deadline hsome
    exact h.overdue deadline (htext.overdue.symm.trans hsome)
  · intro waiting hwaiting
    show _ ≤ o.2.now
    rw [htext.now]
    exact h.arrived waiting hwaiting
  · intro hnone hholds deadline hdeadline
    show o.2.now ≤ deadline
    rw [htext.now]
    exact h.due (htext.overdue.symm.trans hnone) (htext.holds.symm.trans hholds) deadline
      (hwatch.watchdogDeadline.symm.trans hdeadline)

theorem Watched.accepted {α : Type} {k : Keying} {o : (α × CwWorker) × Device} (h : Watched k)
    (ho : Accepted k.worker k.device o) : Watched ⟨o.1.2, k.queue, o.2⟩ := by
  obtain ⟨hconfig, hopens, hdeadline, hnow, hsentAt, hoverdue⟩ := ho
  refine ⟨?_, ?_, ?_, ?_, ?_⟩
  · intro _
    refine ⟨_, hdeadline, ?_⟩
    show _ ≤ o.2.sentAt + CwWorker.fromMillis o.1.2.config.maxTxMs
    rw [hsentAt, hconfig]
  · intro _
    rw [hconfig]
    rcases hopens with hkeyer | hopens
    · exact h.opens (.inl hkeyer)
    · exact hopens
  · intro deadline hsome
    exact h.overdue deadline (hoverdue.symm.trans hsome)
  · intro waiting hwaiting
    show _ ≤ o.2.now
    rw [hnow]
    exact h.arrived waiting hwaiting
  · intro _ _ deadline hsome
    have heq : k.device.now + CwWorker.fromMillis k.worker.config.maxTxMs = deadline :=
      Option.some.inj (hdeadline.symm.trans hsome)
    show o.2.now ≤ deadline
    rw [hnow, ← heq]
    exact Nat.le_add_right _ _

/-- An abort or an expiry that reaches a keyer with text. -/
theorem Watched.cleared {k : Keying} {w : CwWorker} {d : Device} {clears : Prop} (h : Watched k)
    (hw : Disarmed k.worker w) (hd : Clearing clears k.device d)
    (hclears : k.device.holds = true → clears) : Watched ⟨w, k.queue, d⟩ := by
  obtain ⟨hnow, hoverdue, hheld, hcleared⟩ := hd
  have hfree : ¬ d.holds = true := by
    intro hholds
    have hno := hcleared (hclears (hheld hholds))
    rw [hholds] at hno
    cases hno
  refine ⟨fun hholds => absurd hholds hfree, ?_, ?_, ?_, fun _ hholds => absurd hholds hfree⟩
  · rintro (hsome | hholds)
    · rw [hw.config]
      rcases hw.hardware hsome with hkeyer | hopens
      · exact h.opens (.inl hkeyer)
      · exact hopens
    · exact absurd hholds hfree
  · intro deadline hsome
    exact h.overdue deadline (hoverdue deadline hsome)
  · intro waiting hwaiting
    show _ ≤ d.now
    rw [hnow]
    exact h.arrived waiting hwaiting

/-- The worker serves a command. -/
theorem Watched.handle {k : Keying} (conduct : Conduct) (command : CwCommand) (h : Watched k)
    (habort : command = .abort → k.device.holds = true → conduct.clears k.worker) :
    Watched ⟨((k.worker.handle command).run (serveDevice conduct) k.device).1.2, k.queue,
      ((k.worker.handle command).run (serveDevice conduct) k.device).2⟩ := by
  rcases command with ⟨text, speedWpm⟩ | - | speedWpm | -
  · rw [CwWorker.handle, Prog.run_bind]
    rcases sendText_run conduct k.worker text speedWpm k.device with hidle | haccepted
    · exact h.idle (hidle.reply _)
    · exact h.accepted (haccepted.reply _)
  · rw [CwWorker.handle, Prog.run_bind]
    obtain ⟨hdisarmed, hclearing⟩ := abort_run conduct k.worker k.device
    exact h.cleared hdisarmed hclearing fun hholds => ⟨h.opens (.inr hholds), habort rfl hholds⟩
  · rw [CwWorker.handle, Prog.run_bind]
    exact h.idle ((setSpeed_idle conduct k.worker speedWpm k.device).reply _)
  · rw [CwWorker.handle, Prog.run_bind]
    exact h.idle ((status_idle conduct k.worker k.device).reply _)

/-- **One event.** -/
theorem Watched.step {ms : List Moment} {k k' : Keying} {m : Moment} (h : Watched k)
    (hE : Attended ms k m) (hs : KeyingStep k m k') : Watched k' ∧ Prompt m := by
  obtain ⟨event, before, took, after⟩ := m
  obtain ⟨hoccur, hbefore, hafter⟩ := hs
  dsimp only at hoccur hbefore hafter
  subst hbefore hafter
  rw [Attended] at hE
  rcases event with nanos | - | command | conduct
  · cases hoccur
    exact ⟨h.elapse nanos, fun _ _ htook => nomatch htook⟩
  · cases hoccur
    refine ⟨⟨(fun hno => nomatch hno), ?_, (fun _ hno => nomatch hno), h.arrived,
      (fun _ hno => nomatch hno)⟩, fun _ _ htook => nomatch htook⟩
    rintro (hsome | hno)
    · exact h.opens (.inl hsome)
    · cases hno
  · simp only [occur] at hoccur
    split at hoccur
    · cases hoccur
      refine ⟨⟨h.covered, h.opens, ?_, ?_, h.due⟩, fun _ _ htook => nomatch htook⟩
      · intro deadline hsome
        exact nomatch hE.symm.trans hsome
      · intro waiting hwaiting
        rcases List.mem_append.mp hwaiting with hold | hnew
        · exact h.arrived waiting hold
        · rw [List.mem_singleton.mp hnew]
    · cases hoccur
  · simp only [occur] at hoccur
    rcases hqueue : before.queue with - | ⟨waiting, queue⟩
    · rw [hqueue] at hoccur hE
      dsimp only at hoccur hE
      rcases hdeadline : before.worker.watchdogDeadline with - | deadline
      · rw [hdeadline] at hoccur
        cases hoccur
      rw [hdeadline] at hoccur
      dsimp only at hoccur
      split at hoccur
      · cases hoccur
        obtain ⟨hdisarmed, hclearing⟩ := expireWatchdog_run conduct before.worker before.device
        have hcleared := h.cleared hdisarmed hclearing hE
        rw [hqueue] at hcleared
        exact ⟨hcleared, fun _ _ htook => nomatch htook⟩
      · cases hoccur
    · rw [hqueue] at hoccur
      dsimp only at hoccur
      cases hoccur
      have hhandled := h.handle conduct waiting.command fun habort hholds => by
        rw [hqueue] at hE
        obtain ⟨command, arrivedAt⟩ := waiting
        dsimp only at habort
        subst habort
        exact hE hholds
      refine ⟨hhandled.rest ?_, ?_⟩
      · rw [hqueue]
        exact List.subset_cons_self waiting queue
      · intro taken deadline htook hoverdue
        cases htook
        exact h.overdue deadline hoverdue waiting (by rw [hqueue]; exact List.mem_cons_self)

/-- A controller that has just been made. -/
def Keying.new (config : CwKeyerConfig) (now : ℕ) : Keying where
  worker := .new config
  device := { now := now }

theorem watched_new (config : CwKeyerConfig) (now : ℕ) : Watched (.new config now) where
  covered hno := nomatch hno
  opens := by rintro (hno | hno) <;> cases hno
  overdue _ hno := nomatch hno
  arrived _ hno := nomatch hno
  due _ hno := nomatch hno

/-- **Keyed text is covered by the watchdog**, in a run in which every abort and
every expiry reaches a keyer that holds text, and in which no command comes in
while a deadline is overdue. -/
theorem watchdog_covers_text {config : CwKeyerConfig} {now : ℕ} {ms : List Moment} {k : Keying}
    (hr : Transition.Run KeyingStep Attended (.new config now) ms k) :
    Covered k ∧ ∀ m ∈ ms, Prompt m := by
  have hboth : Watched k ∧ ∀ m ∈ ms, Prompt m := by
    refine hr.invariant (I := fun ms k => Watched k ∧ ∀ m ∈ ms, Prompt m)
      ⟨watched_new config now, fun m hm => absurd hm List.not_mem_nil⟩ ?_
    rintro ms k m k' ⟨hwatched, hpast⟩ hE hs
    obtain ⟨hnext, hprompt⟩ := hwatched.step hE hs
    refine ⟨hnext, fun m' hm' => ?_⟩
    rcases List.mem_append.mp hm' with hold | hnew
    · exact hpast m' hold
    · rw [List.mem_singleton.mp hnew]
      exact hprompt
  exact ⟨hboth.1.covered, hboth.2⟩

/-! ### An abort that fails -/

instance (conduct : Conduct) (w : CwWorker) : Decidable (conduct.clears w) :=
  inferInstanceAs (Decidable (_ ∧ _))

instance (conduct : Conduct) (w : CwWorker) : Decidable (conduct.expires w) :=
  inferInstanceAs (Decidable (_ ∧ _))

instance (ms : List Moment) (k : Keying) (m : Moment) : Decidable (Attended ms k m) := by
  unfold Attended
  split <;> infer_instance

/-- Let an event happen. -/
def happenNext (k : Keying) (event : KeyingEvent) : Option (Moment × Keying) :=
  (occur k event).map fun o => (⟨event, k, o.1, o.2⟩, o.2)

theorem keyingStep_of_happenNext (k : Keying) (event : KeyingEvent) (m : Moment) (k' : Keying)
    (h : happenNext k event = some (m, k')) : KeyingStep k m k' := by
  rw [happenNext, Option.map_eq_some_iff] at h
  obtain ⟨⟨took, after⟩, hoccur, heq⟩ := h
  cases heq
  exact ⟨hoccur, rfl, rfl⟩

/-- A keyer behind the broker, with a ceiling of two minutes. -/
def brokerConfig : CwKeyerConfig where
  backend := .cathub
  winkeyerPort := none
  winkeyerBaud := 1200
  cathubEndpoint := "http://127.0.0.1:50071"
  cathubClientName := "qsoripper-engine"
  defaultSpeedWpm := 25
  transmitEnabled := true
  maxTxMs := 120000

/-- The broker is gone when the buffer is to be cleared. -/
def brokerGone : Conduct where
  fails
    | .clearing => some (.io "CatHub WinKeyer RPC: unavailable")
    | _ => none

/-- Text is sent, and then aborted in vain. -/
def failedAbort : List KeyingEvent :=
  [.arrive (.sendText "TEST" none), .turn {}, .arrive .abort, .turn brokerGone]

/-- **A failing abort leaves the text without a deadline.** -/
theorem failed_abort_uncovers_text :
    ∃ ms k, Transition.Run KeyingStep (fun _ _ _ => True) (.new brokerConfig 0) ms k
      ∧ ¬ Covered k := by
  have hrun : Transition.Run KeyingStep (fun _ _ _ => True) (.new brokerConfig 0)
      (Transition.schedule happenNext failedAbort (.new brokerConfig 0)).1
      (Transition.schedule happenNext failedAbort (.new brokerConfig 0)).2 :=
    Transition.schedule_run keyingStep_of_happenNext (by decide +kernel)
  have hleft : (Transition.schedule happenNext failedAbort (.new brokerConfig 0)).2.device.holds
        = true
      ∧ (Transition.schedule happenNext failedAbort
        (.new brokerConfig 0)).2.worker.watchdogDeadline = none := by decide +kernel
  refine ⟨_, _, hrun, fun hcovered => ?_⟩
  obtain ⟨deadline, hdeadline, -⟩ := hcovered hleft.1
  rw [hleft.2] at hdeadline
  cases hdeadline

/-- The status is asked a millisecond after the deadline, before the worker has
looked at its queue. -/
def lateStatus : List KeyingEvent :=
  [.arrive (.sendText "TEST" none), .turn {}, .elapse (120001 * 1000000), .arrive .status,
    .turn {}]

/-- **A command that comes in late is served first.** -/
theorem late_status_served_first :
    ∃ ms k, Transition.Run KeyingStep (fun _ _ _ => True) (.new brokerConfig 0) ms k
      ∧ ∃ m ∈ ms, ¬ Prompt m := by
  have hrun : Transition.Run KeyingStep (fun _ _ _ => True) (.new brokerConfig 0)
      (Transition.schedule happenNext lateStatus (.new brokerConfig 0)).1
      (Transition.schedule happenNext lateStatus (.new brokerConfig 0)).2 :=
    Transition.schedule_run keyingStep_of_happenNext (by decide +kernel)
  have hlate : ∃ m ∈ (Transition.schedule happenNext lateStatus (.new brokerConfig 0)).1,
      m.took.map (·.arrivedAt) = some (120001 * 1000000)
        ∧ m.before.device.overdue = some (120000 * 1000000) := by decide +kernel
  obtain ⟨m, hm, htook, hoverdue⟩ := hlate
  refine ⟨_, _, hrun, m, hm, fun hprompt => ?_⟩
  obtain ⟨waiting, hwaiting, harrived⟩ := Option.map_eq_some_iff.mp htook
  have hle := hprompt waiting _ hwaiting hoverdue
  rw [harrived] at hle
  omega

/-- Text is sent; the watchdog expires while it is still there; then the status
is asked. -/
def longText : List KeyingEvent :=
  [.arrive (.sendText "TEST" none), .turn {}, .elapse (120001 * 1000000), .turn {},
    .arrive .status, .turn {}]

theorem watchdog_covers_long_text :
    Covered (Transition.schedule happenNext longText (.new brokerConfig 0)).2
      ∧ ∀ m ∈ (Transition.schedule happenNext longText (.new brokerConfig 0)).1, Prompt m :=
  watchdog_covers_text (Transition.schedule_run keyingStep_of_happenNext (by decide +kernel))

end QsoRipper.Cw
