/-
QsoRipper/Cw/Worker.lean

The worker thread of the CW controller.  It owns the connection to the keyer,
takes one command after another from its queue, and arms a watchdog whenever
text has been accepted.

Instants are nanoseconds from the origin of the monotonic clock.
-/
import QsoRipper.Lib.Program

namespace QsoRipper.Cw

open Interaction

/-! ### Configuration and errors -/

/-- `CwBackendKind`. -/
inductive CwBackendKind where
  | null
  | winkeyer
  | cwdaemon
  | cathub
deriving DecidableEq, Repr

/-- `CwKeyerConfig`. -/
structure CwKeyerConfig where
  backend : CwBackendKind
  winkeyerPort : Option String
  winkeyerBaud : ℕ
  cathubEndpoint : String
  cathubClientName : String
  defaultSpeedWpm : ℕ
  transmitEnabled : Bool
  maxTxMs : ℕ

/-- The variants of `CwError` that the worker meets. -/
inductive CwError where
  | invalidSpeed (speedWpm : ℕ)
  | invalidText (reason : String)
  | transmitDisabled
  | backendUnavailable (reason : String)
  | io (reason : String)
deriving DecidableEq

/-- `CwError::to_string`. -/
def CwError.toText : CwError → String
  | invalidSpeed speedWpm => "CW speed must be between 5 and 99 WPM, got " ++ toString speedWpm
  | invalidText reason => "invalid CW text: " ++ reason
  | transmitDisabled =>
      "CW hardware transmission is disabled; set QSORIPPER_CW_TRANSMIT_ENABLED=true to enable it"
  | backendUnavailable reason => "CW keyer backend is not configured: " ++ reason
  | io reason => "CW keyer I/O failed: " ++ reason

/-- `validate_speed`. -/
def validateSpeed (speedWpm : ℕ) : Except CwError Unit :=
  if 5 ≤ speedWpm ∧ speedWpm ≤ 99 then .ok () else .error (.invalidSpeed speedWpm)

/-- `validate_text`. -/
def validateText (text : String) : Except CwError Unit :=
  if text.isEmpty then .error (.invalidText "text must not be empty")
  else
    match text.toList.find? fun character => !decide (character.toNat < 128) with
    | some character =>
        .error (.invalidText ("non-ASCII character '" ++ String.singleton character ++ "'"))
    | none => .ok ()

/-! ### The device -/

/-- `BrokerDeviceStatus`. -/
structure BrokerDeviceStatus where
  busy : Bool
  potWpm : Option ℕ
  lastSafetyAction : Option String

/-- A connection that a factory has made. -/
abbrev Keyer := ℕ

/-- The calls of the worker: the two factories, the trait `WinkeyerDevice`, and
the clock. -/
inductive DeviceCmd where
  | openWinkeyer (portName : String) (baudRate : ℕ)
  | openCathub (endpoint clientName : String)
  | initializeKeyer (keyer : Keyer)
  | setSpeed (keyer : Keyer) (speedWpm : ℕ)
  | sendText (keyer : Keyer) (text : String)
  | clearBuffer (keyer : Keyer)
  | isBusy (keyer : Keyer)
  | close (keyer : Keyer)
  | brokerStatus (keyer : Keyer)
  | instantNow

/-- What they are answered. -/
abbrev DeviceCmd.Answer : DeviceCmd → Type
  | openWinkeyer _ _ => Except CwError Keyer
  | openCathub _ _ => Except CwError Keyer
  | initializeKeyer _ => Except CwError UInt8
  | setSpeed _ _ => Except CwError Unit
  | sendText _ _ => Except CwError Unit
  | clearBuffer _ => Except CwError Unit
  | isBusy _ => Except CwError Bool
  | close _ => Except CwError Unit
  | brokerStatus _ => Except CwError (Option BrokerDeviceStatus)
  | instantNow => ℕ

/-- A part of the worker. -/
abbrev CwProgram := Prog DeviceCmd DeviceCmd.Answer

/-- Make one call. -/
def device (c : DeviceCmd) : CwProgram c.Answer := Prog.call c

/-! ### The worker -/

/-- `CwWorker`, without its factories. -/
structure CwWorker where
  config : CwKeyerConfig
  activeSpeedWpm : ℕ
  keyer : Option Keyer
  firmwareRevision : Option UInt8
  lastError : Option String
  watchdogDeadline : Option ℕ

/-- `CwWorker::new`. -/
def CwWorker.new (config : CwKeyerConfig) : CwWorker where
  config := config
  activeSpeedWpm := config.defaultSpeedWpm
  keyer := none
  firmwareRevision := none
  lastError := none
  watchdogDeadline := none

/-- `CwCommand`. -/
inductive CwCommand where
  | sendText (text : String) (speedWpm : Option ℕ)
  | abort
  | setSpeed (speedWpm : ℕ)
  | status

/-- `CwKeyerStatus`. -/
structure CwKeyerStatus where
  backend : CwBackendKind
  available : Bool
  speedWpm : ℕ
  portName : Option String
  errorMessage : Option String
  transmitEnabled : Bool
  maxTxMs : ℕ
  firmwareRevision : Option UInt8
  brokerEndpoint : Option String
  potWpm : Option ℕ
  busy : Bool
  lastSafetyAction : Option String

/-- What the worker replies to a command. -/
inductive CwReply where
  | sendText (result : Except CwError Unit)
  | abort (result : Except CwError Unit)
  | setSpeed (result : Except CwError ℕ)
  | status (status : CwKeyerStatus)

namespace CwWorker

variable {α : Type}

/-- The factory call of `ensure_keyer`. -/
def create (w : CwWorker) : CwProgram (Except CwError Keyer) :=
  match w.config.backend with
  | .winkeyer =>
      match w.config.winkeyerPort with
      | none => return .error (.backendUnavailable "QSORIPPER_CW_WINKEYER_PORT is required")
      | some portName => device (.openWinkeyer portName w.config.winkeyerBaud)
  | .cathub => device (.openCathub w.config.cathubEndpoint w.config.cathubClientName)
  | _ => return .error (.backendUnavailable "selected backend does not create a WinKeyer device")

/-- `CwWorker::ensure_keyer`. -/
def ensureKeyer (w : CwWorker) : CwProgram (Except CwError Unit × CwWorker) := do
  if w.keyer.isSome then return (.ok (), w)
  match w.config.backend, w.config.winkeyerPort with
  | .winkeyer, none =>
      -- the missing port is returned before `last_error` is touched
      return (.error (.backendUnavailable "QSORIPPER_CW_WINKEYER_PORT is required"), w)
  | _, _ =>
      match ← w.create with
      | .error error => return (.error error, { w with lastError := some error.toText })
      | .ok keyer =>
          match ← device (.initializeKeyer keyer) with
          | .ok revision =>
              return (.ok (),
                { w with
                  firmwareRevision := some revision
                  lastError := none
                  keyer := some keyer })
          | .error error =>
              let _ ← device (.close keyer)
              return (.error error, { w with lastError := some error.toText })

/-- `CwWorker::with_keyer`: an operation that fails costs the connection. -/
def withKeyer (w : CwWorker) (operation : Keyer → CwProgram (Except CwError α)) :
    CwProgram (Except CwError α × CwWorker) := do
  let (ensured, w) ← w.ensureKeyer
  match ensured, w.keyer with
  | .error error, _ => return (.error error, w)
  | .ok (), none => return (.error (.backendUnavailable "WinKeyer is not connected"), w)
  | .ok (), some keyer =>
      match ← operation keyer with
      | .ok value => return (.ok value, { w with lastError := none, keyer := some keyer })
      | .error error =>
          let _ ← device (.close keyer)
          return (.error error,
            { w with lastError := some error.toText, keyer := none, firmwareRevision := none })

/-- `CwWorker::disconnect`. -/
def disconnect (w : CwWorker) : CwProgram CwWorker := do
  match w.keyer with
  | some keyer =>
      let _ ← device (.close keyer)
      return { w with keyer := none, firmwareRevision := none }
  | none => return { w with firmwareRevision := none }

/-- The device calls of `send_text`. -/
def keyText (speed : ℕ) (text : String) (keyer : Keyer) : CwProgram (Except CwError Unit) := do
  match ← device (.setSpeed keyer speed) with
  | .error error => return .error error
  | .ok () => device (.sendText keyer text)

/-- `Duration::from_millis` in nanoseconds. -/
def fromMillis (millis : ℕ) : ℕ := millis * 1000000

/-- What `send_text` says for the daemon. -/
def cwdaemonError : CwError :=
  .backendUnavailable "cwdaemon backend is reserved but not implemented"

/-- The part of `send_text` that keys real hardware. -/
def transmit (w : CwWorker) (text : String) (speed : ℕ) :
    CwProgram (Except CwError Unit × CwWorker) := do
  if !w.config.transmitEnabled then return (.error .transmitDisabled, w)
  let (keyed, w) ← w.withKeyer (keyText speed text)
  match keyed with
  | .error error => return (.error error, w)
  | .ok () =>
      let now ← device .instantNow
      return (.ok (),
        { w with
          activeSpeedWpm := speed
          watchdogDeadline := some (now + fromMillis w.config.maxTxMs) })

/-- `CwWorker::send_text`. -/
def sendText (w : CwWorker) (text : String) (speedWpm : Option ℕ) :
    CwProgram (Except CwError Unit × CwWorker) :=
  let speed := speedWpm.getD w.activeSpeedWpm
  match validateText text, validateSpeed speed with
  | .error error, _ => return (.error error, w)
  | .ok (), .error error => return (.error error, w)
  | .ok (), .ok () =>
      match w.config.backend with
      | .null => return (.ok (), { w with activeSpeedWpm := speed, lastError := none })
      | .winkeyer | .cathub => w.transmit text speed
      | .cwdaemon => return (.error cwdaemonError, w)

/-- `CwWorker::abort`: the watchdog is disarmed before the buffer is cleared. -/
def abort (w : CwWorker) : CwProgram (Except CwError Unit × CwWorker) :=
  let w := { w with watchdogDeadline := none }
  match w.config.backend with
  | .null => return (.ok (), w)
  | .winkeyer | .cathub => w.withKeyer fun keyer => device (.clearBuffer keyer)
  | .cwdaemon => return (.error cwdaemonError, w)

/-- `CwWorker::set_speed`. -/
def setSpeed (w : CwWorker) (speedWpm : ℕ) : CwProgram (Except CwError ℕ × CwWorker) := do
  match validateSpeed speedWpm with
  | .error error => return (.error error, w)
  | .ok () =>
      match w.config.backend with
      | .null => return (.ok speedWpm, { w with activeSpeedWpm := speedWpm, lastError := none })
      | .winkeyer | .cathub =>
          let (set, w) ← w.withKeyer fun keyer => device (.setSpeed keyer speedWpm)
          match set with
          | .error error => return (.error error, w)
          | .ok () => return (.ok speedWpm, { w with activeSpeedWpm := speedWpm, lastError := none })
      | .cwdaemon => return (.error cwdaemonError, w)

/-- Is the backend there? -/
def available (w : CwWorker) : CwProgram (Bool × CwWorker) := do
  match w.config.backend, w.config.winkeyerPort with
  | .null, _ => return (true, w)
  | .winkeyer, none =>
      return (false, { w with lastError := some "QSORIPPER_CW_WINKEYER_PORT is required" })
  | .winkeyer, some _ | .cathub, _ =>
      let (ensured, w) ← w.ensureKeyer
      return (ensured.isOk, w)
  | .cwdaemon, _ =>
      return (false, { w with lastError := some "cwdaemon backend is not implemented" })

/-- What the broker says of the keyer, if there is a broker. -/
def askBroker (w : CwWorker) (available : Bool) :
    CwProgram (Option BrokerDeviceStatus × CwWorker) := do
  if available && w.config.backend = .cathub then
    let (status, w) ← w.withKeyer fun keyer => device (.brokerStatus keyer)
    return (status.toOption.join, w)
  else return (none, w)

/-- `CwWorker::status`. -/
def status (w : CwWorker) : CwProgram (CwKeyerStatus × CwWorker) := do
  let (available, w) ← w.available
  let (broker, w) ← w.askBroker available
  return (
    { backend := w.config.backend
      available := available
      speedWpm := w.activeSpeedWpm
      portName := w.config.winkeyerPort
      errorMessage := w.lastError
      transmitEnabled := w.config.transmitEnabled
      maxTxMs := w.config.maxTxMs
      firmwareRevision := w.firmwareRevision
      brokerEndpoint := if w.config.backend = .cathub then some w.config.cathubEndpoint else none
      potWpm := broker.bind (·.potWpm)
      busy := broker.any (·.busy)
      lastSafetyAction := broker.bind (·.lastSafetyAction) }, w)

/-- `CwWorker::handle`, with the reply. -/
def handle (w : CwWorker) : CwCommand → CwProgram (CwReply × CwWorker)
  | .sendText text speedWpm => do
      let (result, w) ← w.sendText text speedWpm
      return (.sendText result, w)
  | .abort => do
      let (result, w) ← w.abort
      return (.abort result, w)
  | .setSpeed speedWpm => do
      let (result, w) ← w.setSpeed speedWpm
      return (.setSpeed result, w)
  | .status => do
      let (status, w) ← w.status
      return (.status status, w)

/-- What `last_error` says after the watchdog has cleared the buffer. -/
def ceilingMessage (maxTxMs : ℕ) : String :=
  "CW transmit safety ceiling reached after " ++ toString maxTxMs
    ++ " ms; WinKeyer buffer cleared"

/-- `CwWorker::expire_watchdog`. -/
def expireWatchdog (w : CwWorker) : CwProgram CwWorker := do
  let w := { w with watchdogDeadline := none }
  match w.keyer with
  | none => return w
  | some keyer =>
      match ← device (.isBusy keyer) with
      | .ok false => return { w with lastError := none }
      | .ok true =>
          match ← device (.clearBuffer keyer) with
          | .error error => disconnect { w with lastError := some error.toText }
          | .ok () => return { w with lastError := some (ceilingMessage w.config.maxTxMs) }
      | .error error => disconnect { w with lastError := some error.toText }

end CwWorker

end QsoRipper.Cw
