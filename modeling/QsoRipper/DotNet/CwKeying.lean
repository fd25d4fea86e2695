/-
QsoRipper/DotNet/CwKeying.lean

The CW controller of the managed engine.  Commands run in the caller, one after
another under the gate; a timer calls back when text has been on the keyer for
the maximum transmit time.

The settings, the status and the broker's report have the fields of the Rust
engine's and are taken from there.
-/
import QsoRipper.Cw.Worker
import QsoRipper.Lib.NetText

namespace QsoRipper.DotNet

open Interaction
open Cw (CwBackendKind CwKeyerConfig CwKeyerStatus BrokerDeviceStatus Keyer)

/-! ### Exceptions -/

/-- What a command may throw. -/
inductive CwException where
  | argument (message : String)
  | argumentOutOfRange (message : String)
  | invalidOperation (message : String)
  | objectDisposed
  | io (message : String)
  /-- Neither an `InvalidOperationException` nor an `IOException`. -/
  | other (message : String)
deriving DecidableEq, Repr

/-- `Exception.Message`. -/
def CwException.message : CwException → String
  | argument message | argumentOutOfRange message | invalidOperation message | io message
  | other message => message
  | objectDisposed => "Cannot access a disposed object."

/-- `error is InvalidOperationException or IOException`; a disposed object is the
former. -/
def CwException.isDeviceError : CwException → Bool
  | invalidOperation _ | objectDisposed | io _ => true
  | _ => false

/-- `ManagedCwKeyerConfig.ValidateSpeed`. -/
def validateCwSpeed (speedWpm : ℕ) : Except CwException Unit :=
  if speedWpm < 5 ∨ speedWpm > 99 then
    .error (.argumentOutOfRange "CW speed must be between 5 and 99 WPM.")
  else .ok ()

/-- `ManagedCwController.ValidateText`: the units are those of UTF-16. -/
def validateCwText (text : String) : Except CwException Unit :=
  if text.isEmpty then .error (.argument "CW text must not be empty.")
  else
    match (NetText.utf16 text).find? (decide <| · > 0x7F) with
    | some nonAscii =>
        .error (.argument
          ("CW text contains non-ASCII character '" ++ String.singleton (Char.ofNat nonAscii)
            ++ "'."))
    | none => .ok ()

/-! ### The calls of the controller -/

/-- The two factories, `IManagedWinkeyerPort` and `IManagedCwWatchdog`. -/
inductive CwCmd where
  | portFactory (portName : String) (baudRate : ℕ)
  | cathubFactory (endpoint clientName : String)
  | initializeKeyer (keyer : Keyer)
  | setSpeed (keyer : Keyer) (speedWpm : ℕ)
  | sendText (keyer : Keyer) (text : String)
  | clearBuffer (keyer : Keyer)
  | isBusy (keyer : Keyer)
  | closeHostMode (keyer : Keyer)
  | getBrokerStatus (keyer : Keyer)
  | disposeKeyer (keyer : Keyer)
  | watchdogFactory
  | arm (dueTimeMs : ℕ)
  | cancel
  | disposeWatchdog
deriving DecidableEq, Repr

/-- What they are answered. -/
abbrev CwCmd.Answer : CwCmd → Type
  | portFactory _ _ | cathubFactory _ _ => Except CwException Keyer
  | initializeKeyer _ => Except CwException UInt8
  | setSpeed _ _ | sendText _ _ | clearBuffer _ | closeHostMode _ | disposeKeyer _ =>
      Except CwException Unit
  | isBusy _ => Except CwException Bool
  | getBrokerStatus _ => Except CwException (Option BrokerDeviceStatus)
  | watchdogFactory | arm _ | cancel | disposeWatchdog => Unit

/-- A part of the controller. -/
abbrev CwProgram := Prog CwCmd CwCmd.Answer

/-- Make one call. -/
def bench (c : CwCmd) : CwProgram c.Answer := Prog.call c

/-! ### The controller -/

/-- `ManagedCwController`, without its factories and its gate. -/
structure ManagedCwController where
  config : CwKeyerConfig
  keyer : Option Keyer
  /-- Has `_watchdog` been made? -/
  watchdog : Bool
  activeSpeedWpm : ℕ
  firmwareRevision : Option UInt8
  lastError : Option String
  disposed : Bool

/-- `new ManagedCwController(config)`. -/
def ManagedCwController.new (config : CwKeyerConfig) : ManagedCwController where
  config := config
  keyer := none
  watchdog := false
  activeSpeedWpm := config.defaultSpeedWpm
  firmwareRevision := none
  lastError := none
  disposed := false

/-- What a method returns or throws, and the controller afterwards. -/
abbrev CwResult (α : Type) := Except CwException α × ManagedCwController

namespace ManagedCwController

variable {α : Type}

/-- `ThrowIfDisposed`, and then the rest. -/
def unlessDisposed (c : ManagedCwController) (rest : CwProgram (CwResult α)) :
    CwProgram (CwResult α) :=
  if c.disposed then return (.error .objectDisposed, c) else rest

/-- What the backend that is reserved throws. -/
def reservedError : CwException :=
  .invalidOperation "cwdaemon backend is reserved but not implemented."

/-- The `finally` block of `Disconnect`, and what is thrown behind it. -/
def release (c : ManagedCwController) (keyer : Keyer) (thrown : Except CwException Unit) :
    CwProgram (CwResult Unit) := do
  match ← bench (.disposeKeyer keyer) with
  | .error error => return (.error error, c)
  | .ok () => return (thrown, { c with keyer := none, firmwareRevision := none })

/-- `Disconnect`. -/
def disconnect (c : ManagedCwController) : CwProgram (CwResult Unit) := do
  match c.keyer with
  | none => return (.ok (), c)
  | some keyer =>
      match ← bench (.closeHostMode keyer) with
      | .ok () => c.release keyer (.ok ())
      | .error error =>
          if error.isDeviceError then
            release { c with lastError := c.lastError.or (some error.message) } keyer (.ok ())
          else c.release keyer (.error error)

/-- The factory call of `EnsureConnected`. -/
def create (c : ManagedCwController) : CwProgram (Except CwException Keyer) :=
  match c.config.backend with
  | .winkeyer =>
      if NetText.isNullOrWhiteSpace c.config.winkeyerPort then
        return .error (.invalidOperation "QSORIPPER_CW_WINKEYER_PORT is required.")
      else bench (.portFactory (c.config.winkeyerPort.getD "") c.config.winkeyerBaud)
  | .cathub => bench (.cathubFactory c.config.cathubEndpoint c.config.cathubClientName)
  | .null => return .error (.invalidOperation "Backend 'Null' has no hardware connection.")
  | .cwdaemon => return .error (.invalidOperation "Backend 'Cwdaemon' has no hardware connection.")

/-- `EnsureConnected`. -/
def ensureConnected (c : ManagedCwController) : CwProgram (CwResult Unit) := do
  if c.keyer.isSome then return (.ok (), c)
  match ← c.create with
  | .error error => return (.error error, c)
  | .ok keyer =>
      match ← bench (.initializeKeyer keyer) with
      | .ok revision =>
          return (.ok (),
            { c with firmwareRevision := some revision, keyer := some keyer, lastError := none })
      | .error error =>
          match ← bench (.disposeKeyer keyer) with
          | .error error => return (.error error, c)
          | .ok () => return (.error error, c)

/-- The handler of a device error: the connection is given up. -/
def deviceError (c : ManagedCwController) (error : CwException) (thrown : Except CwException α) :
    CwProgram (CwResult α) := do
  let (disconnected, c) ← disconnect { c with lastError := some error.message }
  match disconnected with
  | .error error => return (.error error, c)
  | .ok () => return (thrown, c)

/-- `ExecuteKeyer`: an operation that fails costs the connection. -/
def executeKeyer (c : ManagedCwController)
    (operation : Keyer → CwProgram (Except CwException Unit)) : CwProgram (CwResult Unit) := do
  let (ensured, c) ← c.ensureConnected
  match ensured, c.keyer with
  | .error error, _ => return (.error error, c)
  | .ok (), none => return (.error (.other "null reference"), c)
  | .ok (), some keyer =>
      match ← operation keyer with
      | .ok () => return (.ok (), { c with lastError := none })
      | .error error =>
          if error.isDeviceError then c.deviceError error (.error error)
          else return (.error error, c)

/-- The device calls of `SendText`. -/
def keyText (speed : ℕ) (text : String) (keyer : Keyer) :
    CwProgram (Except CwException Unit) := do
  match ← bench (.setSpeed keyer speed) with
  | .error error => return .error error
  | .ok () => bench (.sendText keyer text)

/-- `ArmWatchdog`. -/
def armWatchdog (c : ManagedCwController) : CwProgram ManagedCwController := do
  if !c.watchdog then bench .watchdogFactory
  bench (.arm c.config.maxTxMs)
  return { c with watchdog := true }

/-- The part of `SendText` that keys real hardware. -/
def transmit (c : ManagedCwController) (text : String) (speed : ℕ) :
    CwProgram (CwResult Unit) := do
  if !c.config.transmitEnabled then
    return (.error (.invalidOperation
      "CW hardware transmission is disabled; set QSORIPPER_CW_TRANSMIT_ENABLED=true to enable it."),
      c)
  let (keyed, c) ← c.executeKeyer (keyText speed text)
  match keyed with
  | .error error => return (.error error, c)
  | .ok () =>
      let c ← armWatchdog { c with activeSpeedWpm := speed }
      return (.ok (), c)

/-- `SendText`. -/
def sendText (c : ManagedCwController) (text : String) (speedWpm : Option ℕ) :
    CwProgram (CwResult Unit) :=
  match validateCwText text with
  | .error error => return (.error error, c)
  | .ok () =>
      c.unlessDisposed
        (let speed := speedWpm.getD c.activeSpeedWpm
        match validateCwSpeed speed with
        | .error error => return (.error error, c)
        | .ok () =>
            match c.config.backend with
            | .null => return (.ok (), { c with activeSpeedWpm := speed, lastError := none })
            | .winkeyer | .cathub => c.transmit text speed
            | .cwdaemon => return (.error reservedError, c))

/-- `Abort`: the watchdog is cancelled before the buffer is cleared. -/
def abort (c : ManagedCwController) : CwProgram (CwResult Unit) :=
  c.unlessDisposed do
    if c.watchdog then bench .cancel
    match c.config.backend with
    | .null => return (.ok (), c)
    | .winkeyer | .cathub => c.executeKeyer fun keyer => bench (.clearBuffer keyer)
    | .cwdaemon => return (.error reservedError, c)

/-- `SetSpeed`. -/
def setSpeed (c : ManagedCwController) (speedWpm : ℕ) : CwProgram (CwResult Unit) :=
  match validateCwSpeed speedWpm with
  | .error error => return (.error error, c)
  | .ok () =>
      c.unlessDisposed
        (match c.config.backend with
        | .null => return (.ok (), { c with activeSpeedWpm := speedWpm, lastError := none })
        | .winkeyer | .cathub => do
            let (set, c) ← c.executeKeyer fun keyer => bench (.setSpeed keyer speedWpm)
            match set with
            | .error error => return (.error error, c)
            | .ok () => return (.ok (), { c with activeSpeedWpm := speedWpm, lastError := none })
        | .cwdaemon => return (.error reservedError, c))

/-- `ProbeWinkeyer`. -/
def probeWinkeyer (c : ManagedCwController) : CwProgram (CwResult Bool) := do
  let (ensured, c) ← c.ensureConnected
  match ensured with
  | .ok () => return (.ok true, c)
  | .error error =>
      if error.isDeviceError then c.deviceError error (.ok false) else return (.error error, c)

/-- Is the backend there? -/
def available (c : ManagedCwController) : CwProgram (CwResult Bool) :=
  match c.config.backend with
  | .null => return (.ok true, c)
  | .winkeyer | .cathub => c.probeWinkeyer
  | .cwdaemon =>
      return (.ok false, { c with lastError := some "cwdaemon backend is not implemented." })

/-- What the broker says of the keyer; a failing request is thrown. -/
def askBroker (c : ManagedCwController) :
    CwProgram (Except CwException (Option BrokerDeviceStatus)) :=
  match c.config.backend, c.keyer with
  | .cathub, some keyer => bench (.getBrokerStatus keyer)
  | _, _ => return .ok none

/-- The status that is answered. -/
def report (c : ManagedCwController) (available : Bool) (broker : Option BrokerDeviceStatus) :
    CwKeyerStatus where
  backend := c.config.backend
  available := available
  speedWpm := c.activeSpeedWpm
  portName := c.config.winkeyerPort
  errorMessage := c.lastError
  transmitEnabled := c.config.transmitEnabled
  maxTxMs := c.config.maxTxMs
  firmwareRevision := c.firmwareRevision
  brokerEndpoint := if c.config.backend = .cathub then some c.config.cathubEndpoint else none
  potWpm := broker.bind (·.potWpm)
  busy := broker.any (·.busy)
  lastSafetyAction :=
    broker.bind fun status =>
      if NetText.isNullOrWhiteSpace status.lastSafetyAction then none else status.lastSafetyAction

/-- `Status`. -/
def status (c : ManagedCwController) : CwProgram (CwResult CwKeyerStatus) :=
  c.unlessDisposed do
    let (available, c) ← c.available
    match available with
    | .error error => return (.error error, c)
    | .ok available =>
        match ← c.askBroker with
        | .error error => return (.error error, c)
        | .ok broker => return (.ok (c.report available broker), c)

/-- `Dispose`. -/
def dispose (c : ManagedCwController) : CwProgram (CwResult Unit) := do
  if c.disposed then return (.ok (), c)
  if c.watchdog then bench .disposeWatchdog
  disconnect { c with disposed := true, watchdog := false }

/-- What `_lastError` says after the watchdog has cleared the buffer. -/
def ceilingMessage (maxTxMs : ℕ) : String :=
  "CW transmit safety ceiling reached after " ++ toString maxTxMs
    ++ " ms; WinKeyer buffer cleared."

/-- The `catch` of `ExpireWatchdog`. -/
def expireError (c : ManagedCwController) (error : CwException) : CwProgram (CwResult Unit) :=
  if error.isDeviceError then c.deviceError error (.ok ()) else return (.error error, c)

/-- `ExpireWatchdog`. -/
def expireWatchdog (c : ManagedCwController) : CwProgram (CwResult Unit) := do
  if c.disposed then return (.ok (), c)
  match c.keyer with
  | none => return (.ok (), c)
  | some keyer =>
      match ← bench (.isBusy keyer) with
      | .error error => c.expireError error
      | .ok false => return (.ok (), { c with lastError := none })
      | .ok true =>
          match ← bench (.clearBuffer keyer) with
          | .error error => c.expireError error
          | .ok () =>
              return (.ok (), { c with lastError := some (ceilingMessage c.config.maxTxMs) })

end ManagedCwController

/-- The commands of the controller's callers. -/
inductive CwCall where
  | sendText (text : String) (speedWpm : Option ℕ)
  | abort
  | setSpeed (speedWpm : ℕ)
  | status
  | dispose

/-- A command under the gate. -/
def ManagedCwController.serve (c : ManagedCwController) :
    CwCall → CwProgram ManagedCwController
  | .sendText text speedWpm => Prod.snd <$> c.sendText text speedWpm
  | .abort => Prod.snd <$> c.abort
  | .setSpeed speedWpm => Prod.snd <$> c.setSpeed speedWpm
  | .status => Prod.snd <$> c.status
  | .dispose => Prod.snd <$> c.dispose

end QsoRipper.DotNet
