/-
QsoRipper/Rig/Rigctld.lean

The rigctld adapter.  A snapshot asks one command after another over a cached
connection and reads the lines of each reply; a transport failure or a timeout
discards the connection and is retried once, a reply that cannot be parsed is
not.

Everything that waits is a command of the program: connecting, writing, reading
one line.
-/
import QsoRipper.Lib.Fallible
import QsoRipper.Lib.Float64
import QsoRipper.Lib.Number
import QsoRipper.Lib.Text

namespace QsoRipper.Rig

open Interaction

/-! ### Errors -/

/-- `RigControlProviderErrorKind`. -/
inductive RigControlProviderErrorKind where
  | disabled
  | transport
  | parse
  | timeout
deriving DecidableEq, Repr

/-- `RigControlProviderError`. -/
structure RigControlProviderError where
  kind : RigControlProviderErrorKind
  message : String
deriving DecidableEq, Repr

/-- `is_retryable`. -/
def RigControlProviderError.isRetryable (error : RigControlProviderError) : Bool :=
  error.kind = .transport || error.kind = .timeout

/-! ### Commands -/

/-- The commands of the rigctld protocol that are used. -/
inductive RigctldCommand where
  | frequency
  | mode
  | split
  | splitFrequency
  | splitMode
  | rfPower
  | powerConversion (relativePower : String) (frequencyHz : ℕ) (rawMode : String)
deriving DecidableEq

/-- What is written. -/
def RigctldCommand.text : RigctldCommand → String
  | frequency => "f\n"
  | mode => "m\n"
  | split => "s\n"
  | splitFrequency => "i\n"
  | splitMode => "x\n"
  | rfPower => "l RFPOWER\n"
  | powerConversion relativePower frequencyHz rawMode =>
      "2 " ++ relativePower ++ " " ++ toString frequencyHz ++ " " ++ rawMode ++ "\n"

/-- The name of a command in an error. -/
def RigctldCommand.label : RigctldCommand → String
  | frequency => "frequency"
  | mode => "mode"
  | split => "split"
  | splitFrequency => "split frequency"
  | splitMode => "split mode"
  | rfPower => "RF power"
  | powerConversion .. => "power conversion"

/-- The lines of a complete reply. -/
def RigctldCommand.replyLines : RigctldCommand → ℕ
  | mode | split | splitMode => 2
  | frequency | splitFrequency | rfPower | powerConversion .. => 1

/-! ### What a snapshot does -/

/-- What reading a line comes to. -/
inductive LineRead where
  | line (line : String)
  | timedOut
  | failed (error : String)
  /-- No byte was read. -/
  | closed
deriving DecidableEq

/-- The commands of the program. -/
inductive RigCmd where
  /-- `connection.is_none()`, the other way round. -/
  | isConnected
  /-- `self.connect()`, put into `connection`. -/
  | connect
  | writeAll (command : RigctldCommand)
  | readLine
  /-- `connection.take()`. -/
  | take

/-- Why a connection is not made. -/
inductive ConnectFailure where
  | timedOut (message : String)
  | failed (message : String)
deriving DecidableEq

/-- Its error. -/
def ConnectFailure.error : ConnectFailure → RigControlProviderError
  | timedOut message => ⟨.timeout, message⟩
  | failed message => ⟨.transport, message⟩

/-- What a command is answered. -/
abbrev RigCmd.Answer : RigCmd → Type
  | .isConnected => Bool
  | .connect => Except ConnectFailure Unit
  | .writeAll _ => Except String Unit
  | .readLine => LineRead
  | .take => Unit

/-- A program of the adapter. -/
abbrev RigProgram := Fallible RigCmd RigCmd.Answer RigControlProviderError

/-- Issue one command. -/
def ask (c : RigCmd) : RigProgram c.Answer := monadLift (Prog.call c : Prog RigCmd RigCmd.Answer _)

/-- Text and arithmetic of `f64`, as far as power levels go. -/
structure PowerText where
  /-- `str::parse::<f64>`. -/
  parse : String → Option Float64
  /-- `Display`. -/
  display : Float64 → String
  /-- `f64::from(milliwatts) / 1_000.0`. -/
  watts : ℕ → Float64

/-- `(0.0..=1.0).contains`: a zero, or positive and with bits up to those of one. -/
def isRelative (power : Float64) : Bool :=
  power.isZero || decide (power.bits.toNat ≤ 0x3FF0000000000000)

/-- `RigState`. -/
structure RigState where
  frequencyHz : ℕ
  rawMode : String
  frequencyRxHz : Option ℕ
  txPowerWatts : Option Float64

/-- `write_all`, with its error. -/
def writeAll (command : RigctldCommand) : RigProgram Unit := do
  match ← ask (.writeAll command) with
  | .ok () => return
  | .error error =>
      throw ⟨.transport, "Failed to send " ++ command.label ++ " command: " ++ error⟩

/-- A line by which rigctld reports an error. -/
def isRprt (line : String) : Bool := Text.startsWith (Text.trim line) "RPRT"

/-- `read_line_with_timeout`. -/
def readLineWithTimeout : RigProgram String := do
  match ← ask .readLine with
  | .timedOut => throw ⟨.timeout, "Timed out reading from rigctld"⟩
  | .failed error => throw ⟨.transport, "Failed to read from rigctld: " ++ error⟩
  | .closed => throw ⟨.transport, "rigctld closed the connection"⟩
  | .line line =>
      if isRprt line then throw ⟨.parse, "rigctld error: " ++ Text.trim line⟩
      else return Text.trim line

/-- `read_optional_line`. -/
def readOptionalLine : RigProgram (Option String) :=
  ExceptT.mk do
    match ← readLineWithTimeout.run with
    | .ok line => return .ok (some line)
    | .error error => if error.kind = .parse then return .ok none else return .error error

/-- `parse_frequency`; the text of the underlying error is left out. -/
def parseFrequency (line : String) : RigProgram ℕ :=
  match Text.parseUnsigned (2 ^ 64) (Text.trim line) with
  | some frequencyHz => return frequencyHz
  | none => throw ⟨.parse, "Invalid frequency value '" ++ line ++ "'"⟩

/-- `read_optional_split_state`. -/
def readOptionalSplitState : RigProgram (Option (ℕ × Option String)) := do
  writeAll .split
  let some splitLine ← readOptionalLine | return none
  let some _ ← readOptionalLine | return none
  if splitLine ≠ "1" then return none
  writeAll .splitFrequency
  let some frequencyLine ← readOptionalLine | return none
  let some frequencyHz := Text.parseUnsigned (2 ^ 64) frequencyLine | return none
  writeAll .splitMode
  let splitMode ← readOptionalLine
  if splitMode.isSome then
    let _ ← readLineWithTimeout
  return some (frequencyHz, splitMode)

/-- `read_optional_tx_power`. -/
def readOptionalTxPower (text : PowerText) (frequencyHz : ℕ) (rawMode : String) :
    RigProgram (Option Float64) := do
  writeAll .rfPower
  let some relativeLine ← readOptionalLine | return none
  let some relativePower := text.parse relativeLine | return none
  if !relativePower.isFinite || !isRelative relativePower then return none
  writeAll (.powerConversion (text.display relativePower) frequencyHz rawMode)
  let some milliwattsLine ← readOptionalLine | return none
  let some milliwatts := Text.parseUnsigned (2 ^ 32) milliwattsLine | return none
  return some (text.watts milliwatts)

/-- `read_rig_state_on_connection`. -/
def readRigStateOnConnection (text : PowerText) : RigProgram RigState := do
  writeAll .frequency
  let freqLine ← readLineWithTimeout
  let frequencyHz ← parseFrequency freqLine
  writeAll .mode
  let modeLine ← readLineWithTimeout
  let _ ← readLineWithTimeout
  let split ← readOptionalSplitState
  let (txFrequencyHz, txMode, frequencyRxHz) :=
    match split with
    | none => (frequencyHz, modeLine, none)
    | some (splitFrequencyHz, splitMode) =>
        (splitFrequencyHz, splitMode.getD modeLine, some frequencyHz)
  let txPowerWatts ← readOptionalTxPower text txFrequencyHz txMode
  return ⟨txFrequencyHz, txMode, frequencyRxHz, txPowerWatts⟩

/-- One round of the loop of `read_rig_state`, with what follows once a connection
has been discarded. -/
def readRound (text : PowerText) (discarded : RigControlProviderError → RigProgram RigState) :
    RigProgram RigState := do
  if !(← ask .isConnected) then
    match ← ask .connect with
    | .ok () => pure ()
    | .error failure => throw failure.error
  ExceptT.mk do
    match ← (readRigStateOnConnection text).run with
    | .ok state => return .ok state
    | .error error =>
        if error.isRetryable then
          Prog.call RigCmd.take
          (discarded error).run
        else return .error error

/-- `read_rig_state`: two rounds. -/
def readRigState (text : PowerText) : RigProgram RigState :=
  readRound text fun _ => readRound text throw

/-- `get_snapshot`, up to the mapping of band and mode. -/
def getSnapshot (text : PowerText) : RigProgram RigState := readRigState text

end QsoRipper.Rig
