/-
QsoRipper/Gui/Logger.lean

`QsoLoggerViewModel`: the panel a contact is typed into.  Its fields follow the
keys, the radio, the lookups of the callsign and the answers of the engine; a
save sends what they hold.

All of it runs on the UI thread, so what lies between two awaits is one step.
What is only shown (the elapsed time, the status texts, the looked-up name
beside the callsign) is left out.
-/
import QsoRipper.Lib.NetText
import QsoRipper.Domain.Record

namespace QsoRipper.Gui

/-! ### Bands and modes -/

/-- `BandOption`; the default frequency in Hz. -/
structure BandOption where
  protoBand : Band
  defaultFrequencyHz : ℕ

/-- `OperatorOptions.Bands`. -/
def bands : List BandOption :=
  [⟨.band160m, 1900000⟩, ⟨.band80m, 3750000⟩, ⟨.band60m, 5330000⟩, ⟨.band40m, 7150000⟩,
    ⟨.band30m, 10125000⟩, ⟨.band20m, 14225000⟩, ⟨.band17m, 18100000⟩, ⟨.band15m, 21200000⟩,
    ⟨.band12m, 24940000⟩, ⟨.band10m, 28400000⟩, ⟨.band6m, 50125000⟩, ⟨.band2m, 146520000⟩,
    ⟨.band70cm, 446000000⟩]

/-- `ModeOption`. -/
structure ModeOption where
  protoMode : Mode
  submode : Option String := none
  defaultRst : String

/-- `OperatorOptions.Modes`. -/
def modes : List ModeOption :=
  [⟨.ssb, none, "59"⟩, ⟨.cw, none, "599"⟩, ⟨.ft8, none, "599"⟩, ⟨.mfsk, some "FT4", "599"⟩,
    ⟨.rtty, none, "599"⟩, ⟨.psk, some "PSK31", "599"⟩, ⟨.am, none, "59"⟩, ⟨.fm, none, "59"⟩]

/-- A place in `OperatorOptions.Bands`. -/
abbrev BandIndex := Fin bands.length

/-- A place in `OperatorOptions.Modes`. -/
abbrev ModeIndex := Fin modes.length

/-- `(i + 1) % n`. -/
def next {n : ℕ} (i : Fin n) : Fin n := ⟨(i + 1) % n, Nat.mod_lt _ i.pos⟩

/-- `(i - 1 + n) % n`. -/
def previous {n : ℕ} (i : Fin n) : Fin n := ⟨(i + n - 1) % n, Nat.mod_lt _ i.pos⟩

/-- 20 m. -/
def BandIndex.initial : BandIndex := ⟨5, by decide⟩

/-- SSB. -/
def ModeIndex.initial : ModeIndex := ⟨0, by decide⟩

/-- `OperatorOptions.FindBandIndex`. -/
def findBandIndex (band : ℤ) : BandIndex :=
  ((List.finRange bands.length).find? fun i => (bands.get i).protoBand.toI32 == band).getD
    ⟨0, by decide⟩

/-- `string.Equals(a, b, StringComparison.OrdinalIgnoreCase)`. -/
def equalsIgnoreCase : Option String → Option String → Bool
  | some a, some b => NetText.equalsIgnoreCase a b
  | none, none => true
  | _, _ => false

/-- `OperatorOptions.FindModeIndex`. -/
def findModeIndex (mode : ℤ) (submode : Option String) : ModeIndex :=
  let places := List.finRange modes.length
  ((places.find? fun i =>
      (modes.get i).protoMode.toI32 == mode
        && equalsIgnoreCase (modes.get i).submode submode).or
    (places.find? fun i => (modes.get i).protoMode.toI32 == mode)).getD ⟨0, by decide⟩

/-! ### Texts -/

/-- How .NET writes and reads the numbers of a contact. -/
structure NumberTexts where
  /-- `double.ToString("0.###", CultureInfo.InvariantCulture)`. -/
  powerText : Float64 → String
  /-- The second half of `FrequencyFormatter.TryParseMhzToHz`, on a trimmed text:
  `decimal.TryParse` and the rounding to Hz. -/
  decimalHz : String → Option ℕ

/-- `{n:000}`. -/
def threeDigits (n : ℕ) : String := "".pushn '0' (3 - (toString n).length) ++ toString n

/-- `FrequencyFormatter.FormatMhz`. -/
def formatMhz (hz : ℕ) : String :=
  toString (hz / 1000000) ++ "." ++ threeDigits (hz % 1000000 / 1000) ++ "." ++
    threeDigits (hz % 1000)

/-- `ulong.TryParse(…, NumberStyles.None, …)`. -/
def parseDigits (s : String) : Option ℕ :=
  if s.isEmpty then none
  else if s.toList.all Char.isDigit then
    let value := Nat.ofDigits 10 (s.toList.reverse.map fun c => c.toNat - 48)
    if value < 2 ^ 64 then some value else none
  else none

/-- `FrequencyFormatter.TryParseRadioStyle`. -/
def tryParseRadioStyle (value : String) : Option ℕ :=
  match (value.toList.splitOn '.').map String.ofList with
  | [whole, thousands, units] => do
      let mhz ← parseDigits whole
      let khz ← parseDigits thousands
      let fractionalHz ← parseDigits units
      if 3 < units.length ∨ 999 < khz ∨ 999 < fractionalHz then none
      else
        let fractionalHz := if units.length ≤ 2 then fractionalHz * 10 else fractionalHz
        let remainder := khz * 1000 + fractionalHz
        if (2 ^ 64 - 1 - remainder) / 1000000 < mhz then none
        else
          let hz := mhz * 1000000 + remainder
          if 0 < hz then some hz else none
  | _ => none

/-- `FrequencyFormatter.TryParseMhzToHz`. -/
def tryParseMhzToHz (texts : NumberTexts) (value : String) : Option ℕ :=
  let normalized := Text.trim value
  if NetText.isWhiteSpace normalized then none
  else (tryParseRadioStyle normalized).or (texts.decimalHz normalized)

/-- `(hz + 500) / 1000`, on `ulong`. -/
def toKhz (hz : ℕ) : ℕ := (hz + 500) % 2 ^ 64 / 1000

/-- `ParseRst`. -/
def parseRst (value : String) : RstReport :=
  match value.toList with
  | [r, s] =>
      if r.isDigit && s.isDigit then
        { readability := some (r.toNat - 48), strength := some (s.toNat - 48), raw := value }
      else { raw := value }
  | [r, s, t] =>
      if r.isDigit && s.isDigit && t.isDigit then
        { readability := some (r.toNat - 48), strength := some (s.toNat - 48)
          tone := some (t.toNat - 48), raw := value }
      else { raw := value }
  | _ => { raw := value }

/-- A text that is sent if it is not blank. -/
def sentText (value : String) : Option String :=
  if NetText.isWhiteSpace value then none else some (Text.trim value)

/-! ### What comes from outside -/

/-- `CallsignRecord`, the fields a contact takes. -/
structure CallsignRecord where
  callsign : String := ""
  crossRef : String := ""
  baseCallsign : String := ""
  firstName : String := ""
  lastName : String := ""
  formattedName : String := ""
  gridSquare : String := ""
  country : String := ""
  dxccEntityId : ℕ := 0
  state : String := ""
  cqZone : Option ℕ := none
  ituZone : Option ℕ := none
  county : String := ""
  iota : String := ""
  dxccCountryName : String := ""
  dxccContinent : String := ""
  deriving DecidableEq

/-- `RigSnapshot`. -/
structure RigSnapshot where
  connected : Bool
  frequencyHz : ℕ := 0
  band : ℤ := 0
  mode : ℤ := 0
  submode : String := ""
  frequencyRxHz : Option ℕ := none
  bandRx : ℤ := 0
  txPowerWatts : Option Float64 := none
  deriving DecidableEq

/-- What a lookup answers: found, with or without a record; anything else; or an error. -/
inductive LookupOutcome where
  | found (record : Option CallsignRecord)
  | notFound
  | failed
  deriving DecidableEq

/-- The aggregators of the CW decoder: the rounded mean speed over a window of time, where it
is finite and positive, and the transcript. -/
structure CwDecoder where
  meanWpm : Timestamp → Timestamp → Option ℕ
  transcript : Timestamp → Timestamp → Option String

/-! ### The panel -/

/-- A `DebouncedLookupAsync` under way: waiting, then asked. -/
structure LookupTask where
  callsign : String
  asked : Bool := false
  cancelled : Bool := false
  deriving DecidableEq

/-- `QsoLoggerViewModel`. -/
structure LoggerState where
  callsign : String := ""
  selectedBandIndex : BandIndex := BandIndex.initial
  selectedModeIndex : ModeIndex := ModeIndex.initial
  rstSent : String := "59"
  rstRcvd : String := "59"
  frequencyMhz : String := "14.225.000"
  comment : String := ""
  notes : String := ""
  contestId : String := ""
  exchangeSent : String := ""
  frequencyManuallySet : Bool := false
  rstManuallySet : Bool := false
  bandManuallySet : Bool := false
  modeManuallySet : Bool := false
  rigFrequencyRxHz : Option ℕ := none
  rigBandRx : ℤ := 0
  rigTxPowerWatts : Option Float64 := none
  lastLookupRecord : Option CallsignRecord := none
  /-- `_qsoStartTime`, while `_timerRunning`. -/
  timer : Option Timestamp := none
  /-- The lookups that were started, the latest first; `_lookupCts` is that of the first. -/
  lookups : List LookupTask := []
  /-- `LogQsoCommand` is running, and does not start again until it is done. -/
  logging : Bool := false

namespace LoggerState

/-- `OnSelectedBandIndexChanged`. -/
def onSelectedBandIndexChanged (s : LoggerState) : LoggerState :=
  if s.frequencyManuallySet then s
  else { s with frequencyMhz := formatMhz (bands.get s.selectedBandIndex).defaultFrequencyHz }

/-- The setter of `SelectedBandIndex`: it notifies only of a change. -/
def setSelectedBandIndex (s : LoggerState) (value : BandIndex) : LoggerState :=
  if s.selectedBandIndex = value then s
  else onSelectedBandIndexChanged { s with selectedBandIndex := value }

/-- `OnSelectedModeIndexChanged`. -/
def onSelectedModeIndexChanged (s : LoggerState) : LoggerState :=
  if s.rstManuallySet then s
  else
    let defaultRst := (modes.get s.selectedModeIndex).defaultRst
    { s with rstSent := defaultRst, rstRcvd := defaultRst }

/-- The setter of `SelectedModeIndex`. -/
def setSelectedModeIndex (s : LoggerState) (value : ModeIndex) : LoggerState :=
  if s.selectedModeIndex = value then s
  else onSelectedModeIndexChanged { s with selectedModeIndex := value }

/-- `_lookupCts?.Cancel()`. -/
def cancelLookup (s : LoggerState) : LoggerState :=
  { s with
    lookups :=
      match s.lookups with
      | [] => []
      | lookup :: older => { lookup with cancelled := true } :: older }

/-- `ClearLookupFields`. -/
def clearLookupFields (s : LoggerState) : LoggerState := { s with lastLookupRecord := none }

/-- `OnCallsignChanged`, of a callsign in capitals. -/
def onCallsignChanged (s : LoggerState) : LoggerState :=
  let s := if NetText.isWhiteSpace s.callsign then { s with timer := none } else s
  let s := s.cancelLookup
  let trimmed := Text.trim s.callsign
  if (NetText.utf16 trimmed).length < 3 then s.clearLookupFields
  else { s with lookups := { callsign := trimmed } :: s.lookups }

/-- The setter of `Callsign`.  A text that is not in capitals is set once more, in capitals. -/
def setCallsign (s : LoggerState) (value : String) : LoggerState :=
  if s.callsign = value then s
  else onCallsignChanged { s with callsign := NetText.toUpperInvariant value }

/-- `Clear`. -/
def clear (s : LoggerState) : LoggerState :=
  let s := s.cancelLookup.setCallsign ""
  let s := { s with comment := "", notes := "", contestId := "", exchangeSent := "" }
  let s := s.clearLookupFields
  let s :=
    { s with
      frequencyManuallySet := false
      rstManuallySet := false
      bandManuallySet := false
      modeManuallySet := false }
  let s := (s.setSelectedBandIndex BandIndex.initial).setSelectedModeIndex ModeIndex.initial
  { s with timer := none }

/-- Is a power not negative? -/
def nonNegative (x : Float64) : Bool := !x.bits.msb || x.isZero

/-- The band of a rig snapshot. -/
def applyRigBand (s : LoggerState) (snapshot : RigSnapshot) : LoggerState :=
  if !s.bandManuallySet && snapshot.band != Band.unspecified.toI32 then
    s.setSelectedBandIndex (findBandIndex snapshot.band)
  else s

/-- The mode of a rig snapshot. -/
def applyRigMode (s : LoggerState) (snapshot : RigSnapshot) : LoggerState :=
  if !s.modeManuallySet && snapshot.mode != Mode.unspecified.toI32 then
    s.setSelectedModeIndex (findModeIndex snapshot.mode (some snapshot.submode))
  else s

/-- The frequency of a rig snapshot. -/
def applyRigFrequency (s : LoggerState) (snapshot : RigSnapshot) : LoggerState :=
  if !s.frequencyManuallySet && decide (0 < snapshot.frequencyHz) then
    { s with frequencyMhz := formatMhz snapshot.frequencyHz }
  else s

/-- The receive side and the power of a rig snapshot. -/
def applyRigRest (s : LoggerState) (snapshot : RigSnapshot) : LoggerState :=
  { s with
    rigFrequencyRxHz := snapshot.frequencyRxHz
    rigBandRx := snapshot.bandRx
    rigTxPowerWatts := snapshot.txPowerWatts.filter fun watts =>
      watts.isFinite && nonNegative watts }

/-- `ApplyRigSnapshot`. -/
def applyRigSnapshot (s : LoggerState) (snapshot : RigSnapshot) : LoggerState :=
  if !snapshot.connected then s
  else if !NetText.isWhiteSpace s.callsign then s
  else
    (((s.applyRigBand snapshot).applyRigMode snapshot).applyRigFrequency snapshot).applyRigRest
      snapshot

/-- `AcceptLookupRecord`. -/
def acceptLookupRecord (s : LoggerState) (record : CallsignRecord) : LoggerState :=
  if NetText.equalsIgnoreCase record.callsign (Text.trim s.callsign) then
    { s with lastLookupRecord := some record }
  else s

/-- The 800 ms of a `DebouncedLookupAsync` are over. -/
def lookupDelayed (s : LoggerState) (lookup : ℕ) : LoggerState :=
  { s with lookups := s.lookups.modify lookup fun task => { task with asked := true } }

/-- What `DebouncedLookupAsync` does with its answer. -/
def applyLookup (s : LoggerState) : LookupOutcome → LoggerState
  | .found (some record) => { s with lastLookupRecord := some record }
  | .found none => s
  | .notFound => s.clearLookupFields
  | .failed => s

/-- The answer to a `DebouncedLookupAsync` arrives, and counts if that has not been cancelled. -/
def lookupAnswered (s : LoggerState) (lookup : ℕ) (outcome : LookupOutcome) : LoggerState :=
  match s.lookups[lookup]? with
  | none => s
  | some task =>
      if !task.asked || task.cancelled then s
      else
        -- the task has returned, and can do nothing any more
        let lookups := s.lookups.set lookup { task with cancelled := true }
        { s.applyLookup outcome with lookups }

end LoggerState

/-! ### Saving -/

/-- `BuildName`. -/
def buildName (first last : String) : String :=
  " ".intercalate
    ((if NetText.isWhiteSpace first then [] else [Text.trim first])
      ++ if NetText.isWhiteSpace last then [] else [Text.trim last])

/-- A text that a lookup fills in if it is not empty. -/
def filled (value : String) (old : Option String) : Option String :=
  if value.isEmpty then old else some value

/-- `EnrichFromLookup`. -/
def enrichFromLookup (qso : QsoRecord) : Option CallsignRecord → QsoRecord
  | none => qso
  | some rec =>
      { qso with
        workedOperatorName := filled (buildName rec.firstName rec.lastName) qso.workedOperatorName
        workedGrid := filled rec.gridSquare qso.workedGrid
        workedCountry := filled rec.country qso.workedCountry
        workedDxcc := if rec.dxccEntityId = 0 then qso.workedDxcc else some rec.dxccEntityId
        workedState := filled rec.state qso.workedState
        workedCqZone := rec.cqZone.or qso.workedCqZone
        workedItuZone := rec.ituZone.or qso.workedItuZone
        workedCounty := filled rec.county qso.workedCounty
        workedIota := filled rec.iota qso.workedIota
        workedContinent := filled rec.dxccContinent qso.workedContinent }

/-- `EnrichFromCwDecoder`. -/
def enrichFromCwDecoder (qso : QsoRecord) (decoder : CwDecoder) (utcStart utcEnd : Timestamp) :
    QsoRecord :=
  if qso.mode ≠ Mode.cw.toI32 then { qso with cwDecodeRxWpm := none, cwDecodeTranscript := none }
  else
    let qso :=
      match decoder.meanWpm utcStart utcEnd with
      | some rounded => if 0 < rounded then { qso with cwDecodeRxWpm := some rounded } else qso
      | none => qso
    if NetText.isNullOrWhiteSpace qso.cwDecodeTranscript then
      match decoder.transcript utcStart utcEnd with
      | some transcript =>
          if NetText.isWhiteSpace transcript then qso
          else { qso with cwDecodeTranscript := some transcript }
      | none => qso
    else qso

/-- The callsign that `LogQsoAsync` sends. -/
def LoggerState.workedCallsign (s : LoggerState) : String :=
  NetText.toUpperInvariant (Text.trim s.callsign)

/-- The request of `LogQsoAsync`; without a callsign it sends none. -/
def LoggerState.request (texts : NumberTexts) (utcNow : Timestamp) (decoder : CwDecoder)
    (s : LoggerState) : Option QsoRecord :=
  if NetText.isWhiteSpace s.workedCallsign then none
  else
    let band := bands.get s.selectedBandIndex
    let mode := modes.get s.selectedModeIndex
    let utcStart := s.timer.getD utcNow
    let hz := tryParseMhzToHz texts s.frequencyMhz
    let qso : QsoRecord :=
      { workedCallsign := s.workedCallsign
        band := band.protoBand.toI32
        mode := mode.protoMode.toI32
        rstSent := some (parseRst (Text.trim s.rstSent))
        rstReceived := some (parseRst (Text.trim s.rstRcvd))
        utcTimestamp := some utcStart
        utcEndTimestamp := s.timer.map fun _ => utcNow
        submode := mode.submode.filter fun submode => !NetText.isWhiteSpace submode
        frequencyHz := hz
        frequencyKhz := hz.map toKhz
        frequencyRxHz := s.rigFrequencyRxHz
        frequencyRxKhz := s.rigFrequencyRxHz.map toKhz
        bandRx := s.rigBandRx
        txPower := s.rigTxPowerWatts.map texts.powerText
        comment := sentText s.comment
        notes := sentText s.notes
        contestId := sentText s.contestId
        exchangeSent := sentText s.exchangeSent }
    some (enrichFromCwDecoder (enrichFromLookup qso s.lastLookupRecord) decoder utcStart utcNow)

/-! ### Steps -/

/-- What can happen to the panel. -/
inductive LoggerEvent where
  | typeCallsign (text : String)
  | typeRstSent (text : String)
  | typeRstRcvd (text : String)
  | typeFrequency (text : String)
  | typeComment (text : String)
  | typeNotes (text : String)
  | typeContestId (text : String)
  | typeExchangeSent (text : String)
  | notifyFrequencyManuallySet
  | notifyRstManuallySet
  | cycleBandForward
  | cycleBandBackward
  | cycleModeForward
  | cycleModeBackward
  /-- F7. -/
  | acknowledgeQsoStart (utcNow : Timestamp)
  | rigSnapshot (snapshot : RigSnapshot)
  | acceptLookupRecord (record : CallsignRecord)
  | lookupDelayed (lookup : ℕ)
  | lookupAnswered (lookup : ℕ) (outcome : LookupOutcome)
  | clear
  /-- The command to save. -/
  | logQso
  /-- The engine has answered the save. -/
  | logged
  /-- The engine has refused it. -/
  | logFailed

/-- A save cannot start while another is under way, nor end without having started. -/
def LoggerState.enabled (s : LoggerState) : LoggerEvent → Bool
  | .logQso => !s.logging
  | .logged => s.logging
  | .logFailed => s.logging
  | _ => true

/-- What an event does. -/
def LoggerState.react (s : LoggerState) : LoggerEvent → LoggerState
  | .typeCallsign text => s.setCallsign text
  | .typeRstSent text => { s with rstSent := text }
  | .typeRstRcvd text => { s with rstRcvd := text }
  | .typeFrequency text => { s with frequencyMhz := text }
  | .typeComment text => { s with comment := text }
  | .typeNotes text => { s with notes := text }
  | .typeContestId text => { s with contestId := text }
  | .typeExchangeSent text => { s with exchangeSent := text }
  | .notifyFrequencyManuallySet => { s with frequencyManuallySet := true }
  | .notifyRstManuallySet => { s with rstManuallySet := true }
  | .cycleBandForward =>
      { s with bandManuallySet := true }.setSelectedBandIndex (next s.selectedBandIndex)
  | .cycleBandBackward =>
      { s with bandManuallySet := true }.setSelectedBandIndex (previous s.selectedBandIndex)
  | .cycleModeForward =>
      { s with modeManuallySet := true }.setSelectedModeIndex (next s.selectedModeIndex)
  | .cycleModeBackward =>
      { s with modeManuallySet := true }.setSelectedModeIndex (previous s.selectedModeIndex)
  | .acknowledgeQsoStart utcNow => { s with timer := some utcNow }
  | .rigSnapshot snapshot => s.applyRigSnapshot snapshot
  | .acceptLookupRecord record => s.acceptLookupRecord record
  | .lookupDelayed lookup => s.lookupDelayed lookup
  | .lookupAnswered lookup outcome => s.lookupAnswered lookup outcome
  | .clear => s.clear
  | .logQso => { s with logging := !NetText.isWhiteSpace s.workedCallsign }
  | .logged => { s.clear with logging := false }
  | .logFailed => { s with logging := false }

/-- One event. -/
def LoggerState.step (s : LoggerState) (e : LoggerEvent) : Option LoggerState :=
  if s.enabled e then some (s.react e) else none

/-- A run. -/
def LoggerState.run (s : LoggerState) (events : List LoggerEvent) : Option LoggerState :=
  events.foldlM step s

end QsoRipper.Gui
