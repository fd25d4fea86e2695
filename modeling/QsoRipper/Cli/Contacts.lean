/-
QsoRipper/Cli/Contacts.lean

The commands of the command line tool that save a contact: `log` and `update`.

Their options are given in any order and any number of times.  What is sent has of every
option its last value, read the way of that option, and everything else is as it was
(`applyOptionalArgs_items`).
-/
import QsoRipper.Cli.Arguments
import QsoRipper.Gui.Logger

namespace QsoRipper.Cli

open Gui (NumberTexts tryParseMhzToHz toKhz)

/-! ### Bands and modes -/

/-- The names of `EnumHelpers.ParseBand`. -/
def bandNames : List (String × Band) :=
  [("2190M", .band2190m), ("630M", .band630m), ("560M", .band560m), ("160M", .band160m),
    ("80M", .band80m), ("60M", .band60m), ("40M", .band40m), ("30M", .band30m),
    ("20M", .band20m), ("17M", .band17m), ("15M", .band15m), ("12M", .band12m),
    ("10M", .band10m), ("8M", .band8m), ("6M", .band6m), ("5M", .band5m), ("4M", .band4m),
    ("2M", .band2m), ("1.25M", .band125m), ("70CM", .band70cm), ("33CM", .band33cm),
    ("23CM", .band23cm), ("13CM", .band13cm), ("9CM", .band9cm), ("6CM", .band6cm),
    ("3CM", .band3cm), ("1.25CM", .band125cm), ("6MM", .band6mm), ("4MM", .band4mm),
    ("2.5MM", .band25mm), ("2MM", .band2mm), ("1MM", .band1mm), ("SUBMM", .submm)]

/-- The names of `EnumHelpers.ParseMode`. -/
def modeNames : List (String × Mode) :=
  [("AM", .am), ("ARDOP", .ardop), ("ATV", .atv), ("CHIP", .chip), ("CLO", .clo),
    ("CONTESTI", .contesti), ("CW", .cw), ("DIGITALVOICE", .digitalvoice),
    ("DOMINO", .domino), ("DYNAMIC", .dynamic), ("FAX", .fax), ("FM", .fm), ("FSK", .fsk),
    ("FT8", .ft8), ("HELL", .hell), ("ISCAT", .iscat), ("JT4", .jt4), ("JT9", .jt9),
    ("JT44", .jt44), ("JT65", .jt65), ("MFSK", .mfsk), ("MSK144", .msk144), ("MTONE", .mtone),
    ("OFDM", .ofdm), ("OLIVIA", .olivia), ("OPERA", .opera), ("PAC", .pac), ("PAX", .pax),
    ("PKT", .pkt), ("PSK", .psk), ("Q15", .q15), ("QRA64", .qra64), ("ROS", .ros),
    ("RTTY", .rtty), ("RTTYM", .rttym), ("SSB", .ssb), ("SSTV", .sstv), ("T10", .t10),
    ("THOR", .thor), ("THRB", .thrb), ("TOR", .tor), ("V4", .v4), ("VOI", .voi),
    ("WINMOR", .winmor), ("WSPR", .wspr)]

/-- A name of a table, in any case. -/
def named {α : Type} (names : List (String × α)) (input : String) : Option α :=
  names.lookup (NetText.toUpperInvariant input)

/-- `EnumHelpers.ParseBand`. -/
def parseBand (input : String) : Except String Band :=
  match named bandNames input with
  | some band => .ok band
  | none => .error ("Unknown band: " ++ input ++ ". Examples: 20m, 40m, 2m, 70cm")

/-- `EnumHelpers.ParseMode`. -/
def parseMode (input : String) : Except String Mode :=
  match named modeNames input with
  | some mode => .ok mode
  | none => .error ("Unknown mode: " ++ input ++ ". Examples: FT8, CW, SSB, RTTY")

/-! ### Options -/

/-- The options of the two commands that take a value. -/
inductive CliOption where
  | station
  | time
  | rstSent
  | rstRcvd
  | freq
  | comment
  | notes
  | name
  | timeOff
  | txPower
  | submode
  | contestId
  | serialSent
  | serialRcvd
  | exchangeSent
  | exchangeRcvd
  | propMode
  | satName
  | satMode
  | iota
  | arrlSection
  | state
  | workedCounty
  | skcc
  | band
  | mode
  | grid
  | country
  deriving DecidableEq

namespace CliOption

def word : CliOption → String
  | station => "--station"
  | time => "--at"
  | rstSent => "--rst-sent"
  | rstRcvd => "--rst-rcvd"
  | freq => "--freq"
  | comment => "--comment"
  | notes => "--notes"
  | name => "--name"
  | timeOff => "--time-off"
  | txPower => "--tx-power"
  | submode => "--submode"
  | contestId => "--contest-id"
  | serialSent => "--serial-sent"
  | serialRcvd => "--serial-rcvd"
  | exchangeSent => "--exchange-sent"
  | exchangeRcvd => "--exchange-rcvd"
  | propMode => "--prop-mode"
  | satName => "--sat-name"
  | satMode => "--sat-mode"
  | iota => "--iota"
  | arrlSection => "--arrl-section"
  | state => "--state"
  | workedCounty => "--worked-county"
  | skcc => "--skcc"
  | band => "--band"
  | mode => "--mode"
  | grid => "--grid"
  | country => "--country"

/-- The options that both commands take, as `log` tries them. -/
def shared : List CliOption :=
  [time, rstSent, rstRcvd, freq, comment, notes, name, timeOff, txPower, submode, contestId,
    serialSent, serialRcvd, exchangeSent, exchangeRcvd, propMode, satName, satMode, iota,
    arrlSection, state, workedCounty, skcc, band, mode]

end CliOption

/-- How the values of the options are read. -/
structure Readers where
  numbers : NumberTexts
  /-- `TimeParser.Parse`, at the time of the command. -/
  parseTime : String → Option Timestamp

/-- `TryParseRst`. -/
def tryParseRst (value : String) : Option RstReport :=
  let digit (c : Char) : Option ℕ := some (c.toNat - 48)
  match value.toList with
  | [r, s] =>
      if r.isDigit && s.isDigit then
        some { readability := digit r, strength := digit s, raw := value }
      else none
  | [r, s, t] =>
      if r.isDigit && s.isDigit && t.isDigit then
        some { readability := digit r, strength := digit s, tone := digit t, raw := value }
      else none
  | _ => none

/-- What distinguishes the option loops of the two commands. -/
structure OptionLoop where
  options : List CliOption
  /-- The word of the switch that the loop notes, and of one that it passes over. -/
  noted : String
  passed : List String
  invalidTimeOff : String

/-- `LogQsoCommand.TryApplyOptionalArgs`. -/
def logLoop : OptionLoop where
  options := .station :: CliOption.shared
  noted := "--no-enrich"
  passed := ["--from-rig"]
  invalidTimeOff := "Invalid --time-off value. Use relative (30.minutes, 2.hours) or absolute " ++
    "(2026-04-12T19:30:00Z)."

/-- `UpdateQsoCommand.TryApplyUpdates`. -/
def updateLoop : OptionLoop where
  options := [.grid, .country] ++ CliOption.shared
  noted := "--enrich"
  passed := []
  invalidTimeOff := "Invalid --time-off value."

section Loop

variable (readers : Readers) (loop : OptionLoop)

/-- What a report that is none is answered with. -/
def invalidRst (o : CliOption) (value : String) : String :=
  "Invalid value for " ++ o.word ++ ": " ++ value ++ ". Expected 2 or 3 digits."

/-- The branch of an option: its value goes into the contact. -/
def put (o : CliOption) (value : String) (qso : QsoRecord) : Except String QsoRecord :=
  match o with
  | .station => .ok { qso with stationCallsign := NetText.toUpperInvariant value }
  | .time =>
      match readers.parseTime value with
      | some ts => .ok { qso with utcTimestamp := some ts }
      | none => .error ("Invalid --at value. Use relative (30.minutes, 2.hours) or absolute " ++
          "(2026-04-12T19:30:00Z).")
  | .rstSent =>
      match tryParseRst value with
      | some report => .ok { qso with rstSent := some report }
      | none => .error (invalidRst .rstSent value)
  | .rstRcvd =>
      match tryParseRst value with
      | some report => .ok { qso with rstReceived := some report }
      | none => .error (invalidRst .rstRcvd value)
  | .freq =>
      match tryParseMhzToHz readers.numbers value with
      | some hz => .ok { qso with frequencyHz := some hz, frequencyKhz := some (toKhz hz) }
      | none => .error ("Invalid value for --freq: " ++ value ++
          ". Use MHz such as 14.074 or 14.074.123.")
  | .comment => .ok { qso with comment := some value }
  | .notes => .ok { qso with notes := some value }
  | .name => .ok { qso with workedOperatorName := some value }
  | .timeOff =>
      match readers.parseTime value with
      | some ts => .ok { qso with utcEndTimestamp := some ts }
      | none => .error loop.invalidTimeOff
  | .txPower => .ok { qso with txPower := some value }
  | .submode => .ok { qso with submode := some value }
  | .contestId => .ok { qso with contestId := some value }
  | .serialSent => .ok { qso with serialSent := some value }
  | .serialRcvd => .ok { qso with serialReceived := some value }
  | .exchangeSent => .ok { qso with exchangeSent := some value }
  | .exchangeRcvd => .ok { qso with exchangeReceived := some value }
  | .propMode => .ok { qso with propMode := some value }
  | .satName => .ok { qso with satName := some value }
  | .satMode => .ok { qso with satMode := some value }
  | .iota => .ok { qso with workedIota := some value }
  | .arrlSection => .ok { qso with workedArrlSection := some value }
  | .state => .ok { qso with workedState := some (NetText.toUpperInvariant value) }
  | .workedCounty => .ok { qso with workedCounty := some value }
  | .skcc => .ok { qso with skcc := some value }
  | .band =>
      match parseBand value with
      | .ok band => .ok { qso with band := band.toI32 }
      | .error error => .error error
  | .mode =>
      match parseMode value with
      | .ok mode => .ok { qso with mode := mode.toI32 }
      | .error error => .error error
  | .grid => .ok { qso with workedGrid := some (NetText.toUpperInvariant value) }
  | .country => .ok { qso with workedCountry := some value }

/-- The option of a word. -/
def OptionLoop.option (loop : OptionLoop) (arg : String) : Option CliOption :=
  loop.options.find? fun o => o.word == arg

/-- The loop over the options, with what it notes. -/
def applyOptionalArgs (noted : Bool) (qso : QsoRecord) :
    List String → Except String (QsoRecord × Bool)
  | [] => .ok (qso, noted)
  | arg :: args =>
      match loop.option arg with
      | some o =>
          match args with
          | [] => .error ("Missing value for " ++ arg ++ ".")
          | value :: args =>
              match put readers loop o value qso with
              | .ok qso => applyOptionalArgs noted qso args
              | .error error => .error error
      | none =>
          if arg = loop.noted then applyOptionalArgs true qso args
          else if arg ∈ loop.passed then applyOptionalArgs noted qso args
          else .error ("Unknown option: " ++ arg)

end Loop

/-! ### The commands -/

/-- `LogQsoCommand.IsPhoneMode`. -/
def isPhoneMode (mode : ℤ) : Bool :=
  mode ∈ [Mode.ssb.toI32, Mode.am.toI32, Mode.fm.toI32, Mode.digitalvoice.toI32, Mode.voi.toI32]

/-- `LogQsoCommand.DefaultRst`. -/
def defaultRst (mode : ℤ) : RstReport :=
  if isPhoneMode mode then { readability := some 5, strength := some 9, raw := "59" }
  else { readability := some 5, strength := some 9, tone := some 9, raw := "599" }

/-- `LogQsoCommand.ApplyDefaultRst`. -/
def applyDefaultRst (qso : QsoRecord) : QsoRecord :=
  { qso with
    rstSent := some (qso.rstSent.getD (defaultRst qso.mode))
    rstReceived := some (qso.rstReceived.getD (defaultRst qso.mode)) }

/-- `RigSnapshot`, with the transmit power as it is written if it is finite and not negative. -/
structure RigSnapshot where
  connected : Bool
  band : ℤ := 0
  mode : ℤ := 0
  frequencyHz : ℕ := 0
  submode : Option String := none
  frequencyRxHz : Option ℕ := none
  bandRx : ℤ := 0
  txPower : Option String := none

/-- `LogQsoCommand.ApplyRigSnapshot`: what the operator did not give. -/
def applyRigSnapshot (qso : QsoRecord) (snapshot : RigSnapshot) : QsoRecord :=
  let fromHz : Option ℕ := if 0 < snapshot.frequencyHz then some snapshot.frequencyHz else none
  { qso with
    band := if qso.band = 0 then snapshot.band else qso.band
    mode := if qso.mode = 0 then snapshot.mode else qso.mode
    frequencyHz := qso.frequencyHz.or fromHz
    frequencyKhz := if qso.frequencyHz = none ∧ 0 < snapshot.frequencyHz then
      some (toKhz snapshot.frequencyHz) else qso.frequencyKhz
    submode := qso.submode.or snapshot.submode
    frequencyRxHz := qso.frequencyRxHz.or snapshot.frequencyRxHz
    frequencyRxKhz := if qso.frequencyRxHz = none ∧ snapshot.frequencyRxHz ≠ none then
      snapshot.frequencyRxHz.map toKhz else qso.frequencyRxKhz
    bandRx := if qso.bandRx = 0 then snapshot.bandRx else qso.bandRx
    txPower := qso.txPower.or snapshot.txPower }

/-- The record of a lookup, the fields that a contact takes. -/
structure LookedUp where
  gridSquare : Option String := none
  country : Option String := none
  state : Option String := none
  dxccEntityId : ℕ := 0

/-- What `LogQsoCommand` takes of a lookup: what the operator did not give. -/
def enrichMissing (qso : QsoRecord) (record : LookedUp) : QsoRecord :=
  { qso with
    workedGrid := qso.workedGrid.or record.gridSquare
    workedCountry := qso.workedCountry.or record.country
    workedState := qso.workedState.or record.state
    workedDxcc := if record.dxccEntityId ≠ 0 ∧ qso.workedDxcc.getD 0 = 0 then
      some record.dxccEntityId else qso.workedDxcc }

/-- What `UpdateQsoCommand` takes of a lookup. -/
def enrichAll (qso : QsoRecord) (record : LookedUp) : QsoRecord :=
  { qso with
    workedGrid := record.gridSquare.or qso.workedGrid
    workedCountry := record.country.or qso.workedCountry
    workedState := record.state.or qso.workedState
    workedDxcc := if record.dxccEntityId ≠ 0 then some record.dxccEntityId else qso.workedDxcc }

/-- What the tool asks the engine for. -/
inductive Request where
  | getQso (localId : String)
  | lookup (callsign : String)
  | getRigSnapshot
  | logQso (qso : QsoRecord)
  | updateQso (qso : QsoRecord)
  | other (arguments : CliArguments)
  deriving DecidableEq

/-- What a run of the tool did. -/
structure Outcome where
  requests : List Request
  exitCode : ℤ

/-- What the engine and the system answer. -/
structure Answers where
  now : Timestamp
  readers : Readers
  /-- The contact of an id, if the engine is there and has it. -/
  stored : String → Option QsoRecord := fun _ => none
  /-- The record of a callsign, if the lookup finds one. -/
  found : String → Option LookedUp := fun _ => none
  /-- The snapshot, if the engine is there and has one. -/
  rig : Option RigSnapshot := none
  /-- The engine is there and takes the contact. -/
  accepts : Bool := true
  /-- The endpoint is an absolute URI of http or https. -/
  validEndpoint : String → Bool := fun _ => true
  /-- What the other commands do. -/
  others : CliArguments → Outcome := fun arguments => ⟨[.other arguments], 0⟩

/-- A word of a command that asks for its help. -/
def asksHelp (args : List String) : Bool := args.any fun arg => arg ∈ ["help", "-?", "--help"]

/-- `LogQsoCommand.TryBuildQso`: the contact and whether it is not to be enriched, or what is
wrong, or nothing where the help was asked for. -/
def tryBuildQso (answers : Answers) (callsign : String) (args : List String) :
    Except (Option String) (QsoRecord × Bool) :=
  let fromRig := args.any fun arg => arg == "--from-rig"
  let qso : QsoRecord :=
    { workedCallsign := NetText.toUpperInvariant callsign, utcTimestamp := some answers.now }
  let apply (qso : QsoRecord) (args : List String) : Except (Option String) (QsoRecord × Bool) :=
    (applyOptionalArgs answers.readers logLoop false qso args).mapError some
  if asksHelp args then .error none
  else
    match args with
    | first :: second :: rest =>
        if isDashed first = false ∧ isDashed second = false then
          match parseBand first, parseMode second with
          | .ok band, .ok mode => apply { qso with band := band.toI32, mode := mode.toI32 } rest
          -- the band stays where only the mode is unknown
          | .ok band, .error error =>
              if fromRig then apply { qso with band := band.toI32 } args else .error (some error)
          | .error error, _ => if fromRig then apply qso args else .error (some error)
        else if fromRig then apply qso args
        else .error (some ("Usage: log <callsign> <band> <mode> [--station call] [--at time] " ++
          "[--rst-sent 59] [--rst-rcvd 59] [--freq khz] [--comment text] [--notes text] " ++
          "[--no-enrich] [--from-rig]"))
    | args =>
        if fromRig then apply qso args
        else .error (some ("Usage: log <callsign> <band> <mode> [--station call] [--at time] " ++
          "[--rst-sent 59] [--rst-rcvd 59] [--freq khz] [--comment text] [--notes text] " ++
          "[--no-enrich] [--from-rig]"))

/-- `EnrichFromLookup` of one of the commands: what is asked for and what becomes of the
contact. -/
def enrichFromLookup (answers : Answers) (enrich : QsoRecord → LookedUp → QsoRecord)
    (qso : QsoRecord) : List Request × QsoRecord :=
  ([.lookup qso.workedCallsign], ((answers.found qso.workedCallsign).map (enrich qso)).getD qso)

/-- The part of `LogQsoCommand.RunAsync` behind the rig. -/
def sendLog (answers : Answers) (asked : List Request) (qso : QsoRecord) (noEnrich : Bool) :
    Outcome :=
  if qso.band = 0 ∨ qso.mode = 0 then ⟨asked, 1⟩
  else
    let enriched := if noEnrich then ([], applyDefaultRst qso)
      else enrichFromLookup answers enrichMissing (applyDefaultRst qso)
    ⟨asked ++ enriched.1 ++ [.logQso enriched.2], if answers.accepts then 0 else 1⟩

/-- `LogQsoCommand.RunAsync`. -/
def runLog (answers : Answers) (callsign : String) (args : List String) : Outcome :=
  match tryBuildQso answers callsign args with
  | .error error => ⟨[], if error.isSome then 1 else 0⟩
  | .ok (qso, noEnrich) =>
      if args.any fun arg => arg == "--from-rig" then
        match answers.rig with
        | some snapshot =>
            if snapshot.connected then
              sendLog answers [.getRigSnapshot] (applyRigSnapshot qso snapshot) noEnrich
            else ⟨[.getRigSnapshot], 1⟩
        | none => ⟨[.getRigSnapshot], 1⟩
      else sendLog answers [] qso noEnrich

/-- `UpdateQsoCommand.RunAsync`. -/
def runUpdate (answers : Answers) (localId : String) (args : List String) : Outcome :=
  if args = [] then ⟨[], 1⟩
  else if asksHelp args then ⟨[], 0⟩
  else
    match answers.stored localId with
    | none => ⟨[.getQso localId], 1⟩
    | some qso =>
        match applyOptionalArgs answers.readers updateLoop false qso args with
        | .error _ => ⟨[.getQso localId], 1⟩
        | .ok (qso, enrich) =>
            let enriched := if enrich then enrichFromLookup answers enrichAll qso else ([], qso)
            ⟨.getQso localId :: enriched.1 ++ [.updateQso enriched.2],
              if answers.accepts then 0 else 1⟩

/-- The program. -/
def main (env : Environment) (answers : Answers) (args : List String) : Outcome :=
  let arguments := parse env args
  if arguments.showHelp then ⟨[], if arguments.error.isSome then 1 else 0⟩
  else if !answers.validEndpoint arguments.endpoint then ⟨[], 1⟩
  else if isCommandHelp arguments then ⟨[], 0⟩
  else
    match usesPrimaryArgument (some arguments.command), arguments.callsign with
    | true, none => ⟨[], 0⟩
    | true, some callsign =>
        if callsign = "" then ⟨[], 0⟩
        else if arguments.command = "log" then
          runLog answers callsign arguments.remainingArgs
        else if arguments.command = "update" then
          runUpdate answers callsign arguments.remainingArgs
        else answers.others arguments
    | false, _ => answers.others arguments

/-! ### What an option is about -/

/-- What a contact has of an option. -/
inductive Content where
  | text (value : Option String)
  | time (value : Option Timestamp)
  | report (value : Option RstReport)
  | frequency (hz khz : Option ℕ)
  | number (value : ℤ)
  deriving DecidableEq

namespace CliOption

/-- The field of an option. -/
def content (qso : QsoRecord) : CliOption → Content
  | station => .text (some qso.stationCallsign)
  | time => .time qso.utcTimestamp
  | rstSent => .report qso.rstSent
  | rstRcvd => .report qso.rstReceived
  | freq => .frequency qso.frequencyHz qso.frequencyKhz
  | comment => .text qso.comment
  | notes => .text qso.notes
  | name => .text qso.workedOperatorName
  | timeOff => .time qso.utcEndTimestamp
  | txPower => .text qso.txPower
  | submode => .text qso.submode
  | contestId => .text qso.contestId
  | serialSent => .text qso.serialSent
  | serialRcvd => .text qso.serialReceived
  | exchangeSent => .text qso.exchangeSent
  | exchangeRcvd => .text qso.exchangeReceived
  | propMode => .text qso.propMode
  | satName => .text qso.satName
  | satMode => .text qso.satMode
  | iota => .text qso.workedIota
  | arrlSection => .text qso.workedArrlSection
  | state => .text qso.workedState
  | workedCounty => .text qso.workedCounty
  | skcc => .text qso.skcc
  | band => .number qso.band
  | mode => .number qso.mode
  | grid => .text qso.workedGrid
  | country => .text qso.workedCountry

/-- How an option takes its value, if it takes it. -/
def read (readers : Readers) (value : String) : CliOption → Option Content
  | station | state | grid => some (.text (some (NetText.toUpperInvariant value)))
  | time | timeOff => (readers.parseTime value).map fun ts => .time (some ts)
  | rstSent | rstRcvd => (tryParseRst value).map fun report => .report (some report)
  | freq => (tryParseMhzToHz readers.numbers value).map fun hz =>
      .frequency (some hz) (some (toKhz hz))
  | band => (named bandNames value).map fun band => .number band.toI32
  | mode => (named modeNames value).map fun mode => .number mode.toI32
  | _ => some (.text (some value))

/-- A contact without what the options are about. -/
def unsaid (qso : QsoRecord) : QsoRecord :=
  { qso with
    stationCallsign := "", utcTimestamp := none, rstSent := none, rstReceived := none
    frequencyHz := none, frequencyKhz := none, comment := none, notes := none
    workedOperatorName := none, utcEndTimestamp := none, txPower := none, submode := none
    contestId := none, serialSent := none, serialReceived := none, exchangeSent := none
    exchangeReceived := none, propMode := none, satName := none, satMode := none
    workedIota := none, workedArrlSection := none, workedState := none, workedCounty := none
    skcc := none, band := 0, mode := 0, workedGrid := none, workedCountry := none }

end CliOption

variable {readers : Readers} {loop : OptionLoop} {o : CliOption} {value : String}
  {qso qso' : QsoRecord}

/-- The branch of an option stores its value and leaves the rest. -/
structure Puts (readers : Readers) (o : CliOption) (value : String) (qso qso' : QsoRecord) :
    Prop where
  stored : o.read readers value = some (o.content qso')
  others : ∀ p, p ≠ o → p.content qso' = p.content qso
  rest : CliOption.unsaid qso' = CliOption.unsaid qso

theorem puts (h : put readers loop o value qso = .ok qso') : Puts readers o value qso qso' := by
  have hothers {o : CliOption} {qso' : QsoRecord}
      (h : ∀ p, p = o ∨ p.content qso' = p.content qso) (p : CliOption) (hp : p ≠ o) :
      p.content qso' = p.content qso := (h p).resolve_left hp
  cases o with
  | time | timeOff =>
      cases hvalue : readers.parseTime value with
      | none =>
          rw [put, hvalue] at h
          cases h
      | some ts =>
          rw [put, hvalue] at h
          cases h
          refine ⟨by rw [CliOption.read, hvalue]; rfl, hothers fun p => ?_, rfl⟩
          cases p <;> first | exact .inl rfl | exact .inr rfl
  | rstSent | rstRcvd =>
      cases hvalue : tryParseRst value with
      | none =>
          rw [put, hvalue] at h
          cases h
      | some report =>
          rw [put, hvalue] at h
          cases h
          refine ⟨by rw [CliOption.read, hvalue]; rfl, hothers fun p => ?_, rfl⟩
          cases p <;> first | exact .inl rfl | exact .inr rfl
  | freq =>
      cases hvalue : tryParseMhzToHz readers.numbers value with
      | none =>
          rw [put, hvalue] at h
          cases h
      | some hz =>
          rw [put, hvalue] at h
          cases h
          refine ⟨by rw [CliOption.read, hvalue]; rfl, hothers fun p => ?_, rfl⟩
          cases p <;> first | exact .inl rfl | exact .inr rfl
  | band =>
      cases hvalue : named bandNames value with
      | none =>
          rw [put, parseBand, hvalue] at h
          cases h
      | some band =>
          rw [put, parseBand, hvalue] at h
          cases h
          refine ⟨by rw [CliOption.read, hvalue]; rfl, hothers fun p => ?_, rfl⟩
          cases p <;> first | exact .inl rfl | exact .inr rfl
  | mode =>
      cases hvalue : named modeNames value with
      | none =>
          rw [put, parseMode, hvalue] at h
          cases h
      | some mode =>
          rw [put, parseMode, hvalue] at h
          cases h
          refine ⟨by rw [CliOption.read, hvalue]; rfl, hothers fun p => ?_, rfl⟩
          cases p <;> first | exact .inl rfl | exact .inr rfl
  | _ =>
      cases h
      refine ⟨rfl, hothers fun p => ?_, rfl⟩
      cases p <;> first | exact .inl rfl | exact .inr rfl

/-- The branch takes the values that the option takes. -/
theorem exists_put (h : (o.read readers value).isSome = true) (loop : OptionLoop)
    (qso : QsoRecord) : ∃ qso', put readers loop o value qso = .ok qso' := by
  obtain ⟨content, hread⟩ := Option.isSome_iff_exists.mp h
  cases o with
  | time | timeOff =>
      obtain ⟨ts, hts, -⟩ := Option.map_eq_some_iff.mp hread
      exact ⟨_, by rw [put, hts]⟩
  | rstSent | rstRcvd =>
      obtain ⟨report, hreport, -⟩ := Option.map_eq_some_iff.mp hread
      exact ⟨_, by rw [put, hreport]⟩
  | freq =>
      obtain ⟨hz, hhz, -⟩ := Option.map_eq_some_iff.mp hread
      exact ⟨_, by rw [put, hhz]⟩
  | band =>
      obtain ⟨band, hband, -⟩ := Option.map_eq_some_iff.mp hread
      exact ⟨_, by rw [put, parseBand, hband]⟩
  | mode =>
      obtain ⟨mode, hmode, -⟩ := Option.map_eq_some_iff.mp hread
      exact ⟨_, by rw [put, parseMode, hmode]⟩
  | _ => exact ⟨_, rfl⟩

/-! ### The loop over the options -/

/-- The words of a loop do not run into each other. -/
structure OptionLoop.Clear (loop : OptionLoop) : Prop where
  option : ∀ o ∈ loop.options, loop.option o.word = some o
  noted : loop.option loop.noted = none

theorem logLoop_clear : logLoop.Clear where
  option := by decide +kernel
  noted := by decide +kernel

theorem updateLoop_clear : updateLoop.Clear where
  option := by decide +kernel
  noted := by decide +kernel

/-- What is given to a command: an option with its value, or its switch. -/
inductive Item where
  | set (o : CliOption) (value : String)
  | note

namespace Item

def words (loop : OptionLoop) : Item → List String
  | set o value => [o.word, value]
  | note => [loop.noted]

/-- The command knows the option, and the option takes the value. -/
def Accepted (readers : Readers) (loop : OptionLoop) : Item → Prop
  | set o value => o ∈ loop.options ∧ (o.read readers value).isSome = true
  | note => True

def isNote : Item → Bool
  | set _ _ => false
  | note => true

/-- What an item says of an option. -/
def saidOf (readers : Readers) (o : CliOption) : Item → Option Content
  | set p value => if p = o then o.read readers value else none
  | note => none

end Item

/-- The last thing that is said of an option. -/
def lastSaid (readers : Readers) (o : CliOption) (items : List Item) : Option Content :=
  (items.filterMap (Item.saidOf readers o)).getLast?

/-- What the items make of a contact. -/
structure Applied (readers : Readers) (items : List Item) (qso qso' : QsoRecord) : Prop where
  content : ∀ o, CliOption.content qso' o = (lastSaid readers o items).getD (o.content qso)
  rest : CliOption.unsaid qso' = CliOption.unsaid qso

theorem lastSaid_cons (o : CliOption) (item : Item) (items : List Item) :
    lastSaid readers o (item :: items) = (lastSaid readers o items).or (item.saidOf readers o) := by
  rw [lastSaid, lastSaid]
  cases hsaid : item.saidOf readers o with
  | none => rw [List.filterMap_cons_none hsaid, Option.or_none]
  | some content =>
      rw [List.filterMap_cons_some hsaid]
      cases items.filterMap (Item.saidOf readers o) with
      | nil => rfl
      | cons content' contents =>
          rw [List.getLast?_cons_cons]
          cases hlast : (content' :: contents).getLast? with
          | none => simp at hlast
          | some last => rfl

/-- Of every option the last value counts, in whatever order the options stand. -/
theorem applyOptionalArgs_items (hloop : loop.Clear) {items : List Item}
    (h : ∀ item ∈ items, item.Accepted readers loop) (noted : Bool) (qso : QsoRecord) :
    ∃ qso', applyOptionalArgs readers loop noted qso (items.flatMap (Item.words loop))
        = .ok (qso', noted || items.any Item.isNote)
      ∧ Applied readers items qso qso' := by
  induction items generalizing noted qso with
  | nil =>
      refine ⟨qso, ?_, fun _ => rfl, rfl⟩
      simp [applyOptionalArgs]
  | cons item items ih =>
      have hrest := ih fun item' hin => h item' (List.mem_cons_of_mem item hin)
      have haccepted := h item List.mem_cons_self
      cases item with
      | note =>
          obtain ⟨qso', happly, hcontent, hunsaid⟩ := hrest true qso
          refine ⟨qso', ?_, fun o => ?_, hunsaid⟩
          · show applyOptionalArgs readers loop noted qso
              (loop.noted :: items.flatMap (Item.words loop)) = _
            rw [applyOptionalArgs, hloop.noted]
            dsimp only
            rw [if_pos rfl, happly]
            simp [Item.isNote]
          · rw [hcontent o, lastSaid_cons]
            exact congrArg (fun c => Option.getD c _) (Option.or_none).symm
      | set p value =>
          obtain ⟨hin, hread⟩ := haccepted
          obtain ⟨next, hput⟩ := exists_put hread loop qso
          have hputs := puts hput
          obtain ⟨qso', happly, hcontent, hunsaid⟩ := hrest noted next
          refine ⟨qso', ?_, fun o => ?_, hunsaid.trans hputs.rest⟩
          · show applyOptionalArgs readers loop noted qso
              (p.word :: value :: items.flatMap (Item.words loop)) = _
            rw [applyOptionalArgs, hloop.option p hin]
            dsimp only
            rw [hput]
            dsimp only
            rw [happly]
            simp [Item.isNote]
          · rw [hcontent o, lastSaid_cons, Item.saidOf]
            by_cases ho : p = o
            · subst ho
              rw [if_pos rfl, hputs.stored]
              cases lastSaid readers p items <;> rfl
            · rw [if_neg ho, Option.or_none, hputs.others o (Ne.symm ho)]

/-! ### Names of bands and modes -/

theorem isDashed_toUpperInvariant {s : String} (h : isDashed s = true) :
    isDashed (NetText.toUpperInvariant s) = true := by
  have hdash : NetText.upperInvariantChar '-' = '-' := by decide +kernel
  have hhead : s.toList.head? = some '-' := beq_iff_eq.mp h
  rw [isDashed, NetText.toUpperInvariant, String.toList_ofList, List.head?_map, hhead,
    Option.map_some, hdash]
  rfl

theorem mem_of_named {α : Type} {names : List (String × α)} {input : String} {a : α}
    (h : named names input = some a) : (NetText.toUpperInvariant input, a) ∈ names := by
  rw [named] at h
  induction names with
  | nil => cases h
  | cons entry names ih =>
      obtain ⟨name, b⟩ := entry
      rw [List.lookup_cons] at h
      cases hname : NetText.toUpperInvariant input == name with
      | true =>
          rw [hname] at h
          cases h
          rw [beq_iff_eq.mp hname]
          exact List.mem_cons_self
      | false =>
          rw [hname] at h
          exact List.mem_cons_of_mem _ (ih h)

/-- Names that are arguments in any case. -/
def ArgumentNames {α : Type} (names : List (String × α)) : Prop :=
  ∀ name ∈ names.map Prod.fst, isDashed name = false ∧ name ≠ "HELP"

theorem isArgument_of_named {α : Type} {names : List (String × α)} (hnames : ArgumentNames names)
    {input : String} {a : α} (h : named names input = some a) : IsArgument input := by
  have hname := hnames _ (List.mem_map_of_mem (mem_of_named h))
  refine ⟨?_, ?_⟩
  · by_contra hdashed
    have hupper := isDashed_toUpperInvariant (Bool.eq_true_of_not_eq_false hdashed)
    rw [hname.1] at hupper
    cases hupper
  · rintro rfl
    have hupper : NetText.toUpperInvariant "help" = "HELP" := by decide +kernel
    exact hname.2 hupper

theorem bandNames_arguments : ArgumentNames bandNames := by
  rw [ArgumentNames]
  decide +kernel

theorem modeNames_arguments : ArgumentNames modeNames := by
  rw [ArgumentNames]
  decide +kernel

theorem band_ne_zero {input : String} {band : Band} (h : named bandNames input = some band) :
    band.toI32 ≠ 0 := by
  have hall : ∀ entry ∈ bandNames, entry.2.toI32 ≠ 0 := by decide
  exact hall _ (mem_of_named h)

theorem mode_ne_zero {input : String} {mode : Mode} (h : named modeNames input = some mode) :
    mode.toI32 ≠ 0 := by
  have hall : ∀ entry ∈ modeNames, entry.2.toI32 ≠ 0 := by decide
  exact hall _ (mem_of_named h)

/-! ### What the commands send -/

section Commands

variable {env : Environment} {answers : Answers}

/-- Words that ask for the help of a command. -/
def commandHelpWords : List String := ["help", "-?", "--help"]

/-- The value of an item is none of these words. -/
def Item.Avoids (words : List String) : Item → Prop
  | set _ value => value ∉ words
  | note => True

instance (words : List String) : (item : Item) → Decidable (item.Avoids words)
  | .set _ value => inferInstanceAs (Decidable (value ∉ words))
  | .note => inferInstanceAs (Decidable True)

theorem avoids_words (loop : OptionLoop) {words : List String} {items : List Item} (hoptions : ∀ o : CliOption,
    o.word ∉ words) (hnoted : loop.noted ∉ words) (h : ∀ item ∈ items, item.Avoids words) :
    ∀ arg ∈ items.flatMap (Item.words loop), arg ∉ words := by
  intro arg harg
  obtain ⟨item, hitem, hin⟩ := List.mem_flatMap.mp harg
  cases item with
  | note =>
      rw [List.mem_singleton.mp hin]
      exact hnoted
  | set o value =>
      rcases List.mem_cons.mp hin with rfl | hin
      · exact hoptions o
      · rw [List.mem_singleton.mp hin]
        exact h _ hitem

/-- No option of a command is a word with which something else is meant. -/
theorem word_not_mem (o : CliOption) :
    o.word ∉ globalWords ++ (commandHelpWords ++ ["--from-rig"]) := by
  cases o <;> decide +kernel

theorem allWords_meant : Meant (globalWords ++ (commandHelpWords ++ ["--from-rig"])) := by
  rw [Meant]
  decide +kernel

theorem asksHelp_eq_false {args : List String} (h : ∀ arg ∈ args, arg ∉ commandHelpWords) :
    asksHelp args = false := by
  rw [asksHelp, List.any_eq_false]
  intro arg harg hmem
  exact h arg harg (of_decide_eq_true hmem)

/-- The contact of `log` before its options. -/
def baseContact (answers : Answers) (callsign : String) (band : Band) (mode : Mode) : QsoRecord where
  workedCallsign := NetText.toUpperInvariant callsign
  utcTimestamp := some answers.now
  band := band.toI32
  mode := mode.toI32

theorem exists_read_of_lastSaid {items : List Item} {content : Content}
    (h : lastSaid readers o items = some content) :
    ∃ value, o.read readers value = some content := by
  obtain ⟨item, -, hsaid⟩ := List.mem_filterMap.mp (List.mem_of_getLast? h)
  cases item with
  | note => cases hsaid
  | set p value =>
      rw [Item.saidOf] at hsaid
      split_ifs at hsaid
      exact ⟨value, hsaid⟩

/-- A field whose option has no unknown value does not become unknown. -/
theorem content_ne_zero {items : List Item} (h : Applied readers items qso qso')
    (hread : ∀ value content, o.read readers value = some content → content ≠ .number 0)
    (hcontent : o.content qso ≠ .number 0) : o.content qso' ≠ .number 0 := by
  rw [h.content o]
  cases hsaid : lastSaid readers o items with
  | none => exact hcontent
  | some content =>
      obtain ⟨value, hvalue⟩ := exists_read_of_lastSaid hsaid
      exact hread value content hvalue

/-- A contact with a band and a mode keeps having one. -/
theorem known_of_applied {items : List Item} (h : Applied readers items qso qso')
    (hband : qso.band ≠ 0) (hmode : qso.mode ≠ 0) : ¬ (qso'.band = 0 ∨ qso'.mode = 0) := by
  have hbandKept : CliOption.content qso' .band ≠ .number 0 := by
    refine content_ne_zero h ?_ fun hno => hband (Content.number.inj hno)
    intro value content hvalue hzero
    obtain ⟨band, hnamed, rfl⟩ := Option.map_eq_some_iff.mp hvalue
    exact band_ne_zero hnamed (Content.number.inj hzero)
  have hmodeKept : CliOption.content qso' .mode ≠ .number 0 := by
    refine content_ne_zero h ?_ fun hno => hmode (Content.number.inj hno)
    intro value content hvalue hzero
    obtain ⟨mode, hnamed, rfl⟩ := Option.map_eq_some_iff.mp hvalue
    exact mode_ne_zero hnamed (Content.number.inj hzero)
  rintro (hno | hno)
  · exact hbandKept (congrArg Content.number hno)
  · exact hmodeKept (congrArg Content.number hno)

theorem tryBuildQso_items {callsign bandName modeName : String} {band : Band} {mode : Mode}
    (hband : named bandNames bandName = some band) (hmode : named modeNames modeName = some mode)
    {items : List Item} (hitems : ∀ item ∈ items, item.Accepted answers.readers logLoop)
    (havoids : ∀ item ∈ items, item.Avoids (commandHelpWords ++ ["--from-rig"])) :
    (bandName :: modeName :: items.flatMap (Item.words logLoop)).any (fun arg => arg == "--from-rig")
        = false
      ∧ ∃ qso, Applied answers.readers items (baseContact answers callsign band mode) qso
        ∧ tryBuildQso answers callsign (bandName :: modeName :: items.flatMap (Item.words logLoop))
          = .ok (qso, items.any Item.isNote) := by
  have hbandArgument := isArgument_of_named bandNames_arguments hband
  have hmodeArgument := isArgument_of_named modeNames_arguments hmode
  have hargs : ∀ arg ∈ bandName :: modeName :: items.flatMap (Item.words logLoop),
      arg ∉ commandHelpWords ++ ["--from-rig"] := by
    have hmeant : Meant (commandHelpWords ++ ["--from-rig"]) :=
      fun word hin => allWords_meant word (List.mem_append_right _ hin)
    have hitemWords := avoids_words logLoop
      (fun o hno => word_not_mem o (List.mem_append_right _ hno)) (by decide +kernel) havoids
    intro arg hin
    rcases List.mem_cons.mp hin with rfl | hin
    · exact hbandArgument.not_mem hmeant
    · rcases List.mem_cons.mp hin with rfl | hin
      · exact hmodeArgument.not_mem hmeant
      · exact hitemWords arg hin
  have hhelp := asksHelp_eq_false fun arg hin hno => hargs arg hin (List.mem_append_left _ hno)
  have hrig : (bandName :: modeName :: items.flatMap (Item.words logLoop)).any
      (fun arg => arg == "--from-rig") = false := by
    rw [List.any_eq_false]
    intro arg hin heq
    rw [beq_iff_eq.mp heq] at hin
    exact hargs _ hin (List.mem_append_right _ List.mem_cons_self)
  obtain ⟨qso, happly, happlied⟩ := applyOptionalArgs_items logLoop_clear hitems false
    (baseContact answers callsign band mode)
  refine ⟨hrig, qso, happlied, ?_⟩
  rw [tryBuildQso]
  simp only [hhelp, hrig, hbandArgument.plain, hmodeArgument.plain, parseBand, parseMode, hband,
    hmode, Bool.false_eq_true, if_false, and_self, if_true]
  exact congrArg (Except.mapError some) happly

theorem Item.Avoids.mono {words more : List String} {item : Item} (h : item.Avoids more)
    (hsub : ∀ word ∈ words, word ∈ more) : item.Avoids words := by
  cases item with
  | set o value => exact fun hin => h (hsub value hin)
  | note => trivial

/-- The commands that save a contact. -/
inductive PrimaryCommand where
  | log
  | update

namespace PrimaryCommand

def word : PrimaryCommand → String
  | log => "log"
  | update => "update"

def run (answers : Answers) (primary : String) (args : List String) : PrimaryCommand → Outcome
  | log => runLog answers primary args
  | update => runUpdate answers primary args

end PrimaryCommand

theorem command_word (command : PrimaryCommand) :
    IsArgument command.word ∧ usesPrimaryArgument (some command.word) = true := by
  cases command <;> exact ⟨⟨by simp [PrimaryCommand.word, isDashed], by simp [PrimaryCommand.word]⟩,
    by simp [PrimaryCommand.word, usesPrimaryArgument]⟩

/-- A command runs with its primary argument and the words behind it, if the parser and the
help have no use for them. -/
theorem main_primary (command : PrimaryCommand) (options : List GlobalOption)
    (hendpoint : answers.validEndpoint (scanned env options).endpoint = true) {primary : String}
    (hprimary : IsArgument primary) (hsome : primary ≠ "") (hhelp : primary ≠ "HELP")
    {args : List String} (hargs : ∀ arg ∈ args, arg ∉ globalWords ++ commandHelpWords) :
    main env answers (options.flatMap GlobalOption.words ++ command.word :: primary :: args)
      = command.run answers primary args := by
  have hword := command_word command
  have hparse := parse_command env options hword.1 hword.2 hprimary
    fun arg hin hno => hargs arg hin (List.mem_append_left _ hno)
  have hcallsign : primary ∉ ["HELP", "-?", "--HELP"] := by
    have hdashed : primary ∉ ["-?", "--HELP"] := hprimary.not_mem (by simp [Meant, isDashed])
    exact fun hno => (List.mem_cons.mp hno).elim hhelp hdashed
  have hnone := asksHelp_eq_false fun arg hin hno => hargs arg hin (List.mem_append_right _ hno)
  rw [asksHelp] at hnone
  rw [main, hparse]
  simp only [hendpoint, isCommandHelp, hcallsign, hnone, hword.2, hsome, Option.any_some,
    decide_false, Bool.or_self, Bool.not_true, Bool.false_eq_true, if_false]
  cases command <;> rfl

/-- An engine that takes the contact; times and decimal frequencies are not asked for. -/
def plainAnswers : Answers where
  now := ⟨1700000000, 0⟩
  readers := { numbers := { powerText := fun _ => "", decimalHz := fun _ => none }
               parseTime := fun _ => none }
  stored := fun _ => some { localId := "q1", workedCallsign := "K1ABC" }

/-- A comment that is given twice. -/
def twoComments : List Item := [.set .comment "first", .set .comment "last", .note]

/-- A request that changes the logbook. -/
def Request.saves : Request → Bool
  | .logQso _ | .updateQso _ => true
  | _ => false

/-- The option loop of a command. -/
def PrimaryCommand.optionLoop : PrimaryCommand → OptionLoop
  | log => logLoop
  | update => updateLoop

/-- A word that looks like an option and is none. -/
structure Unknown (loop : OptionLoop) (word : String) : Prop where
  dashed : isDashed word = true
  notGlobal : word ∉ globalWords ++ commandHelpWords
  option : loop.option word = none
  noted : word ≠ loop.noted
  passed : word ∉ loop.passed

theorem applyOptionalArgs_unknown {word : String} (h : Unknown loop word) (noted : Bool)
    (qso : QsoRecord) (args : List String) :
    applyOptionalArgs readers loop noted qso (word :: args)
      = .error ("Unknown option: " ++ word) := by
  rw [applyOptionalArgs, h.option]
  dsimp only
  rw [if_neg h.noted, if_neg h.passed]

theorem tryBuildQso_unknown (answers : Answers) {word : String} (h : Unknown logLoop word) (callsign : String)
    (args : List String) : ∃ error, tryBuildQso answers callsign (word :: args) = .error error := by
  have hplain (second : String) : ¬ (isDashed word = false ∧ isDashed second = false) := by
    rw [h.dashed]
    exact fun hno => Bool.noConfusion hno.1
  cases args with
  | nil =>
      unfold tryBuildQso
      dsimp only
      split_ifs
      · exact ⟨_, rfl⟩
      · exact ⟨_, congrArg (Except.mapError some) (applyOptionalArgs_unknown h _ _ _)⟩
      · exact ⟨_, rfl⟩
  | cons second rest =>
      unfold tryBuildQso
      dsimp only
      rw [if_neg (hplain second)]
      split_ifs
      · exact ⟨_, rfl⟩
      · exact ⟨_, congrArg (Except.mapError some) (applyOptionalArgs_unknown h _ _ _)⟩
      · exact ⟨_, rfl⟩

/-- A command whose first word is such a one sends no contact. -/
theorem run_unknown {command : PrimaryCommand} {word : String}
    (h : Unknown command.optionLoop word) (primary : String) (args : List String) :
    ∀ request ∈ (command.run answers primary (word :: args)).requests, request.saves = false := by
  cases command with
  | log =>
      obtain ⟨error, hbuild⟩ := tryBuildQso_unknown answers h primary args
      rw [PrimaryCommand.run, runLog, hbuild]
      exact fun request hno => absurd hno List.not_mem_nil
  | update =>
      rw [PrimaryCommand.run, runUpdate, if_neg (List.cons_ne_nil _ _)]
      by_cases hhelp : asksHelp (word :: args) = true
      · rw [if_pos hhelp]
        exact fun request hno => absurd hno List.not_mem_nil
      · rw [if_neg hhelp]
        cases answers.stored primary with
        | none => simp [Request.saves]
        | some stored =>
            have hunknown : Unknown updateLoop word := h
            dsimp only
            rw [applyOptionalArgs_unknown hunknown]
            simp [Request.saves]

/-- The program asks for nothing, or runs the command. -/
theorem main_cases {args : List String} {command : PrimaryCommand}
    (hcommand : (parse env args).command = command.word) :
    (main env answers args).requests = []
      ∨ ∃ primary, main env answers args
        = command.run answers primary (parse env args).remainingArgs := by
  rw [main]
  generalize parse env args = arguments at hcommand ⊢
  by_cases hhelp : arguments.showHelp = true
  · rw [if_pos hhelp]
    exact .inl rfl
  rw [if_neg hhelp]
  by_cases hendpoint : (!answers.validEndpoint arguments.endpoint) = true
  · rw [if_pos hendpoint]
    exact .inl rfl
  rw [if_neg hendpoint]
  by_cases hcommandHelp : isCommandHelp arguments = true
  · rw [if_pos hcommandHelp]
    exact .inl rfl
  rw [if_neg hcommandHelp, hcommand, (command_word command).2]
  cases arguments.callsign with
  | none => exact .inl rfl
  | some primary =>
      by_cases hempty : primary = ""
      · dsimp only
        rw [if_pos hempty]
        exact .inl rfl
      · dsimp only
        rw [if_neg hempty]
        exact .inr ⟨primary, by cases command <;> rfl⟩

/-- Nothing is sent by a line whose first word behind the command is such a one, whatever
follows. -/
theorem main_unknown (command : PrimaryCommand) {word : String}
    (h : Unknown command.optionLoop word) (args : List String) :
    ∀ request ∈ (main env answers (command.word :: word :: args)).requests,
      request.saves = false := by
  have hword := command_word command
  cases hscan : scan env (Scan.start env) (command.word :: word :: args) with
  | error arguments =>
      rw [main, parse, hscan]
      dsimp only
      rw [if_pos (showHelp_of_error hscan)]
      exact fun request hno => absurd hno List.not_mem_nil
  | ok t =>
      have hother : (Scan.start env).other command.word
          = { Scan.start env with command := some command.word } := by
        rw [Scan.other, if_pos ⟨rfl, hword.1.plain⟩]
      have hsome : ({ Scan.start env with command := some command.word } : Scan).command ≠ none :=
        Option.some_ne_none _
      have hrest := hscan
      rw [scan_argument hword.1, hother, scan_word hsome
        (fun hno => h.notGlobal (List.mem_append_left _ hno)) (other_dashed hsome h.dashed)] at hrest
      obtain ⟨hcommand, more, hremaining⟩ := scan_kept hrest hsome
      -- whatever the parser takes out of the rest, the word stays in front
      have hfinish : parse env (command.word :: word :: args) = t.finish := by
        rw [parse, hscan]
      have hargs : t.finish.remainingArgs = word :: more := hremaining.symm
      have hname : t.finish.command = command.word := by
        rw [Scan.finish, hcommand]
        rfl
      rw [← hfinish] at hargs hname
      rcases main_cases hname with hnothing | ⟨primary, hrun⟩
      · rw [hnothing]
        exact fun request hno => absurd hno List.not_mem_nil
      · rw [hrun, hargs]
        exact run_unknown h primary more

end Commands

end QsoRipper.Cli
