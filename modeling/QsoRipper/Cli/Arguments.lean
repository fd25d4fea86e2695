/-
QsoRipper/Cli/Arguments.lean

How the command line tool reads its arguments: the engine it talks to, the command, the
primary argument of the command and the switches, wherever they stand.  What is left over
are the arguments of the command.

A word of the parser is taken out wherever it stands, also where it is the value of an
option.  So the arguments behind the primary one reach the command as they were written
exactly if none of them is such a word (`scan_rest_iff`).
-/
import QsoRipper.Lib.NetText
import Mathlib.Data.Finset.Insert

namespace QsoRipper.Cli

/-! ### Engines -/

/-- `EngineTargetProfile`, of the built-in profiles. -/
inductive Engine where
  | localRust
  | localDotNet
  deriving DecidableEq

namespace Engine

def profileId : Engine → String
  | localRust => "local-rust"
  | localDotNet => "local-dotnet"

def engineId : Engine → String
  | localRust => "rust-tonic"
  | localDotNet => "dotnet-aspnet"

def defaultEndpoint : Engine → String
  | localRust => "http://127.0.0.1:50051"
  | localDotNet => "http://127.0.0.1:50052"

def aliases : Engine → List String
  | localRust => ["local-rust", "rust", "rust-tonic"]
  | localDotNet => ["local-dotnet", "dotnet", "dotnet-aspnet", "managed"]

/-- `EngineTargetProfile.Matches`. -/
def isNamed (profile : Engine) (value : String) : Bool :=
  if NetText.isWhiteSpace value then false
  else
    let candidate := Text.trim value
    NetText.equalsIgnoreCase profile.profileId candidate
      || NetText.equalsIgnoreCase profile.engineId candidate
      || profile.aliases.any fun name => NetText.equalsIgnoreCase name candidate

/-- `EngineCatalog.TryResolveProfile`. -/
def tryResolve (value : String) : Option Engine :=
  [localRust, localDotNet].find? fun profile => profile.isNamed value

/-- `EngineCatalog.GetKnownProfileList`. -/
def knownProfileList : String :=
  ", ".intercalate <| ([localRust, localDotNet].flatMap fun profile =>
    profile.profileId :: profile.aliases).eraseDupsBy NetText.equalsIgnoreCase

end Engine

/-- The environment variables that the engine is looked up in. -/
structure Environment where
  engine : Option String := none
  engineImplementation : Option String := none
  endpoint : Option String := none

namespace Environment

variable (env : Environment)

/-- `EngineCatalog.ResolveProfile`. -/
def profile : Engine :=
  ((env.engine.or env.engineImplementation).bind Engine.tryResolve).getD .localRust

/-- `EngineCatalog.ResolveEndpoint`. -/
def endpointOf (profile : Engine) : String :=
  match env.endpoint with
  | none => profile.defaultEndpoint
  | some endpoint =>
      if NetText.isWhiteSpace endpoint then profile.defaultEndpoint else Text.trim endpoint

end Environment

/-! ### The parser -/

/-- The switches of the parser. -/
inductive Switch where
  | skipCache
  | refresh
  | force
  | json
  | status
  | fromEnv
  deriving DecidableEq

/-- The word of a switch. -/
def Switch.word : Switch → String
  | skipCache => "--skip-cache"
  | refresh => "--refresh"
  | force => "--force"
  | json => "--json"
  | status => "--status"
  | fromEnv => "--from-env"

/-- The switches in the order in which they are tried. -/
def Switch.all : List Switch := [.skipCache, .refresh, .force, .json, .status, .fromEnv]

/-- `CliArguments`. -/
structure CliArguments where
  command : String
  endpoint : String
  engineProfile : Engine
  showHelp : Bool := false
  error : Option String := none
  callsign : Option String := none
  switches : Finset Switch := ∅
  remainingArgs : List String := []
  deriving DecidableEq

/-- The variables of the loop. -/
structure Scan where
  engineProfile : Engine
  endpoint : String
  hasExplicitEndpoint : Bool := false
  command : Option String := none
  callsign : Option String := none
  switches : Finset Switch := ∅
  remaining : List String := []

/-- `CliCommandMetadata.UsesPrimaryArgument`. -/
def usesPrimaryArgument (command : Option String) : Bool :=
  command.any fun c =>
    c ∈ ["lookup", "stream-lookup", "cache-check", "log", "get", "update", "delete", "restore",
      "import"]

/-- `arg.StartsWith('-')`. -/
def isDashed (arg : String) : Bool := arg.toList.head? == some '-'

/-- The parser shows the help, with what is wrong. -/
def Scan.help (s : Scan) (error : Option String) : CliArguments where
  command := "help"
  endpoint := s.endpoint
  engineProfile := s.engineProfile
  showHelp := true
  error

/-- The end of the loop: a word that no other branch takes. -/
def Scan.other (s : Scan) (arg : String) : Scan :=
  if s.command = none ∧ isDashed arg = false then { s with command := some arg }
  else if s.command ≠ none ∧ s.callsign = none ∧ isDashed arg = false
      ∧ usesPrimaryArgument s.command then
    { s with callsign := some arg }
  else { s with remaining := s.remaining ++ [arg] }

/-- The loop of `Parse`. -/
def scan (env : Environment) (s : Scan) : List String → Except CliArguments Scan
  | [] => .ok s
  | arg :: args =>
      if arg ∈ ["--help", "-h", "help"] then
        if s.command = none then .error (s.help none)
        else scan env { s with remaining := s.remaining ++ [arg] } args
      else if arg = "--engine" then
        match args with
        | [] => .error (s.help (some "Missing value for --engine."))
        | value :: args =>
            match Engine.tryResolve value with
            | none =>
                .error (s.help (some ("Unknown engine profile '" ++ value ++ "'. Known values: "
                  ++ Engine.knownProfileList ++ ".")))
            | some profile =>
                let endpoint :=
                  if s.hasExplicitEndpoint then s.endpoint else env.endpointOf profile
                scan env { s with engineProfile := profile, endpoint } args
      else if arg ∈ ["--endpoint", "-e"] then
        match args with
        | [] => .error (s.help (some "Missing value for --endpoint."))
        | value :: args =>
            scan env { s with endpoint := value, hasExplicitEndpoint := true } args
      else
        match Switch.all.find? fun switch => switch.word == arg with
        | some switch => scan env { s with switches := insert switch s.switches } args
        | none => scan env (s.other arg) args

/-- What the loop starts with. -/
def Scan.start (env : Environment) : Scan where
  engineProfile := env.profile
  endpoint := env.endpointOf env.profile

/-- The result of `Parse` at the end of the loop. -/
def Scan.finish (s : Scan) : CliArguments where
  command := s.command.getD "help"
  endpoint := s.endpoint
  engineProfile := s.engineProfile
  showHelp := s.command.isNone
  callsign := s.callsign
  switches := s.switches
  remainingArgs := s.remaining

/-- `CliArgumentParser.Parse`. -/
def parse (env : Environment) (args : List String) : CliArguments :=
  match scan env (Scan.start env) args with
  | .ok s => s.finish
  | .error arguments => arguments

/-- `CliCommandMetadata.IsCommandHelp`. -/
def isCommandHelp (arguments : CliArguments) : Bool :=
  arguments.callsign.any (fun c => c ∈ ["HELP", "-?", "--HELP"])
    || arguments.remainingArgs.any fun arg => arg ∈ ["help", "-?", "--help"]

/-! ### Words of the parser -/

/-- The words that the parser takes out wherever they stand. -/
def globalWords : List String :=
  ["--engine", "--endpoint", "-e"] ++ Switch.all.map Switch.word

/-- A word that only asks for help. -/
def helpWords : List String := ["--help", "-h", "help"]

variable {env : Environment} {s t : Scan}

theorem find_switch_eq_none {arg : String} (h : arg ∉ globalWords) :
    (Switch.all.find? fun switch => switch.word == arg) = none := by
  rw [List.find?_eq_none]
  intro switch hswitch hword
  have hmem : arg ∈ Switch.all.map Switch.word :=
    List.mem_map.mpr ⟨switch, hswitch, beq_iff_eq.mp hword⟩
  exact h (List.mem_append_right _ hmem)

/-- A command and its primary argument are there. -/
structure Scan.Filled (s : Scan) : Prop where
  command : s.command ≠ none
  callsign : s.callsign ≠ none

theorem Scan.Filled.other (h : s.Filled) (arg : String) :
    s.other arg = { s with remaining := s.remaining ++ [arg] } := by
  rw [Scan.other, if_neg fun hno => h.command hno.1, if_neg fun hno => h.callsign hno.2.1]

/-- A word that looks like an option is no argument. -/
theorem other_dashed (h : s.command ≠ none) {arg : String} (hdashed : isDashed arg = true) :
    s.other arg = { s with remaining := s.remaining ++ [arg] } := by
  rw [Scan.other, if_neg fun hno => h hno.1, if_neg]
  rw [hdashed]
  exact fun hno => Bool.noConfusion hno.2.2.1

/-- A word that the parser has no use for goes on to the command. -/
theorem scan_word (h : s.command ≠ none) {arg : String} (harg : arg ∉ globalWords)
    (hother : s.other arg = { s with remaining := s.remaining ++ [arg] }) (args : List String) :
    scan env s (arg :: args) = scan env { s with remaining := s.remaining ++ [arg] } args := by
  have hengine : arg ≠ "--engine" := fun hno => harg (by simp [globalWords, hno])
  have hendpoint : arg ∉ ["--endpoint", "-e"] := by
    intro hno
    have hmem : arg ∈ ["--engine", "--endpoint", "-e"] := List.mem_cons_of_mem _ hno
    exact harg (List.mem_append_left _ hmem)
  rw [scan.eq_def]
  dsimp only
  by_cases hhelp : arg ∈ ["--help", "-h", "help"]
  · rw [if_pos hhelp, if_neg h]
  · rw [if_neg hhelp, if_neg hengine, if_neg hendpoint, find_switch_eq_none harg]
    dsimp only
    rw [hother]

theorem scan_words (h : s.Filled) {args : List String} (hargs : ∀ arg ∈ args, arg ∉ globalWords) :
    scan env s args = .ok { s with remaining := s.remaining ++ args } := by
  induction args generalizing s with
  | nil => simp [scan]
  | cons arg args ih =>
      have hnext : Scan.Filled { s with remaining := s.remaining ++ [arg] } :=
        ⟨h.command, h.callsign⟩
      rw [scan_word h.command (hargs arg List.mem_cons_self) (h.other arg),
        ih hnext fun a ha => hargs a (List.mem_cons_of_mem arg ha), List.append_assoc,
        List.singleton_append]

theorem length_other_le (s : Scan) (arg : String) :
    (s.other arg).remaining.length ≤ s.remaining.length + 1 := by
  rw [Scan.other]
  split_ifs
  · exact Nat.le_succ _
  · exact Nat.le_succ _
  · simp

theorem not_mem_globalWords_of_help {arg : String} (h : arg ∈ helpWords) : arg ∉ globalWords := by
  revert arg
  simp [helpWords, globalWords, Switch.all, Switch.word]

/-- The words of a list that are none of the parser's. -/
def plainWords (args : List String) : List String :=
  args.filter fun arg => decide (arg ∉ globalWords)

theorem length_plainWords_cons_le (arg : String) (args : List String) :
    (plainWords args).length ≤ (plainWords (arg :: args)).length := by
  rw [plainWords, plainWords, List.filter_cons]
  split_ifs
  · exact Nat.le_succ _
  · exact Nat.le_refl _

/-- The loop keeps at most the words that are none of its own. -/
theorem length_remaining_le {args : List String} (hscan : scan env s args = .ok t) :
    t.remaining.length ≤ s.remaining.length + (plainWords args).length := by
  fun_induction scan env s args with
  | case1 s =>
      cases hscan
      exact Nat.le_add_right _ _
  | case2 => cases hscan
  | case3 s arg args hhelp _ ih =>
      have hplain : plainWords (arg :: args) = arg :: plainWords args :=
        List.filter_cons_of_pos (decide_eq_true (not_mem_globalWords_of_help hhelp))
      have hle := ih hscan
      rw [List.length_append, List.length_singleton] at hle
      rw [hplain, List.length_cons]
      omega
  | case4 => cases hscan
  | case5 => cases hscan
  | case6 s value args profile _ _ _ ih =>
      have hvalue := length_plainWords_cons_le value args
      have hword := length_plainWords_cons_le "--engine" (value :: args)
      exact (ih hscan).trans (Nat.add_le_add_left (hvalue.trans hword) _)
  | case7 => cases hscan
  | case8 s arg _ _ _ value args ih =>
      have hvalue := length_plainWords_cons_le value args
      have hword := length_plainWords_cons_le arg (value :: args)
      exact (ih hscan).trans (Nat.add_le_add_left (hvalue.trans hword) _)
  | case9 s arg args _ _ _ _ _ ih =>
      exact (ih hscan).trans (Nat.add_le_add_left (length_plainWords_cons_le arg args) _)
  | case10 s arg args hhelp hengine hendpoint hswitch ih =>
      have hplain : plainWords (arg :: args) = arg :: plainWords args := by
        apply List.filter_cons_of_pos
        apply decide_eq_true
        intro hmem
        rcases List.mem_append.mp hmem with hmem | hmem
        · rcases List.mem_cons.mp hmem with hmem | hmem
          · exact hengine hmem
          · exact hendpoint hmem
        · obtain ⟨switch, hin, rfl⟩ := List.mem_map.mp hmem
          exact List.find?_eq_none.mp hswitch switch hin (beq_self_eq_true _)
      have hle := ih hscan
      have hother := length_other_le s arg
      rw [hplain, List.length_cons]
      omega

/-- The words behind the primary argument reach the command as they are exactly if the parser
has no use for any of them: it takes a word of its own out wherever it stands. -/
theorem scan_rest_iff (h : s.Filled) (args : List String) :
    scan env s args = .ok { s with remaining := s.remaining ++ args }
      ↔ ∀ arg ∈ args, arg ∉ globalWords := by
  refine ⟨fun hscan => ?_, scan_words h⟩
  have hle := length_remaining_le hscan
  rw [List.length_append] at hle
  have hall : (plainWords args).length = args.length :=
    Nat.le_antisymm (List.length_filter_le _ args) (by omega)
  intro arg harg
  exact of_decide_eq_true (List.length_filter_eq_length_iff.mp hall arg harg)

/-- The loop behind a command and its callsign. -/
def logScan : Scan where
  engineProfile := .localRust
  endpoint := Engine.localRust.defaultEndpoint
  command := some "log"
  callsign := some "K1ABC"

/-- A comment that is a switch is none. -/
theorem scan_rest_json :
    scan {} logScan ["--comment", "--json"]
      ≠ .ok { logScan with remaining := ["--comment", "--json"] } := by
  intro hscan
  have hfilled : logScan.Filled := ⟨Option.some_ne_none _, Option.some_ne_none _⟩
  exact (scan_rest_iff hfilled _).mp hscan "--json" (by simp)
    (by simp [globalWords, Switch.all, Switch.word])

/-- The end of the loop leaves a command and what is kept for it. -/
theorem other_kept (s : Scan) (arg : String) (h : s.command ≠ none) :
    (s.other arg).command = s.command ∧ s.remaining <+: (s.other arg).remaining := by
  rw [Scan.other, if_neg fun hno => h hno.1]
  split_ifs
  · exact ⟨rfl, List.prefix_refl _⟩
  · exact ⟨rfl, List.prefix_append _ _⟩

/-- A command stays, and so does what is kept for it. -/
theorem scan_kept {args : List String} (hscan : scan env s args = .ok t) (h : s.command ≠ none) :
    t.command = s.command ∧ s.remaining <+: t.remaining := by
  fun_induction scan env s args with
  | case1 s =>
      cases hscan
      exact ⟨rfl, List.prefix_refl _⟩
  | case2 => cases hscan
  | case3 s arg args _ _ ih =>
      obtain ⟨hcommand, hremaining⟩ := ih hscan h
      exact ⟨hcommand, (List.prefix_append _ _).trans hremaining⟩
  | case4 => cases hscan
  | case5 => cases hscan
  | case6 _ _ _ _ _ _ _ ih => exact ih hscan h
  | case7 => cases hscan
  | case8 _ _ _ _ _ _ _ ih => exact ih hscan h
  | case9 _ _ _ _ _ _ _ _ ih => exact ih hscan h
  | case10 s arg args _ _ _ _ ih =>
      obtain ⟨hfirst, hprefix⟩ := other_kept s arg h
      obtain ⟨hcommand, hremaining⟩ := ih hscan (hfirst ▸ h)
      exact ⟨hcommand.trans hfirst, hprefix.trans hremaining⟩

/-- Where the loop ends early, the help is shown. -/
theorem showHelp_of_error {args : List String} {arguments : CliArguments}
    (hscan : scan env s args = .error arguments) : arguments.showHelp = true := by
  fun_induction scan env s args with
  | case1 => cases hscan
  | case2 | case4 | case5 | case7 =>
      cases hscan
      rfl
  | case3 _ _ _ _ _ ih => exact ih hscan
  | case6 _ _ _ _ _ _ _ ih => exact ih hscan
  | case8 _ _ _ _ _ _ _ ih => exact ih hscan
  | case9 _ _ _ _ _ _ _ _ ih => exact ih hscan
  | case10 _ _ _ _ _ _ _ ih => exact ih hscan

/-! ### A command line of the tool -/

/-- An option of the parser, with its value. -/
inductive GlobalOption where
  | switch (given : Switch)
  | engine (name : { name : String // (Engine.tryResolve name).isSome })
  | endpoint (short : Bool) (value : String)

namespace GlobalOption

def words : GlobalOption → List String
  | switch given => [given.word]
  | engine name => ["--engine", name]
  | endpoint short value => [if short then "-e" else "--endpoint", value]

/-- What the option sets. -/
def set (env : Environment) (s : Scan) : GlobalOption → Scan
  | switch given => { s with switches := insert given s.switches }
  | engine name =>
      let profile := (Engine.tryResolve name.val).get name.property
      { s with
        engineProfile := profile
        endpoint := if s.hasExplicitEndpoint then s.endpoint else env.endpointOf profile }
  | endpoint _ value => { s with endpoint := value, hasExplicitEndpoint := true }

end GlobalOption

theorem find_switch (switch : Switch) :
    (Switch.all.find? fun other => other.word == switch.word) = some switch := by
  cases switch <;> simp [Switch.all, Switch.word]

/-- No switch is a word of another branch. -/
theorem switch_word (switch : Switch) :
    switch.word ∉ ["--help", "-h", "help"] ∧ switch.word ≠ "--engine"
      ∧ switch.word ∉ ["--endpoint", "-e"] := by
  cases switch <;> simp [Switch.word]

theorem scan_global (option : GlobalOption) (args : List String) :
    scan env s (option.words ++ args) = scan env (option.set env s) args := by
  cases option with
  | switch given =>
      obtain ⟨hhelp, hengine, hendpoint⟩ := switch_word given
      show scan env s (given.word :: args) = _
      rw [scan.eq_def]
      dsimp only
      rw [if_neg hhelp, if_neg hengine, if_neg hendpoint, find_switch]
      rfl
  | engine name =>
      obtain ⟨profile, hprofile⟩ := Option.isSome_iff_exists.mp name.property
      have hget : (Engine.tryResolve name.val).get name.property = profile := by
        simp [hprofile]
      have hhelp : "--engine" ∉ ["--help", "-h", "help"] := by simp
      show scan env s ("--engine" :: name.val :: args) = _
      rw [scan.eq_def]
      dsimp only
      rw [if_neg hhelp, if_pos rfl, hprofile, GlobalOption.set, hget]
  | endpoint short value =>
      have hword : (if short then "-e" else "--endpoint") ∈ ["--endpoint", "-e"]
          ∧ (if short then "-e" else "--endpoint") ∉ ["--help", "-h", "help"]
          ∧ (if short then "-e" else "--endpoint") ≠ "--engine" := by
        cases short <;> simp
      show scan env s ((if short then "-e" else "--endpoint") :: value :: args) = _
      rw [scan.eq_def]
      dsimp only
      rw [if_neg hword.2.1, if_neg hword.2.2, if_pos hword.1]
      rfl

theorem scan_globals (options : List GlobalOption) (args : List String) :
    scan env s (options.flatMap GlobalOption.words ++ args)
      = scan env (options.foldl (GlobalOption.set env) s) args := by
  induction options generalizing s with
  | nil => rfl
  | cons option options ih =>
      rw [List.flatMap_cons, List.append_assoc, scan_global, ih, List.foldl_cons]

/-- Options of the parser are no command and no argument of one. -/
theorem foldl_set_kept (env : Environment) (options : List GlobalOption) (s : Scan) :
    (options.foldl (GlobalOption.set env) s).command = s.command
      ∧ (options.foldl (GlobalOption.set env) s).callsign = s.callsign
      ∧ (options.foldl (GlobalOption.set env) s).remaining = s.remaining := by
  induction options generalizing s with
  | nil => exact ⟨rfl, rfl, rfl⟩
  | cons option options ih =>
      obtain ⟨hcommand, hcallsign, hremaining⟩ := ih (option.set env s)
      rw [List.foldl_cons, hcommand, hcallsign, hremaining]
      cases option <;> exact ⟨rfl, rfl, rfl⟩

/-- A word that is a command or an argument: no option and no call for help. -/
structure IsArgument (arg : String) : Prop where
  plain : isDashed arg = false
  noHelp : arg ≠ "help"

/-- Words with a meaning of their own: options, and the call for help. -/
def Meant (words : List String) : Prop := ∀ word ∈ words, isDashed word = true ∨ word = "help"

theorem IsArgument.not_mem {arg : String} (h : IsArgument arg) {words : List String}
    (hwords : Meant words) : arg ∉ words := by
  intro hmem
  rcases hwords arg hmem with hdashed | hhelp
  · rw [h.plain] at hdashed
    cases hdashed
  · exact h.noHelp hhelp

theorem globalWords_meant : Meant globalWords := by
  simp [Meant, globalWords, Switch.all, Switch.word, isDashed]

/-- Behind a command or before it, an argument is taken by the last branch. -/
theorem scan_argument {arg : String} (h : IsArgument arg) (args : List String) :
    scan env s (arg :: args) = scan env (s.other arg) args := by
  have hhelp : arg ∉ ["--help", "-h", "help"] := h.not_mem (by simp [Meant, isDashed])
  have hengine : arg ∉ ["--engine"] := h.not_mem (by simp [Meant, isDashed])
  have hendpoint : arg ∉ ["--endpoint", "-e"] := h.not_mem (by simp [Meant, isDashed])
  rw [scan.eq_def]
  dsimp only
  rw [if_neg hhelp, if_neg fun hno => hengine (List.mem_singleton.mpr hno), if_neg hendpoint,
    find_switch_eq_none (h.not_mem globalWords_meant)]

/-- The scan of the options that stand before a command. -/
def scanned (env : Environment) (options : List GlobalOption) : Scan :=
  options.foldl (GlobalOption.set env) (Scan.start env)

/-- Options of the parser, a command, its primary argument and words that the parser has no use
for: each is found. -/
theorem parse_command (env : Environment) (options : List GlobalOption) {command primary : String}
    (hcommand : IsArgument command) (huses : usesPrimaryArgument (some command) = true)
    (hprimary : IsArgument primary) {args : List String}
    (hargs : ∀ arg ∈ args, arg ∉ globalWords) :
    parse env (options.flatMap GlobalOption.words ++ command :: primary :: args)
      = { command
          endpoint := (scanned env options).endpoint
          engineProfile := (scanned env options).engineProfile
          callsign := some primary
          switches := (scanned env options).switches
          remainingArgs := args } := by
  obtain ⟨hnone, hfree, hempty⟩ := foldl_set_kept env options (Scan.start env)
  rw [parse, scan_globals]
  rw [← scanned] at hnone hfree hempty ⊢
  generalize scanned env options = s at hnone hfree hempty ⊢
  have hfirst : s.other command = { s with command := some command } := by
    rw [Scan.other, if_pos ⟨hnone, hcommand.plain⟩]
  have hsecond : ({ s with command := some command } : Scan).other primary
      = { s with command := some command, callsign := some primary } := by
    rw [Scan.other, if_neg (by simp), if_pos ⟨by simp, hfree, hprimary.plain, huses⟩]
  have hfilled : Scan.Filled { s with command := some command, callsign := some primary } :=
    ⟨Option.some_ne_none _, Option.some_ne_none _⟩
  rw [scan_argument hcommand, hfirst, scan_argument hprimary, hsecond, scan_words hfilled hargs]
  simp only [Scan.finish, hempty]
  rfl

end QsoRipper.Cli
