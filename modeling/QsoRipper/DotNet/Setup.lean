/-
QsoRipper/DotNet/Setup.lean

The setup of the managed engine: the persisted settings, the station profiles
and the one that is active, the runtime overrides, and the calls that change
them.  Each call validates, changes the state in memory, stores secrets and
writes the file in an order of its own, and may throw on the way.

The JSON text of a stored profile is modelled by what it parses to, `none` for a
text that does not parse.
-/
import QsoRipper.Domain.Station
import QsoRipper.DotNet.QrzSync

namespace QsoRipper.DotNet.Setup

/-! ### Settings -/

/-- `SyncConfig`. -/
structure SyncConfig where
  autoSyncEnabled : Bool := false
  syncIntervalSeconds : ℕ := 300
  conflictPolicy : ConflictPolicy := .lastWriteWins
deriving DecidableEq

/-- `RigControlSettings`. -/
structure RigControlSettings where
  enabled : Option Bool := none
  host : Option String := none
  port : Option ℕ := none
  readTimeoutMs : Option ℕ := none
  staleThresholdMs : Option ℕ := none
deriving DecidableEq

/-- `WsjtxIngestSettings`. -/
structure WsjtxIngestSettings where
  enabled : Bool := false
  udpEnabled : Option Bool := none
  udpBind : String := ""
  adifTailEnabled : Bool := false
  adifTailPath : Option String := none
  pollIntervalMs : ℕ := 0
  syncToQrz : Bool := false
deriving DecidableEq

/-- `ManagedPersistedStationProfile`, with what its JSON parses to. -/
structure ManagedPersistedStationProfile where
  profileId : String
  profile : Option StationProfile

/-- `SharedPersistedSetupConfig`, without the tables no call here changes. -/
structure SharedPersistedSetupConfig where
  logbookFilePath : Option String := none
  storageBackend : Option String := none
  storageSqlitePath : Option String := none
  activeProfileId : Option String := none
  stationProfiles : List ManagedPersistedStationProfile := []
  qrzXmlUsername : Option String := none
  qrzLogbookBaseUrl : Option String := none
  syncConfig : SyncConfig := {}
  rigControl : Option RigControlSettings := none
  wsjtxIngest : Option WsjtxIngestSettings := none
  wsjtxIngestWriteOverride : Option WsjtxIngestSettings := none

/-- `QrzSecret`. -/
inductive QrzSecret where
  | xmlPassword
  | logbookApiKey
deriving DecidableEq

/-- The part of `ManagedEngineState` that the setup calls change, with what the
platform's store holds for the two secrets. -/
structure ManagedEngineState where
  storageBackendName : String
  currentPersistenceLocation : Option String
  ownsSyncEngine : Bool
  persistedSetup : SharedPersistedSetupConfig
  qrzXmlUsername : Option String
  qrzXmlPassword : Option String
  hasQrzXmlPassword : Bool
  qrzLogbookApiKey : Option String
  hasQrzLogbookApiKey : Bool
  baseQrzXmlUsername : Option String
  baseQrzXmlPassword : Option String
  baseQrzLogbookApiKey : Option String
  baseRigControl : Option RigControlSettings
  syncConfig : SyncConfig
  rigControl : Option RigControlSettings
  stationProfiles : List ManagedPersistedStationProfile
  activeProfileId : Option String
  sessionOverrideProfile : Option StationProfile
  runtimeOverrides : String → Option String
  secrets : QrzSecret → Option String

/-! ### What a call meets -/

/-- The exceptions. -/
inductive SetupException where
  | argument (message : String)
  | invalidOperation (message : String)
  | secretStore (message : String)
  | invalidJson
  | io (message : String)
deriving DecidableEq

/-- What the engine's surroundings do while a call is served. -/
structure Surroundings where
  /-- `IQrzSecretStore.Set` throws. -/
  refuses : QrzSecret → Option String := fun _ => none
  /-- Writing the configuration file throws. -/
  unwritable : Option String := none
  environment : String → Option String := fun _ => none
  /-- `Uri.TryCreate(…, UriKind.Absolute, …)`. -/
  isAbsoluteUri : String → Bool := fun _ => true

/-- A call: what it returns or throws, and the state afterwards. -/
abbrev SetupM := ExceptT SetupException (StateM ManagedEngineState)

/-- Serve a call. -/
def serve {α : Type} (m : SetupM α) (s : ManagedEngineState) :
    Except SetupException α × ManagedEngineState := m s

section Serve

variable {α β : Type} (s : ManagedEngineState)

@[simp] theorem serve_pure (a : α) : serve (pure a) s = (.ok a, s) := rfl

@[simp] theorem serve_throw (error : SetupException) :
    serve (throw error : SetupM α) s = (.error error, s) := rfl

@[simp] theorem serve_modify (f : ManagedEngineState → ManagedEngineState) :
    serve (modify f) s = (.ok (), f s) := rfl

@[simp] theorem serve_get : serve get s = (.ok s, s) := rfl

/-- One statement after another. -/
theorem serve_bind (m : SetupM α) (f : α → SetupM β) :
    serve (m >>= f) s
      = match serve m s with
        | (.ok a, s') => serve (f a) s'
        | (.error error, s') => (.error error, s') := by
  show (ExceptT.bindCont f (m s).1) (m s).2 = _
  rcases hserve : m s with ⟨error | a, s'⟩ <;> simp [serve, hserve] <;> rfl

@[simp] theorem serve_map (f : α → β) (m : SetupM α) :
    serve (f <$> m) s = ((serve m s).1.map f, (serve m s).2) := by
  rw [← bind_pure_comp, serve_bind]
  rcases serve m s with ⟨error | a, s'⟩ <;> rfl

end Serve

/-! ### Keys of the runtime configuration -/

/-- `StorageBackendKey`. -/
def storageBackendKey : String := "QSORIPPER_STORAGE_BACKEND"

/-- `QrzXmlUsernameKey`. -/
def qrzXmlUsernameKey : String := "QSORIPPER_QRZ_XML_USERNAME"

/-- `QrzXmlPasswordKey`. -/
def qrzXmlPasswordKey : String := "QSORIPPER_QRZ_XML_PASSWORD"

/-- `QrzLogbookApiKeyKey`. -/
def qrzLogbookApiKeyKey : String := "QSORIPPER_QRZ_LOGBOOK_API_KEY"

/-- `RigEnabledKey`. -/
def rigEnabledKey : String := "QSORIPPER_RIGCTLD_ENABLED"

/-- `_runtimeOverrides[key] = value`, or `Remove(key)`. -/
def ManagedEngineState.override (s : ManagedEngineState) (key : String) (value : Option String) :
    ManagedEngineState :=
  { s with runtimeOverrides := Function.update s.runtimeOverrides key value }

/-! ### Normalisation -/

/-- `NormalizeOptional`. -/
def normalizeOptional (value : Option String) : Option String :=
  value.bind fun value => if NetText.isWhiteSpace value then none else some (Text.trim value)

/-- `ToLowerInvariant`, as far as the letters of an id go: besides the capitals
only the Kelvin sign becomes one. -/
def lowerIdChar (c : Char) : Char :=
  let n := c.toNat
  if 'A'.toNat ≤ n ∧ n ≤ 'Z'.toNat then Char.ofNat (n + 32) else if n = 0x212A then 'k' else c

/-- `[a-z0-9]`. -/
def isIdChar (c : Char) : Bool :=
  let n := c.toNat
  decide ('a'.toNat ≤ n ∧ n ≤ 'z'.toNat) || decide ('0'.toNat ≤ n ∧ n ≤ '9'.toNat)

/-- `Regex.Replace(…, "[^a-z0-9]+", "-")`, given whether a run has been replaced
just before. -/
def replaceRuns : Bool → List Char → List Char
  | _, [] => []
  | replaced, c :: cs =>
      if isIdChar c then c :: replaceRuns false cs
      else if replaced then replaceRuns true cs else '-' :: replaceRuns true cs

/-- `Trim('-')`. -/
def trimDashes (cs : List Char) : List Char := Text.trimList (· == '-') cs

/-- One candidate of `NormalizeProfileIdOrDefault`. -/
def normalizeProfileId (candidate : Option String) : Option String :=
  candidate.bind fun candidate =>
    let normalized := trimDashes (replaceRuns false ((Text.trim candidate).toList.map lowerIdChar))
    if normalized.isEmpty then none else some (String.ofList normalized)

/-- `NormalizeProfileIdOrDefault`. -/
def normalizeProfileIdOrDefault (candidates : List (Option String)) : String :=
  (candidates.findSome? normalizeProfileId).getD "default"

/-- `NormalizeStationProfile`. -/
def normalizeStationProfile (profile : StationProfile) : Except SetupException StationProfile :=
  match normalizeOptional profile.profileName, normalizeOptional (some profile.stationCallsign) with
  | none, _ => .error (.invalidOperation "Station profile name is required.")
  | some _, none => .error (.invalidOperation "Station callsign is required.")
  | some profileName, some stationCallsign =>
      let upper (value : Option String) : Option String :=
        if NetText.isNullOrWhiteSpace value then value
        else value.map fun value => NetText.toUpperInvariant (Text.trim value)
      .ok { profile with
        profileName := some profileName
        stationCallsign := NetText.toUpperInvariant stationCallsign
        operatorCallsign := upper profile.operatorCallsign
        grid := upper profile.grid }

/-- `NormalizeSyncConfig`. -/
def normalizeSyncConfig (config : SyncConfig) : SyncConfig :=
  if config.conflictPolicy = .unspecified then { config with conflictPolicy := .flagForReview }
  else config

/-- `ushort.TryParse`. -/
def tryParseUInt16 (text : String) : Option ℕ :=
  let isWhite (c : Char) : Bool := c == ' ' || decide (0x9 ≤ c.toNat ∧ c.toNat ≤ 0xD)
  let (negative, cs) :=
    match text.toList.dropWhile isWhite with
    | '-' :: cs => (true, cs)
    | '+' :: cs => (false, cs)
    | cs => (false, cs)
  let digits := cs.takeWhile Char.isDigit
  let value := digits.foldl (fun value c => value * 10 + (c.toNat - '0'.toNat)) 0
  if digits.isEmpty || !((cs.dropWhile Char.isDigit).dropWhile isWhite).all (·.toNat = 0) then none
  else if value ≤ 65535 ∧ (negative → value = 0) then some value else none

/-- `ValidateHostPort`. -/
def validateHostPort (bind label : String) : Except SetupException Unit :=
  let portText := (bind.toList.reverse.takeWhile (· ≠ ':')).reverse
  -- the characters before the last colon
  let host := bind.toList.take (bind.toList.length - (portText.length + 1))
  if portText.length = bind.toList.length ∨ host = [] ∨ portText = [] then
    .error (.invalidOperation (label ++ " must be in host:port form."))
  else
    match tryParseUInt16 (String.ofList portText) with
    | none | some 0 => .error (.invalidOperation (label ++ " port must be between 1 and 65535."))
    | some _ => .ok ()

/-- `NormalizeWsjtxIngest`. -/
def normalizeWsjtxIngest (settings : WsjtxIngestSettings) :
    Except SetupException WsjtxIngestSettings :=
  let udpBind := (normalizeOptional (some settings.udpBind)).getD "127.0.0.1:2237"
  let adifTailPath := normalizeOptional settings.adifTailPath
  match validateHostPort udpBind "WSJT-X UDP bind" with
  | .error error => .error error
  | .ok () =>
      if settings.adifTailEnabled && adifTailPath.isNone then
        .error (.invalidOperation
          "WSJT-X ADIF tail path is required when ADIF tailing is enabled.")
      else
        .ok { settings with
          udpEnabled := some (settings.udpEnabled.getD true)
          udpBind := udpBind
          adifTailPath := adifTailPath
          pollIntervalMs := if settings.pollIntervalMs = 0 then 1000 else settings.pollIntervalMs }

/-! ### What the calls share -/

/-- `PersistRequestedSecret`. -/
def persistRequestedSecret (w : Surroundings) (secret : QrzSecret) (value : Option String) :
    SetupM Unit := do
  match value, w.refuses secret with
  | none, _ => return
  | some _, some message => throw (.secretStore message)
  | some value, none =>
      modify fun s => { s with secrets := Function.update s.secrets secret (some value) }

/-- `GetEnvironmentVariable(…)?.Trim()`. -/
def Surroundings.trimmed (w : Surroundings) (name : String) : Option String :=
  (w.environment name).map Text.trim

/-- The exception of `RebuildSyncEngineNoLock`. -/
def rebuildError (w : Surroundings) (s : ManagedEngineState) : Option SetupException :=
  let apiKey := (w.trimmed qrzLogbookApiKeyKey).or s.qrzLogbookApiKey
  let baseUrl := (w.trimmed "QSORIPPER_QRZ_LOGBOOK_BASE_URL").or
    (normalizeOptional s.persistedSetup.qrzLogbookBaseUrl)
  if NetText.isNullOrWhiteSpace apiKey || NetText.isNullOrWhiteSpace baseUrl then none
  else if w.isAbsoluteUri (baseUrl.getD "") then none
  else some (.invalidOperation ("Invalid QRZ logbook base URL '" ++ baseUrl.getD "" ++ "'."))

/-- `if (_ownsSyncEngine) RebuildSyncEngineNoLock()`, which changes nothing here
but may throw. -/
def rebuildSyncEngine (w : Surroundings) : SetupM Unit := do
  let s ← get
  if s.ownsSyncEngine then
    match rebuildError w s with
    | some error => throw error
    | none => return

/-- `ParseProtoOrDefault`. -/
def parseProfile (entry : ManagedPersistedStationProfile) : SetupM StationProfile :=
  match entry.profile with
  | none => throw .invalidJson
  | some profile => return profile

/-- `SyncPersistedProfilesNoLock`. -/
def syncPersistedProfiles (s : ManagedEngineState) : ManagedEngineState :=
  { s with persistedSetup := { s.persistedSetup with
      activeProfileId := s.activeProfileId
      stationProfiles := s.stationProfiles } }

/-- The exception of `SharedSetupConfigPersistence.Save`, which parses every
stored profile before it writes. -/
def saveError (w : Surroundings) (s : ManagedEngineState) : Option SetupException :=
  if s.persistedSetup.stationProfiles.any (·.profile.isNone) then some .invalidJson
  else w.unwritable.map .io

/-- `PersistNoLock`. -/
def persist (w : Surroundings) : SetupM Unit := do
  match saveError w (← get) with
  | some error => throw error
  | none =>
      modify fun s => { s with
        persistedSetup := { s.persistedSetup with wsjtxIngestWriteOverride := none } }

/-- `entry.ProfileId` is the one that is looked for. -/
def ManagedPersistedStationProfile.named (profileId : String)
    (entry : ManagedPersistedStationProfile) : Bool := entry.profileId == profileId

/-- `existing.ProfileJson = serialized`, for the first entry of the id, or
`Add`. -/
def putProfile (profileId : String) (profile : StationProfile) :
    List ManagedPersistedStationProfile → List ManagedPersistedStationProfile
  | [] => [⟨profileId, some profile⟩]
  | entry :: entries =>
      if entry.named profileId then { entry with profile := some profile } :: entries
      else entry :: putProfile profileId profile entries

/-- `StationProfileRecord`. -/
structure StationProfileRecord where
  profileId : String
  profile : StationProfile
  isActive : Bool

/-- `BuildStationProfileRecordNoLock`. -/
def buildStationProfileRecord (entry : ManagedPersistedStationProfile) :
    SetupM StationProfileRecord := do
  let profile ← parseProfile entry
  let s ← get
  return ⟨entry.profileId, profile, s.activeProfileId == some entry.profileId⟩

/-- The changes of `SaveStationProfileNoLock`. -/
def withStationProfile (profileId : String) (profile : StationProfile) (makeActive : Bool)
    (s : ManagedEngineState) : ManagedEngineState :=
  { s with
    stationProfiles := putProfile profileId profile s.stationProfiles
    activeProfileId :=
      if makeActive || NetText.isNullOrWhiteSpace s.activeProfileId then some profileId
      else s.activeProfileId }

/-- `SaveStationProfileNoLock`. -/
def saveStationProfileNoLock (profileId : String) (profile : StationProfile) (makeActive : Bool) :
    SetupM StationProfileRecord := do
  match normalizeStationProfile profile with
  | .error error => throw error
  | .ok normalizedProfile =>
      let normalizedId := normalizeProfileIdOrDefault
        [some profileId, normalizedProfile.profileName, some normalizedProfile.stationCallsign]
      modify (withStationProfile normalizedId normalizedProfile makeActive)
      buildStationProfileRecord ⟨normalizedId, some normalizedProfile⟩

/-! ### Station profiles -/

/-- `SaveStationProfileRequest`. -/
structure SaveStationProfileRequest where
  profileId : Option String := none
  profile : Option StationProfile
  makeActive : Bool := false

/-- `SaveStationProfile`. -/
def saveStationProfile (w : Surroundings) (request : SaveStationProfileRequest) :
    SetupM StationProfileRecord := do
  match request.profile with
  | none => throw (.invalidOperation "profile is required.")
  | some profile =>
      let profileId := normalizeProfileIdOrDefault
        [request.profileId, profile.profileName, some profile.stationCallsign]
      let record ← saveStationProfileNoLock profileId profile request.makeActive
      modify syncPersistedProfiles
      persist w
      return record

/-- `ArgumentException.ThrowIfNullOrWhiteSpace(profileId)`. -/
def throwIfWhiteSpace (profileId : String) : SetupM Unit := do
  if NetText.isWhiteSpace profileId then
    throw (.argument "The value cannot be an empty string or composed entirely of whitespace.")

/-- `SetActiveStationProfile`; `none` for a profile that is not there. -/
def setActiveStationProfile (w : Surroundings) (profileId : String) :
    SetupM (Option StationProfileRecord) := do
  throwIfWhiteSpace profileId
  let s ← get
  match s.stationProfiles.find? (·.named (Text.trim profileId)) with
  | none => return none
  | some stored =>
      modify fun s => syncPersistedProfiles { s with activeProfileId := some stored.profileId }
      persist w
      some <$> buildStationProfileRecord stored

/-- `StationProfileDeleteOutcome`. -/
inductive StationProfileDeleteOutcome where
  | deleted
  | notFound
  | activeProfile
deriving DecidableEq

/-- The state without the profiles of an id. -/
def withoutStationProfile (profileId : String) (s : ManagedEngineState) : ManagedEngineState :=
  { s with stationProfiles := s.stationProfiles.filter fun entry => !entry.named profileId }

/-- `DeleteStationProfile`. -/
def deleteStationProfile (w : Surroundings) (profileId : String) :
    SetupM StationProfileDeleteOutcome := do
  throwIfWhiteSpace profileId
  let s ← get
  if s.activeProfileId == some (Text.trim profileId) then return .activeProfile
  if s.stationProfiles.any (·.named (Text.trim profileId)) then
    modify fun s => syncPersistedProfiles (withoutStationProfile (Text.trim profileId) s)
    persist w
    return .deleted
  else return .notFound

/-- `SetSessionStationProfileOverride`. -/
def setSessionStationProfileOverride (profile : StationProfile) : SetupM Unit := do
  match normalizeStationProfile profile with
  | .error error => throw error
  | .ok profile => modify fun s => { s with sessionOverrideProfile := some profile }

/-- `ClearSessionStationProfileOverride`. -/
def clearSessionStationProfileOverride : SetupM Unit :=
  modify fun s => { s with sessionOverrideProfile := none }

/-! ### The setup -/

/-- `SaveSetupRequest`. -/
structure SaveSetupRequest where
  sqlitePath : Option String := none
  stationProfile : Option StationProfile := none
  qrzXmlUsername : Option String := none
  qrzXmlPassword : Option String := none
  logFilePath : Option String := none
  qrzLogbookApiKey : Option String := none
  syncConfig : Option SyncConfig := none
  rigControl : Option RigControlSettings := none
  persistenceValues : List (String × String) := []
  wsjtxIngest : Option WsjtxIngestSettings := none

/-- The user name of a `SaveSetup`. -/
def withQrzXmlUsername (username : Option String) (s : ManagedEngineState) : ManagedEngineState :=
  match normalizeOptional username with
  | none => s
  | some username =>
      { s with
        qrzXmlUsername := some username
        persistedSetup := { s.persistedSetup with qrzXmlUsername := some username } }.override
          qrzXmlUsernameKey none

/-- Its password. -/
def withQrzXmlPassword (password : Option String) (s : ManagedEngineState) : ManagedEngineState :=
  match password with
  | none => s
  | some password =>
      { s with qrzXmlPassword := some password, hasQrzXmlPassword := true }.override
        qrzXmlPasswordKey none

/-- Its API key. -/
def withQrzLogbookApiKey (apiKey : Option String) (s : ManagedEngineState) : ManagedEngineState :=
  match apiKey with
  | none => s
  | some apiKey =>
      { s with qrzLogbookApiKey := some apiKey, hasQrzLogbookApiKey := true }.override
        qrzLogbookApiKeyKey none

/-- Its sync settings. -/
def withSyncConfig (config : Option SyncConfig) (s : ManagedEngineState) : ManagedEngineState :=
  match config with
  | none => s
  | some config =>
      { s with
        syncConfig := normalizeSyncConfig config
        persistedSetup := { s.persistedSetup with syncConfig := normalizeSyncConfig config } }

/-- Its rig. -/
def withRigControl (settings : Option RigControlSettings) (s : ManagedEngineState) :
    ManagedEngineState :=
  match settings with
  | none => s
  | some settings =>
      { s with
        rigControl := some settings
        persistedSetup := { s.persistedSetup with rigControl := some settings } }

/-- Its ingest settings, normalised before. -/
def withWsjtxIngest (settings : Option WsjtxIngestSettings) (s : ManagedEngineState) :
    ManagedEngineState :=
  match settings with
  | none => s
  | some settings =>
      { s with
        persistedSetup := { s.persistedSetup with
          wsjtxIngest := some settings
          wsjtxIngestWriteOverride := some settings } }

/-- `PersistenceSetup.IsPathKey`. -/
def isPathKey (key : String) : Bool :=
  NetText.equalsIgnoreCase (Text.trim key) "persistence.path"

/-- `IsSqliteBackendNoLock`. -/
def ManagedEngineState.isSqlite (s : ManagedEngineState) : Bool :=
  NetText.equalsIgnoreCase s.storageBackendName "sqlite"

/-- `GetPersistedLogFilePath`. -/
def SharedPersistedSetupConfig.getPersistedLogFilePath (c : SharedPersistedSetupConfig) :
    Option String :=
  (normalizeOptional c.logbookFilePath).or (normalizeOptional c.storageSqlitePath)

/-- The path that a request asks for. -/
def SaveSetupRequest.requestedPath (request : SaveSetupRequest) : Option String :=
  (normalizeOptional ((request.persistenceValues.find? (isPathKey ·.1)).map (·.2))).or
    ((normalizeOptional request.logFilePath).or (normalizeOptional request.sqlitePath))

/-- `UpdatePersistedStorageSettingsNoLock`. -/
def withStorage (request : SaveSetupRequest) (s : ManagedEngineState) : ManagedEngineState :=
  if s.isSqlite then
    { s with persistedSetup := { s.persistedSetup with
        logbookFilePath := request.requestedPath.or
          ((normalizeOptional s.currentPersistenceLocation).or
            (normalizeOptional s.persistedSetup.getPersistedLogFilePath))
        storageBackend := none
        storageSqlitePath := none } }
  else
    { s with persistedSetup := { s.persistedSetup with
        logbookFilePath := none
        storageBackend := some "memory"
        storageSqlitePath := none } }

/-- The base values of the runtime configuration. -/
def withBase (s : ManagedEngineState) : ManagedEngineState :=
  { s with
    baseQrzXmlUsername := s.qrzXmlUsername
    baseQrzXmlPassword := s.qrzXmlPassword
    baseQrzLogbookApiKey := s.qrzLogbookApiKey
    baseRigControl := s.rigControl }

/-- The credentials of a `SaveSetup`. -/
def withCredentials (request : SaveSetupRequest) (s : ManagedEngineState) : ManagedEngineState :=
  let s := withQrzXmlUsername request.qrzXmlUsername s
  let s := withQrzXmlPassword (normalizeOptional request.qrzXmlPassword) s
  withQrzLogbookApiKey (normalizeOptional request.qrzLogbookApiKey) s

/-- Its other settings, and the copies for the file. -/
def withSettings (request : SaveSetupRequest) (wsjtxIngest : Option WsjtxIngestSettings)
    (s : ManagedEngineState) : ManagedEngineState :=
  let s := withSyncConfig request.syncConfig s
  let s := withRigControl request.rigControl s
  let s := withWsjtxIngest wsjtxIngest s
  let s := withStorage request s
  let s := syncPersistedProfiles s
  withBase (s.override storageBackendKey none)

/-- `request.WsjtxIngest`, normalised. -/
def normalizedIngest (request : SaveSetupRequest) : SetupM (Option WsjtxIngestSettings) :=
  match request.wsjtxIngest with
  | none => return none
  | some settings =>
      match normalizeWsjtxIngest settings with
      | .error error => throw error
      | .ok settings => return some settings

/-- The profile of a `SaveSetup`. -/
def saveRequestedProfile (request : SaveSetupRequest) : SetupM Unit :=
  match request.stationProfile with
  | none => return
  | some profile => do
      let profileId :=
        normalizeProfileIdOrDefault [profile.profileName, some profile.stationCallsign]
      let _ ← saveStationProfileNoLock profileId profile true

/-- `GetPersistedActiveProfileNoLock`, which the status is built with. -/
def getPersistedActiveProfile : SetupM (Option StationProfile) := do
  let s ← get
  match s.stationProfiles.find? fun entry => s.activeProfileId == some entry.profileId with
  | none => return none
  | some stored => some <$> parseProfile stored

/-- `SaveSetup`. -/
def saveSetup (w : Surroundings) (request : SaveSetupRequest) : SetupM Unit := do
  persistRequestedSecret w .xmlPassword (normalizeOptional request.qrzXmlPassword)
  persistRequestedSecret w .logbookApiKey (normalizeOptional request.qrzLogbookApiKey)
  let wsjtxIngest ← normalizedIngest request
  saveRequestedProfile request
  modify (withCredentials request)
  if (normalizeOptional request.qrzLogbookApiKey).isSome then rebuildSyncEngine w
  modify (withSettings request wsjtxIngest)
  persist w
  let _ ← getPersistedActiveProfile

/-! ### The runtime configuration -/

/-- `RuntimeConfigMutation`. -/
structure RuntimeConfigMutation where
  key : String
  /-- `Kind == RuntimeConfigMutationKind.Clear`. -/
  clear : Bool := false
  value : Option String := none

/-- `bool.TryParse`. -/
def tryParseBool (value : Option String) : Option Bool :=
  value.bind fun value =>
    if NetText.equalsIgnoreCase (Text.trim value) "true" then some true
    else if NetText.equalsIgnoreCase (Text.trim value) "false" then some false
    else none

/-- The user name of a mutation. -/
def RuntimeConfigMutation.username (m : RuntimeConfigMutation) (s : ManagedEngineState) :
    ManagedEngineState :=
  if m.clear then { s with qrzXmlUsername := none }.override qrzXmlUsernameKey (some "")
  else
    { s with qrzXmlUsername := normalizeOptional m.value }.override qrzXmlUsernameKey
      (normalizeOptional m.value)

/-- Its password; `***` stands for the one that is there. -/
def RuntimeConfigMutation.password (m : RuntimeConfigMutation) (s : ManagedEngineState) :
    ManagedEngineState :=
  if m.clear then
    { s with qrzXmlPassword := none, hasQrzXmlPassword := false }.override qrzXmlPasswordKey
      (some "")
  else
    let qrzXmlPassword := ((normalizeOptional m.value).filter (· ≠ "***")).or s.qrzXmlPassword
    { s with
      qrzXmlPassword := qrzXmlPassword
      hasQrzXmlPassword := qrzXmlPassword.isSome }.override qrzXmlPasswordKey (some "***")

/-- Its API key. -/
def RuntimeConfigMutation.apiKey (m : RuntimeConfigMutation) (s : ManagedEngineState) :
    ManagedEngineState :=
  let value := if m.clear then none else normalizeOptional m.value
  { s with qrzLogbookApiKey := value, hasQrzLogbookApiKey := value.isSome }.override
    qrzLogbookApiKeyKey (some (if value.isSome then "***" else ""))

/-- Whether the rig is enabled. -/
def withRigEnabled (enabled : Bool) (text : String) (s : ManagedEngineState) :
    ManagedEngineState :=
  { s with rigControl := some { s.rigControl.getD {} with enabled := some enabled } }.override
    rigEnabledKey (some text)

/-- One round of the loop of `ApplyRuntimeConfig`. -/
def applyMutation (w : Surroundings) (m : RuntimeConfigMutation) : SetupM Unit := do
  if m.key = qrzXmlUsernameKey then modify m.username
  else if m.key = qrzXmlPasswordKey then modify m.password
  else if m.key = qrzLogbookApiKeyKey then
    modify m.apiKey
    rebuildSyncEngine w
  else if m.key = rigEnabledKey then
    if m.clear then modify (withRigEnabled false "")
    else
      match tryParseBool m.value with
      | some enabled => modify (withRigEnabled enabled (if enabled then "TRUE" else "FALSE"))
      | none =>
          throw (.invalidOperation "QSORIPPER_RIGCTLD_ENABLED expects true or false.")
  else throw (.invalidOperation ("Unsupported runtime config key: " ++ m.key))

/-- `GetEffectiveActiveProfileNoLock`, which the snapshot is built with. -/
def getEffectiveActiveProfile : SetupM (Option StationProfile) := do
  match (← get).sessionOverrideProfile with
  | some profile => return some profile
  | none => getPersistedActiveProfile

/-- `ApplyRuntimeConfig`. -/
def applyRuntimeConfig (w : Surroundings) (mutations : List RuntimeConfigMutation) :
    SetupM Unit := do
  mutations.forM (applyMutation w)
  let _ ← getEffectiveActiveProfile

end QsoRipper.DotNet.Setup
