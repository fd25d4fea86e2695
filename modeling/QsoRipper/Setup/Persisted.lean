/-
QsoRipper/Setup/Persisted.lean

The persisted setup: its sections, the station profile catalog with its
operations, and how a `SaveSetup` request becomes the next setup.

Enumerations of a request that carry an unknown number are read as unspecified.
-/
import QsoRipper.Lib.FloatText
import QsoRipper.Lib.Number
import QsoRipper.Setup.ProfileId
import QsoRipper.Storage.Store

namespace QsoRipper.Setup

/-! ### Requests -/

/-- `StorageBackend`. -/
inductive StorageBackend where
  | unspecified
  | memory
  | sqlite
  deriving DecidableEq

/-- `ConflictPolicy`. -/
inductive ConflictPolicy where
  | unspecified
  | lastWriteWins
  | flagForReview
  deriving DecidableEq

/-- `SyncConfig`. -/
structure SyncConfig where
  autoSyncEnabled : Bool := false
  syncIntervalSeconds : ℕ := 0
  conflictPolicy : ConflictPolicy := .unspecified

/-- `RigControlSettings`. -/
structure RigControlSettings where
  enabled : Option Bool := none
  host : Option String := none
  port : Option ℕ := none
  readTimeoutMs : Option ℕ := none
  staleThresholdMs : Option ℕ := none

/-- `WsjtxIngestSettings`. -/
structure WsjtxIngestSettings where
  enabled : Bool := false
  udpEnabled : Option Bool := none
  udpBind : String := ""
  adifTailEnabled : Bool := false
  adifTailPath : Option String := none
  pollIntervalMs : ℕ := 0
  syncToQrz : Bool := false

/-- `SetupFieldValue`. -/
structure SetupFieldValue where
  key : String
  value : Option String

/-- `SaveSetupRequest`. -/
structure SaveSetupRequest where
  storageBackend : StorageBackend := .unspecified
  sqlitePath : Option String := none
  stationProfile : Option StationProfile := none
  qrzXmlUsername : Option String := none
  qrzXmlPassword : Option String := none
  logFilePath : Option String := none
  qrzLogbookApiKey : Option String := none
  syncConfig : Option SyncConfig := none
  rigControl : Option RigControlSettings := none
  persistenceValues : List SetupFieldValue := []
  wsjtxIngest : Option WsjtxIngestSettings := none

/-! ### Normalising a station profile -/

/-- `normalize_optional_callsign`. -/
def normalizeOptionalCallsign (value : Option String) : Option String :=
  (value.bind trimmedNonEmpty).map normalizeCallsign

/-- `station_profile_has_values`. -/
def stationProfileHasValues (profile : StationProfile) : Bool :=
  (trimmedNonEmpty profile.stationCallsign).isSome
    || (normalizeOptionalString profile.profileName).isSome
    || (normalizeOptionalString profile.operatorCallsign).isSome
    || (normalizeOptionalString profile.operatorName).isSome
    || (normalizeOptionalString profile.grid).isSome
    || (normalizeOptionalString profile.county).isSome
    || (normalizeOptionalString profile.state).isSome
    || (normalizeOptionalString profile.country).isSome
    || profile.dxcc.isSome
    || profile.cqZone.isSome
    || profile.ituZone.isSome
    || profile.latitude.isSome
    || profile.longitude.isSome
    || (normalizeOptionalString profile.arrlSection).isSome

/-- `validate_optional_positive_integer`. -/
def validateOptionalPositiveInteger (label : String) : Option ℕ → Except String (Option ℕ)
  | some 0 => .error (label ++ " must be greater than 0.")
  | some value => .ok (some value)
  | none => .ok none

/-- `validate_optional_bounded_float`, between `-bound` and `bound`, which are
written `min` and `max`. -/
def validateOptionalBoundedFloat (label : String) (value : Option Float64) (bound : Float64)
    (min max : String) : Except String (Option Float64) :=
  match value with
  | none => .ok none
  | some value =>
      if !value.isFinite then .error (label ++ " must be a finite decimal value.")
      else if !Float64.within bound value then
        .error (label ++ " must be between " ++ min ++ " and " ++ max ++ ".")
      else .ok (some value)

/-- `normalize_station_profile`. -/
def normalizeStationProfile (profile : StationProfile) : Except String StationProfile := do
  let some stationCallsign := normalizeOptionalCallsign (some profile.stationCallsign)
    | throw "station_profile.station_callsign is required."
  let dxcc ← validateOptionalPositiveInteger "station_profile.dxcc" profile.dxcc
  let cqZone ← validateOptionalPositiveInteger "station_profile.cq_zone" profile.cqZone
  let ituZone ← validateOptionalPositiveInteger "station_profile.itu_zone" profile.ituZone
  let latitude ← validateOptionalBoundedFloat "station_profile.latitude" profile.latitude .ninety
    "-90" "90"
  let longitude ← validateOptionalBoundedFloat "station_profile.longitude" profile.longitude
    .oneHundredEighty "-180" "180"
  let normalized : StationProfile :=
    { profileName := (normalizeOptionalString profile.profileName).or (some defaultProfileName)
      stationCallsign
      operatorCallsign :=
        (normalizeOptionalCallsign profile.operatorCallsign).or (some stationCallsign)
      operatorName := normalizeOptionalString profile.operatorName
      grid := normalizeOptionalString profile.grid
      county := normalizeOptionalString profile.county
      state := normalizeOptionalString profile.state
      country := normalizeOptionalString profile.country
      arrlSection := normalizeOptionalString profile.arrlSection
      dxcc, cqZone, ituZone, latitude, longitude }
  if stationProfileHasValues normalized then pure normalized
  else throw "station_profile must include at least a station_callsign."

/-! ### Sections -/

/-- `PersistedLogbookConfig`. -/
structure PersistedLogbookConfig where
  filePath : Option String := none
  deriving DecidableEq

/-- `PersistedLogbookConfig::is_empty`. -/
def PersistedLogbookConfig.isEmpty (config : PersistedLogbookConfig) : Bool :=
  (normalizeOptionalString config.filePath).isNone

/-- `PersistedStorageConfig`. -/
structure PersistedStorageConfig where
  backend : Option String := none
  sqlitePath : Option String := none
  deriving DecidableEq

/-- `PersistedStorageConfig::is_empty`. -/
def PersistedStorageConfig.isEmpty (config : PersistedStorageConfig) : Bool :=
  config.backend.isNone && (normalizeOptionalString config.sqlitePath).isNone

/-- `PersistedStationProfile`. -/
structure PersistedStationProfile where
  profileName : Option String := none
  stationCallsign : Option String := none
  operatorCallsign : Option String := none
  operatorName : Option String := none
  grid : Option String := none
  county : Option String := none
  state : Option String := none
  country : Option String := none
  arrlSection : Option String := none
  dxcc : Option ℕ := none
  cqZone : Option ℕ := none
  ituZone : Option ℕ := none
  latitude : Option Float64 := none
  longitude : Option Float64 := none
  deriving DecidableEq

/-- `PersistedStationProfile::from_proto`. -/
def PersistedStationProfile.fromProto (profile : StationProfile) : PersistedStationProfile where
  profileName := normalizeOptionalString profile.profileName
  stationCallsign := normalizeOptionalCallsign (some profile.stationCallsign)
  operatorCallsign := normalizeOptionalCallsign profile.operatorCallsign
  operatorName := normalizeOptionalString profile.operatorName
  grid := normalizeOptionalString profile.grid
  county := normalizeOptionalString profile.county
  state := normalizeOptionalString profile.state
  country := normalizeOptionalString profile.country
  arrlSection := normalizeOptionalString profile.arrlSection
  dxcc := profile.dxcc
  cqZone := profile.cqZone
  ituZone := profile.ituZone
  latitude := profile.latitude
  longitude := profile.longitude

/-- `PersistedStationProfile::to_proto`. -/
def PersistedStationProfile.toProto (profile : PersistedStationProfile) : StationProfile where
  profileName := profile.profileName
  stationCallsign := profile.stationCallsign.getD ""
  operatorCallsign := profile.operatorCallsign
  operatorName := profile.operatorName
  grid := profile.grid
  county := profile.county
  state := profile.state
  country := profile.country
  arrlSection := profile.arrlSection
  dxcc := profile.dxcc
  cqZone := profile.cqZone
  ituZone := profile.ituZone
  latitude := profile.latitude
  longitude := profile.longitude

/-- `has_values`. -/
def PersistedStationProfile.hasValues (profile : PersistedStationProfile) : Bool :=
  stationProfileHasValues profile.toProto

/-- `PersistedStationProfileEntry`. -/
structure PersistedStationProfileEntry where
  profileId : String
  profile : PersistedStationProfile
  deriving DecidableEq

/-- `PersistedStationProfileCatalog`. -/
structure PersistedStationProfileCatalog where
  activeProfileId : Option String := none
  entries : List PersistedStationProfileEntry := []
  deriving DecidableEq

/-- `PersistedQrzXmlConfig`. -/
structure PersistedQrzXmlConfig where
  username : Option String := none
  password : Option String := none
  userAgent : Option String := none
  deriving DecidableEq

/-- `PersistedQrzLogbookConfig`. -/
structure PersistedQrzLogbookConfig where
  apiKey : Option String := none
  baseUrl : Option String := none
  deriving DecidableEq

/-- `PersistedQrzLogbookConfig::is_empty`. -/
def PersistedQrzLogbookConfig.isEmpty (config : PersistedQrzLogbookConfig) : Bool :=
  (normalizeOptionalString config.apiKey).isNone && (normalizeOptionalString config.baseUrl).isNone

/-- `PersistedLotwConfig`. -/
structure PersistedLotwConfig where
  username : Option String := none
  password : Option String := none
  tqslPath : Option String := none
  stationLocation : Option String := none
  certificatePassword : Option String := none
  reportUrl : Option String := none
  timeoutSeconds : Option ℕ := none
  deriving DecidableEq

/-- `DEFAULT_LOTW_TQSL_PATH`. -/
def defaultLotwTqslPath : String := "tqsl"

/-- `DEFAULT_LOTW_REPORT_URL`. -/
def defaultLotwReportUrl : String := "https://lotw.arrl.org/lotwuser/lotwreport.adi"

/-- `DEFAULT_LOTW_TIMEOUT_SECONDS`. -/
def defaultLotwTimeoutSeconds : String := "60"

/-- `PersistedLotwConfig::is_empty`. -/
def PersistedLotwConfig.isEmpty (config : PersistedLotwConfig) : Bool :=
  (normalizeOptionalString config.username).isNone
    && (normalizeOptionalString config.password).isNone
    && (normalizeOptionalString config.tqslPath).all (· == defaultLotwTqslPath)
    && (normalizeOptionalString config.stationLocation).isNone
    && (normalizeOptionalString config.certificatePassword).isNone
    && (normalizeOptionalString config.reportUrl).all (· == defaultLotwReportUrl)
    && config.timeoutSeconds.all (fun value => toString value == defaultLotwTimeoutSeconds)

/-- `PersistedSyncConfig`, with its `Default`. -/
structure PersistedSyncConfig where
  autoSyncEnabled : Bool := false
  syncIntervalSeconds : ℕ := 0
  conflictPolicy : String := ""
  deriving DecidableEq

/-- `default_sync_interval_seconds`. -/
def defaultSyncIntervalSeconds : ℕ := 300

/-- `PersistedSyncConfig::is_empty`. -/
def PersistedSyncConfig.isEmpty (config : PersistedSyncConfig) : Bool :=
  !config.autoSyncEnabled
    && config.syncIntervalSeconds == defaultSyncIntervalSeconds
    && (config.conflictPolicy.isEmpty || config.conflictPolicy == "last_write_wins")

/-- `PersistedSyncConfig::from_proto`. -/
def PersistedSyncConfig.fromProto (config : SyncConfig) : PersistedSyncConfig where
  autoSyncEnabled := config.autoSyncEnabled
  syncIntervalSeconds :=
    if config.syncIntervalSeconds = 0 then defaultSyncIntervalSeconds
    else config.syncIntervalSeconds
  conflictPolicy :=
    match config.conflictPolicy with
    | .lastWriteWins => "last_write_wins"
    | .unspecified | .flagForReview => "flag_for_review"

/-- `PersistedRigControlConfig`. -/
structure PersistedRigControlConfig where
  enabled : Option Bool := none
  host : Option String := none
  port : Option ℕ := none
  readTimeoutMs : Option ℕ := none
  staleThresholdMs : Option ℕ := none
  deriving DecidableEq

/-- `PersistedRigControlConfig::is_empty`. -/
def PersistedRigControlConfig.isEmpty (config : PersistedRigControlConfig) : Bool :=
  config.enabled.isNone && config.host.isNone && config.port.isNone
    && config.readTimeoutMs.isNone && config.staleThresholdMs.isNone

/-- `Some(0)` is refused, and what does not pass `fits`. -/
def positiveSetting (message : String) (fits : ℕ → Bool) : Option ℕ → Except String (Option ℕ)
  | none => .ok none
  | some value =>
      if value = 0 then .error message
      else if fits value then .ok (some value) else .error message

/-- `PersistedRigControlConfig::from_proto`. -/
def PersistedRigControlConfig.fromProto (rigControl : RigControlSettings) :
    Except String PersistedRigControlConfig := do
  let port ← positiveSetting "Rig control port must be between 1 and 65535."
    (fun port => decide (port < 65536)) rigControl.port
  let readTimeoutMs ← positiveSetting
    "Rig control read timeout must be greater than 0 milliseconds." (fun _ => true)
    rigControl.readTimeoutMs
  let staleThresholdMs ← positiveSetting
    "Rig control stale threshold must be greater than 0 milliseconds." (fun _ => true)
    rigControl.staleThresholdMs
  return {
    enabled := rigControl.enabled
    host := normalizeOptionalString rigControl.host
    port, readTimeoutMs, staleThresholdMs }

/-- `PersistedWsjtxIngestConfig`. -/
structure PersistedWsjtxIngestConfig where
  enabled : Option Bool := none
  udpEnabled : Option Bool := none
  udpBind : Option String := none
  adifTailEnabled : Option Bool := none
  adifTailPath : Option String := none
  pollIntervalMs : Option ℕ := none
  syncToQrz : Option Bool := none
  deriving DecidableEq

/-- `PersistedWsjtxIngestConfig::is_empty`. -/
def PersistedWsjtxIngestConfig.isEmpty (config : PersistedWsjtxIngestConfig) : Bool :=
  config.enabled.isNone && config.udpEnabled.isNone
    && (normalizeOptionalString config.udpBind).isNone
    && config.adifTailEnabled.isNone && (normalizeOptionalString config.adifTailPath).isNone
    && config.pollIntervalMs.isNone && config.syncToQrz.isNone

/-- `DEFAULT_WSJTX_INGEST_UDP_BIND`. -/
def defaultWsjtxIngestUdpBind : String := "127.0.0.1:2237"

/-- `DEFAULT_WSJTX_INGEST_POLL_INTERVAL_MS`. -/
def defaultWsjtxIngestPollIntervalMs : ℕ := 1000

/-- `rsplit_once(':')`. -/
def rsplitColon (bind : String) : Option (String × String) :=
  let port := bind.toList.rtakeWhile (· ≠ ':')
  let host := bind.toList.rdropWhile (· ≠ ':')
  if host.isEmpty then none else some (String.ofList host.dropLast, String.ofList port)

/-- `validate_host_port`, with the name that its errors give. -/
def validateHostPort (bind label : String) : Except String Unit :=
  match rsplitColon bind with
  | none => .error (label ++ " must be in host:port form.")
  | some (host, port) =>
      if (Text.trim host).isEmpty then .error (label ++ " must include a host.")
      else
        match Text.parseUnsigned (2 ^ 32) port with
        | none => .error (label ++ " port is not a number.")
        | some port =>
            if port = 0 ∨ 65535 < port then
              .error (label ++ " port must be between 1 and 65535.")
            else .ok ()

/-- `PersistedWsjtxIngestConfig::from_proto`. -/
def PersistedWsjtxIngestConfig.fromProto (settings : WsjtxIngestSettings) :
    Except String PersistedWsjtxIngestConfig := do
  let udpBind := (trimmedNonEmpty settings.udpBind).getD defaultWsjtxIngestUdpBind
  validateHostPort udpBind "WSJT-X UDP bind"
  let adifTailPath := normalizeOptionalString settings.adifTailPath
  if settings.adifTailEnabled && adifTailPath.isNone then
    throw "WSJT-X ADIF tail path is required when ADIF tailing is enabled."
  return {
    enabled := some settings.enabled
    udpEnabled := some (settings.udpEnabled.getD true)
    udpBind := some udpBind
    adifTailEnabled := some settings.adifTailEnabled
    adifTailPath
    pollIntervalMs := some (if settings.pollIntervalMs = 0 then defaultWsjtxIngestPollIntervalMs
      else settings.pollIntervalMs)
    syncToQrz := some settings.syncToQrz }

/-- `PersistedCwKeyingConfig`. -/
structure PersistedCwKeyingConfig where
  backend : Option String := none
  winkeyerPort : Option String := none
  winkeyerBaud : Option ℕ := none
  cathubEndpoint : Option String := none
  cathubClientName : Option String := none
  speedWpm : Option ℕ := none
  transmitEnabled : Option Bool := none
  maxTxMs : Option ℕ := none
  deriving DecidableEq

/-- `PersistedSetupConfig`. -/
structure PersistedSetupConfig where
  logbook : PersistedLogbookConfig := {}
  storage : PersistedStorageConfig := {}
  stationProfile : PersistedStationProfile := {}
  stationProfiles : PersistedStationProfileCatalog := {}
  qrzXml : PersistedQrzXmlConfig := {}
  qrzLogbook : PersistedQrzLogbookConfig := {}
  lotw : PersistedLotwConfig := {}
  sync : PersistedSyncConfig := {}
  rigControl : PersistedRigControlConfig := {}
  wsjtxIngest : PersistedWsjtxIngestConfig := {}
  cwKeying : PersistedCwKeyingConfig := {}
  deriving DecidableEq

/-! ### The catalog -/

namespace PersistedStationProfileCatalog

variable (catalog : PersistedStationProfileCatalog)

/-- The ids of the entries. -/
def ids : List String := catalog.entries.map (·.profileId)

/-- `find_entry`. -/
def findEntry (profileId : String) : Option PersistedStationProfileEntry :=
  catalog.entries.find? fun entry => entry.profileId == normalizeProfileId profileId

/-- `active_profile`. -/
def activeProfile : Option PersistedStationProfileEntry :=
  (catalog.activeProfileId.bind catalog.findEntry).or catalog.entries.head?

/-- `active_profile_id`. -/
def activeId : Option String :=
  (catalog.activeProfile.map (·.profileId)).or catalog.activeProfileId

/-- `bootstrap_from_legacy`. -/
def bootstrapFromLegacy (legacyProfile : PersistedStationProfile) :
    PersistedStationProfileCatalog :=
  let entries :=
    if catalog.entries.isEmpty && legacyProfile.hasValues then
      [⟨generateProfileId none legacyProfile.toProto [], legacyProfile⟩]
    else catalog.entries
  { activeProfileId := catalog.activeProfileId.or (entries.head?.map (·.profileId))
    entries }

/-- The entry with this id gets this profile; it is added if there is none. -/
def putEntry (profileId : String) (profile : PersistedStationProfile) :
    List PersistedStationProfileEntry → List PersistedStationProfileEntry
  | [] => [⟨profileId, profile⟩]
  | entry :: rest =>
      if entry.profileId = profileId then { entry with profile } :: rest
      else entry :: putEntry profileId profile rest

/-- `save_profile`. -/
def saveProfile (requestedProfileId : Option String) (profile : StationProfile)
    (makeActive : Bool) (legacyProfile : PersistedStationProfile) :
    PersistedStationProfileCatalog × String :=
  let catalog := catalog.bootstrapFromLegacy legacyProfile
  let profileId := (requestedProfileId.bind fun value => nonEmpty (normalizeProfileId value)).getD
    (generateProfileId none profile catalog.ids)
  ({ activeProfileId :=
      if makeActive || catalog.activeProfileId.isNone then some profileId
      else catalog.activeProfileId
     entries := putEntry profileId (.fromProto profile) catalog.entries }, profileId)

/-- `delete_profile`. -/
def deleteProfile (profileId : String) (legacyProfile : PersistedStationProfile) :
    Except String PersistedStationProfileCatalog :=
  let catalog := catalog.bootstrapFromLegacy legacyProfile
  let normalizedId := normalizeProfileId profileId
  if catalog.activeProfileId = some normalizedId then
    .error "The active station profile cannot be deleted. Activate another profile first."
  else
    let entries := catalog.entries.filter fun entry => entry.profileId != normalizedId
    if entries.length = catalog.entries.length then
      .error ("Station profile '" ++ normalizedId ++ "' was not found.")
    else .ok { catalog with entries }

/-- `set_active_profile`. -/
def setActiveProfile (profileId : String) (legacyProfile : PersistedStationProfile) :
    Except String PersistedStationProfileCatalog :=
  let catalog := catalog.bootstrapFromLegacy legacyProfile
  let normalizedId := normalizeProfileId profileId
  if catalog.entries.any fun entry => entry.profileId == normalizedId then
    .ok { catalog with activeProfileId := some normalizedId }
  else .error ("Station profile '" ++ normalizedId ++ "' was not found.")

variable {catalog}

theorem mem_of_findEntry {profileId : String} {entry : PersistedStationProfileEntry}
    (h : catalog.findEntry profileId = some entry) : entry ∈ catalog.entries :=
  List.mem_of_find?_eq_some h

theorem mem_of_activeProfile {entry : PersistedStationProfileEntry}
    (h : catalog.activeProfile = some entry) : entry ∈ catalog.entries := by
  rcases Option.or_eq_some_iff.mp h with h | ⟨-, h⟩
  · obtain ⟨profileId, -, hfind⟩ := Option.bind_eq_some_iff.mp h
    exact mem_of_findEntry hfind
  · exact List.mem_of_head? h

end PersistedStationProfileCatalog

/-! ### The setup -/

namespace PersistedSetupConfig

variable (config : PersistedSetupConfig)

/-- `sync_active_station_profile`. -/
def syncActiveStationProfile : PersistedSetupConfig :=
  let stationProfile := config.stationProfiles.activeProfile.elim config.stationProfile
    fun entry => .fromProto entry.profile.toProto
  { config with stationProfile }

/-- `station_profile`: what new QSOs are stamped with. -/
def activeStationProfile : Option StationProfile :=
  let profile := config.stationProfiles.activeProfile.elim config.stationProfile.toProto
    fun entry => entry.profile.toProto
  if stationProfileHasValues profile then some profile else none

/-- `active_station_profile_id`. -/
def activeStationProfileId : Option String := config.stationProfiles.activeId

/-- `save_station_profile`. -/
def saveStationProfile (requestedProfileId : Option String) (profile : StationProfile)
    (makeActive : Bool) : PersistedSetupConfig × String :=
  let (stationProfiles, profileId) := config.stationProfiles.saveProfile requestedProfileId profile
    makeActive config.stationProfile
  (syncActiveStationProfile { config with stationProfiles }, profileId)

/-- `delete_station_profile`. -/
def deleteStationProfile (profileId : String) : Except String PersistedSetupConfig := do
  let stationProfiles ← config.stationProfiles.deleteProfile profileId config.stationProfile
  return syncActiveStationProfile { config with stationProfiles }

/-- `set_active_station_profile`. -/
def setActiveStationProfile (profileId : String) : Except String PersistedSetupConfig := do
  let stationProfiles ← config.stationProfiles.setActiveProfile profileId config.stationProfile
  return syncActiveStationProfile { config with stationProfiles }

/-- `log_file_path`. -/
def logFilePath : Option String :=
  (normalizeOptionalString config.logbook.filePath).or
    (normalizeOptionalString config.storage.sqlitePath)

/-- `legacy_storage_backend`. -/
def legacyStorageBackend : StorageBackend :=
  if config.storage.backend = some "memory" then .memory
  else if config.storage.backend = some "sqlite" then .sqlite
  else .unspecified

/-- `runtime_storage_backend`. -/
def runtimeStorageBackend : StorageBackend :=
  if config.logFilePath.isSome then .sqlite else config.legacyStorageBackend

end PersistedSetupConfig

/-! ### A request as the next setup -/

/-- `PERSISTENCE_PATH_KEY`. -/
def persistencePathKey : String := "persistence.path"

/-- `setup_request_persistence_path`. -/
def setupRequestPersistencePath (request : SaveSetupRequest) : Option String :=
  (request.persistenceValues.find? fun field =>
    Text.eqIgnoreAsciiCase field.key persistencePathKey).bind fun field =>
      normalizeOptionalString field.value

/-- Where a request puts the log. -/
def requestedStorage (request : SaveSetupRequest) (suggestedLogFilePath : String) :
    Except String (PersistedLogbookConfig × PersistedStorageConfig) :=
  let legacySqlitePath := normalizeOptionalString request.sqlitePath
  match (setupRequestPersistencePath request).or (normalizeOptionalString request.logFilePath) with
  | some logFilePath => .ok (⟨some logFilePath⟩, {})
  | none =>
      if request.storageBackend = .memory then .ok ({}, { backend := some "memory" })
      else if request.storageBackend = .sqlite ∨ legacySqlitePath.isSome then
        .ok (⟨some (legacySqlitePath.getD suggestedLogFilePath)⟩, {})
      else .error "A log_file_path is required."

/-- `PersistedSetupConfig::from_request`. -/
def PersistedSetupConfig.fromRequest (existing : Option PersistedSetupConfig)
    (request : SaveSetupRequest) (suggestedLogFilePath : String) :
    Except String PersistedSetupConfig := do
  let some payload := request.stationProfile
    | throw "SaveSetup requires a station_profile payload."
  let stationProfile ← normalizeStationProfile payload
  let (logbook, storage) ← requestedStorage request suggestedLogFilePath
  let base := existing.getD {}
  let stationProfiles := (base.stationProfiles.saveProfile
    (existing.bind activeStationProfileId) stationProfile true base.stationProfile).1
  let rigControl ← request.rigControl.elim (pure base.rigControl)
    PersistedRigControlConfig.fromProto
  let wsjtxIngest ← request.wsjtxIngest.elim (pure base.wsjtxIngest)
    PersistedWsjtxIngestConfig.fromProto
  return syncActiveStationProfile
    { base with
      logbook, storage, stationProfiles, rigControl, wsjtxIngest
      stationProfile := .fromProto stationProfile
      qrzXml :=
        { username := normalizeOptionalString request.qrzXmlUsername
          password := (normalizeOptionalString request.qrzXmlPassword).or base.qrzXml.password
          userAgent := base.qrzXml.userAgent }
      qrzLogbook :=
        { base.qrzLogbook with
          apiKey := (normalizeOptionalString request.qrzLogbookApiKey).or base.qrzLogbook.apiKey }
      sync := request.syncConfig.elim base.sync .fromProto }

end QsoRipper.Setup
