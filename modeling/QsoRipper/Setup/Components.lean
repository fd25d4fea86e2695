/-
QsoRipper/Setup/Components.lean

The components that are built from the runtime values: the callsign lookup, the
contest calendar, the space weather and the rig control, each with the
configuration that it reads.
-/
import QsoRipper.Setup.Mutation

namespace QsoRipper.Setup

/-- What the builders meet outside of the values. -/
structure Surroundings where
  text : FloatText
  startupValues : Values
  suggestedLogFilePath : String
  /-- Whether an HTTP client can be built, with a user agent or without one. -/
  httpClient : Option String → Except String Unit
  /-- The contest details at a path, `none` if nothing is there. -/
  contestDetails : String → Option (Except String Unit)

/-! ### Reading one value -/

/-- `optional_value`. -/
def optionalValue (values : Values) (key : RuntimeKey) : Option String :=
  (values key).bind trimmedNonEmpty

/-! ### Callsign lookup -/

/-- `QrzXmlConfig`. -/
structure QrzXmlConfig where
  baseUrl : String
  username : String
  password : String
  userAgent : String
  httpTimeoutSeconds : ℕ
  maxRetries : ℕ
  captureOnly : Bool
  deriving DecidableEq

/-- `QrzXmlConfigError`. -/
inductive QrzXmlConfigError where
  | missing (key : RuntimeKey)
  | invalidInteger (key : RuntimeKey) (value : String)
  | invalidBoolean (key : RuntimeKey) (value : String)
  deriving DecidableEq

/-- The `Display` text of an error. -/
def QrzXmlConfigError.toText : QrzXmlConfigError → String
  | missing key => "Required environment variable '" ++ key.name ++ "' is missing or blank."
  | invalidInteger key value =>
      "Environment variable '" ++ key.name ++ "' has invalid integer value '" ++ value ++ "'."
  | invalidBoolean key value =>
      "Environment variable '" ++ key.name ++ "' has invalid boolean value '" ++ value ++ "'."

/-- `required_value`. -/
def requiredValue (values : Values) (key : RuntimeKey) : Except QrzXmlConfigError String :=
  match values key with
  | some value => if (Text.trim value).isEmpty then .error (.missing key) else .ok value
  | none => .error (.missing key)

/-- `optional_value_u64` and `optional_value_u32` of the QRZ configuration. -/
def qrzInteger (bound default : ℕ) (values : Values) (key : RuntimeKey) :
    Except QrzXmlConfigError ℕ :=
  match values key with
  | none => .ok default
  | some raw =>
      match Text.parseUnsigned bound (Text.trim raw) with
      | some value => .ok value
      | none => .error (.invalidInteger key raw)

/-- `optional_value_bool` of the QRZ configuration. -/
def qrzBool (default : Bool) (values : Values) (key : RuntimeKey) :
    Except QrzXmlConfigError Bool :=
  match values key with
  | none => .ok default
  | some raw =>
      match boolSpelling raw with
      | some value => .ok value
      | none => .error (.invalidBoolean key raw)

/-- `DEFAULT_QRZ_XML_BASE_URL`. -/
def defaultQrzXmlBaseUrl : String := "https://xmldata.qrz.com/xml/current/"

/-- `normalize_base_url`. -/
def normalizeBaseUrl (baseUrl : String) : String :=
  if baseUrl.toList.getLast? = some '/' then baseUrl else baseUrl ++ "/"

/-- `QrzXmlConfig::from_value_provider`. -/
def QrzXmlConfig.fromValues (values : Values) : Except QrzXmlConfigError QrzXmlConfig := do
  let baseUrl := (optionalValue values .qrzXmlBaseUrl).getD defaultQrzXmlBaseUrl
  let username ← requiredValue values .qrzXmlUsername
  let password ← requiredValue values .qrzXmlPassword
  let userAgent ← requiredValue values .qrzUserAgent
  let httpTimeoutSeconds ← qrzInteger (2 ^ 64) 8 values .qrzHttpTimeoutSeconds
  let maxRetries ← qrzInteger (2 ^ 32) 2 values .qrzMaxRetries
  let captureOnly ← qrzBool false values .qrzXmlCaptureOnly
  return {
    baseUrl := normalizeBaseUrl baseUrl
    username, password, userAgent, httpTimeoutSeconds, maxRetries, captureOnly }

/-- A `CallsignProvider`. -/
inductive CallsignProvider where
  | qrzXml (config : QrzXmlConfig)
  | disabled (reason : String)
  deriving DecidableEq

/-- `DEFAULT_QRZ_USER_AGENT`. -/
def defaultQrzUserAgent : String := "QsoRipper/1.0"

/-- The values with the user agent that is derived from the username. -/
def withDerivedUserAgent (values : Values) : Values := fun key =>
  (values key).or <|
    if key = .qrzUserAgent then
      ((values .qrzXmlUsername).filter fun username => !(Text.trim username).isEmpty).map
        fun username => defaultQrzUserAgent ++ " (" ++ username ++ ")"
    else none

/-- The provider of `build_lookup_provider`. -/
def buildLookupProvider (w : Surroundings) (values : Values) : CallsignProvider :=
  match QrzXmlConfig.fromValues (withDerivedUserAgent values) with
  | .error error => .disabled error.toText
  | .ok config =>
      match w.httpClient (some config.userAgent) with
      | .error reason => .disabled reason
      | .ok () => .qrzXml config

/-- The summary of `build_lookup_provider`. -/
def CallsignProvider.summary : CallsignProvider → String
  | qrzXml config =>
      (if config.captureOnly then "QRZ XML capture-only via " else "QRZ XML live via ")
        ++ config.baseUrl
  | disabled reason => "Disabled: " ++ reason

/-! ### Contest calendar -/

/-- `Wa7bnmContestCalendarConfig`. -/
structure ContestCalendarConfig where
  enabled : Bool
  rssUrl : String
  httpTimeoutSeconds : ℕ
  refreshIntervalSeconds : ℕ
  staleAfterSeconds : ℕ
  detailsPath : String
  detailsPathIsExplicit : Bool
  deriving DecidableEq

/-- `optional_value_u64` of the contest calendar. -/
def contestInteger (default : ℕ) (values : Values) (key : RuntimeKey) : Except String ℕ :=
  match optionalValue values key with
  | none => .ok default
  | some value =>
      match Text.parseUnsigned (2 ^ 64) value with
      | some value => .ok value
      | none => .error (key.name ++ " must be an unsigned integer, got '" ++ value ++ "'")

/-- `optional_value_bool` of the contest calendar. -/
def contestBool (default : Bool) (values : Values) (key : RuntimeKey) : Except String Bool :=
  match optionalValue values key with
  | none => .ok default
  | some value =>
      match boolSpelling value with
      | some value => .ok value
      | none => .error (key.name ++ " must be boolean, got '" ++ value ++ "'")

/-- `DEFAULT_CONTEST_CALENDAR_RSS_URL`. -/
def defaultContestCalendarRssUrl : String := "https://www.contestcalendar.com/calendar.rss"

/-- `DEFAULT_CONTEST_CALENDAR_DETAILS_PATH`. -/
def defaultContestCalendarDetailsPath : String := "data/contest-calendar/contest-details.json"

/-- `Wa7bnmContestCalendarConfig::from_value_provider`. -/
def ContestCalendarConfig.fromValues (values : Values) : Except String ContestCalendarConfig := do
  let enabled ← contestBool true values .contestCalendarEnabled
  let rssUrl := (optionalValue values .contestCalendarRssUrl).getD defaultContestCalendarRssUrl
  let httpTimeoutSeconds ← contestInteger 8 values .contestCalendarHttpTimeoutSeconds
  let refreshIntervalSeconds ← contestInteger 3600 values .contestCalendarRefreshIntervalSeconds
  let staleAfterSeconds ← contestInteger 86400 values .contestCalendarStaleAfterSeconds
  let detailsPathValue := optionalValue values .contestCalendarDetailsPath
  return {
    enabled, rssUrl, httpTimeoutSeconds, refreshIntervalSeconds, staleAfterSeconds
    detailsPath := detailsPathValue.getD defaultContestCalendarDetailsPath
    detailsPathIsExplicit := detailsPathValue.isSome }

/-- A `ContestCalendarProvider`. -/
inductive ContestCalendarProvider where
  | wa7bnm (config : ContestCalendarConfig)
  /-- With the details of a catalog. -/
  | enriched (config : ContestCalendarConfig)
  | disabled (reason : String)
  deriving DecidableEq

/-- `ContestCalendarMonitor`. -/
structure ContestCalendarMonitor where
  provider : ContestCalendarProvider
  refreshIntervalSeconds : ℕ
  staleAfterSeconds : ℕ
  deriving DecidableEq

/-- The provider that an accepted configuration gets. -/
def ContestCalendarConfig.provider (w : Surroundings) (config : ContestCalendarConfig) :
    ContestCalendarProvider :=
  if !config.enabled then .disabled "Contest calendar fetching is disabled."
  else
    match w.httpClient none with
    | .error reason => .disabled ("failed to create HTTP client: " ++ reason)
    | .ok () =>
        match w.contestDetails config.detailsPath with
        | some (.ok ()) => .enriched config
        | some (.error reason) => .disabled reason
        | none =>
            if config.detailsPathIsExplicit then
              .disabled ("Contest calendar details catalog does not exist: " ++ config.detailsPath)
            else .wa7bnm config

/-- `build_contest_calendar_monitor`. -/
def buildContestCalendarMonitor (w : Surroundings) (values : Values) : ContestCalendarMonitor :=
  match ContestCalendarConfig.fromValues values with
  | .ok config => ⟨config.provider w, config.refreshIntervalSeconds, config.staleAfterSeconds⟩
  | .error reason => ⟨.disabled reason, 3600, 86400⟩

/-! ### Space weather -/

/-- `NoaaSpaceWeatherConfig`. -/
structure NoaaSpaceWeatherConfig where
  enabled : Bool
  kpIndexUrl : String
  solarIndicesUrl : String
  httpTimeoutSeconds : ℕ
  refreshIntervalSeconds : ℕ
  staleAfterSeconds : ℕ
  deriving DecidableEq

/-- `optional_value_u64` of the space weather. -/
def noaaInteger (default : ℕ) (values : Values) (key : RuntimeKey) : Except String ℕ :=
  match optionalValue values key with
  | none => .ok default
  | some value =>
      match Text.parseUnsigned (2 ^ 64) value with
      | some value => .ok value
      | none =>
          .error ("Environment variable '" ++ key.name ++ "' has invalid integer value '" ++ value
            ++ "'.")

/-- `optional_value_bool` of the space weather. -/
def noaaBool (default : Bool) (values : Values) (key : RuntimeKey) : Except String Bool :=
  match optionalValue values key with
  | none => .ok default
  | some value =>
      match boolSpelling value with
      | some value => .ok value
      | none =>
          .error ("Environment variable '" ++ key.name ++ "' has invalid boolean value '" ++ value
            ++ "'.")

/-- `DEFAULT_NOAA_KP_INDEX_URL`. -/
def defaultNoaaKpIndexUrl : String :=
  "https://services.swpc.noaa.gov/products/noaa-planetary-k-index.json"

/-- `DEFAULT_NOAA_SOLAR_INDICES_URL`. -/
def defaultNoaaSolarIndicesUrl : String :=
  "https://services.swpc.noaa.gov/text/daily-solar-indices.txt"

/-- `NoaaSpaceWeatherConfig::from_value_provider`. -/
def NoaaSpaceWeatherConfig.fromValues (values : Values) :
    Except String NoaaSpaceWeatherConfig := do
  let enabled ← noaaBool true values .noaaSpaceWeatherEnabled
  let kpIndexUrl := (optionalValue values .noaaKpIndexUrl).getD defaultNoaaKpIndexUrl
  let solarIndicesUrl :=
    (optionalValue values .noaaSolarIndicesUrl).getD defaultNoaaSolarIndicesUrl
  let httpTimeoutSeconds ← noaaInteger 8 values .noaaHttpTimeoutSeconds
  let refreshIntervalSeconds ← noaaInteger 900 values .noaaRefreshIntervalSeconds
  let staleAfterSeconds ← noaaInteger 3600 values .noaaStaleAfterSeconds
  return {
    enabled, kpIndexUrl, solarIndicesUrl, httpTimeoutSeconds, refreshIntervalSeconds
    staleAfterSeconds }

/-- A `SpaceWeatherProvider`. -/
inductive SpaceWeatherProvider where
  | noaa (config : NoaaSpaceWeatherConfig)
  | disabled (reason : String)
  deriving DecidableEq

/-- `SpaceWeatherMonitor`. -/
structure SpaceWeatherMonitor where
  provider : SpaceWeatherProvider
  refreshIntervalSeconds : ℕ
  staleAfterSeconds : ℕ
  deriving DecidableEq

/-- The provider that an accepted configuration gets. -/
def NoaaSpaceWeatherConfig.provider (w : Surroundings) (config : NoaaSpaceWeatherConfig) :
    SpaceWeatherProvider :=
  if !config.enabled then .disabled "NOAA space weather fetching is disabled."
  else
    match w.httpClient none with
    | .error reason => .disabled ("Failed to create NOAA HTTP client: " ++ reason)
    | .ok () => .noaa config

/-- `build_space_weather_monitor`. -/
def buildSpaceWeatherMonitor (w : Surroundings) (values : Values) : SpaceWeatherMonitor :=
  match NoaaSpaceWeatherConfig.fromValues values with
  | .ok config => ⟨config.provider w, config.refreshIntervalSeconds, config.staleAfterSeconds⟩
  | .error reason => ⟨.disabled reason, 900, 3600⟩

/-! ### Rig control -/

/-- `RigctldConfig`. -/
structure RigctldConfig where
  host : String
  port : ℕ
  readTimeoutMs : ℕ
  deriving DecidableEq

/-- `DEFAULT_RIGCTLD_HOST`. -/
def defaultRigctldHost : String := "127.0.0.1"

/-- `DEFAULT_RIGCTLD_PORT`. -/
def defaultRigctldPort : ℕ := 4532

/-- `DEFAULT_RIGCTLD_READ_TIMEOUT_MS`. -/
def defaultRigctldReadTimeoutMs : ℕ := 2000

/-- `DEFAULT_RIGCTLD_STALE_THRESHOLD_MS`. -/
def defaultRigctldStaleThresholdMs : ℕ := 100

/-- `and_then(|value| value.parse().ok()).unwrap_or(default)`. -/
def integerOr (bound default : ℕ) (value : Option String) : ℕ :=
  (value.bind (Text.parseUnsigned bound)).getD default

/-- `RigctldConfig::from_value_provider`. -/
def RigctldConfig.fromValues (values : Values) : Option RigctldConfig :=
  let enabled := (values .rigctldEnabled).all fun value =>
    Text.eqIgnoreAsciiCase value "true" || value == "1"
  if !enabled then none
  else
    some {
      host := (values .rigctldHost).getD defaultRigctldHost
      port := integerOr (2 ^ 16) defaultRigctldPort (values .rigctldPort)
      readTimeoutMs :=
        integerOr (2 ^ 64) defaultRigctldReadTimeoutMs (values .rigctldReadTimeoutMs) }

/-- A `RigControlProvider`. -/
inductive RigControlProvider where
  | rigctld (config : RigctldConfig)
  | disabled (reason : String)
  deriving DecidableEq

/-- `RigControlMonitor`. -/
structure RigControlMonitor where
  provider : RigControlProvider
  staleThresholdMs : ℕ
  deriving DecidableEq

/-- `build_rig_control_monitor`. -/
def buildRigControlMonitor (values : Values) : RigControlMonitor where
  provider :=
    match RigctldConfig.fromValues values with
    | some config => .rigctld config
    | none => .disabled "Rig control is not enabled."
  staleThresholdMs :=
    integerOr (2 ^ 64) defaultRigctldStaleThresholdMs (values .rigctldStaleThresholdMs)

end QsoRipper.Setup
