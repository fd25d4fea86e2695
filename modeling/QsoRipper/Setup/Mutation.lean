/-
QsoRipper/Setup/Mutation.lean

Runtime overrides: the keys that can be set, how a value is checked and
normalised, and what a mutation does to the overrides.
-/
import QsoRipper.Setup.Values

namespace QsoRipper.Setup

/-! ### Reading values -/

/-- The spellings of a boolean that are read. -/
def boolSpelling (value : String) : Option Bool :=
  let lower := Text.toAsciiLowercase (Text.trim value)
  if lower ∈ ["1", "true", "yes", "y", "on"] then some true
  else if lower ∈ ["0", "false", "no", "n", "off"] then some false
  else none

/-- `parse_bool`. -/
def parseBool (rawValue : String) : Except String Bool :=
  match boolSpelling rawValue with
  | some value => .ok value
  | none =>
      .error ("'" ++ rawValue
        ++ "' is not a valid boolean. Use true/false, yes/no, 1/0, y/n, or on/off.")

/-- `parse`, for an unsigned type with `bound` values. -/
def parseInteger (bound : ℕ) (key : RuntimeKey) (rawValue : String) : Except String ℕ :=
  match Text.parseUnsigned bound rawValue with
  | some value => .ok value
  | none => .error ("'" ++ key.name ++ "' expects an integer value.")

/-- `parse_positive_integer`. -/
def parsePositiveInteger (key : RuntimeKey) (rawValue : String) : Except String ℕ := do
  let value ← parseInteger (2 ^ 32) key rawValue
  if value = 0 then throw ("'" ++ key.name ++ "' expects an integer greater than 0.")
  return value

/-- `parse_bounded_f64`, between `-bound` and `bound`, which are written `min` and
`max`. -/
def parseBoundedF64 (text : FloatText) (key : RuntimeKey) (rawValue : String) (bound : Float64)
    (min max : String) : Except String Float64 := do
  let some value := text.parse rawValue
    | throw ("'" ++ key.name ++ "' expects a decimal value.")
  if !value.isFinite then throw ("'" ++ key.name ++ "' expects a finite decimal value.")
  if !Float64.within bound value then
    throw ("'" ++ key.name ++ "' must be between " ++ min ++ " and " ++ max ++ ".")
  return value

/-- A latitude. -/
def parseLatitude (text : FloatText) (rawValue : String) : Except String Float64 :=
  parseBoundedF64 text .stationLatitude rawValue .ninety "-90" "90"

/-- A longitude. -/
def parseLongitude (text : FloatText) (rawValue : String) : Except String Float64 :=
  parseBoundedF64 text .stationLongitude rawValue .oneHundredEighty "-180" "180"

/-- `StorageBackendKind`. -/
inductive StorageBackendKind where
  | memory
  | sqlite
  deriving DecidableEq

/-- `parse_storage_backend`. -/
def parseStorageBackend (value : String) : Except String StorageBackendKind :=
  let lower := Text.toAsciiLowercase (Text.trim value)
  if lower = "memory" then .ok .memory
  else if lower = "sqlite" then .ok .sqlite
  else .error ("Unsupported storage backend: " ++ lower)

/-- `validate_host_port`, whose errors quote the key. -/
def validateBind (key : RuntimeKey) (bind : String) : Except String Unit :=
  validateHostPort bind ("'" ++ key.name ++ "'")

/-! ### Mutations -/

/-- The keys of `SUPPORTED_FIELDS`, in its order. -/
def supportedFields : List RuntimeKey :=
  [.storageBackend, .sqlitePath, .stationProfileName, .stationCallsign, .stationOperatorCallsign,
    .stationOperatorName, .stationGrid, .stationCounty, .stationState, .stationCountry,
    .stationArrlSection, .stationDxcc, .stationCqZone, .stationItuZone, .stationLatitude,
    .stationLongitude, .qrzXmlUsername, .qrzXmlPassword, .qrzUserAgent, .qrzXmlBaseUrl,
    .qrzHttpTimeoutSeconds, .qrzMaxRetries, .qrzXmlCaptureOnly, .qrzLogbookApiKey,
    .qrzLogbookBaseUrl, .lotwUsername, .lotwPassword, .lotwTqslPath, .lotwStationLocation,
    .lotwCertificatePassword, .lotwReportUrl, .lotwTimeoutSeconds, .syncAutoEnabled,
    .syncIntervalSeconds, .syncConflictPolicy, .wsjtxIngestEnabled, .wsjtxIngestUdpEnabled,
    .wsjtxIngestUdpBind, .wsjtxIngestAdifTailEnabled, .wsjtxIngestAdifTailPath,
    .wsjtxIngestPollIntervalMs, .wsjtxIngestSyncToQrz, .contestCalendarEnabled,
    .contestCalendarRssUrl, .contestCalendarHttpTimeoutSeconds,
    .contestCalendarRefreshIntervalSeconds, .contestCalendarStaleAfterSeconds,
    .contestCalendarDetailsPath, .noaaSpaceWeatherEnabled, .noaaKpIndexUrl, .noaaSolarIndicesUrl,
    .noaaHttpTimeoutSeconds, .noaaRefreshIntervalSeconds, .noaaStaleAfterSeconds, .rigctldEnabled,
    .rigctldHost, .rigctldPort, .rigctldReadTimeoutMs, .rigctldStaleThresholdMs]

/-- `RuntimeConfigMutationKind`, an unknown number included. -/
inductive RuntimeConfigMutationKind where
  | unspecified
  | set
  | clear
  | unknown
  deriving DecidableEq

/-- `RuntimeConfigMutation`. -/
structure RuntimeConfigMutation where
  key : String
  kind : RuntimeConfigMutationKind
  value : Option String := none

/-- `canonical_key`. -/
def canonicalKey (rawKey : String) : Except String RuntimeKey :=
  let trimmed := Text.trim rawKey
  match supportedFields.find? fun key => Text.eqIgnoreAsciiCase key.name trimmed with
  | some key => .ok key
  | none => .error ("Unsupported runtime config key '" ++ trimmed ++ "'.")

/-- `normalize_bool_value`. -/
def normalizeBoolValue (rawValue : String) : Except String String :=
  (parseBool rawValue).map toString

/-- `CONFLICT_POLICY_ALLOWED_VALUES`. -/
def conflictPolicyAllowedValues : List String := ["last_write_wins", "flag_for_review"]

/-- `normalize_value`, for a value that is trimmed and not empty. -/
def normalizeTrimmed (text : FloatText) (key : RuntimeKey) (trimmed : String) :
    Except String String :=
  match key with
  | .storageBackend => (parseStorageBackend trimmed).map fun _ => Text.toAsciiLowercase trimmed
  | .qrzXmlCaptureOnly | .noaaSpaceWeatherEnabled | .syncAutoEnabled | .rigctldEnabled
  | .wsjtxIngestEnabled | .wsjtxIngestUdpEnabled | .wsjtxIngestAdifTailEnabled
  | .wsjtxIngestSyncToQrz => normalizeBoolValue trimmed
  | .qrzHttpTimeoutSeconds => (parseInteger (2 ^ 64) key trimmed).map toString
  | .qrzMaxRetries => (parseInteger (2 ^ 32) key trimmed).map toString
  | .noaaHttpTimeoutSeconds | .noaaRefreshIntervalSeconds | .noaaStaleAfterSeconds =>
      (parseInteger (2 ^ 64) key trimmed).map toString
  | .stationDxcc | .stationCqZone | .stationItuZone =>
      (parsePositiveInteger key trimmed).map toString
  | .stationLatitude => (parseLatitude text trimmed).map text.display
  | .stationLongitude => (parseLongitude text trimmed).map text.display
  | .syncIntervalSeconds | .lotwTimeoutSeconds => (parseInteger (2 ^ 32) key trimmed).map toString
  | .syncConflictPolicy =>
      let lower := Text.toAsciiLowercase trimmed
      if lower ∈ conflictPolicyAllowedValues then .ok lower
      else .error ("'" ++ key.name ++ "' must be one of: "
        ++ ", ".intercalate conflictPolicyAllowedValues ++ ".")
  | .rigctldPort | .rigctldReadTimeoutMs | .rigctldStaleThresholdMs =>
      (parseInteger (2 ^ 64) key trimmed).map toString
  | .wsjtxIngestUdpBind => (validateBind key trimmed).map fun _ => trimmed
  | .wsjtxIngestPollIntervalMs => (parsePositiveInteger key trimmed).map toString
  | _ => .ok trimmed

/-- `normalize_value`. -/
def normalizeValue (text : FloatText) (key : RuntimeKey) (rawValue : String) :
    Except String String :=
  let trimmed := Text.trim rawValue
  if trimmed.isEmpty then
    .error ("A non-empty value is required for '" ++ key.name ++ "'.")
  else normalizeTrimmed text key trimmed

/-- `apply_mutation`. -/
def applyMutation (text : FloatText) (overrides : Values) (mutation : RuntimeConfigMutation) :
    Except String Values := do
  let key ← canonicalKey mutation.key
  match mutation.kind with
  | .set =>
      let some value := mutation.value
        | throw ("A value is required when setting '" ++ key.name ++ "'.")
      let normalized ← normalizeValue text key value
      return Function.update overrides key (some normalized)
  | .clear => return Function.update overrides key none
  | .unspecified => throw ("A mutation kind is required for '" ++ key.name ++ "'.")
  | .unknown => throw ("Unsupported mutation kind for '" ++ key.name ++ "'.")

/-- The loop of `apply_request`. -/
def applyMutations (text : FloatText) (mutations : List RuntimeConfigMutation)
    (overrides : Values) : Except String Values :=
  mutations.foldlM (applyMutation text) overrides

/-- `reset_request` on the overrides. -/
def resetOverrides (keys : List String) (overrides : Values) : Except String Values :=
  if keys.isEmpty then .ok fun _ => none
  else
    keys.foldlM (fun overrides rawKey => do
      let key ← canonicalKey rawKey
      return Function.update overrides key none) overrides

end QsoRipper.Setup
