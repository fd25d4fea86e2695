/-
QsoRipper/Setup/Values.lean

The runtime values: which keys there are, what a persisted setup gives each of
them, and how the layers that give them lie over one another.
-/
import QsoRipper.Setup.Persisted

namespace QsoRipper.Setup

/-- The keys of the runtime values. -/
inductive RuntimeKey where
  | storageBackend
  | sqlitePath
  | stationProfileName
  | stationCallsign
  | stationOperatorCallsign
  | stationOperatorName
  | stationGrid
  | stationCounty
  | stationState
  | stationCountry
  | stationArrlSection
  | stationDxcc
  | stationCqZone
  | stationItuZone
  | stationLatitude
  | stationLongitude
  | qrzXmlUsername
  | qrzXmlPassword
  | qrzUserAgent
  | qrzXmlBaseUrl
  | qrzHttpTimeoutSeconds
  | qrzMaxRetries
  | qrzXmlCaptureOnly
  | qrzLogbookApiKey
  | qrzLogbookBaseUrl
  | lotwUsername
  | lotwPassword
  | lotwTqslPath
  | lotwStationLocation
  | lotwCertificatePassword
  | lotwReportUrl
  | lotwTimeoutSeconds
  | syncAutoEnabled
  | syncIntervalSeconds
  | syncConflictPolicy
  | wsjtxIngestEnabled
  | wsjtxIngestUdpEnabled
  | wsjtxIngestUdpBind
  | wsjtxIngestAdifTailEnabled
  | wsjtxIngestAdifTailPath
  | wsjtxIngestPollIntervalMs
  | wsjtxIngestSyncToQrz
  | contestCalendarEnabled
  | contestCalendarRssUrl
  | contestCalendarHttpTimeoutSeconds
  | contestCalendarRefreshIntervalSeconds
  | contestCalendarStaleAfterSeconds
  | contestCalendarDetailsPath
  | noaaSpaceWeatherEnabled
  | noaaKpIndexUrl
  | noaaSolarIndicesUrl
  | noaaHttpTimeoutSeconds
  | noaaRefreshIntervalSeconds
  | noaaStaleAfterSeconds
  | rigctldEnabled
  | rigctldHost
  | rigctldPort
  | rigctldReadTimeoutMs
  | rigctldStaleThresholdMs
  | cwKeyerBackend
  | cwWinkeyerPort
  | cwWinkeyerBaud
  | cwCathubEndpoint
  | cwCathubClientName
  | cwSpeedWpm
  | cwTransmitEnabled
  | cwMaxTxMs
  deriving DecidableEq

namespace RuntimeKey

/-- The name of a key. -/
def name : RuntimeKey → String
  | storageBackend => "QSORIPPER_STORAGE_BACKEND"
  | sqlitePath => "QSORIPPER_SQLITE_PATH"
  | stationProfileName => "QSORIPPER_STATION_PROFILE_NAME"
  | stationCallsign => "QSORIPPER_STATION_CALLSIGN"
  | stationOperatorCallsign => "QSORIPPER_STATION_OPERATOR_CALLSIGN"
  | stationOperatorName => "QSORIPPER_STATION_OPERATOR_NAME"
  | stationGrid => "QSORIPPER_STATION_GRID"
  | stationCounty => "QSORIPPER_STATION_COUNTY"
  | stationState => "QSORIPPER_STATION_STATE"
  | stationCountry => "QSORIPPER_STATION_COUNTRY"
  | stationArrlSection => "QSORIPPER_STATION_ARRL_SECTION"
  | stationDxcc => "QSORIPPER_STATION_DXCC"
  | stationCqZone => "QSORIPPER_STATION_CQ_ZONE"
  | stationItuZone => "QSORIPPER_STATION_ITU_ZONE"
  | stationLatitude => "QSORIPPER_STATION_LATITUDE"
  | stationLongitude => "QSORIPPER_STATION_LONGITUDE"
  | qrzXmlUsername => "QSORIPPER_QRZ_XML_USERNAME"
  | qrzXmlPassword => "QSORIPPER_QRZ_XML_PASSWORD"
  | qrzUserAgent => "QSORIPPER_QRZ_USER_AGENT"
  | qrzXmlBaseUrl => "QSORIPPER_QRZ_XML_BASE_URL"
  | qrzHttpTimeoutSeconds => "QSORIPPER_QRZ_HTTP_TIMEOUT_SECONDS"
  | qrzMaxRetries => "QSORIPPER_QRZ_MAX_RETRIES"
  | qrzXmlCaptureOnly => "QSORIPPER_QRZ_XML_CAPTURE_ONLY"
  | qrzLogbookApiKey => "QSORIPPER_QRZ_LOGBOOK_API_KEY"
  | qrzLogbookBaseUrl => "QSORIPPER_QRZ_LOGBOOK_BASE_URL"
  | lotwUsername => "QSORIPPER_LOTW_USERNAME"
  | lotwPassword => "QSORIPPER_LOTW_PASSWORD"
  | lotwTqslPath => "QSORIPPER_LOTW_TQSL_PATH"
  | lotwStationLocation => "QSORIPPER_LOTW_STATION_LOCATION"
  | lotwCertificatePassword => "QSORIPPER_LOTW_CERTIFICATE_PASSWORD"
  | lotwReportUrl => "QSORIPPER_LOTW_REPORT_URL"
  | lotwTimeoutSeconds => "QSORIPPER_LOTW_TIMEOUT_SECONDS"
  | syncAutoEnabled => "QSORIPPER_SYNC_AUTO_ENABLED"
  | syncIntervalSeconds => "QSORIPPER_SYNC_INTERVAL_SECONDS"
  | syncConflictPolicy => "QSORIPPER_SYNC_CONFLICT_POLICY"
  | wsjtxIngestEnabled => "QSORIPPER_WSJTX_INGEST_ENABLED"
  | wsjtxIngestUdpEnabled => "QSORIPPER_WSJTX_INGEST_UDP_ENABLED"
  | wsjtxIngestUdpBind => "QSORIPPER_WSJTX_INGEST_UDP_BIND"
  | wsjtxIngestAdifTailEnabled => "QSORIPPER_WSJTX_INGEST_ADIF_TAIL_ENABLED"
  | wsjtxIngestAdifTailPath => "QSORIPPER_WSJTX_INGEST_ADIF_TAIL_PATH"
  | wsjtxIngestPollIntervalMs => "QSORIPPER_WSJTX_INGEST_POLL_INTERVAL_MS"
  | wsjtxIngestSyncToQrz => "QSORIPPER_WSJTX_INGEST_SYNC_TO_QRZ"
  | contestCalendarEnabled => "QSORIPPER_CONTEST_CALENDAR_ENABLED"
  | contestCalendarRssUrl => "QSORIPPER_CONTEST_CALENDAR_RSS_URL"
  | contestCalendarHttpTimeoutSeconds => "QSORIPPER_CONTEST_CALENDAR_HTTP_TIMEOUT_SECONDS"
  | contestCalendarRefreshIntervalSeconds => "QSORIPPER_CONTEST_CALENDAR_REFRESH_INTERVAL_SECONDS"
  | contestCalendarStaleAfterSeconds => "QSORIPPER_CONTEST_CALENDAR_STALE_AFTER_SECONDS"
  | contestCalendarDetailsPath => "QSORIPPER_CONTEST_CALENDAR_DETAILS_PATH"
  | noaaSpaceWeatherEnabled => "QSORIPPER_NOAA_SPACE_WEATHER_ENABLED"
  | noaaKpIndexUrl => "QSORIPPER_NOAA_KP_INDEX_URL"
  | noaaSolarIndicesUrl => "QSORIPPER_NOAA_SOLAR_INDICES_URL"
  | noaaHttpTimeoutSeconds => "QSORIPPER_NOAA_HTTP_TIMEOUT_SECONDS"
  | noaaRefreshIntervalSeconds => "QSORIPPER_NOAA_REFRESH_INTERVAL_SECONDS"
  | noaaStaleAfterSeconds => "QSORIPPER_NOAA_STALE_AFTER_SECONDS"
  | rigctldEnabled => "QSORIPPER_RIGCTLD_ENABLED"
  | rigctldHost => "QSORIPPER_RIGCTLD_HOST"
  | rigctldPort => "QSORIPPER_RIGCTLD_PORT"
  | rigctldReadTimeoutMs => "QSORIPPER_RIGCTLD_READ_TIMEOUT_MS"
  | rigctldStaleThresholdMs => "QSORIPPER_RIGCTLD_STALE_THRESHOLD_MS"
  | cwKeyerBackend => "QSORIPPER_CW_KEYER_BACKEND"
  | cwWinkeyerPort => "QSORIPPER_CW_WINKEYER_PORT"
  | cwWinkeyerBaud => "QSORIPPER_CW_WINKEYER_BAUD"
  | cwCathubEndpoint => "QSORIPPER_CW_CATHUB_ENDPOINT"
  | cwCathubClientName => "QSORIPPER_CW_CATHUB_CLIENT_NAME"
  | cwSpeedWpm => "QSORIPPER_CW_SPEED_WPM"
  | cwTransmitEnabled => "QSORIPPER_CW_TRANSMIT_ENABLED"
  | cwMaxTxMs => "QSORIPPER_CW_MAX_TX_MS"

/-- The keys that a session override of the station profile takes away. -/
def isStation : RuntimeKey → Bool
  | stationProfileName | stationCallsign | stationOperatorCallsign | stationOperatorName
  | stationGrid | stationCounty | stationState | stationCountry | stationArrlSection
  | stationDxcc | stationCqZone | stationItuZone | stationLatitude | stationLongitude => true
  | _ => false

end RuntimeKey

/-- `BTreeMap<String, String>`, from the keys that occur. -/
abbrev Values := RuntimeKey → Option String

/-- `merge_values`. -/
def mergeValues (baseValues overrides : Values) : Values :=
  fun key => (overrides key).or (baseValues key)

/-- `insert_station_profile_runtime_values`, into no values. -/
def stationProfileValues (text : FloatText) (profile : StationProfile) : Values
  | .stationProfileName => profile.profileName
  | .stationCallsign => some profile.stationCallsign
  | .stationOperatorCallsign => profile.operatorCallsign
  | .stationOperatorName => profile.operatorName
  | .stationGrid => profile.grid
  | .stationCounty => profile.county
  | .stationState => profile.state
  | .stationCountry => profile.country
  | .stationArrlSection => profile.arrlSection
  | .stationDxcc => profile.dxcc.map toString
  | .stationCqZone => profile.cqZone.map toString
  | .stationItuZone => profile.ituZone.map toString
  | .stationLatitude => profile.latitude.map text.display
  | .stationLongitude => profile.longitude.map text.display
  | _ => none

/-- `PersistedWsjtxIngestConfig::insert_runtime_values`, into no values. -/
def PersistedWsjtxIngestConfig.runtimeValues (config : PersistedWsjtxIngestConfig) : Values
  | .wsjtxIngestEnabled => config.enabled.map toString
  | .wsjtxIngestUdpEnabled => config.udpEnabled.map toString
  | .wsjtxIngestUdpBind => normalizeOptionalString config.udpBind
  | .wsjtxIngestAdifTailEnabled => config.adifTailEnabled.map toString
  | .wsjtxIngestAdifTailPath => normalizeOptionalString config.adifTailPath
  | .wsjtxIngestPollIntervalMs => config.pollIntervalMs.map toString
  | .wsjtxIngestSyncToQrz => config.syncToQrz.map toString
  | _ => none

/-- `PersistedSetupConfig::to_runtime_values`: each key is inserted at most once. -/
def PersistedSetupConfig.toRuntimeValues (text : FloatText) (config : PersistedSetupConfig) :
    Values
  | .storageBackend =>
      match config.runtimeStorageBackend with
      | .memory => some "memory"
      | .sqlite => some "sqlite"
      | .unspecified => none
  | .sqlitePath => if config.runtimeStorageBackend = .sqlite then config.logFilePath else none
  | .qrzXmlUsername => config.qrzXml.username
  | .qrzXmlPassword => config.qrzXml.password
  | .qrzUserAgent => config.qrzXml.userAgent
  | .qrzLogbookApiKey => config.qrzLogbook.apiKey
  | .qrzLogbookBaseUrl => config.qrzLogbook.baseUrl
  | .lotwUsername => config.lotw.username
  | .lotwPassword => config.lotw.password
  | .lotwTqslPath => config.lotw.tqslPath
  | .lotwStationLocation => config.lotw.stationLocation
  | .lotwCertificatePassword => config.lotw.certificatePassword
  | .lotwReportUrl => config.lotw.reportUrl
  | .lotwTimeoutSeconds => config.lotw.timeoutSeconds.map toString
  | .syncAutoEnabled => some (toString config.sync.autoSyncEnabled)
  | .syncIntervalSeconds => some (toString config.sync.syncIntervalSeconds)
  | .syncConflictPolicy =>
      if config.sync.conflictPolicy.isEmpty then none else some config.sync.conflictPolicy
  | .rigctldEnabled => config.rigControl.enabled.map toString
  | .rigctldHost => config.rigControl.host
  | .rigctldPort => config.rigControl.port.map toString
  | .rigctldReadTimeoutMs => config.rigControl.readTimeoutMs.map toString
  | .rigctldStaleThresholdMs => config.rigControl.staleThresholdMs.map toString
  | .cwKeyerBackend => config.cwKeying.backend
  | .cwWinkeyerPort => config.cwKeying.winkeyerPort
  | .cwWinkeyerBaud => config.cwKeying.winkeyerBaud.map toString
  | .cwCathubEndpoint => config.cwKeying.cathubEndpoint
  | .cwCathubClientName => config.cwKeying.cathubClientName
  | .cwSpeedWpm => config.cwKeying.speedWpm.map toString
  | .cwTransmitEnabled => config.cwKeying.transmitEnabled.map toString
  | .cwMaxTxMs => config.cwKeying.maxTxMs.map toString
  | key =>
      -- no other section has a value for a key of these two
      (config.activeStationProfile.bind fun profile => stationProfileValues text profile key).or
        (if config.wsjtxIngest.isEmpty then none else config.wsjtxIngest.runtimeValues key)

/-- `merged_base_values`. -/
def mergedBaseValues (configFileValues startupValues : Values) : Values :=
  mergeValues configFileValues startupValues

/-- `station_profile_override_values`. -/
def stationProfileOverrideValues (text : FloatText) (profile : Option StationProfile) : Values :=
  fun key => profile.bind fun profile => stationProfileValues text profile key

/-- `build_effective_values`. -/
def buildEffectiveValues (text : FloatText) (baseValues : Values)
    (sessionOverride : Option StationProfile) (overrides : Values) : Values :=
  let withoutStation : Values := fun key =>
    if sessionOverride.isSome && key.isStation then none else baseValues key
  mergeValues (mergeValues withoutStation (stationProfileOverrideValues text sessionOverride))
    overrides

end QsoRipper.Setup
