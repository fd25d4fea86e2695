/-
QsoRipper/Setup/Document.lean

The persisted setup as a TOML document: how each section is serialised and
deserialised, which sections are left out, how the result is spliced into the
document that is there, and how a document is loaded.
-/
import QsoRipper.Lib.Toml
import QsoRipper.Setup.Persisted

namespace QsoRipper.Setup

open Toml

/-! ### Sections

The fields of each section, without those that are never serialised, and how it
is read. -/

/-- `PersistedLogbookConfig`. -/
def PersistedLogbookConfig.fields (config : PersistedLogbookConfig) :
    List (String × Option Toml) :=
  [("file_path", config.filePath.map .string)]

def PersistedLogbookConfig.ofToml (t : Table) : Option PersistedLogbookConfig := do
  let filePath ← t.optional "file_path" string?
  return { filePath }

/-- `PersistedStorageConfig`. -/
def PersistedStorageConfig.fields (config : PersistedStorageConfig) :
    List (String × Option Toml) :=
  [("backend", config.backend.map .string), ("sqlite_path", config.sqlitePath.map .string)]

def PersistedStorageConfig.ofToml (t : Table) : Option PersistedStorageConfig := do
  let backend ← t.optional "backend" string?
  let sqlitePath ← t.optional "sqlite_path" string?
  return { backend, sqlitePath }

/-- `PersistedStationProfile`. -/
def PersistedStationProfile.fields (profile : PersistedStationProfile) :
    List (String × Option Toml) :=
  [("profile_name", profile.profileName.map .string),
    ("station_callsign", profile.stationCallsign.map .string),
    ("operator_callsign", profile.operatorCallsign.map .string),
    ("operator_name", profile.operatorName.map .string),
    ("grid", profile.grid.map .string),
    ("county", profile.county.map .string),
    ("state", profile.state.map .string),
    ("country", profile.country.map .string),
    ("arrl_section", profile.arrlSection.map .string),
    ("dxcc", profile.dxcc.map unsigned),
    ("cq_zone", profile.cqZone.map unsigned),
    ("itu_zone", profile.ituZone.map unsigned),
    ("latitude", profile.latitude.map .float),
    ("longitude", profile.longitude.map .float)]

def PersistedStationProfile.ofToml (t : Table) : Option PersistedStationProfile := do
  let profileName ← t.optional "profile_name" string?
  let stationCallsign ← t.optional "station_callsign" string?
  let operatorCallsign ← t.optional "operator_callsign" string?
  let operatorName ← t.optional "operator_name" string?
  let grid ← t.optional "grid" string?
  let county ← t.optional "county" string?
  let state ← t.optional "state" string?
  let country ← t.optional "country" string?
  let arrlSection ← t.optional "arrl_section" string?
  let dxcc ← t.optional "dxcc" (unsigned? (2 ^ 32))
  let cqZone ← t.optional "cq_zone" (unsigned? (2 ^ 32))
  let ituZone ← t.optional "itu_zone" (unsigned? (2 ^ 32))
  let latitude ← t.optional "latitude" float?
  let longitude ← t.optional "longitude" float?
  return {
    profileName, stationCallsign, operatorCallsign, operatorName, grid, county, state, country
    arrlSection, dxcc, cqZone, ituZone, latitude, longitude }

/-- The numbers of a profile. -/
def PersistedStationProfile.numbers (profile : PersistedStationProfile) : List ℕ :=
  [profile.dxcc, profile.cqZone, profile.ituZone].reduceOption

/-- `PersistedStationProfileEntry`, with its profile flattened into it. -/
def PersistedStationProfileEntry.fields (entry : PersistedStationProfileEntry) :
    List (String × Option Toml) :=
  ("profile_id", some (.string entry.profileId)) :: entry.profile.fields

def PersistedStationProfileEntry.ofToml (t : Table) : Option PersistedStationProfileEntry := do
  let profileId ← (t.get? "profile_id").bind string?
  let profile ← PersistedStationProfile.ofToml t
  return { profileId, profile }

/-- `PersistedStationProfileCatalog`. -/
def PersistedStationProfileCatalog.fields (catalog : PersistedStationProfileCatalog) :
    List (String × Option Toml) :=
  [("active_profile_id", catalog.activeProfileId.map .string),
    ("entries",
      some (.array (catalog.entries.map fun entry => .table (Table.ofFields entry.fields))))]

def PersistedStationProfileCatalog.ofToml (t : Table) : Option PersistedStationProfileCatalog := do
  let activeProfileId ← t.optional "active_profile_id" string?
  let entries ← t.withDefault "entries" [] fun value =>
    value.tables?.bind fun tables => tables.mapM PersistedStationProfileEntry.ofToml
  return { activeProfileId, entries }

/-- `PersistedQrzXmlConfig`. -/
def PersistedQrzXmlConfig.fields (config : PersistedQrzXmlConfig) : List (String × Option Toml) :=
  [("username", config.username.map .string), ("user_agent", config.userAgent.map .string)]

def PersistedQrzXmlConfig.ofToml (t : Table) : Option PersistedQrzXmlConfig := do
  let username ← t.optional "username" string?
  let password ← t.optional "password" string?
  let userAgent ← t.optional "user_agent" string?
  return { username, password, userAgent }

/-- `PersistedQrzLogbookConfig`. -/
def PersistedQrzLogbookConfig.fields (config : PersistedQrzLogbookConfig) :
    List (String × Option Toml) :=
  [("base_url", config.baseUrl.map .string)]

def PersistedQrzLogbookConfig.ofToml (t : Table) : Option PersistedQrzLogbookConfig := do
  let apiKey ← t.optional "api_key" string?
  let baseUrl ← t.optional "base_url" string?
  return { apiKey, baseUrl }

/-- `PersistedLotwConfig`. -/
def PersistedLotwConfig.fields (config : PersistedLotwConfig) : List (String × Option Toml) :=
  [("username", config.username.map .string),
    ("tqsl_path", config.tqslPath.map .string),
    ("station_location", config.stationLocation.map .string),
    ("report_url", config.reportUrl.map .string),
    ("timeout_seconds", config.timeoutSeconds.map unsigned)]

def PersistedLotwConfig.ofToml (t : Table) : Option PersistedLotwConfig := do
  let username ← t.optional "username" string?
  let password ← t.optional "password" string?
  let tqslPath ← t.optional "tqsl_path" string?
  let stationLocation ← t.optional "station_location" string?
  let certificatePassword ← t.optional "certificate_password" string?
  let reportUrl ← t.optional "report_url" string?
  let timeoutSeconds ← t.optional "timeout_seconds" (unsigned? (2 ^ 64))
  return {
    username, password, tqslPath, stationLocation, certificatePassword, reportUrl
    timeoutSeconds }

/-- `PersistedSyncConfig`. -/
def PersistedSyncConfig.fields (config : PersistedSyncConfig) : List (String × Option Toml) :=
  [("auto_sync_enabled", some (.boolean config.autoSyncEnabled)),
    ("sync_interval_seconds", some (unsigned config.syncIntervalSeconds)),
    ("conflict_policy", some (.string config.conflictPolicy))]

def PersistedSyncConfig.ofToml (t : Table) : Option PersistedSyncConfig := do
  let autoSyncEnabled ← t.withDefault "auto_sync_enabled" false boolean?
  let syncIntervalSeconds ← t.withDefault "sync_interval_seconds" defaultSyncIntervalSeconds
    (unsigned? (2 ^ 32))
  let conflictPolicy ← t.withDefault "conflict_policy" "" string?
  return { autoSyncEnabled, syncIntervalSeconds, conflictPolicy }

/-- `PersistedRigControlConfig`. -/
def PersistedRigControlConfig.fields (config : PersistedRigControlConfig) :
    List (String × Option Toml) :=
  [("enabled", config.enabled.map .boolean),
    ("host", config.host.map .string),
    ("port", config.port.map unsigned),
    ("read_timeout_ms", config.readTimeoutMs.map unsigned),
    ("stale_threshold_ms", config.staleThresholdMs.map unsigned)]

def PersistedRigControlConfig.ofToml (t : Table) : Option PersistedRigControlConfig := do
  let enabled ← t.optional "enabled" boolean?
  let host ← t.optional "host" string?
  let port ← t.optional "port" (unsigned? (2 ^ 16))
  let readTimeoutMs ← t.optional "read_timeout_ms" (unsigned? (2 ^ 64))
  let staleThresholdMs ← t.optional "stale_threshold_ms" (unsigned? (2 ^ 64))
  return { enabled, host, port, readTimeoutMs, staleThresholdMs }

/-- The numbers of the rig control. -/
def PersistedRigControlConfig.numbers (config : PersistedRigControlConfig) : List ℕ :=
  [config.port, config.readTimeoutMs, config.staleThresholdMs].reduceOption

/-- `PersistedWsjtxIngestConfig`. -/
def PersistedWsjtxIngestConfig.fields (config : PersistedWsjtxIngestConfig) :
    List (String × Option Toml) :=
  [("enabled", config.enabled.map .boolean),
    ("udp_enabled", config.udpEnabled.map .boolean),
    ("udp_bind", config.udpBind.map .string),
    ("adif_tail_enabled", config.adifTailEnabled.map .boolean),
    ("adif_tail_path", config.adifTailPath.map .string),
    ("poll_interval_ms", config.pollIntervalMs.map unsigned),
    ("sync_to_qrz", config.syncToQrz.map .boolean)]

def PersistedWsjtxIngestConfig.ofToml (t : Table) : Option PersistedWsjtxIngestConfig := do
  let enabled ← t.optional "enabled" boolean?
  let udpEnabled ← t.optional "udp_enabled" boolean?
  let udpBind ← t.optional "udp_bind" string?
  let adifTailEnabled ← t.optional "adif_tail_enabled" boolean?
  let adifTailPath ← t.optional "adif_tail_path" string?
  let pollIntervalMs ← t.optional "poll_interval_ms" (unsigned? (2 ^ 32))
  let syncToQrz ← t.optional "sync_to_qrz" boolean?
  return {
    enabled, udpEnabled, udpBind, adifTailEnabled, adifTailPath, pollIntervalMs, syncToQrz }

/-- `PersistedCwKeyingConfig`. -/
def PersistedCwKeyingConfig.fields (config : PersistedCwKeyingConfig) :
    List (String × Option Toml) :=
  [("backend", config.backend.map .string),
    ("winkeyer_port", config.winkeyerPort.map .string),
    ("winkeyer_baud", config.winkeyerBaud.map unsigned),
    ("cathub_endpoint", config.cathubEndpoint.map .string),
    ("cathub_client_name", config.cathubClientName.map .string),
    ("speed_wpm", config.speedWpm.map unsigned),
    ("transmit_enabled", config.transmitEnabled.map .boolean),
    ("max_tx_ms", config.maxTxMs.map unsigned)]

def PersistedCwKeyingConfig.ofToml (t : Table) : Option PersistedCwKeyingConfig := do
  let backend ← t.optional "backend" string?
  let winkeyerPort ← t.optional "winkeyer_port" string?
  let winkeyerBaud ← t.optional "winkeyer_baud" (unsigned? (2 ^ 32))
  let cathubEndpoint ← t.optional "cathub_endpoint" string?
  let cathubClientName ← t.optional "cathub_client_name" string?
  let speedWpm ← t.optional "speed_wpm" (unsigned? (2 ^ 32))
  let transmitEnabled ← t.optional "transmit_enabled" boolean?
  let maxTxMs ← t.optional "max_tx_ms" (unsigned? (2 ^ 64))
  return {
    backend, winkeyerPort, winkeyerBaud, cathubEndpoint, cathubClientName, speedWpm
    transmitEnabled, maxTxMs }

/-- `PersistedCwKeyingConfig::is_empty`. -/
def PersistedCwKeyingConfig.isEmpty (config : PersistedCwKeyingConfig) : Bool :=
  config.backend.isNone && config.winkeyerPort.isNone && config.winkeyerBaud.isNone
    && config.cathubEndpoint.isNone && config.cathubClientName.isNone && config.speedWpm.isNone
    && config.transmitEnabled.isNone && config.maxTxMs.isNone

/-- The numbers of the CW keying. -/
def PersistedCwKeyingConfig.numbers (config : PersistedCwKeyingConfig) : List ℕ :=
  [config.winkeyerBaud, config.speedWpm, config.maxTxMs].reduceOption

/-! ### The document -/

/-- A section, unless it is skipped. -/
def sectionOf (skipped : Bool) (fields : List (String × Option Toml)) : Option Toml :=
  if skipped then none else some (.table (Table.ofFields fields))

namespace PersistedSetupConfig

/-- The sections of `PersistedSetupConfig` that are serialised. -/
def sections (config : PersistedSetupConfig) : List (String × Option Toml) :=
  [("logbook", sectionOf config.logbook.isEmpty config.logbook.fields),
    ("storage", sectionOf config.storage.isEmpty config.storage.fields),
    ("station_profile", sectionOf false config.stationProfile.fields),
    ("station_profiles", sectionOf false config.stationProfiles.fields),
    ("qrz_xml", sectionOf false config.qrzXml.fields),
    ("qrz_logbook", sectionOf config.qrzLogbook.isEmpty config.qrzLogbook.fields),
    ("lotw", sectionOf config.lotw.isEmpty config.lotw.fields),
    ("sync", sectionOf config.sync.isEmpty config.sync.fields),
    ("rig_control", sectionOf config.rigControl.isEmpty config.rigControl.fields),
    ("wsjtx_ingest", sectionOf config.wsjtxIngest.isEmpty config.wsjtxIngest.fields),
    ("cw_keying", sectionOf config.cwKeying.isEmpty config.cwKeying.fields)]

/-- The numbers that are serialised. -/
def numbers (config : PersistedSetupConfig) : List ℕ :=
  config.stationProfile.numbers
    ++ config.stationProfiles.entries.flatMap (fun entry => entry.profile.numbers)
    ++ (if config.lotw.isEmpty then [] else config.lotw.timeoutSeconds.toList)
    ++ (if config.sync.isEmpty then [] else [config.sync.syncIntervalSeconds])
    ++ (if config.rigControl.isEmpty then [] else config.rigControl.numbers)
    ++ (if config.wsjtxIngest.isEmpty then [] else config.wsjtxIngest.pollIntervalMs.toList)
    ++ (if config.cwKeying.isEmpty then [] else config.cwKeying.numbers)

/-- `toml::to_string_pretty`, which fails on a number beyond an `i64`. -/
def serialize (config : PersistedSetupConfig) : Option Table :=
  if ∀ n ∈ config.numbers, n < 2 ^ 63 then some (Table.ofFields config.sections) else none

/-- `toml::from_str`. -/
def ofToml (doc : Table) : Option PersistedSetupConfig := do
  let logbook ← doc.withDefault "logbook" {} fun v => v.table?.bind PersistedLogbookConfig.ofToml
  let storage ← doc.withDefault "storage" {} fun v => v.table?.bind PersistedStorageConfig.ofToml
  let stationProfile ← doc.withDefault "station_profile" {} fun v =>
    v.table?.bind PersistedStationProfile.ofToml
  let stationProfiles ← doc.withDefault "station_profiles" {} fun v =>
    v.table?.bind PersistedStationProfileCatalog.ofToml
  let qrzXml ← doc.withDefault "qrz_xml" {} fun v => v.table?.bind PersistedQrzXmlConfig.ofToml
  let qrzLogbook ← doc.withDefault "qrz_logbook" {} fun v =>
    v.table?.bind PersistedQrzLogbookConfig.ofToml
  let lotw ← doc.withDefault "lotw" {} fun v => v.table?.bind PersistedLotwConfig.ofToml
  let sync ← doc.withDefault "sync" {} fun v => v.table?.bind PersistedSyncConfig.ofToml
  let rigControl ← doc.withDefault "rig_control" {} fun v =>
    v.table?.bind PersistedRigControlConfig.ofToml
  let wsjtxIngest ← doc.withDefault "wsjtx_ingest" {} fun v =>
    v.table?.bind PersistedWsjtxIngestConfig.ofToml
  let cwKeying ← doc.withDefault "cw_keying" {} fun v =>
    v.table?.bind PersistedCwKeyingConfig.ofToml
  return {
    logbook, storage, stationProfile, stationProfiles, qrzXml, qrzLogbook, lotw, sync, rigControl
    wsjtxIngest, cwKeying }

end PersistedSetupConfig

/-- `ENGINE_OWNED_CONFIG_KEYS`. -/
def engineOwnedConfigKeys : List String :=
  ["logbook", "storage", "station_profile", "station_profiles", "qrz_xml", "qrz_logbook", "lotw",
    "sync", "rig_control"]

/-- `splice_wsjtx_ingest_section`. -/
def spliceWsjtxIngestSection (doc : Table) (wsjtxIngest : PersistedWsjtxIngestConfig) :
    Option Table := do
  let owned ← PersistedSetupConfig.serialize { wsjtxIngest }
  let doc := doc.remove "wsjtx_ingest"
  return (owned.get? "wsjtx_ingest").elim doc fun item => Table.insert "wsjtx_ingest" item doc

/-- One key of the serialised setup is spliced in; ingest and keying are not. -/
def spliceOwned (doc : Table) (entry : String × Toml) : Table :=
  if entry.1 = "wsjtx_ingest" ∨ entry.1 = "cw_keying" then doc
  else Table.insert entry.1 entry.2 doc

/-- `write_persisted_config`: the document it writes over the one that is there. -/
def writePersistedConfig (doc : Table) (config : PersistedSetupConfig)
    (wsjtxIngestUpdate : Option PersistedWsjtxIngestConfig) : Option Table := do
  let owned ← config.serialize
  let doc := engineOwnedConfigKeys.foldl Table.remove doc
  let doc := owned.foldl spliceOwned doc
  match wsjtxIngestUpdate with
  | none => some doc
  | some wsjtxIngest => spliceWsjtxIngestSection doc wsjtxIngest

/-- Plaintext secrets are in the setup. -/
def PersistedSetupConfig.hadPlaintextSecrets (config : PersistedSetupConfig) : Bool :=
  config.qrzXml.password.isSome || config.qrzLogbook.apiKey.isSome
    || config.lotw.password.isSome || config.lotw.certificatePassword.isSome

/-- What `load_persisted_config` makes of the setup it reads. -/
def PersistedSetupConfig.settle (config : PersistedSetupConfig) : PersistedSetupConfig :=
  let stationProfiles := config.stationProfiles.bootstrapFromLegacy config.stationProfile
  PersistedSetupConfig.syncActiveStationProfile { config with stationProfiles }

/-- `load_persisted_config`, with the document it leaves. -/
def loadPersistedConfig (doc : Table) : Option (PersistedSetupConfig × Table) := do
  let read ← PersistedSetupConfig.ofToml doc
  let config := read.settle
  if read.hadPlaintextSecrets then
    let doc ← writePersistedConfig doc config none
    return (config, doc)
  else return (config, doc)

end QsoRipper.Setup
