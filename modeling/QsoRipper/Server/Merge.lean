/-
QsoRipper/Server/Merge.lean

The two ways a downloaded record changes the local row it matched.

`mergeRemoteAuthoritative` is `prost::Message::merge` applied to the encoded
remote record.  On the wire a plain field is absent when it has its default
value and an optional one when it is `None`, so what is absent keeps the local
value; sub-messages are merged field by field, timestamps included, and map
entries are inserted one by one.

`fillMissingRemoteEnrichment` only fills fields that are blank locally.
-/
import QsoRipper.Lib.Text
import QsoRipper.Domain.Record

namespace QsoRipper

/-! ### Wire merge -/

/-- Merge a plain field: a default value is not on the wire. -/
def mergePlain {α : Type} [DecidableEq α] (default mine theirs : α) : α :=
  if theirs = default then mine else theirs

/-- Merge a sub-message, which is created when it is absent. -/
def mergeMessage {α : Type} (empty : α) (merge : α → α → α) (mine theirs : Option α) : Option α :=
  match theirs with
  | none => mine
  | some theirs => some (merge (mine.getD empty) theirs)

/-- `Timestamp::merge`. -/
def Timestamp.merge (mine theirs : Timestamp) : Timestamp where
  seconds := mergePlain 0 mine.seconds theirs.seconds
  nanos := mergePlain 0 mine.nanos theirs.nanos

/-- Merge an optional timestamp field. -/
def mergeTimestamp : Option Timestamp → Option Timestamp → Option Timestamp :=
  mergeMessage ⟨0, 0⟩ Timestamp.merge

/-- `RstReport::merge`. -/
def RstReport.merge (mine theirs : RstReport) : RstReport where
  readability := theirs.readability.or mine.readability
  strength := theirs.strength.or mine.strength
  tone := theirs.tone.or mine.tone
  raw := mergePlain "" mine.raw theirs.raw

/-- `StationSnapshot::merge`. -/
def StationSnapshot.merge (mine theirs : StationSnapshot) : StationSnapshot where
  profileName := theirs.profileName.or mine.profileName
  stationCallsign := mergePlain "" mine.stationCallsign theirs.stationCallsign
  operatorCallsign := theirs.operatorCallsign.or mine.operatorCallsign
  operatorName := theirs.operatorName.or mine.operatorName
  grid := theirs.grid.or mine.grid
  county := theirs.county.or mine.county
  state := theirs.state.or mine.state
  country := theirs.country.or mine.country
  dxcc := theirs.dxcc.or mine.dxcc
  cqZone := theirs.cqZone.or mine.cqZone
  ituZone := theirs.ituZone.or mine.ituZone
  latitude := theirs.latitude.or mine.latitude
  longitude := theirs.longitude.or mine.longitude
  arrlSection := theirs.arrlSection.or mine.arrlSection
  altitudeMeters := theirs.altitudeMeters.or mine.altitudeMeters
  gridsquareExt := theirs.gridsquareExt.or mine.gridsquareExt

/-- `QsoRecord::merge`. -/
def QsoRecord.merge (mine theirs : QsoRecord) : QsoRecord where
  localId := mergePlain "" mine.localId theirs.localId
  qrzLogid := theirs.qrzLogid.or mine.qrzLogid
  qrzBookid := theirs.qrzBookid.or mine.qrzBookid
  stationCallsign := mergePlain "" mine.stationCallsign theirs.stationCallsign
  workedCallsign := mergePlain "" mine.workedCallsign theirs.workedCallsign
  utcTimestamp := mergeTimestamp mine.utcTimestamp theirs.utcTimestamp
  band := mergePlain 0 mine.band theirs.band
  mode := mergePlain 0 mine.mode theirs.mode
  frequencyKhz := theirs.frequencyKhz.or mine.frequencyKhz
  frequencyHz := theirs.frequencyHz.or mine.frequencyHz
  submode := theirs.submode.or mine.submode
  stationSnapshot := mergeMessage {} StationSnapshot.merge mine.stationSnapshot
    theirs.stationSnapshot
  utcEndTimestamp := mergeTimestamp mine.utcEndTimestamp theirs.utcEndTimestamp
  rstSent := mergeMessage {} RstReport.merge mine.rstSent theirs.rstSent
  rstReceived := mergeMessage {} RstReport.merge mine.rstReceived theirs.rstReceived
  txPower := theirs.txPower.or mine.txPower
  qslSentStatus := mergePlain 0 mine.qslSentStatus theirs.qslSentStatus
  qslReceivedStatus := mergePlain 0 mine.qslReceivedStatus theirs.qslReceivedStatus
  lotwSent := theirs.lotwSent.or mine.lotwSent
  lotwReceived := theirs.lotwReceived.or mine.lotwReceived
  eqslSent := theirs.eqslSent.or mine.eqslSent
  eqslReceived := theirs.eqslReceived.or mine.eqslReceived
  qslSentDate := mergeTimestamp mine.qslSentDate theirs.qslSentDate
  qslReceivedDate := mergeTimestamp mine.qslReceivedDate theirs.qslReceivedDate
  lotwSentStatus := mergePlain 0 mine.lotwSentStatus theirs.lotwSentStatus
  lotwReceivedStatus := mergePlain 0 mine.lotwReceivedStatus theirs.lotwReceivedStatus
  lotwSentDate := mergeTimestamp mine.lotwSentDate theirs.lotwSentDate
  lotwReceivedDate := mergeTimestamp mine.lotwReceivedDate theirs.lotwReceivedDate
  lotwSyncStatus := mergePlain 0 mine.lotwSyncStatus theirs.lotwSyncStatus
  workedOperatorCallsign := theirs.workedOperatorCallsign.or mine.workedOperatorCallsign
  workedOperatorName := theirs.workedOperatorName.or mine.workedOperatorName
  workedGrid := theirs.workedGrid.or mine.workedGrid
  workedCountry := theirs.workedCountry.or mine.workedCountry
  workedDxcc := theirs.workedDxcc.or mine.workedDxcc
  workedState := theirs.workedState.or mine.workedState
  workedCqZone := theirs.workedCqZone.or mine.workedCqZone
  workedItuZone := theirs.workedItuZone.or mine.workedItuZone
  workedCounty := theirs.workedCounty.or mine.workedCounty
  workedIota := theirs.workedIota.or mine.workedIota
  workedContinent := theirs.workedContinent.or mine.workedContinent
  workedArrlSection := theirs.workedArrlSection.or mine.workedArrlSection
  skcc := theirs.skcc.or mine.skcc
  contestId := theirs.contestId.or mine.contestId
  serialSent := theirs.serialSent.or mine.serialSent
  serialReceived := theirs.serialReceived.or mine.serialReceived
  exchangeSent := theirs.exchangeSent.or mine.exchangeSent
  exchangeReceived := theirs.exchangeReceived.or mine.exchangeReceived
  propMode := theirs.propMode.or mine.propMode
  satName := theirs.satName.or mine.satName
  satMode := theirs.satMode.or mine.satMode
  notes := theirs.notes.or mine.notes
  comment := theirs.comment.or mine.comment
  createdAt := mergeTimestamp mine.createdAt theirs.createdAt
  updatedAt := mergeTimestamp mine.updatedAt theirs.updatedAt
  syncStatus := mergePlain 0 mine.syncStatus theirs.syncStatus
  deletedAt := mergeTimestamp mine.deletedAt theirs.deletedAt
  pendingRemoteDelete := mergePlain false mine.pendingRemoteDelete theirs.pendingRemoteDelete
  extraFields := mine.extraFields.insertMany theirs.extraFields.toList
  workedLatitude := theirs.workedLatitude.or mine.workedLatitude
  workedLongitude := theirs.workedLongitude.or mine.workedLongitude
  workedAltitudeMeters := theirs.workedAltitudeMeters.or mine.workedAltitudeMeters
  workedGridsquareExt := theirs.workedGridsquareExt.or mine.workedGridsquareExt
  frequencyRxKhz := theirs.frequencyRxKhz.or mine.frequencyRxKhz
  frequencyRxHz := theirs.frequencyRxHz.or mine.frequencyRxHz
  bandRx := mergePlain 0 mine.bandRx theirs.bandRx
  ownerCallsign := theirs.ownerCallsign.or mine.ownerCallsign
  qsoComplete := mergePlain 0 mine.qsoComplete theirs.qsoComplete
  cwDecodeRxWpm := theirs.cwDecodeRxWpm.or mine.cwDecodeRxWpm
  cwDecodeTranscript := theirs.cwDecodeTranscript.or mine.cwDecodeTranscript

/-- `merge_remote_authoritative`; decoding what was just encoded cannot fail. -/
def mergeRemoteAuthoritative (mine remote : QsoRecord) : QsoRecord :=
  { mine.merge remote with
    createdAt := mine.createdAt
    updatedAt := mine.updatedAt
    deletedAt := mine.deletedAt
    pendingRemoteDelete := mine.pendingRemoteDelete }

/-! ### Filling blanks -/

/-- Is an optional text field missing or blank? -/
def isBlank (value : Option String) : Bool := value.all fun s => (Text.trim s).isEmpty

/-- `copy_string_if_missing`. -/
def copyStringIfMissing (target remote : Option String) : Option String :=
  if isBlank target then
    (((remote.map Text.trim).filter fun s => !s.isEmpty).or target)
  else target

/-- `copy_u32_if_missing`. -/
def copyU32IfMissing (target remote : Option ℕ) : Option ℕ :=
  if target.all (· == 0) then (remote.filter fun n => decide (0 < n)).or target else target

/-- `copy_f64_if_missing`. -/
def copyF64IfMissing (target remote : Option Float64) : Option Float64 :=
  if target.all fun x => !x.isFinite then (remote.filter Float64.isFinite).or target else target

/-- The extra fields that are blank locally, taken from the remote record. -/
def copyExtraFieldsIfMissing (target remote : Std.ExtTreeMap String String) :
    Std.ExtTreeMap String String :=
  remote.toList.foldl
    (fun target (key, value) =>
      if !(Text.trim value).isEmpty && isBlank target[key]? then target.insert key value
      else target)
    target

/-- `fill_missing_remote_enrichment`. -/
def fillMissingRemoteEnrichment (target remote : QsoRecord) : QsoRecord :=
  { target with
    workedOperatorCallsign :=
      copyStringIfMissing target.workedOperatorCallsign remote.workedOperatorCallsign
    workedOperatorName := copyStringIfMissing target.workedOperatorName remote.workedOperatorName
    workedGrid := copyStringIfMissing target.workedGrid remote.workedGrid
    workedCountry := copyStringIfMissing target.workedCountry remote.workedCountry
    workedDxcc := copyU32IfMissing target.workedDxcc remote.workedDxcc
    workedState := copyStringIfMissing target.workedState remote.workedState
    workedCqZone := copyU32IfMissing target.workedCqZone remote.workedCqZone
    workedItuZone := copyU32IfMissing target.workedItuZone remote.workedItuZone
    workedCounty := copyStringIfMissing target.workedCounty remote.workedCounty
    workedIota := copyStringIfMissing target.workedIota remote.workedIota
    workedContinent := copyStringIfMissing target.workedContinent remote.workedContinent
    workedArrlSection := copyStringIfMissing target.workedArrlSection remote.workedArrlSection
    skcc := copyStringIfMissing target.skcc remote.skcc
    workedLatitude := copyF64IfMissing target.workedLatitude remote.workedLatitude
    workedLongitude := copyF64IfMissing target.workedLongitude remote.workedLongitude
    workedAltitudeMeters :=
      copyF64IfMissing target.workedAltitudeMeters remote.workedAltitudeMeters
    workedGridsquareExt :=
      copyStringIfMissing target.workedGridsquareExt remote.workedGridsquareExt
    extraFields := copyExtraFieldsIfMissing target.extraFields remote.extraFields }

end QsoRipper
