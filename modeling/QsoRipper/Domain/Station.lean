/-
QsoRipper/Domain/Station.lean

Composing the local-station data of a QSO: how a station profile becomes a
saved snapshot, how a request's snapshot overlays it, and how both are
normalised.
-/
import QsoRipper.Lib.Text
import QsoRipper.Domain.Record

namespace QsoRipper

/-- `StationProfile`, the fields a snapshot is made from. -/
structure StationProfile where
  profileName : Option String := none
  stationCallsign : String := ""
  operatorCallsign : Option String := none
  operatorName : Option String := none
  grid : Option String := none
  county : Option String := none
  state : Option String := none
  country : Option String := none
  dxcc : Option ℕ := none
  cqZone : Option ℕ := none
  ituZone : Option ℕ := none
  latitude : Option Float64 := none
  longitude : Option Float64 := none
  arrlSection : Option String := none

/-- `trimmed_non_empty`. -/
def trimmedNonEmpty (value : String) : Option String :=
  let trimmed := Text.trim value
  if trimmed.isEmpty then none else some trimmed

/-- `normalize_optional_string`. -/
def normalizeOptionalString (value : Option String) : Option String :=
  value.bind trimmedNonEmpty

/-- `normalize_required_string`. -/
def normalizeRequiredString (value : String) : String := Text.trim value

/-- `filter(|value| *value > 0)`. -/
def positive (value : Option ℕ) : Option ℕ := value.filter fun n => decide (0 < n)

/-- `normalize_station_snapshot`. -/
def normalizeStationSnapshot (snapshot : StationSnapshot) : StationSnapshot :=
  { snapshot with
    profileName := normalizeOptionalString snapshot.profileName
    stationCallsign := normalizeRequiredString snapshot.stationCallsign
    operatorCallsign := normalizeOptionalString snapshot.operatorCallsign
    operatorName := normalizeOptionalString snapshot.operatorName
    grid := normalizeOptionalString snapshot.grid
    county := normalizeOptionalString snapshot.county
    state := normalizeOptionalString snapshot.state
    country := normalizeOptionalString snapshot.country
    dxcc := positive snapshot.dxcc
    cqZone := positive snapshot.cqZone
    ituZone := positive snapshot.ituZone
    gridsquareExt := normalizeOptionalString snapshot.gridsquareExt
    arrlSection := normalizeOptionalString snapshot.arrlSection }

/-- `station_snapshot_has_values`. -/
def stationSnapshotHasValues (snapshot : StationSnapshot) : Bool :=
  (trimmedNonEmpty snapshot.stationCallsign).isSome
    || (normalizeOptionalString snapshot.profileName).isSome
    || (normalizeOptionalString snapshot.operatorCallsign).isSome
    || (normalizeOptionalString snapshot.operatorName).isSome
    || (normalizeOptionalString snapshot.grid).isSome
    || (normalizeOptionalString snapshot.county).isSome
    || (normalizeOptionalString snapshot.state).isSome
    || (normalizeOptionalString snapshot.country).isSome
    || snapshot.dxcc.isSome
    || snapshot.cqZone.isSome
    || snapshot.ituZone.isSome
    || snapshot.latitude.isSome
    || snapshot.longitude.isSome
    || snapshot.altitudeMeters.isSome
    || (normalizeOptionalString snapshot.gridsquareExt).isSome
    || (normalizeOptionalString snapshot.arrlSection).isSome

/-- `then_some`, on a snapshot. -/
def snapshotWithValues (snapshot : StationSnapshot) : Option StationSnapshot :=
  if stationSnapshotHasValues snapshot then some snapshot else none

/-- `station_snapshot_from_profile`. -/
def stationSnapshotFromProfile (profile : StationProfile) : Option StationSnapshot :=
  snapshotWithValues <| normalizeStationSnapshot
    { profileName := normalizeOptionalString profile.profileName
      stationCallsign := normalizeRequiredString profile.stationCallsign
      operatorCallsign := normalizeOptionalString profile.operatorCallsign
      operatorName := normalizeOptionalString profile.operatorName
      grid := normalizeOptionalString profile.grid
      county := normalizeOptionalString profile.county
      state := normalizeOptionalString profile.state
      country := normalizeOptionalString profile.country
      dxcc := positive profile.dxcc
      cqZone := positive profile.cqZone
      ituZone := positive profile.ituZone
      latitude := profile.latitude
      longitude := profile.longitude
      altitudeMeters := none
      gridsquareExt := none
      arrlSection := normalizeOptionalString profile.arrlSection }

/-- `effective_station_snapshot`. -/
def effectiveStationSnapshot (qso : QsoRecord) : Option StationSnapshot :=
  let snapshot := qso.stationSnapshot.getD {}
  let stationCallsign := normalizeRequiredString qso.stationCallsign
  snapshotWithValues <| normalizeStationSnapshot <|
    if stationCallsign.isEmpty then snapshot else { snapshot with stationCallsign }

/-- `merge_optional_string`. -/
def mergeOptionalString (target source : Option String) (clearBlankStrings : Bool) :
    Option String :=
  match source.bind trimmedNonEmpty with
  | some value => some value
  | none => if clearBlankStrings && source.isSome then none else target

/-- `merge_station_snapshot`. -/
def mergeStationSnapshot (base overlay : StationSnapshot) (clearBlankStrings : Bool) :
    StationSnapshot :=
  let merge target source := mergeOptionalString target source clearBlankStrings
  { base with
    profileName := merge base.profileName overlay.profileName
    stationCallsign := (trimmedNonEmpty overlay.stationCallsign).getD base.stationCallsign
    operatorCallsign := merge base.operatorCallsign overlay.operatorCallsign
    operatorName := merge base.operatorName overlay.operatorName
    grid := merge base.grid overlay.grid
    county := merge base.county overlay.county
    state := merge base.state overlay.state
    country := merge base.country overlay.country
    dxcc := (positive overlay.dxcc).or base.dxcc
    cqZone := (positive overlay.cqZone).or base.cqZone
    ituZone := (positive overlay.ituZone).or base.ituZone
    latitude := overlay.latitude.or base.latitude
    longitude := overlay.longitude.or base.longitude
    altitudeMeters := overlay.altitudeMeters.or base.altitudeMeters
    gridsquareExt := merge base.gridsquareExt overlay.gridsquareExt
    arrlSection := merge base.arrlSection overlay.arrlSection }

/-- `materialize_station_snapshot_for_create`. -/
def materializeStationSnapshotForCreate (qso : QsoRecord) (activeProfile : Option StationProfile) :
    QsoRecord :=
  let base := (activeProfile.bind stationSnapshotFromProfile).getD {}
  let snapshot := qso.stationSnapshot.elim base fun request =>
    mergeStationSnapshot base request false
  let effectiveCallsign :=
    ((trimmedNonEmpty qso.stationCallsign).or
      ((qso.stationSnapshot.bind fun request => trimmedNonEmpty request.stationCallsign).or
        (trimmedNonEmpty snapshot.stationCallsign))).getD ""
  let snapshot :=
    if effectiveCallsign.isEmpty then snapshot
    else { snapshot with stationCallsign := effectiveCallsign }
  { qso with
    stationCallsign := effectiveCallsign
    stationSnapshot := snapshotWithValues (normalizeStationSnapshot snapshot) }

end QsoRipper
