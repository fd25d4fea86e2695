/-
QsoRipper/Server/PurgeDuplicates.lean

The tool that purges duplicate contacts.  Rows with one station, worked
callsign, band and mode are joined into clusters wherever two of them match;
the best row of a cluster is kept, and a row that is clearly worse than it is a
loser.

To match is not transitive, and a loser is compared with the keeper for quality
alone.  So a row that the keeper reaches only through other rows can be purged
although the two do not match: outside the time window, in another submode or
on another frequency.
-/
import QsoRipper.Lib.DisjointSets
import QsoRipper.Lib.Grouping
import QsoRipper.Storage.Store

namespace QsoRipper.PurgeDuplicates

/-! ### Rows -/

/-- What `Options` has for the search. -/
structure Options where
  timeWindowMs : ℤ := 0
  createdAfterMs : Option ℤ := none
  createdBeforeMs : Option ℤ := none

/-- `CandidateGroup`. -/
structure CandidateGroup where
  keeper : QsoRecord
  losers : List QsoRecord
  ambiguous : List QsoRecord

/-- `normalize`. -/
def normalize (value : String) : String := Text.toAsciiUppercase (Text.trim value)

/-- `non_empty_trimmed`. -/
def nonEmptyTrimmed (value : Option String) : Option String :=
  (value.map Text.trim).filter fun value => !value.isEmpty

/-- `optional_strings_compatible`. -/
def optionalStringsCompatible (left right : Option String) : Bool :=
  match nonEmptyTrimmed left, nonEmptyTrimmed right with
  | some left, some right => Text.eqIgnoreAsciiCase left right
  | _, _ => true

/-- `optional_u64_compatible`. -/
def optionalU64Compatible : Option ℕ → Option ℕ → Bool
  | some left, some right => left == right
  | _, _ => true

/-- `frequencies_compatible`. -/
def frequenciesCompatible (left right : QsoRecord) : Bool :=
  match left.frequencyHz, right.frequencyHz with
  | some leftHz, some rightHz => leftHz == rightHz
  | _, _ => optionalU64Compatible left.frequencyKhz right.frequencyKhz

/-- `timestamp_to_ms`. -/
def timestampToMs (timestamp : Option Timestamp) : Option ℤ := timestamp.map Timestamp.toMillis

/-- `created_ms`. -/
def createdMs (qso : QsoRecord) : Option ℤ := timestampToMs qso.createdAt

/-- `has_logid`. -/
def hasLogid (qso : QsoRecord) : Bool := qso.qrzLogid.any fun value => !(Text.trim value).isEmpty

/-- `same_non_empty_logid`. -/
def sameNonEmptyLogid (left right : QsoRecord) : Bool :=
  match nonEmptyTrimmed left.qrzLogid, nonEmptyTrimmed right.qrzLogid with
  | some left, some right => left == right
  | _, _ => false

/-- `timestamp_delta_ms`. -/
def timestampDeltaMs (left right : QsoRecord) : Option ℤ := do
  let leftMs ← timestampToMs left.utcTimestamp
  let rightMs ← timestampToMs right.utcTimestamp
  return min |leftMs - rightMs| (2 ^ 63 - 1)

/-- `qsos_match`. -/
def qsosMatch (left right : QsoRecord) (timeWindowMs : ℤ) : Bool :=
  ((timestampDeltaMs left right).any fun delta => decide (delta ≤ timeWindowMs))
    && (sameNonEmptyLogid left right
      || optionalStringsCompatible left.submode right.submode && frequenciesCompatible left right)

/-! ### Scores -/

/-- The texts that enrich a row. -/
def enrichingTexts (qso : QsoRecord) : List (Option String) :=
  [qso.workedOperatorCallsign, qso.workedOperatorName, qso.workedGrid, qso.workedCountry,
    qso.workedState, qso.workedCounty, qso.workedIota, qso.workedContinent,
    qso.workedArrlSection, qso.skcc, qso.workedGridsquareExt]

/-- The numbers that enrich a row, if they are there. -/
def enrichingNumbers (qso : QsoRecord) : List Bool :=
  [qso.workedDxcc.any (0 < ·), qso.workedCqZone.any (0 < ·), qso.workedItuZone.any (0 < ·),
    qso.workedLatitude.any Float64.isFinite, qso.workedLongitude.any Float64.isFinite,
    qso.workedAltitudeMeters.any Float64.isFinite]

/-- `enrichment_count`. -/
def enrichmentCount (qso : QsoRecord) : ℕ :=
  (enrichingTexts qso).countP (fun value => value.any fun text => !(Text.trim text).isEmpty)
    + (enrichingNumbers qso).count true

/-- `record_quality`. -/
def recordQuality (qso : QsoRecord) : ℕ :=
  (if hasLogid qso then 100 else 0)
    + (if qso.syncStatus = SyncStatus.synced.toI32 then 50 else 0) + enrichmentCount qso

/-- `RowScore`. -/
structure RowScore where
  hasLogid : Bool
  isSynced : Bool
  enrichmentCount : ℕ
  recordQuality : ℕ
  olderCreatedRank : ℤ

/-- The derived order of `RowScore`: field by field. -/
def RowScore.cmp : RowScore → RowScore → Ordering :=
  compareLex (compareOn RowScore.hasLogid) <|
    compareLex (compareOn RowScore.isSynced) <|
      compareLex (compareOn RowScore.enrichmentCount) <|
        compareLex (compareOn RowScore.recordQuality) (compareOn RowScore.olderCreatedRank)

/-- `-ms` on an `i64`, which wraps around. -/
def negateI64 (ms : ℤ) : ℤ := if ms = -2 ^ 63 then ms else -ms

/-- `score`. -/
def score (qso : QsoRecord) : RowScore where
  hasLogid := hasLogid qso
  isSynced := qso.syncStatus = SyncStatus.synced.toI32
  enrichmentCount := enrichmentCount qso
  recordQuality := recordQuality qso
  olderCreatedRank := (createdMs qso).elim (-2 ^ 63) negateI64

/-- `created_in_range`; a row without an instant comes before every other. -/
def createdInRange (qso : QsoRecord) (options : Options) : Bool :=
  (options.createdAfterMs.all fun after => (createdMs qso).any fun created => decide (after ≤ created))
    && options.createdBeforeMs.all fun before =>
        (createdMs qso).all fun created => decide (created ≤ before)

/-- `is_safe_loser`. -/
def isSafeLoser (keeper : QsoRecord) (keeperScore : RowScore) (row : QsoRecord)
    (options : Options) : Bool :=
  if sameNonEmptyLogid keeper row then
    decide ((score row).recordQuality < keeperScore.recordQuality) && createdInRange row options
  else
    !hasLogid row && decide (row.syncStatus = SyncStatus.localOnly.toI32)
      && (keeperScore.cmp (score row)).isGT
      && (hasLogid keeper || decide (keeper.syncStatus = SyncStatus.synced.toI32)
        || decide ((score row).enrichmentCount < keeperScore.enrichmentCount))
      && createdInRange row options

/-- The comparison of the sort in `classify_cluster`. -/
def compareRows : QsoRecord → QsoRecord → Ordering :=
  compareLex (fun left right => (score right).cmp (score left)) <|
    compareLex (compareOn createdMs) (compareOn QsoRecord.localId)

/-! ### Clusters -/

/-- `qsos.get(*index)` for the entry of `indexes`. -/
def rowAt (qsos : List QsoRecord) (indexes : List ℕ) (localIndex : ℕ) : Option QsoRecord := do
  let index ← indexes[localIndex]?
  qsos[index]?

/-- The two entries of `indexes` match. -/
def matchesAt (qsos : List QsoRecord) (indexes : List ℕ) (timeWindowMs : ℤ) (left right : ℕ) :
    Bool :=
  match rowAt qsos indexes left, rowAt qsos indexes right with
  | some leftQso, some rightQso => qsosMatch leftQso rightQso timeWindowMs
  | _, _ => false

/-- The two loops over pairs in `clusters_for_key`. -/
def connect (qsos : List QsoRecord) (indexes : List ℕ) (timeWindowMs : ℤ) : List ℕ :=
  (List.range indexes.length).foldl
    (fun parent left =>
      (List.range' (left + 1) (indexes.length - (left + 1))).foldl
        (fun parent right =>
          if matchesAt qsos indexes timeWindowMs left right then
            DisjointSets.union parent left right
          else parent)
        parent)
    (List.range indexes.length)

/-- One turn of the last loop in `clusters_for_key`; the parents go on being
compressed. -/
def byRootTurn (indexes : List ℕ) (state : List ℕ × List (ℕ × List ℕ)) (localIndex : ℕ) :
    List ℕ × List (ℕ × List ℕ) :=
  let (root, parent) := DisjointSets.find state.1 localIndex
  match indexes[localIndex]? with
  | some qsoIndex => (parent, Grouping.pushEntry root qsoIndex state.2)
  | none => (parent, state.2)

/-- `by_root` in `clusters_for_key`. -/
def byRoot (indexes : List ℕ) (parent : List ℕ) : List (ℕ × List ℕ) :=
  ((List.range indexes.length).foldl (byRootTurn indexes) (parent, [])).2

/-- The order in which a hash map gives its values. -/
structure HashOrder where
  values : List (List ℕ) → List (List ℕ)
  perm : ∀ lists, (values lists).Perm lists

/-- `clusters_for_key`. -/
def clustersForKey (order : HashOrder) (qsos : List QsoRecord) (indexes : List ℕ)
    (timeWindowMs : ℤ) : List (List ℕ) :=
  order.values ((byRoot indexes (connect qsos indexes timeWindowMs)).map Prod.snd)

/-- `classify_cluster`. -/
def classifyCluster (qsos : List QsoRecord) (cluster : List ℕ) (options : Options) :
    Option CandidateGroup :=
  let rows := (cluster.filterMap fun index => qsos[index]?).insertionSort
    fun left right => (compareRows left right).isLE = true
  match rows with
  | [] => none
  | keeper :: rest =>
      let losers := rest.filter fun row => isSafeLoser keeper (score keeper) row options
      let ambiguous := rest.filter fun row => !isSafeLoser keeper (score keeper) row options
      if losers.isEmpty then none else some { keeper, losers, ambiguous }

/-- The key under which rows are compared. -/
def keyOf (qso : QsoRecord) : String × String × ℤ × ℤ :=
  (normalize qso.stationCallsign, normalize qso.workedCallsign, qso.band, qso.mode)

/-- The first loop of `find_duplicate_groups`: the positions of the active rows
with their keys. -/
def keyedIndexes (qsos : List QsoRecord) : List ((String × String × ℤ × ℤ) × ℕ) :=
  (qsos.zipIdx.filter fun row => row.1.deletedAt.isNone).map fun row => (keyOf row.1, row.2)

/-- `find_duplicate_groups`. -/
def findDuplicateGroups (order : HashOrder) (qsos : List QsoRecord) (options : Options) :
    List CandidateGroup :=
  (order.values ((Grouping.grouped (keyedIndexes qsos)).map Prod.snd)).flatMap fun indexes =>
    if indexes.length < 2 then []
    else
      (clustersForKey order qsos indexes options.timeWindowMs).filterMap fun cluster =>
        if cluster.length < 2 then none else classifyCluster qsos cluster options

end QsoRipper.PurgeDuplicates
