/-
QsoRipper/DotNet/Storage.lean

The storage port of the managed engine, `ILogbookStore`, as commands, and its
in-memory adapter as a handler for them.  The rows are the map from `LocalId` to
record that the other engine's in-memory store is, too; what the operations do
to it differs: ids are trimmed when they are looked up but not when they are
stored, times are compared in ticks, and a compare-and-swap goes by the equality
of generated messages, which does not see whether a default was set.
-/
import QsoRipper.Lib.NetText
import QsoRipper.Storage.Memory

namespace QsoRipper.DotNet

/-! ### Equality of messages -/

/-- What a getter shows of an optional field. -/
def shown {α : Type} [DecidableEq α] (default : α) (value : Option α) : Option α :=
  value.filter fun v => decide (v ≠ default)

/-- The bits of `0.0`. -/
def zeroFloat : Float64 := ⟨0⟩

/-- A report as its getters show it. -/
def RstReport.shown (r : RstReport) : RstReport :=
  { r with
    readability := DotNet.shown 0 r.readability
    strength := DotNet.shown 0 r.strength
    tone := DotNet.shown 0 r.tone }

/-- A snapshot as its getters show it. -/
def StationSnapshot.shown (s : StationSnapshot) : StationSnapshot :=
  { s with
    profileName := DotNet.shown "" s.profileName
    operatorCallsign := DotNet.shown "" s.operatorCallsign
    operatorName := DotNet.shown "" s.operatorName
    grid := DotNet.shown "" s.grid
    county := DotNet.shown "" s.county
    state := DotNet.shown "" s.state
    country := DotNet.shown "" s.country
    dxcc := DotNet.shown 0 s.dxcc
    cqZone := DotNet.shown 0 s.cqZone
    ituZone := DotNet.shown 0 s.ituZone
    latitude := DotNet.shown zeroFloat s.latitude
    longitude := DotNet.shown zeroFloat s.longitude
    arrlSection := DotNet.shown "" s.arrlSection
    altitudeMeters := DotNet.shown zeroFloat s.altitudeMeters
    gridsquareExt := DotNet.shown "" s.gridsquareExt }

/-- A record as its getters show it: whether a default was set is not seen. -/
def QsoRecord.shown (r : QsoRecord) : QsoRecord :=
  { r with
    qrzLogid := DotNet.shown "" r.qrzLogid
    qrzBookid := DotNet.shown "" r.qrzBookid
    frequencyKhz := DotNet.shown 0 r.frequencyKhz
    frequencyHz := DotNet.shown 0 r.frequencyHz
    submode := DotNet.shown "" r.submode
    stationSnapshot := r.stationSnapshot.map StationSnapshot.shown
    rstSent := r.rstSent.map RstReport.shown
    rstReceived := r.rstReceived.map RstReport.shown
    txPower := DotNet.shown "" r.txPower
    lotwSent := DotNet.shown false r.lotwSent
    lotwReceived := DotNet.shown false r.lotwReceived
    eqslSent := DotNet.shown false r.eqslSent
    eqslReceived := DotNet.shown false r.eqslReceived
    workedOperatorCallsign := DotNet.shown "" r.workedOperatorCallsign
    workedOperatorName := DotNet.shown "" r.workedOperatorName
    workedGrid := DotNet.shown "" r.workedGrid
    workedCountry := DotNet.shown "" r.workedCountry
    workedDxcc := DotNet.shown 0 r.workedDxcc
    workedState := DotNet.shown "" r.workedState
    workedCqZone := DotNet.shown 0 r.workedCqZone
    workedItuZone := DotNet.shown 0 r.workedItuZone
    workedCounty := DotNet.shown "" r.workedCounty
    workedIota := DotNet.shown "" r.workedIota
    workedContinent := DotNet.shown "" r.workedContinent
    workedArrlSection := DotNet.shown "" r.workedArrlSection
    skcc := DotNet.shown "" r.skcc
    contestId := DotNet.shown "" r.contestId
    serialSent := DotNet.shown "" r.serialSent
    serialReceived := DotNet.shown "" r.serialReceived
    exchangeSent := DotNet.shown "" r.exchangeSent
    exchangeReceived := DotNet.shown "" r.exchangeReceived
    propMode := DotNet.shown "" r.propMode
    satName := DotNet.shown "" r.satName
    satMode := DotNet.shown "" r.satMode
    notes := DotNet.shown "" r.notes
    comment := DotNet.shown "" r.comment
    workedLatitude := DotNet.shown zeroFloat r.workedLatitude
    workedLongitude := DotNet.shown zeroFloat r.workedLongitude
    workedAltitudeMeters := DotNet.shown zeroFloat r.workedAltitudeMeters
    workedGridsquareExt := DotNet.shown "" r.workedGridsquareExt
    frequencyRxKhz := DotNet.shown 0 r.frequencyRxKhz
    frequencyRxHz := DotNet.shown 0 r.frequencyRxHz
    ownerCallsign := DotNet.shown "" r.ownerCallsign
    cwDecodeRxWpm := DotNet.shown 0 r.cwDecodeRxWpm
    cwDecodeTranscript := DotNet.shown "" r.cwDecodeTranscript }

/-- `QsoRecord.Equals`: field by field, doubles by their bits. -/
def recordEquals (a b : QsoRecord) : Bool := decide (QsoRecord.shown a = QsoRecord.shown b)

@[simp] theorem recordEquals_self (a : QsoRecord) : recordEquals a a = true := by
  simp [recordEquals]

/-- Equal records agree in every field that is not optional. -/
theorem congr_of_recordEquals {β : Type} {a b : QsoRecord} (h : recordEquals a b = true)
    (f : QsoRecord → β) (hf : ∀ r, f (QsoRecord.shown r) = f r) : f a = f b := by
  have heq : QsoRecord.shown a = QsoRecord.shown b := of_decide_eq_true h
  rw [← hf a, ← hf b, heq]

/-! ### Times -/

/-- A `DateTimeOffset`, in ticks of 100 ns since the Unix epoch. -/
abbrev Ticks := ℤ

/-- `TimeSpan.TicksPerSecond`. -/
def ticksPerSecond : ℤ := 10000000

/-- `DateTimeOffset.MinValue`. -/
def minTicks : Ticks := -62135596800 * ticksPerSecond

/-- `Timestamp.ToDateTimeOffset`, which refuses a timestamp that is out of range
or not normalised. -/
def toDateTimeOffset (ts : Timestamp) : Option Ticks :=
  if -62135596800 ≤ ts.seconds ∧ ts.seconds ≤ 253402300799 ∧ 0 ≤ ts.nanos ∧ ts.nanos ≤ 999999999
  then some (ts.seconds * ticksPerSecond + ts.nanos.ediv 100)
  else none

/-- `Timestamp.FromDateTimeOffset`. -/
def fromDateTimeOffset (ticks : Ticks) : Timestamp :=
  ⟨ticks.ediv ticksPerSecond, ticks.emod ticksPerSecond * 100⟩

/-- `ToOffset`. -/
def toOffset (ts : Option Timestamp) : Option Ticks :=
  match ts with
  | none => some minTicks
  | some ts => toDateTimeOffset ts

/-! ### Queries -/

/-- `QsoListQuery`; the bounds are `DateTimeOffset`s, paging is by `int`s. -/
structure QsoListQuery where
  after : Option Ticks := none
  before : Option Ticks := none
  callsignFilter : Option String := none
  bandFilter : Option ℤ := none
  modeFilter : Option ℤ := none
  contestId : Option String := none
  limit : Option ℤ := none
  offset : ℤ := 0
  sort : QsoSortOrder := .newestFirst
  deletedFilter : DeletedRecordsFilter := .activeOnly
  deriving DecidableEq

/-- `LogbookCounts`. -/
structure LogbookCounts where
  localQsoCount : ℕ
  pendingUploadCount : ℕ
  deriving DecidableEq

/-- `QsoHistoryPage`. -/
structure QsoHistoryPage where
  entries : List QsoRecord := []
  total : ℕ := 0
  deriving DecidableEq

/-! ### Operations -/

/-- What an operation throws. -/
inductive StorageException where
  | duplicate (entity key : String)
  | argument (message : String)
  | backend (message : String)
  deriving DecidableEq

/-- The message of an exception. -/
def StorageException.message : StorageException → String
  | duplicate entity key => "Duplicate " ++ entity ++ ": " ++ key
  | argument message => message
  | backend message => message

/-- The operations of `ILogbookStore`. -/
inductive LogbookCmd where
  | insertQso (qso : QsoRecord)
  | updateQso (qso : QsoRecord)
  | updateQsoIfUnchanged (expected replacement : QsoRecord)
  | updateQrzSyncMetadata (localId : String) (expectedUpdatedAt : Option Timestamp)
      (qrzLogid : String)
  | deleteQso (localId : String)
  | softDeleteQso (localId : String) (deletedAt : Ticks) (pendingRemoteDelete : Bool)
  | restoreQso (localId : String)
  | getQso (localId : String)
  | listQsos (query : QsoListQuery)
  | listQsoHistory (workedCallsign : String) (limit : ℤ)
  | getCounts
  | purgeDeletedQsos (localIds : Option (List String)) (olderThan : Option Ticks)
  | getSyncMetadata
  | upsertSyncMetadata (metadata : SyncMetadata)
  deriving DecidableEq

/-- What an operation returns when it does not throw. -/
abbrev LogbookCmd.Value : LogbookCmd → Type
  | insertQso _ => Unit
  | updateQso _ => Bool
  | updateQsoIfUnchanged _ _ => Bool
  | updateQrzSyncMetadata _ _ _ => Option QsoRecord
  | deleteQso _ => Bool
  | softDeleteQso _ _ _ => Bool
  | restoreQso _ => Bool
  | getQso _ => Option QsoRecord
  | listQsos _ => List QsoRecord
  | listQsoHistory _ _ => QsoHistoryPage
  | getCounts => LogbookCounts
  | purgeDeletedQsos _ _ => ℕ
  | getSyncMetadata => SyncMetadata
  | upsertSyncMetadata _ => Unit

/-- What an operation answers. -/
abbrev LogbookCmd.Answer (c : LogbookCmd) : Type := Except StorageException c.Value

/-- `ArgumentException.ThrowIfNullOrWhiteSpace`. -/
def whiteSpaceArgument : StorageException :=
  .argument "The value cannot be an empty string or composed entirely of whitespace."

/-- What `ToDateTimeOffset` throws. -/
def invalidTimestamp : StorageException := .backend "Timestamp contains invalid values"

namespace MemoryStorage

/-- `InsertQsoAsync`. -/
def insertQso (s : MemoryState) (qso : QsoRecord) : Except StorageException Unit × MemoryState :=
  if (s.get qso.localId).isSome then (.error (.duplicate "QsoRecord" qso.localId), s)
  else (.ok (), s.put qso)

/-- `UpdateQsoAsync`. -/
def updateQso (s : MemoryState) (qso : QsoRecord) : Except StorageException Bool × MemoryState :=
  if (s.get qso.localId).isSome then (.ok true, s.put qso) else (.ok false, s)

/-- `UpdateQsoIfUnchangedAsync`. -/
def updateQsoIfUnchanged (s : MemoryState) (expected replacement : QsoRecord) :
    Except StorageException Bool × MemoryState :=
  if expected.localId ≠ replacement.localId then
    (.error (.argument "Expected and replacement QSO IDs must match."), s)
  else
    match s.get expected.localId with
    | none => (.ok false, s)
    | some current =>
        if recordEquals current expected then (.ok true, s.put replacement) else (.ok false, s)

/-- The patch `UpdateQrzSyncMetadataAsync` makes to the row it finds. -/
def patchSyncMetadata (stored : QsoRecord) (expectedUpdatedAt : Option Timestamp)
    (qrzLogid : String) : QsoRecord :=
  let conflict := SyncStatus.conflict.toI32
  let modifiedUnlessConflict :=
    if stored.syncStatus ≠ conflict then SyncStatus.modified.toI32 else stored.syncStatus
  if stored.deletedAt.isSome then
    { stored with
      qrzLogid := some qrzLogid
      pendingRemoteDelete := true
      syncStatus := modifiedUnlessConflict }
  else
    { stored with
      qrzLogid := some qrzLogid
      syncStatus :=
        if stored.updatedAt = expectedUpdatedAt then SyncStatus.synced.toI32
        else modifiedUnlessConflict }

/-- `UpdateQrzSyncMetadataAsync`. -/
def updateQrzSyncMetadata (s : MemoryState) (localId : String)
    (expectedUpdatedAt : Option Timestamp) (qrzLogid : String) :
    Except StorageException (Option QsoRecord) × MemoryState :=
  if NetText.isWhiteSpace localId || NetText.isWhiteSpace qrzLogid then (.error whiteSpaceArgument, s)
  else
    match s.get (Text.trim localId) with
    | none => (.ok none, s)
    | some stored =>
        let stored := patchSyncMetadata stored expectedUpdatedAt qrzLogid
        (.ok (some stored), s.put stored)

/-- `DeleteQsoAsync`. -/
def deleteQso (s : MemoryState) (localId : String) : Except StorageException Bool × MemoryState :=
  if NetText.isWhiteSpace localId then (.error whiteSpaceArgument, s)
  else (.ok (s.get (Text.trim localId)).isSome, s.remove (Text.trim localId))

/-- Change the row under a trimmed id, if there is one. -/
def amend (s : MemoryState) (localId : String) (f : QsoRecord → QsoRecord) :
    Except StorageException Bool × MemoryState :=
  if NetText.isWhiteSpace localId then (.error whiteSpaceArgument, s)
  else
    match s.get (Text.trim localId) with
    | none => (.ok false, s)
    | some stored => (.ok true, s.put (f stored))

/-- `SoftDeleteQsoAsync`. -/
def softDeleteQso (s : MemoryState) (localId : String) (deletedAt : Ticks)
    (pendingRemoteDelete : Bool) : Except StorageException Bool × MemoryState :=
  amend s localId fun stored =>
    { stored with deletedAt := some (fromDateTimeOffset deletedAt), pendingRemoteDelete }

/-- `RestoreQsoAsync`. -/
def restoreQso (s : MemoryState) (localId : String) : Except StorageException Bool × MemoryState :=
  amend s localId fun stored => { stored with deletedAt := none, pendingRemoteDelete := false }

/-- `GetQsoAsync`. -/
def getQso (s : MemoryState) (localId : String) : Except StorageException (Option QsoRecord) :=
  if NetText.isWhiteSpace localId then .error whiteSpaceArgument
  else .ok (s.get (Text.trim localId))

/-- The filter on soft-deleted rows. -/
def passesDeletedFilter (filter : DeletedRecordsFilter) (q : QsoRecord) : Bool :=
  match filter with
  | .activeOnly => q.deletedAt.isNone
  | .deletedOnly => q.deletedAt.isSome
  | .all => true

/-- The filters that compare times. -/
def passesTimeFilter (query : QsoListQuery) (q : QsoRecord) : Bool :=
  let offset := (toOffset q.utcTimestamp).getD 0
  query.after.all (fun after => decide (after ≤ offset))
    && query.before.all (fun before => decide (offset ≤ before))

/-- The filters on texts and enumerations. -/
def passesFieldFilters (query : QsoListQuery) (q : QsoRecord) : Bool :=
  query.callsignFilter.all (fun filter =>
      NetText.isWhiteSpace filter
        || NetText.containsIgnoreCase q.workedCallsign (Text.trim filter)
        || NetText.containsIgnoreCase q.stationCallsign (Text.trim filter))
    && query.bandFilter.all (fun band => q.band == band)
    && query.modeFilter.all (fun mode => q.mode == mode)
    && query.contestId.all (fun contestId =>
      NetText.isWhiteSpace contestId
        || NetText.equalsIgnoreCase (q.contestId.getD "") contestId)

/-- Oldest first: by time, then by id. -/
def oldestFirst (a b : QsoRecord) : Bool :=
  let x := (toOffset a.utcTimestamp).getD 0
  let y := (toOffset b.utcTimestamp).getD 0
  decide (x < y) || (decide (x = y) && NetText.ordinalLe a.localId b.localId)

/-- Newest first: by time, then by id. -/
def newestFirst (a b : QsoRecord) : Bool := oldestFirst b a

/-- `OrderBy … ThenBy …`. -/
def orderRecords : QsoSortOrder → List QsoRecord → List QsoRecord
  | .oldestFirst => List.insertionSort fun a b => oldestFirst a b = true
  | .newestFirst => List.insertionSort fun a b => newestFirst a b = true

/-- `Skip(offset)` if it is positive, then `Take(limit)` if there is one. -/
def page (offset : ℤ) (limit : Option ℤ) (items : List QsoRecord) : List QsoRecord :=
  let items := items.drop offset.toNat
  limit.elim items fun limit => items.take limit.toNat

/-- `ListQsosAsync`; the times of the rows it looks at have to be valid. -/
def listQsos (s : MemoryState) (query : QsoListQuery) : Except StorageException (List QsoRecord) :=
  let items := s.rows.filter (passesDeletedFilter query.deletedFilter)
  let valid (q : QsoRecord) : Bool := (toOffset q.utcTimestamp).isSome
  if (query.after.isSome || query.before.isSome) && !items.all valid then .error invalidTimestamp
  else
    let items := items.filter fun q => passesTimeFilter query q && passesFieldFilters query q
    if !items.all valid then .error invalidTimestamp
    else .ok (page query.offset query.limit (orderRecords query.sort items))

/-- `ListQsoHistoryAsync`. -/
def listQsoHistory (s : MemoryState) (workedCallsign : String) (limit : ℤ) :
    Except StorageException QsoHistoryPage :=
  let normalized := Text.trim workedCallsign
  if normalized.isEmpty then .ok {}
  else
    let matching := s.rows.filter fun q =>
      q.deletedAt.isNone && NetText.equalsIgnoreCase q.workedCallsign normalized
    let total := matching.length
    if limit ≤ 0 ∨ total = 0 then .ok { entries := [], total }
    else if !matching.all fun q => (toOffset q.utcTimestamp).isSome then .error invalidTimestamp
    else .ok { entries := (orderRecords .newestFirst matching).take limit.toNat, total }

/-- `GetCountsAsync`. -/
def getCounts (s : MemoryState) : LogbookCounts :=
  let active := s.rows.filter fun q => q.deletedAt.isNone
  { localQsoCount := active.length
    pendingUploadCount :=
      (active.filter fun q => q.syncStatus != SyncStatus.synced.toI32).length }

/-- Does `PurgeDeletedQsosAsync` select the row, whose id is its key? -/
def purges (localIds : Option (List String)) (olderThan : Option Ticks) (q : QsoRecord) : Bool :=
  q.deletedAt.isSome
    && localIds.all (fun ids => ids.contains q.localId)
    && olderThan.all fun cutoff => decide ((toOffset q.deletedAt).getD 0 ≤ cutoff)

/-- `PurgeDeletedQsosAsync`. -/
def purgeDeletedQsos (s : MemoryState) (localIds : Option (List String))
    (olderThan : Option Ticks) : Except StorageException ℕ × MemoryState :=
  let looksAt (q : QsoRecord) : Bool :=
    q.deletedAt.isSome && localIds.all (fun ids => ids.contains q.localId) && olderThan.isSome
  if (s.rows.filter looksAt).any fun q => (toOffset q.deletedAt).isNone then
    (.error invalidTimestamp, s)
  else
    let toRemove := (s.rows.filter (purges localIds olderThan)).map (·.localId)
    (.ok toRemove.length, s.removeAll toRemove)

/-- The adapter: a handler for the store operations. -/
def exec : (c : LogbookCmd) → MemoryState → c.Answer × MemoryState
  | .insertQso qso, s => insertQso s qso
  | .updateQso qso, s => updateQso s qso
  | .updateQsoIfUnchanged expected replacement, s => updateQsoIfUnchanged s expected replacement
  | .updateQrzSyncMetadata localId expectedUpdatedAt qrzLogid, s =>
      updateQrzSyncMetadata s localId expectedUpdatedAt qrzLogid
  | .deleteQso localId, s => deleteQso s localId
  | .softDeleteQso localId deletedAt pending, s => softDeleteQso s localId deletedAt pending
  | .restoreQso localId, s => restoreQso s localId
  | .getQso localId, s => (getQso s localId, s)
  | .listQsos query, s => (listQsos s query, s)
  | .listQsoHistory workedCallsign limit, s => (listQsoHistory s workedCallsign limit, s)
  | .getCounts, s => (.ok (getCounts s), s)
  | .purgeDeletedQsos localIds olderThan, s => purgeDeletedQsos s localIds olderThan
  | .getSyncMetadata, s => (.ok s.syncMetadata, s)
  | .upsertSyncMetadata metadata, s => (.ok (), { s with syncMetadata := metadata })

/-! ### What a listing shows -/

@[simp] theorem mem_orderRecords {sort : QsoSortOrder} {items : List QsoRecord} {r : QsoRecord} :
    r ∈ orderRecords sort items ↔ r ∈ items := by
  cases sort with
  | newestFirst => exact List.mem_insertionSort _
  | oldestFirst => exact List.mem_insertionSort _

theorem orderRecords_perm (sort : QsoSortOrder) (items : List QsoRecord) :
    (orderRecords sort items).Perm items := by
  cases sort with
  | newestFirst => exact List.perm_insertionSort _ _
  | oldestFirst => exact List.perm_insertionSort _ _

/-- A listing without bounds, filters and paging shows every row that passes the
filter on soft-deleted rows. -/
theorem listQsos_plain {s : MemoryState} {sort : QsoSortOrder} {filter : DeletedRecordsFilter}
    {items : List QsoRecord}
    (h : listQsos s { sort, deletedFilter := filter } = .ok items) :
    items.Perm (s.rows.filter (passesDeletedFilter filter)) := by
  rw [listQsos] at h
  split at h
  · cases h
  dsimp only at h
  split at h
  · cases h
  · cases h
    refine (orderRecords_perm _ _).trans (List.Perm.of_eq ?_)
    simp [passesTimeFilter, passesFieldFilters]

end MemoryStorage

end QsoRipper.DotNet
