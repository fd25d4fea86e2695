/-
QsoRipper/Storage/Memory.lean

`MemoryStorage`: the logbook as a map from local id to record.  The map is
private to the adapter and every write goes in under the record's own id, so
the state carries the fact that a row's key is its `local_id`; `put` and
`remove` are the only ways to change the rows.

Each operation comes with what it does to a single row (`get_…`), which is
how the developments above read the store.
-/
import QsoRipper.Storage.Store

namespace QsoRipper

/-- `MemoryState`; every row sits under its own `local_id`. -/
structure MemoryState where
  qsos : Std.ExtTreeMap String QsoRecord
  syncMetadata : SyncMetadata
  keyed : ∀ id (r : QsoRecord), qsos[id]? = some r → r.localId = id

namespace MemoryState

/-! ### Rows -/

/-- The empty store. -/
def empty : MemoryState where
  qsos := ∅
  syncMetadata := {}
  keyed := by simp

/-- The row stored under a local id. -/
def get (s : MemoryState) (id : String) : Option QsoRecord := s.qsos[id]?

/-- Store a record under its own id. -/
def put (s : MemoryState) (qso : QsoRecord) : MemoryState where
  qsos := s.qsos.insert qso.localId qso
  syncMetadata := s.syncMetadata
  keyed id r h := by
    rw [Std.ExtTreeMap.getElem?_insert] at h
    split at h
    · rename_i hid
      cases h
      exact compare_eq_iff_eq.mp hid
    · exact s.keyed id r h

/-- Drop the row under a local id. -/
def remove (s : MemoryState) (id : String) : MemoryState where
  qsos := s.qsos.erase id
  syncMetadata := s.syncMetadata
  keyed id' r h := by
    rw [Std.ExtTreeMap.getElem?_erase] at h
    split at h
    · cases h
    · exact s.keyed id' r h

/-- Drop several rows. -/
def removeAll (s : MemoryState) (ids : List String) : MemoryState := ids.foldl remove s

/-- `qsos.values()`, in key order. -/
def rows (s : MemoryState) : List QsoRecord := s.qsos.toList.map Prod.snd

/-- The local ids in use. -/
def ids (s : MemoryState) : Set String := { id | (s.get id).isSome }

theorem localId_of_get {s : MemoryState} {id : String} {r : QsoRecord} (h : s.get id = some r) :
    r.localId = id :=
  s.keyed id r h

@[simp] theorem get_empty (id : String) : empty.get id = none := by
  simp [get, empty]

@[simp] theorem get_put (s : MemoryState) (r : QsoRecord) (id : String) :
    (s.put r).get id = if r.localId = id then some r else s.get id := by
  simp [get, put, Std.ExtTreeMap.getElem?_insert]

@[simp] theorem get_remove (s : MemoryState) (id id' : String) :
    (s.remove id).get id' = if id = id' then none else s.get id' := by
  simp [get, remove, Std.ExtTreeMap.getElem?_erase]

@[simp] theorem get_removeAll (s : MemoryState) (ids : List String) (id : String) :
    (s.removeAll ids).get id = if id ∈ ids then none else s.get id := by
  induction ids generalizing s with
  | nil => simp [removeAll]
  | cons a ids ih =>
      rw [removeAll, List.foldl_cons, ← removeAll, ih, get_remove]
      by_cases h : a = id
      · simp [h]
      · simp [h, Ne.symm h]

@[simp] theorem syncMetadata_put (s : MemoryState) (r : QsoRecord) :
    (s.put r).syncMetadata = s.syncMetadata := rfl

theorem mem_rows {s : MemoryState} {r : QsoRecord} : r ∈ s.rows ↔ s.get r.localId = some r := by
  rw [rows, List.mem_map]
  constructor
  · rintro ⟨⟨id, r'⟩, h, rfl⟩
    rw [Std.ExtTreeMap.mem_toList_iff_getElem?_eq_some] at h
    rw [get, s.keyed id r' h, h]
  · intro h
    exact ⟨(r.localId, r), Std.ExtTreeMap.mem_toList_iff_getElem?_eq_some.mpr h, rfl⟩

theorem ext_get {s t : MemoryState} (h : ∀ id, s.get id = t.get id)
    (hm : s.syncMetadata = t.syncMetadata) : s = t := by
  obtain ⟨q, m, k⟩ := s
  obtain ⟨q', m', k'⟩ := t
  obtain rfl : q = q' := Std.ExtTreeMap.ext_getElem? h
  obtain rfl : m = m' := hm
  rfl

/-! ### Selecting and ordering rows -/

/-- `timestamp_to_millis`: a missing timestamp counts as the epoch. -/
def timestampToMillis (timestamp : Option Timestamp) : ℤ := timestamp.elim 0 Timestamp.toMillis

/-- `matches_query`. -/
def matchesQuery (record : QsoRecord) (query : QsoListQuery) : Bool :=
  (match query.deletedFilter with
    | .activeOnly => record.deletedAt.isNone
    | .deletedOnly => record.deletedAt.isSome
    | .all => true)
  && query.after.all (fun after =>
      decide (timestampToMillis (some after) ≤ timestampToMillis record.utcTimestamp))
  && query.before.all (fun before =>
      decide (timestampToMillis record.utcTimestamp ≤ timestampToMillis (some before)))
  && query.callsignFilter.all (fun filter =>
      let normalized := Text.toAsciiUppercase (Text.trim filter)
      normalized.isEmpty
        || Text.contains (Text.toAsciiUppercase record.stationCallsign) normalized
        || Text.contains (Text.toAsciiUppercase record.workedCallsign) normalized)
  && query.bandFilter.all (fun band => record.band == band.toI32)
  && query.modeFilter.all (fun mode => record.mode == mode.toI32)
  && query.contestId.all (fun contestId => record.contestId == some contestId)

/-- The `NewestFirst` sort key, compared. -/
def newestFirst (a b : QsoRecord) : Prop :=
  timestampToMillis b.utcTimestamp < timestampToMillis a.utcTimestamp
    ∨ timestampToMillis a.utcTimestamp = timestampToMillis b.utcTimestamp ∧ b.localId ≤ a.localId

/-- The `OldestFirst` sort key, compared. -/
def oldestFirst (a b : QsoRecord) : Prop :=
  timestampToMillis a.utcTimestamp < timestampToMillis b.utcTimestamp
    ∨ timestampToMillis a.utcTimestamp = timestampToMillis b.utcTimestamp ∧ a.localId ≤ b.localId

instance : DecidableRel newestFirst := fun _ _ => inferInstanceAs (Decidable (_ ∨ _))

instance : DecidableRel oldestFirst := fun _ _ => inferInstanceAs (Decidable (_ ∨ _))

/-- The `sort_by_key` of `list_qsos`. -/
def sortRecords : QsoSortOrder → List QsoRecord → List QsoRecord
  | .newestFirst => List.insertionSort newestFirst
  | .oldestFirst => List.insertionSort oldestFirst

/-- `skip(offset)`, then `take(limit)` when there is a limit. -/
def slice (offset : ℕ) (limit : Option ℕ) (records : List QsoRecord) : List QsoRecord :=
  limit.elim (records.drop offset) fun n => (records.drop offset).take n

/-! ### Operations -/

/-- `insert_qso`. -/
def insertQso (s : MemoryState) (qso : QsoRecord) : Except StorageError Unit × MemoryState :=
  if (s.get qso.localId).isSome then (.error (.duplicate "qso" qso.localId), s)
  else (.ok (), s.put qso)

/-- `update_qso`. -/
def updateQso (s : MemoryState) (qso : QsoRecord) : Except StorageError Bool × MemoryState :=
  if (s.get qso.localId).isSome then (.ok true, s.put qso) else (.ok false, s)

/-- `update_qso_if_unchanged`. -/
def updateQsoIfUnchanged (s : MemoryState) (expected replacement : QsoRecord) :
    Except StorageError Bool × MemoryState :=
  if expected.localId ≠ replacement.localId then (.ok false, s)
  else
    match s.get expected.localId with
    | none => (.ok false, s)
    | some current => if current == expected then (.ok true, s.put replacement) else (.ok false, s)

/-- The patch `update_qrz_sync_metadata` makes to the row it finds. -/
def patchSyncMetadata (record : QsoRecord) (expectedUpdatedAt : Option Timestamp)
    (qrzLogid : String) : QsoRecord :=
  let conflict := SyncStatus.conflict.toI32
  if record.deletedAt.isSome then
    { record with
      qrzLogid := some qrzLogid
      pendingRemoteDelete := true
      syncStatus :=
        if record.syncStatus ≠ conflict then SyncStatus.modified.toI32 else record.syncStatus }
  else
    { record with
      qrzLogid := some qrzLogid
      syncStatus :=
        if record.updatedAt = expectedUpdatedAt then SyncStatus.synced.toI32
        else if record.syncStatus = conflict then record.syncStatus
        else SyncStatus.modified.toI32 }

/-- `update_qrz_sync_metadata`. -/
def updateQrzSyncMetadata (s : MemoryState) (localId : String)
    (expectedUpdatedAt : Option Timestamp) (qrzLogid : String) :
    Except StorageError (Option QsoRecord) × MemoryState :=
  match s.get localId with
  | none => (.ok none, s)
  | some record =>
      let record := patchSyncMetadata record expectedUpdatedAt qrzLogid
      (.ok (some record), s.put record)

/-- `delete_qso`. -/
def deleteQso (s : MemoryState) (localId : String) : Except StorageError Bool × MemoryState :=
  (.ok (s.get localId).isSome, s.remove localId)

/-- `soft_delete_qso`. -/
def softDeleteQso (s : MemoryState) (localId : String) (deletedAtMs : ℤ)
    (pendingRemoteDelete : Bool) : Except StorageError Bool × MemoryState :=
  match s.get localId with
  | none => (.ok false, s)
  | some record =>
      (.ok true, s.put
        { record with
          deletedAt := some (millisToTimestamp deletedAtMs)
          pendingRemoteDelete := pendingRemoteDelete })

/-- `restore_qso`. -/
def restoreQso (s : MemoryState) (localId : String) : Except StorageError Bool × MemoryState :=
  match s.get localId with
  | none => (.ok false, s)
  | some record => (.ok true, s.put { record with deletedAt := none, pendingRemoteDelete := false })

/-- `list_qsos`; `usize` holds every `u32`, so the conversions cannot fail. -/
def listQsos (s : MemoryState) (query : QsoListQuery) : List QsoRecord :=
  slice query.offset query.limit
    (sortRecords query.sort (s.rows.filter fun record => matchesQuery record query))

/-- `list_qso_history`. -/
def listQsoHistory (s : MemoryState) (workedCallsign : String) (limit : ℕ) :
    Except StorageError QsoHistoryPage :=
  let normalized := normalizeCallsign workedCallsign
  if normalized.isEmpty then .ok {}
  else
    let matching := s.rows.filter fun record =>
      record.deletedAt.isNone && Text.eqIgnoreAsciiCase record.workedCallsign normalized
    let total := matching.length
    if u32Max < total then .error (.backend "history total exceeds u32")
    else if limit = 0 then .ok { entries := [], total }
    else .ok { entries := (sortRecords .newestFirst matching).take limit, total }

/-- `qso_counts`. -/
def qsoCounts (s : MemoryState) : Except StorageError LogbookCounts :=
  let active := s.rows.filter fun record => record.deletedAt.isNone
  let localQsoCount := active.length
  let pendingUploadCount := (active.filter fun record =>
    isPendingSyncStatus record.syncStatus).length
  if u32Max < localQsoCount then .error (.backend "local_qso_count exceeds u32")
  else if u32Max < pendingUploadCount then .error (.backend "pending_upload_count exceeds u32")
  else .ok { localQsoCount, pendingUploadCount }

/-- Does `purge_deleted_qsos` select the row? -/
def purges (localIds : List String) (olderThanMs : Option ℤ) (record : QsoRecord) : Bool :=
  record.deletedAt.isSome
    && (localIds.isEmpty || localIds.contains record.localId)
    && olderThanMs.all fun cutoff => decide (timestampToMillis record.deletedAt ≤ cutoff)

/-- `purge_deleted_qsos`. -/
def purgeDeletedQsos (s : MemoryState) (localIds : List String) (olderThanMs : Option ℤ) :
    Except StorageError ℕ × MemoryState :=
  let idsToPurge := (s.rows.filter (purges localIds olderThanMs)).map (·.localId)
  (.ok (min idsToPurge.length u32Max), s.removeAll idsToPurge)

/-- The adapter: a handler for the store operations. -/
def exec : (c : StoreCmd) → MemoryState → c.Answer × MemoryState
  | .insertQso qso, s => s.insertQso qso
  | .updateQso qso, s => s.updateQso qso
  | .updateQsoIfUnchanged expected replacement, s => s.updateQsoIfUnchanged expected replacement
  | .updateQrzSyncMetadata localId expectedUpdatedAt qrzLogid, s =>
      s.updateQrzSyncMetadata localId expectedUpdatedAt qrzLogid
  | .deleteQso localId, s => s.deleteQso localId
  | .softDeleteQso localId deletedAtMs pending, s => s.softDeleteQso localId deletedAtMs pending
  | .restoreQso localId, s => s.restoreQso localId
  | .getQso localId, s => (.ok (s.get localId), s)
  | .listQsos query, s => (.ok (s.listQsos query), s)
  | .listQsoHistory workedCallsign limit, s => (s.listQsoHistory workedCallsign limit, s)
  | .qsoCounts, s => (s.qsoCounts, s)
  | .getSyncMetadata, s => (.ok s.syncMetadata, s)
  | .upsertSyncMetadata metadata, s => (.ok (), { s with syncMetadata := metadata })
  | .purgeDeletedQsos localIds olderThanMs, s => s.purgeDeletedQsos localIds olderThanMs

/-! ### What a listing shows -/

@[simp] theorem mem_sortRecords {sort : QsoSortOrder} {records : List QsoRecord} {r : QsoRecord} :
    r ∈ sortRecords sort records ↔ r ∈ records := by
  cases sort with
  | newestFirst => exact List.mem_insertionSort newestFirst
  | oldestFirst => exact List.mem_insertionSort oldestFirst

/-- Without offset and limit, every row that matches is listed. -/
theorem mem_listQsos {s : MemoryState} {query : QsoListQuery} {r : QsoRecord}
    (hoffset : query.offset = 0) (hlimit : query.limit = none) :
    r ∈ s.listQsos query ↔ s.get r.localId = some r ∧ matchesQuery r query = true := by
  rw [listQsos, slice, hoffset, hlimit]
  simp [mem_rows]

/-- Whatever the query, what is listed is stored. -/
theorem get_of_mem_listQsos {s : MemoryState} {query : QsoListQuery} {r : QsoRecord}
    (h : r ∈ s.listQsos query) : s.get r.localId = some r := by
  have hslice : ∀ {records : List QsoRecord}, r ∈ slice query.offset query.limit records →
      r ∈ records := by
    intro records hr
    rw [slice] at hr
    cases hl : query.limit with
    | none =>
        rw [hl] at hr
        exact List.mem_of_mem_drop hr
    | some n =>
        rw [hl] at hr
        exact List.mem_of_mem_drop (List.mem_of_mem_take hr)
  have hmem := hslice h
  rw [mem_sortRecords] at hmem
  exact mem_rows.mp (List.mem_of_mem_filter hmem)

theorem mem_listQsos_deletedOnly {s : MemoryState} {r : QsoRecord} :
    r ∈ s.listQsos { deletedFilter := .deletedOnly }
      ↔ s.get r.localId = some r ∧ r.deletedAt.isSome := by
  rw [mem_listQsos rfl rfl]
  simp [matchesQuery]

theorem mem_listQsos_all {s : MemoryState} {r : QsoRecord} :
    r ∈ s.listQsos { deletedFilter := .all } ↔ s.get r.localId = some r := by
  rw [mem_listQsos rfl rfl]
  simp [matchesQuery]

theorem nodup_localIds_rows (s : MemoryState) : (s.rows.map (·.localId)).Nodup := by
  have hkeys : s.rows.map (·.localId) = s.qsos.toList.map Prod.fst := by
    rw [rows, List.map_map]
    refine List.map_congr_left fun kv hkv => ?_
    exact s.keyed kv.1 kv.2 (Std.ExtTreeMap.mem_toList_iff_getElem?_eq_some.mp hkv)
  rw [hkeys, List.Nodup, List.pairwise_map]
  exact Std.ExtTreeMap.distinct_keys_toList.imp fun h heq => h (compare_eq_iff_eq.mpr heq)

theorem sortRecords_perm (sort : QsoSortOrder) (records : List QsoRecord) :
    (sortRecords sort records).Perm records := by
  cases sort <;> exact List.perm_insertionSort _ _

/-- No query lists a row twice. -/
theorem nodup_localIds_listQsos (s : MemoryState) (query : QsoListQuery) :
    ((s.listQsos query).map (·.localId)).Nodup := by
  have hsorted : ((sortRecords query.sort
      (s.rows.filter fun record => matchesQuery record query)).map (·.localId)).Nodup :=
    ((sortRecords_perm _ _).map _).nodup_iff.mpr
      (s.nodup_localIds_rows.sublist (List.filter_sublist.map _))
  refine hsorted.sublist (List.Sublist.map _ ?_)
  rw [listQsos, slice]
  cases query.limit with
  | none => exact List.drop_sublist _ _
  | some n => exact (List.take_sublist _ _).trans (List.drop_sublist _ _)
/-! ### What a purge drops -/

/-- A row that survives a purge was there before. -/
theorem get_of_purgeDeletedQsos {s : MemoryState} {localIds : List String} {olderThanMs : Option ℤ}
    {id : String} {r : QsoRecord}
    (h : (s.purgeDeletedQsos localIds olderThanMs).2.get id = some r) : s.get id = some r := by
  rw [purgeDeletedQsos, get_removeAll] at h
  split at h
  · cases h
  · exact h

/-- A row that a purge drops is one it selects. -/
theorem purges_of_get_eq_none {s : MemoryState} {localIds : List String} {olderThanMs : Option ℤ}
    {id : String} {r : QsoRecord} (h : s.get id = some r)
    (hnone : (s.purgeDeletedQsos localIds olderThanMs).2.get id = none) :
    purges localIds olderThanMs r = true := by
  rw [purgeDeletedQsos, get_removeAll] at hnone
  split at hnone
  · rename_i hmem
    obtain ⟨r', hr', hid⟩ := List.mem_map.mp hmem
    obtain ⟨hr', hpurges⟩ := List.mem_filter.mp hr'
    rw [mem_rows, hid, h] at hr'
    cases hr'
    exact hpurges
  · rw [h] at hnone
    cases hnone

/-! ### What the writes of a sync do -/

/-- `insert_qso` adds a row under a free id, or changes nothing. -/
theorem insertQso_cases (s : MemoryState) (qso : QsoRecord) :
    (s.get qso.localId = none ∧ s.insertQso qso = (.ok (), s.put qso))
      ∨ s.insertQso qso = (.error (.duplicate "qso" qso.localId), s) := by
  rw [insertQso]
  cases h : s.get qso.localId with
  | none => exact .inl ⟨rfl, rfl⟩
  | some r => exact .inr rfl

/-- `update_qso_if_unchanged` swaps when the stored row equals the snapshot,
or changes nothing. -/
theorem updateQsoIfUnchanged_cases (s : MemoryState) (expected replacement : QsoRecord) :
    (∃ current, s.get expected.localId = some current ∧ (current == expected) = true
        ∧ expected.localId = replacement.localId
        ∧ s.updateQsoIfUnchanged expected replacement = (.ok true, s.put replacement))
      ∨ s.updateQsoIfUnchanged expected replacement = (.ok false, s) := by
  rw [updateQsoIfUnchanged]
  split
  · exact .inr rfl
  rename_i hid
  rw [ne_eq, not_not] at hid
  cases h : s.get expected.localId with
  | none => exact .inr rfl
  | some current =>
      cases heq : current == expected with
      | true => exact .inl ⟨current, rfl, heq, hid, by simp [heq]⟩
      | false => exact .inr (by simp [heq])

/-- A compare-and-swap against the stored row goes in. -/
theorem updateQsoIfUnchanged_of_beq {s : MemoryState} {expected replacement current : QsoRecord}
    (hid : expected.localId = replacement.localId) (h : s.get expected.localId = some current)
    (heq : (current == expected) = true) :
    s.updateQsoIfUnchanged expected replacement = (.ok true, s.put replacement) := by
  rw [updateQsoIfUnchanged, if_neg (not_not.mpr hid), h]
  exact if_pos heq

/-- Any other one changes nothing. -/
theorem updateQsoIfUnchanged_of_ne {s : MemoryState} {expected replacement : QsoRecord}
    (h : ∀ current, s.get expected.localId = some current → (current == expected) = false) :
    s.updateQsoIfUnchanged expected replacement = (.ok false, s) := by
  rcases s.updateQsoIfUnchanged_cases expected replacement with ⟨current, hg, heq, -, -⟩ | hsame
  · rw [h current hg] at heq
    cases heq
  · exact hsame

/-- `update_qrz_sync_metadata` patches the row it finds, or changes nothing. -/
theorem updateQrzSyncMetadata_cases (s : MemoryState) (localId : String)
    (expectedUpdatedAt : Option Timestamp) (qrzLogid : String) :
    (∃ record, s.get localId = some record
        ∧ s.updateQrzSyncMetadata localId expectedUpdatedAt qrzLogid
          = (.ok (some (patchSyncMetadata record expectedUpdatedAt qrzLogid)),
              s.put (patchSyncMetadata record expectedUpdatedAt qrzLogid)))
      ∨ (s.get localId = none
        ∧ s.updateQrzSyncMetadata localId expectedUpdatedAt qrzLogid = (.ok none, s)) := by
  rw [updateQrzSyncMetadata]
  cases h : s.get localId with
  | none => exact .inr ⟨rfl, rfl⟩
  | some record => exact .inl ⟨record, rfl, rfl⟩

theorem get_updateQso {s : MemoryState} {qso r : QsoRecord} (h : s.get qso.localId = some r)
    (id : String) :
    (s.updateQso qso).2.get id = if qso.localId = id then some qso else s.get id := by
  rw [updateQso, h]
  exact get_put s qso id

theorem get_updateQso_of_ne {s : MemoryState} {qso : QsoRecord} {id : String}
    (h : qso.localId ≠ id) : (s.updateQso qso).2.get id = s.get id := by
  rw [updateQso]
  split
  · rw [get_put, if_neg h]
  · rfl

/-- After `update_qso` a row is the record written to it, or what it was. -/
theorem get_of_updateQso {s : MemoryState} {qso r : QsoRecord} {id : String}
    (h : (s.updateQso qso).2.get id = some r) :
    (qso.localId = id ∧ r = qso) ∨ (qso.localId ≠ id ∧ s.get id = some r) := by
  rw [updateQso] at h
  split at h
  · rw [get_put] at h
    split at h
    · rename_i hid
      exact .inl ⟨hid, (Option.some.inj h).symm⟩
    · rename_i hid
      exact .inr ⟨hid, h⟩
  · rename_i hnone
    refine .inr ⟨fun hid => hnone ?_, h⟩
    rw [hid, h]
    rfl

@[simp] theorem localId_patchSyncMetadata (record : QsoRecord) (expectedUpdatedAt : Option Timestamp)
    (qrzLogid : String) :
    (patchSyncMetadata record expectedUpdatedAt qrzLogid).localId = record.localId := by
  rw [patchSyncMetadata]
  split <;> rfl

theorem get_updateQrzSyncMetadata {s : MemoryState} {id : String} {r : QsoRecord}
    (h : s.get id = some r) (expectedUpdatedAt : Option Timestamp) (qrzLogid : String) :
    (s.updateQrzSyncMetadata id expectedUpdatedAt qrzLogid).2.get id
      = some (patchSyncMetadata r expectedUpdatedAt qrzLogid) := by
  rw [updateQrzSyncMetadata, h]
  simp [localId_of_get h]

/-- After `insert_qso` a row is the new record, or what it was. -/
theorem get_of_insertQso {s : MemoryState} {qso r : QsoRecord} {id : String}
    (h : (s.insertQso qso).2.get id = some r) :
    (qso.localId = id ∧ r = qso) ∨ s.get id = some r := by
  rcases s.insertQso_cases qso with ⟨-, hq⟩ | hq
  · rw [hq, get_put] at h
    split at h
    · rename_i hid
      exact .inl ⟨hid, (Option.some.inj h).symm⟩
    · exact .inr h
  · rw [hq] at h
    exact .inr h

/-- After `update_qso_if_unchanged` a row is the replacement for an equal
record, or what it was. -/
theorem get_of_updateQsoIfUnchanged {s : MemoryState} {expected replacement r : QsoRecord}
    {id : String} (h : (s.updateQsoIfUnchanged expected replacement).2.get id = some r) :
    (expected.localId = id ∧ r = replacement) ∨ s.get id = some r := by
  rcases s.updateQsoIfUnchanged_cases expected replacement with ⟨current, -, -, hid, hq⟩ | hq
  · rw [hq, get_put] at h
    split at h
    · rename_i hid'
      exact .inl ⟨hid.trans hid', (Option.some.inj h).symm⟩
    · exact .inr h
  · rw [hq] at h
    exact .inr h

/-- After `update_qrz_sync_metadata` a row is patched, or what it was. -/
theorem get_of_updateQrzSyncMetadata {s : MemoryState} {localId id : String}
    {expectedUpdatedAt : Option Timestamp} {qrzLogid : String} {r : QsoRecord}
    (h : (s.updateQrzSyncMetadata localId expectedUpdatedAt qrzLogid).2.get id = some r) :
    (localId = id ∧ ∃ row, s.get id = some row
        ∧ r = patchSyncMetadata row expectedUpdatedAt qrzLogid) ∨ s.get id = some r := by
  rcases s.updateQrzSyncMetadata_cases localId expectedUpdatedAt qrzLogid with
    ⟨row, hrow, hq⟩ | ⟨-, hq⟩
  · rw [hq, get_put, localId_patchSyncMetadata, localId_of_get hrow] at h
    split at h
    · rename_i hid
      exact .inl ⟨hid, row, hid ▸ hrow, (Option.some.inj h).symm⟩
    · exact .inr h
  · rw [hq] at h
    exact .inr h

/-- The frame of the patch: three fields, and the delete flag only on a
tombstone. -/
theorem patchSyncMetadata_frame (record : QsoRecord) (expectedUpdatedAt : Option Timestamp)
    (qrzLogid : String) :
    ∃ status pending,
      patchSyncMetadata record expectedUpdatedAt qrzLogid
        = { record with
            qrzLogid := some qrzLogid
            syncStatus := status
            pendingRemoteDelete := pending }
      ∧ (record.deletedAt = none → pending = record.pendingRemoteDelete)
      ∧ (record.deletedAt.isSome → pending = true) := by
  rw [patchSyncMetadata]
  split
  · rename_i h
    exact ⟨_, true, rfl, fun hn => by simp [hn] at h, fun _ => rfl⟩
  · rename_i h
    exact ⟨_, record.pendingRemoteDelete, rfl, fun _ => rfl, fun hs => absurd hs h⟩

end MemoryState

end QsoRipper
