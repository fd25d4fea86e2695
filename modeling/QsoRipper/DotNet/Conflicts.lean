/-
QsoRipper/DotNet/Conflicts.lean

What a sync of the managed engine does to rows with local edits when conflicts
are to be flagged.  Rows in conflict should stay in conflict, an edited row that
a remote record matches should be flagged, both with the operator's data as it
was, and the counter of the result should be the number of rows newly flagged.

The download loop is followed with the list of the rows that records have been
merged into so far.  A row that is not on the list is as it was; one that is on
it is flagged if it was edited and synced otherwise.  So a row in conflict stays
in conflict when it is not on the list, and the counter is right when no edited
row is on it twice.
-/
import QsoRipper.DotNet.SyncRun

namespace QsoRipper.DotNet

open Interaction

variable {ε : Type} {env : NetEnvironment ε} {w : NetWorld ε}

/-! ### What is asked -/

/-- A record without what links it to QRZ. -/
def unlinked (r : QsoRecord) : QsoRecord := { r with qrzLogid := none, syncStatus := 0 }

/-- The two rows differ in nothing the operator owns. -/
def SameContact (r r' : QsoRecord) : Prop := unlinked r = unlinked r'

/-- Is the row in conflict? -/
def inConflict (r : QsoRecord) : Bool := r.syncStatus == SyncStatus.conflict.toI32

/-- Has the row edits that QRZ has not got? -/
def isEdited (r : QsoRecord) : Bool := r.syncStatus == SyncStatus.modified.toI32

/-- The row is in conflict afterwards, with its contact as it was. -/
def Flagged (r : QsoRecord) (s' : MemoryState) : Prop :=
  ∃ r', s'.get r.localId = some r' ∧ inConflict r' = true ∧ SameContact r r'

/-- The rows in conflict that were not in conflict before. -/
def newlyFlagged (s s' : MemoryState) : List QsoRecord :=
  s'.rows.filter fun r => inConflict r && !(s.get r.localId).any inConflict

/-- The row a downloaded record is merged into. -/
def target (ctx : DownloadContext) (indexes : LocalIndexes) (remote : QsoRecord) :
    Option QsoRecord :=
  if isPassedOver ctx remote || isDeletedLocally ctx remote then none else indexes.match remote

/-- The rows the records of a list are merged into, one after the other. -/
def targets (env : NetEnvironment ε) (ctx : DownloadContext) :
    List FetchedQso → DownloadState → NetWorld ε → List QsoRecord
  | [], _, _ => []
  | remote :: rest, st, w =>
      let o := (processRemote ctx remote st).run (netHandle env) w
      (target ctx st.indexes remote.val).toList ++ targets env ctx rest o.1 o.2

section Sync

variable (env) (formatDate : Timestamp → String) (fullSync : Bool) (policy : ConflictPolicy)

/-- The store when the download begins: what could be uploaded before is. -/
def storeAtDownload (w : NetWorld ε) : MemoryState :=
  ((startSync policy).run (netHandle env) w).2.1

/-- The rows that the downloaded records of a sync are merged into. -/
def syncTargets (w : NetWorld ε) : List QsoRecord :=
  let o := (startSync policy).run (netHandle env) w
  match MemoryStorage.listQsos o.2.1 { sort := .oldestFirst, deletedFilter := .all } with
  | .error _ => []
  | .ok localQsosAll =>
      let localQsos := activeRows localQsosAll
      match env.qrz (.fetchQsos (sinceDate formatDate fullSync localQsos o.1.metadata)) o.2.2 with
      | (.error _, _) => []
      | (.ok remoteQsos, e) =>
          targets env (downloadContext policy o.1 localQsosAll) remoteQsos
            { indexes := buildLocalIndexes localQsos, counters := o.1.counters } (o.2.1, e)

/-- No conflict discards a local edit. -/
structure KeepsEdits (w : NetWorld ε) (o : SyncResult × NetWorld ε) : Prop where
  conflicts : ∀ id r, w.1.get id = some r → r.deletedAt = none → inConflict r = true →
    Flagged r o.2.1
  edits : ∀ id r, w.1.get id = some r → r.deletedAt = none → isEdited r = true →
    (storeAtDownload env policy w).get id = some r →
    r ∈ syncTargets env formatDate fullSync policy w → Flagged r o.2.1
  counter : o.1.conflictCount = (newlyFlagged w.1 o.2.1).length

/-- No record is merged into a row in conflict, and no two are merged into one
edited row. -/
def MergesApart (matched : List QsoRecord) : Prop :=
  (∀ r ∈ matched, inConflict r = false) ∧ ((matched.filter isEdited).map (·.localId)).Nodup

end Sync

/-! ### Indexes -/

/-- The row is in one of the two indexes. -/
def LocalIndexes.Files (indexes : LocalIndexes) (q : QsoRecord) : Prop :=
  (∃ key, indexes.byLogid key = some q) ∨ ∃ key, q ∈ indexes.byKey key

namespace LocalIndexes

variable {indexes : LocalIndexes} {q row : QsoRecord} {logid : String}

theorem files_of_tryAdd (h : (indexes.tryAdd logid row).Files q) : indexes.Files q ∨ q = row := by
  rcases h with ⟨key, hkey⟩ | hkey
  · simp only [tryAdd, Function.update_apply] at hkey
    split at hkey
    · -- what is filed under the logid already stays
      rcases e : indexes.byLogid (NetText.toUpperInvariant logid) with - | old
      · rw [e] at hkey
        exact .inr (Option.some.inj hkey).symm
      · rw [e] at hkey
        exact .inl (.inl ⟨_, e.trans hkey⟩)
    · exact .inl (.inl ⟨key, hkey⟩)
  · exact .inl (.inr hkey)

theorem files_of_set (h : (indexes.set logid row).Files q) : indexes.Files q ∨ q = row := by
  rcases h with ⟨key, hkey⟩ | hkey
  · simp only [set, Function.update_apply] at hkey
    split at hkey
    · exact .inr (Option.some.inj hkey).symm
    · exact .inl (.inl ⟨key, hkey⟩)
  · exact .inl (.inr hkey)

theorem files_of_push (h : (indexes.push row).Files q) : indexes.Files q ∨ q = row := by
  rcases h with hkey | ⟨key, hkey⟩
  · exact .inl (.inl hkey)
  · simp only [push, Function.update_apply] at hkey
    split at hkey
    · rcases List.mem_append.mp hkey with h | h
      · exact .inl (.inr ⟨_, h⟩)
      · exact .inr (List.mem_singleton.mp h)
    · exact .inl (.inr ⟨key, hkey⟩)

/-- A match is a row of the indexes. -/
theorem files_of_match {remote : QsoRecord} (h : indexes.match remote = some q) :
    indexes.Files q := by
  rw [LocalIndexes.match, Option.or_eq_some_iff] at h
  rcases h with h | ⟨-, h⟩
  · obtain ⟨logid, -, h⟩ := Option.bind_eq_some_iff.mp h
    exact .inl ⟨_, h⟩
  · exact .inr ⟨_, List.mem_of_find?_eq_some h⟩

end LocalIndexes

/-- The indexes hold the rows they are built from. -/
theorem mem_of_files {localQsos : List QsoRecord} {q : QsoRecord}
    (h : (buildLocalIndexes localQsos).Files q) : q ∈ localQsos := by
  rw [buildLocalIndexes] at h
  induction localQsos using List.reverseRecOn with
  | nil =>
      rcases h with ⟨key, h⟩ | ⟨key, h⟩
      · cases h
      · cases h
  | append_singleton rest row ih =>
      rw [List.foldl_append, List.foldl_cons, List.foldl_nil] at h
      rw [List.mem_append, List.mem_singleton]
      rcases LocalIndexes.files_of_push h with h | rfl
      · split at h
        · exact .inl (ih h)
        · rcases LocalIndexes.files_of_tryAdd h with h | rfl
          · exact .inl (ih h)
          · exact .inr rfl
      · exact .inr rfl

/-! ### What a merge leaves -/

/-- The row a merge into `mine` leaves: flagged if it was edited, else synced. -/
structure MergedInto (mine row : QsoRecord) : Prop where
  localId : row.localId = mine.localId
  active : row.deletedAt = none
  flagged : isEdited mine = true → inConflict row = true ∧ SameContact mine row
  synced : isEdited mine = false → row.syncStatus = SyncStatus.synced.toI32

theorem mergedInto_mergeRemoteIntoLocal {mine : QsoRecord} (hactive : mine.deletedAt = none)
    {policy : ConflictPolicy} (hpolicy : policy ≠ .lastWriteWins) (remote : QsoRecord)
    (remoteLogid : Option String) :
    MergedInto mine (mergeRemoteIntoLocal mine remote remoteLogid policy).1
      ∧ (mergeRemoteIntoLocal mine remote remoteLogid policy).2 = isEdited mine := by
  unfold mergeRemoteIntoLocal
  by_cases hedited : mine.syncStatus = SyncStatus.modified.toI32
  · rw [if_neg (not_not.mpr hedited)]
    have hmine : isEdited mine = true := by simp [isEdited, hedited]
    cases policy with
    | lastWriteWins => exact absurd rfl hpolicy
    | flagForReview | unspecified =>
        exact ⟨⟨rfl, hactive, fun _ => ⟨rfl, rfl⟩, fun h => absurd hmine (by simp [h])⟩, hmine.symm⟩
  · rw [if_pos hedited]
    have hmine : isEdited mine = false := by simp [isEdited, hedited]
    refine ⟨⟨rfl, ?_, fun h => absurd hmine (by simp [h]), fun _ => rfl⟩, hmine.symm⟩
    dsimp only
    split
    · exact hactive
    · split <;> exact hactive

/-! ### One record -/

/-- A compare-and-swap that does not change the id. -/
theorem updateQsoIfUnchanged_cases {s : MemoryState} {expected replacement : QsoRecord}
    (hid : replacement.localId = expected.localId) :
    (MemoryStorage.updateQsoIfUnchanged s expected replacement = (.ok true, s.put replacement)
        ∧ ∃ current, s.get expected.localId = some current
          ∧ recordEquals current expected = true)
      ∨ MemoryStorage.updateQsoIfUnchanged s expected replacement = (.ok false, s)
        ∧ ∀ current, s.get expected.localId = some current →
          recordEquals current expected = false := by
  rw [MemoryStorage.updateQsoIfUnchanged, if_neg (not_not.mpr hid.symm)]
  rcases e : s.get expected.localId with - | current
  · exact .inr ⟨rfl, fun _ h => by cases h⟩
  · dsimp only
    by_cases heq : recordEquals current expected = true
    · rw [if_pos heq]
      exact .inl ⟨rfl, current, rfl, heq⟩
    · rw [if_neg heq]
      exact .inr ⟨rfl, fun _ h => by cases h; simpa using heq⟩

/-- What merging a record does to the store and to the counter. -/
theorem mergeRemote_run (env : NetEnvironment ε) (w : NetWorld ε) {policy : ConflictPolicy} (hpolicy : policy ≠ .lastWriteWins)
    {mine : QsoRecord} (hactive : mine.deletedAt = none) (remote : QsoRecord)
    (counters : SyncCounters) :
    ∃ merged, MergedInto mine merged
      ∧ ((mergeRemote policy mine remote counters).run (netHandle env) w).2
          = ((MemoryStorage.updateQsoIfUnchanged w.1 mine merged).2, w.2)
      ∧ ((mergeRemote policy mine remote counters).run (netHandle env) w).1.conflicts
          = counters.conflicts + if isEdited mine then 1 else 0 := by
  obtain ⟨hmerged, hflag⟩ :=
    mergedInto_mergeRemoteIntoLocal hactive hpolicy remote (extractQrzLogid remote)
  refine ⟨_, hmerged, ?_⟩
  rw [mergeRemote]
  dsimp only
  rw [hflag, Prog.run_bind, run_logbook]
  dsimp only [MemoryStorage.exec]
  split <;> exact ⟨rfl, rfl⟩

/-- What filing a record may do: nothing, or a new row under an id that was
free. -/
def Inserts (st st' : DownloadState) (s s' : MemoryState) : Prop :=
  st'.counters.conflicts = st.counters.conflicts
    ∧ (s' = s ∧ st'.indexes = st.indexes
      ∨ ∃ row, row.deletedAt = none ∧ row.syncStatus = SyncStatus.synced.toI32
        ∧ s.get row.localId = none ∧ s' = s.put row
        ∧ ∀ q, st'.indexes.Files q → st.indexes.Files q ∨ q = row)

theorem insertRow_run (remote : QsoRecord) {row : QsoRecord} (hactive : row.deletedAt = none)
    (hsynced : row.syncStatus = SyncStatus.synced.toI32) (st : DownloadState) :
    Inserts st ((insertRow remote row st).run (netHandle env) w).1 w.1
      ((insertRow remote row st).run (netHandle env) w).2.1 := by
  rw [insertRow, Prog.run_bind, run_logbook]
  dsimp only [MemoryStorage.exec]
  rw [MemoryStorage.insertQso]
  by_cases htaken : (w.1.get row.localId).isSome = true
  · rw [if_pos htaken]
    exact ⟨rfl, .inl ⟨rfl, rfl⟩⟩
  · rw [if_neg htaken]
    have hfree : w.1.get row.localId = none := by simpa using htaken
    refine ⟨rfl, .inr ⟨row, hactive, hsynced, hfree, rfl, fun q hq => ?_⟩⟩
    rcases LocalIndexes.files_of_push hq with hq | rfl
    · split at hq
      · exact .inl hq
      · exact LocalIndexes.files_of_set hq
    · exact .inr rfl

theorem insertRemote_run (env : NetEnvironment ε) (w : NetWorld ε) (remote : FetchedQso) (st : DownloadState) :
    Inserts st ((insertRemote remote st).run (netHandle env) w).1 w.1
      ((insertRemote remote st).run (netHandle env) w).2.1 := by
  have hactive (localId : String) :
      (newQso remote.val (extractQrzLogid remote.val) localId).deletedAt = none := remote.property
  rw [insertRemote]
  split
  · rw [Prog.run_bind, run_newGuid]
    exact insertRow_run _ (hactive _) rfl st
  · exact insertRow_run _ (hactive _) rfl st

/-! ### The download loop -/

/-- A row of the indexes: active, and either a row of the store the loop began
with or one that the loop inserted. -/
def Known (s₀ : MemoryState) (q : QsoRecord) : Prop :=
  q.deletedAt = none ∧ (s₀.get q.localId = some q
    ∨ s₀.get q.localId = none ∧ q.syncStatus = SyncStatus.synced.toI32)

/-- The store when records have been merged into the rows `matched`. -/
structure Downloaded (s₀ : MemoryState) (matched : List QsoRecord) (indexes : LocalIndexes)
    (s : MemoryState) : Prop where
  filed : ∀ q, indexes.Files q → Known s₀ q
  known : ∀ m ∈ matched, Known s₀ m
  untouched : ∀ id r, s₀.get id = some r → (∀ m ∈ matched, m.localId ≠ id) → s.get id = some r
  merged : ∀ m ∈ matched, s₀.get m.localId = some m →
    ∃ row, s.get m.localId = some row ∧ MergedInto m row
  new : ∀ id row, s₀.get id = none → s.get id = some row →
    row.deletedAt = none ∧ row.syncStatus = SyncStatus.synced.toI32

namespace Known

variable {s₀ : MemoryState} {m q : QsoRecord}

/-- The store the loop began with has one row under an id. -/
theorem eq_of_get (h : Known s₀ m) (hq : s₀.get m.localId = some q) : m = q := by
  rcases h.2 with hm | ⟨hm, -⟩
  · rw [hm] at hq
    exact Option.some.inj hq
  · rw [hm] at hq
    cases hq

/-- What the loop inserted is synced. -/
theorem get_of_not_synced (h : Known s₀ m) (hstatus : m.syncStatus ≠ SyncStatus.synced.toI32) :
    s₀.get m.localId = some m := by
  rcases h.2 with hm | ⟨-, hsynced⟩
  · exact hm
  · exact absurd hsynced hstatus

end Known

theorem isEdited_eq_false_of_synced {r : QsoRecord}
    (h : r.syncStatus = SyncStatus.synced.toI32) : isEdited r = false := by
  rw [isEdited, h]
  rfl

theorem inConflict_eq_false_of_synced {r : QsoRecord}
    (h : r.syncStatus = SyncStatus.synced.toI32) : inConflict r = false := by
  rw [inConflict, h]
  rfl

theorem ne_synced_of_isEdited {r : QsoRecord} (h : isEdited r = true) :
    r.syncStatus ≠ SyncStatus.synced.toI32 := fun hsynced => by
  rw [isEdited_eq_false_of_synced hsynced] at h
  cases h

theorem ne_synced_of_inConflict {r : QsoRecord} (h : inConflict r = true) :
    r.syncStatus ≠ SyncStatus.synced.toI32 := fun hsynced => by
  rw [inConflict_eq_false_of_synced hsynced] at h
  cases h

namespace Downloaded

variable {s₀ s s' : MemoryState} {matched : List QsoRecord} {indexes : LocalIndexes}
  {st st' : DownloadState}

/-- Nothing has been merged yet. -/
theorem refl {localQsos : List QsoRecord}
    (h : ∀ r ∈ localQsos, s₀.get r.localId = some r ∧ r.deletedAt = none) :
    Downloaded s₀ [] (buildLocalIndexes localQsos) s₀ where
  filed q hq := ⟨(h q (mem_of_files hq)).2, .inl (h q (mem_of_files hq)).1⟩
  known := by simp
  untouched id r hr _ := hr
  merged := by simp
  new id row hnone hsome := by
    rw [hnone] at hsome
    cases hsome

/-- A record is inserted. -/
theorem insert (h : Downloaded s₀ matched st.indexes s) (hins : Inserts st st' s s') :
    Downloaded s₀ matched st'.indexes s' := by
  rcases hins.2 with ⟨hstore, hindexes⟩ | ⟨row, hactive, hsynced, hfree, hstore, hfiles⟩
  · rw [hstore, hindexes]
    exact h
  subst hstore
  -- a row that the loop began with has not been removed, so the id was free then, too
  have hfree₀ : s₀.get row.localId = none := by
    rcases e : s₀.get row.localId with - | r
    · rfl
    exfalso
    by_cases hmem : ∃ m ∈ matched, m.localId = row.localId
    · obtain ⟨m, hm, hid⟩ := hmem
      have hget : s₀.get m.localId = some m := by
        rw [(h.known m hm).eq_of_get (hid ▸ e)]
        rw [(h.known m hm).eq_of_get (hid ▸ e)] at hid
        rw [hid, e]
      obtain ⟨q, hq, -⟩ := h.merged m hm hget
      rw [hid, hfree] at hq
      cases hq
    · have hq := h.untouched _ r e fun m hm hid => hmem ⟨m, hm, hid⟩
      rw [hfree] at hq
      cases hq
  have hother {id : String} {r : QsoRecord} (hr : s₀.get id = some r) :
      (s.put row).get id = s.get id := by
    rw [MemoryState.get_put, if_neg]
    rintro rfl
    rw [hfree₀] at hr
    cases hr
  constructor
  case filed =>
    intro q hq
    rcases hfiles q hq with hq | rfl
    · exact h.filed q hq
    · exact ⟨hactive, .inr ⟨hfree₀, hsynced⟩⟩
  case known => exact h.known
  case untouched =>
    intro id r hr hid
    rw [hother hr]
    exact h.untouched id r hr hid
  case merged =>
    intro m hm hget
    rw [hother hget]
    exact h.merged m hm hget
  case new =>
    intro id q hnone hq
    rw [MemoryState.get_put] at hq
    split at hq
    · cases hq
      exact ⟨hactive, hsynced⟩
    · exact h.new id q hnone hq

/-- A record is merged into a row. -/
theorem merge (h : Downloaded s₀ matched indexes s) {mine row : QsoRecord}
    (hmine : Known s₀ mine) (hrow : MergedInto mine row) :
    Downloaded s₀ (matched ++ [mine]) indexes
      (MemoryStorage.updateQsoIfUnchanged s mine row).2 := by
  have hknown : ∀ m ∈ matched ++ [mine], Known s₀ m := by
    simpa [or_imp, forall_and] using ⟨h.known, hmine⟩
  rcases updateQsoIfUnchanged_cases hrow.localId with ⟨hcas, -⟩ | ⟨hcas, hother⟩
  · rw [hcas]
    constructor
    case filed => exact h.filed
    case known => exact hknown
    case untouched =>
      intro id r hr hid
      rw [MemoryState.get_put, hrow.localId, if_neg (hid mine (by simp))]
      exact h.untouched id r hr fun m hm => hid m (by simp [hm])
    case merged =>
      intro m hm hget
      rw [MemoryState.get_put, hrow.localId]
      by_cases hid : mine.localId = m.localId
      · rw [if_pos hid]
        have heq : mine = m := hmine.eq_of_get (hid ▸ hget)
        exact ⟨row, rfl, heq ▸ hrow⟩
      · rw [if_neg hid]
        refine h.merged m ?_ hget
        rcases List.mem_append.mp hm with hm | hm
        · exact hm
        · rw [List.mem_singleton.mp hm] at hid
          exact absurd rfl hid
    case new =>
      intro id q hnone hq
      rw [MemoryState.get_put, hrow.localId] at hq
      split at hq
      · rename_i hid
        cases hq
        refine ⟨hrow.active, hrow.synced ?_⟩
        -- the row was inserted by the loop
        rcases hmine.2 with hget | ⟨-, hsynced⟩
        · rw [hid, hnone] at hget
          cases hget
        · exact isEdited_eq_false_of_synced hsynced
      · exact h.new id q hnone hq
  · rw [hcas]
    constructor
    case filed => exact h.filed
    case known => exact hknown
    case untouched =>
      intro id r hr hid
      exact h.untouched id r hr fun m hm => hid m (by simp [hm])
    case merged =>
      intro m hm hget
      by_cases hmem : m ∈ matched
      · exact h.merged m hmem hget
      have heq : m = mine := by simpa [hmem] using hm
      subst heq
      -- a swap fails only when an earlier record changed the row
      by_cases hid : ∃ m' ∈ matched, m'.localId = m.localId
      · obtain ⟨m', hm', hid⟩ := hid
        have heq : m' = m := (h.known m' hm').eq_of_get (hid ▸ hget)
        exact absurd (heq ▸ hm') hmem
      · have hcur := h.untouched _ m hget fun m' hm' hid' => hid ⟨m', hm', hid'⟩
        have := hother m hcur
        rw [recordEquals_self] at this
        cases this
    case new => exact h.new

end Downloaded

theorem known_of_target {ctx : DownloadContext} {s₀ s : MemoryState} {matched : List QsoRecord}
    {indexes : LocalIndexes} (h : Downloaded s₀ matched indexes s) {remote mine : QsoRecord}
    (ht : target ctx indexes remote = some mine) : Known s₀ mine := by
  rw [target] at ht
  split at ht
  · cases ht
  · exact h.filed mine (LocalIndexes.files_of_match ht)

/-- One record. -/
theorem processRemote_run {ctx : DownloadContext} (hpolicy : ctx.policy ≠ .lastWriteWins)
    {s₀ : MemoryState} {matched : List QsoRecord} {st : DownloadState}
    (h : Downloaded s₀ matched st.indexes w.1) (remote : FetchedQso) :
    let o := (processRemote ctx remote st).run (netHandle env) w
    let t := (target ctx st.indexes remote.val).toList
    Downloaded s₀ (matched ++ t) o.1.indexes o.2.1
      ∧ o.1.counters.conflicts = st.counters.conflicts + (t.filter isEdited).length := by
  rw [processRemote, target]
  by_cases hover : isPassedOver ctx remote.val = true
  · simpa [hover] using h
  by_cases hdel : isDeletedLocally ctx remote.val = true
  · simpa [hover, hdel] using h
  rw [if_neg hover, if_neg hdel, if_neg (by simp [hover, hdel])]
  rcases e : st.indexes.match remote.val with - | mine
  · have hins := insertRemote_run env w remote st
    simpa using ⟨h.insert hins, hins.1⟩
  · have hmine : Known s₀ mine := h.filed mine (LocalIndexes.files_of_match e)
    obtain ⟨row, hrow, hstore, hcount⟩ :=
      mergeRemote_run env w hpolicy hmine.1 remote.val st.counters
    dsimp only
    rw [Prog.run_bind]
    refine ⟨?_, hcount.trans ?_⟩
    · rw [hstore]
      exact h.merge hmine hrow
    · rw [Option.toList_some]
      cases hm : isEdited mine <;> simp [hm]

/-- **The loop** keeps its invariant and counts the edited rows it matched. -/
theorem processRemotes_run (env : NetEnvironment ε) (w : NetWorld ε) {ctx : DownloadContext}
    (hpolicy : ctx.policy ≠ .lastWriteWins) {s₀ : MemoryState} {matched : List QsoRecord}
    (st : DownloadState) (remotes : List FetchedQso) (h : Downloaded s₀ matched st.indexes w.1) :
    let o := (processRemotes ctx remotes st).run (netHandle env) w
    let t := targets env ctx remotes st w
    Downloaded s₀ (matched ++ t) o.1.indexes o.2.1
      ∧ o.1.counters.conflicts = st.counters.conflicts + (t.filter isEdited).length := by
  induction remotes generalizing matched st w with
  | nil => simpa [processRemotes, targets] using h
  | cons remote rest ih =>
      obtain ⟨hone, hcount⟩ := processRemote_run hpolicy h remote
      obtain ⟨hrest, hcounts⟩ := ih _ _ hone
      rw [processRemotes, targets, Prog.run_bind]
      refine ⟨?_, ?_⟩
      · rw [← List.append_assoc]
        exact hrest
      · rw [hcounts, hcount, List.filter_append, List.length_append, Nat.add_assoc]

/-! ### The phases around the loop -/

/-- What the phases behind the loop keep: settled rows stay, and rows in
conflict were in conflict already. -/
structure Settles (s s' : MemoryState) : Prop where
  kept : ∀ id r, s.get id = some r → r.deletedAt = none → isPendingUpload r = false →
    s'.get id = some r
  conflicts : ∀ id r', s'.get id = some r' → inConflict r' = true →
    ∃ r, s.get id = some r ∧ inConflict r = true

theorem Settles.refl (s : MemoryState) : Settles s s where
  kept _ _ hr _ _ := hr
  conflicts _ r' hr' h := ⟨r', hr', h⟩

theorem isPendingUpload_of_inConflict {r : QsoRecord} (h : inConflict r = true) :
    isPendingUpload r = false := by
  have hstatus : r.syncStatus = SyncStatus.conflict.toI32 := by simpa [inConflict] using h
  rw [isPendingUpload, hstatus]
  rfl

theorem isPendingUpload_of_synced {r : QsoRecord} (h : r.syncStatus = SyncStatus.synced.toI32) :
    isPendingUpload r = false := by
  rw [isPendingUpload, h]
  rfl

/-- Before the download, pending rows are uploaded and nothing else happens. -/
theorem startSync_run (env : NetEnvironment ε) (w : NetWorld ε) (policy : ConflictPolicy) :
    UploadFrame w.1 (storeAtDownload env policy w)
      ∧ ((startSync policy).run (netHandle env) w).1.counters.conflicts = 0 := by
  have hread : readMetadata.run (netHandle env) w = ((w.1.syncMetadata, {}), w) := rfl
  have hpush (bookOwner : Option String) (w : NetWorld ε) :
      UploadFrame w.1 ((pushCorrections policy bookOwner).run (netHandle env) w).2.1 := by
    rw [pushCorrections]
    split
    · exact .refl _
    · exact uploadPendingQsos_run fun q => isPendingUpload_of_linkedCorrection
  rw [storeAtDownload, startSync, Prog.run_bind, hread]
  dsimp only
  rw [Prog.run_bind, run_qrzApi, Prog.run_bind]
  exact ⟨hpush _ _, rfl⟩

theorem pushRemoteDeletes_conflicts (env : NetEnvironment ε) (w : NetWorld ε)
    (qsos : List QsoRecord) (counters : SyncCounters) :
    ((pushRemoteDeletes qsos counters).run (netHandle env) w).1.conflicts = counters.conflicts := by
  induction qsos generalizing w counters with
  | nil => rfl
  | cons qso rest ih =>
      rw [pushRemoteDeletes, Prog.run_bind, run_qrzApi]
      dsimp only
      split
      · rw [Prog.run_bind, ih]
        rw [countRemoteDelete.eq_def]
        split <;> rfl
      · rw [ih]
        rfl

theorem storeMetadata_conflicts (env : NetEnvironment ε) (w : NetWorld ε) (metadata : SyncMetadata)
    (status : Except ApiException QrzLogbookStatus) (counters : SyncCounters) :
    ((storeMetadata metadata status counters).run (netHandle env) w).1.conflicts
      = counters.conflicts := by
  cases status with
  | ok status => rfl
  | error ex => rfl

/-- **After the download**: the rows are settled and nothing is counted. -/
theorem finishSync_run (env : NetEnvironment ε) (w : NetWorld ε)
    (hids : ∀ id r, w.1.get id = some r → r.deletedAt.isSome = true → Text.trim id = id)
    (metadata : SyncMetadata) (status : Except ApiException QrzLogbookStatus)
    (bookOwner : Option String) (counters : SyncCounters) :
    let o := (finishSync metadata status bookOwner counters).run (netHandle env) w
    Settles w.1 o.2.1 ∧ o.1.conflictCount = counters.conflicts := by
  rw [finishSync, Prog.run_bind]
  have hupload : UploadFrame w.1
      ((uploadPendingQsos bookOwner isPendingUpload).run (netHandle env) w).2.1 :=
    uploadPendingQsos_run fun _ h => h
  generalize (uploadPendingQsos bookOwner isPendingUpload).run (netHandle env) w = u at hupload ⊢
  obtain ⟨pass, w₂⟩ := u
  dsimp only at hupload ⊢
  have hids₂ : ∀ id r, w₂.1.get id = some r → r.deletedAt.isSome = true → Text.trim id = id := by
    intro id r hr hdel
    rcases hupload id with heq | ⟨q, logid, -, hactive, -, hq⟩
    · exact hids id r (heq ▸ hr) hdel
    · rw [hr, Option.some.injEq] at hq
      rw [hq] at hdel
      change q.deletedAt.isSome = true at hdel
      rw [hactive] at hdel
      cases hdel
  rw [Prog.run_bind]
  have hdelete : DeleteFrame w₂.1
      ((pushPendingRemoteDeletes (counters.addPass pass)).run (netHandle env) w₂).2.1 :=
    pushPendingRemoteDeletes_run hids₂ _
  have hcount : ((pushPendingRemoteDeletes (counters.addPass pass)).run (netHandle env) w₂).1.conflicts
      = counters.conflicts := by
    rw [pushPendingRemoteDeletes, Prog.run_bind, run_logbook]
    dsimp only [MemoryStorage.exec]
    split
    · rfl
    · rw [pushRemoteDeletes_conflicts]
      rfl
  generalize (pushPendingRemoteDeletes (counters.addPass pass)).run (netHandle env) w₂ = d
    at hdelete hcount ⊢
  obtain ⟨counters₃, w₃⟩ := d
  dsimp only at hdelete hcount ⊢
  rw [Prog.run_bind]
  have hrows (id : String) :
      ((storeMetadata metadata status counters₃).run (netHandle env) w₃).2.1.get id = w₃.1.get id :=
    storeMetadata_run metadata status counters₃ id
  refine ⟨⟨?_, ?_⟩, (storeMetadata_conflicts env w₃ metadata status counters₃).trans hcount⟩
  · intro id r hr hactive hpending
    show ((storeMetadata metadata status counters₃).run (netHandle env) w₃).2.1.get id = some r
    rw [hrows]
    exact hdelete.get_of_active (hupload.get_of_not_pending hr hpending) hactive
  · intro id r' hr' hconflict
    change ((storeMetadata metadata status counters₃).run (netHandle env) w₃).2.1.get id = some r'
      at hr'
    rw [hrows] at hr'
    -- no phase changes a row's status to conflict
    have hstatus := hdelete.syncStatus id
    rw [hr', Option.map_some, eq_comm, Option.map_eq_some_iff] at hstatus
    obtain ⟨r, hr, hstatus⟩ := hstatus
    have hconflict' : inConflict r = true := by rw [inConflict, hstatus]; exact hconflict
    exact ⟨r, hupload.get_of_not_synced hr (ne_synced_of_inConflict hconflict'), hconflict'⟩

/-! ### The sync -/

section Accounts

variable {s s₀ s₁ s' : MemoryState} {matched : List QsoRecord} {indexes : LocalIndexes}
  (hupload : UploadFrame s s₀) (hloop : Downloaded s₀ matched indexes s₁) (hsettles : Settles s₁ s')
include hupload hloop hsettles

/-- An edited row that a record was merged into is flagged. -/
theorem flagged_of_isEdited {m : QsoRecord} (hm : m ∈ matched) (hedited : isEdited m = true) :
    s.get m.localId = some m ∧ Flagged m s' := by
  have hget : s₀.get m.localId = some m :=
    (hloop.known m hm).get_of_not_synced (ne_synced_of_isEdited hedited)
  obtain ⟨row, hrow, hmerged⟩ := hloop.merged m hm hget
  obtain ⟨hconflict, hsame⟩ := hmerged.flagged hedited
  refine ⟨hupload.get_of_not_synced hget (ne_synced_of_isEdited hedited), row, ?_, hconflict, hsame⟩
  exact hsettles.kept _ _ hrow hmerged.active (isPendingUpload_of_inConflict hconflict)

/-- The rows newly flagged are the edited rows that records were merged into. -/
theorem mem_newlyFlagged (id : String) :
    id ∈ (newlyFlagged s s').map (·.localId) ↔ id ∈ (matched.filter isEdited).map (·.localId) := by
  rw [List.mem_map, List.mem_map]
  constructor
  · rintro ⟨r', hr', rfl⟩
    obtain ⟨hrow, hflag⟩ := List.mem_filter.mp hr'
    rw [Bool.and_eq_true, Bool.not_eq_true'] at hflag
    obtain ⟨r, hr, hconflict⟩ := hsettles.conflicts _ _ (MemoryState.mem_rows.mp hrow) hflag.1
    rcases e : s₀.get r'.localId with - | r₀
    · -- what the loop inserts is synced
      exact absurd (hloop.new _ _ e hr).2 (ne_synced_of_inConflict hconflict)
    by_cases hmem : ∃ m ∈ matched, m.localId = r'.localId
    · obtain ⟨m, hm, hid⟩ := hmem
      have heq : m = r₀ := (hloop.known m hm).eq_of_get (hid ▸ e)
      have hget : s₀.get m.localId = some m := by rw [hid, e, heq]
      obtain ⟨row, hrow', hmerged⟩ := hloop.merged m hm hget
      rw [hid, hr, Option.some.injEq] at hrow'
      refine ⟨m, List.mem_filter.mpr ⟨hm, ?_⟩, hid⟩
      by_contra hedited
      rw [Bool.not_eq_true] at hedited
      exact ne_synced_of_inConflict (hrow' ▸ hconflict) (hmerged.synced hedited)
    · -- a row no record was merged into was in conflict before
      have hr₁ := hloop.untouched _ _ e fun m hm hid => hmem ⟨m, hm, hid⟩
      rw [hr, Option.some.injEq] at hr₁
      have hs := hupload.get_of_not_synced e (hr₁ ▸ ne_synced_of_inConflict hconflict)
      rw [hs, Option.any_some, ← hr₁, hconflict] at hflag
      exact absurd hflag.2 (by simp)
  · rintro ⟨m, hm, rfl⟩
    obtain ⟨hm, hedited⟩ := List.mem_filter.mp hm
    obtain ⟨hget, r', hr', hconflict, -⟩ := flagged_of_isEdited hupload hloop hsettles hm hedited
    have hid := MemoryState.localId_of_get hr'
    refine ⟨r', List.mem_filter.mpr ⟨MemoryState.mem_rows.mpr (hid.symm ▸ hr'), ?_⟩, hid⟩
    have hstatus : m.syncStatus = SyncStatus.modified.toI32 := by simpa [isEdited] using hedited
    rw [hid, hget, Option.any_some, hconflict, inConflict, hstatus]
    rfl

/-- A row in conflict stays in conflict exactly if no record is merged into it. -/
theorem conflicts_iff :
    (∀ id r, s.get id = some r → r.deletedAt = none → inConflict r = true → Flagged r s')
      ↔ ∀ r ∈ matched, inConflict r = false := by
  constructor
  · intro hkept m hm
    by_contra hconflict
    rw [Bool.not_eq_false] at hconflict
    have hsynced := ne_synced_of_inConflict hconflict
    have hget := (hloop.known m hm).get_of_not_synced hsynced
    obtain ⟨row, hrow, hmerged⟩ := hloop.merged m hm hget
    have hedited : isEdited m = false := by
      have hstatus : m.syncStatus = SyncStatus.conflict.toI32 := by simpa [inConflict] using hconflict
      rw [isEdited, hstatus]
      rfl
    have hrow' := hsettles.kept _ _ hrow hmerged.active
      (isPendingUpload_of_synced (hmerged.synced hedited))
    obtain ⟨r', hr', hflag, -⟩ :=
      hkept _ m (hupload.get_of_not_synced hget hsynced) (hloop.known m hm).1 hconflict
    rw [hrow', Option.some.injEq] at hr'
    exact ne_synced_of_inConflict (hr' ▸ hflag) (hmerged.synced hedited)
  · intro hmatched id r hr hactive hconflict
    have hid := MemoryState.localId_of_get hr
    have hpending := isPendingUpload_of_inConflict hconflict
    have hget := hupload.get_of_not_pending hr hpending
    have hr₁ : s₁.get id = some r := by
      refine hloop.untouched id r hget fun m hm hid' => ?_
      have heq : m = r := (hloop.known m hm).eq_of_get (hid' ▸ hget)
      have := hmatched m hm
      rw [heq, hconflict] at this
      cases this
    rw [Flagged, hid]
    exact ⟨r, hsettles.kept _ _ hr₁ hactive hpending, hconflict, rfl⟩

/-- As many edited rows are matched as are newly flagged, if none is matched
twice. -/
theorem length_newlyFlagged_iff :
    (matched.filter isEdited).length = (newlyFlagged s s').length
      ↔ ((matched.filter isEdited).map (·.localId)).Nodup := by
  have hnodup : ((newlyFlagged s s').map (·.localId)).Nodup :=
    s'.nodup_localIds_rows.sublist (List.filter_sublist.map _)
  have hperm : ((newlyFlagged s s').map (·.localId)).Perm
      ((matched.filter isEdited).map (·.localId)).dedup := by
    rw [List.perm_ext_iff_of_nodup hnodup (List.nodup_dedup _)]
    intro id
    rw [List.mem_dedup]
    exact mem_newlyFlagged hupload hloop hsettles id
  have hlen := hperm.length_eq
  rw [List.length_map] at hlen
  rw [hlen, ← List.length_map (f := (·.localId)), ← List.dedup_eq_self]
  constructor
  · intro h
    exact (List.dedup_sublist _).eq_of_length h.symm
  · intro h
    rw [h]

end Accounts

section Sync

variable (env) (formatDate : Timestamp → String) (fullSync : Bool) {policy : ConflictPolicy}

/-- A sync as its phases see it: uploads, the loop, and what settles the rows. -/
theorem executeSync_run (hpolicy : policy ≠ .lastWriteWins) (w : NetWorld ε)
    (hids : TrimmedIds w.1) :
    let o := (executeSync formatDate fullSync policy).run (netHandle env) w
    let matched := syncTargets env formatDate fullSync policy w
    ∃ indexes s₁, UploadFrame w.1 (storeAtDownload env policy w)
      ∧ Downloaded (storeAtDownload env policy w) matched indexes s₁ ∧ Settles s₁ o.2.1
      ∧ o.1.conflictCount = (matched.filter isEdited).length := by
  obtain ⟨hupload, hzero⟩ := startSync_run env w policy
  have hids₀ := hupload.trimmedIds hids
  rw [executeSync, syncTargets, Prog.run_bind]
  rw [storeAtDownload] at hupload hids₀ ⊢
  generalize (startSync policy).run (netHandle env) w = o at hupload hzero hids₀ ⊢
  obtain ⟨start, s₀, e₀⟩ := o
  dsimp only at hupload hzero hids₀ ⊢
  have hnone : Downloaded s₀ [] (buildLocalIndexes []) s₀ := .refl (by simp)
  rw [Prog.run_bind, download, Prog.run_bind, run_logbook]
  dsimp only [MemoryStorage.exec]
  rcases hlist : MemoryStorage.listQsos s₀ { sort := .oldestFirst, deletedFilter := .all }
    with ex | localQsosAll
  · exact ⟨_, _, hupload, hnone, .refl _, rfl⟩
  dsimp only
  rw [Prog.run_bind, run_qrzApi]
  dsimp only
  generalize env.qrz (.fetchQsos (sinceDate formatDate fullSync (activeRows localQsosAll)
    start.metadata)) e₀ = a
  obtain ⟨ex | remoteQsos, e₁⟩ := a
  · exact ⟨_, _, hupload, hnone, .refl _, rfl⟩
  dsimp only
  rw [Prog.run_bind]
  have hlocal : ∀ r ∈ activeRows localQsosAll, s₀.get r.localId = some r ∧ r.deletedAt = none := by
    intro r hr
    obtain ⟨hr, hactive⟩ := List.mem_filter.mp hr
    have hmem := (MemoryStorage.listQsos_plain hlist).mem_iff.mp hr
    exact ⟨MemoryState.mem_rows.mp (List.mem_filter.mp hmem).1, by simpa using hactive⟩
  have hstart : Downloaded s₀ [] (buildLocalIndexes (activeRows localQsosAll)) s₀ := .refl hlocal
  have hctx : (downloadContext policy start localQsosAll).policy ≠ .lastWriteWins := hpolicy
  obtain ⟨hloop, hcount⟩ := processRemotes_run env (s₀, e₁) hctx
    { indexes := buildLocalIndexes (activeRows localQsosAll), counters := start.counters }
    remoteQsos hstart
  generalize (processRemotes (downloadContext policy start localQsosAll) remoteQsos
    { indexes := buildLocalIndexes (activeRows localQsosAll), counters := start.counters }).run
      (netHandle env) (s₀, e₁) = p at hloop hcount ⊢
  obtain ⟨st, s₁, e₂⟩ := p
  dsimp only at hloop hcount ⊢
  -- the rows that are soft-deleted now were there before
  have hids₁ : ∀ id r, s₁.get id = some r → r.deletedAt.isSome = true → Text.trim id = id := by
    intro id r hr hdel
    rcases e : s₀.get id with - | r₀
    · rw [(hloop.new id r e hr).1] at hdel
      cases hdel
    · exact hids₀ id r₀ e
  obtain ⟨hsettles, hresult⟩ := finishSync_run env (s₁, e₂) hids₁ start.metadata start.status
    (resolveBookOwner start.metadata start.status) st.counters
  refine ⟨st.indexes, s₁, hupload, hloop, hsettles, hresult.trans ?_⟩
  rw [hcount, hzero, Nat.zero_add]

end Sync

/-! ### Runs -/

/-- QRZ with these records, refusing every upload. -/
def refusingQrz (remotes : List FetchedQso) : NetEnvironment Unit where
  qrz
    | .fetchQsos _, e => (.ok remotes, e)
    | .uploadQso _ _, e => (.error (.other "refused"), e)
    | .uploadQsoWithReplace _ _, e => (.error (.other "refused"), e)
    | .updateQso _ _, e => (.error (.other "refused"), e)
    | .getStatus, e => (.ok { owner := "W1AW", qsoCount := remotes.length }, e)
    | .deleteQso _, e => (.error (.other "refused"), e)
  lotw
    | .uploadQsos _, e => (.error (.failed "refused"), e)
    | .fetchConfirmations _, e => (.error (.failed "refused"), e)
  newGuid e := ("00000000-0000-0000-0000-000000000000", e)
  utcNow e := (0, e)

/-- A contact with a logid, as QRZ has it. -/
def remoteContact (localId logid : String) : FetchedQso :=
  ⟨{ localId
     qrzLogid := some logid
     workedCallsign := "K7ABC"
     utcTimestamp := some ⟨1000, 0⟩ }, rfl⟩

/-- The same contact as a local row. -/
def linkedRow (status : SyncStatus) : QsoRecord :=
  { localId := "a"
    qrzLogid := some "1"
    workedCallsign := "K7ABC"
    utcTimestamp := some ⟨1000, 0⟩
    notes := some "mine"
    syncStatus := status.toI32 }

theorem trimmedIds_linkedRow (status : SyncStatus) :
    TrimmedIds (MemoryState.empty.put (linkedRow status)) := by
  intro id r hr
  rw [MemoryState.get_put, MemoryState.get_empty] at hr
  split at hr
  · rename_i hid
    rw [← hid]
    show Text.trim "a" = "a"
    decide +kernel
  · cases hr

end QsoRipper.DotNet
