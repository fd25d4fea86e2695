/-
QsoRipper/Server/Deletion.lean

Deleted rows under a sync that runs alone.  Their tombstones survive and they
are never uploaded, whatever QRZ answers.

That no active row ends up with the logid of a deleted one needs more: the
download phase suppresses by the dedicated field only, while logids are read
with the legacy aliases as a fallback, and an upload takes whatever logid it
is answered.  `Benign` says what QRZ may answer for it to hold.
-/
import QsoRipper.Server.Interference

namespace QsoRipper

open Interaction MemoryState

/-! ### Logids under the sync's writes -/

/-- No legacy alias is present. -/
def NoAlias (qso : QsoRecord) : Prop := ∀ key ∈ qrzLogidExtraFields, qso.extraFields[key]? = none

instance (qso : QsoRecord) : Decidable (NoAlias qso) :=
  inferInstanceAs (Decidable (∀ key ∈ qrzLogidExtraFields, _))

section Logids

variable {mine remote : QsoRecord}

theorem foldl_copyIfMissing_getElem? {key : String} :
    ∀ (entries : List (String × String)) (target : Std.ExtTreeMap String String),
      (∀ entry ∈ entries, entry.1 ≠ key) →
      (entries.foldl (fun target (key, value) =>
        if !(Text.trim value).isEmpty && isBlank target[key]? then target.insert key value
        else target) target)[key]? = target[key]? := by
  intro entries
  induction entries with
  | nil => exact fun target _ => rfl
  | cons entry entries ih =>
      intro target hne
      obtain ⟨hentry, hentries⟩ := List.forall_mem_cons.mp hne
      rw [List.foldl_cons, ih _ hentries]
      obtain ⟨k, v⟩ := entry
      dsimp only
      split
      · rw [Std.ExtTreeMap.getElem?_insert, if_neg]
        rw [compare_eq_iff_eq]
        exact hentry
      · rfl

/-- Filling blanks from a map without the key leaves the key alone. -/
theorem copyExtraFieldsIfMissing_getElem? {target theirs : Std.ExtTreeMap String String}
    {key : String} (h : theirs[key]? = none) :
    (copyExtraFieldsIfMissing target theirs)[key]? = target[key]? := by
  refine foldl_copyIfMissing_getElem? _ _ ?_
  rintro ⟨k, v⟩ hentry rfl
  rw [Std.ExtTreeMap.mem_toList_iff_getElem?_eq_some, h] at hentry
  cases hentry

/-- Inserting the entries of a map without the key leaves the key alone. -/
theorem insertMany_getElem? {target theirs : Std.ExtTreeMap String String} {key : String}
    (h : theirs[key]? = none) : (target.insertMany theirs.toList)[key]? = target[key]? := by
  apply Std.ExtTreeMap.getElem?_insertMany_list_of_contains_eq_false
  rw [List.contains_eq_any_beq]
  by_contra hany
  rw [Bool.not_eq_false, List.any_eq_true] at hany
  obtain ⟨k, hk, hkey⟩ := hany
  obtain ⟨⟨k', v⟩, hmem, rfl⟩ := List.mem_map.mp hk
  rw [Std.ExtTreeMap.mem_toList_iff_getElem?_eq_some] at hmem
  rw [beq_iff_eq] at hkey
  rw [show k' = key from hkey.symm, h] at hmem
  cases hmem

/-- An overwritten row has the logid of the remote record, or keeps its own. -/
theorem extractQrzLogid_overwritten (hremote : extractQrzLogid remote = none → NoAlias remote) :
    extractQrzLogid (overwritten mine remote (extractQrzLogid remote))
      = (extractQrzLogid remote).or (extractQrzLogid mine) := by
  cases h : extractQrzLogid remote with
  | some logid =>
      rw [← h, extractQrzLogid_taken h rfl, h, Option.some_or]
  | none =>
      rw [Option.none_or]
      refine extractQrzLogid_congr (by simp only [overwritten, Option.none_or]) fun key hkey => ?_
      exact insertMany_getElem? (hremote h key hkey)

/-- So does a linked one. -/
theorem extractQrzLogid_linked (hremote : extractQrzLogid remote = none → NoAlias remote) :
    extractQrzLogid (linked mine remote (extractQrzLogid remote))
      = (extractQrzLogid remote).or (extractQrzLogid mine) := by
  cases h : extractQrzLogid remote with
  | some logid =>
      rw [← h, extractQrzLogid_taken h rfl, h, Option.some_or]
  | none =>
      rw [Option.none_or]
      refine extractQrzLogid_congr (by simp only [linked, Option.none_or]) fun key hkey => ?_
      exact copyExtraFieldsIfMissing_getElem? (hremote h key hkey)

end Logids

/-! ### Tombstones -/

/-- What ties the sync's observations to the store, relative to the store `w`
it started from: no tombstone changes, and before the download phase loads the
store neither does any other field of a deleted row. -/
structure KeepsDeleted (w : MemoryState) (t : SyncView) (s : MemoryState) : Prop where
  kept : ∀ id r₀, w.get id = some r₀ → ∃ r, s.get id = some r ∧ r.deletedAt = r₀.deletedAt
  seen : ∀ r ∈ t.seen, ∃ row, s.get r.localId = some row ∧ row.deletedAt = r.deletedAt
  trash : ∀ r ∈ t.trash, r ∈ t.seen ∧ r.deletedAt.isSome
  unloaded : t.loaded = none → ∀ id r, s.get id = some r →
    ∃ r₀, w.get id = some r₀ ∧ (r.deletedAt.isSome → r₀ = r)
  loaded : ∀ rows, t.loaded = some rows → ∀ id d, w.get id = some d → d.deletedAt.isSome → d ∈ rows

theorem Decision.loaded {t : SyncView} {snapshot after : QsoRecord}
    (h : Decision t snapshot after) : t.loaded.isSome := by
  have hwanted : ∀ {remote : QsoRecord}, t.Wanted remote → t.loaded.isSome := by
    rintro remote ⟨-, rows, hrows, -⟩
    rw [hrows]
    rfl
  cases h with
  | overwrite hw => exact hwanted hw
  | link hw => exact hwanted hw
  | mark hw => exact hwanted hw
  | clear hl => exact hl

section Step

variable {ε : Type} {env : Environment ε} {w : MemoryState} {t t' : SyncView} {c : Cmd}

variable (env) in
/-- Every row a sync command finds keeps its tombstone. -/
theorem deletedAt_of_allowed {x : World ε} (hc : SyncAllowed t c) {id : String} {r : QsoRecord}
    (hr : x.1.get id = some r) :
    ∃ r', (handle env c x).2.1.get id = some r' ∧ r'.deletedAt = r.deletedAt := by
  obtain ⟨after, hafter, hchange⟩ := rowChange_of_allowed env hc hr
  exact ⟨after, hafter, congrArg Prod.fst hchange.stamps_eq⟩

/-- Observations that add no row. -/
theorem KeepsDeleted.view {s : MemoryState} (h : KeepsDeleted w t s) (hseen : t'.seen = t.seen)
    (hloaded : t'.loaded = t.loaded) (htrash : t'.trash = t.trash) : KeepsDeleted w t' s where
  kept := h.kept
  seen := by rw [hseen]; exact h.seen
  trash := by rw [htrash, hseen]; exact h.trash
  unloaded := by rw [hloaded]; exact h.unloaded
  loaded := by rw [hloaded]; exact h.loaded

/-- A command, with the rows it adds to the observations.  Before the store
is loaded it may add no row and change no deleted one. -/
theorem KeepsDeleted.write {x : World ε} (h : KeepsDeleted w t x.1) (hc : SyncAllowed t c)
    (hl : t'.loaded = t.loaded) (htrash : t'.trash = t.trash) (hsub : t.seen ⊆ t'.seen)
    (hnew : ∀ r ∈ t'.seen, r ∈ t.seen ∨ (handle env c x).2.1.get r.localId = some r)
    (hun : t.loaded = none → ∀ id r, (handle env c x).2.1.get id = some r →
      ∃ r', x.1.get id = some r' ∧ (r.deletedAt.isSome → r' = r)) :
    KeepsDeleted w t' (handle env c x).2.1 where
  kept id r₀ hr₀ := by
    obtain ⟨r, hr, hd⟩ := h.kept id r₀ hr₀
    obtain ⟨r', hr', hd'⟩ := deletedAt_of_allowed env hc hr
    exact ⟨r', hr', hd'.trans hd⟩
  seen r hr := by
    rcases hnew r hr with hr | hr
    · obtain ⟨row, hrow, hd⟩ := h.seen r hr
      obtain ⟨r', hr', hd'⟩ := deletedAt_of_allowed env hc hrow
      exact ⟨r', hr', hd'.trans hd⟩
    · exact ⟨r, hr, rfl⟩
  trash r hr := by
    rw [htrash] at hr
    exact (h.trash r hr).imp_left fun hs => hsub hs
  unloaded hnone id r hr := by
    rw [hl] at hnone
    obtain ⟨r', hr', hd'⟩ := hun hnone id r hr
    obtain ⟨r₀, hr₀, hd₀⟩ := h.unloaded hnone id r' hr'
    refine ⟨r₀, hr₀, fun hd => ?_⟩
    obtain rfl := hd' hd
    exact hd₀ hd
  loaded := by rw [hl]; exact h.loaded

theorem SyncView.nextQrz_rows (t : SyncView) (c : QrzCmd) (r : c.Answer) :
    (t.nextQrz c r).seen = t.seen ∧ (t.nextQrz c r).loaded = t.loaded
      ∧ (t.nextQrz c r).trash = t.trash := by
  cases c <;> rcases r with e | r <;> exact ⟨rfl, rfl, rfl⟩

/-- Remote calls add no row to the observations. -/
theorem KeepsDeleted.qrz {s : MemoryState} (h : KeepsDeleted w t s) (c : QrzCmd) (r : c.Answer) :
    KeepsDeleted w (t.nextQrz c r) s := by
  obtain ⟨hs, hl, ht⟩ := t.nextQrz_rows c r
  exact h.view hs hl ht

theorem SyncView.Wanted.loaded {remote : QsoRecord} (h : t.Wanted remote) : t.loaded ≠ none := by
  obtain ⟨-, rows, hrows, -⟩ := h
  rw [hrows]
  nofun

/-- Reading a row. -/
theorem KeepsDeleted.getQso {s : MemoryState} (h : KeepsDeleted w t s) (localId : String) :
    KeepsDeleted w (t.nextStore (.getQso localId) (.ok (s.get localId))) s := by
  cases hr : s.get localId with
  | none => exact h
  | some r =>
      have hid := localId_of_get hr
      refine ⟨h.kept, ?_, ?_, h.unloaded, h.loaded⟩
      · intro r' hr'
        rcases Set.mem_insert_iff.mp hr' with rfl | hr'
        · exact ⟨r', by rw [hid]; exact hr, rfl⟩
        · exact h.seen r' hr'
      · rintro c (hc | ⟨rfl, d, hd, hdid⟩)
        · exact (h.trash c hc).imp_left fun hs => Set.mem_insert_of_mem _ hs
        · obtain ⟨hds, hdd⟩ := h.trash d hd
          obtain ⟨row, hrow, hrd⟩ := h.seen d hds
          rw [hdid, hr] at hrow
          cases hrow
          exact ⟨Set.mem_insert _ _, hrd ▸ hdd⟩

/-- Listing rows. -/
theorem KeepsDeleted.listQsos {s : MemoryState} {query : QsoListQuery} (h : KeepsDeleted w t s)
    (hall : query = { deletedFilter := .all } → t.loaded = none) :
    KeepsDeleted w (t.nextStore (.listQsos query) (.ok (s.listQsos query))) s := by
  have hrows : ∀ r ∈ s.listQsos query, s.get r.localId = some r := fun r hr => get_of_mem_listQsos hr
  refine ⟨h.kept, ?_, ?_, ?_, ?_⟩
  · rintro r (hr | hr)
    · exact h.seen r hr
    · exact ⟨r, hrows r hr, rfl⟩
  · rintro c (hc | ⟨hc, rfl⟩)
    · exact (h.trash c hc).imp_left .inl
    · exact ⟨.inr hc, (mem_listQsos_deletedOnly.mp hc).2⟩
  · intro hnone
    simp only [SyncView.nextStore] at hnone
    split at hnone
    · cases hnone
    · exact h.unloaded hnone
  · intro rows hl id d hd hdel
    simp only [SyncView.nextStore] at hl
    split at hl
    · rename_i hquery
      cases hl
      -- nothing deleted has changed yet, so the listing shows it as it was
      obtain ⟨r, hr, hrd⟩ := h.kept id d hd
      obtain ⟨r₀, hr₀, heq⟩ := h.unloaded (hall hquery) id r hr
      rw [hd] at hr₀
      cases hr₀
      obtain rfl := heq (hrd ▸ hdel)
      rw [hquery, mem_listQsos_all, localId_of_get hr]
      exact hr
    · exact h.loaded rows hl id d hd hdel

/-- **One command of a sync that runs alone.** -/
theorem KeepsDeleted.step {x : World ε} (h : KeepsDeleted w t x.1) (hc : SyncAllowed t c) :
    KeepsDeleted w (syncContract.next t c (handle env c x).1) (handle env c x).2.1 := by
  cases hc with
  | @insert remote localId hw =>
      set q := newRow remote (extractQrzLogid remote) localId
      have hans : handle env (.store (.insertQso q)) x
          = ((x.1.insertQso q).1, (x.1.insertQso q).2, x.2) := rfl
      rcases x.1.insertQso_cases q with ⟨-, hq⟩ | hq
      · refine h.write (.insert hw) ?_ ?_ ?_ ?_ fun hnone => absurd hnone hw.loaded
        all_goals rw [hans, hq]
        · rfl
        · rfl
        · exact Set.subset_insert _ _
        · intro r hr
          rcases Set.mem_insert_iff.mp hr with rfl | hr
          · exact .inr (by rw [get_put, if_pos rfl])
          · exact .inl hr
      · refine h.write (.insert hw) ?_ ?_ ?_ ?_ fun hnone => absurd hnone hw.loaded
        all_goals rw [hans, hq]
        · rfl
        · rfl
        · exact subset_rfl
        · exact fun r hr => .inl hr
  | @swap expected replacement hseen hd =>
      refine h.write (.swap hseen hd) rfl rfl subset_rfl (fun r hr => .inl hr) fun hnone => ?_
      have hloaded := hd.loaded
      rw [hnone] at hloaded
      cases hloaded
  | @patch current logid hseen hact hup hne =>
      refine h.write (.patch hseen hact hup hne) rfl rfl subset_rfl (fun r hr => .inl hr) ?_
      intro hnone id r hr
      obtain ⟨row, hrow, hrd⟩ := h.seen current hseen
      rcases get_of_updateQrzSyncMetadata hr with ⟨hid, row', hrow', rfl⟩ | hr
      · rw [hid, hrow'] at hrow
        cases hrow
        obtain ⟨status, pending, hpatch, -⟩ := patchSyncMetadata_frame row current.updatedAt logid
        refine ⟨row, hrow', fun hd => ?_⟩
        rw [hpatch] at hd
        rw [show row.deletedAt = none from hrd.trans hact] at hd
        cases hd
      · exact ⟨r, hr, fun _ => rfl⟩
  | getQso localId => exact h.getQso localId
  | listQsos hq => exact h.listQsos hq
  | uploadQso => exact h.qrz _ _
  | uploadQsoWithReplace => exact h.qrz _ _
  | replaceQso => exact h.qrz _ _
  | fetchQsos => exact h.qrz _ _
  | upsertSyncMetadata => exact ⟨h.kept, h.seen, h.trash, h.unloaded, h.loaded⟩
  | _ => exact h

end Step

/-! ### Logids of deleted rows -/

/-- A deleted row of the store has the logid. -/
def Trashed (w : MemoryState) (logid : String) : Prop :=
  ∃ d ∈ w.rows, d.deletedAt.isSome ∧ extractQrzLogid d = some logid

/-- A deleted row of the store has the logid in its dedicated field. -/
def TrashedByField (w : MemoryState) (logid : String) : Prop :=
  ∃ d ∈ w.rows, d.deletedAt.isSome ∧ nonEmpty d.qrzLogid = some logid

instance (w : MemoryState) (logid : String) : Decidable (Trashed w logid) :=
  inferInstanceAs (Decidable (∃ d ∈ w.rows, _))

instance (w : MemoryState) (logid : String) : Decidable (TrashedByField w logid) :=
  inferInstanceAs (Decidable (∃ d ∈ w.rows, _))

/-- The records an event downloads. -/
def fetchedBy : Event Cmd Cmd.Answer → List QsoRecord
  | ⟨.qrz (.fetchQsos _), .ok (rows : List QsoRecord)⟩ => rows
  | _ => []

/-- The record an event uploads, if it does. -/
def sentBy : Cmd → List QsoRecord
  | .qrz (.uploadQso qso _) => [qso]
  | .qrz (.uploadQsoWithReplace qso _) => [qso]
  | .qrz (.replaceQso _ qso _) => [qso]
  | _ => []

/-- The logid an event gives an upload. -/
def logidBy : Event Cmd Cmd.Answer → List String
  | ⟨.qrz (.uploadQso _ _), .ok (result : QrzUploadResult)⟩ => [result.logid]
  | ⟨.qrz (.uploadQsoWithReplace _ _), .ok (result : QrzUploadResult)⟩ => [result.logid]
  | ⟨.qrz (.replaceQso _ _ _), .ok (result : QrzUploadResult)⟩ => [result.logid]
  | _ => []

/-- A fetched record that the suppression recognises: the logid of a deleted
row is one the dedicated field of a deleted row has, and a record without a
logid carries no alias. -/
def Recognised (w : MemoryState) (remote : QsoRecord) : Prop :=
  match extractQrzLogid remote with
  | some logid => Trashed w logid → TrashedByField w logid
  | none => NoAlias remote

instance (w : MemoryState) : DecidablePred (Recognised w) := fun remote =>
  match h : extractQrzLogid remote with
  | some logid => decidable_of_iff (Trashed w logid → TrashedByField w logid)
      (by rw [Recognised, h])
  | none => decidable_of_iff (NoAlias remote) (by rw [Recognised, h])

/-- An answer of QRZ that links no active row to the logid of a deleted one. -/
def Benign (w : MemoryState) (e : Event Cmd Cmd.Answer) : Prop :=
  (∀ remote ∈ fetchedBy e, Recognised w remote)
    ∧ ∀ qso ∈ sentBy e.1, ∀ logid ∈ logidBy e, Trashed w logid → extractQrzLogid qso = some logid

instance (w : MemoryState) : DecidablePred (Benign w) := fun _ => inferInstanceAs (Decidable (_ ∧ _))

/-- An active row has the logid of a deleted row only if it had it before. -/
def Honest (w : MemoryState) (r : QsoRecord) : Prop :=
  r.deletedAt = none → ∀ logid, extractQrzLogid r = some logid → Trashed w logid →
    ∃ r₀, w.get r.localId = some r₀ ∧ extractQrzLogid r₀ = some logid

/-- What else ties the observations of a sync with benign answers to the
store. -/
structure LinksNoDeleted (w : MemoryState) (t : SyncView) (s : MemoryState) : Prop where
  rows : ∀ id r, s.get id = some r → Honest w r
  seen : ∀ r ∈ t.seen, Honest w r
  fetched : ∀ remote ∈ t.fetched, Recognised w remote
  uploaded : ∀ u ∈ t.uploaded, Trashed w u.2 → extractQrzLogid u.1 = some u.2

section Honest

variable {w s : MemoryState} {t : SyncView} {a b mine remote : QsoRecord}

/-- A row with the identity, tombstone and logid of an honest one. -/
theorem Honest.congr (h : Honest w a) (hid : b.localId = a.localId)
    (hdel : b.deletedAt = none → a.deletedAt = none)
    (hlogid : extractQrzLogid b = extractQrzLogid a) : Honest w b := by
  intro hact logid hl htrash
  rw [hid]
  exact h (hdel hact) logid (hlogid ▸ hl) htrash

theorem honest_of_not_trashed (h : ∀ logid, extractQrzLogid b = some logid → ¬ Trashed w logid) :
    Honest w b :=
  fun _ logid hl htrash => absurd htrash (h logid hl)

/-- A wanted record has no logid of a deleted row. -/
theorem not_trashed_of_wanted (hk : KeepsDeleted w t s) (hn : LinksNoDeleted w t s)
    (hw : t.Wanted remote) {logid : String} (hl : extractQrzLogid remote = some logid) :
    ¬ Trashed w logid := by
  obtain ⟨hf, rows, hrows, hnot⟩ := hw
  intro htrash
  have hrec := hn.fetched remote hf
  rw [Recognised, hl] at hrec
  obtain ⟨d, hd, hdel, hfield⟩ := hrec htrash
  refine hnot logid hl ?_
  rw [partitionLocalForSync, List.mem_toFinset, List.mem_filterMap]
  exact ⟨d, List.mem_filter.mpr ⟨hk.loaded rows hrows _ d (mem_rows.mp hd) hdel, hdel⟩, hfield⟩

theorem noAlias_of_wanted (hn : LinksNoDeleted w t s) (hw : t.Wanted remote)
    (hl : extractQrzLogid remote = none) : NoAlias remote := by
  have hrec := hn.fetched remote hw.1
  rwa [Recognised, hl] at hrec

/-- A row that takes its logid from a wanted record, or else keeps its own. -/
theorem Honest.taken (h : Honest w a) (hk : KeepsDeleted w t s) (hn : LinksNoDeleted w t s)
    (hw : t.Wanted remote) (hid : b.localId = a.localId) (hdel : b.deletedAt = a.deletedAt)
    (hlogid : extractQrzLogid b = (extractQrzLogid remote).or (extractQrzLogid a)) :
    Honest w b := by
  cases hl : extractQrzLogid remote with
  | none =>
      rw [hl, Option.none_or] at hlogid
      exact h.congr hid (fun hact => hdel ▸ hact) hlogid
  | some logid =>
      rw [hl, Option.some_or] at hlogid
      refine honest_of_not_trashed fun logid' hl' => ?_
      rw [hlogid] at hl'
      cases hl'
      exact not_trashed_of_wanted hk hn hw hl

/-- Every decision of the sync keeps rows honest. -/
theorem Honest.decision (h : Honest w mine) (hk : KeepsDeleted w t s) (hn : LinksNoDeleted w t s)
    (hd : Decision t mine b) : Honest w b := by
  cases hd with
  | overwrite hw =>
      exact h.taken hk hn hw rfl rfl (extractQrzLogid_overwritten (noAlias_of_wanted hn hw))
  | link hw => exact h.taken hk hn hw rfl rfl (extractQrzLogid_linked (noAlias_of_wanted hn hw))
  | mark => exact h.congr rfl (fun hact => hact) rfl
  | clear _ htrash =>
      intro hact
      have hdel := (hk.trash mine htrash).2
      rw [show mine.deletedAt = none from hact] at hdel
      cases hdel

/-- A patched row, when the upload was answered benignly. -/
theorem honest_patch {current row : QsoRecord} {expected : Option Timestamp} {logid : String}
    (hn : LinksNoDeleted w t s) (hseen : current ∈ t.seen) (hact : current.deletedAt = none)
    (hup : (current, logid) ∈ t.uploaded) (hne : logid ≠ "") (hid : row.localId = current.localId) :
    Honest w (patchSyncMetadata row expected logid) := by
  obtain ⟨status, pending, hpatch, -⟩ := patchSyncMetadata_frame row expected logid
  intro _ logid' hl htrash
  rw [localId_patchSyncMetadata, hid]
  have hlogid : extractQrzLogid (patchSyncMetadata row expected logid) = some logid := by
    rw [hpatch]
    exact extractQrzLogid_of_field rfl hne
  rw [hlogid] at hl
  cases hl
  exact hn.seen current hseen hact logid (hn.uploaded _ hup htrash) htrash

/-- A successful upload, remembered. -/
theorem LinksNoDeleted.upload (hn : LinksNoDeleted w t s) {qso : QsoRecord}
    {result : QrzUploadResult}
    (h : Trashed w result.logid → extractQrzLogid qso = some result.logid) :
    LinksNoDeleted w (t.upload qso result) s := by
  refine ⟨hn.rows, hn.seen, hn.fetched, fun u hu => ?_⟩
  rcases Set.mem_insert_iff.mp hu with rfl | hu
  · exact h
  · exact hn.uploaded u hu

/-- A remote call with a benign answer. -/
theorem LinksNoDeleted.qrz (hn : LinksNoDeleted w t s) {c : QrzCmd} {r : c.Answer}
    (he : Benign w ⟨.qrz c, r⟩) : LinksNoDeleted w (t.nextQrz c r) s := by
  have hup : ∀ {qso : QsoRecord} {result : QrzUploadResult}, qso ∈ sentBy (.qrz c) →
      result.logid ∈ logidBy ⟨.qrz c, r⟩ → LinksNoDeleted w (t.upload qso result) s :=
    fun hq hl => hn.upload (he.2 _ hq _ hl)
  cases c with
  | fetchQsos since =>
      rcases r with e | (rows : List QsoRecord)
      · exact hn
      · refine ⟨hn.rows, hn.seen, ?_, hn.uploaded⟩
        rintro remote (hr | hr)
        · exact hn.fetched remote hr
        · exact he.1 remote hr
  | uploadQso =>
      rcases r with e | result
      · exact hn
      · exact hup (List.mem_singleton_self _) (List.mem_singleton_self _)
  | uploadQsoWithReplace =>
      rcases r with e | result
      · exact hn
      · exact hup (List.mem_singleton_self _) (List.mem_singleton_self _)
  | replaceQso =>
      rcases r with e | result
      · exact hn
      · exact hup (List.mem_singleton_self _) (List.mem_singleton_self _)
  | fetchStatus => exact hn
  | deleteQso => exact hn

/-- **One command with a benign answer.** -/
theorem LinksNoDeleted.step {ε : Type} {env : Environment ε} {x : World ε} {c : Cmd}
    (hn : LinksNoDeleted w t x.1) (hk : KeepsDeleted w t x.1) (hc : SyncAllowed t c)
    (he : Benign w ⟨c, (handle env c x).1⟩) :
    LinksNoDeleted w (syncContract.next t c (handle env c x).1) (handle env c x).2.1 := by
  cases hc with
  | @insert remote localId hw =>
      have hhonest : Honest w (newRow remote (extractQrzLogid remote) localId) := by
        refine honest_of_not_trashed fun logid hl => ?_
        rw [extractQrzLogid_newRow] at hl
        exact not_trashed_of_wanted hk hn hw hl
      refine ⟨fun id r hr => ?_, fun r hr => ?_, ?_, ?_⟩
      · rcases get_of_insertQso hr with ⟨-, rfl⟩ | hr
        · exact hhonest
        · exact hn.rows id r hr
      · revert hr
        generalize (handle env _ x).1 = answer
        intro hr
        rcases answer with e | ⟨⟩
        · exact hn.seen r hr
        · rcases Set.mem_insert_iff.mp hr with rfl | hr
          · exact hhonest
          · exact hn.seen r hr
      · generalize (handle env _ x).1 = answer
        rcases answer with e | ⟨⟩ <;> exact hn.fetched
      · generalize (handle env _ x).1 = answer
        rcases answer with e | ⟨⟩ <;> exact hn.uploaded
  | @swap expected replacement hseen hd =>
      refine ⟨fun id r hr => ?_, hn.seen, hn.fetched, hn.uploaded⟩
      rcases get_of_updateQsoIfUnchanged hr with ⟨-, rfl⟩ | hr
      · exact (hn.seen expected hseen).decision hk hn hd
      · exact hn.rows id r hr
  | @patch current logid hseen hact hup hne =>
      refine ⟨fun id r hr => ?_, hn.seen, hn.fetched, hn.uploaded⟩
      rcases get_of_updateQrzSyncMetadata hr with ⟨hid, row, hrow, rfl⟩ | hr
      · exact honest_patch hn hseen hact hup hne ((localId_of_get hrow).trans hid.symm)
      · exact hn.rows id r hr
  | getQso localId =>
      show LinksNoDeleted w (t.nextStore (.getQso localId) (.ok (x.1.get localId))) x.1
      cases hr : x.1.get localId with
      | none => exact hn
      | some r =>
          refine ⟨hn.rows, fun r' hr' => ?_, hn.fetched, hn.uploaded⟩
          rcases Set.mem_insert_iff.mp hr' with rfl | hr'
          · exact hn.rows _ _ hr
          · exact hn.seen r' hr'
  | listQsos hq =>
      refine ⟨hn.rows, ?_, hn.fetched, hn.uploaded⟩
      rintro r (hr | hr)
      · exact hn.seen r hr
      · exact hn.rows _ r (get_of_mem_listQsos hr)
  | upsertSyncMetadata => exact ⟨hn.rows, hn.seen, hn.fetched, hn.uploaded⟩
  | uploadQso => exact hn.qrz he
  | uploadQsoWithReplace => exact hn.qrz he
  | replaceQso => exact hn.qrz he
  | fetchQsos => exact hn.qrz he
  | _ => exact hn

end Honest

/-! ### The sync -/

/-- Only active records that have been seen are uploaded. -/
theorem SyncAllowed.sent {t : SyncView} {c : Cmd} (h : SyncAllowed t c) :
    ∀ qso ∈ sentBy c, qso ∈ t.seen ∧ qso.deletedAt = none := by
  intro qso hqso
  cases h with
  | uploadQso hseen hact => exact List.mem_singleton.mp hqso ▸ ⟨hseen, hact⟩
  | uploadQsoWithReplace hseen hact => exact List.mem_singleton.mp hqso ▸ ⟨hseen, hact⟩
  | replaceQso hseen hact => exact List.mem_singleton.mp hqso ▸ ⟨hseen, hact⟩
  | _ => exact absurd hqso List.not_mem_nil

/-- **Deletion intent survives every sync that runs alone.**  In every state
of the run each deleted row keeps its tombstone; no deleted row is ever
uploaded; the download phase loads the deleted rows as they were before the
sync.  When QRZ only answers benignly, no active row has the logid of a
deleted one that did not have it before. -/
theorem executeSync_keeps_deletions {ε : Type} (env : Environment ε)
    (formatDate : ℤ → Option String) (fullSync : Bool) (policy : ConflictPolicy) (x : World ε) :
    (∀ x' ∈ (executeSync formatDate fullSync policy).states (handle env) x,
      ∀ id r₀, x.1.get id = some r₀ → r₀.deletedAt.isSome →
        ∃ r, x'.1.get id = some r ∧ r.deletedAt = r₀.deletedAt)
    ∧ (∀ m ∈ (executeSync formatDate fullSync policy).trace (handle env) x,
      ∀ qso ∈ sentBy m.2.1, ∀ r₀, x.1.get qso.localId = some r₀ → r₀.deletedAt = none)
    ∧ (∀ m ∈ (executeSync formatDate fullSync policy).trace (handle env) x,
      m.2.1 = .store (.listQsos { deletedFilter := .all }) →
        ∀ id r, r.deletedAt.isSome → (m.1.1.get id = some r ↔ x.1.get id = some r))
    ∧ ((∀ m ∈ (executeSync formatDate fullSync policy).trace (handle env) x, Benign x.1 m.2) →
      ∀ x' ∈ (executeSync formatDate fullSync policy).states (handle env) x,
        ∀ id r, x'.1.get id = some r → Honest x.1 r) := by
  have hobeys := executeSync_obeys formatDate fullSync policy
  have hstart : KeepsDeleted x.1 .start x.1 :=
    { kept := fun id r₀ h => ⟨r₀, h, rfl⟩
      seen := fun r hr => absurd hr (Set.notMem_empty r)
      trash := fun r hr => absurd hr (Set.notMem_empty r)
      unloaded := fun _ id r h => ⟨r, h, fun _ => rfl⟩
      loaded := fun _ h => by cases h }
  have hrun := hobeys.run (h := handle env) (J := fun t (y : World ε) => KeepsDeleted x.1 t y.1) (E := fun _ => True)
    (fun t (y : World ε) c hk hc _ => hk.step hc) hstart fun _ _ => trivial
  refine ⟨?_, ?_, ?_, ?_⟩
  · intro x' hx' id r₀ hr₀ _
    obtain ⟨t, hk⟩ := hobeys.states (h := handle env) (J := fun t (y : World ε) => KeepsDeleted x.1 t y.1) (E := fun _ => True)
      (fun t (y : World ε) c hk hc _ => hk.step hc) hstart (fun _ _ => trivial) x' hx'
    exact hk.kept id r₀ hr₀
  · intro m hm qso hqso r₀ hr₀
    obtain ⟨t, hk, hc⟩ := hrun.1 m hm
    obtain ⟨hseen, hact⟩ := hc.sent qso hqso
    obtain ⟨row, hrow, hrd⟩ := hk.seen qso hseen
    obtain ⟨row', hrow', hd⟩ := hk.kept _ r₀ hr₀
    rw [hrow] at hrow'
    cases hrow'
    exact hd.symm.trans (hrd.trans hact)
  · rintro m hm hlist id r hdel
    obtain ⟨t, hk, hc⟩ := hrun.1 m hm
    rw [hlist] at hc
    cases hc with
    | listQsos hall =>
        have hnone := hall rfl
        constructor
        · intro hr
          obtain ⟨r₀, hr₀, heq⟩ := hk.unloaded hnone id r hr
          exact heq hdel ▸ hr₀
        · intro hr
          obtain ⟨r', hr', hd⟩ := hk.kept id r hr
          obtain ⟨r₀, hr₀, heq⟩ := hk.unloaded hnone id r' hr'
          rw [hr] at hr₀
          cases hr₀
          exact heq (hd ▸ hdel) ▸ hr'
  · intro hbenign x' hx' id r hr
    obtain ⟨t, -, hn⟩ := hobeys.states (h := handle env)
      (J := fun t (y : World ε) => KeepsDeleted x.1 t y.1 ∧ LinksNoDeleted x.1 t y.1) (E := Benign x.1)
      (fun t (y : World ε) c h hc he => ⟨h.1.step hc, h.2.step h.1 hc he⟩)
      ⟨hstart, ⟨fun id r h _ logid hl _ => ⟨r, localId_of_get h ▸ h, hl⟩,
        fun r hr => absurd hr (Set.notMem_empty r), fun r hr => absurd hr (Set.notMem_empty r),
        fun u hu => absurd hu (Set.notMem_empty u)⟩⟩ hbenign x' hx'
    exact hn.rows id r hr

/-! ### Two remote logbooks -/

/-- The remote record both logbooks hold. -/
def remoteContact : QsoRecord :=
  { stationCallsign := "K7RND", workedCallsign := "W1AW", band := 9, mode := 7,
    utcTimestamp := some ⟨0, 0⟩, qrzLogid := some "5" }

/-- The same contact, deleted locally. -/
def trashedContact : QsoRecord := { remoteContact with localId := "a", deletedAt := some ⟨500, 0⟩ }

/-- The same, from before the dedicated field: the logid is a legacy alias. -/
def legacyTrashedContact : QsoRecord :=
  { trashedContact with
    qrzLogid := none
    extraFields := .ofList [("APP_QRZLOG_LOGID", "5")] }

/-- The run of a sync that downloads `remoteContact`. -/
def downloadBeside (row : QsoRecord) : List (World Unit) :=
  (executeSync (fun _ => none) false .flagForReview).states (handle (remoteHolding [remoteContact]))
    (empty.put row, ())

/-- A deleted row with a legacy alias does not keep its remote record out. -/
theorem executeSync_resurrects_legacy :
    extractQrzLogid legacyTrashedContact = some "5" ∧ legacyTrashedContact.deletedAt.isSome
      ∧ ∃ x ∈ downloadBeside legacyTrashedContact, ∃ r ∈ x.1.rows,
          r.localId = "new" ∧ r.deletedAt = none ∧ extractQrzLogid r = some "5" := by
  decide +kernel

/-- A deleted row with the dedicated field does. -/
theorem executeSync_keeps_trashed :
    trashedContact.deletedAt.isSome ∧ ∀ x ∈ downloadBeside trashedContact, ∀ id r,
      x.1.get id = some r → Honest (empty.put trashedContact) r :=
  ⟨rfl, (executeSync_keeps_deletions (remoteHolding [remoteContact]) (fun _ => none) false
    .flagForReview (empty.put trashedContact, ())).2.2.2 (by decide +kernel)⟩

end QsoRipper
