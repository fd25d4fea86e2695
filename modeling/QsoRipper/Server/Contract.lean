/-
QsoRipper/Server/Contract.lean

What the sync may do, as a contract over what it has been shown.  Every store
write of `execute_sync` is one of the three that `syncContract` allows, each
justified by something observed before: a compare-and-swap names a snapshot
the store returned, a new row comes from a fetched record that is not
suppressed, a metadata patch from an upload of an active row.

`executeSync_obeys` is proved from the program text for arbitrary answers, so
it holds in any interleaving; the guarantees of the sync are read off from it.
-/
import QsoRipper.Lib.Pool
import QsoRipper.Server.Sync

namespace QsoRipper

open Interaction

/-! ### The contract -/

/-- What the sync has observed. -/
structure SyncView where
  /-- Records the store has returned or accepted. -/
  seen : Set QsoRecord
  /-- The listing the download phase matched against. -/
  loaded : Option (List QsoRecord)
  /-- Records QRZ has returned. -/
  fetched : Set QsoRecord
  /-- Uploaded records with the logid they were given. -/
  uploaded : Set (QsoRecord × String)
  /-- Deleted rows listed for their remote delete, and what was read of them
  since. -/
  trash : Set QsoRecord

namespace SyncView

/-- Nothing observed. -/
def start : SyncView := ⟨∅, none, ∅, ∅, ∅⟩

/-- A fetched record that does not carry the logid of a deleted row. -/
def Wanted (t : SyncView) (remote : QsoRecord) : Prop :=
  remote ∈ t.fetched ∧ ∃ rows, t.loaded = some rows ∧
    ∀ logid ∈ extractQrzLogid remote, logid ∉ (partitionLocalForSync rows).2

/-- Later observations of the same phase. -/
structure Extends (t t' : SyncView) : Prop where
  seen : t.seen ⊆ t'.seen
  loaded : t'.loaded = t.loaded
  fetched : t.fetched ⊆ t'.fetched
  uploaded : t.uploaded ⊆ t'.uploaded

theorem Extends.refl (t : SyncView) : t.Extends t := ⟨subset_rfl, rfl, subset_rfl, subset_rfl⟩

theorem Extends.trans {t t' t'' : SyncView} (h : t.Extends t') (h' : t'.Extends t'') :
    t.Extends t'' :=
  ⟨h.seen.trans h'.seen, h'.loaded.trans h.loaded, h.fetched.trans h'.fetched,
    h.uploaded.trans h'.uploaded⟩

theorem Wanted.extends {t t' : SyncView} {remote : QsoRecord} (h : t.Wanted remote)
    (ht : t.Extends t') : t'.Wanted remote := by
  obtain ⟨hf, rows, hrows, hlogid⟩ := h
  exact ⟨ht.fetched hf, rows, ht.loaded.trans hrows, hlogid⟩

end SyncView

/-- A replacement the sync may swap in for the snapshot it decided on. -/
inductive Decision (t : SyncView) : QsoRecord → QsoRecord → Prop
  | overwrite {mine remote : QsoRecord} :
      t.Wanted remote → Decision t mine (overwritten mine remote (extractQrzLogid remote))
  | link {mine remote : QsoRecord} :
      t.Wanted remote → Decision t mine (linked mine remote (extractQrzLogid remote))
  | mark {mine remote : QsoRecord} : t.Wanted remote → Decision t mine (conflicted mine)
  | clear {mine : QsoRecord} : t.loaded.isSome → mine ∈ t.trash → Decision t mine (cleared mine)

/-- The commands of a sync, given what it has observed. -/
inductive SyncAllowed (t : SyncView) : Cmd → Prop
  | insert {remote : QsoRecord} {localId : String} :
      t.Wanted remote →
      SyncAllowed t (.store (.insertQso (newRow remote (extractQrzLogid remote) localId)))
  | swap {expected replacement : QsoRecord} :
      expected ∈ t.seen → Decision t expected replacement →
      SyncAllowed t (.store (.updateQsoIfUnchanged expected replacement))
  | patch {current : QsoRecord} {logid : String} :
      current ∈ t.seen → current.deletedAt = none → (current, logid) ∈ t.uploaded → logid ≠ "" →
      SyncAllowed t (.store (.updateQrzSyncMetadata current.localId current.updatedAt logid))
  | getQso (localId : String) : SyncAllowed t (.store (.getQso localId))
  | listQsos {query : QsoListQuery} :
      (query = { deletedFilter := .all } → t.loaded = none) → SyncAllowed t (.store (.listQsos query))
  | qsoCounts : SyncAllowed t (.store .qsoCounts)
  | getSyncMetadata : SyncAllowed t (.store .getSyncMetadata)
  | upsertSyncMetadata (metadata : SyncMetadata) :
      SyncAllowed t (.store (.upsertSyncMetadata metadata))
  | uploadQso {qso : QsoRecord} {bookOwner : Option String} :
      qso ∈ t.seen → qso.deletedAt = none → SyncAllowed t (.qrz (.uploadQso qso bookOwner))
  | uploadQsoWithReplace {qso : QsoRecord} {bookOwner : Option String} :
      qso ∈ t.seen → qso.deletedAt = none →
      SyncAllowed t (.qrz (.uploadQsoWithReplace qso bookOwner))
  | replaceQso {logid : String} {qso : QsoRecord} {bookOwner : Option String} :
      qso ∈ t.seen → qso.deletedAt = none → SyncAllowed t (.qrz (.replaceQso logid qso bookOwner))
  | fetchQsos (since : Option String) : SyncAllowed t (.qrz (.fetchQsos since))
  | fetchStatus : SyncAllowed t (.qrz .fetchStatus)
  | deleteQso (logid : String) : SyncAllowed t (.qrz (.deleteQso logid))
  | newLocalId : SyncAllowed t .newLocalId
  | utcNow : SyncAllowed t .utcNow
  | send (response : SyncWithQrzResponse) : SyncAllowed t (.send response)

/-- What an answer of the store shows. -/
def SyncView.nextStore (t : SyncView) : (c : StoreCmd) → c.Answer → SyncView
  | .getQso localId, .ok (some r) =>
      { t with
        seen := insert r t.seen
        trash := { c | c ∈ t.trash ∨ (c = r ∧ ∃ d ∈ t.trash, d.localId = localId) } }
  | .listQsos query, .ok (rows : List QsoRecord) =>
      { t with
        seen := t.seen ∪ { r | r ∈ rows }
        loaded := if query = { deletedFilter := .all } then some rows else t.loaded
        trash := { c | c ∈ t.trash ∨ (c ∈ rows ∧ query = { deletedFilter := .deletedOnly }) } }
  | .insertQso qso, .ok () => { t with seen := insert qso t.seen }
  | _, _ => t

/-- A successful upload, remembered. -/
def SyncView.upload (t : SyncView) (qso : QsoRecord) (result : QrzUploadResult) : SyncView :=
  { t with uploaded := insert (qso, result.logid) t.uploaded }

/-- What an answer of QRZ shows. -/
def SyncView.nextQrz (t : SyncView) : (c : QrzCmd) → c.Answer → SyncView
  | .fetchQsos _, .ok (rows : List QsoRecord) => { t with fetched := t.fetched ∪ { r | r ∈ rows } }
  | .uploadQso qso _, .ok result => t.upload qso result
  | .uploadQsoWithReplace qso _, .ok result => t.upload qso result
  | .replaceQso _ qso _, .ok result => t.upload qso result
  | _, _ => t

/-- The sync's contract. -/
def syncContract : Contract Cmd Cmd.Answer SyncView where
  allowed := SyncAllowed
  next t
    | .store c, r => t.nextStore c r
    | .qrz c, r => t.nextQrz c r
    | _, _ => t

/-! ### The phases obey it -/

section Obeys

variable {α : Type} {Q : SyncView → α → Prop} {t : SyncView}

theorem obeys_store {c : StoreCmd} {f : c.Answer → Program α} :
    (store c >>= f).Obeys syncContract Q t
      ↔ SyncAllowed t (.store c) ∧ ∀ r, (f r).Obeys syncContract Q (t.nextStore c r) := Iff.rfl

theorem obeys_qrz {c : QrzCmd} {f : c.Answer → Program α} :
    (qrz c >>= f).Obeys syncContract Q t
      ↔ SyncAllowed t (.qrz c) ∧ ∀ r, (f r).Obeys syncContract Q (t.nextQrz c r) := Iff.rfl

theorem obeys_send {response : SyncWithQrzResponse} {f : Unit → Program α} :
    (send response >>= f).Obeys syncContract Q t ↔ (f ()).Obeys syncContract Q t :=
  ⟨fun h => h.2 (), fun h => ⟨.send response, fun _ => h⟩⟩

theorem obeys_newLocalId {f : String → Program α} :
    (newLocalId >>= f).Obeys syncContract Q t ↔ ∀ id, (f id).Obeys syncContract Q t :=
  ⟨fun h => h.2, fun h => ⟨.newLocalId, h⟩⟩

theorem obeys_utcNow {f : Timestamp → Program α} :
    (utcNow >>= f).Obeys syncContract Q t ↔ ∀ now, (f now).Obeys syncContract Q t :=
  ⟨fun h => h.2, fun h => ⟨.utcNow, h⟩⟩

theorem SyncView.extends_insert (t : SyncView) (r : QsoRecord) :
    t.Extends { t with seen := insert r t.seen } :=
  ⟨Set.subset_insert r _, rfl, subset_rfl, subset_rfl⟩

theorem SyncView.extends_upload (t : SyncView) (qso : QsoRecord) (result : QrzUploadResult) :
    t.Extends (t.upload qso result) :=
  ⟨subset_rfl, rfl, subset_rfl, Set.subset_insert _ _⟩

/-- What `upload_single_qso` ends with. -/
def Uploaded (t : SyncView) (current : QsoRecord) (t' : SyncView)
    (outcome : Except String (QrzUploadResult × Bool)) : Prop :=
  t.Extends t' ∧ ∀ result ∈ outcome.toOption, (current, result.1.logid) ∈ t'.uploaded

theorem uploaded_error (t : SyncView) (current : QsoRecord) (message : String) :
    Uploaded t current t (.error message) :=
  ⟨.refl t, by simp [Except.toOption]⟩

theorem uploaded_ok (t : SyncView) (current : QsoRecord) (result : QrzUploadResult) (dup : Bool) :
    Uploaded t current (t.upload current result) (.ok (result, dup)) :=
  ⟨t.extends_upload current result, by simp [Except.toOption, SyncView.upload]⟩

theorem retryWithReplace_obeys {current : QsoRecord} {bookOwner : Option String}
    (hseen : current ∈ t.seen) (hact : current.deletedAt = none) :
    (retryWithReplace current bookOwner).Obeys syncContract (Uploaded t current) t := by
  refine obeys_qrz.mpr ⟨.uploadQsoWithReplace hseen hact, fun r => ?_⟩
  rcases r with e | result
  · exact uploaded_error t current _
  · exact uploaded_ok t current result true

theorem uploadSingleQso_obeys {current : QsoRecord} {bookOwner : Option String}
    (hseen : current ∈ t.seen) (hact : current.deletedAt = none) :
    (uploadSingleQso current bookOwner).Obeys syncContract (Uploaded t current) t := by
  rw [uploadSingleQso]
  split
  · refine obeys_qrz.mpr ⟨.replaceQso hseen hact, fun r => ?_⟩
    rcases r with e | result
    · exact uploaded_error t current _
    · exact uploaded_ok t current result false
  · refine obeys_qrz.mpr ⟨.uploadQso hseen hact, fun r => ?_⟩
    rcases r with e | result
    · cases e with
      | apiError reason =>
          show Prog.Obeys _ _ (if isDuplicateError reason then _ else _) _
          split
          · exact retryWithReplace_obeys hseen hact
          · exact uploaded_error t current _
      | _ => exact uploaded_error t current _
    · exact uploaded_ok t current result false

theorem syncSingleQso_obeys (qso : QsoRecord) (bookOwner : Option String) :
    (syncSingleQso qso bookOwner).Obeys syncContract (fun t' _ => t.Extends t') t := by
  refine obeys_store.mpr ⟨.getQso _, fun r => ?_⟩
  rcases r with e | _ | current
  · exact .refl t
  · exact .refl t
  show Prog.Obeys _ _ (if current.deletedAt.isSome then _ else _) _
  have hext : t.Extends (t.nextStore (.getQso qso.localId) (.ok (some current))) :=
    ⟨Set.subset_insert current _, rfl, subset_rfl, subset_rfl⟩
  split
  · exact hext
  rename_i hact
  rw [Option.not_isSome_iff_eq_none] at hact
  have hseen : current ∈ (t.nextStore (.getQso qso.localId) (.ok (some current))).seen :=
    Set.mem_insert current t.seen
  rw [Prog.obeys_bind]
  refine (uploadSingleQso_obeys hseen hact).mono ?_
  rintro t' (e | ⟨result, dup⟩) ⟨ht', hup⟩
  · exact hext.trans ht'
  · have hpatch := SyncAllowed.patch (ht'.seen hseen) hact (hup _ rfl) result.logid_ne
    refine obeys_store.mpr ⟨hpatch, fun r => ?_⟩
    rcases r with e | _ | patched
    · exact hext.trans ht'
    · exact hext.trans ht'
    · exact hext.trans ht'

theorem uploadAll_obeys (bookOwner : Option String) (qsos : List QsoRecord)
    (uploadedLogids : Finset String) (counters : SyncCounters) :
    (uploadAll bookOwner qsos uploadedLogids counters).Obeys syncContract
      (fun t' _ => t.Extends t') t := by
  induction qsos generalizing t uploadedLogids counters with
  | nil => exact .refl t
  | cons qso rest ih =>
      refine Prog.obeys_bind.mpr ((syncSingleQso_obeys qso bookOwner).mono fun t' outcome ht' => ?_)
      exact (ih _ _).mono fun t'' _ ht'' => ht'.trans ht''

theorem uploadPhase_obeys (bookOwner : Option String) (selection : UploadSelection)
    (counters : SyncCounters) :
    (uploadPhase bookOwner selection counters).Obeys syncContract
      (fun t' _ => t.Extends t') t := by
  have hne : ({} : QsoListQuery) ≠ { deletedFilter := .all } := by decide
  refine obeys_send.mpr (obeys_store.mpr ⟨.listQsos fun h => absurd h hne, fun r => ?_⟩)
  rcases r with e | qsos
  · exact uploadAll_obeys _ _ _ _
  · refine (uploadAll_obeys _ _ _ _).mono fun t' _ ht' => .trans ?_ ht'
    exact ⟨Set.subset_union_left, if_neg (t := some qsos) hne, subset_rfl, subset_rfl⟩

/-! ### Download -/

theorem mergeWithLocal_obeys {mine remote : QsoRecord} (policy : ConflictPolicy)
    (counters : SyncCounters) (hseen : mine ∈ t.seen) (hw : t.Wanted remote) :
    (mergeWithLocal mine (extractQrzLogid remote) remote policy counters).Obeys syncContract
      (fun t' _ => t' = t) t := by
  have swap : ∀ {replacement : QsoRecord} {f : Except StorageError Bool → Program SyncCounters},
      Decision t mine replacement → (∀ r, (f r).Obeys syncContract (fun t' _ => t' = t) t) →
      (store (.updateQsoIfUnchanged mine replacement) >>= f).Obeys syncContract
        (fun t' _ => t' = t) t :=
    fun hd hf => obeys_store.mpr ⟨.swap hseen hd, fun r => by cases r <;> exact hf _⟩
  rw [mergeWithLocal]
  split
  · exact swap (.overwrite hw) fun r => rfl
  · exact swap (.link hw) fun r => rfl
  · cases policy with
    | lastWriteWins =>
        rw [resolveModifiedConflict]
        dsimp only
        split
        · exact swap (.overwrite hw) fun r => rfl
        · exact rfl
    | unspecified => exact swap (.mark hw) fun r => rfl
    | flagForReview => exact swap (.mark hw) fun r => rfl
  · exact rfl
  · exact rfl

/-- Every record the indexes can return has been seen. -/
def LocalIndexes.Within (indexes : LocalIndexes) (seen : Set QsoRecord) : Prop :=
  (∀ logid r, indexes.byQrzLogid logid = some r → r ∈ seen)
    ∧ ∀ key, ∀ r ∈ indexes.byKey key, r ∈ seen

theorem LocalIndexes.Within.match {indexes : LocalIndexes} {seen : Set QsoRecord}
    (h : indexes.Within seen) {logid : Option String} {remote mine : QsoRecord}
    (hm : indexes.match logid remote = some mine) : mine ∈ seen := by
  rw [LocalIndexes.match, Option.or_eq_some_iff] at hm
  rcases hm with hm | ⟨-, hm⟩
  · obtain ⟨l, -, hl⟩ := Option.bind_eq_some_iff.mp hm
    exact h.1 l mine hl
  · obtain ⟨ts, -, hts⟩ := Option.bind_eq_some_iff.mp hm
    exact h.2 _ mine (List.mem_of_find?_eq_some hts)

theorem LocalIndexes.Within.add {indexes : LocalIndexes} {seen seen' : Set QsoRecord}
    (h : indexes.Within seen) (hsub : seen ⊆ seen') (logid : Option String) {r : QsoRecord}
    (hr : r ∈ seen') : (indexes.add logid r).Within seen' := by
  refine ⟨fun l r' hl => ?_, fun key r' hr' => ?_⟩
  · cases logid with
    | none => exact hsub (h.1 l r' hl)
    | some l' =>
        simp only [LocalIndexes.add, LogidIndex.insert, Option.elim, Function.update_apply] at hl
        split at hl
        · cases hl
          exact hr
        · exact hsub (h.1 l r' hl)
  · simp only [LocalIndexes.add, FuzzyIndex.push, Function.update_apply] at hr'
    split at hr'
    · rcases List.mem_append.mp hr' with hr' | hr'
      · exact hsub (h.2 _ r' hr')
      · rwa [List.mem_singleton.mp hr']
    · exact hsub (h.2 _ r' hr')

theorem foldl_add_within {qsos : List QsoRecord} {seen : Set QsoRecord} (h : ∀ r ∈ qsos, r ∈ seen)
    {indexes : LocalIndexes} (hi : indexes.Within seen) :
    (qsos.foldl (fun indexes qso => indexes.add (nonEmpty qso.qrzLogid) qso) indexes).Within
      seen := by
  induction qsos generalizing indexes with
  | nil => exact hi
  | cons q qsos ih =>
      obtain ⟨hq, hqs⟩ := List.forall_mem_cons.mp h
      exact ih hqs (hi.add subset_rfl _ hq)

theorem buildLocalIndexes_within {qsos : List QsoRecord} {seen : Set QsoRecord}
    (h : ∀ r ∈ qsos, r ∈ seen) : (buildLocalIndexes qsos).Within seen := by
  refine foldl_add_within h ⟨?_, ?_⟩
  · rintro logid r ⟨⟩
  · exact fun key r hr => absurd hr List.not_mem_nil

/-- What the download loop keeps: the records it can match have been seen. -/
def Downloading (t : SyncView) (t' : SyncView) (st : DownloadState) : Prop :=
  t.Extends t' ∧ st.indexes.Within t'.seen

theorem insertNewRemoteQso_obeys {remote : QsoRecord} {st : DownloadState} (hw : t.Wanted remote)
    (hi : st.indexes.Within t.seen) :
    (insertNewRemoteQso remote (extractQrzLogid remote) st).Obeys syncContract
      (Downloading t) t := by
  have hins : ∀ localId, (insertRow (newRow remote (extractQrzLogid remote) localId)
      (extractQrzLogid remote) st).Obeys syncContract (Downloading t) t := by
    intro localId
    refine obeys_store.mpr ⟨.insert hw, fun r => ?_⟩
    rcases r with e | ⟨⟩
    · exact ⟨.refl t, hi⟩
    · exact ⟨t.extends_insert _, hi.add (Set.subset_insert _ _) _ (Set.mem_insert _ _)⟩
  rw [insertNewRemoteQso]
  split
  · exact obeys_newLocalId.mpr hins
  · exact hins _

theorem processRemoteQso_obeys {ctx : DownloadContext} {remote : QsoRecord} {st : DownloadState}
    (hf : remote ∈ t.fetched)
    (hl : ∃ rows, t.loaded = some rows ∧ ctx.deletedLogids = (partitionLocalForSync rows).2)
    (hi : st.indexes.Within t.seen) :
    (processRemoteQso ctx remote st).Obeys syncContract (Downloading t) t := by
  have hskip : ∀ counters, Downloading t t { st with counters } := fun _ => ⟨.refl t, hi⟩
  rw [processRemoteQso]
  dsimp only
  split
  · exact hskip _
  split
  · exact hskip _
  split
  · exact hskip _
  rename_i hdel
  have hw : t.Wanted remote := by
    obtain ⟨rows, hrows, hctx⟩ := hl
    refine ⟨hf, rows, hrows, fun logid hlogid hmem => hdel ?_⟩
    rw [Option.mem_def.mp hlogid, Option.any_some, hctx]
    exact decide_eq_true hmem
  split
  · exact insertNewRemoteQso_obeys hw hi
  · rename_i mine hm
    refine Prog.obeys_bind.mpr ((mergeWithLocal_obeys _ _ (hi.match hm) hw).mono ?_)
    rintro t' counters rfl
    exact hskip counters

theorem processRemoteQsos_obeys {ctx : DownloadContext} {remotes : List QsoRecord}
    {st : DownloadState} (hf : ∀ remote ∈ remotes, remote ∈ t.fetched)
    (hl : ∃ rows, t.loaded = some rows ∧ ctx.deletedLogids = (partitionLocalForSync rows).2)
    (hi : st.indexes.Within t.seen) :
    (processRemoteQsos ctx remotes st).Obeys syncContract (Downloading t) t := by
  induction remotes generalizing t st with
  | nil => exact ⟨.refl t, hi⟩
  | cons remote rest ih =>
      obtain ⟨hr, hrest⟩ := List.forall_mem_cons.mp hf
      rw [processRemoteQsos, Prog.obeys_bind]
      refine (processRemoteQso_obeys hr hl hi).mono ?_
      rintro t' st' ⟨ht', hi'⟩
      have hl' : ∃ rows, t'.loaded = some rows ∧
          ctx.deletedLogids = (partitionLocalForSync rows).2 := by rwa [ht'.loaded]
      refine (ih (fun r hr => ht'.fetched (hrest r hr)) hl' hi').mono ?_
      exact fun t'' st'' h => ⟨ht'.trans h.1, h.2⟩

theorem fetchRemoteQsosForDownload_obeys (since : Option String) (remoteQsoCount : Option ℕ)
    (localQsoCount : ℕ) (counters : SyncCounters) :
    (fetchRemoteQsosForDownload since remoteQsoCount localQsoCount counters).Obeys syncContract
      (fun t' outcome => t.Extends t' ∧
        ∀ remotes ∈ outcome.toOption, ∀ remote ∈ remotes, remote ∈ t'.fetched) t := by
  have hfetch : ∀ rows : List QsoRecord,
      t.Extends { t with fetched := t.fetched ∪ { r | r ∈ rows } } := fun rows =>
    ⟨subset_rfl, rfl, Set.subset_union_left, subset_rfl⟩
  refine obeys_qrz.mpr ⟨.fetchQsos _, fun r => ?_⟩
  rcases r with e | (rows : List QsoRecord)
  · exact ⟨.refl t, by simp [Except.toOption]⟩
  show Prog.Obeys _ _ (if needsFullFetch rows since remoteQsoCount localQsoCount then _ else _) _
  by_cases hneed : needsFullFetch rows since remoteQsoCount localQsoCount = true
  · rw [if_pos hneed]
    refine obeys_send.mpr ⟨.fetchQsos _, fun r => ?_⟩
    rcases r with e | rows'
    · exact ⟨hfetch rows, by simp [Except.toOption]⟩
    · refine ⟨(hfetch rows).trans ⟨subset_rfl, rfl, Set.subset_union_left, subset_rfl⟩, ?_⟩
      intro remotes hr remote hmem
      cases hr
      exact Set.mem_union_right _ hmem
  · rw [if_neg hneed]
    refine ⟨hfetch rows, ?_⟩
    intro remotes hr remote hmem
    cases hr
    exact Set.mem_union_right _ hmem

theorem downloadPhase_obeys (formatDate : ℤ → Option String) (metadata : SyncMetadata)
    (remoteQsoCount : Option ℕ) (fullSync : Bool) (policy : ConflictPolicy)
    (fresh : Finset String) (counters : SyncCounters) (hl : t.loaded = none) :
    (downloadPhase formatDate metadata remoteQsoCount fullSync policy fresh counters).Obeys
      syncContract (fun t' outcome => outcome.isSome → t'.loaded.isSome) t := by
  refine obeys_send.mpr (obeys_store.mpr ⟨.listQsos fun _ => hl, fun r => ?_⟩)
  rcases r with e | rows
  · exact obeys_send.mpr (by simp)
  set t₁ : SyncView := t.nextStore (.listQsos { deletedFilter := .all }) (.ok rows)
  have hloaded : t₁.loaded = some rows := rfl
  have hseen : ∀ r ∈ (partitionLocalForSync rows).1, r ∈ t₁.seen := fun r hr =>
    Set.mem_union_right _ (List.mem_of_mem_filter hr)
  refine Prog.obeys_bind.mpr ((fetchRemoteQsosForDownload_obeys _ _ _ _).mono ?_)
  rintro t₂ (e | remotes) ⟨ht₂, hf⟩
  · exact obeys_send.mpr (by simp)
  refine obeys_send.mpr (Prog.obeys_bind.mpr ?_)
  refine (processRemoteQsos_obeys (hf remotes rfl) ⟨rows, ht₂.loaded.trans hloaded, rfl⟩
    (buildLocalIndexes_within fun r hr => ht₂.seen (hseen r hr))).mono ?_
  rintro t₃ st ⟨ht₃, -⟩ -
  rw [ht₃.loaded, ht₂.loaded, hloaded]
  rfl

/-! ### Deletes and metadata -/

/-- What the remote deletes keep: the store has been loaded, and the deleted
rows they were decided on are still known. -/
def Deleting (qsos : List QsoRecord) (t : SyncView) : Prop :=
  t.loaded.isSome ∧ ∀ qso ∈ qsos, qso ∈ t.trash

theorem completeRemoteDelete_obeys {qsos : List QsoRecord} {deletedSnapshot : QsoRecord}
    (attempts : ℕ) (hmem : deletedSnapshot ∈ qsos) (hd : Deleting qsos t) :
    (completeRemoteDelete deletedSnapshot attempts).Obeys syncContract
      (fun t' _ => Deleting qsos t') t := by
  induction attempts generalizing t with
  | zero => exact hd
  | succ attempts ih =>
      refine obeys_store.mpr ⟨.getQso _, fun r => ?_⟩
      rcases r with e | _ | current
      · exact hd
      · exact hd
      have hd' : Deleting qsos
          (t.nextStore (.getQso deletedSnapshot.localId) (.ok (some current))) :=
        ⟨hd.1, fun qso hqso => .inl (hd.2 qso hqso)⟩
      show Prog.Obeys _ _ (if _ then _ else _) _
      split
      · exact hd'
      have hclear : Decision _ current (cleared current) :=
        .clear hd'.1 (.inr ⟨rfl, deletedSnapshot, hd.2 _ hmem, rfl⟩)
      refine obeys_store.mpr ⟨.swap (Set.mem_insert _ _) hclear, fun r => ?_⟩
      rcases r with e | b
      · exact hd'
      · cases b with
        | true => exact hd'
        | false => exact ih hd'

theorem pushRemoteDeletes_obeys {qsos rest : List QsoRecord} (counters : SyncCounters)
    (hsub : ∀ qso ∈ rest, qso ∈ qsos) (hd : Deleting qsos t) :
    (pushRemoteDeletes rest counters).Obeys syncContract (fun t' _ => Deleting qsos t') t := by
  induction rest generalizing t counters with
  | nil => exact hd
  | cons qso rest ih =>
      obtain ⟨hqso, hrest⟩ := List.forall_mem_cons.mp hsub
      refine obeys_qrz.mpr ⟨.deleteQso _, fun r => ?_⟩
      rcases r with e | ⟨⟩
      · exact ih _ hrest hd
      · refine Prog.obeys_bind.mpr ((completeRemoteDelete_obeys 3 hqso hd).mono ?_)
        exact fun t' outcome hd' => ih _ hrest hd'

theorem pushPendingRemoteDeletes_obeys (counters : SyncCounters) (hl : t.loaded.isSome) :
    (pushPendingRemoteDeletes counters).Obeys syncContract (fun _ _ => True) t := by
  have hne : ({ deletedFilter := .deletedOnly } : QsoListQuery) ≠ { deletedFilter := .all } := by
    decide
  refine obeys_store.mpr ⟨.listQsos fun h => absurd h hne, fun r => ?_⟩
  rcases r with e | (rows : List QsoRecord)
  · trivial
  have hd : Deleting (rows.filter awaitsRemoteDelete)
      (t.nextStore (.listQsos { deletedFilter := .deletedOnly }) (.ok rows)) := by
    refine ⟨?_, fun qso hqso => .inr ⟨List.mem_of_mem_filter hqso, rfl⟩⟩
    simpa only [SyncView.nextStore, if_neg hne] using hl
  show Prog.Obeys _ _ (if _ then _ else _) _
  split
  · trivial
  · refine obeys_send.mpr ((pushRemoteDeletes_obeys _ (fun _ h => h) hd).mono ?_)
    exact fun t' _ _ => trivial

theorem updateMetadata_obeys (prevMetadata : SyncMetadata)
    (statusResult : Except QrzLogbookError QrzLogbookStatus) (counters : SyncCounters) :
    (updateMetadata prevMetadata statusResult counters).Obeys syncContract
      (fun _ _ => True) t := by
  have hupsert : ∀ metadata (counters : SyncCounters),
      (storeMetadata metadata counters).Obeys syncContract (fun _ _ => True) t := by
    intro metadata counters
    refine obeys_store.mpr ⟨.upsertSyncMetadata _, fun r => ?_⟩
    rcases r with e | ⟨⟩ <;> trivial
  refine obeys_utcNow.mpr fun now => ?_
  rcases statusResult with e | status
  · refine obeys_store.mpr ⟨.qsoCounts, fun r => ?_⟩
    rcases r with e | counts <;> exact hupsert _ _
  · exact hupsert _ _

theorem finishSync_obeys (bookOwner : Option String) (metadata : SyncMetadata)
    (statusResult : Except QrzLogbookError QrzLogbookStatus) (counters : SyncCounters)
    (hl : t.loaded.isSome) :
    (finishSync bookOwner metadata statusResult counters).Obeys syncContract
      (fun _ _ => True) t := by
  refine Prog.obeys_bind.mpr ((uploadPhase_obeys _ _ _).mono ?_)
  rintro t₁ ⟨_, counters₁⟩ ht₁
  refine Prog.obeys_bind.mpr ((pushPendingRemoteDeletes_obeys _ (ht₁.loaded ▸ hl)).mono ?_)
  rintro t₂ counters₂ -
  refine Prog.obeys_bind.mpr ((updateMetadata_obeys _ _ _).mono ?_)
  rintro t₃ counters₃ -
  exact ⟨.send _, fun _ => trivial⟩

theorem downloadAndFinish_obeys (formatDate : ℤ → Option String) (fullSync : Bool)
    (policy : ConflictPolicy) (metadata : SyncMetadata)
    (statusResult : Except QrzLogbookError QrzLogbookStatus) (fresh : Finset String)
    (counters : SyncCounters) (hl : t.loaded = none) :
    (downloadAndFinish formatDate fullSync policy metadata statusResult fresh counters).Obeys
      syncContract (fun _ _ => True) t := by
  refine Prog.obeys_bind.mpr ((downloadPhase_obeys _ _ _ _ _ _ _ hl).mono ?_)
  rintro t' (_ | counters) hl
  · trivial
  · exact finishSync_obeys _ _ _ _ (hl rfl)

/-- **The sync obeys its contract**, whatever the store and QRZ answer. -/
theorem executeSync_obeys (formatDate : ℤ → Option String) (fullSync : Bool)
    (policy : ConflictPolicy) :
    (executeSync formatDate fullSync policy).Obeys syncContract (fun _ _ => True) .start := by
  refine obeys_store.mpr ⟨.getSyncMetadata, fun r => ?_⟩
  rcases r with e | metadata
  all_goals
    refine obeys_qrz.mpr ⟨.fetchStatus, fun statusResult => ?_⟩
    refine Prog.obeys_bind.mpr ?_
    rw [uploadBeforeDownload]
    split
    · exact downloadAndFinish_obeys _ _ _ _ _ _ _ rfl
    · exact (uploadPhase_obeys _ _ _).mono fun t' _ ht' =>
        downloadAndFinish_obeys _ _ _ _ _ _ _ ht'.loaded

end Obeys

end QsoRipper
