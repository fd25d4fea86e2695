/-
QsoRipper/Server/Download.lean

The download loop as a relation on what it works with: the rows the indexes
were built from, and the store.

The indexes are snapshots.  They grow by the rows the loop inserts, and a row
it merges keeps its old entry, so at every moment they are the indexes of one
list: the rows that were active at the start, then the inserted ones.  A
record is matched in that list, and a merge goes in only while the stored row
still equals the entry.
-/
import QsoRipper.Lib.Contract
import QsoRipper.Server.Sync

namespace QsoRipper

open Interaction MemoryState

/-! ### The indexes as a list -/

/-- Would the fuzzy match accept the row for the record? -/
def similar (remote row : QsoRecord) : Bool :=
  decide (fuzzyKey row = fuzzyKey remote) && remote.utcTimestamp.any fun remoteTs =>
    row.utcTimestamp.any fun ts => withinTolerance ts.seconds remoteTs.seconds

/-- The row a record is matched to when the indexes hold `rows`. -/
def matchIn (rows : List QsoRecord) (remote : QsoRecord) : Option QsoRecord :=
  (buildLocalIndexes rows).match (extractQrzLogid remote) remote

/-- Does the row carry the logid of the record? -/
def HasLogidOf (remote row : QsoRecord) : Prop :=
  ∃ logid, extractQrzLogid remote = some logid ∧ row.qrzLogid = some logid

instance (remote row : QsoRecord) : Decidable (HasLogidOf remote row) :=
  match h : extractQrzLogid remote with
  | some logid => decidable_of_iff (row.qrzLogid = some logid) (by simp [HasLogidOf, h])
  | none => .isFalse (by simp [HasLogidOf, h])

variable {rows ins : List QsoRecord} {remote c : QsoRecord}

theorem buildLocalIndexes_snoc (rows : List QsoRecord) (q : QsoRecord) :
    buildLocalIndexes (rows ++ [q]) = (buildLocalIndexes rows).add (nonEmpty q.qrzLogid) q := by
  rw [buildLocalIndexes, List.foldl_append]
  rfl

/-- The fuzzy index files the rows by key, in order. -/
theorem byKey_buildLocalIndexes (rows : List QsoRecord) (key : FuzzyKey) :
    (buildLocalIndexes rows).byKey key = rows.filter fun q => decide (fuzzyKey q = key) := by
  induction rows using List.reverseRecOn with
  | nil => rfl
  | append_singleton rows q ih =>
      rw [buildLocalIndexes_snoc, List.filter_append, ← ih]
      show Function.update _ _ _ key = _
      rw [Function.update_apply]
      split
      · rename_i hkey
        simp [hkey]
      · rename_i hkey
        simp [Ne.symm hkey]

/-- The logid index has the last row with a logid. -/
theorem byQrzLogid_buildLocalIndexes (rows : List QsoRecord) {logid : String} (hne : logid ≠ "") :
    (buildLocalIndexes rows).byQrzLogid logid
      = rows.reverse.find? fun q => decide (q.qrzLogid = some logid) := by
  induction rows using List.reverseRecOn with
  | nil => rfl
  | append_singleton rows q ih =>
      rw [buildLocalIndexes_snoc, List.reverse_append, List.reverse_singleton,
        List.singleton_append, List.find?_cons, ← ih]
      cases hq : nonEmpty q.qrzLogid with
      | none =>
          have hnot : q.qrzLogid ≠ some logid := by
            intro h
            rw [h, nonEmpty_some hne] at hq
            cases hq
          rw [decide_eq_false hnot]
          rfl
      | some logid' =>
          have hfield := (nonEmpty_eq_some.mp hq).1
          show Function.update _ _ _ logid = _
          rw [Function.update_apply]
          split
          · rename_i heq
            rw [decide_eq_true (hfield.trans (by rw [heq]))]
          · rename_i heq
            rw [decide_eq_false]
            rw [hfield]
            exact fun h => heq (Option.some.inj h).symm

/-- A match in a list: the last row with the logid, else the first similar
row. -/
theorem matchIn_eq (rows : List QsoRecord) (remote : QsoRecord) :
    matchIn rows remote
      = (rows.reverse.find? fun q => decide (HasLogidOf remote q)).or (rows.find? (similar remote)) := by
  have hfuzzy : fuzzyMatch remote (buildLocalIndexes rows).byKey = rows.find? (similar remote) := by
    rw [fuzzyMatch]
    cases hts : remote.utcTimestamp with
    | none =>
        symm
        simp [similar, hts]
    | some remoteTs =>
        rw [Option.bind_some, byKey_buildLocalIndexes, List.find?_filter]
        congr 1
        funext q
        simp [similar, hts]
  rw [matchIn, LocalIndexes.match, hfuzzy]
  cases hl : extractQrzLogid remote with
  | none =>
      have hnone : (rows.reverse.find? fun q => decide (HasLogidOf remote q)) = none := by
        simp [HasLogidOf, hl]
      rw [hnone]
      rfl
  | some logid =>
      rw [Option.bind_some, byQrzLogid_buildLocalIndexes rows (extractQrzLogid_ne_empty hl)]
      congr 2
      funext q
      simp [HasLogidOf, hl]

/-- A matched row is in the list, and it has the logid or is similar. -/
theorem matchIn_eq_some (h : matchIn rows remote = some c) :
    c ∈ rows ∧ (HasLogidOf remote c
      ∨ similar remote c = true ∧ ∀ q ∈ rows, ¬ HasLogidOf remote q) := by
  rw [matchIn_eq, Option.or_eq_some_iff] at h
  rcases h with h | ⟨hnone, h⟩
  · exact ⟨List.mem_reverse.mp (List.mem_of_find?_eq_some h),
      .inl (by simpa using List.find?_some h)⟩
  · refine ⟨List.mem_of_find?_eq_some h, .inr ⟨List.find?_some h, fun q hq => ?_⟩⟩
    have hnot := List.find?_eq_none.mp hnone q (List.mem_reverse.mpr hq)
    simpa using hnot

/-- A record is unmatched when no row has its logid or is similar. -/
theorem matchIn_eq_none :
    matchIn rows remote = none ↔ ∀ q ∈ rows, ¬ HasLogidOf remote q ∧ similar remote q = false := by
  rw [matchIn_eq, Option.or_eq_none_iff, List.find?_eq_none, List.find?_eq_none]
  constructor
  · rintro ⟨hlogid, hsimilar⟩ q hq
    have h₁ := hlogid q (List.mem_reverse.mpr hq)
    exact ⟨by simpa using h₁, by simpa using hsimilar q hq⟩
  · intro h
    refine ⟨fun q hq => ?_, fun q hq => ?_⟩
    · simpa using (h q (List.mem_reverse.mp hq)).1
    · simpa using (h q hq).2

/-- Later rows without the logid are only matched when no earlier one is. -/
theorem matchIn_append (h : ∀ q ∈ ins, ¬ HasLogidOf remote q) :
    matchIn (rows ++ ins) remote = (matchIn rows remote).or (ins.find? (similar remote)) := by
  have hnone : (ins.reverse.find? fun q => decide (HasLogidOf remote q)) = none := by
    rw [List.find?_eq_none]
    intro q hq
    simpa using h q (List.mem_reverse.mp hq)
  rw [matchIn_eq, matchIn_eq, List.reverse_append, List.find?_append, hnone, Option.none_or,
    List.find?_append, Option.or_assoc]

/-- A match is not lost when rows are added. -/
theorem isSome_matchIn_append (h : (matchIn rows remote).isSome) :
    (matchIn (rows ++ ins) remote).isSome := by
  rw [Option.isSome_iff_ne_none, ne_eq, matchIn_eq_none] at h ⊢
  exact fun hall => h fun q hq => hall q (List.mem_append_left _ hq)

/-! ### What a merge swaps in -/

/-- The replacement `resolve_modified_conflict` offers for the entry. -/
def conflictResult (policy : ConflictPolicy) (mine remote : QsoRecord) : Option QsoRecord :=
  match policy with
  | .lastWriteWins =>
      if mine.updatedAt.elim 0 (·.seconds) ≤ remote.updatedAt.elim 0 (·.seconds) then
        some (overwritten mine remote (extractQrzLogid remote))
      else none
  | .unspecified | .flagForReview => some (conflicted mine)

/-- The replacement `merge_with_local` offers for the entry, if it writes. -/
def mergeResult (policy : ConflictPolicy) (mine remote : QsoRecord) : Option QsoRecord :=
  match SyncStatus.tryFrom mine.syncStatus with
  | some .synced => some (overwritten mine remote (extractQrzLogid remote))
  | some .localOnly => some (linked mine remote (extractQrzLogid remote))
  | some .modified => conflictResult policy mine remote
  | some .conflict | none => none

/-- A replacement is the entry overwritten, linked or marked. -/
theorem mergeResult_cases {policy : ConflictPolicy} {mine q : QsoRecord}
    (h : mergeResult policy mine remote = some q) :
    q = overwritten mine remote (extractQrzLogid remote)
      ∨ q = linked mine remote (extractQrzLogid remote) ∨ q = conflicted mine := by
  rw [mergeResult] at h
  split at h
  · cases h
    exact .inl rfl
  · cases h
    exact .inr (.inl rfl)
  · cases policy with
    | lastWriteWins =>
        rw [conflictResult] at h
        split at h
        · cases h
          exact .inl rfl
        · cases h
    | unspecified =>
        cases h
        exact .inr (.inr rfl)
    | flagForReview =>
        cases h
        exact .inr (.inr rfl)
  · cases h
  · cases h

/-- A replacement keeps the identity and the tombstone of the entry. -/
theorem mergeResult_frame {policy : ConflictPolicy} {mine q : QsoRecord}
    (h : mergeResult policy mine remote = some q) :
    q.localId = mine.localId ∧ q.deletedAt = mine.deletedAt := by
  rcases mergeResult_cases h with rfl | rfl | rfl <;> exact ⟨rfl, rfl⟩

section Run

variable {ε : Type} (env : Environment ε)

/-- A merge run alone is the compare-and-swap of its replacement. -/
theorem mergeWithLocal_run (policy : ConflictPolicy) (mine remote : QsoRecord)
    (counters : SyncCounters) (w : World ε) :
    ((mergeWithLocal mine (extractQrzLogid remote) remote policy counters).run (handle env) w).2
      = ((mergeResult policy mine remote).elim w.1 fun q => (w.1.updateQsoIfUnchanged mine q).2,
          w.2) := by
  rw [mergeWithLocal, mergeResult]
  generalize SyncStatus.tryFrom mine.syncStatus = status
  rcases status with _ | status
  · rfl
  cases status with
  | synced => rfl
  | localOnly => rfl
  | conflict => rfl
  | modified =>
      cases policy with
      | lastWriteWins =>
          show ((resolveModifiedConflict mine remote .lastWriteWins counters).run _ _).2 = _
          rw [resolveModifiedConflict, conflictResult]
          dsimp only
          split <;> rfl
      | unspecified => rfl
      | flagForReview => rfl

end Run

/-! ### One record -/

/-- Records the loop passes over. -/
def Ignored (ctx : DownloadContext) (remote : QsoRecord) : Prop :=
  isFragment remote = true
    ∨ ∃ logid ∈ extractQrzLogid remote,
        logid ∈ ctx.freshlyUploadedLogids ∨ logid ∈ ctx.deletedLogids

instance (ctx : DownloadContext) (remote : QsoRecord) : Decidable (Ignored ctx remote) :=
  inferInstanceAs (Decidable (_ ∨ _))

/-- What one record does to the indexed rows and to the store. -/
inductive DownloadStep (ctx : DownloadContext) (remote : QsoRecord) (rows : List QsoRecord)
    (s : MemoryState) : List QsoRecord → MemoryState → Prop
  | ignore : Ignored ctx remote → DownloadStep ctx remote rows s rows s
  | insert {localId : String} :
      ¬ Ignored ctx remote → matchIn rows remote = none → s.get localId = none →
      DownloadStep ctx remote rows s (rows ++ [newRow remote (extractQrzLogid remote) localId])
        (s.put (newRow remote (extractQrzLogid remote) localId))
  | merge {c current q : QsoRecord} :
      ¬ Ignored ctx remote → matchIn rows remote = some c →
      mergeResult ctx.conflictPolicy c remote = some q → s.get c.localId = some current →
      (current == c) = true → DownloadStep ctx remote rows s rows (s.put q)
  /-- The entry is stale, or its status lets nothing be written. -/
  | keep {c : QsoRecord} :
      ¬ Ignored ctx remote → matchIn rows remote = some c →
      (∀ q, mergeResult ctx.conflictPolicy c remote = some q →
        ∀ current, s.get c.localId = some current → (current == c) = false) →
      DownloadStep ctx remote rows s rows s

/-- What a list of records does, one after the other. -/
inductive Downloads (ctx : DownloadContext) :
    List QsoRecord → List QsoRecord → MemoryState → List QsoRecord → MemoryState → Prop
  | nil {rows : List QsoRecord} {s : MemoryState} : Downloads ctx [] rows s rows s
  | cons {remote : QsoRecord} {rest rows rows₁ rows₂ : List QsoRecord} {s s₁ s₂ : MemoryState} :
      DownloadStep ctx remote rows s rows₁ s₁ → Downloads ctx rest rows₁ s₁ rows₂ s₂ →
      Downloads ctx (remote :: rest) rows s rows₂ s₂

/-- Is the event an error of the store? -/
def isStorageError : Event Cmd Cmd.Answer → Bool
  | ⟨.store _, .error _⟩ => true
  | _ => false

section Run

variable {ε : Type} {env : Environment ε} {ctx : DownloadContext}

theorem nonEmpty_newRow (remote : QsoRecord) (localId : String) :
    nonEmpty (newRow remote (extractQrzLogid remote) localId).qrzLogid = extractQrzLogid remote := by
  show nonEmpty ((extractQrzLogid remote).or remote.qrzLogid) = _
  cases h : extractQrzLogid remote with
  | some logid => rw [Option.some_or, nonEmpty_some (extractQrzLogid_ne_empty h)]
  | none =>
      rw [extractQrzLogid, Option.or_eq_none_iff] at h
      rw [Option.none_or, h.1]

variable (env) in
/-- An insert that the store does not reject. -/
theorem insertRow_step {st : DownloadState} {rows : List QsoRecord} {w : World ε}
    {localId : String} (hst : st.indexes = buildLocalIndexes rows)
    (hok : ∀ m ∈ (insertRow (newRow remote (extractQrzLogid remote) localId)
      (extractQrzLogid remote) st).trace (handle env) w, isStorageError m.2 = false) :
    w.1.get localId = none
      ∧ ((insertRow (newRow remote (extractQrzLogid remote) localId)
          (extractQrzLogid remote) st).run (handle env) w).1.indexes
        = buildLocalIndexes (rows ++ [newRow remote (extractQrzLogid remote) localId])
      ∧ ((insertRow (newRow remote (extractQrzLogid remote) localId)
          (extractQrzLogid remote) st).run (handle env) w).2.1
        = w.1.put (newRow remote (extractQrzLogid remote) localId) := by
  have hq : nonEmpty (newRow remote (extractQrzLogid remote) localId).qrzLogid
      = extractQrzLogid remote := nonEmpty_newRow remote localId
  generalize hrow : newRow remote (extractQrzLogid remote) localId = q at hok hq ⊢
  have hid : q.localId = localId := by rw [← hrow]; rfl
  rcases w.1.insertQso_cases q with ⟨hfree, hins⟩ | hins
  · have hexec : exec (.insertQso q) w.1 = (.ok (), w.1.put q) := hins
    rw [insertRow, run_store, hexec]
    refine ⟨hid ▸ hfree, ?_, rfl⟩
    rw [buildLocalIndexes_snoc, hq, ← hst]
    rfl
  · have herr := hok (w, ⟨.store (.insertQso q), (w.1.insertQso q).1⟩) List.mem_cons_self
    rw [hins] at herr
    cases herr

theorem processRemoteQso_step {st : DownloadState} {rows : List QsoRecord} {w : World ε}
    (hst : st.indexes = buildLocalIndexes rows)
    (hok : ∀ m ∈ (processRemoteQso ctx remote st).trace (handle env) w,
      isStorageError m.2 = false) :
    ∃ rows', ((processRemoteQso ctx remote st).run (handle env) w).1.indexes
        = buildLocalIndexes rows'
      ∧ DownloadStep ctx remote rows w.1 rows'
          ((processRemoteQso ctx remote st).run (handle env) w).2.1 := by
  have hmatch : st.indexes.match (extractQrzLogid remote) remote = matchIn rows remote := by
    rw [hst, matchIn]
  rw [processRemoteQso] at hok ⊢
  dsimp only at hok ⊢
  split at hok
  · rename_i hfrag
    rw [if_pos hfrag]
    exact ⟨rows, hst, .ignore (.inl hfrag)⟩
  rename_i hfrag
  rw [if_neg hfrag]
  split at hok
  · rename_i hfresh
    rw [if_pos hfresh]
    obtain ⟨logid, hl, hmem⟩ := (Option.any_eq_true _ _).mp hfresh
    exact ⟨rows, hst, .ignore (.inr ⟨logid, hl, .inl (of_decide_eq_true hmem)⟩)⟩
  rename_i hfresh
  rw [if_neg hfresh]
  split at hok
  · rename_i hdel
    rw [if_pos hdel]
    obtain ⟨logid, hl, hmem⟩ := (Option.any_eq_true _ _).mp hdel
    exact ⟨rows, hst, .ignore (.inr ⟨logid, hl, .inr (of_decide_eq_true hmem)⟩)⟩
  rename_i hdel
  rw [if_neg hdel]
  have hnot : ¬ Ignored ctx remote := by
    rintro (h | ⟨logid, hl, h | h⟩)
    · exact hfrag h
    · exact hfresh ((Option.any_eq_true _ _).mpr ⟨logid, hl, decide_eq_true h⟩)
    · exact hdel ((Option.any_eq_true _ _).mpr ⟨logid, hl, decide_eq_true h⟩)
  rw [hmatch] at hok ⊢
  cases hm : matchIn rows remote with
  | none =>
      rw [hm] at hok
      dsimp only at hok ⊢
      rw [insertNewRemoteQso] at hok ⊢
      split at hok
      · rename_i hempty
        rw [if_pos hempty]
        have hrow := insertRow_step env (w := (w.1, (env.newLocalId w.2).2)) hst
          fun m hm => hok m (List.mem_cons_of_mem _ hm)
        exact ⟨_, hrow.2.1, hrow.2.2 ▸ .insert hnot hm hrow.1⟩
      · rename_i hempty
        rw [if_neg hempty]
        have hrow := insertRow_step env hst hok
        exact ⟨_, hrow.2.1, hrow.2.2 ▸ .insert hnot hm hrow.1⟩
  | some c =>
      dsimp only
      rw [Prog.run_bind, mergeWithLocal_run]
      refine ⟨rows, hst, ?_⟩
      show DownloadStep ctx remote rows w.1 rows ((mergeResult ctx.conflictPolicy c remote).elim w.1 _)
      cases hmerge : mergeResult ctx.conflictPolicy c remote with
      | none => exact .keep hnot hm fun q hq => by rw [hmerge] at hq; cases hq
      | some q =>
          rw [Option.elim_some]
          by_cases hstored : ∃ current, w.1.get c.localId = some current ∧ (current == c) = true
          · obtain ⟨current, hcurrent, heq⟩ := hstored
            rw [updateQsoIfUnchanged_of_beq (mergeResult_frame hmerge).1.symm hcurrent heq]
            exact .merge hnot hm hmerge hcurrent heq
          · have hne : ∀ current, w.1.get c.localId = some current → (current == c) = false := by
              intro current hcurrent
              by_contra heq
              exact hstored ⟨current, hcurrent, by simpa using heq⟩
            rw [updateQsoIfUnchanged_of_ne hne]
            exact .keep hnot hm fun _ _ => hne

/-- **The download loop**, when the store rejects nothing. -/
theorem processRemoteQsos_downloads {remotes : List QsoRecord} {st : DownloadState}
    {rows : List QsoRecord} {w : World ε} (hst : st.indexes = buildLocalIndexes rows)
    (hok : ∀ m ∈ (processRemoteQsos ctx remotes st).trace (handle env) w,
      isStorageError m.2 = false) :
    ∃ rows', ((processRemoteQsos ctx remotes st).run (handle env) w).1.indexes
        = buildLocalIndexes rows'
      ∧ Downloads ctx remotes rows w.1 rows'
          ((processRemoteQsos ctx remotes st).run (handle env) w).2.1 := by
  induction remotes generalizing st rows w with
  | nil => exact ⟨rows, hst, .nil⟩
  | cons remote rest ih =>
      rw [processRemoteQsos, Prog.trace_bind] at hok
      rw [processRemoteQsos, Prog.run_bind]
      obtain ⟨rows₁, hrows₁, hstep⟩ := processRemoteQso_step hst
        fun m hm => hok m (List.mem_append_left _ hm)
      obtain ⟨rows₂, hrows₂, hrest⟩ := ih hrows₁ fun m hm => hok m (List.mem_append_right _ hm)
      exact ⟨rows₂, hrows₂, .cons hstep hrest⟩

end Run

/-! ### What a download does to the rows -/

section Frame

variable {ctx : DownloadContext} {remotes pre rest rows' : List QsoRecord} {s s' : MemoryState}
  {id : String} {row : QsoRecord}

theorem deletedAt_of_beq {a b : QsoRecord} (h : (a == b) = true) : a.deletedAt = b.deletedAt :=
  QsoRecord.congr_of_beq h (·.deletedAt) fun _ => rfl

theorem qrzLogid_of_beq {a b : QsoRecord} (h : (a == b) = true) : a.qrzLogid = b.qrzLogid :=
  QsoRecord.congr_of_beq h (·.qrzLogid) fun _ => rfl

/-- The run of a prefix, then the rest. -/
theorem Downloads.split (h : Downloads ctx (pre ++ rest) rows s rows' s') :
    ∃ rows₁ s₁, Downloads ctx pre rows s rows₁ s₁ ∧ Downloads ctx rest rows₁ s₁ rows' s' := by
  induction pre generalizing rows s with
  | nil => exact ⟨rows, s, .nil, h⟩
  | cons remote pre ih =>
      cases h with
      | cons hstep hrest =>
          obtain ⟨rows₁, s₁, hpre, hrest⟩ := ih hrest
          exact ⟨rows₁, s₁, .cons hstep hpre, hrest⟩

/-- One run after another. -/
theorem Downloads.append {rows₁ : List QsoRecord} {s₁ : MemoryState}
    (h : Downloads ctx pre rows s rows₁ s₁) (h' : Downloads ctx rest rows₁ s₁ rows' s') :
    Downloads ctx (pre ++ rest) rows s rows' s' := by
  induction h with
  | nil => exact h'
  | cons hstep _ ih => exact .cons hstep (ih h')

/-- No row goes away, and none is deleted or restored. -/
theorem DownloadStep.kept (h : DownloadStep ctx remote rows s rows' s')
    (hrow : s.get id = some row) : ∃ row', s'.get id = some row' ∧ row'.deletedAt = row.deletedAt := by
  cases h with
  | ignore => exact ⟨row, hrow, rfl⟩
  | keep => exact ⟨row, hrow, rfl⟩
  | @insert localId _ _ hfree =>
      refine ⟨row, ?_, rfl⟩
      rw [get_put, if_neg]
      · exact hrow
      · intro hid
        rw [show localId = id from hid, hrow] at hfree
        cases hfree
  | @merge c current q _ _ hq hcurrent heq =>
      obtain ⟨hid, hdel⟩ := mergeResult_frame hq
      rw [get_put]
      split
      · rename_i hq
        rw [← hid, hq, hrow] at hcurrent
        cases hcurrent
        exact ⟨q, rfl, hdel.trans (deletedAt_of_beq heq).symm⟩
      · exact ⟨row, hrow, rfl⟩

theorem Downloads.kept (h : Downloads ctx remotes rows s rows' s') (hrow : s.get id = some row) :
    ∃ row', s'.get id = some row' ∧ row'.deletedAt = row.deletedAt := by
  induction h generalizing row with
  | nil => exact ⟨row, hrow, rfl⟩
  | cons hstep _ ih =>
      obtain ⟨row₁, hrow₁, hdel₁⟩ := hstep.kept hrow
      obtain ⟨row₂, hrow₂, hdel₂⟩ := ih hrow₁
      exact ⟨row₂, hrow₂, hdel₂.trans hdel₁⟩

/-- The indexed rows only grow. -/
theorem DownloadStep.prefix_rows (h : DownloadStep ctx remote rows s rows' s') : rows <+: rows' := by
  cases h with
  | ignore => exact List.prefix_refl _
  | keep => exact List.prefix_refl _
  | insert => exact List.prefix_append _ _
  | merge => exact List.prefix_refl _

theorem Downloads.prefix_rows (h : Downloads ctx remotes rows s rows' s') : rows <+: rows' := by
  induction h with
  | nil => exact List.prefix_refl _
  | cons hstep _ ih => exact hstep.prefix_rows.trans ih

/-- The row was inserted, by a record that nothing matched at its turn. -/
def Inserted (ctx : DownloadContext) (remotes rows : List QsoRecord) (s : MemoryState)
    (rows' : List QsoRecord) (s' : MemoryState) (q : QsoRecord) : Prop :=
  ∃ pre remote post rows₁ s₁ localId, remotes = pre ++ remote :: post
    ∧ Downloads ctx pre rows s rows₁ s₁ ∧ matchIn rows₁ remote = none
    ∧ s₁.get localId = none ∧ q = newRow remote (extractQrzLogid remote) localId
    ∧ Downloads ctx post (rows₁ ++ [q]) (s₁.put q) rows' s'

/-- An indexed row that was not there at the start was inserted. -/
theorem Downloads.inserted {q : QsoRecord} (h : Downloads ctx remotes rows s rows' s')
    (hq : q ∈ rows') (hnew : q ∉ rows) : Inserted ctx remotes rows s rows' s' q := by
  induction h with
  | nil => exact absurd hq hnew
  | @cons remote rest rows rows₁ rows₂ s s₁ s₂ hstep hrest ih =>
      have later : q ∉ rows₁ → Inserted ctx (remote :: rest) rows s rows₂ s₂ q := fun hnew => by
        obtain ⟨pre, r, post, rows₃, s₃, localId, hsplit, hpre, hrest⟩ := ih hq hnew
        exact ⟨remote :: pre, r, post, rows₃, s₃, localId, by rw [hsplit, List.cons_append],
          .cons hstep hpre, hrest⟩
      cases hstep with
      | ignore => exact later hnew
      | keep => exact later hnew
      | merge => exact later hnew
      | @insert localId _ hm hfree =>
          by_cases hmem : q ∈ rows ++ [newRow remote (extractQrzLogid remote) localId]
          · have hrow : q = newRow remote (extractQrzLogid remote) localId := by
              rcases List.mem_append.mp hmem with hmem | hmem
              · exact absurd hmem hnew
              · exact List.mem_singleton.mp hmem
            subst hrow
            exact ⟨[], remote, rest, rows, s, localId, rfl, .nil, hm, hfree, rfl, hrest⟩
          · exact later hmem

end Frame

end QsoRipper
