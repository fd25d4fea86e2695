/-
QsoRipper/Server/Redownload.lean

Downloading the same list twice.  The second download inserts nothing when
every record it does not ignore finds a row, and a record finds a row when the
first download left it one.

A merge can take that row away: it rewrites the row with the values of another
record, while the index goes on offering the old ones.  `Harmless` is the
condition on one record, in the state it meets: if it rewrites a row, the row
still matches the earlier records it matched, and if its merge does not go in,
the stored row still matches it.
-/
import QsoRipper.Server.Fidelity

namespace QsoRipper

open Interaction MemoryState

/-! ### Matching a row -/

/-- Does the row match the record, by logid or fuzzily? -/
def Matches (remote row : QsoRecord) : Prop := HasLogidOf remote row ∨ similar remote row = true

instance (remote row : QsoRecord) : Decidable (Matches remote row) :=
  inferInstanceAs (Decidable (_ ∨ _))

variable {ctx : DownloadContext} {remote row c q : QsoRecord} {rows rows' : List QsoRecord}
  {s s' : MemoryState} {id : String}

theorem matches_of_matchIn (h : matchIn rows remote = some c) : Matches remote c :=
  (matchIn_eq_some h).2.imp_right And.left

theorem isSome_matchIn (h : row ∈ rows) (hm : Matches remote row) :
    (matchIn rows remote).isSome := by
  rw [Option.isSome_iff_ne_none, ne_eq, matchIn_eq_none]
  intro hnone
  obtain ⟨hl, hs⟩ := hnone row h
  rcases hm with hm | hm
  · exact hl hm
  · rw [hs] at hm
    cases hm

/-- Equal rows match the same records. -/
theorem Matches.of_beq {a b : QsoRecord} (h : (a == b) = true) (hm : Matches remote a) :
    Matches remote b := by
  have hlogid := qrzLogid_of_beq h
  have hsim : similar remote a = similar remote b :=
    QsoRecord.congr_of_beq h (similar remote) fun _ => rfl
  exact hm.imp (fun hl => hl.congr hlogid.symm) fun hs => hsim ▸ hs

/-- The time of a merged row is the record's, or was close to it. -/
theorem within_merge {mine theirs : Timestamp}
    (h : withinTolerance mine.seconds theirs.seconds = true) :
    withinTolerance (mine.merge theirs).seconds theirs.seconds = true := by
  rw [Timestamp.merge, mergePlain]
  split
  · exact h
  · exact withinTolerance_self _

/-- Overwriting a row with a similar record keeps it similar. -/
theorem similar_overwritten (hfrag : isFragment remote = false) (h : similar remote c = true)
    (logid : Option String) : similar remote (overwritten c remote logid) = true := by
  obtain ⟨hcall, hts⟩ := Bool.or_eq_false_iff.mp hfrag
  obtain ⟨remoteTs, hremote⟩ := Option.isSome_iff_exists.mp (by simpa using hts)
  rw [similar, hremote, Option.any_some, Bool.and_eq_true, decide_eq_true_eq] at h ⊢
  obtain ⟨hkey, htime⟩ := h
  obtain ⟨ts, hmine, hwithin⟩ := (Option.any_eq_true _ _).mp htime
  obtain ⟨hcallKey, hband, hmode⟩ :
      Text.toAsciiUppercase c.workedCallsign = Text.toAsciiUppercase remote.workedCallsign
        ∧ c.band = remote.band ∧ c.mode = remote.mode := by
    simpa only [fuzzyKey, Prod.mk.injEq] using hkey
  have hplain : ∀ mine theirs : ℤ, mine = theirs → mergePlain 0 mine theirs = theirs := by
    intro mine theirs heq
    rw [mergePlain, heq, ite_self]
  refine ⟨?_, ?_⟩
  · have hcallsign : mergePlain "" c.workedCallsign remote.workedCallsign
        = remote.workedCallsign := by
      rw [mergePlain, if_neg]
      intro hempty
      rw [hempty, Text.trim_empty] at hcall
      cases hcall
    show (Text.toAsciiUppercase (mergePlain "" c.workedCallsign remote.workedCallsign),
      mergePlain 0 c.band remote.band, mergePlain 0 c.mode remote.mode) = fuzzyKey remote
    rw [hcallsign, hplain _ _ hband, hplain _ _ hmode, fuzzyKey]
  · show (mergeTimestamp c.utcTimestamp remote.utcTimestamp).any _ = true
    rw [hremote, hmine]
    exact within_merge hwithin

/-- **A merged row matches its record.** -/
theorem matches_mergeResult {policy : ConflictPolicy} (hfrag : isFragment remote = false)
    (hm : Matches remote c) (hq : mergeResult policy c remote = some q) : Matches remote q := by
  cases hl : extractQrzLogid remote with
  | some logid =>
      have hsome : (extractQrzLogid remote).isSome := by rw [hl]; rfl
      rcases mergeResult_cases hq with rfl | rfl | rfl
      · exact .inl (hasLogidOf_taken hsome rfl)
      · exact .inl (hasLogidOf_taken hsome rfl)
      · exact hm
  | none =>
      have hsim : similar remote c = true := by
        refine hm.resolve_left ?_
        rintro ⟨logid, hlogid, -⟩
        rw [hl] at hlogid
        cases hlogid
      rcases mergeResult_cases hq with rfl | rfl | rfl
      · exact .inr (similar_overwritten hfrag hsim _)
      · exact .inr hsim
      · exact .inr hsim

/-- A new row matches its record. -/
theorem matches_newRow (hfrag : isFragment remote = false) (localId : String) :
    Matches remote (newRow remote (extractQrzLogid remote) localId) := by
  right
  obtain ⟨-, hts⟩ := Bool.or_eq_false_iff.mp hfrag
  obtain ⟨remoteTs, hremote⟩ := Option.isSome_iff_exists.mp (by simpa using hts)
  show similar remote remote = true
  rw [similar, hremote]
  simp [withinTolerance_self]

/-! ### The first download -/

/-- One record in the state it meets, after the records `earlier`. -/
def Harmless (ctx : DownloadContext) (earlier : List QsoRecord) (remote : QsoRecord)
    (indexes : LocalIndexes) (s : MemoryState) : Prop :=
  ¬ Ignored ctx remote → ∀ c ∈ indexes.match (extractQrzLogid remote) remote,
    ∀ row ∈ s.get c.localId,
      if (row == c) = true then
        ∀ q ∈ mergeResult ctx.conflictPolicy c remote, ∀ r ∈ earlier,
          ¬ Ignored ctx r → Matches r row → Matches r q
      else Matches remote row

instance (ctx : DownloadContext) (earlier : List QsoRecord) (remote : QsoRecord)
    (indexes : LocalIndexes) (s : MemoryState) :
    Decidable (Harmless ctx earlier remote indexes s) :=
  inferInstanceAs (Decidable (¬ Ignored ctx remote → ∀ c ∈ indexes.match _ remote,
    ∀ row ∈ s.get c.localId, if (row == c) = true then _ else _))

section Along

variable {ε : Type} (env : Environment ε) (ctx : DownloadContext)

/-- Every record of the list is harmless at its turn. -/
def HarmlessAlong : List QsoRecord → List QsoRecord → DownloadState → World ε → Prop
  | _, [], _, _ => True
  | earlier, remote :: rest, st, w =>
      Harmless ctx earlier remote st.indexes w.1
        ∧ HarmlessAlong (earlier ++ [remote]) rest
            ((processRemoteQso ctx remote st).run (handle env) w).1
            ((processRemoteQso ctx remote st).run (handle env) w).2

instance decidableHarmlessAlong : (earlier remotes : List QsoRecord) → (st : DownloadState) →
    (w : World ε) → Decidable (HarmlessAlong env ctx earlier remotes st w)
  | _, [], _, _ => isTrue trivial
  | earlier, remote :: rest, st, w =>
      have := decidableHarmlessAlong (earlier ++ [remote]) rest
        ((processRemoteQso ctx remote st).run (handle env) w).1
        ((processRemoteQso ctx remote st).run (handle env) w).2
      instDecidableAnd (p := Harmless ctx earlier remote st.indexes w.1)

end Along

/-- What holds after the records `earlier` of a harmless list: the entries are
of active rows, and each record that was not ignored has a row. -/
structure Found (ctx : DownloadContext) (earlier rows : List QsoRecord) (s : MemoryState) :
    Prop where
  entries : ∀ c ∈ rows, c.deletedAt = none
    ∧ ∃ row, s.get c.localId = some row ∧ row.deletedAt = none
  found : ∀ r ∈ earlier, ¬ Ignored ctx r →
    ∃ id row, s.get id = some row ∧ row.deletedAt = none ∧ Matches r row

/-- A record that is matched, merged or not. -/
theorem Found.matched {earlier : List QsoRecord} (h : Found ctx earlier rows s)
    (hstep : DownloadStep ctx remote rows s rows' s')
    (hnew : ¬ Ignored ctx remote →
      ∃ id row, s'.get id = some row ∧ row.deletedAt = none ∧ Matches remote row)
    (hold : ∀ r ∈ earlier, ¬ Ignored ctx r → ∀ id row, s.get id = some row →
      row.deletedAt = none → Matches r row →
        ∃ row', s'.get id = some row' ∧ row'.deletedAt = none ∧ Matches r row') :
    Found ctx (earlier ++ [remote]) rows s' where
  entries c hc := by
    obtain ⟨hact, row, hrow, hrowact⟩ := h.entries c hc
    obtain ⟨row', hrow', hdel⟩ := hstep.kept hrow
    exact ⟨hact, row', hrow', hdel.trans hrowact⟩
  found r hr hign := by
    rcases List.mem_append.mp hr with hr | hr
    · obtain ⟨id, row, hrow, hact, hm⟩ := h.found r hr hign
      obtain ⟨row', hrow'⟩ := hold r hr hign id row hrow hact hm
      exact ⟨id, row', hrow'⟩
    · rw [List.mem_singleton.mp hr] at hign ⊢
      exact hnew hign

/-- **One harmless record.** -/
theorem Found.step {earlier : List QsoRecord} (h : Found ctx earlier rows s)
    (hactive : remote.deletedAt = none)
    (hharm : Harmless ctx earlier remote (buildLocalIndexes rows) s)
    (hstep : DownloadStep ctx remote rows s rows' s') :
    Found ctx (earlier ++ [remote]) rows' s' := by
  have hfrag : ¬ Ignored ctx remote → isFragment remote = false := fun hign => by
    by_contra hfrag
    exact hign (.inl (by simpa using hfrag))
  have hstep' := hstep
  cases hstep with
  | ignore hign =>
      exact h.matched hstep' (fun hnot => absurd hign hnot)
        fun r _ _ id row hrow hact hm => ⟨row, hrow, hact, hm⟩
  | @insert localId hign _ hfree =>
      set q := newRow remote (extractQrzLogid remote) localId
      have hother : ∀ {id row}, s.get id = some row → (s.put q).get id = some row := by
        intro id row hrow
        rw [get_put, if_neg, hrow]
        intro hid
        rw [← hid, show q.localId = localId from rfl, hfree] at hrow
        cases hrow
      have hq : (s.put q).get localId = some q := (get_put _ _ _).trans (if_pos rfl)
      refine ⟨fun c hc => ?_, fun r hr hnot => ?_⟩
      · rcases List.mem_append.mp hc with hc | hc
        · obtain ⟨hact, row, hrow, hrowact⟩ := h.entries c hc
          exact ⟨hact, row, hother hrow, hrowact⟩
        · rw [List.mem_singleton.mp hc]
          exact ⟨hactive, q, hq, hactive⟩
      · rcases List.mem_append.mp hr with hr | hr
        · obtain ⟨id, row, hrow, hact, hm⟩ := h.found r hr hnot
          exact ⟨id, row, hother hrow, hact, hm⟩
        · rw [List.mem_singleton.mp hr]
          exact ⟨localId, q, hq, hactive, matches_newRow (hfrag hign) localId⟩
  | @merge c current q hign hm hq hcurrent heq =>
      obtain ⟨hid, hdel⟩ := mergeResult_frame hq
      have hact := (h.entries c (matchIn_eq_some hm).1).1
      have hput : (s.put q).get c.localId = some q := by rw [get_put, if_pos hid]
      have hlater := hharm hign c hm current hcurrent
      rw [if_pos heq] at hlater
      refine h.matched hstep' (fun _ => ?_) fun r hr hnot id row hrow hrowact hmr => ?_
      · exact ⟨c.localId, q, hput, hdel.trans hact,
          matches_mergeResult (hfrag hign) (matches_of_matchIn hm) hq⟩
      · by_cases hidc : id = c.localId
        · rw [hidc, hcurrent] at hrow
          cases hrow
          exact ⟨q, hidc ▸ hput, hdel.trans hact, hlater q hq r hr hnot hmr⟩
        · refine ⟨row, ?_, hrowact, hmr⟩
          rw [get_put, hid, if_neg (Ne.symm hidc), hrow]
  | @keep c hign hm hno =>
      refine h.matched hstep' (fun _ => ?_)
        fun r _ _ id row hrow hact hmr => ⟨row, hrow, hact, hmr⟩
      -- the stored row is the entry, or still matches
      obtain ⟨-, row, hrow, hrowact⟩ := h.entries c (matchIn_eq_some hm).1
      refine ⟨c.localId, row, hrow, hrowact, ?_⟩
      have hlater := hharm hign c hm row hrow
      by_cases heq : (row == c) = true
      · exact (matches_of_matchIn hm).of_beq (PartialEquivBEq.symm heq)
      · rwa [if_neg heq] at hlater

/-- Deleted rows are left alone. -/
theorem DownloadStep.trash (h : DownloadStep ctx remote rows s rows' s')
    (hactive : remote.deletedAt = none) (hrows : ∀ c ∈ rows, c.deletedAt = none) :
    (∀ c ∈ rows', c.deletedAt = none)
      ∧ ∀ id row, s.get id = some row → row.deletedAt.isSome → s'.get id = some row := by
  cases h with
  | ignore => exact ⟨hrows, fun _ _ hrow _ => hrow⟩
  | keep => exact ⟨hrows, fun _ _ hrow _ => hrow⟩
  | @insert localId _ _ hfree =>
      refine ⟨fun c hc => ?_, fun id row hrow _ => ?_⟩
      · rcases List.mem_append.mp hc with hc | hc
        · exact hrows c hc
        · rw [List.mem_singleton.mp hc]
          exact hactive
      · rw [get_put, if_neg, hrow]
        intro hid
        rw [show localId = id from hid, hrow] at hfree
        cases hfree
  | @merge c current q _ hm hq hcurrent heq =>
      refine ⟨hrows, fun id row hrow hdel => ?_⟩
      rw [get_put, if_neg, hrow]
      intro hid
      rw [← (mergeResult_frame hq).1, hid, hrow] at hcurrent
      cases hcurrent
      rw [deletedAt_of_beq heq, hrows c (matchIn_eq_some hm).1] at hdel
      cases hdel

theorem Downloads.trash {remotes : List QsoRecord} (h : Downloads ctx remotes rows s rows' s')
    (hactive : ∀ r ∈ remotes, r.deletedAt = none) (hrows : ∀ c ∈ rows, c.deletedAt = none)
    (hrow : s.get id = some row) (hdel : row.deletedAt.isSome) : s'.get id = some row := by
  induction h with
  | nil => exact hrow
  | cons hstep _ ih =>
      obtain ⟨hact, hrest⟩ := List.forall_mem_cons.mp hactive
      obtain ⟨hrows₁, hkept⟩ := hstep.trash hact hrows
      exact ih hrest hrows₁ (hkept id row hrow hdel)

/-- **A download inserts nothing when every record it does not ignore finds a
row.** -/
theorem Downloads.ids {remotes : List QsoRecord} (h : Downloads ctx remotes rows s rows' s')
    (hfound : ∀ r ∈ remotes, ¬ Ignored ctx r → (matchIn rows r).isSome) : s'.ids = s.ids := by
  induction h with
  | nil => rfl
  | @cons remote rest rows rows₁ _ s s₁ _ hstep _ ih =>
      obtain ⟨hfirst, hrest⟩ := List.forall_mem_cons.mp hfound
      cases hstep with
      | ignore => exact ih hrest
      | keep => exact ih hrest
      | insert hign hnone =>
          have hsome := hfirst hign
          rw [hnone] at hsome
          cases hsome
      | @merge c current q _ _ hq hcurrent _ =>
          rw [ih hrest]
          ext id
          show ((s.put q).get id).isSome ↔ (s.get id).isSome
          rw [get_put]
          split
          · rename_i hid
            rw [← hid, (mergeResult_frame hq).1, hcurrent]
            exact Iff.rfl
          · exact Iff.rfl

/-! ### Two downloads in a row -/

section Twice

variable {ε : Type} (env : Environment ε) (policy : ConflictPolicy) (fresh : Finset String)

/-- What the loop is given when the local rows are those of `s`. -/
def contextAt (s : MemoryState) : DownloadContext where
  deletedLogids := (partitionLocalForSync (s.listQsos { deletedFilter := .all })).2
  freshlyUploadedLogids := fresh
  conflictPolicy := policy

/-- The state the loop starts from when the local rows are those of `s`. -/
def startAt (s : MemoryState) (counters : SyncCounters) : DownloadState where
  indexes := buildLocalIndexes (activeRows s)
  counters := counters

/-- The index build and the loop of `download_phase`, on the rows of `s`. -/
def downloadOver (remotes : List QsoRecord) (counters : SyncCounters) (s : MemoryState) :
    Program DownloadState :=
  processRemoteQsos (contextAt policy fresh s) remotes (startAt s counters)

variable {env policy fresh}

theorem mem_deletedLogids {logid : String} :
    logid ∈ (contextAt policy fresh s).deletedLogids
      ↔ ∃ row, s.get row.localId = some row ∧ row.deletedAt.isSome
        ∧ nonEmpty row.qrzLogid = some logid := by
  rw [contextAt, partitionLocalForSync, List.mem_toFinset, List.mem_filterMap]
  simp only [List.mem_filter, mem_listQsos_all, and_assoc]

/-- What was ignored is ignored again. -/
theorem Ignored.again (h : Ignored (contextAt policy fresh s) remote)
    (htrash : ∀ id row, s.get id = some row → row.deletedAt.isSome → s'.get id = some row) :
    Ignored (contextAt policy fresh s') remote := by
  refine h.imp_right ?_
  rintro ⟨logid, hl, hfresh | hdel⟩
  · exact ⟨logid, hl, .inl hfresh⟩
  · obtain ⟨row, hrow, hdel, hlogid⟩ := mem_deletedLogids.mp hdel
    exact ⟨logid, hl, .inr (mem_deletedLogids.mpr ⟨row, htrash _ row hrow hdel, hdel, hlogid⟩)⟩

/-- **A harmless download leaves every record a row.** -/
theorem Found.run {earlier remotes : List QsoRecord} {st : DownloadState} {w : World ε}
    (h : Found ctx earlier rows w.1) (hst : st.indexes = buildLocalIndexes rows)
    (hactive : ∀ r ∈ remotes, r.deletedAt = none)
    (hharm : HarmlessAlong env ctx earlier remotes st w)
    (hok : ∀ m ∈ (processRemoteQsos ctx remotes st).trace (handle env) w,
      isStorageError m.2 = false) :
    ∃ rows', Found ctx (earlier ++ remotes) rows'
        ((processRemoteQsos ctx remotes st).run (handle env) w).2.1 := by
  induction remotes generalizing earlier st rows w with
  | nil =>
      rw [List.append_nil]
      exact ⟨rows, h⟩
  | cons remote rest ih =>
      rw [processRemoteQsos, Prog.trace_bind] at hok
      rw [processRemoteQsos, Prog.run_bind, List.append_cons]
      obtain ⟨hact, hrest⟩ := List.forall_mem_cons.mp hactive
      obtain ⟨hone, hlater⟩ := hharm
      obtain ⟨rows₁, hrows₁, hstep⟩ := processRemoteQso_step hst
        fun m hm => hok m (List.mem_append_left _ hm)
      rw [hst] at hone
      exact ih (h.step hact hone hstep) hrows₁ hrest hlater
        fun m hm => hok m (List.mem_append_right _ hm)

end Twice

/-! ### A row between two records -/

/-- A synced row. -/
def syncedStore : MemoryState :=
  empty.put { contactAt "a" (some "9") 1000 with syncStatus := SyncStatus.synced.toI32 }

/-- Two contacts on either side of the row, each within the tolerance. -/
def eitherSide : List QsoRecord := [contactAt "r1" (some "1") 940, contactAt "r2" (some "2") 1060]

/-- Two downloads of one list in a row. -/
def downloadTwice (remotes : List QsoRecord) (s : MemoryState) : World Unit × World Unit :=
  let w₁ := ((downloadOver .flagForReview ∅ remotes {} s).run (handle quietRemote) (s, ())).2
  let w₂ := ((downloadOver .flagForReview ∅ remotes {} w₁.1).run (handle quietRemote) w₁).2
  (w₁, w₂)

/-- Two contacts close to the row and to each other. -/
def closeBy : List QsoRecord := [contactAt "r1" (some "1") 970, contactAt "r2" (some "2") 1030]

end QsoRipper
