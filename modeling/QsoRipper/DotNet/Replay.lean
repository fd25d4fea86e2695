/-
QsoRipper/DotNet/Replay.lean

A log that is imported again.  The managed engine recognises a contact only by
the active row that still matches it, so a run of edits, deletions, restorations
and imports is followed here with the records it has inserted: as long as every
step leaves each of them an active row that matches, importing them again
changes nothing.

An import holds the gate of the engine from start to end.  It is taken record by
record, because what a refresh may do depends on the rows the records before it
have left.
-/
import QsoRipper.DotNet.Contacts
import QsoRipper.DotNet.Import
import QsoRipper.Lib.Transition

namespace QsoRipper.DotNet

open Interaction

variable {ε : Type} {env : NetEnvironment ε} {w : NetWorld ε} {s s' : MemoryState}

/-! ### Contacts that are recognized -/

/-- What an import compares with the rows, if it gets so far. -/
def candidateOf (config : EngineConfig) (qso : QsoRecord) : Option QsoRecord :=
  match withStationContext qso config.activeProfile with
  | .error _ => none
  | .ok (candidate, _) =>
      some (normalizeQsoForPersistence candidate) |>.filter fun c => (invalidImportReason c).isNone

/-- An active row matches the candidate. -/
def Recognized (s : MemoryState) (candidate : QsoRecord) : Prop :=
  ∃ r ∈ s.rows, r.deletedAt = none ∧ qsosMatchForDuplicate r candidate = true

/-- An active row other than the one under `id` does. -/
def RecognizedBeside (s : MemoryState) (id : String) (candidate : QsoRecord) : Prop :=
  ∃ r ∈ s.rows, r.localId ≠ id ∧ r.deletedAt = none ∧ qsosMatchForDuplicate r candidate = true

instance (s : MemoryState) (candidate : QsoRecord) : Decidable (Recognized s candidate) :=
  inferInstanceAs (Decidable (∃ r ∈ s.rows, _))

instance (s : MemoryState) (id : String) (candidate : QsoRecord) :
    Decidable (RecognizedBeside s id candidate) :=
  inferInstanceAs (Decidable (∃ r ∈ s.rows, _))

theorem Recognized.of_sameContacts {c : QsoRecord} (h : Recognized s c) (hs : SameContacts s s') :
    Recognized s' c := by
  obtain ⟨r, hr, hactive, hmatch⟩ := h
  have hget := hs r.localId
  rw [MemoryState.mem_rows.mp hr, Option.map_some] at hget
  obtain ⟨r', hr', hcontact⟩ := Option.map_eq_some_iff.mp hget
  refine ⟨r', MemoryState.mem_rows.mpr ?_, ?_, ?_⟩
  · rw [MemoryState.localId_of_get hr']
    exact hr'
  · have hdeleted : (contact r').deletedAt = (contact r).deletedAt := by rw [hcontact]
    exact hdeleted.trans hactive
  · rw [← qsosMatchForDuplicate_contact, hcontact, qsosMatchForDuplicate_contact]
    exact hmatch

/-- A row is put in place of another: a candidate is recognized by the new one, or
beside it. -/
theorem recognized_put {row c : QsoRecord} :
    Recognized (s.put row) c
      ↔ (row.deletedAt = none ∧ qsosMatchForDuplicate row c = true)
        ∨ RecognizedBeside s row.localId c := by
  constructor
  · rintro ⟨r, hr, hactive, hmatch⟩
    have hget := MemoryState.mem_rows.mp hr
    rw [MemoryState.get_put] at hget
    split at hget
    · cases hget
      exact .inl ⟨hactive, hmatch⟩
    · rename_i hid
      exact .inr ⟨r, MemoryState.mem_rows.mpr hget, Ne.symm hid, hactive, hmatch⟩
  · rintro (⟨hactive, hmatch⟩ | ⟨r, hr, hid, hactive, hmatch⟩)
    · refine ⟨row, MemoryState.mem_rows.mpr ?_, hactive, hmatch⟩
      rw [MemoryState.get_put, if_pos rfl]
    · refine ⟨r, MemoryState.mem_rows.mpr ?_, hactive, hmatch⟩
      rw [MemoryState.get_put, if_neg (Ne.symm hid)]
      exact MemoryState.mem_rows.mp hr

/-! ### The list an import compares with -/

/-- The list has the active rows of the store, each once. -/
structure Lists (rows : List QsoRecord) (s : MemoryState) : Prop where
  nodup : (rows.map (·.localId)).Nodup
  mem_iff : ∀ r, r ∈ rows ↔ s.get r.localId = some r ∧ r.deletedAt = none

namespace Lists

variable {rows : List QsoRecord}

theorem of_listQsos (h : MemoryStorage.listQsos s {} = .ok rows) : Lists rows s := by
  have hperm := MemoryStorage.listQsos_plain h
  constructor
  · refine (hperm.map (·.localId)).nodup_iff.mpr ?_
    exact (MemoryState.nodup_localIds_rows s).sublist (List.filter_sublist.map _)
  · intro r
    rw [hperm.mem_iff, List.mem_filter, MemoryState.mem_rows]
    simp [MemoryStorage.passesDeletedFilter]

/-- A row is set in the list under the id of the one it replaces. -/
theorem mem_set_iff (h : (rows.map (·.localId)).Nodup) {index : ℕ} {existing merged r : QsoRecord}
    (hindex : rows[index]? = some existing) :
    r ∈ rows.set index merged ↔ r = merged ∨ r ∈ rows ∧ r.localId ≠ existing.localId := by
  obtain ⟨hlt, hexisting⟩ := List.getElem?_eq_some_iff.mp hindex
  -- two places of the list have two ids
  have hplace {j : ℕ} (hj : j < rows.length) : rows[j].localId = existing.localId → j = index := by
    intro hid
    have hsame : (rows.map (·.localId))[j]? = (rows.map (·.localId))[index]? := by
      rw [List.getElem?_map, List.getElem?_map, hindex, List.getElem?_eq_getElem hj,
        Option.map_some, Option.map_some, hid]
    refine (List.getElem?_inj ?_ h).mp hsame
    rwa [List.length_map]
  constructor
  · intro hr
    obtain ⟨j, hj, hget⟩ := List.mem_iff_getElem.mp hr
    rw [List.length_set] at hj
    rw [List.getElem_set] at hget
    split at hget
    · exact .inl hget.symm
    · rename_i hne
      subst hget
      exact .inr ⟨List.getElem_mem hj, fun hid => hne (hplace hj hid).symm⟩
  · rintro (rfl | ⟨hr, hne⟩)
    · exact List.mem_set hlt _
    · obtain ⟨j, hj, hget⟩ := List.mem_iff_getElem.mp hr
      subst hget
      have hj' : j ≠ index := by
        intro heq
        subst heq
        exact hne (congrArg _ hexisting)
      refine List.mem_iff_getElem.mpr ⟨j, ?_, ?_⟩
      · rwa [List.length_set]
      · exact List.getElem_set_ne hj'.symm _

/-- A refreshed row, in the store and in the list. -/
theorem set (h : Lists rows s) {index : ℕ} {existing merged : QsoRecord}
    (hindex : rows[index]? = some existing) (hid : merged.localId = existing.localId)
    (hactive : merged.deletedAt = none) : Lists (rows.set index merged) (s.put merged) := by
  have hids : (rows.set index merged).map (·.localId) = rows.map (·.localId) := by
    have hget : (rows.map (·.localId))[index]? = some merged.localId := by
      rw [List.getElem?_map, hindex, Option.map_some, hid]
    obtain ⟨hlt, hsame⟩ := List.getElem?_eq_some_iff.mp hget
    rw [List.map_set, ← hsame]
    exact List.set_getElem_self hlt
  refine ⟨hids ▸ h.nodup, fun r => ?_⟩
  rw [mem_set_iff h.nodup hindex, h.mem_iff, MemoryState.get_put, ← hid]
  constructor
  · rintro (rfl | ⟨⟨hr, hr'⟩, hne⟩)
    · rw [if_pos rfl]
      exact ⟨rfl, hactive⟩
    · rw [if_neg (Ne.symm hne)]
      exact ⟨hr, hr'⟩
  · rintro ⟨hr, hr'⟩
    split at hr
    · cases hr
      exact .inl rfl
    · rename_i hne
      exact .inr ⟨⟨hr, hr'⟩, Ne.symm hne⟩

/-- A new row, in the store and in the list. -/
theorem append (h : Lists rows s) {row : QsoRecord} (hnew : s.get row.localId = none)
    (hactive : row.deletedAt = none) : Lists (rows ++ [row]) (s.put row) := by
  have hfresh {r : QsoRecord} (hr : r ∈ rows) : row.localId ≠ r.localId := by
    intro hid
    have hget := ((h.mem_iff r).mp hr).1
    rw [← hid, hnew] at hget
    cases hget
  constructor
  · rw [List.map_append, List.nodup_append]
    refine ⟨h.nodup, List.nodup_singleton _, ?_⟩
    intro id hid id' hid'
    obtain ⟨r, hr, rfl⟩ := List.mem_map.mp hid
    obtain rfl := List.mem_singleton.mp hid'
    exact (hfresh hr).symm
  · intro r
    rw [List.mem_append, List.mem_singleton, MemoryState.get_put]
    constructor
    · rintro (hr | rfl)
      · rw [if_neg (hfresh hr)]
        exact (h.mem_iff r).mp hr
      · rw [if_pos rfl]
        exact ⟨rfl, hactive⟩
    · rintro ⟨hr, hr'⟩
      split at hr
      · cases hr
        exact .inr rfl
      · exact .inl ((h.mem_iff r).mpr ⟨hr, hr'⟩)

/-- A candidate that is recognized is found. -/
theorem findIdx?_isSome (h : Lists rows s) {candidate : QsoRecord}
    (hknown : Recognized s candidate) :
    (rows.findIdx? (qsosMatchForDuplicate · candidate)).isSome = true := by
  obtain ⟨r, hr, hactive, hmatch⟩ := hknown
  rw [List.findIdx?_isSome, List.any_eq_true]
  exact ⟨r, (h.mem_iff r).mpr ⟨MemoryState.mem_rows.mp hr, hactive⟩, hmatch⟩

end Lists

/-! ### One record -/

/-- What a record of an import does: it ends the import, is passed over, refreshes
the row it matches, or becomes a row. -/
inductive RecordStep (config : EngineConfig) (mode : ImportMode) (importedAt : Ticks)
    (qso : QsoRecord) (run : ImportRun) (s : MemoryState) :
    Except EngineException ImportRun × MemoryState → Prop
  | fails (ex : EngineException) : RecordStep config mode importedAt qso run s (.error ex, s)
  | passes (run' : ImportRun) :
      run'.allExisting = run.allExisting → run'.inserted = run.inserted →
      RecordStep config mode importedAt qso run s (.ok run', s)
  | refreshes {c existing merged : QsoRecord} {index : ℕ} (run' : ImportRun) :
      mode.refresh = true → candidateOf config qso = some c →
      run.allExisting.findIdx? (qsosMatchForDuplicate · c) = some index →
      run.allExisting[index]? = some existing →
      merged.localId = existing.localId →
      contact merged = contact (mergeQsoForRefresh existing c importedAt) →
      run'.allExisting = run.allExisting.set index merged → run'.inserted = run.inserted →
      RecordStep config mode importedAt qso run s (.ok run', s.put merged)
  | inserts {c row : QsoRecord} (run' : ImportRun) :
      candidateOf config qso = some c →
      run.allExisting.findIdx? (qsosMatchForDuplicate · c) = none →
      s.get row.localId = none → row.deletedAt = c.deletedAt →
      (isTimestampUnset c.utcTimestamp = false → contact row = contact c) →
      run'.allExisting = run.allExisting ++ [row] → run'.inserted = run.inserted ++ [qso] →
      RecordStep config mode importedAt qso run s (.ok run', s.put row)

theorem contact_applyDiagnostic (qso : QsoRecord) (diagnostic : String) :
    contact (applyDiagnostic qso diagnostic) = contact qso := rfl

/-- A diagnostic is no edit. -/
theorem contact_withDiagnostic {mode : ImportMode} {importedAt : Ticks} {resolve : String → String}
    {qso qso' : QsoRecord} (h : withDiagnostic mode importedAt resolve qso = .ok qso') :
    contact qso' = contact qso := by
  unfold withDiagnostic at h
  split at h
  · cases h
    rfl
  · rcases hcreate : createDiagnostic mode.text _ qso importedAt with ex | current
    · rw [hcreate] at h
      cases h
    · rw [hcreate] at h
      cases h
      rfl

/-- What a merge keeps of the record it takes in is a matter of its contact. -/
theorem contact_mergeQsoForRefresh {imported imported' : QsoRecord}
    (h : contact imported' = contact imported) (existing : QsoRecord) (now now' : Ticks) :
    contact (mergeQsoForRefresh existing imported' now')
      = contact (mergeQsoForRefresh existing imported now) := by
  simp only [contact, QsoRecord.mk.injEq] at h
  simp [contact, mergeQsoForRefresh, h]

/-- The warnings of a run change nothing else. -/
theorem foldl_warn (recordNumber : ℕ) (warnings : List String) (run : ImportRun) :
    (warnings.foldl (·.warn recordNumber ·) run).allExisting = run.allExisting
      ∧ (warnings.foldl (·.warn recordNumber ·) run).inserted = run.inserted := by
  induction warnings generalizing run with
  | nil => exact ⟨rfl, rfl⟩
  | cons text warnings ih => exact ih (run.warn recordNumber text)

theorem importDuplicate_run (env : NetEnvironment ε) (config : EngineConfig) (mode : ImportMode)
    (importedAt : Ticks) (recordNumber : ℕ) {qso c existing : QsoRecord} {index : ℕ}
    {run : ImportRun} (hc : candidateOf config qso = some c)
    (hfind : run.allExisting.findIdx? (qsosMatchForDuplicate · c) = some index)
    (hindex : run.allExisting[index]? = some existing) (hlists : Lists run.allExisting w.1) :
    ∃ answer s e, (importDuplicate mode importedAt recordNumber c index existing run).run
        (netHandle env) w = (answer, s, e)
      ∧ RecordStep config mode importedAt qso run w.1 (answer, s) := by
  unfold importDuplicate
  by_cases hrefresh : mode.refresh = true
  case neg =>
    rw [Bool.not_eq_true] at hrefresh
    rw [hrefresh]
    exact ⟨_, _, _, rfl, .passes _ rfl rfl⟩
  rw [hrefresh, Bool.not_true, if_neg Bool.false_ne_true]
  rcases hdiag : withDiagnostic mode importedAt (resolveDiagnostic existing) c with ex | imported
  · exact ⟨_, _, _, rfl, .fails ex⟩
  dsimp only
  rw [Prog.run_bind, run_utcNow, callStore, Prog.run_bind, run_logbook]
  dsimp only [MemoryStorage.exec]
  have hmem := (hlists.mem_iff existing).mp (List.mem_of_getElem? hindex)
  have hstored : w.1.get (mergeQsoForRefresh existing imported (env.utcNow w.2).1).localId
      = some existing := hmem.1
  rw [MemoryStorage.updateQso, hstored, Option.isSome_some, if_pos rfl]
  refine ⟨_, _, _, rfl, .refreshes _ hrefresh hc hfind hindex rfl ?_ rfl rfl⟩
  exact contact_mergeQsoForRefresh (contact_withDiagnostic hdiag) existing _ _

theorem importNew_run (env : NetEnvironment ε) (config : EngineConfig) (mode : ImportMode)
    (importedAt : Ticks) {qso c : QsoRecord} {run : ImportRun}
    (hc : candidateOf config qso = some c)
    (hfind : run.allExisting.findIdx? (qsosMatchForDuplicate · c) = none) :
    ∃ answer s e, (importNew mode importedAt qso c run).run (netHandle env) w = (answer, s, e)
      ∧ RecordStep config mode importedAt qso run w.1 (answer, s) := by
  unfold importNew
  rcases hdiag : withDiagnostic mode importedAt id c with ex | candidate
  · exact ⟨_, _, _, rfl, .fails ex⟩
  dsimp only
  rcases hvalid : validateQsoForPersistence candidate with - | message
  case some => exact ⟨_, _, _, rfl, .fails _⟩
  dsimp only
  obtain ⟨row, e, hrun, -, hcontact, hdeleted⟩ :=
    finalizeQsoForWrite_run env (w := w) candidate true
  have hsame := contact_withDiagnostic hdiag
  rw [Prog.run_bind, hrun, callStore, Prog.run_bind, run_logbook]
  dsimp only [MemoryStorage.exec]
  by_cases hnew : (w.1.get row.localId).isSome = true
  · have hinsert : MemoryStorage.insertQso w.1 { row with syncStatus := SyncStatus.localOnly.toI32 }
        = (.error (.duplicate "QsoRecord" row.localId), w.1) := if_pos hnew
    rw [hinsert]
    exact ⟨_, _, _, rfl, .fails _⟩
  · have hinsert : MemoryStorage.insertQso w.1 { row with syncStatus := SyncStatus.localOnly.toI32 }
        = (.ok (), w.1.put { row with syncStatus := SyncStatus.localOnly.toI32 }) := if_neg hnew
    rw [hinsert]
    refine ⟨_, _, _, rfl, .inserts _ hc hfind (Option.not_isSome_iff_eq_none.mp hnew) ?_ ?_ rfl rfl⟩
    · have htrash : (contact candidate).deletedAt = (contact c).deletedAt := by rw [hsame]
      exact hdeleted.trans htrash
    · intro hset
      have htime : (contact candidate).utcTimestamp = (contact c).utcTimestamp := by rw [hsame]
      have hset' : isTimestampUnset candidate.utcTimestamp = false := by
        rw [← hset]
        exact congrArg isTimestampUnset htime
      exact (hcontact hset').trans hsame

/-- What the steps of a run with more warnings are. -/
theorem RecordStep.of_warned {config : EngineConfig} {mode : ImportMode} {importedAt : Ticks}
    {qso : QsoRecord} {run warned : ImportRun}
    {result : Except EngineException ImportRun × MemoryState}
    (hlist : warned.allExisting = run.allExisting) (hinserted : warned.inserted = run.inserted)
    (h : RecordStep config mode importedAt qso warned s result) :
    RecordStep config mode importedAt qso run s result := by
  cases h with
  | fails ex => exact .fails ex
  | passes run' h₁ h₂ => exact .passes run' (h₁.trans hlist) (h₂.trans hinserted)
  | refreshes run' h₁ h₂ h₃ h₄ h₅ h₆ h₇ h₈ =>
      rw [hlist] at h₃ h₄ h₇
      exact .refreshes run' h₁ h₂ h₃ h₄ h₅ h₆ h₇ (h₈.trans hinserted)
  | inserts run' h₁ h₂ h₃ h₄ h₅ h₆ h₇ =>
      rw [hlist] at h₂ h₆
      rw [hinserted] at h₇
      exact .inserts run' h₁ h₂ h₃ h₄ h₅ h₆ h₇

/-- One record of an import. -/
theorem importRecord_run (env : NetEnvironment ε) (config : EngineConfig) (mode : ImportMode)
    (importedAt : Ticks) (recordNumber : ℕ) (qso : QsoRecord) {run : ImportRun}
    (hlists : Lists run.allExisting w.1) :
    ∃ answer s e, (importRecord config mode importedAt recordNumber qso run).run (netHandle env) w
        = (answer, s, e)
      ∧ RecordStep config mode importedAt qso run w.1 (answer, s) := by
  unfold importRecord
  rcases hcontext : withStationContext qso config.activeProfile with reason | ⟨candidate, warnings⟩
  · exact ⟨_, _, _, rfl, .passes _ rfl rfl⟩
  dsimp only
  obtain ⟨hlist, hinserted⟩ := foldl_warn recordNumber warnings run
  generalize warnings.foldl (·.warn recordNumber ·) run = warned at hlist hinserted ⊢
  rcases hreason : invalidImportReason (normalizeQsoForPersistence candidate) with - | reason
  case some => exact ⟨_, _, _, rfl, .passes _ hlist hinserted⟩
  have hc : candidateOf config qso = some (normalizeQsoForPersistence candidate) := by
    rw [candidateOf, hcontext]
    exact Option.filter_eq_some_iff.mpr ⟨rfl, by rw [hreason]; rfl⟩
  rw [← hlist] at hlists
  rcases hfind : warned.allExisting.findIdx?
    (qsosMatchForDuplicate · (normalizeQsoForPersistence candidate)) with - | index
  · obtain ⟨answer, s, e, hrun, hstep⟩ := 
      importNew_run env config mode importedAt hc hfind
    exact ⟨answer, s, e, hrun, hstep.of_warned hlist hinserted⟩
  · obtain ⟨hlt, -⟩ := List.findIdx?_eq_some_iff_getElem.mp hfind
    have hindex : warned.allExisting[index]?
        = some (warned.allExisting.getD index (normalizeQsoForPersistence candidate)) := by
      rw [List.getD_eq_getElem?_getD, List.getElem?_eq_getElem hlt, Option.getD_some]
    obtain ⟨answer, s, e, hrun, hstep⟩ :=
      importDuplicate_run env config mode importedAt recordNumber hc hfind hindex hlists
    exact ⟨answer, s, e, hrun, hstep.of_warned hlist hinserted⟩

/-! ### Runs -/

/-- An import under way. -/
structure PendingImport where
  mode : ImportMode
  importedAt : Ticks
  recordNumber : ℕ
  remaining : List FetchedQso
  run : ImportRun

/-- The store with its surroundings, the import that holds the gate, and the records
that finished imports have inserted. -/
structure LogState (ε : Type) where
  world : NetWorld ε
  pending : Option PendingImport := none
  finished : List QsoRecord := []

/-- The records that imports have inserted so far. -/
def LogState.inserted (p : LogState ε) : List QsoRecord :=
  p.finished ++ p.pending.elim [] (·.run.inserted)

/-- What happens to the log. -/
inductive LogEvent where
  | updateQso (qso : Option QsoRecord) (syncToQrz syncToLotw : Bool)
  | deleteQso (localId : String) (queueRemoteDelete : Bool)
  | restoreQso (localId : String)
  | syncImported (localIds : List String)
  | importAdif (mode : ImportMode) (qsos : List FetchedQso)
  | nextRecord

/-- The state after a program that holds the gate from start to end. -/
def LogState.after {α : Type} (env : NetEnvironment ε) (p : LogState ε) (program : NetProgram α) :
    LogState ε :=
  { p with world := (program.run (netHandle env) p.world).2 }

/-- An import takes its list. -/
def LogState.startImport (env : NetEnvironment ε) (p : LogState ε) (mode : ImportMode)
    (qsos : List FetchedQso) : LogState ε :=
  let (importedAt, w) := utcNow.run (netHandle env) p.world
  match (logbook (.listQsos {})).run (netHandle env) w with
  | (.error _, w) => { p with world := w }
  | (.ok allExisting, w) =>
      { p with
        world := w
        pending := some
          { mode, importedAt, recordNumber := 1, remaining := qsos, run := { allExisting } } }

/-- The next record of an import, or its end. -/
def LogState.nextRecord (config : EngineConfig) (env : NetEnvironment ε) (p : LogState ε)
    (pending : PendingImport) : LogState ε :=
  match pending.remaining with
  | [] => { world := p.world, finished := p.inserted }
  | qso :: remaining =>
      match (importRecord config pending.mode pending.importedAt pending.recordNumber qso.val
        pending.run).run (netHandle env) p.world with
      | (.error _, w) => { world := w, finished := p.inserted }
      | (.ok run, w) =>
          { p with
            world := w
            pending := some
              { pending with recordNumber := pending.recordNumber + 1, remaining, run } }

/-- An event, if the gate lets it happen. -/
def LogState.next (config : EngineConfig) (env : NetEnvironment ε) (p : LogState ε) :
    LogEvent → Option (LogState ε)
  | .updateQso qso syncToQrz syncToLotw =>
      if p.pending.isSome then none
      else some (p.after env (DotNet.updateQso config qso syncToQrz syncToLotw))
  | .deleteQso localId queueRemoteDelete =>
      if p.pending.isSome then none
      else some (p.after env (DotNet.deleteQso localId queueRemoteDelete))
  | .restoreQso localId =>
      if p.pending.isSome then none else some (p.after env (DotNet.restoreQso localId))
  | .syncImported localIds =>
      if p.pending.isSome then none
      else some (p.after env (syncImportedQsosToQrz config localIds))
  | .importAdif mode qsos => if p.pending.isSome then none else some (p.startImport env mode qsos)
  | .nextRecord => p.pending.map (p.nextRecord config env)

/-- The step relation. -/
def logStep (config : EngineConfig) (env : NetEnvironment ε) (p : LogState ε) (event : LogEvent)
    (p' : LogState ε) : Prop := p.next config env event = some p'

/-! ### What a step must leave -/

/-- The contacts of the records that imports have inserted. -/
def LogState.contacts (config : EngineConfig) (p : LogState ε) : List QsoRecord :=
  p.inserted.filterMap (candidateOf config)

/-- With `row` in place of the row under its id, an active row matches every contact. -/
def LogState.Covered (config : EngineConfig) (p : LogState ε) (row : QsoRecord) : Prop :=
  ∀ c ∈ p.contacts config,
    (row.deletedAt = none ∧ qsosMatchForDuplicate row c = true)
      ∨ RecognizedBeside p.world.1 row.localId c

/-- The next record of an import refreshes a row without losing a contact, or is inserted
with its own time. -/
def LogState.CoveredNext (config : EngineConfig) (p : LogState ε) (pending : PendingImport) :
    Prop :=
  match pending.remaining.head?.bind fun qso => candidateOf config qso.val with
  | none => True
  | some c =>
      match pending.run.allExisting.findIdx? (qsosMatchForDuplicate · c) with
      | none => isTimestampUnset c.utcTimestamp = false
      | some index =>
          pending.mode.refresh = true → ∀ existing ∈ pending.run.allExisting[index]?,
            p.Covered config (mergeQsoForRefresh existing c pending.importedAt)

/-- **The condition on a step**: the row it writes or hides leaves every contact an active row
that matches. -/
def LogState.Keeps (config : EngineConfig) (env : NetEnvironment ε) (p : LogState ε) :
    LogEvent → Prop
  | .updateQso qso _ _ =>
      ∀ q ∈ qso, ∀ existing ∈ p.world.1.get (Text.trim q.localId), existing.deletedAt = none →
        validateQsoForPersistence (updatedRow existing q) = none →
          p.Covered config (writtenRow env p.world existing q)
  | .deleteQso localId _ =>
      ∀ existing ∈ p.world.1.get (Text.trim localId), ∀ c ∈ p.contacts config,
        RecognizedBeside p.world.1 existing.localId c
  | .nextRecord => ∀ pending ∈ p.pending, p.CoveredNext config pending
  | _ => True

/-! ### The invariant -/

/-- Every contact is recognized, and an import under way compares with the active rows. -/
structure LogState.Inv (config : EngineConfig) (p : LogState ε) : Prop where
  recognized : ∀ c ∈ p.contacts config, Recognized p.world.1 c
  lists : ∀ pending ∈ p.pending, Lists pending.run.allExisting p.world.1

namespace LogState

variable {config : EngineConfig} {p p' : LogState ε}

theorem candidateOf_deletedAt {qso c : QsoRecord} (h : candidateOf config qso = some c) :
    c.deletedAt = qso.deletedAt := by
  unfold candidateOf withStationContext at h
  by_cases hcontext : qsoHasStationContext qso = true
  · rw [if_pos hcontext] at h
    obtain ⟨hc, -⟩ := Option.filter_eq_some_iff.mp h
    cases hc
    rfl
  · rw [if_neg hcontext] at h
    rcases hprofile : config.activeProfile with - | profile
    · rw [hprofile] at h
      cases h
    · rw [hprofile] at h
      obtain ⟨hc, -⟩ := Option.filter_eq_some_iff.mp h
      cases hc
      rfl

theorem qsosMatchForDuplicate_self (c : QsoRecord) : qsosMatchForDuplicate c c = true := by
  have htext (t : String) : NetText.equalsIgnoreCase t t = true := beq_self_eq_true _
  have hsubmode : optionalStringsCompatible c.submode c.submode = true := by
    unfold optionalStringsCompatible
    rcases trimmedNonEmpty c.submode with - | t
    · rfl
    · exact htext t
  have hkhz : optionalUInt64Compatible c.frequencyKhz c.frequencyKhz = true := by
    unfold optionalUInt64Compatible
    rcases c.frequencyKhz with - | khz
    · rfl
    · exact beq_self_eq_true khz
  have hfrequency : frequenciesCompatible c c = true := by
    unfold frequenciesCompatible
    rcases c.frequencyHz with - | hz
    · exact hkhz
    · simp
  simp [qsosMatchForDuplicate, timestampsMatch, stringsEqualIgnoreAsciiCase, htext, hsubmode,
    hfrequency]

/-- Records with one contact match the same candidates. -/
theorem matches_congr {r r' : QsoRecord} (h : contact r' = contact r) (c : QsoRecord) :
    qsosMatchForDuplicate r' c = qsosMatchForDuplicate r c := by
  rw [← qsosMatchForDuplicate_contact, h, qsosMatchForDuplicate_contact]

theorem deletedAt_congr {r r' : QsoRecord} (h : contact r' = contact r) :
    r'.deletedAt = r.deletedAt := by
  have hcontact : (contact r').deletedAt = (contact r).deletedAt := by rw [h]
  exact hcontact

/-- A covering row is written. -/
theorem Covered.recognized {row : QsoRecord} (h : p.Covered config row) {c : QsoRecord}
    (hc : c ∈ p.contacts config) : Recognized (p.world.1.put row) c := recognized_put.mpr (h c hc)

theorem Covered.congr {row row' : QsoRecord} (h : p.Covered config row)
    (hid : row'.localId = row.localId) (hcontact : contact row' = contact row) :
    p.Covered config row' := by
  intro c hc
  rw [matches_congr hcontact, deletedAt_congr hcontact, hid]
  exact h c hc

/-- A program that holds the gate, by what it does to the contacts. -/
theorem inv_after {α : Type} (hpending : p.pending = none) {program : NetProgram α}
    (hknown : ∀ c ∈ p.contacts config, Recognized (p.after env program).world.1 c) :
    (p.after env program).Inv config := by
  refine ⟨hknown, fun pending h => ?_⟩
  rw [show (p.after env program).pending = none from hpending] at h
  cases h

theorem Inv.updateQso (hinv : p.Inv config) (hpending : p.pending = none) {qso : Option QsoRecord}
    {syncToQrz syncToLotw : Bool}
    (hkeeps : p.Keeps config env (.updateQso qso syncToQrz syncToLotw)) :
    (p.after env (DotNet.updateQso config qso syncToQrz syncToLotw)).Inv config := by
  refine inv_after hpending fun c hc => ?_
  rcases updateQso_contacts env (w := p.world) config qso syncToQrz syncToLotw with
    hsame | ⟨q, existing, hq, hstored, hactive, hvalid, -, hsame⟩
  · exact (hinv.recognized c hc).of_sameContacts hsame
  · have hcovered := hkeeps q hq existing hstored hactive hvalid
    exact (hcovered.recognized hc).of_sameContacts hsame

theorem Inv.deleteQso (hinv : p.Inv config) (hpending : p.pending = none) {localId : String}
    {queueRemoteDelete : Bool}
    (hkeeps : p.Keeps config env (.deleteQso localId queueRemoteDelete)) :
    (p.after env (DotNet.deleteQso localId queueRemoteDelete)).Inv config := by
  refine inv_after hpending fun c hc => ?_
  show Recognized ((DotNet.deleteQso localId queueRemoteDelete).run (netHandle env) p.world).2.1 c
  rcases deleteQso_run env (w := p.world) localId queueRemoteDelete with
    hsame | ⟨existing, hstored, hput⟩
  · rw [hsame]
    exact hinv.recognized c hc
  · rw [hput]
    exact recognized_put.mpr (.inr (hkeeps existing hstored c hc))

/-- A restored row is recognized by what it was, and by its own contact. -/
theorem Inv.restoreQso (hinv : p.Inv config) (hpending : p.pending = none) {localId : String} :
    (p.after env (DotNet.restoreQso localId)).Inv config := by
  refine inv_after hpending fun c hc => ?_
  rcases restoreQso_contacts env (w := p.world) localId with hsame | ⟨existing, hstored, hsame⟩
  · show Recognized ((DotNet.restoreQso localId).run (netHandle env) p.world).2.1 c
    rw [hsame]
    exact hinv.recognized c hc
  · refine Recognized.of_sameContacts (recognized_put.mpr ?_) hsame
    obtain ⟨r, hr, hactive, hmatch⟩ := hinv.recognized c hc
    by_cases hid : r.localId = existing.localId
    · -- the row was active before, and matched
      have hget := MemoryState.mem_rows.mp hr
      rw [hid, MemoryState.localId_of_get hstored, hstored] at hget
      cases hget
      exact .inl ⟨rfl, hmatch⟩
    · exact .inr ⟨r, hr, hid, hactive, hmatch⟩

theorem Inv.syncImported (hinv : p.Inv config) (hpending : p.pending = none)
    {localIds : List String} :
    (p.after env (syncImportedQsosToQrz config localIds)).Inv config :=
  inv_after hpending fun c hc =>
    (hinv.recognized c hc).of_sameContacts (syncImportedQsosToQrz_contacts config localIds p.world)

theorem Inv.startImport (hinv : p.Inv config) (hpending : p.pending = none) (mode : ImportMode)
    (qsos : List FetchedQso) : (p.startImport env mode qsos).Inv config := by
  have hcontacts : p.contacts config = p.finished.filterMap (candidateOf config) := by
    rw [contacts, inserted, hpending, Option.elim_none, List.append_nil]
  have hknown := hinv.recognized
  rw [hcontacts] at hknown
  rw [LogState.startImport, run_utcNow]
  dsimp only
  rw [run_logbook]
  dsimp only [MemoryStorage.exec]
  rcases hlist : MemoryStorage.listQsos p.world.1 {} with ex | rows
  · refine ⟨?_, fun pending h => ?_⟩
    · rw [contacts, inserted]
      dsimp only
      rw [hpending, Option.elim_none, List.append_nil]
      exact hknown
    · dsimp only at h
      rw [hpending] at h
      cases h
  · refine ⟨?_, fun pending h => ?_⟩
    · rw [contacts, inserted]
      dsimp only
      rw [Option.elim_some, List.append_nil]
      exact hknown
    · cases h
      exact .of_listQsos hlist

/-- An import that ends has inserted what it has inserted. -/
theorem Inv.finish (hinv : p.Inv config) (e : ε) :
    LogState.Inv config { world := (p.world.1, e), finished := p.inserted } := by
  refine ⟨?_, nofun⟩
  rw [contacts, inserted]
  dsimp only
  rw [Option.elim_none, List.append_nil]
  exact hinv.recognized

theorem Inv.nextRecord (hinv : p.Inv config) {pending : PendingImport}
    (hpending : p.pending = some pending) (hkeeps : p.Keeps config env .nextRecord) :
    (p.nextRecord config env pending).Inv config := by
  have hnext := hkeeps pending hpending
  have hlists := hinv.lists pending hpending
  have hcontacts : p.contacts config
      = (p.finished ++ pending.run.inserted).filterMap (candidateOf config) := by
    rw [contacts, inserted, hpending, Option.elim_some]
  rw [LogState.nextRecord]
  rcases hremaining : pending.remaining with - | ⟨qso, remaining⟩
  · exact hinv.finish p.world.2
  rw [CoveredNext, hremaining] at hnext
  obtain ⟨answer, s, e, hrun, hstep⟩ := importRecord_run env config pending.mode
    pending.importedAt pending.recordNumber qso.val hlists
  dsimp only
  rw [hrun]
  -- what is left to show of a record that does not end the import
  have hgoal {run : ImportRun} (hlist : Lists run.allExisting s)
      (hknown : ∀ c ∈ (p.finished ++ run.inserted).filterMap (candidateOf config), Recognized s c) :
      LogState.Inv config
        { p with
          world := (s, e)
          pending := some
            { pending with recordNumber := pending.recordNumber + 1, remaining, run } } := by
    refine ⟨hknown, fun pending' h => ?_⟩
    cases h
    exact hlist
  cases hstep with
  | fails ex => exact hinv.finish e
  | passes run' hlist hinserted =>
      refine hgoal (hlist ▸ hlists) ?_
      rw [hinserted, ← hcontacts]
      exact hinv.recognized
  | @refreshes c existing merged index run' hrefresh hc hfind hindex hid hmerged hlist hinserted =>
      rw [List.head?_cons, Option.bind_some, hc] at hnext
      dsimp only at hnext
      rw [hfind] at hnext
      have hcovered := hnext hrefresh existing hindex
      have hmem := (hlists.mem_iff existing).mp (List.mem_of_getElem? hindex)
      refine hgoal ?_ ?_
      · rw [hlist]
        exact hlists.set hindex hid ((deletedAt_congr hmerged).trans hmem.2)
      · rw [hinserted, ← hcontacts]
        exact fun c hc => (hcovered.congr hid hmerged).recognized hc
  | @inserts c row run' hc hfind hnew hdeleted hcontact hlist hinserted =>
      rw [List.head?_cons, Option.bind_some, hc] at hnext
      dsimp only at hnext
      rw [hfind] at hnext
      have hsame := hcontact hnext
      have hactive : row.deletedAt = none :=
        hdeleted.trans ((candidateOf_deletedAt hc).trans qso.property)
      refine hgoal ?_ ?_
      · rw [hlist]
        exact hlists.append hnew hactive
      · rw [hinserted, ← List.append_assoc, List.filterMap_append, ← hcontacts]
        intro c' hc'
        refine recognized_put.mpr ?_
        rcases List.mem_append.mp hc' with hold | hown
        · -- the new row has an id of its own
          obtain ⟨r, hr, hactive, hmatch⟩ := hinv.recognized c' hold
          refine .inr ⟨r, hr, ?_, hactive, hmatch⟩
          intro hid
          have hget := MemoryState.mem_rows.mp hr
          rw [hid, hnew] at hget
          cases hget
        · rw [List.filterMap_cons, hc, List.filterMap_nil, List.mem_singleton] at hown
          subst hown
          refine .inl ⟨hactive, ?_⟩
          rw [matches_congr hsame]
          exact qsosMatchForDuplicate_self c'

/-- **Step lemma.** -/
theorem Inv.step (hinv : p.Inv config) {event : LogEvent} (hkeeps : p.Keeps config env event)
    (hstep : logStep config env p event p') : p'.Inv config := by
  have hfree {q : LogState ε} (h : (if p.pending.isSome = true then none else some q) = some p') :
      p.pending = none ∧ q = p' := by
    by_cases hpending : p.pending.isSome = true
    · rw [if_pos hpending] at h
      cases h
    · rw [if_neg hpending] at h
      exact ⟨Option.not_isSome_iff_eq_none.mp hpending, Option.some.inj h⟩
  cases event with
  | updateQso qso syncToQrz syncToLotw =>
      obtain ⟨hpending, rfl⟩ := hfree hstep
      exact hinv.updateQso hpending hkeeps
  | deleteQso localId queueRemoteDelete =>
      obtain ⟨hpending, rfl⟩ := hfree hstep
      exact hinv.deleteQso hpending hkeeps
  | restoreQso localId =>
      obtain ⟨hpending, rfl⟩ := hfree hstep
      exact hinv.restoreQso hpending
  | syncImported localIds =>
      obtain ⟨hpending, rfl⟩ := hfree hstep
      exact hinv.syncImported hpending
  | importAdif mode qsos =>
      obtain ⟨hpending, rfl⟩ := hfree hstep
      exact hinv.startImport hpending mode qsos
  | nextRecord =>
      obtain ⟨pending, hpending, rfl⟩ := Option.map_eq_some_iff.mp hstep
      exact hinv.nextRecord hpending hkeeps

/-- A run that meets the condition keeps the invariant. -/
theorem inv_of_run {w : NetWorld ε} {events : List LogEvent}
    (hrun : Transition.Run (logStep config env) (fun _ p event => p.Keeps config env event)
      { world := w } events p) : p.Inv config := by
  have hstart : LogState.Inv config ({ world := w } : LogState ε) :=
    ⟨fun c hc => absurd hc List.not_mem_nil, nofun⟩
  exact hrun.invariant (I := fun _ p => p.Inv config) hstart fun hinv hkeeps hstep =>
    hinv.step hkeeps hstep

end LogState

/-! ### An import record by record -/

section Import

variable {config : EngineConfig} {p q : LogState ε} {events : List LogEvent}

/-- The records of an import, one event after another. -/
theorem importRecords_steps (qsos : List FetchedQso) (mode : ImportMode) (importedAt : Ticks)
    (recordNumber : ℕ) (run : ImportRun)
    (hrun : Transition.Run (logStep config env) (fun _ _ _ => True) p events q)
    (hpending : q.pending
      = some { mode, importedAt, recordNumber, remaining := qsos, run }) :
    ∃ events p', Transition.Run (logStep config env) (fun _ _ _ => True) p events p'
      ∧ p'.pending = none
      ∧ p'.world = ((importRecords config mode importedAt recordNumber (qsos.map (·.val)) run).run
          (netHandle env) q.world).2 := by
  have hstep : logStep config env q .nextRecord (q.nextRecord config env
      { mode, importedAt, recordNumber, remaining := qsos, run }) := by
    rw [logStep, LogState.next, hpending, Option.map_some]
  have hnext := hrun.snoc hstep trivial
  induction qsos generalizing q events recordNumber run with
  | nil => exact ⟨_, _, hnext, rfl, rfl⟩
  | cons qso qsos ih =>
      rw [LogState.nextRecord] at hnext
      rw [List.map_cons, importRecords, Prog.run_bind]
      dsimp only at hnext
      rcases hone : (importRecord config mode importedAt recordNumber qso.val run).run
        (netHandle env) q.world with ⟨ex | run', w⟩
      · rw [hone] at hnext
        exact ⟨_, _, hnext, rfl, rfl⟩
      · rw [hone] at hnext
        refine ih (recordNumber + 1) run' hnext rfl ?_ (hnext.snoc ?_ trivial)
        · rfl
        · rfl

/-- **The events of an import are the import.** -/
theorem importAdifDetailed_steps (hpending : p.pending = none) (mode : ImportMode)
    (qsos : List FetchedQso) :
    ∃ events p', Transition.Run (logStep config env) (fun _ _ _ => True) p events p'
      ∧ p'.pending = none
      ∧ p'.world = ((importAdifDetailed config mode (qsos.map (·.val))).run (netHandle env)
          p.world).2 := by
  have hstep : logStep config env p (.importAdif mode qsos) (p.startImport env mode qsos) := by
    rw [logStep, LogState.next, hpending]
    rfl
  have hnil : Transition.Run (logStep config env) (fun _ _ _ => True) p [] p := .nil p
  have hstart := hnil.snoc hstep trivial
  rw [LogState.startImport, run_utcNow] at hstart
  rw [importAdifDetailed, Prog.run_bind, run_utcNow, callStore, Prog.run_bind, run_logbook]
  dsimp only at hstart
  rw [run_logbook] at hstart
  dsimp only [MemoryStorage.exec] at hstart ⊢
  rcases hlist : MemoryStorage.listQsos p.world.1 {} with ex | rows
  · rw [hlist] at hstart
    exact ⟨_, _, hstart, hpending, rfl⟩
  · rw [hlist] at hstart
    exact importRecords_steps qsos mode _ 1 _ hstart rfl

end Import

/-! ### Runs that are computed -/

/-- The events that the gate lets happen, one after another. -/
def logTurn (config : EngineConfig) (env : NetEnvironment ε) (p : LogState ε) (event : LogEvent) :
    Option (LogEvent × LogState ε) := (p.next config env event).map (event, ·)

theorem logTurn_step (config : EngineConfig) (env : NetEnvironment ε) (p : LogState ε)
    (event e : LogEvent) (q : LogState ε) (h : logTurn config env p event = some (e, q)) :
    logStep config env p e q := by
  obtain ⟨q', hq', heq⟩ := Option.map_eq_some_iff.mp h
  cases heq
  exact hq'

instance (config : EngineConfig) (p : LogState ε) (row : QsoRecord) :
    Decidable (p.Covered config row) := inferInstanceAs (Decidable (∀ c ∈ p.contacts config, _))

instance (config : EngineConfig) (p : LogState ε) (pending : PendingImport) :
    Decidable (p.CoveredNext config pending) := by
  unfold LogState.CoveredNext
  split
  · exact inferInstance
  · split
    · exact inferInstance
    · exact inferInstance

instance (config : EngineConfig) (env : NetEnvironment ε) (p : LogState ε) (event : LogEvent) :
    Decidable (p.Keeps config env event) := by
  cases event <;> unfold LogState.Keeps <;> infer_instance

/-- A clock that stands still at noon of 2024-05-01, and ids by number. -/
def quietServices : NetEnvironment ℕ where
  qrz c e :=
    match c with
    | .fetchQsos _ | .uploadQso _ _ | .uploadQsoWithReplace _ _ | .updateQso _ _ | .getStatus
    | .deleteQso _ => (.error (.other "offline"), e)
  lotw c e :=
    match c with
    | .uploadQsos _ | .fetchConfirmations _ => (.error (.failed "offline"), e)
  newGuid e := ("id-" ++ toString e, e + 1)
  utcNow e := (1714564800 * ticksPerSecond, e)

/-- A station that uploads nothing. -/
def fieldStation : EngineConfig where
  activeProfile := some { stationCallsign := "K7RND", profileName := some "Home" }
  hasQrzKey := false
  hasSyncEngine := false
  lotwError := none

/-- The contact of a file. -/
def fileContact : FetchedQso :=
  ⟨{ workedCallsign := "W1AW"
     utcTimestamp := some ⟨1714560000, 0⟩
     band := Band.band20m.toI32
     mode := Mode.ft8.toI32 }, rfl⟩

/-- The file is imported as it is. -/
def plainImport : ImportMode where
  refresh := false
  text := { instant := fun _ => "", milliseconds := fun _ => "" }

/-- What becomes of an empty log. -/
def logAfter (events : List LogEvent) : LogState ℕ :=
  (Transition.schedule (logTurn fieldStation quietServices) events { world := (.empty, 0) }).2

/-- The file is imported, and its row gets a comment. -/
def commentedImport : List LogEvent :=
  [.importAdif plainImport [fileContact], .nextRecord, .nextRecord,
    .updateQso (some { fileContact.val with localId := "id-0", comment := some "nice signal" })
      false false]

/-! ### Replaying -/

section Replay

variable {config : EngineConfig} {mode : ImportMode}

/-- A contact that is recognized is passed over. -/
theorem importRecord_recognized (env : NetEnvironment ε) (hrefresh : mode.refresh = false)
    (importedAt : Ticks) (recordNumber : ℕ) {qso : QsoRecord}
    (hknown : ∀ c ∈ candidateOf config qso, Recognized w.1 c) {run : ImportRun}
    (hlists : Lists run.allExisting w.1) :
    ∃ answer e, (importRecord config mode importedAt recordNumber qso run).run (netHandle env) w
        = (answer, w.1, e)
      ∧ ∀ run', answer = .ok run' → run'.allExisting = run.allExisting := by
  obtain ⟨answer, s, e, hrun, hstep⟩ :=
    importRecord_run env config mode importedAt recordNumber qso hlists
  rw [hrun]
  cases hstep with
  | fails ex => exact ⟨_, e, rfl, nofun⟩
  | passes run' hlist hinserted =>
      refine ⟨_, e, rfl, fun run'' h => ?_⟩
      cases h
      exact hlist
  | refreshes run' htrue =>
      rw [hrefresh] at htrue
      cases htrue
  | inserts run' hc hfind =>
      have hfound := hlists.findIdx?_isSome (hknown _ hc)
      rw [hfind] at hfound
      cases hfound

theorem importRecords_recognized (hrefresh : mode.refresh = false) (importedAt : Ticks)
    (recordNumber : ℕ) {qsos : List QsoRecord}
    (hknown : ∀ qso ∈ qsos, ∀ c ∈ candidateOf config qso, Recognized w.1 c) {run : ImportRun}
    (hlists : Lists run.allExisting w.1) :
    ((importRecords config mode importedAt recordNumber qsos run).run (netHandle env) w).2.1
      = w.1 := by
  induction qsos generalizing w recordNumber run with
  | nil => rfl
  | cons qso qsos ih =>
      obtain ⟨hfirst, hrest⟩ := List.forall_mem_cons.mp hknown
      obtain ⟨answer, e, hrun, hlist⟩ := importRecord_recognized env hrefresh importedAt
        recordNumber hfirst hlists
      rw [importRecords, Prog.run_bind, hrun]
      rcases answer with ex | run'
      · rfl
      · have hlists' : Lists run'.allExisting w.1 := by
          rw [hlist run' rfl]
          exact hlists
        exact ih (w := (w.1, e)) (recordNumber + 1) hrest hlists'

theorem importAdifDetailed_recognized (hrefresh : mode.refresh = false) {qsos : List QsoRecord}
    (hknown : ∀ qso ∈ qsos, ∀ c ∈ candidateOf config qso, Recognized w.1 c) :
    ((importAdifDetailed config mode qsos).run (netHandle env) w).2.1 = w.1 := by
  rw [importAdifDetailed, Prog.run_bind, run_utcNow, callStore, Prog.run_bind, run_logbook]
  dsimp only [MemoryStorage.exec]
  rcases hlist : MemoryStorage.listQsos w.1 {} with ex | rows
  · rfl
  · refine importRecords_recognized (w := (w.1, (env.utcNow w.2).2)) hrefresh _ 1 hknown ?_
    exact .of_listQsos hlist

/-- A record that an import has inserted is recognized. -/
theorem LogState.Inv.recognized_inserted {p : LogState ε} (hinv : p.Inv config) {qso : QsoRecord}
    (hqso : qso ∈ p.inserted) : ∀ c ∈ candidateOf config qso, Recognized p.world.1 c :=
  fun c hc => hinv.recognized c (List.mem_filterMap.mpr ⟨qso, hqso, hc⟩)

/-- **Replaying changes nothing**, in a run each step of which leaves every inserted contact an
active row that matches: importing inserted records again without refreshing leaves the store as
it is, and so does each of them in a file with others. -/
theorem reimport_unchanged {events : List LogEvent} {p : LogState ε}
    (hrun : Transition.Run (logStep config env) (fun _ p event => p.Keeps config env event)
      { world := w } events p) :
    (∀ mode qsos, p.pending = none → mode.refresh = false → (∀ qso ∈ qsos, qso ∈ p.inserted) →
        ((importAdifDetailed config mode qsos).run (netHandle env) p.world).2.1 = p.world.1)
      ∧ ∀ pending qso rest, p.pending = some pending → pending.mode.refresh = false →
        pending.remaining = qso :: rest → qso.val ∈ p.inserted →
          (p.nextRecord config env pending).world.1 = p.world.1 := by
  have hinv := LogState.inv_of_run hrun
  constructor
  · intro mode qsos _ hrefresh hqsos
    exact importAdifDetailed_recognized hrefresh fun qso hqso =>
      hinv.recognized_inserted (hqsos qso hqso)
  · intro pending qso rest hpending hrefresh hremaining hqso
    obtain ⟨answer, e, hone, -⟩ := importRecord_recognized env hrefresh pending.importedAt
      pending.recordNumber (hinv.recognized_inserted hqso) (hinv.lists pending hpending)
    rw [LogState.nextRecord, hremaining]
    dsimp only
    rw [hone]
    rcases answer with ex | run
    · rfl
    · rfl

/-- The file is imported again after its row got a comment. -/
theorem reimport_unchanged_commented :
    ((importAdifDetailed fieldStation plainImport [fileContact.val]).run (netHandle quietServices)
      (logAfter commentedImport).world).2.1 = (logAfter commentedImport).world.1 := by
  have hmeets : Transition.meets (logTurn fieldStation quietServices)
      (fun _ p event => p.Keeps fieldStation quietServices event) [] commentedImport
      { world := (.empty, 0) } = true := by
    decide +kernel
  have hrun := Transition.schedule_run (logTurn_step fieldStation quietServices) hmeets
  have hinserted : (logAfter commentedImport).inserted = [fileContact.val] := by decide +kernel
  refine (reimport_unchanged hrun).1 plainImport [fileContact.val] ?_ rfl fun qso hqso => ?_
  · decide +kernel
  · exact hinserted ▸ hqso

/-- The row is moved to the trash instead: the file brings the contact back as a second row. -/
theorem not_reimport_unchanged_deleted :
    ¬ ∀ (events : List LogEvent) (p : LogState ℕ),
      Transition.Run (logStep fieldStation quietServices) (fun _ _ _ => True)
        { world := (.empty, 0) } events p → p.pending = none →
      ∀ qsos, (∀ qso ∈ qsos, qso ∈ p.inserted) →
        ((importAdifDetailed fieldStation plainImport qsos).run (netHandle quietServices)
          p.world).2.1 = p.world.1 := by
  intro h
  let events : List LogEvent :=
    [.importAdif plainImport [fileContact], .nextRecord, .nextRecord, .deleteQso "id-0" false]
  have hmeets : Transition.meets (logTurn fieldStation quietServices) (fun _ _ _ => True) [] events
      { world := (.empty, 0) } = true := by
    decide +kernel
  have hrun := Transition.schedule_run (logTurn_step fieldStation quietServices) hmeets
  have hinserted : (logAfter events).inserted = [fileContact.val] := by decide +kernel
  have hsame := h _ _ hrun (by decide +kernel) [fileContact.val] fun qso hqso => hinserted ▸ hqso
  have hrows := congrArg (fun s => s.rows.length) hsame
  revert hrows
  decide +kernel

end Replay

end QsoRipper.DotNet
