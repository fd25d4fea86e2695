/-
QsoRipper/Application/Diagnostic.lean

`import_adif_qsos_with_diagnostic`, refreshing: what becomes of the notes of a
row that import after import matches.

The merge takes the notes of the import for those of the row.  So the row ends
with the first diagnostic and nothing else, and the operator's lines are kept
exactly where there are none.
-/
import QsoRipper.Application.Reimport
import QsoRipper.Lib.Lines

namespace QsoRipper

open Interaction

/-- `import_adif_qsos_with_diagnostic`. -/
def importAdifQsosWithDiagnostic (qsos : List QsoRecord)
    (activeStationProfile : Option StationProfile) (refresh : Bool)
    (diagnostic : AdifImportDiagnostic) : Program (Except LogbookError AdifImportSummary) :=
  importAdifQsosInner qsos activeStationProfile refresh (some diagnostic)

variable {ε : Type} {env : Environment ε} {w w' : World ε} {s : MemoryState}
  {row qso candidate : QsoRecord} {profile : Option StationProfile} {warnings : List String}
  {diagnostic : AdifImportDiagnostic} {line : String} {localId : String}

/-! ### Diagnostics -/

/-- A diagnostic keeps to a field of its own, and its prefix can be seen. -/
structure AdifImportDiagnostic.WellFormed (diagnostic : AdifImportDiagnostic) : Prop where
  key_ne : diagnostic.extraFieldKey ≠ adifImportFingerprintField
  prefix_ne : Text.trim diagnostic.notePrefix ≠ ""

/-- A diagnostic line: one trimmed line that begins with the prefix. -/
structure AdifImportDiagnostic.IsDiagnostic (diagnostic : AdifImportDiagnostic) (line : String) :
    Prop where
  notMem : '\n' ∉ line.toList
  trimmed : Text.trim line = line
  marked : Text.startsWith line diagnostic.notePrefix = true

/-- The lines of a note that are no diagnostic. -/
def operatorLines (diagnostic : AdifImportDiagnostic) (notes : Option String) : List String :=
  (Text.lines (notes.getD "")).filter fun line => !Text.startsWith line diagnostic.notePrefix

/-- The lines of a note that are diagnostics. -/
def diagnosticLines (diagnostic : AdifImportDiagnostic) (notes : Option String) : List String :=
  (Text.lines (notes.getD "")).filter fun line => Text.startsWith line diagnostic.notePrefix

/-- `WSJTX_IMPORT_DIAGNOSTIC_FIELD` and `WSJTX_IMPORT_DIAGNOSTIC_PREFIX`. -/
def wsjtxImportDiagnostic : AdifImportDiagnostic :=
  ⟨"APP_QSORIPPER_WSJTX_IMPORT", "QsoRipper WSJT-X import:"⟩

/-- `wsjtx_import_note`, from the texts of the import time and of the milliseconds since the
end of the contact. -/
def wsjtxImportNote (importedAtText : String) (endDelta : Option String) (source : String) :
    String :=
  wsjtxImportDiagnostic.notePrefix ++ " imported_at_utc=" ++ importedAtText ++
    ", qso_end_to_import_ms=" ++ endDelta.getD "unavailable" ++
    ", source=" ++ source ++ ", engine=rust"

theorem wsjtxImportDiagnostic_wellFormed : wsjtxImportDiagnostic.WellFormed :=
  ⟨by decide, by decide +kernel⟩

/-- What WSJT-X ingestion writes is a diagnostic line. -/
theorem isDiagnostic_wsjtxImportNote {importedAtText source : String} {endDelta : Option String}
    (htime : '\n' ∉ importedAtText.toList) (hdelta : ∀ text ∈ endDelta, '\n' ∉ text.toList)
    (hsource : '\n' ∉ source.toList) :
    wsjtxImportDiagnostic.IsDiagnostic (wsjtxImportNote importedAtText endDelta source) where
  notMem := by
    have hshown : '\n' ∉ (endDelta.getD "unavailable").toList := by
      cases endDelta with
      | none => decide
      | some text => exact hdelta text rfl
    simp only [wsjtxImportNote, wsjtxImportDiagnostic, String.toList_append, List.mem_append,
      htime, hshown, hsource, or_false]
    decide
  trimmed := by
    rw [Text.trim_eq_self_iff]
    constructor
    · intro c hc
      have hfirst : c = 'Q' := by
        simpa [wsjtxImportNote, wsjtxImportDiagnostic, eq_comm] using hc
      rw [hfirst]
      decide +kernel
    · intro c hc
      rw [wsjtxImportNote, String.toList_append, List.getLast?_append_of_ne_nil _ (by decide)] at hc
      have hlast : c = 't' := by simpa [eq_comm] using hc
      rw [hlast]
      decide +kernel
  marked := by
    rw [Text.startsWith_iff]
    simp only [wsjtxImportNote, String.append_assoc]
    rw [String.toList_append]
    exact List.prefix_append _ _

/-- A line behind the prefix shows. -/
theorem trim_ne_of_marked (hd : diagnostic.WellFormed)
    (h : Text.startsWith line diagnostic.notePrefix = true) : Text.trim line ≠ "" := by
  intro hblank
  rw [Text.trim_eq_empty_iff] at hblank
  rw [Text.startsWith_iff] at h
  exact hd.prefix_ne (Text.trim_eq_empty_iff.mpr fun c hc => hblank c (h.subset hc))

/-- Behind the prefix, the import's note is the row's. -/
theorem mergeOptionalStr_marked (hd : diagnostic.WellFormed)
    (h : Text.startsWith line diagnostic.notePrefix = true) (notes : Option String) :
    mergeOptionalStr notes (some line) = some (Text.trim line) := by
  have hshown : (Text.trim line).isEmpty = false := by
    simpa using trim_ne_of_marked hd h
  rw [mergeOptionalStr, Option.bind_some, trimmedNonEmpty, hshown]
  rfl

/-- A diagnostic line is one line. -/
theorem lines_of_isDiagnostic (hd : diagnostic.WellFormed) (h : diagnostic.IsDiagnostic line) :
    Text.lines line = [line] := by
  have hne : line ≠ "" := by
    intro hline
    refine trim_ne_of_marked hd h.marked ?_
    rw [h.trimmed, hline]
  have hisLine : Text.IsLine line := by
    refine ⟨h.notMem, fun hlast => ?_⟩
    have hwhite := (Text.trim_eq_self_iff.mp h.trimmed).2 '\r' hlast
    exact absurd hwhite (by decide +kernel)
  have hjoined : Text.lines ("\n".intercalate [line]) = [line] :=
    Text.lines_intercalate (by simpa using hisLine) (by simpa using hne)
  simpa using hjoined

/-- The trimmed text is one diagnostic line exactly if the text is. -/
theorem diagnosticLines_trim_iff (hd : diagnostic.WellFormed) :
    diagnosticLines diagnostic (some (Text.trim line)) = [line]
      ↔ diagnostic.IsDiagnostic line := by
  rw [diagnosticLines, Option.getD_some]
  constructor
  · intro h
    have hmem : line ∈ (Text.lines (Text.trim line)).filter
        fun line => Text.startsWith line diagnostic.notePrefix := by
      rw [h]
      exact List.mem_cons_self
    obtain ⟨hline, hmarked⟩ := List.mem_filter.mp hmem
    -- the line is no longer than the trimmed text, so nothing was trimmed
    have hlength := (Text.sublist_of_mem_lines hline).length_le
    refine ⟨Text.notMem_of_mem_lines hline, ?_, hmarked⟩
    rw [← String.toList_inj]
    exact (Text.trim_infix line).sublist.eq_of_length_le hlength
  · intro h
    rw [h.trimmed, lines_of_isDiagnostic hd h, List.filter_eq_self]
    intro l hl
    rw [List.mem_singleton.mp hl]
    exact h.marked

/-! ### One record -/

/-- The import takes the record for a contact of the row. -/
def MatchesRow (profile : Option StationProfile) (localId : String) (s : MemoryState)
    (qso : QsoRecord) : Prop :=
  ∃ candidate warnings existing, importCandidate qso profile = .ok (candidate, warnings)
    ∧ duplicateOf s candidate = some existing ∧ existing.localId = localId

/-- The record has a diagnostic line, and no other notes. -/
def DiagnosticOnly (diagnostic : AdifImportDiagnostic) (qso : QsoRecord) (line : String) : Prop :=
  qso.extraFields[diagnostic.extraFieldKey]? = some line ∧ diagnostic.IsDiagnostic line
    ∧ operatorLines diagnostic qso.notes = []

/-- The candidate keeps the notes and the diagnostic. -/
theorem importCandidate_kept (hd : diagnostic.WellFormed)
    (h : importCandidate qso profile = .ok (candidate, warnings)) :
    candidate.notes = qso.notes
      ∧ candidate.extraFields[diagnostic.extraFieldKey]?
        = qso.extraFields[diagnostic.extraFieldKey]? := by
  have hstation : ∀ {stationed : QsoRecord} {warnings' : List String},
      withStationContext qso profile = .ok (stationed, warnings') →
      stationed.notes = qso.notes ∧ stationed.extraFields = qso.extraFields := by
    intro stationed warnings' hstationed
    unfold withStationContext at hstationed
    split at hstationed
    · cases hstationed
      exact ⟨rfl, rfl⟩
    · cases profile with
      | none => cases hstationed
      | some profile =>
          cases hstationed
          exact ⟨rfl, rfl⟩
  rw [importCandidate] at h
  split at h
  · cases h
  · rename_i stationed warnings' hstationed
    obtain ⟨hnotes, hextra⟩ := hstation hstationed
    dsimp only at h
    split at h
    · cases h
    · cases h
      refine ⟨hnotes, ?_⟩
      rw [← hextra]
      exact Std.ExtTreeMap.getElem?_insert.trans
        (if_neg fun hkey => hd.key_ne (Std.LawfulEqCmp.eq_of_compare hkey).symm)

/-- What an update that went through has written. -/
def Updated (s s' : MemoryState) (qso : QsoRecord) : Prop :=
  ∃ existing written, s.get (Text.trim qso.localId) = some existing
    ∧ existing.deletedAt = none ∧ s' = (s.updateQso written).2
    ∧ written.localId = Text.trim qso.localId ∧ written.deletedAt = none
    ∧ written.notes = qso.notes ∧ written.extraFields = qso.extraFields

/-- An update writes the notes and the extra fields of its request. -/
theorem updateQso_run_ok {stored : QsoRecord}
    (h : (updateQso qso).run (handle env) w = (.ok stored, w')) : Updated w.1 w'.1 qso := by
  -- the last step, whatever the clock and the row said before it
  have hwrite {existing : QsoRecord} (written : QsoRecord) (v : World ε) (hv : v.1 = w.1)
      (hget : w.1.get (Text.trim qso.localId) = some existing)
      (hactive : existing.deletedAt = none) (hid : written.localId = Text.trim qso.localId)
      (hdeleted : written.deletedAt = none) (hnotes : written.notes = qso.notes)
      (hextra : written.extraFields = qso.extraFields)
      (hrun : (writeBack written.localId written).run (handle env) v = (.ok stored, w')) :
      Updated w.1 w'.1 qso := by
    refine ⟨existing, written, hget, hactive, ?_, hid, hdeleted, hnotes, hextra⟩
    rw [writeBack, run_store] at hrun
    rw [← hv]
    split at hrun <;> cases hrun
    rfl
  rw [updateQso] at h
  dsimp only at h
  split at h
  · cases congrArg Prod.fst h
  · rw [run_store, show MemoryState.exec (.getQso (Text.trim qso.localId)) w.1
      = (.ok (w.1.get (Text.trim qso.localId)), w.1) from rfl] at h
    cases hget : w.1.get (Text.trim qso.localId) with
    | none =>
        rw [hget] at h
        cases congrArg Prod.fst h
    | some existing =>
        rw [hget] at h
        dsimp only at h
        split at h
        · cases congrArg Prod.fst h
        · rename_i hdeleted
          have hactive : existing.deletedAt = none := by simpa using hdeleted
          have hid := MemoryState.localId_of_get hget
          split at h
          · cases congrArg Prod.fst h
          · split at h
            · rw [Prog.run_bind, Prog.run_bind] at h
              refine hwrite _ _ ?_ hget hactive ?_ ?_ ?_ ?_ h
              · rfl
              · exact hid
              · exact hactive
              · rfl
              · rfl
            · rw [Prog.run_bind, Prog.run_bind] at h
              refine hwrite _ _ ?_ hget hactive ?_ ?_ ?_ ?_ h
              · rfl
              · exact hid
              · exact hactive
              · rfl
              · rfl

/-- The first diagnostic: that of the row, else that of the import. -/
def firstDiagnostic (diagnostic : AdifImportDiagnostic) (row : QsoRecord) (line : String) :
    String :=
  row.extraFields[diagnostic.extraFieldKey]?.getD line

/-- What an import that matches the row makes of it.  A row whose id is not trimmed is never
found by the update. -/
structure AfterImport (diagnostic : AdifImportDiagnostic) (first : String) (row row' : QsoRecord) :
    Prop where
  localId_eq : row'.localId = row.localId
  active : row'.deletedAt = none
  found : Text.trim row.localId = row.localId →
    row'.notes = mergeOptionalStr row.notes (some first)
      ∧ row'.extraFields[diagnostic.extraFieldKey]? = some first
  missed : Text.trim row.localId ≠ row.localId → row' = row

/-- Among diagnostics alone the note becomes the new one. -/
theorem notes_setImportDiagnostic (h : operatorLines diagnostic qso.notes = []) (note : String) :
    (setImportDiagnostic qso diagnostic note).notes = some note := by
  rw [operatorLines] at h
  rw [setImportDiagnostic]
  dsimp only
  rw [h, String.intercalate_nil, if_pos (by rfl), String.empty_append]

/-- The record of a diagnostic-only import, merged into the row. -/
theorem merge_withStoredDiagnostic
    (hline : candidate.extraFields[diagnostic.extraFieldKey]? = some line)
    (hquiet : operatorLines diagnostic candidate.notes = []) (now : Timestamp) :
    (mergeQsoForRefresh row (withStoredDiagnostic (some diagnostic) row candidate) now).notes
        = mergeOptionalStr row.notes (some (firstDiagnostic diagnostic row line))
      ∧ (mergeQsoForRefresh row (withStoredDiagnostic (some diagnostic) row candidate)
          now).extraFields[diagnostic.extraFieldKey]?
        = some (firstDiagnostic diagnostic row line) := by
  have hstored : withStoredDiagnostic (some diagnostic) row candidate
      = setImportDiagnostic candidate diagnostic (firstDiagnostic diagnostic row line) := by
    rw [withStoredDiagnostic, hline]
    rfl
  rw [hstored]
  constructor
  · show mergeOptionalStr row.notes (setImportDiagnostic candidate diagnostic _).notes = _
    rw [notes_setImportDiagnostic hquiet]
  · show (row.extraFields.insertMany (candidate.extraFields.insert diagnostic.extraFieldKey
      (firstDiagnostic diagnostic row line)).toList)[diagnostic.extraFieldKey]? = _
    refine Std.ExtTreeMap.getElem?_insertMany_list_of_mem Std.ReflCmp.compare_self
      Std.ExtTreeMap.distinct_keys_toList ?_
    exact Std.ExtTreeMap.mem_toList_iff_getElem?_eq_some.mpr Std.ExtTreeMap.getElem?_insert_self

/-- The duplicate that is found is a row of the store. -/
theorem get_of_duplicateOf {existing : QsoRecord} (h : duplicateOf s candidate = some existing) :
    s.get existing.localId = some existing := by
  rw [duplicateOf] at h
  rcases Option.or_eq_some_iff.mp h with h | ⟨-, h⟩
  · obtain ⟨fingerprint, -, hfind⟩ := Option.bind_eq_some_iff.mp h
    exact MemoryState.get_of_mem_listQsos (List.mem_of_find?_eq_some hfind)
  · obtain ⟨timestamp, -, hfind⟩ := Option.bind_eq_some_iff.mp h
    exact MemoryState.get_of_mem_listQsos (List.mem_of_find?_eq_some hfind)

/-- **One record.**  A diagnostic-only record that matches an active row. -/
theorem importSingleAdifQso_refresh {recordNumber : ℕ} {outcome : AdifImportOutcome}
    (hd : diagnostic.WellFormed) (hrow : w.1.get localId = some row)
    (hactive : row.deletedAt = none)
    (hmatch : MatchesRow profile localId w.1 qso) (hquiet : DiagnosticOnly diagnostic qso line)
    (h : (importSingleAdifQso recordNumber qso profile true (some diagnostic)).run (handle env) w
      = (.ok outcome, w')) :
    ∃ row', w'.1.get localId = some row'
      ∧ AfterImport diagnostic (firstDiagnostic diagnostic row line) row row' := by
  obtain ⟨candidate, warnings, existing, hcandidate, hdup, hid⟩ := hmatch
  obtain ⟨hnotes, hextra⟩ := importCandidate_kept hd hcandidate
  obtain ⟨hline, -, hquiet⟩ := hquiet
  rw [← hextra] at hline
  rw [← hnotes] at hquiet
  have hexisting : existing = row := by
    have hget := get_of_duplicateOf hdup
    rw [hid, hrow] at hget
    exact (Option.some.inj hget).symm
  subst hexisting
  rw [importSingleAdifQso, hcandidate] at h
  obtain ⟨found, w₁, hfound, h⟩ := run_orLogbookError_ok h
  rw [findDuplicateImport_run, hdup] at hfound
  cases hfound
  replace h : (importDuplicate recordNumber existing candidate
    (warnings.map (recordWarning recordNumber)) true (some diagnostic)).run (handle env) w
      = (.ok outcome, w') := h
  rw [importDuplicate, if_neg (by rw [hactive]; exact Bool.false_ne_true), if_pos rfl,
    refreshDuplicate, Prog.run_bind] at h
  obtain ⟨hmergedNotes, hmergedExtra⟩ :
      (mergeQsoForRefresh existing (withStoredDiagnostic (some diagnostic) existing candidate)
        (utcNow.run (handle env) w).1).notes
          = mergeOptionalStr existing.notes (some (firstDiagnostic diagnostic existing line)) ∧ _ :=
    merge_withStoredDiagnostic hline hquiet (utcNow.run (handle env) w).1
  have hmergedId : (mergeQsoForRefresh existing
      (withStoredDiagnostic (some diagnostic) existing candidate)
      (utcNow.run (handle env) w).1).localId = existing.localId := rfl
  have hclock : (utcNow.run (handle env) w).2.1 = w.1 := rfl
  dsimp only at h
  generalize (utcNow.run (handle env) w).2 = w₂ at h hclock
  generalize mergeQsoForRefresh existing (withStoredDiagnostic (some diagnostic) existing candidate)
    (utcNow.run (handle env) w).1 = merged at h hmergedNotes hmergedExtra hmergedId
  split at h
  · -- the merge changes nothing but the time of the update
    rename_i hsame
    cases h
    refine ⟨existing, by rw [hclock]; exact hrow, rfl, hactive, fun _ => ⟨?_, ?_⟩, fun _ => rfl⟩
    · rw [← hmergedNotes]
      exact QsoRecord.congr_of_beq hsame (·.notes) fun _ => rfl
    · rw [← hmergedExtra]
      exact QsoRecord.congr_of_beq hsame (·.extraFields[diagnostic.extraFieldKey]?) fun _ => rfl
  · obtain ⟨updated, w₃, hupdate, h⟩ := run_orLogbookError_ok h
    cases h
    obtain ⟨found, written, hfound, hfoundActive, hstore, hwrittenId, hdeleted, hwrittenNotes,
      hwrittenExtra⟩ := updateQso_run_ok hupdate
    rw [hmergedId, hid] at hfound hwrittenId
    rw [hstore, hclock]
    rw [hclock] at hfound
    have hkey := MemoryState.localId_of_get hrow
    by_cases htrim : Text.trim localId = localId
    · rw [htrim] at hfound hwrittenId
      refine ⟨written, ?_, ?_, hdeleted, fun _ => ⟨?_, ?_⟩, fun hne => absurd ?_ hne⟩
      · rw [MemoryState.get_updateQso (by rw [hwrittenId]; exact hfound), if_pos hwrittenId]
      · rw [hwrittenId, hkey]
      · rw [hwrittenNotes, hmergedNotes]
      · rw [hwrittenExtra, hmergedExtra]
      · rw [hkey, htrim]
    · refine ⟨existing, ?_, rfl, hactive, fun h => absurd ?_ htrim, fun _ => rfl⟩
      · rw [MemoryState.get_updateQso_of_ne (by rw [hwrittenId]; exact htrim)]
        exact hrow
      · rw [← hkey]
        exact h

/-! ### Import after import -/

/-- What the imports with these diagnostics make of a row. -/
def AfterImports (diagnostic : AdifImportDiagnostic) (row : QsoRecord) :
    List String → QsoRecord → Prop
  | [], row' => row' = row
  | line :: _, row' => AfterImport diagnostic (firstDiagnostic diagnostic row line) row row'

variable {row' row'' : QsoRecord} {lines lines' : List String} {first : String}

/-- The diagnostic of the first import stays. -/
theorem AfterImport.next (h : AfterImport diagnostic first row row')
    (h' : AfterImport diagnostic (firstDiagnostic diagnostic row' line) row' row'') :
    AfterImport diagnostic first row row'' where
  localId_eq := h'.localId_eq.trans h.localId_eq
  active := h'.active
  found htrim := by
    obtain ⟨hnotes, hextra⟩ := h.found htrim
    have hfirst : firstDiagnostic diagnostic row' line = first := by
      rw [firstDiagnostic, hextra, Option.getD_some]
    rw [← h.localId_eq] at htrim
    obtain ⟨hnotes', hextra'⟩ := h'.found htrim
    rw [hfirst] at hnotes' hextra'
    refine ⟨?_, hextra'⟩
    rw [hnotes', hnotes, mergeOptionalStr, mergeOptionalStr, ← Option.or_assoc, Option.or_self]
  missed htrim := by
    have hsame := h.missed htrim
    subst hsame
    exact h'.missed htrim

theorem AfterImports.active (h : AfterImports diagnostic row lines row')
    (hactive : row.deletedAt = none) : row'.deletedAt = none := by
  cases lines with
  | nil =>
      cases h
      exact hactive
  | cons line rest => exact AfterImport.active h

theorem AfterImports.append (h : AfterImports diagnostic row lines row')
    (h' : AfterImports diagnostic row' lines' row'') :
    AfterImports diagnostic row (lines ++ lines') row'' := by
  cases lines with
  | nil =>
      cases h
      exact h'
  | cons line rest =>
      cases lines' with
      | nil =>
          cases h'
          rw [List.append_nil]
          exact h
      | cons line' rest' => exact AfterImport.next h h'

/-- Every record of an import matches the row, when its turn comes. -/
def EachMatches (env : Environment ε) (profile : Option StationProfile)
    (diagnostic : AdifImportDiagnostic) (localId : String) : ℕ → List QsoRecord → World ε → Prop
  | _, [], _ => True
  | recordNumber, qso :: rest, w =>
      MatchesRow profile localId w.1 qso
        ∧ EachMatches env profile diagnostic localId (recordNumber + 1) rest
          ((importSingleAdifQso recordNumber qso profile true (some diagnostic)).run
            (handle env) w).2

/-- The loop of an import. -/
theorem importAdifQsosFrom_refresh {qsos : List QsoRecord} {recordNumber : ℕ}
    {summary summary' : AdifImportSummary} (hd : diagnostic.WellFormed)
    (hrow : w.1.get localId = some row) (hactive : row.deletedAt = none)
    (hmatch : EachMatches env profile diagnostic localId recordNumber qsos w)
    (hquiet : List.Forall₂ (DiagnosticOnly diagnostic) qsos lines)
    (h : (importAdifQsosFrom profile true (some diagnostic) recordNumber qsos summary).run
      (handle env) w = (.ok summary', w')) :
    ∃ row', w'.1.get localId = some row' ∧ AfterImports diagnostic row lines row' := by
  induction hquiet generalizing recordNumber summary w row with
  | nil =>
      cases h
      exact ⟨row, hrow, rfl⟩
  | @cons qso line qsos lines hqso _ ih =>
      obtain ⟨outcome, w₁, hfirst, h⟩ := run_orLogbookError_ok h
      obtain ⟨hhead, htail⟩ := hmatch
      rw [hfirst] at htail
      obtain ⟨row₁, hrow₁, hafter⟩ := importSingleAdifQso_refresh hd hrow hactive hhead hqso hfirst
      obtain ⟨row', hrow', hafter'⟩ := ih hrow₁ hafter.active htail h
      have hone : AfterImports diagnostic row [line] row₁ := hafter
      exact ⟨row', hrow', hone.append hafter'⟩

/-- Refreshing imports one after the other, with these diagnostics, that match the row and
succeed. -/
inductive Refreshes (env : Environment ε) (diagnostic : AdifImportDiagnostic) (localId : String) :
    World ε → List String → World ε → Prop
  | done {w : World ε} : Refreshes env diagnostic localId w [] w
  | call {w w' w'' : World ε} {profile : Option StationProfile} {qsos : List QsoRecord}
      {summary : AdifImportSummary} {lines rest : List String}
      (matched : EachMatches env profile diagnostic localId 1 qsos w)
      (quiet : List.Forall₂ (DiagnosticOnly diagnostic) qsos lines)
      (run : (importAdifQsosWithDiagnostic qsos profile true diagnostic).run (handle env) w
        = (.ok summary, w'))
      (next : Refreshes env diagnostic localId w' rest w'') :
      Refreshes env diagnostic localId w (lines ++ rest) w''

/-- **Import after import.** -/
theorem Refreshes.afterImports (hd : diagnostic.WellFormed)
    (h : Refreshes env diagnostic localId w lines w')
    (hrow : w.1.get localId = some row) (hactive : row.deletedAt = none) :
    ∃ row', w'.1.get localId = some row' ∧ AfterImports diagnostic row lines row' := by
  induction h generalizing row with
  | done => exact ⟨row, hrow, rfl⟩
  | call hmatch hquiet hrun _ ih =>
      obtain ⟨row₁, hrow₁, hafter⟩ := importAdifQsosFrom_refresh hd hrow hactive hmatch hquiet hrun
      obtain ⟨row', hrow', hafter'⟩ := ih hrow₁ (hafter.active hactive)
      exact ⟨row', hrow', hafter.append hafter'⟩

/-! ### The operator's notes -/

/-- Every line of the operator is still there, with one diagnostic line: the first one, which
the extra field holds too. -/
def KeepsNotes (diagnostic : AdifImportDiagnostic) (localId : String) (row : QsoRecord)
    (first : String) (s : MemoryState) : Prop :=
  ∃ row', s.get localId = some row'
    ∧ (∀ line ∈ operatorLines diagnostic row.notes, line ∈ Text.lines (row'.notes.getD ""))
    ∧ diagnosticLines diagnostic row'.notes = [first]
    ∧ row'.extraFields[diagnostic.extraFieldKey]? = some first

/-- The row has no line of the operator, and the first diagnostic is a diagnostic line; or the
update does not find the row, which has the diagnostic already. -/
def LosesNothing (diagnostic : AdifImportDiagnostic) (row : QsoRecord) (first : String) : Prop :=
  if Text.trim row.localId = row.localId then
    operatorLines diagnostic row.notes = [] ∧ diagnostic.IsDiagnostic first
  else
    diagnosticLines diagnostic row.notes = [first]
      ∧ row.extraFields[diagnostic.extraFieldKey]? = some first

/-- **When refreshing with a diagnostic keeps the notes.** -/
theorem refreshes_keepsNotes_iff (hd : diagnostic.WellFormed) (hrow : w.1.get localId = some row)
    (hactive : row.deletedAt = none)
    (hrun : Refreshes env diagnostic localId w (line :: lines) w') :
    KeepsNotes diagnostic localId row (firstDiagnostic diagnostic row line) w'.1
      ↔ LosesNothing diagnostic row (firstDiagnostic diagnostic row line) := by
  obtain ⟨row', hrow', hafter⟩ := hrun.afterImports hd hrow hactive
  replace hafter : AfterImport diagnostic (firstDiagnostic diagnostic row line) row row' := hafter
  generalize firstDiagnostic diagnostic row line = first at hafter
  have hkeeps : KeepsNotes diagnostic localId row first w'.1
      ↔ (∀ l ∈ operatorLines diagnostic row.notes, l ∈ Text.lines (row'.notes.getD ""))
        ∧ diagnosticLines diagnostic row'.notes = [first]
        ∧ row'.extraFields[diagnostic.extraFieldKey]? = some first := by
    rw [KeepsNotes, hrow']
    simp
  rw [hkeeps, LosesNothing]
  split_ifs with htrim
  · obtain ⟨hnotes, hextra⟩ := hafter.found htrim
    constructor
    · rintro ⟨hlines, hdiagnostic, -⟩
      have hmem : first ∈ diagnosticLines diagnostic row'.notes := by
        rw [hdiagnostic]
        exact List.mem_cons_self
      rw [mergeOptionalStr_marked hd (List.mem_filter.mp hmem).2] at hnotes
      rw [hnotes] at hdiagnostic hlines
      have hfirst := (diagnosticLines_trim_iff hd).mp hdiagnostic
      refine ⟨List.eq_nil_iff_forall_not_mem.mpr fun l hl => ?_, hfirst⟩
      -- the only line that is left is the diagnostic
      have honly := hlines l hl
      rw [Option.getD_some, hfirst.trimmed, lines_of_isDiagnostic hd hfirst] at honly
      have hunmarked := (List.mem_filter.mp hl).2
      rw [List.mem_singleton.mp honly, hfirst.marked] at hunmarked
      cases hunmarked
    · rintro ⟨hnone, hfirst⟩
      rw [mergeOptionalStr_marked hd hfirst.marked] at hnotes
      rw [hnone, hnotes]
      exact ⟨fun l hl => absurd hl List.not_mem_nil, (diagnosticLines_trim_iff hd).mpr hfirst,
        hextra⟩
  · rw [hafter.missed htrim]
    refine ⟨fun h => h.2, fun h => ⟨fun l hl => (List.mem_filter.mp hl).1, h⟩⟩

/-! ### A contact from WSJT-X -/

/-- Whether the import takes the record for a contact of the row. -/
theorem matchesRow_iff : MatchesRow profile localId s qso
    ↔ (((importCandidate qso profile).toOption.bind fun result =>
        duplicateOf s result.1).map (·.localId)) = some localId := by
  rw [MatchesRow]
  cases importCandidate qso profile with
  | error reason => simp [Except.toOption]
  | ok result =>
      obtain ⟨candidate, warnings⟩ := result
      simp [Except.toOption]

/-- What the ingestion writes. -/
def ingestNote : String :=
  wsjtxImportNote "2026-05-01T12:00:05.000Z" (some "5000") "udp_logged_adif"

/-- A contact, with notes. -/
def notedContact (notes : Option String) : QsoRecord :=
  { localId := "a", stationCallsign := "K7RND", workedCallsign := "W1AW"
    band := Band.band20m.toI32, mode := Mode.ft8.toI32, utcTimestamp := some ⟨1714560000, 0⟩
    notes }

/-- The contact as the ingestion has it. -/
def ingestedContact : QsoRecord :=
  { notedContact none with
    localId := ""
    extraFields := (∅ : Std.ExtTreeMap String String).insert
      wsjtxImportDiagnostic.extraFieldKey ingestNote }

/-- The import of the contact into a store that has it with these notes. -/
def ingested (notes : Option String) : Except LogbookError AdifImportSummary × World Unit :=
  (importAdifQsosWithDiagnostic [ingestedContact] none true wsjtxImportDiagnostic).run
    (handle quietRemote) (MemoryState.empty.put (notedContact notes), ())

/-- The import matches the row and succeeds. -/
theorem refreshes_ingested (notes : Option String)
    (hmatch : (((importCandidate ingestedContact none).toOption.bind fun result =>
      duplicateOf (MemoryState.empty.put (notedContact notes)) result.1).map (·.localId))
        = some "a")
    (hok : (ingested notes).1.toOption.isSome = true) :
    Refreshes quietRemote wsjtxImportDiagnostic "a"
      (MemoryState.empty.put (notedContact notes), ()) [ingestNote] (ingested notes).2 := by
  have hquiet : List.Forall₂ (DiagnosticOnly wsjtxImportDiagnostic) [ingestedContact]
      [ingestNote] := by
    refine .cons ⟨Std.ExtTreeMap.getElem?_insert_self, ?_, by decide +kernel⟩ .nil
    exact isDiagnostic_wsjtxImportNote (by decide) (by decide) (by decide)
  cases hrun : ingested notes with
  | mk result w' =>
      cases result with
      | error error =>
          rw [hrun] at hok
          cases hok
      | ok summary =>
          have heach : EachMatches quietRemote none wsjtxImportDiagnostic "a" 1 [ingestedContact]
              (MemoryState.empty.put (notedContact notes), ()) :=
            ⟨matchesRow_iff.mpr hmatch, trivial⟩
          show Refreshes _ _ _ _ ([ingestNote] ++ []) w'
          exact Refreshes.call heach hquiet hrun .done

/-- A row without notes gets the diagnostic. -/
theorem refreshes_keepsNotes_silent :
    KeepsNotes wsjtxImportDiagnostic "a" (notedContact none)
      (firstDiagnostic wsjtxImportDiagnostic (notedContact none) ingestNote)
      (ingested none).2.1 := by
  have hrun := refreshes_ingested none (by decide +kernel) (by decide +kernel)
  refine (refreshes_keepsNotes_iff wsjtxImportDiagnostic_wellFormed (by decide +kernel) rfl
    hrun).mpr ?_
  rw [LosesNothing, if_pos (by decide +kernel)]
  exact ⟨by decide +kernel, isDiagnostic_wsjtxImportNote (by decide) (by decide) (by decide)⟩

/-- A row with a note of the operator loses it. -/
theorem not_refreshes_keepsNotes :
    ¬ ∀ (w w' : World Unit) (row : QsoRecord) (line : String) (lines : List String),
      w.1.get "a" = some row → row.deletedAt = none →
      Refreshes quietRemote wsjtxImportDiagnostic "a" w (line :: lines) w' →
      KeepsNotes wsjtxImportDiagnostic "a" row (firstDiagnostic wsjtxImportDiagnostic row line)
        w'.1 := by
  intro h
  have hrun := refreshes_ingested (some "Nice chat") (by decide +kernel)
    (by decide +kernel)
  obtain ⟨row', hrow', hlines, -⟩ := h _ _ (notedContact (some "Nice chat")) _ _
    (by decide +kernel) rfl hrun
  have hstored : (((ingested (some "Nice chat")).2.1.get "a").map (·.notes))
      = some (some ingestNote) := by
    decide +kernel
  rw [hrow', Option.map_some, Option.some_inj] at hstored
  rw [hstored] at hlines
  exact absurd (hlines "Nice chat" (by decide +kernel)) (by decide +kernel)

end QsoRipper
