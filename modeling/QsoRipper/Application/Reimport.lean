/-
QsoRipper/Application/Reimport.lean

Importing the same records again.  Without refreshing, an import only adds
rows, so a record that it has recognised or stored is recognised ever after;
the second import finds every record and writes nothing.
-/
import QsoRipper.Application.Import

namespace QsoRipper

open Interaction

variable {ε : Type} {env : Environment ε} {w w' : World ε} {s s' : MemoryState}
  {qso qso' candidate : QsoRecord} {profile : Option StationProfile} {warnings : List String}

/-! ### Runs of the parts -/

theorem run_orLogbookError {α β : Type} {p : Program (Except LogbookError α)}
    {f : α → Program (Except LogbookError β)} :
    (orLogbookError p f).run (handle env) w
      = match (p.run (handle env) w).1 with
        | .error error => (.error error, (p.run (handle env) w).2)
        | .ok value => (f value).run (handle env) (p.run (handle env) w).2 := by
  rw [orLogbookError, Prog.run_bind]
  cases (p.run (handle env) w).1 <;> rfl

/-- A call that has succeeded went through. -/
theorem run_orLogbookError_ok {α β : Type} {p : Program (Except LogbookError α)}
    {f : α → Program (Except LogbookError β)} {b : β}
    (h : (orLogbookError p f).run (handle env) w = (.ok b, w')) :
    ∃ a w₁, p.run (handle env) w = (.ok a, w₁) ∧ (f a).run (handle env) w₁ = (.ok b, w') := by
  rw [run_orLogbookError] at h
  cases hp : (p.run (handle env) w).1 with
  | error error =>
      rw [hp] at h
      cases congrArg Prod.fst h
  | ok a =>
      rw [hp] at h
      exact ⟨a, (p.run (handle env) w).2, Prod.ext hp rfl, h⟩

/-- The row that `find_duplicate_import` finds. -/
def duplicateOf (s : MemoryState) (candidate : QsoRecord) : Option QsoRecord :=
  (candidate.extraFields[adifImportFingerprintField]?.bind fun fingerprint =>
      (s.listQsos { deletedFilter := .all }).find? (hasFingerprint fingerprint)).or
    (candidate.utcTimestamp.bind fun timestamp =>
      (s.listQsos (windowQuery candidate timestamp)).find? fun row =>
        qsosMatchForDuplicate row candidate)

theorem findDuplicateInWindow_run :
    (findDuplicateInWindow candidate).run (handle env) w
      = (.ok (candidate.utcTimestamp.bind fun timestamp =>
          (w.1.listQsos (windowQuery candidate timestamp)).find? fun row =>
            qsosMatchForDuplicate row candidate), w) := by
  rw [findDuplicateInWindow]
  cases candidate.utcTimestamp with
  | none => rfl
  | some timestamp => rfl

/-- The search for a record that carries a fingerprint. -/
theorem findDuplicateImport_fingerprint {fingerprint : String}
    (h : candidate.extraFields[adifImportFingerprintField]? = some fingerprint) :
    (findDuplicateImport candidate).run (handle env) w
      = (match (w.1.listQsos { deletedFilter := .all }).find? (hasFingerprint fingerprint) with
        | some existing => return .ok (some existing)
        | none => findDuplicateInWindow candidate :
          Program (Except LogbookError (Option QsoRecord))).run (handle env) w := by
  rw [findDuplicateImport, h]
  rfl

theorem findDuplicateImport_run :
    (findDuplicateImport candidate).run (handle env) w = (.ok (duplicateOf w.1 candidate), w) := by
  rw [duplicateOf]
  cases hfingerprint : candidate.extraFields[adifImportFingerprintField]? with
  | none =>
      rw [findDuplicateImport, hfingerprint]
      exact findDuplicateInWindow_run
  | some fingerprint =>
      rw [findDuplicateImport_fingerprint hfingerprint, Option.bind_some]
      cases (w.1.listQsos { deletedFilter := .all }).find? (hasFingerprint fingerprint) with
      | some existing => rfl
      | none => exact findDuplicateInWindow_run

/-! ### Recognising a record -/

/-- Every row of the one store is a row of the other. -/
def Extends (s s' : MemoryState) : Prop := ∀ id r, s.get id = some r → s'.get id = some r

theorem Extends.refl : Extends s s := fun _ _ h => h

theorem Extends.trans {s'' : MemoryState} (h : Extends s s') (h' : Extends s' s'') :
    Extends s s'' :=
  fun id r hr => h' id r (h id r hr)

theorem extends_put {r : QsoRecord} (hnew : s.get r.localId = none) : Extends s (s.put r) := by
  intro id r' hr'
  rw [MemoryState.get_put]
  split
  · rename_i hid
    rw [← hid, hnew] at hr'
    cases hr'
  · exact hr'

/-- A row that counts as a duplicate. -/
def IsDuplicate (r candidate : QsoRecord) : Prop :=
  (∃ fingerprint, candidate.extraFields[adifImportFingerprintField]? = some fingerprint
      ∧ hasFingerprint fingerprint r = true)
    ∨ ∃ timestamp, candidate.utcTimestamp = some timestamp
      ∧ MemoryState.matchesQuery r (windowQuery candidate timestamp) = true
      ∧ qsosMatchForDuplicate r candidate = true

/-- When a duplicate is found. -/
theorem duplicateOf_isSome :
    (duplicateOf s candidate).isSome = true
      ↔ ∃ r, s.get r.localId = some r ∧ IsDuplicate r candidate := by
  rw [duplicateOf, Option.isSome_or, Bool.or_eq_true]
  constructor
  · rintro (h | h)
    · obtain ⟨r, hr⟩ := Option.isSome_iff_exists.mp h
      obtain ⟨fingerprint, hfingerprint, hfind⟩ := Option.bind_eq_some_iff.mp hr
      refine ⟨r, MemoryState.get_of_mem_listQsos (List.mem_of_find?_eq_some hfind), .inl ?_⟩
      exact ⟨fingerprint, hfingerprint, List.find?_some hfind⟩
    · obtain ⟨r, hr⟩ := Option.isSome_iff_exists.mp h
      obtain ⟨timestamp, htimestamp, hfind⟩ := Option.bind_eq_some_iff.mp hr
      obtain ⟨hget, hquery⟩ := (MemoryState.mem_listQsos rfl rfl).mp (List.mem_of_find?_eq_some hfind)
      refine ⟨r, hget, .inr ⟨timestamp, htimestamp, hquery, ?_⟩⟩
      exact (List.find?_some hfind :)
  · rintro ⟨r, hget, ⟨fingerprint, hfingerprint, hhas⟩ | ⟨timestamp, htimestamp, hquery, hmatch⟩⟩
    · left
      rw [hfingerprint, Option.bind_some, List.find?_isSome]
      exact ⟨r, MemoryState.mem_listQsos_all.mpr hget, hhas⟩
    · right
      rw [htimestamp, Option.bind_some, List.find?_isSome]
      exact ⟨r, (MemoryState.mem_listQsos rfl rfl).mpr ⟨hget, hquery⟩, hmatch⟩

/-- The record is skipped as it is, or a row is its duplicate. -/
def KnownImport (profile : Option StationProfile) (s : MemoryState) (qso : QsoRecord) : Prop :=
  ∀ candidate warnings, importCandidate qso profile = .ok (candidate, warnings) →
    (duplicateOf s candidate).isSome = true

/-- More rows recognise more. -/
theorem KnownImport.mono (h : KnownImport profile s qso) (hs : Extends s s') :
    KnownImport profile s' qso := by
  intro candidate warnings hcandidate
  obtain ⟨r, hr, hdup⟩ := duplicateOf_isSome.mp (h candidate warnings hcandidate)
  exact duplicateOf_isSome.mpr ⟨r, hs _ r hr, hdup⟩

/-- A record that is looked for carries a fingerprint. -/
theorem importCandidate_stamped
    (h : importCandidate qso profile = .ok (candidate, warnings)) :
    ∃ fingerprint, candidate.extraFields[adifImportFingerprintField]? = some fingerprint := by
  rw [importCandidate] at h
  split at h
  · cases h
  · rename_i stationed warnings' hcontext
    dsimp only at h
    split at h
    · cases h
    · cases h
      refine ⟨adifImportFingerprint (normalizeQsoForPersistence stationed), ?_⟩
      exact Std.ExtTreeMap.getElem?_insert_self

/-- The local id of a record is not looked at. -/
theorem importCandidate_localId (localId : String) :
    importCandidate { qso with localId } profile
      = (importCandidate qso profile).map fun (candidate, warnings) =>
          ({ candidate with localId }, warnings) := by
  have hcontext : withStationContext { qso with localId } profile
      = (withStationContext qso profile).map fun (qso, warnings) =>
          ({ qso with localId }, warnings) := by
    unfold withStationContext
    rw [show qsoHasStationContext { qso with localId } = qsoHasStationContext qso from rfl]
    split
    · rfl
    · cases profile with
      | none => rfl
      | some profile => rfl
  rw [importCandidate, importCandidate, hcontext]
  rcases withStationContext qso profile with reason | ⟨stationed, warnings⟩
  · rfl
  · have hreason : invalidImportReason (stampAdifImportFingerprint
        (normalizeQsoForPersistence { stationed with localId }))
        = invalidImportReason (stampAdifImportFingerprint (normalizeQsoForPersistence stationed)) :=
      rfl
    simp only [Except.map, hreason]
    cases invalidImportReason (stampAdifImportFingerprint (normalizeQsoForPersistence stationed)) with
    | none => rfl
    | some reason => rfl

theorem KnownImport.localId (h : KnownImport profile s qso) (localId : String) :
    KnownImport profile s { qso with localId } := by
  intro candidate warnings hcandidate
  rw [importCandidate_localId] at hcandidate
  cases hqso : importCandidate qso profile with
  | error reason =>
      rw [hqso] at hcandidate
      cases hcandidate
  | ok result =>
      obtain ⟨found, warnings'⟩ := result
      rw [hqso] at hcandidate
      cases hcandidate
      exact h found _ hqso

/-! ### One record -/

/-- A logged record is stored with its extra fields. -/
theorem logQso_run_ok {stored : QsoRecord}
    (h : (logQso qso).run (handle env) w = (.ok stored, w')) :
    w.1.get stored.localId = none ∧ w'.1 = w.1.put stored
      ∧ stored.extraFields = qso.extraFields := by
  have hinsert : ∀ (row : QsoRecord) (v : World ε)
      (f : StoreCmd.Answer (.insertQso row) → Program (Except LogbookError QsoRecord)),
      row.extraFields = qso.extraFields → v.1 = w.1 →
      (∀ error, f (.error error) = pure (.error (.storage error))) → f (.ok ()) = pure (.ok row) →
      (store (.insertQso row) >>= f).run (handle env) v = (.ok stored, w') →
      w.1.get stored.localId = none ∧ w'.1 = w.1.put stored
        ∧ stored.extraFields = qso.extraFields := by
    intro row v f hextra hv herror hok hrun
    rw [run_store, hv] at hrun
    cases hget : w.1.get row.localId with
    | some r =>
        rw [show MemoryState.exec (.insertQso row) w.1 = (.error (.duplicate "qso" row.localId), w.1)
          from if_pos (by rw [hget]; rfl), herror] at hrun
        cases congrArg Prod.fst hrun
    | none =>
        rw [show MemoryState.exec (.insertQso row) w.1 = (.ok (), w.1.put row)
          from if_neg (by rw [hget]; exact Bool.false_ne_true), hok] at hrun
        cases hrun
        exact ⟨hget, rfl, hextra⟩
  have hextra : (normalizeQsoForPersistence (materializeStationSnapshotForCreate qso none)).extraFields
      = qso.extraFields := rfl
  rw [logQso] at h
  dsimp only at h
  generalize normalizeQsoForPersistence (materializeStationSnapshotForCreate qso none) = row
    at h hextra
  split at h
  · cases congrArg Prod.fst h
  · split at h
    · rw [Prog.run_bind, Prog.run_bind] at h
      refine hinsert _ _ _ ?_ ?_ ?_ ?_ h
      · exact hextra
      · rfl
      · exact fun _ => rfl
      · rfl
    · rw [Prog.run_bind] at h
      refine hinsert _ _ _ ?_ ?_ ?_ ?_ h
      · exact hextra
      · rfl
      · exact fun _ => rfl
      · rfl

/-- **One record.**  Without refreshing, a record that went through only adds a
row, and it is recognised from then on. -/
theorem importSingleAdifQso_ok {recordNumber : ℕ} {outcome : AdifImportOutcome}
    (h : (importSingleAdifQso recordNumber qso profile false none).run (handle env) w
      = (.ok outcome, w')) :
    Extends w.1 w'.1 ∧ KnownImport profile w'.1 qso := by
  rw [importSingleAdifQso] at h
  cases hcandidate : importCandidate qso profile with
  | error reason =>
      rw [hcandidate] at h
      cases h
      refine ⟨.refl, fun candidate warnings hok => ?_⟩
      rw [hcandidate] at hok
      cases hok
  | ok result =>
      obtain ⟨candidate, warnings⟩ := result
      rw [hcandidate] at h
      obtain ⟨found, w₁, hfound, h⟩ := run_orLogbookError_ok h
      rw [findDuplicateImport_run] at hfound
      cases hfound
      have hrecognised : ∀ s, (duplicateOf s candidate).isSome = true →
          KnownImport profile s qso := by
        intro s hs candidate' warnings' hok
        rw [hcandidate] at hok
        cases hok
        exact hs
      cases hdup : duplicateOf w.1 candidate with
      | some existing =>
          rw [hdup] at h
          have hw : w' = w := by
            replace h : (importDuplicate recordNumber existing candidate
              (warnings.map (recordWarning recordNumber)) false none).run (handle env) w
                = (.ok outcome, w') := h
            rw [importDuplicate] at h
            split at h <;> exact (congrArg Prod.snd h).symm
          rw [hw]
          exact ⟨.refl, hrecognised _ (by rw [hdup]; rfl)⟩
      | none =>
          rw [hdup] at h
          obtain ⟨stored, w₂, hlogged, h⟩ := run_orLogbookError_ok h
          cases h
          obtain ⟨hnew, hput, hextra⟩ := logQso_run_ok hlogged
          rw [hput]
          refine ⟨extends_put hnew, hrecognised _ (duplicateOf_isSome.mpr ⟨stored, ?_, .inl ?_⟩)⟩
          · rw [MemoryState.get_put, if_pos rfl]
          · obtain ⟨fingerprint, hfingerprint⟩ := importCandidate_stamped hcandidate
            refine ⟨fingerprint, hfingerprint, ?_⟩
            rw [hasFingerprint, hextra]
            exact beq_iff_eq.mpr hfingerprint

/-- A record that is known is skipped. -/
theorem importSingleAdifQso_known {recordNumber : ℕ} (h : KnownImport profile w.1 qso) :
    ∃ outcome, (importSingleAdifQso recordNumber qso profile false none).run (handle env) w
        = (.ok outcome, w) ∧ outcome.kind = .skipped ∧ outcome.affectedQso = none := by
  rw [importSingleAdifQso]
  cases hcandidate : importCandidate qso profile with
  | error reason => exact ⟨_, rfl, rfl, rfl⟩
  | ok result =>
      obtain ⟨candidate, warnings⟩ := result
      obtain ⟨existing, hdup⟩ := Option.isSome_iff_exists.mp (h candidate warnings hcandidate)
      dsimp only
      rw [run_orLogbookError, findDuplicateImport_run, hdup]
      show ∃ outcome, (importDuplicate recordNumber existing candidate
        (warnings.map (recordWarning recordNumber)) false none).run (handle env) w = _ ∧ _
      rw [importDuplicate]
      split
      · exact ⟨_, rfl, rfl, rfl⟩
      · exact ⟨_, rfl, rfl, rfl⟩

/-! ### The whole list -/

/-- An import that went through has made all its records known. -/
theorem importAdifQsosFrom_ok {qsos : List QsoRecord} {recordNumber : ℕ}
    {summary summary' : AdifImportSummary}
    (h : (importAdifQsosFrom profile false none recordNumber qsos summary).run (handle env) w
      = (.ok summary', w')) :
    Extends w.1 w'.1 ∧ ∀ qso ∈ qsos, KnownImport profile w'.1 qso := by
  induction qsos generalizing recordNumber summary w with
  | nil =>
      cases h
      exact ⟨.refl, fun qso hqso => absurd hqso List.not_mem_nil⟩
  | cons qso rest ih =>
      obtain ⟨outcome, w₁, hfirst, h⟩ := run_orLogbookError_ok h
      obtain ⟨hext, hknown⟩ := importSingleAdifQso_ok hfirst
      obtain ⟨hext', hrest⟩ := ih h
      refine ⟨hext.trans hext', fun qso' hqso' => ?_⟩
      rcases List.mem_cons.mp hqso' with rfl | hmem
      · exact hknown.mono hext'
      · exact hrest qso' hmem

/-- An import of known records writes nothing. -/
theorem importAdifQsosFrom_known {qsos : List QsoRecord} {recordNumber : ℕ}
    {summary : AdifImportSummary} (h : ∀ qso ∈ qsos, KnownImport profile w.1 qso)
    (hsummary : summary.recordsSkipped ≤ u32Max) :
    ∃ summary', (importAdifQsosFrom profile false none recordNumber qsos summary).run (handle env) w
        = (.ok summary', w)
      ∧ summary'.recordsImported = summary.recordsImported
      ∧ summary'.recordsUpdated = summary.recordsUpdated
      ∧ summary'.recordsSkipped = min (summary.recordsSkipped + qsos.length) u32Max
      ∧ summary'.affectedQsos = summary.affectedQsos := by
  induction qsos generalizing recordNumber summary with
  | nil => exact ⟨summary, rfl, rfl, rfl, (min_eq_left hsummary).symm, rfl⟩
  | cons qso rest ih =>
      obtain ⟨hqso, hrest⟩ := List.forall_mem_cons.mp h
      obtain ⟨outcome, hrun, hkind, haffected⟩ :=
        @importSingleAdifQso_known ε env w qso profile recordNumber hqso
      have hskipped : (summary.add outcome).recordsSkipped
          = min (summary.recordsSkipped + 1) u32Max := if_pos hkind
      obtain ⟨summary', hrun', himported, hupdated, hcount, haffected'⟩ :=
        @ih (recordNumber + 1) (summary.add outcome) hrest
          (by rw [hskipped]; exact min_le_right _ _)
      refine ⟨summary', ?_, ?_, ?_, ?_, ?_⟩
      · rw [importAdifQsosFrom, run_orLogbookError, hrun]
        exact hrun'
      · rw [himported]
        exact if_neg (by rw [hkind]; decide)
      · rw [hupdated]
        exact if_neg (by rw [hkind]; decide)
      · rw [hcount, hskipped, List.length_cons]
        generalize u32Max = limit
        omega
      · rw [haffected', AdifImportSummary.add, haffected]
        exact List.append_nil _

/-- The same records, but for their local ids. -/
def SameRecords : List QsoRecord → List QsoRecord → Prop :=
  List.Forall₂ fun qso qso' => qso' = { qso with localId := qso'.localId }

theorem SameRecords.known {qsos qsos' : List QsoRecord} (h : SameRecords qsos qsos')
    (hknown : ∀ qso ∈ qsos, KnownImport profile s qso) : ∀ qso ∈ qsos', KnownImport profile s qso := by
  induction h with
  | nil => exact hknown
  | cons heq hrest ih =>
      obtain ⟨hqso, hrest⟩ := List.forall_mem_cons.mp hknown
      refine List.forall_mem_cons.mpr ⟨?_, ih hrest⟩
      rw [heq]
      exact hqso.localId _

/-- **Importing again changes nothing.**  When an import that does not refresh
has gone through, a second import of the same records, whatever local ids they
have, imports and updates none of them, skips them all and leaves the store as
it is. -/
theorem importAdifQsos_again {env' : Environment ε} {qsos qsos' : List QsoRecord}
    {summary : AdifImportSummary} {e : ε}
    (hsame : SameRecords qsos qsos')
    (hok : (importAdifQsos qsos profile false).run (handle env) w = (.ok summary, w')) :
    ∃ summary', (importAdifQsos qsos' profile false).run (handle env') (w'.1, e)
        = (.ok summary', (w'.1, e))
      ∧ summary'.recordsImported = 0 ∧ summary'.recordsUpdated = 0
      ∧ summary'.recordsSkipped = min qsos.length u32Max ∧ summary'.affectedQsos = [] := by
  have hknown := hsame.known (importAdifQsosFrom_ok hok).2
  obtain ⟨summary', hrun, himported, hupdated, hskipped, haffected⟩ :=
    @importAdifQsosFrom_known ε env' (w'.1, e) profile qsos' 1 {} hknown (Nat.zero_le _)
  refine ⟨summary', hrun, himported, hupdated, ?_, haffected⟩
  rw [hskipped, show qsos.length = qsos'.length from hsame.length_eq]
  exact congrArg (fun count => min count u32Max) (Nat.zero_add _)

/-! ### A file with a contact twice -/

/-- A contact as an ADIF file has it, with no station of its own. -/
def importedContact (localId : String) : QsoRecord :=
  { localId, workedCallsign := "w1aw", band := 9, mode := 7, utcTimestamp := some ⟨1000, 0⟩ }

/-- The profile of the station. -/
def homeProfile : StationProfile := { stationCallsign := "K7RND", profileName := some "Home" }

/-- The import of a file that has the contact twice. -/
def importedFile : Except LogbookError AdifImportSummary × World Unit :=
  (importAdifQsos [importedContact "a", importedContact "b"] (some homeProfile) false).run
    (handle quietRemote) (MemoryState.empty, ())

/-- One row was stored, and importing the file again skips both records. -/
theorem importAdifQsos_again_twice :
    importedFile.2.1.rows.length = 1
    ∧ ∃ summary, (importAdifQsos [importedContact "c", importedContact "d"] (some homeProfile)
        false).run (handle quietRemote) (importedFile.2.1, ()) = (.ok summary, importedFile.2)
      ∧ summary.recordsSkipped = 2 := by
  refine ⟨by decide +kernel, ?_⟩
  have hok : importedFile.1.isOk = true := by decide +kernel
  cases hfirst : importedFile.1 with
  | error error =>
      rw [hfirst] at hok
      cases hok
  | ok summary =>
      have hsame : SameRecords [importedContact "a", importedContact "b"]
          [importedContact "c", importedContact "d"] := .cons rfl (.cons rfl .nil)
      have hrun : importedFile = (.ok summary, importedFile.2) := Prod.ext hfirst rfl
      have hagain : ∃ summary', (importAdifQsos [importedContact "c", importedContact "d"]
          (some homeProfile) false).run (handle quietRemote) (importedFile.2.1, ())
          = (.ok summary', (importedFile.2.1, ())) ∧ _ ∧ _ ∧ _ ∧ _ :=
        importAdifQsos_again hsame hrun
      obtain ⟨summary', hrun', -, -, hskipped, -⟩ := hagain
      exact ⟨summary', hrun', hskipped⟩

end QsoRipper
