/-
QsoRipper/Application/Backfill.lean

The enrichment backfill: list the rows, look up the callsign of each row that
lacks a value, and fill in what is missing.  A row is swapped in only while it
is what was listed, and a refused swap is counted, not repeated.

The answers of the lookup coordinator are a parameter: each normalized callsign
is looked up once in a run.  A client that goes away ends the run early, which
is the same as a run that takes no further step.
-/
import QsoRipper.Ports

namespace QsoRipper

open Interaction

/-! ### Lookups -/

/-- `LookupState`. -/
inductive LookupState where
  | unspecified | loading | found | notFound | error | stale | cancelled
  deriving DecidableEq

/-- `LookupState::try_from(i32)`. -/
def LookupState.tryFrom : ℤ → Option LookupState
  | 0 => some unspecified
  | 1 => some loading
  | 2 => some found
  | 3 => some notFound
  | 4 => some error
  | 5 => some stale
  | 6 => some cancelled
  | _ => none

/-- `CallsignRecord`, the fields the backfill reads. -/
structure CallsignRecord where
  dxccEntityId : ℕ := 0
  firstName : String := ""
  lastName : String := ""
  formattedName : Option String := none
  state : Option String := none
  country : Option String := none
  latitude : Option Float64 := none
  longitude : Option Float64 := none
  gridSquare : Option String := none
  county : Option String := none
  dxccCountryName : Option String := none
  dxccContinent : Option String := none
  cqZone : Option ℕ := none
  ituZone : Option ℕ := none

/-- `LookupResult`. -/
structure LookupResult where
  state : ℤ := 0
  record : Option CallsignRecord := none

/-! ### Filling in -/

/-- `string_is_missing`. -/
def stringIsMissing (value : Option String) : Bool :=
  value.all fun value => (Text.trim value).isEmpty

/-- `needs_enrichment`. -/
def needsEnrichment (qso : QsoRecord) : Bool :=
  stringIsMissing qso.workedOperatorName
    || stringIsMissing qso.workedGrid
    || stringIsMissing qso.workedCountry
    || qso.workedDxcc.isNone
    || stringIsMissing qso.workedState
    || stringIsMissing qso.workedCounty
    || qso.workedCqZone.isNone
    || qso.workedItuZone.isNone
    || stringIsMissing qso.workedContinent
    || qso.workedLatitude.isNone
    || qso.workedLongitude.isNone

/-- `fill_string`: was the target changed, and the target after it. -/
def fillString (target source : Option String) : Bool × Option String :=
  if !stringIsMissing target then (false, target)
  else
    match (source.map Text.trim).filter fun value => !value.isEmpty with
    | none => (false, target)
    | some source => (true, some source)

/-- `fill_u32` and `fill_f64`. -/
def fillValue {α : Type} (target source : Option α) : Bool × Option α :=
  if target.isSome || source.isNone then (false, target) else (true, source)

/-- The name a callsign record gives. -/
def enrichmentName (record : CallsignRecord) : Option String :=
  let value := record.firstName ++ " " ++ record.lastName
  (record.formattedName.filter fun value => !(Text.trim value).isEmpty).or
    (if (Text.trim value).isEmpty then none else some (Text.trim value))

/-- `merge_missing_enrichment`: was the row changed, and the row after it. -/
def mergeMissingEnrichment (qso : QsoRecord) (record : CallsignRecord) : Bool × QsoRecord :=
  let name := fillString qso.workedOperatorName (enrichmentName record)
  let grid := fillString qso.workedGrid record.gridSquare
  let country := fillString qso.workedCountry
    ((record.dxccCountryName.filter fun value => !(Text.trim value).isEmpty).or record.country)
  let dxcc := fillValue qso.workedDxcc
    (if record.dxccEntityId ≠ 0 then some record.dxccEntityId else none)
  let state := fillString qso.workedState record.state
  let county := fillString qso.workedCounty record.county
  let cqZone := fillValue qso.workedCqZone record.cqZone
  let ituZone := fillValue qso.workedItuZone record.ituZone
  let continent := fillString qso.workedContinent record.dxccContinent
  let latitude := fillValue qso.workedLatitude record.latitude
  let longitude := fillValue qso.workedLongitude record.longitude
  (name.1 || grid.1 || country.1 || dxcc.1 || state.1 || county.1 || cqZone.1 || ituZone.1
      || continent.1 || latitude.1 || longitude.1,
    { qso with
      workedOperatorName := name.2
      workedGrid := grid.2
      workedCountry := country.2
      workedDxcc := dxcc.2
      workedState := state.2
      workedCounty := county.2
      workedCqZone := cqZone.2
      workedItuZone := ituZone.2
      workedContinent := continent.2
      workedLatitude := latitude.2
      workedLongitude := longitude.2 })

/-! ### The run -/

/-- `EnrichmentBackfillProgress`. -/
structure EnrichmentBackfillProgress where
  scanned : ℕ := 0
  candidates : ℕ := 0
  uniqueCallsigns : ℕ := 0
  found : ℕ := 0
  notFound : ℕ := 0
  errors : ℕ := 0
  changed : ℕ := 0
  unchanged : ℕ := 0
  concurrentEdits : ℕ := 0
  storageErrors : ℕ := 0
  complete : Bool := false
  currentCallsign : Option String := none
  deriving DecidableEq

/-- One row of a callsign that was found. -/
def backfillRecord (apply : Bool) (source : CallsignRecord) (record : QsoRecord)
    (progress : EnrichmentBackfillProgress) : Program EnrichmentBackfillProgress :=
  let merged := mergeMissingEnrichment record source
  if merged.1 then
    if apply then do
      match ← store (.updateQsoIfUnchanged record merged.2) with
      | .ok true => return { progress with changed := progress.changed + 1 }
      | .ok false => return { progress with concurrentEdits := progress.concurrentEdits + 1 }
      | .error _ => return { progress with storageErrors := progress.storageErrors + 1 }
    else return { progress with changed := progress.changed + 1 }
  else return { progress with unchanged := progress.unchanged + 1 }

/-- The rows of a callsign that was found. -/
def backfillRecords (apply : Bool) (source : CallsignRecord) :
    List QsoRecord → EnrichmentBackfillProgress → Program EnrichmentBackfillProgress
  | [], progress => return progress
  | record :: rest, progress => do
      let progress ← backfillRecord apply source record progress
      backfillRecords apply source rest progress

/-- The rows of a callsign that no values were found for. -/
def EnrichmentBackfillProgress.skip (progress : EnrichmentBackfillProgress)
    (records : List QsoRecord) : EnrichmentBackfillProgress :=
  { progress with unchanged := min (progress.unchanged + min records.length u32Max) u32Max }

/-- One callsign, once it has been looked up. -/
def backfillCallsign (apply : Bool) (lookup : LookupResult) (records : List QsoRecord)
    (progress : EnrichmentBackfillProgress) : Program EnrichmentBackfillProgress :=
  match (LookupState.tryFrom lookup.state).getD .error with
  | .found =>
      match lookup.record with
      | some source =>
          backfillRecords apply source records { progress with found := progress.found + 1 }
      | none =>
          return ({ progress with errors := progress.errors + 1 }).skip records
  | .notFound => return ({ progress with notFound := progress.notFound + 1 }).skip records
  | _ => return ({ progress with errors := progress.errors + 1 }).skip records

/-- The loop over the callsigns, with the updates it sends. -/
def backfillCallsigns (lookup : String → LookupResult) (apply : Bool) :
    List (String × List QsoRecord) → EnrichmentBackfillProgress →
      Program (List EnrichmentBackfillProgress)
  | [], progress => return [{ progress with complete := true, currentCallsign := none }]
  | (callsign, records) :: rest, progress => do
      let progress ← backfillCallsign apply (lookup callsign) records progress
      let progress := { progress with currentCallsign := some callsign }
      let updates ← backfillCallsigns lookup apply rest progress
      return progress :: updates

/-- Does the row lack a value, and name somebody to look up? -/
def isBackfillCandidate (record : QsoRecord) : Bool :=
  needsEnrichment record && !(Text.trim record.workedCallsign).isEmpty

/-- The candidates, grouped by normalized callsign. -/
def groupByCallsign (records : List QsoRecord) : Std.ExtTreeMap String (List QsoRecord) :=
  records.foldl
    (fun grouped record =>
      let callsign := normalizeCallsign (Text.trim record.workedCallsign)
      grouped.insert callsign (grouped[callsign]?.getD [] ++ [record]))
    ∅

/-- `run_enrichment_backfill`, with the updates it sends. -/
def runEnrichmentBackfill (lookup : String → LookupResult) (query : QsoListQuery) (apply : Bool) :
    Program (List EnrichmentBackfillProgress) := do
  match ← store (.listQsos query) with
  | .error _ => return [{ storageErrors := 1, complete := true }]
  | .ok records =>
      let candidates := records.filter isBackfillCandidate
      let grouped := (groupByCallsign candidates).toList
      let progress : EnrichmentBackfillProgress :=
        { scanned := min records.length u32Max
          candidates := candidates.length
          uniqueCallsigns := min grouped.length u32Max }
      let updates ← backfillCallsigns lookup apply grouped progress
      return progress :: updates

/-! ### What it issues -/

section Emits

variable {P : Cmd → Prop} {apply : Bool}

theorem backfillRecords_emits {source : CallsignRecord} (records : List QsoRecord)
    (hswap : ∀ record, P (.store (.updateQsoIfUnchanged record
      (mergeMissingEnrichment record source).2)))
    (progress : EnrichmentBackfillProgress) :
    (backfillRecords apply source records progress).Emits P := by
  induction records generalizing progress with
  | nil => trivial
  | cons record rest ih =>
      have hrecord : (backfillRecord apply source record progress).Emits P := by
        rw [backfillRecord]
        split
        · split
          · refine ⟨hswap record, fun r => ?_⟩
            rcases r with e | _ | _ <;> trivial
          · trivial
        · trivial
      exact hrecord.bind fun progress => ih progress

theorem backfillCallsigns_emits {lookup : String → LookupResult}
    (hswap : ∀ record source, P (.store (.updateQsoIfUnchanged record
      (mergeMissingEnrichment record source).2)))
    (groups : List (String × List QsoRecord)) (progress : EnrichmentBackfillProgress) :
    (backfillCallsigns lookup apply groups progress).Emits P := by
  induction groups generalizing progress with
  | nil => trivial
  | cons group rest ih =>
      obtain ⟨callsign, records⟩ := group
      have hcallsign : (backfillCallsign apply (lookup callsign) records progress).Emits P := by
        rw [backfillCallsign]
        split
        · split
          · exact backfillRecords_emits records (fun record => hswap record _) _
          · trivial
        · trivial
        · trivial
      exact hcallsign.bind fun progress => (ih _).bind fun _ => .pure _

/-- **What the backfill issues**: one listing, and swaps that fill in values. -/
theorem runEnrichmentBackfill_emits {lookup : String → LookupResult} {query : QsoListQuery}
    (hlist : P (.store (.listQsos query)))
    (hswap : ∀ record source, P (.store (.updateQsoIfUnchanged record
      (mergeMissingEnrichment record source).2))) :
    (runEnrichmentBackfill lookup query apply).Emits P := by
  refine ⟨hlist, fun r => ?_⟩
  rcases r with e | records
  · trivial
  · exact (backfillCallsigns_emits hswap _ _).bind fun _ => .pure _

end Emits

end QsoRipper
