/-
QsoRipper/Lotw/Sync.lean

The LoTW synchronisation: sign and upload the pending rows, then fetch the
confirmation report and mark the rows it matches.

The local rows are listed once, at the start.  Both phases work from that
listing, and every write re-reads its row and swaps it in only while the row is
what was read, three times at most.  After the third refusal the write is given
up without an error.
-/
import QsoRipper.Lib.Contract
import QsoRipper.Ports

namespace QsoRipper.Lotw

open Interaction

/-! ### Errors of the store -/

/-- `?` on a storage call. -/
def tryStore {α : Type} (c : StoreCmd) (f : c.Value → Program (Except LotwError α)) :
    Program (Except LotwError α) := do
  match ← store c with
  | .error error => return .error (.storage error)
  | .ok value => f value

/-- `?` on a call of this module. -/
def andThen {α β : Type} (p : Program (Except LotwError α))
    (f : α → Program (Except LotwError β)) : Program (Except LotwError β) := do
  match ← p with
  | .error error => return .error error
  | .ok value => f value

/-- The loop of the patches below, with the attempts that are left: read the
row, and swap in its replacement unless it has changed meanwhile.  A missing
row is left alone, and so is a deleted one when `skipsDeleted`. -/
def swapIn {α β : Type} (localId : String) (skipsDeleted : Bool) (prepare : Program β)
    (replacement : QsoRecord → β → QsoRecord) (swapped notSwapped : α) :
    ℕ → Program (Except LotwError α)
  | 0 => return .ok notSwapped
  | attempts + 1 =>
      tryStore (.getQso localId) fun
        | none => return .ok notSwapped
        | some current =>
            if skipsDeleted && current.deletedAt.isSome then return .ok notSwapped
            else do
              let value ← prepare
              tryStore (.updateQsoIfUnchanged current (replacement current value)) fun
                | true => return .ok swapped
                | false =>
                    swapIn localId skipsDeleted prepare replacement swapped notSwapped attempts

/-! ### Counters -/

/-- `LotwSyncResult`. -/
structure LotwSyncResult where
  totalRecords : ℕ := 0
  processedRecords : ℕ := 0
  uploadedRecords : ℕ := 0
  confirmedRecords : ℕ := 0
  unmatchedRecords : ℕ := 0
  conflictRecords : ℕ := 0
  errorRecords : ℕ := 0
  confirmationHighWater : Option String := none
  errorSummary : Option String := none
  deriving DecidableEq

/-- `saturating_u32`. -/
def saturatingU32 (value : ℕ) : ℕ := min value u32Max

/-- `u32::saturating_add`. -/
def saturatingAdd (a b : ℕ) : ℕ := min (a + b) u32Max

/-! ### Uploads -/

/-- `lotw_upload_is_pending`; an unknown status counts as `LOCAL_ONLY`. -/
def lotwUploadIsPending (qso : QsoRecord) : Bool :=
  match (LotwSyncStatus.tryFrom qso.lotwSyncStatus).getD .localOnly with
  | .localOnly | .queued | .modified | .failed => true
  | .uploaded | .confirmed | .conflict => false

/-- The row `patch_upload_result` swaps in. -/
def uploadPatched (current uploadSnapshot : QsoRecord) (now : Timestamp) (success : Bool) :
    QsoRecord :=
  if success then
    { current with
      lotwSent := some true
      lotwSentStatus := QslStatus.yes.toI32
      lotwSentDate := some now
      lotwSyncStatus :=
        if current.updatedAt = uploadSnapshot.updatedAt then LotwSyncStatus.uploaded.toI32
        else LotwSyncStatus.modified.toI32 }
  else { current with lotwSyncStatus := LotwSyncStatus.failed.toI32 }

/-- `patch_upload_result`. -/
def patchUploadResult (uploadSnapshot : QsoRecord) (now : Timestamp) (success : Bool) :
    Program (Except LotwError Unit) :=
  swapIn uploadSnapshot.localId true (return ())
    (fun current _ => uploadPatched current uploadSnapshot now success) () () 3

/-- The loop after a successful upload; all rows get one time. -/
def patchUploaded (now : Timestamp) : List QsoRecord → Program (Except LotwError Unit)
  | [] => return .ok ()
  | snapshot :: rest =>
      andThen (patchUploadResult snapshot now true) fun _ => patchUploaded now rest

/-- The loop after a failed upload. -/
def patchFailed : List QsoRecord → Program (Except LotwError Unit)
  | [] => return .ok ()
  | snapshot :: rest => do
      let now ← utcNow
      andThen (patchUploadResult snapshot now false) fun _ => patchFailed rest

/-- What the phases hand on: the counters and the errors so far. -/
abbrev Progress := LotwSyncResult × List String

/-- The upload of the pending rows. -/
def uploadPending (pending : List QsoRecord) (result : LotwSyncResult) (errors : List String) :
    Program (Except LotwError Progress) := do
  match ← lotw (.uploadQsos pending) with
  | .ok submitted => do
      let now ← utcNow
      andThen (patchUploaded now pending) fun _ => pure (.ok
        ({ result with
            uploadedRecords := submitted
            processedRecords := saturatingAdd result.processedRecords submitted }, errors))
  | .error error =>
      andThen (patchFailed pending) fun _ => pure (.ok
        ({ result with
            errorRecords := saturatingAdd result.errorRecords (saturatingU32 pending.length) },
          errors ++ [error.toText]))

/-- The upload phase of `execute_sync`. -/
def uploadPhase (upload : Bool) (localQsos : List QsoRecord) (result : LotwSyncResult)
    (errors : List String) : Program (Except LotwError Progress) :=
  let pending := localQsos.filter lotwUploadIsPending
  if upload && !pending.isEmpty then uploadPending pending result errors
  else return .ok (result, errors)

/-- `upload_single_qso`. -/
def uploadSingleQso (snapshot : QsoRecord) : Program (Except LotwError QsoRecord) := do
  match ← lotw (.uploadQsos [snapshot]) with
  | .ok _ => do
      let now ← utcNow
      andThen (patchUploadResult snapshot now true) fun _ =>
        tryStore (.getQso snapshot.localId) fun
          | some row => return .ok row
          | none => return .error (.storage (.backend
              ("QSO '" ++ snapshot.localId ++ "' disappeared after LoTW upload.")))
  | .error error => do
      let now ← utcNow
      andThen (patchUploadResult snapshot now false) fun _ => return .error error

/-! ### Matching a confirmation -/

/-- `MATCH_TOLERANCE_SECONDS`. -/
def matchToleranceSeconds : ℕ := 30 * 60

/-- Is a value present and not blank? -/
def notBlank (value : String) : Bool := !(Text.trim value).isEmpty

/-- The extra fields a station callsign is taken from. -/
def stationCallsignKeys : List String := ["APP_LOTW_OWNCALL", "OWNER_CALLSIGN"]

/-- `report_station_callsign`. -/
def reportStationCallsign (qso : QsoRecord) : String :=
  if notBlank qso.stationCallsign then Text.trim qso.stationCallsign
  else
    match qso.ownerCallsign.filter notBlank with
    | some owner => Text.trim owner
    | none =>
        ((stationCallsignKeys.findSome? fun key => qso.extraFields[key]?.filter notBlank).map
          Text.trim).getD ""

/-- Does a local row match a confirmation of that time and station? -/
def matchesConfirmation (confirmation : QsoRecord) (remoteTime : Timestamp)
    (stationCallsign : String) (mine : QsoRecord) : Bool :=
  mine.deletedAt.isNone
    && Text.eqIgnoreAsciiCase mine.stationCallsign stationCallsign
    && Text.eqIgnoreAsciiCase mine.workedCallsign confirmation.workedCallsign
    && mine.band == confirmation.band
    && mine.mode == confirmation.mode
    && mine.utcTimestamp.any fun localTime =>
      decide ((localTime.seconds - remoteTime.seconds).natAbs ≤ matchToleranceSeconds)

/-- `find_confirmation_matches`. -/
def findConfirmationMatches (confirmation : QsoRecord) (localQsos : List QsoRecord) :
    List QsoRecord :=
  match confirmation.utcTimestamp with
  | none => []
  | some remoteTime =>
      let stationCallsign := reportStationCallsign confirmation
      if stationCallsign.isEmpty || !notBlank confirmation.workedCallsign then []
      else localQsos.filter (matchesConfirmation confirmation remoteTime stationCallsign)

/-! ### Applying a confirmation -/

/-- `copy_string`. -/
def copyString (target source : Option String) : Option String :=
  match source.filter notBlank with
  | some value => some (Text.trim value)
  | none => target

/-- `merge_confirmation_enrichment`. -/
def mergeConfirmationEnrichment (target source : QsoRecord) : QsoRecord :=
  { target with
    workedGrid := copyString target.workedGrid source.workedGrid
    workedState := copyString target.workedState source.workedState
    workedCounty := copyString target.workedCounty source.workedCounty
    workedCountry := copyString target.workedCountry source.workedCountry
    workedDxcc := source.workedDxcc.or target.workedDxcc
    workedCqZone := source.workedCqZone.or target.workedCqZone
    workedItuZone := source.workedItuZone.or target.workedItuZone }

/-- The row `apply_confirmation` swaps in. -/
def confirmed (current confirmation : QsoRecord) (received : Timestamp) : QsoRecord :=
  mergeConfirmationEnrichment
    { current with
      lotwReceived := some true
      lotwReceivedStatus := QslStatus.yes.toI32
      lotwReceivedDate := some received
      lotwSyncStatus := LotwSyncStatus.confirmed.toI32 }
    confirmation

/-- The date a confirmation is received on; the clock is asked only when the
report names none. -/
def receivedDate (confirmation : QsoRecord) : Program Timestamp :=
  match confirmation.lotwReceivedDate.or confirmation.qslReceivedDate with
  | some date => return date
  | none => utcNow

/-- `apply_confirmation`: did it go in? -/
def applyConfirmation (snapshot confirmation : QsoRecord) : Program (Except LotwError Bool) :=
  swapIn snapshot.localId true (receivedDate confirmation)
    (fun current received => confirmed current confirmation received) true false 3

/-- The row `patch_lotw_status` swaps in. -/
def withLotwStatus (current : QsoRecord) (status : LotwSyncStatus) : QsoRecord :=
  { current with lotwSyncStatus := status.toI32 }

/-- `patch_lotw_status`. -/
def patchLotwStatus (snapshot : QsoRecord) (status : LotwSyncStatus) :
    Program (Except LotwError Unit) :=
  swapIn snapshot.localId false (return ())
    (fun current _ => withLotwStatus current status) () () 3

/-- The rows of an ambiguous match. -/
def markConflicts : List QsoRecord → Program (Except LotwError Unit)
  | [] => return .ok ()
  | mine :: rest =>
      andThen (patchLotwStatus mine .conflict) fun _ => markConflicts rest

/-- One confirmation of the report. -/
def processConfirmation (localQsos : List QsoRecord) (confirmation : QsoRecord)
    (result : LotwSyncResult) : Program (Except LotwError LotwSyncResult) :=
  match findConfirmationMatches confirmation localQsos with
  | [] =>
      pure (.ok { result with unmatchedRecords := saturatingAdd result.unmatchedRecords 1 })
  | [mine] =>
      andThen (applyConfirmation mine confirmation) fun applied => pure (.ok
        (if applied then
          { result with confirmedRecords := saturatingAdd result.confirmedRecords 1 }
        else result))
  | many =>
      andThen (markConflicts many) fun _ => pure (.ok
        { result with conflictRecords := saturatingAdd result.conflictRecords 1 })

/-- The loop over the report. -/
def processConfirmations (localQsos : List QsoRecord) :
    List QsoRecord → LotwSyncResult → Program (Except LotwError LotwSyncResult)
  | [], result => return .ok result
  | confirmation :: rest, result =>
      andThen (processConfirmation localQsos confirmation result) fun result =>
        processConfirmations localQsos rest result

/-! ### The whole sync -/

/-- The metadata after a processed report. -/
def advanced (metadata : SyncMetadata) (now : Timestamp) (highWater : Option String) :
    SyncMetadata :=
  { metadata with lotwLastSync := some now, lotwLastQsl := highWater }

/-- A fetched report: mark the rows, then move the high-water mark. -/
def processReport (localQsos : List QsoRecord) (metadata : SyncMetadata) (report : LotwReport)
    (result : LotwSyncResult) : Program (Except LotwError LotwSyncResult) :=
  let highWater := report.highWater.or metadata.lotwLastQsl
  let result :=
    { result with
      confirmationHighWater := highWater
      processedRecords :=
        saturatingAdd result.processedRecords (saturatingU32 report.confirmations.length) }
  andThen (processConfirmations localQsos report.confirmations result) fun result => do
    let now ← utcNow
    tryStore (.upsertSyncMetadata (advanced metadata now highWater)) fun _ => return .ok result

/-- The download phase of `execute_sync`. -/
def downloadPhase (fullSync download : Bool) (localQsos : List QsoRecord)
    (result : LotwSyncResult) (errors : List String) : Program (Except LotwError Progress) :=
  if download then
    tryStore .getSyncMetadata fun metadata => do
      match ← lotw (.fetchConfirmations (if fullSync then none else metadata.lotwLastQsl)) with
      | .ok report =>
          andThen (processReport localQsos metadata report result) fun result =>
            return .ok (result, errors)
      | .error error =>
          return .ok ({ result with errorRecords := saturatingAdd result.errorRecords 1 },
            errors ++ [error.toText])
  else return .ok (result, errors)

/-- The query `execute_sync` lists the local rows with. -/
def localQuery : QsoListQuery := { sort := .oldestFirst, deletedFilter := .activeOnly }

/-- `execute_sync`. -/
def executeSync (fullSync upload download : Bool) : Program (Except LotwError LotwSyncResult) :=
  tryStore (.listQsos localQuery) fun localQsos =>
    andThen (uploadPhase upload localQsos { totalRecords := saturatingU32 localQsos.length } [])
      fun (result, errors) =>
        andThen (downloadPhase fullSync download localQsos result errors) fun (result, errors) =>
          return .ok
            (if errors.isEmpty then result
            else { result with errorSummary := some (" ".intercalate errors) })

/-! ### What it issues -/

section Emits

variable {α β : Type} {P : Cmd → Prop}

theorem tryStore_emits {c : StoreCmd} {f : c.Value → Program (Except LotwError α)}
    (hc : P (.store c)) (hf : ∀ value, (f value).Emits P) : (tryStore c f).Emits P := by
  refine ⟨hc, fun r => ?_⟩
  rcases r with e | value
  · trivial
  · exact hf value

theorem andThen_emits {p : Program (Except LotwError α)} {f : α → Program (Except LotwError β)}
    (hp : p.Emits P) (hf : ∀ value, (f value).Emits P) : (andThen p f).Emits P := by
  refine hp.bind fun r => ?_
  rcases r with e | value
  · trivial
  · exact hf value

theorem swapIn_emits {localId : String} {skipsDeleted : Bool} {prepare : Program β}
    {replacement : QsoRecord → β → QsoRecord} {swapped notSwapped : α} {attempts : ℕ}
    (hread : P (.store (.getQso localId))) (hprepare : prepare.Emits P)
    (hswap : ∀ current value,
      P (.store (.updateQsoIfUnchanged current (replacement current value)))) :
    (swapIn localId skipsDeleted prepare replacement swapped notSwapped attempts).Emits P := by
  induction attempts with
  | zero => trivial
  | succ attempts ih =>
      refine tryStore_emits hread fun row => ?_
      rcases row with _ | current
      · trivial
      show Prog.Emits _ (ite ((skipsDeleted && current.deletedAt.isSome) = true) _ _)
      split
      · trivial
      refine hprepare.bind fun value => ?_
      refine tryStore_emits (hswap current value) fun went => ?_
      cases went with
      | true => trivial
      | false => exact ih

theorem receivedDate_emits {confirmation : QsoRecord} (hclock : P .utcNow) :
    (receivedDate confirmation).Emits P := by
  rw [receivedDate]
  split
  · trivial
  · exact Prog.Emits.call hclock

/-- `P` allows what the patches issue, but for the completion of an upload. -/
structure AllowsPatches (P : Cmd → Prop) : Prop where
  get : ∀ localId, P (.store (.getQso localId))
  failed : ∀ current snapshot now,
    P (.store (.updateQsoIfUnchanged current (uploadPatched current snapshot now false)))
  confirmed : ∀ current confirmation received,
    P (.store (.updateQsoIfUnchanged current (confirmed current confirmation received)))
  conflict : ∀ current, P (.store (.updateQsoIfUnchanged current (withLotwStatus current .conflict)))
  clock : P .utcNow

/-- `P` allows the completion of an upload of that row. -/
def AllowsCompletion (P : Cmd → Prop) (snapshot : QsoRecord) : Prop :=
  ∀ current now,
    P (.store (.updateQsoIfUnchanged current (uploadPatched current snapshot now true)))

theorem patchUploaded_emits (h : AllowsPatches P) (now : Timestamp) (rows : List QsoRecord)
    (hcompletion : ∀ row ∈ rows, AllowsCompletion P row) : (patchUploaded now rows).Emits P := by
  induction rows with
  | nil => trivial
  | cons row rest ih =>
      obtain ⟨hrow, hrest⟩ := List.forall_mem_cons.mp hcompletion
      exact andThen_emits (swapIn_emits (h.get _) trivial fun current _ => hrow current now)
        fun _ => ih hrest

theorem patchFailed_emits (h : AllowsPatches P) (rows : List QsoRecord) :
    (patchFailed rows).Emits P := by
  induction rows with
  | nil => trivial
  | cons row rest ih =>
      refine ⟨h.clock, fun now => ?_⟩
      exact andThen_emits (swapIn_emits (h.get _) trivial fun current _ => h.failed current row now)
        fun _ => ih

theorem uploadPhase_emits (h : AllowsPatches P)
    (hupload : ∀ pending, P (.lotw (.uploadQsos pending)))
    (hcompletion : ∀ row, AllowsCompletion P row) (upload : Bool) (rows : List QsoRecord)
    (result : LotwSyncResult) (errors : List String) :
    (uploadPhase upload rows result errors).Emits P := by
  rw [uploadPhase]
  split
  · refine ⟨hupload _, fun r => ?_⟩
    rcases r with e | submitted
    · exact andThen_emits (patchFailed_emits h _) fun _ => trivial
    · exact ⟨h.clock, fun now =>
        andThen_emits (patchUploaded_emits h now _ fun row _ => hcompletion row) fun _ => trivial⟩
  · trivial

theorem applyConfirmation_emits (h : AllowsPatches P) (snapshot confirmation : QsoRecord) :
    (applyConfirmation snapshot confirmation).Emits P :=
  swapIn_emits (h.get _) (receivedDate_emits h.clock) fun _ _ => h.confirmed _ _ _

theorem markConflicts_emits (h : AllowsPatches P) (rows : List QsoRecord) :
    (markConflicts rows).Emits P := by
  induction rows with
  | nil => trivial
  | cons row rest ih =>
      exact andThen_emits (swapIn_emits (h.get _) trivial fun current _ => h.conflict current)
        fun _ => ih

theorem processConfirmation_emits (h : AllowsPatches P) (rows : List QsoRecord)
    (confirmation : QsoRecord) (result : LotwSyncResult) :
    (processConfirmation rows confirmation result).Emits P := by
  rw [processConfirmation]
  split
  · trivial
  · exact andThen_emits (applyConfirmation_emits h _ _) fun _ => trivial
  · exact andThen_emits (markConflicts_emits h _) fun _ => trivial

theorem processConfirmations_emits (h : AllowsPatches P) (rows confirmations : List QsoRecord)
    (result : LotwSyncResult) : (processConfirmations rows confirmations result).Emits P := by
  induction confirmations generalizing result with
  | nil => trivial
  | cons confirmation rest ih =>
      exact andThen_emits (processConfirmation_emits h rows confirmation result) fun result =>
        ih result

end Emits

/-! ### Contracts -/

/-- The rule for `?` on a call. -/
theorem andThen_obeys {α β T : Type} {K : Contract Cmd Cmd.Answer T} {t : T}
    {Q : T → Except LotwError β → Prop} {p : Program (Except LotwError α)}
    {f : α → Program (Except LotwError β)}
    (hp : p.Obeys K (fun t' r => match r with
      | .error e => Q t' (.error e)
      | .ok a => (f a).Obeys K Q t') t) :
    (andThen p f).Obeys K Q t := by
  rw [andThen, Prog.obeys_bind]
  refine hp.mono fun t' r h => ?_
  rcases r with e | a
  · exact h
  · exact h

end QsoRipper.Lotw
