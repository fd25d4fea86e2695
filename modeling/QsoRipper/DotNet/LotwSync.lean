/-
QsoRipper/DotNet/LotwSync.lean

The LoTW synchronisation of the managed engine, `LotwSyncEngine`: upload the
pending rows of one listing, then fetch the confirmations and mark the rows of
that listing they match.  A patch re-reads its row and swaps it in, three times
at most.

An exception ends the phase it is thrown in and is counted there; a cancelled
call, and a store that throws outside the two phases, end the whole sync.
-/
import QsoRipper.DotNet.Ports

namespace QsoRipper.DotNet

open Interaction

/-- Call the store, and throw what it throws. -/
def tryStore {α : Type} (c : LogbookCmd) (f : c.Value → NetProgram (Except LotwException α)) :
    NetProgram (Except LotwException α) := do
  match ← logbook c with
  | .error ex => return .error (.failed ex.message)
  | .ok value => f value

/-- Go on with what a call returns, or throw what it throws. -/
def andThen {α β : Type} (p : NetProgram (Except LotwException α))
    (f : α → NetProgram (Except LotwException β)) : NetProgram (Except LotwException β) := do
  match ← p with
  | .error ex => return .error ex
  | .ok value => f value

/-! ### Patches -/

/-- The loop of the patches below, with the attempts that are left: read the row
and swap in its replacement; a row that is not there is left alone, and so is a
soft-deleted one when `skipsDeleted`. -/
def swapIn (localId : String) (skipsDeleted : Bool) (prepare : NetProgram Ticks)
    (replacement : QsoRecord → Ticks → QsoRecord) :
    ℕ → NetProgram (Except LotwException Bool)
  | 0 => return .ok false
  | attempts + 1 =>
      tryStore (.getQso localId) fun
        | none => return .ok false
        | some current =>
            if skipsDeleted && current.deletedAt.isSome then return .ok false
            else do
              let now ← prepare
              tryStore (.updateQsoIfUnchanged current (replacement current now)) fun
                | true => return .ok true
                | false => swapIn localId skipsDeleted prepare replacement attempts

/-- The row a successful upload leaves. -/
def uploadPatched (snapshot current : QsoRecord) (now : Ticks) : QsoRecord :=
  { current with
    lotwSent := some true
    lotwSentStatus := QslStatus.yes.toI32
    lotwSentDate := some (fromDateTimeOffset now)
    lotwSyncStatus :=
      if current.updatedAt = snapshot.updatedAt then LotwSyncStatus.uploaded.toI32
      else LotwSyncStatus.modified.toI32 }

/-- `PatchUploadAsync`. -/
def patchUpload (snapshot : QsoRecord) (success : Bool) : NetProgram (Except LotwException Bool) :=
  if success then swapIn snapshot.localId true utcNow (uploadPatched snapshot) 3
  else
    swapIn snapshot.localId true (return 0)
      (fun current _ => { current with lotwSyncStatus := LotwSyncStatus.failed.toI32 }) 3

/-- `PatchStatusAsync`. -/
def patchStatus (snapshot : QsoRecord) (status : LotwSyncStatus) :
    NetProgram (Except LotwException Bool) :=
  swapIn snapshot.localId false (return 0)
    (fun current _ => { current with lotwSyncStatus := status.toI32 }) 3

/-- A text of a confirmation, when the row's is blank. -/
def copyText (target source : Option String) : Option String :=
  if NetText.isNullOrWhiteSpace target && !NetText.isNullOrWhiteSpace source then source else target

/-- A number of a confirmation, when the row has none. -/
def copyNumber (target source : Option ℕ) : Option ℕ :=
  if target.getD 0 = 0 ∧ source.getD 0 ≠ 0 then source else target

/-- `CopyMissingConfirmationFields`. -/
def copyMissingConfirmationFields (target source : QsoRecord) : QsoRecord :=
  { target with
    workedGrid := copyText target.workedGrid source.workedGrid
    workedDxcc := copyNumber target.workedDxcc source.workedDxcc
    workedCountry := copyText target.workedCountry source.workedCountry
    workedState := copyText target.workedState source.workedState
    workedCounty := copyText target.workedCounty source.workedCounty
    workedCqZone := copyNumber target.workedCqZone source.workedCqZone
    workedItuZone := copyNumber target.workedItuZone source.workedItuZone }

/-- The row a confirmation leaves. -/
def confirmedRow (confirmation current : QsoRecord) (now : Ticks) : QsoRecord :=
  copyMissingConfirmationFields
    { current with
      lotwReceived := some true
      lotwReceivedStatus := QslStatus.yes.toI32
      lotwReceivedDate :=
        (confirmation.lotwReceivedDate.or confirmation.qslReceivedDate).or (some (fromDateTimeOffset now))
      lotwSyncStatus := LotwSyncStatus.confirmed.toI32 }
    confirmation

/-- `ApplyConfirmationAsync`; the clock is read when the confirmation has no date. -/
def applyConfirmation (snapshot confirmation : QsoRecord) :
    NetProgram (Except LotwException Bool) :=
  swapIn snapshot.localId true
    (if (confirmation.lotwReceivedDate.or confirmation.qslReceivedDate).isSome then return 0
     else utcNow)
    (confirmedRow confirmation) 3

/-! ### Matching -/

/-- `IsUploadPending`. -/
def isLotwUploadPending (qso : QsoRecord) : Bool :=
  qso.lotwSyncStatus ∈ [LotwSyncStatus.localOnly.toI32, LotwSyncStatus.queued.toI32,
    LotwSyncStatus.modified.toI32, LotwSyncStatus.failed.toI32]

/-- `FirstValue`. -/
def firstValue (values : List String) : Option String :=
  (values.find? fun value => !NetText.isWhiteSpace value).map Text.trim

/-- `StationCallMatches`. -/
def stationCallMatches (row confirmation : QsoRecord) : Bool :=
  (firstValue [confirmation.stationCallsign, confirmation.ownerCallsign.getD "",
      (confirmation.extraFields["OPERATOR"]?).getD ""]).any fun reportCall =>
    NetText.equalsIgnoreCase row.stationCallsign reportCall
      || NetText.equalsIgnoreCase (row.ownerCallsign.getD "") reportCall
      || (row.extraFields["OPERATOR"]?).any fun localOperator =>
          NetText.equalsIgnoreCase localOperator reportCall

/-- `MatchToleranceMinutes`, in ticks. -/
def matchTolerance : ℤ := 30 * 60 * ticksPerSecond

/-- What `FindMatches` compares before it looks at the times. -/
def matchesContact (confirmation row : QsoRecord) : Bool :=
  row.utcTimestamp.isSome
    && NetText.equalsIgnoreCase row.workedCallsign confirmation.workedCallsign
    && stationCallMatches row confirmation
    && row.band == confirmation.band
    && row.mode == confirmation.mode

/-- `FindMatches`; the times it compares have to be valid. -/
def findMatches (confirmation : QsoRecord) (localQsos : List QsoRecord) :
    Except LotwException (List QsoRecord) :=
  let invalid := LotwException.failed invalidTimestamp.message
  match confirmation.utcTimestamp with
  | none => .ok []
  | some ts =>
      match toDateTimeOffset ts with
      | none => .error invalid
      | some confirmationTime =>
          let similar := localQsos.filter (matchesContact confirmation)
          let time (row : QsoRecord) := row.utcTimestamp.bind toDateTimeOffset
          if similar.any fun row => (time row).isNone then .error invalid
          else .ok (similar.filter fun row =>
            (time row).any fun t => decide (|t - confirmationTime| ≤ matchTolerance))

/-! ### The phases -/

/-- What a sync counts, and the errors it collects. -/
structure LotwTotals where
  processed : ℕ := 0
  uploaded : ℕ := 0
  confirmed : ℕ := 0
  unmatched : ℕ := 0
  conflicts : ℕ := 0
  errors : ℕ := 0
  errorMessages : List String := []

/-- Patch the rows of an upload. -/
def patchAll (success : Bool) : List QsoRecord → NetProgram (Except LotwException Unit)
  | [] => return .ok ()
  | qso :: rest => andThen (patchUpload qso success) fun _ => patchAll success rest

/-- The handler of a failed upload. -/
def failUpload (pending : List QsoRecord) (message : String) (totals : LotwTotals) :
    NetProgram (Except LotwException LotwTotals) :=
  andThen (patchAll false pending) fun _ => return (.ok
    { totals with
      errors := totals.errors + pending.length
      errorMessages := totals.errorMessages ++ [message] })

/-- The upload of the pending rows. -/
def uploadPhase (pending : List QsoRecord) : NetProgram (Except LotwException LotwTotals) :=
  if pending.isEmpty then return .ok {}
  else do
    match ← lotwApi (.uploadQsos pending) with
    | .error .canceled => return .error .canceled
    | .error (.failed message) => failUpload pending message {}
    | .ok uploaded =>
        match ← patchAll true pending with
        | .ok () => return .ok { uploaded, processed := uploaded }
        | .error .canceled => return .error .canceled
        | .error (.failed message) => failUpload pending message { uploaded, processed := uploaded }

/-- Mark the rows of an ambiguous match. -/
def markConflicts : List QsoRecord → NetProgram (Except LotwException Unit)
  | [] => return .ok ()
  | row :: rest => andThen (patchStatus row .conflict) fun _ => markConflicts rest

/-- One confirmation, and what it throws. -/
def processConfirmation (localQsos : List QsoRecord) (confirmation : QsoRecord)
    (totals : LotwTotals) : NetProgram (LotwTotals × Except LotwException Unit) := do
  match findMatches confirmation localQsos with
  | .error ex => return (totals, .error ex)
  | .ok [] => return ({ totals with unmatched := totals.unmatched + 1 }, .ok ())
  | .ok [row] =>
      match ← applyConfirmation row confirmation with
      | .error ex => return (totals, .error ex)
      | .ok true => return ({ totals with confirmed := totals.confirmed + 1 }, .ok ())
      | .ok false => return (totals, .ok ())
  | .ok rows =>
      let outcome ← markConflicts rows
      return ({ totals with conflicts := totals.conflicts + 1 }, outcome)

/-- The loop over the confirmations, up to the first that throws. -/
def processConfirmations (localQsos : List QsoRecord) :
    List QsoRecord → LotwTotals → NetProgram (LotwTotals × Except LotwException Unit)
  | [], totals => return (totals, .ok ())
  | confirmation :: rest, totals => do
      match ← processConfirmation localQsos confirmation totals with
      | (totals, .error ex) => return (totals, .error ex)
      | (totals, .ok ()) => processConfirmations localQsos rest totals

/-- A sync that did not throw. -/
structure LotwOutcome where
  totalRecords : ℕ
  totals : LotwTotals
  highWater : Option String
  /-- The download came to its end. -/
  completed : Bool

/-- `errors++; errorMessages.Add(…)`. -/
def LotwTotals.addError (totals : LotwTotals) (message : String) : LotwTotals :=
  { totals with
    errors := totals.errors + 1
    errorMessages := totals.errorMessages ++ [message] }

/-- The metadata of a completed download. -/
def storeHighWater (metadata : SyncMetadata) (highWater : Option String) :
    NetProgram (Except LotwException Unit) := do
  let now ← utcNow
  tryStore
    (.upsertSyncMetadata
      { metadata with
        lotwLastSync := some (fromDateTimeOffset now)
        lotwLastQsl := highWater })
    fun _ => return .ok ()

/-- The download of the confirmations. -/
def downloadPhase (localQsos : List QsoRecord) (metadata : SyncMetadata) (fullSync : Bool)
    (totals : LotwTotals) : NetProgram (Except LotwException LotwOutcome) := do
  let outcome (totals : LotwTotals) (highWater : Option String) (completed : Bool) : LotwOutcome :=
    { totalRecords := localQsos.length, totals, highWater, completed }
  match ← lotwApi (.fetchConfirmations (if fullSync then none else metadata.lotwLastQsl)) with
  | .error .canceled => return .error .canceled
  | .error (.failed message) =>
      return .ok (outcome (totals.addError message) metadata.lotwLastQsl false)
  | .ok report =>
      let highWater := report.highWater.or metadata.lotwLastQsl
      let totals := { totals with processed := totals.processed + report.confirmations.length }
      match ← processConfirmations localQsos report.confirmations totals with
      | (_, .error .canceled) => return .error .canceled
      | (totals, .error (.failed message)) =>
          return .ok (outcome (totals.addError message) highWater false)
      | (totals, .ok ()) =>
          match ← storeHighWater metadata highWater with
          | .error .canceled => return .error .canceled
          | .error (.failed message) =>
              return .ok (outcome (totals.addError message) highWater false)
          | .ok () => return .ok (outcome totals highWater true)

/-- `SyncAsync`. -/
def lotwSync (fullSync upload downloads : Bool) : NetProgram (Except LotwException LotwOutcome) :=
  tryStore (.listQsos { sort := .oldestFirst }) fun localQsos =>
    andThen
      (uploadPhase (if upload then localQsos.filter isLotwUploadPending else []))
      fun totals =>
        tryStore .getSyncMetadata fun metadata =>
          if downloads then downloadPhase localQsos metadata fullSync totals
          else return (.ok
            { totalRecords := localQsos.length
              totals
              highWater := metadata.lotwLastQsl
              completed := false })

/-! ### The result -/

/-- `LotwSyncResult`. -/
structure LotwSyncResult where
  totalRecords : ℕ
  processedRecords : ℕ
  uploadedRecords : ℕ
  confirmedRecords : ℕ
  unmatchedRecords : ℕ
  conflictRecords : ℕ
  errorRecords : ℕ
  confirmationHighWater : Option String
  errorSummary : Option String

/-- What `SyncAsync` returns. -/
def LotwOutcome.result (o : LotwOutcome) : LotwSyncResult where
  totalRecords := o.totalRecords
  processedRecords := o.totals.processed
  uploadedRecords := o.totals.uploaded
  confirmedRecords := o.totals.confirmed
  unmatchedRecords := o.totals.unmatched
  conflictRecords := o.totals.conflicts
  errorRecords := o.totals.errors
  confirmationHighWater := o.highWater
  errorSummary :=
    if o.totals.errorMessages.isEmpty then none
    else some (" ".intercalate o.totals.errorMessages)

end QsoRipper.DotNet
