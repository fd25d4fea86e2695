/-
QsoRipper/Storage/Store.lean

The `LogbookStore` port: its errors, its query types and its operations.  The
operations are reified as commands, so that the code above the port can be
written as a program over them and the adapters below it are two handlers for
the same commands.  Each operation is atomic: an adapter holds its lock for
the whole of it.
-/
import QsoRipper.Lib.Text
import QsoRipper.Domain.Record

namespace QsoRipper

/-! ### Fixed width arithmetic -/

/-- Clamp to `i64`, as the saturating operations do. -/
def saturateI64 (x : ℤ) : ℤ := max (-2 ^ 63) (min (2 ^ 63 - 1) x)

/-- `timestamp_to_millis` on a present timestamp. -/
def Timestamp.toMillis (t : Timestamp) : ℤ :=
  saturateI64 (saturateI64 (t.seconds * 1000) + t.nanos.tdiv 1000000)

/-- `u32::MAX`. -/
def u32Max : ℕ := 2 ^ 32 - 1

/-! ### Errors -/

/-- `StorageError`. -/
inductive StorageError where
  | duplicate (entity key : String)
  | corruptData (message : String)
  | unsupported (message : String)
  | backend (message : String)
  deriving DecidableEq

/-- The `Display` text of an error. -/
def StorageError.toText : StorageError → String
  | duplicate entity key => entity ++ " '" ++ key ++ "' already exists."
  | corruptData message => "Stored data is corrupt: " ++ message
  | unsupported message => "Storage operation is not supported: " ++ message
  | backend message => "Storage backend failure: " ++ message

/-! ### Queries -/

/-- `DeletedRecordsFilter`. -/
inductive DeletedRecordsFilter where
  | activeOnly
  | deletedOnly
  | all
  deriving DecidableEq

/-- `QsoSortOrder`. -/
inductive QsoSortOrder where
  | newestFirst
  | oldestFirst
  deriving DecidableEq

/-- `QsoListQuery`, with its `Default`. -/
structure QsoListQuery where
  after : Option Timestamp := none
  before : Option Timestamp := none
  callsignFilter : Option String := none
  bandFilter : Option Band := none
  modeFilter : Option Mode := none
  contestId : Option String := none
  limit : Option ℕ := none
  offset : ℕ := 0
  sort : QsoSortOrder := .newestFirst
  deletedFilter : DeletedRecordsFilter := .activeOnly
  deriving DecidableEq

/-- `LogbookCounts`. -/
structure LogbookCounts where
  localQsoCount : ℕ
  pendingUploadCount : ℕ
  deriving DecidableEq

/-- `SyncMetadata`. -/
structure SyncMetadata where
  qrzQsoCount : ℕ := 0
  lastSync : Option Timestamp := none
  qrzLogbookOwner : Option String := none
  lotwLastSync : Option Timestamp := none
  lotwLastQsl : Option String := none
  deriving DecidableEq

/-- `QsoHistoryPage`. -/
structure QsoHistoryPage where
  entries : List QsoRecord := []
  total : ℕ := 0
  deriving DecidableEq

/-! ### Operations -/

/-- The operations of `LogbookStore`. -/
inductive StoreCmd where
  | insertQso (qso : QsoRecord)
  | updateQso (qso : QsoRecord)
  | updateQsoIfUnchanged (expected replacement : QsoRecord)
  | updateQrzSyncMetadata (localId : String) (expectedUpdatedAt : Option Timestamp)
      (qrzLogid : String)
  | deleteQso (localId : String)
  | softDeleteQso (localId : String) (deletedAtMs : ℤ) (pendingRemoteDelete : Bool)
  | restoreQso (localId : String)
  | getQso (localId : String)
  | listQsos (query : QsoListQuery)
  | listQsoHistory (workedCallsign : String) (limit : ℕ)
  | qsoCounts
  | getSyncMetadata
  | upsertSyncMetadata (metadata : SyncMetadata)
  | purgeDeletedQsos (localIds : List String) (olderThanMs : Option ℤ)

/-- What an operation returns when it does not fail. -/
abbrev StoreCmd.Value : StoreCmd → Type
  | insertQso _ => Unit
  | updateQso _ => Bool
  | updateQsoIfUnchanged _ _ => Bool
  | updateQrzSyncMetadata _ _ _ => Option QsoRecord
  | deleteQso _ => Bool
  | softDeleteQso _ _ _ => Bool
  | restoreQso _ => Bool
  | getQso _ => Option QsoRecord
  | listQsos _ => List QsoRecord
  | listQsoHistory _ _ => QsoHistoryPage
  | qsoCounts => LogbookCounts
  | getSyncMetadata => SyncMetadata
  | upsertSyncMetadata _ => Unit
  | purgeDeletedQsos _ _ => ℕ

/-- What an operation answers. -/
abbrev StoreCmd.Answer (c : StoreCmd) : Type := Except StorageError c.Value

/-! ### Helpers shared by the adapters -/

/-- `is_pending_sync_status`. -/
def isPendingSyncStatus (syncStatus : ℤ) : Bool := syncStatus != SyncStatus.synced.toI32

/-- `normalize_callsign`: blank input becomes the developer placeholder. -/
def normalizeCallsign (callsign : String) : String :=
  let trimmed := Text.trim callsign
  if trimmed.isEmpty then "K7DBG" else Text.toAsciiUppercase trimmed

/-- `millis_to_timestamp`. -/
def millisToTimestamp (ms : ℤ) : Timestamp :=
  ⟨ms.ediv 1000, ms.emod 1000 * 1000000⟩

end QsoRipper
