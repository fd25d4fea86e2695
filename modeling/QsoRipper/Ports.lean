/-
QsoRipper/Ports.lean

Everything an engine or sync program can ask of the outside: the logbook
store, the QRZ logbook API, the LoTW API, fresh identifiers, the clock and the
progress channel.  Programs are trees over these commands; `handle` runs them against
the in-memory store and an arbitrary environment.

The QRZ client is the boundary of the development.  What it promises its
callers is a field of the answer: an upload that succeeds carries a non-empty
record id, because the client turns a response without `LOGID` into an error.
-/
import QsoRipper.Lib.Program
import QsoRipper.Storage.Memory

namespace QsoRipper

open Interaction

/-! ### The QRZ logbook API -/

/-- `QrzLogbookError`; a transport error is kept as its text. -/
inductive QrzLogbookError where
  | authenticationFailed (message : String)
  | apiError (reason : String)
  | networkError (message : String)
  | parseError (message : String)
  | rateLimited
  deriving DecidableEq

/-- The `Display` text of an error. -/
def QrzLogbookError.toText : QrzLogbookError → String
  | authenticationFailed message => "QRZ Logbook authentication failed: " ++ message
  | apiError reason => "QRZ Logbook API error: " ++ reason
  | networkError message => "QRZ Logbook network error: " ++ message
  | parseError message => "QRZ Logbook parse error: " ++ message
  | rateLimited => "QRZ Logbook rate limited"

/-- `QrzUploadResult`. -/
structure QrzUploadResult where
  logid : String
  logid_ne : logid ≠ ""

/-- `QrzLogbookStatus`. -/
structure QrzLogbookStatus where
  owner : String
  qsoCount : ℕ

/-- The operations of `QrzLogbookApi`. -/
inductive QrzCmd where
  | fetchQsos (since : Option String)
  | uploadQso (qso : QsoRecord) (bookOwner : Option String)
  | uploadQsoWithReplace (qso : QsoRecord) (bookOwner : Option String)
  | replaceQso (logid : String) (qso : QsoRecord) (bookOwner : Option String)
  | fetchStatus
  | deleteQso (logid : String)

/-- What an operation returns when it does not fail. -/
abbrev QrzCmd.Value : QrzCmd → Type
  | fetchQsos _ => List QsoRecord
  | uploadQso _ _ => QrzUploadResult
  | uploadQsoWithReplace _ _ => QrzUploadResult
  | replaceQso _ _ _ => QrzUploadResult
  | fetchStatus => QrzLogbookStatus
  | deleteQso _ => Unit

/-- What an operation answers. -/
abbrev QrzCmd.Answer (c : QrzCmd) : Type := Except QrzLogbookError c.Value

/-! ### The LoTW API -/

/-- `LotwError`; network, staging and process errors are kept as their text. -/
inductive LotwError where
  | configuration (message : String)
  | network (message : String)
  | authentication
  | httpStatus (status : ℕ)
  | adif (message : String)
  | io (message : String)
  | tqslTimeout
  | tqsl (detail : String)
  | storage (error : StorageError)
  deriving DecidableEq

/-- The `Display` text of an error. -/
def LotwError.toText : LotwError → String
  | configuration message => message
  | network message => "LoTW network request failed: " ++ message
  | authentication => "LoTW authentication failed."
  | httpStatus status => "LoTW report request returned HTTP " ++ toString status ++ "."
  | adif message => "LoTW report ADIF is invalid: " ++ message
  | io message => "LoTW staging failed: " ++ message
  | tqslTimeout => "TQSL timed out."
  | tqsl detail => "TQSL upload failed: " ++ detail
  | storage error => "LoTW storage operation failed: " ++ error.toText

/-- `LotwReport`. -/
structure LotwReport where
  confirmations : List QsoRecord := []
  highWater : Option String := none
  deriving DecidableEq

/-- The operations of `LotwApi`; an upload returns how many records it
submitted. -/
inductive LotwCmd where
  | uploadQsos (qsos : List QsoRecord)
  | fetchConfirmations (since : Option String)

/-- What an operation returns when it does not fail. -/
abbrev LotwCmd.Value : LotwCmd → Type
  | uploadQsos _ => ℕ
  | fetchConfirmations _ => LotwReport

/-- What an operation answers. -/
abbrev LotwCmd.Answer (c : LotwCmd) : Type := Except LotwError c.Value

/-! ### Commands -/

/-- `SyncWithQrzResponse`. -/
structure SyncWithQrzResponse where
  totalRecords : ℕ
  processedRecords : ℕ
  uploadedRecords : ℕ
  downloadedRecords : ℕ
  conflictRecords : ℕ
  currentAction : Option String
  complete : Bool
  error : Option String
  remoteDeletesPushed : ℕ
  deletesSkippedRemote : ℕ
  duplicateReplaces : ℕ
  deriving DecidableEq

/-- What a program can ask for. -/
inductive Cmd where
  | store (c : StoreCmd)
  | qrz (c : QrzCmd)
  | lotw (c : LotwCmd)
  | newLocalId
  | utcNow
  | send (response : SyncWithQrzResponse)

/-- What it is answered. -/
def Cmd.Answer : Cmd → Type
  | store c => c.Answer
  | qrz c => c.Answer
  | lotw c => c.Answer
  | newLocalId => String
  | utcNow => Timestamp
  | send _ => Unit

/-- A program over the ports. -/
abbrev Program (α : Type) := Prog Cmd Cmd.Answer α

/-- Call the store. -/
def store (c : StoreCmd) : Program c.Answer := Prog.call (Cmd.store c)

/-- Call QRZ. -/
def qrz (c : QrzCmd) : Program c.Answer := Prog.call (Cmd.qrz c)

/-- Call LoTW. -/
def lotw (c : LotwCmd) : Program c.Answer := Prog.call (Cmd.lotw c)

/-- `new_local_id`. -/
def newLocalId : Program String := Prog.call Cmd.newLocalId

/-- `now_timestamp`. -/
def utcNow : Program Timestamp := Prog.call Cmd.utcNow

/-- `progress_tx.send`. -/
def send (response : SyncWithQrzResponse) : Program Unit := Prog.call (Cmd.send response)

/-! ### Running against the in-memory store -/

/-- The rest of the world: how it answers, from a state of its own. -/
structure Environment (ε : Type) where
  qrz : (c : QrzCmd) → ε → c.Answer × ε
  lotw : (c : LotwCmd) → ε → c.Answer × ε
  newLocalId : ε → String × ε
  utcNow : ε → Timestamp × ε

variable {ε : Type}

/-- The in-memory store beside the environment. -/
abbrev World (ε : Type) := MemoryState × ε

/-- Answer a command. -/
def handle (env : Environment ε) : (c : Cmd) → World ε → c.Answer × World ε
  | .store c, (s, e) => ((MemoryState.exec c s).1, (MemoryState.exec c s).2, e)
  | .qrz c, (s, e) => ((env.qrz c e).1, s, (env.qrz c e).2)
  | .lotw c, (s, e) => ((env.lotw c e).1, s, (env.lotw c e).2)
  | .newLocalId, (s, e) => ((env.newLocalId e).1, s, (env.newLocalId e).2)
  | .utcNow, (s, e) => ((env.utcNow e).1, s, (env.utcNow e).2)
  | .send _, (s, e) => ((), s, e)

section

variable (env : Environment ε) (w : World ε)

theorem run_store {α : Type} {c : StoreCmd} {f : c.Answer → Program α} :
    (store c >>= f).run (handle env) w
      = (f (MemoryState.exec c w.1).1).run (handle env) ((MemoryState.exec c w.1).2, w.2) := rfl

theorem handle_getQso (localId : String) :
    handle env (.store (.getQso localId)) w = (.ok (w.1.get localId), w) := rfl

theorem handle_updateQso (qso : QsoRecord) :
    handle env (.store (.updateQso qso)) w = ((w.1.updateQso qso).1, (w.1.updateQso qso).2, w.2) :=
  rfl

theorem handle_utcNow : (handle env .utcNow w).2.1 = w.1 := rfl

end

/-- A remote logbook that holds some records, gives every upload the logid
`900` and accepts every delete, beside a LoTW that accepts every upload and
has nothing to report. -/
def remoteHolding (rows : List QsoRecord) : Environment Unit where
  qrz
    | .fetchQsos _, e => (.ok rows, e)
    | .uploadQso _ _, e => (.ok ⟨"900", by decide⟩, e)
    | .uploadQsoWithReplace _ _, e => (.ok ⟨"900", by decide⟩, e)
    | .replaceQso _ _ _, e => (.ok ⟨"900", by decide⟩, e)
    | .fetchStatus, e => (.ok ⟨"", rows.length⟩, e)
    | .deleteQso _, e => (.ok (), e)
  lotw
    | .uploadQsos qsos, e => (.ok qsos.length, e)
    | .fetchConfirmations _, e => (.ok {}, e)
  newLocalId e := ("new", e)
  utcNow e := (⟨1000, 0⟩, e)

/-- A remote logbook that holds nothing. -/
def quietRemote : Environment Unit := remoteHolding []

end QsoRipper
