/-
QsoRipper/DotNet/Ports.lean

What the managed engine talks to, beside its store: the QRZ logbook, LoTW, the
clock and the source of ids, as commands of its programs; and a handler that
answers them from the in-memory store and an environment with a state of its
own.
-/
import QsoRipper.DotNet.Storage
import QsoRipper.Lib.Program

namespace QsoRipper.DotNet

open Interaction

/-! ### Commands -/

/-- What a QRZ call throws: a `QrzLogbookException`, or anything else. -/
inductive ApiException where
  | qrzLogbook (message : String)
  | other (message : String)
  deriving DecidableEq

/-- `Exception.Message`. -/
def ApiException.message : ApiException → String
  | qrzLogbook message => message
  | other message => message

/-- `QrzLogbookStatus`. -/
structure QrzLogbookStatus where
  owner : String
  qsoCount : ℕ

/-- A record as the codec maps it from ADIF: it is never soft-deleted. -/
abbrev FetchedQso := { r : QsoRecord // r.deletedAt = none }

/-- The operations of `IQrzLogbookApi`. -/
inductive QrzApiCmd where
  | fetchQsos (sinceDate : Option String)
  | uploadQso (qso : QsoRecord) (bookOwner : Option String)
  | uploadQsoWithReplace (qso : QsoRecord) (bookOwner : Option String)
  | updateQso (qso : QsoRecord) (bookOwner : Option String)
  | getStatus
  | deleteQso (logid : String)
  deriving DecidableEq

/-- What an operation returns when it does not throw; a logid is not blank. -/
abbrev QrzApiCmd.Value : QrzApiCmd → Type
  | fetchQsos _ => List FetchedQso
  | uploadQso _ _ => NetText.NonBlank
  | uploadQsoWithReplace _ _ => NetText.NonBlank
  | updateQso _ _ => NetText.NonBlank
  | getStatus => QrzLogbookStatus
  | deleteQso _ => Unit

/-- What an operation answers. -/
abbrev QrzApiCmd.Answer (c : QrzApiCmd) : Type := Except ApiException c.Value

/-- What a LoTW call throws: `OperationCanceledException`, or anything else. -/
inductive LotwException where
  | canceled
  | failed (message : String)
  deriving DecidableEq

/-- `LotwReport`. -/
structure LotwReport where
  confirmations : List QsoRecord
  highWater : Option String

/-- The operations of `ILotwApi`. -/
inductive LotwApiCmd where
  | uploadQsos (qsos : List QsoRecord)
  | fetchConfirmations (since : Option String)
  deriving DecidableEq

/-- What an operation returns when it does not throw. -/
abbrev LotwApiCmd.Value : LotwApiCmd → Type
  | uploadQsos _ => ℕ
  | fetchConfirmations _ => LotwReport

/-- What an operation answers. -/
abbrev LotwApiCmd.Answer (c : LotwApiCmd) : Type := Except LotwException c.Value

/-- What a program of the engine can ask for. -/
inductive NetCmd where
  | logbook (c : LogbookCmd)
  | qrz (c : QrzApiCmd)
  | lotw (c : LotwApiCmd)
  | newGuid
  | utcNow
  deriving DecidableEq

/-- What it is answered. -/
def NetCmd.Answer : NetCmd → Type
  | logbook c => c.Answer
  | qrz c => c.Answer
  | lotw c => c.Answer
  | newGuid => String
  | utcNow => Ticks

/-- A program of the engine. -/
abbrev NetProgram (α : Type) := Prog NetCmd NetCmd.Answer α

/-- Call the store. -/
def logbook (c : LogbookCmd) : NetProgram c.Answer := Prog.call (NetCmd.logbook c)

/-- Call QRZ. -/
def qrzApi (c : QrzApiCmd) : NetProgram c.Answer := Prog.call (NetCmd.qrz c)

/-- Call LoTW. -/
def lotwApi (c : LotwApiCmd) : NetProgram c.Answer := Prog.call (NetCmd.lotw c)

/-- `Guid.NewGuid().ToString()`. -/
def newGuid : NetProgram String := Prog.call NetCmd.newGuid

/-- `DateTimeOffset.UtcNow`. -/
def utcNow : NetProgram Ticks := Prog.call NetCmd.utcNow

/-! ### Running against the in-memory store -/

/-- The rest of the world: how it answers, from a state of its own. -/
structure NetEnvironment (ε : Type) where
  qrz : (c : QrzApiCmd) → ε → c.Answer × ε
  lotw : (c : LotwApiCmd) → ε → c.Answer × ε
  newGuid : ε → String × ε
  utcNow : ε → Ticks × ε

variable {ε : Type}

/-- The in-memory store beside the environment. -/
abbrev NetWorld (ε : Type) := MemoryState × ε

/-- Answer a command. -/
def netHandle (env : NetEnvironment ε) : (c : NetCmd) → NetWorld ε → c.Answer × NetWorld ε
  | .logbook c, (s, e) => ((MemoryStorage.exec c s).1, (MemoryStorage.exec c s).2, e)
  | .qrz c, (s, e) => ((env.qrz c e).1, s, (env.qrz c e).2)
  | .lotw c, (s, e) => ((env.lotw c e).1, s, (env.lotw c e).2)
  | .newGuid, (s, e) => ((env.newGuid e).1, s, (env.newGuid e).2)
  | .utcNow, (s, e) => ((env.utcNow e).1, s, (env.utcNow e).2)

variable {env : NetEnvironment ε} {w : NetWorld ε}

@[simp] theorem run_logbook (c : LogbookCmd) :
    (logbook c).run (netHandle env) w
      = ((MemoryStorage.exec c w.1).1, (MemoryStorage.exec c w.1).2, w.2) := rfl

@[simp] theorem run_qrzApi (c : QrzApiCmd) :
    (qrzApi c).run (netHandle env) w = ((env.qrz c w.2).1, w.1, (env.qrz c w.2).2) := rfl

@[simp] theorem run_lotwApi (c : LotwApiCmd) :
    (lotwApi c).run (netHandle env) w = ((env.lotw c w.2).1, w.1, (env.lotw c w.2).2) := rfl

@[simp] theorem run_newGuid :
    newGuid.run (netHandle env) w = ((env.newGuid w.2).1, w.1, (env.newGuid w.2).2) := rfl

@[simp] theorem run_utcNow :
    utcNow.run (netHandle env) w = ((env.utcNow w.2).1, w.1, (env.utcNow w.2).2) := rfl

end QsoRipper.DotNet
