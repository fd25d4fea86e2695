/-
QsoRipper/Server/Exclusion.lean

What keeps a purge and a sync apart.  The server has two mechanisms: the flag
`is_syncing` in a mutex of its own, and the upload lock.

* The scheduler raises the flag, takes the upload lock, syncs, and lowers the
  flag again.
* A `SyncWithQrz` call takes the upload lock and leaves the flag alone.
* A `PurgeDeletedQsos` call holds the flag's mutex all the time and refuses
  when the flag is raised; it takes the upload lock only when it has remote
  deletes to push and a client to push them with.

So a purge that takes no upload lock sees nothing of a `SyncWithQrz` call.  In
a run where the two never hold their locks at once no sync is disturbed.
-/
import QsoRipper.Lib.Locks
import QsoRipper.Server.Purge
import QsoRipper.Server.Sync

namespace QsoRipper

open Interaction

/-! ### Callers, locks and commands -/

/-- Who runs: the scheduler task, and any number of calls. -/
inductive Caller where
  | scheduler
  | explicit (k : ℕ)
  | purge (n : ℕ)
  deriving DecidableEq

/-- The mutex around `is_syncing`, and `qrz_upload_lock`. -/
inductive ServerLock where
  | syncGuard
  | upload
  deriving DecidableEq

/-- The commands of the callers. -/
inductive ServerCmd where
  | readSyncing
  | setSyncing (value : Bool)
  | run (c : Cmd)

/-- What they are answered. -/
abbrev ServerCmd.Answer : ServerCmd → Type
  | readSyncing => Bool
  | setSyncing _ => Unit
  | run c => c.Answer

/-- A task of the server. -/
abbrev Task (α : Type) : Type := Thread ServerLock ServerCmd.Answer α

/-- A program over the ports, as a part of a task. -/
def onPorts {α : Type} : Program α → Prog ServerCmd ServerCmd.Answer α
  | .pure a => .pure a
  | .cmd c k => .cmd (.run c) fun r => onPorts (k r)

/-- The flag beside the rest of the world. -/
def serve {σ : Type} (h : (c : Cmd) → σ → c.Answer × σ) :
    (c : ServerCmd) → Bool × σ → c.Answer × (Bool × σ)
  | .readSyncing, s => (s.1, s)
  | .setSyncing value, s => ((), value, s.2)
  | .run c, s => ((h c s.2).1, s.1, (h c s.2).2)

/-! ### The tasks -/

section Tasks

variable (formatDate : ℤ → Option String)

/-- One round of the scheduler. -/
def scheduledSync (conflictPolicy : ConflictPolicy) : Task Unit := do
  Thread.acquire .syncGuard
  Thread.act (ServerCmd.setSyncing true)
  Thread.release .syncGuard
  Thread.acquire .upload
  Thread.lift (onPorts (executeSync formatDate false conflictPolicy))
  Thread.acquire .syncGuard
  Thread.act (ServerCmd.setSyncing false)
  Thread.release .syncGuard
  Thread.release .upload

/-- The scheduler: one round after the other. -/
def schedulerTask : List ConflictPolicy → Task Unit
  | [] => return ()
  | conflictPolicy :: rest => do
      scheduledSync formatDate conflictPolicy
      schedulerTask rest

/-- The task that `sync_with_qrz` spawns. -/
def syncWithQrz (fullSync : Bool) (conflictPolicy : ConflictPolicy) : Task Unit := do
  Thread.acquire .upload
  Thread.lift (onPorts (executeSync formatDate fullSync conflictPolicy))
  Thread.release .upload

end Tasks

/-- `PurgeDeletedQsosRequest`, and whether a QRZ client can be built. -/
structure PurgeRequest where
  localIds : List String := []
  olderThan : Option Timestamp := none
  includePendingRemoteDeletes : Bool := false
  confirm : Bool := true
  canBuildClient : Bool := false

/-- Does the request get a client? -/
def PurgeRequest.hasClient (request : PurgeRequest) : Bool :=
  request.includePendingRemoteDeletes && request.canBuildClient

/-- The statuses a purge is refused with. -/
inductive PurgeStatus where
  | invalidArgument (message : String)
  | failedPrecondition (message : String)
  | internal (message : String)
  deriving DecidableEq

/-- The purge proper, with the locks it gives back. -/
def purgeUnderGuard (request : PurgeRequest) : Task (Except PurgeStatus PurgeDeletedOutcome) := do
  if request.hasClient then Thread.acquire .upload
  match ← Thread.lift (onPorts (purgeDeletedQsos request.hasClient request.localIds
      (request.olderThan.map Timestamp.toMillis) request.includePendingRemoteDeletes)) with
  | .error error =>
      if request.hasClient then Thread.release .upload
      Thread.release .syncGuard
      return .error (.internal error.toText)
  | .ok outcome =>
      Thread.release .syncGuard
      if request.hasClient then Thread.release .upload
      return .ok outcome

/-- `purge_deleted_qsos`, the call. -/
def purgeDeletedQsosCall (request : PurgeRequest) :
    Task (Except PurgeStatus PurgeDeletedOutcome) :=
  if !request.confirm then
    return .error (.invalidArgument "PurgeDeletedQsos requires confirm=true to proceed.")
  else do
    Thread.acquire .syncGuard
    if ← Thread.act ServerCmd.readSyncing then
      Thread.release .syncGuard
      return .error (.failedPrecondition "Cannot purge while a sync is in progress.")
    else purgeUnderGuard request

/-- The calls of a run. -/
structure Calls where
  rounds : List ConflictPolicy
  syncs : ℕ → Bool × ConflictPolicy
  purges : ℕ → PurgeRequest

/-- The task of a caller. -/
def Calls.task (formatDate : ℤ → Option String) (calls : Calls) : Caller → Task Unit
  | .scheduler => schedulerTask formatDate calls.rounds
  | .explicit k => syncWithQrz formatDate (calls.syncs k).1 (calls.syncs k).2
  | .purge n => do
      let _ ← purgeDeletedQsosCall (calls.purges n)

/-- The server when nobody has moved. -/
def Calls.start {σ : Type} (formatDate : ℤ → Option String) (calls : Calls) (s : σ) :
    Threads Caller ServerLock ServerCmd.Answer (Bool × σ) where
  thread := calls.task formatDate
  owner _ := none
  state := (false, s)

/-! ### The trace of a run -/

/-- Who moved, and what happened. -/
abbrev ServerAction : Type := Action Caller ServerLock ServerCmd.Answer

/-- A store step of a caller. -/
def isStoreStep (caller : Caller) : ServerAction → Bool
  | (i, ⟨.act (.run (.store _)), _⟩) => i == caller
  | _ => false

/-- The storage purge of a purge call. -/
def isPurgeStep (n : ℕ) : ServerAction → Bool
  | (.purge m, ⟨.act (.run (.store (.purgeDeletedQsos _ _))), _⟩) => m == n
  | _ => false

/-- A caller gives the upload lock back, as it does after each `execute_sync`. -/
def endsSync (caller : Caller) : ServerAction → Bool
  | (i, ⟨.release .upload, _⟩) => i == caller
  | _ => false

/-- Does the caller run syncs? -/
def Caller.syncs : Caller → Bool
  | scheduler | explicit _ => true
  | purge _ => false

/-- A storage purge, at `j`, between two store steps of one `execute_sync`, at
`i` and `k`. -/
structure PurgeDuringSync (ms : List ServerAction) (caller : Caller) (n i j k : ℕ) : Prop where
  syncs : caller.syncs = true
  before : i < j
  after : j < k
  first : ms[i]?.any (isStoreStep caller) = true
  purge : ms[j]?.any (isPurgeStep n) = true
  last : ms[k]?.any (isStoreStep caller) = true
  same : ∀ x < k, i < x → ms[x]?.any (endsSync caller) = false

/-! ### What a task knows -/

/-- The locks a task holds, and what it knows of the flag: that it has itself
announced a sync, and that it has seen the flag lowered under the guard it
still holds. -/
structure Knows where
  guard : Bool := false
  upload : Bool := false
  announced : Bool := false
  cleared : Bool := false

/-- What an answer adds. -/
def Knows.next (t : Knows) :
    (c : LockCmd ServerLock ServerCmd) → LockCmd.Answer ServerCmd.Answer c → Knows
  | .acquire .syncGuard, _ => { t with guard := true }
  | .acquire .upload, _ => { t with upload := true }
  | .release .syncGuard, _ => { t with guard := false, cleared := false }
  | .release .upload, _ => { t with upload := false }
  | .act .readSyncing, value => { t with cleared := !value }
  | .act (.setSyncing value), _ => { t with announced := value, cleared := !value }
  | .act (.run _), _ => t

/-- What a caller may do. -/
def permits (calls : Calls) (i : Caller) (t : Knows) : LockCmd ServerLock ServerCmd → Prop
  | .acquire .syncGuard => t.guard = false
  | .acquire .upload => t.upload = false
  | .release .syncGuard => t.guard = true
  | .release .upload => t.upload = true
  | .act .readSyncing => t.guard = true
  | .act (.setSyncing value) => i = .scheduler ∧ t.guard = true ∧ (value = true → t.upload = false)
  | .act (.run _) =>
      match i with
      | .scheduler => t.upload = true ∧ t.announced = true
      | .explicit _ => t.upload = true
      | .purge n => t.cleared = true ∧ ((calls.purges n).hasClient = true → t.upload = true)

/-- The contract of a caller. -/
def callerContract (calls : Calls) (i : Caller) :
    Contract (LockCmd ServerLock ServerCmd) (LockCmd.Answer ServerCmd.Answer) Knows where
  allowed := permits calls i
  next := Knows.next

section Obeys

variable {calls : Calls} {formatDate : ℤ → Option String} {α β : Type}

/-- A program over the ports does nothing but run. -/
theorem onPorts_emits {P : ServerCmd → Prop} (hP : ∀ c, P (.run c)) (p : Program α) :
    (onPorts p).Emits P := by
  induction p with
  | pure a => trivial
  | cmd c k ih => exact ⟨hP c, ih⟩

/-- A part over the ports, where the caller may run. -/
theorem obeys_onPorts_bind {Q : Knows → β → Prop} {i : Caller} {t : Knows} {p : Program α}
    {f : α → Task β} (hrun : ∀ c, permits calls i t (.act (.run c)))
    (hf : ∀ a, (f a).Obeys (callerContract calls i) Q t) :
    (Thread.lift (onPorts p) >>= f).Obeys (callerContract calls i) Q t := by
  apply Thread.obeys_lift_bind
  · apply onPorts_emits
    intro c
    exact ⟨hrun c, fun _ => rfl⟩
  · exact hf

/-- A round of the scheduler, for a task that holds nothing. -/
theorem obeys_scheduledSync_bind {conflictPolicy : ConflictPolicy} {Q : Knows → β → Prop}
    {f : Unit → Task β} {t : Knows} (hguard : t.guard = false) (hupload : t.upload = false)
    (hf : ∀ t : Knows, t.guard = false → t.upload = false →
      (f ()).Obeys (callerContract calls .scheduler) Q t) :
    (scheduledSync formatDate conflictPolicy >>= f).Obeys (callerContract calls .scheduler) Q t := by
  rw [scheduledSync]
  simp only [bind_assoc]
  rw [Thread.obeys_acquire_bind]
  refine ⟨hguard, ?_⟩
  rw [Thread.obeys_act_bind]
  refine ⟨⟨rfl, rfl, fun _ => hupload⟩, fun _ => ?_⟩
  rw [Thread.obeys_release_bind]
  refine ⟨rfl, ?_⟩
  rw [Thread.obeys_acquire_bind]
  refine ⟨hupload, ?_⟩
  apply obeys_onPorts_bind
  · exact fun c => ⟨rfl, rfl⟩
  intro _
  rw [Thread.obeys_acquire_bind]
  refine ⟨rfl, ?_⟩
  rw [Thread.obeys_act_bind]
  refine ⟨⟨rfl, rfl, fun hvalue => nomatch hvalue⟩, fun _ => ?_⟩
  rw [Thread.obeys_release_bind]
  refine ⟨rfl, ?_⟩
  rw [Thread.obeys_release_bind]
  exact ⟨rfl, hf _ rfl rfl⟩

theorem schedulerTask_obeys {rounds : List ConflictPolicy} {t : Knows} (hguard : t.guard = false)
    (hupload : t.upload = false) :
    (schedulerTask formatDate rounds).Obeys (callerContract calls .scheduler)
      (fun _ _ => True) t := by
  induction rounds generalizing t with
  | nil => trivial
  | cons conflictPolicy rest ih =>
      rw [schedulerTask]
      apply obeys_scheduledSync_bind hguard hupload
      intro t hguard hupload
      exact ih hguard hupload

theorem syncWithQrz_obeys {fullSync : Bool} {conflictPolicy : ConflictPolicy} {k : ℕ} :
    (syncWithQrz formatDate fullSync conflictPolicy).Obeys (callerContract calls (.explicit k))
      (fun _ _ => True) {} := by
  rw [syncWithQrz, Thread.obeys_acquire_bind]
  refine ⟨rfl, ?_⟩
  apply obeys_onPorts_bind
  · exact fun c => rfl
  intro _
  exact ⟨rfl, fun _ => trivial⟩

theorem purgeDeletedQsosCall_obeys {n : ℕ} :
    (purgeDeletedQsosCall (calls.purges n)).Obeys (callerContract calls (.purge n))
      (fun _ _ => True) {} := by
  rw [purgeDeletedQsosCall]
  split
  · trivial
  rw [Thread.obeys_acquire_bind]
  refine ⟨rfl, ?_⟩
  rw [Thread.obeys_act_bind]
  refine ⟨rfl, fun value => ?_⟩
  cases value with
  | true => exact ⟨rfl, fun _ => trivial⟩
  | false =>
      show (purgeUnderGuard (calls.purges n)).Obeys _ _ _
      rw [purgeUnderGuard]
      cases hclient : (calls.purges n).hasClient with
      | true =>
          rw [if_pos rfl, Thread.obeys_acquire_bind]
          refine ⟨rfl, ?_⟩
          apply obeys_onPorts_bind
          · exact fun c => ⟨rfl, fun _ => rfl⟩
          intro answer
          cases answer with
          | error error => exact ⟨rfl, fun _ => ⟨rfl, fun _ => trivial⟩⟩
          | ok outcome => exact ⟨rfl, fun _ => ⟨rfl, fun _ => trivial⟩⟩
      | false =>
          rw [if_neg Bool.false_ne_true]
          apply obeys_onPorts_bind
          · refine fun c => ⟨rfl, fun hlocked => ?_⟩
            rw [hclient] at hlocked
            cases hlocked
          intro answer
          cases answer with
          | error error => exact ⟨rfl, fun _ => trivial⟩
          | ok outcome => exact ⟨rfl, fun _ => trivial⟩

/-- Every task does what its caller may. -/
theorem task_obeys (i : Caller) :
    (calls.task formatDate i).Obeys (callerContract calls i) (fun _ _ => True) {} := by
  cases i with
  | scheduler => exact schedulerTask_obeys rfl rfl
  | explicit k => exact syncWithQrz_obeys
  | purge n =>
      show (purgeDeletedQsosCall (calls.purges n) >>= fun _ => pure ()).Obeys _ _ _
      rw [Prog.obeys_bind]
      exact purgeDeletedQsosCall_obeys.mono fun _ _ _ => trivial

end Obeys

/-! ### Keeping the locks apart -/

/-- Does a `SyncWithQrz` call hold the lock? -/
def heldByExplicit : Option Caller → Bool
  | some (.explicit _) => true
  | _ => false

/-- Does a purge hold the lock that takes no upload lock? -/
def heldByFreePurge (calls : Calls) : Option Caller → Bool
  | some (.purge n) => !(calls.purges n).hasClient
  | _ => false

section Apart

variable {σ : Type}

/-- A `SyncWithQrz` call does not take the upload lock while a purge without a
client holds the guard, and such a purge does not check the flag while a
`SyncWithQrz` call holds the upload lock. -/
def keptApart (calls : Calls) (p : Threads Caller ServerLock ServerCmd.Answer (Bool × σ)) :
    ServerAction → Bool
  | (.explicit _, ⟨.acquire .upload, _⟩) => !heldByFreePurge calls (p.owner .syncGuard)
  | (.purge n, ⟨.act .readSyncing, _⟩) =>
      (calls.purges n).hasClient || !heldByExplicit (p.owner .upload)
  | _ => true

/-- The condition on a step. -/
def KeptApart (calls : Calls) (p : Threads Caller ServerLock ServerCmd.Answer (Bool × σ))
    (m : ServerAction) : Prop :=
  keptApart calls p m = true

instance (calls : Calls) (p : Threads Caller ServerLock ServerCmd.Answer (Bool × σ))
    (m : ServerAction) : Decidable (KeptApart calls p m) :=
  inferInstanceAs (Decidable (_ = true))

/-- What the tasks know is right, and at most one of a `SyncWithQrz` call and a
purge without a client is under way. -/
structure Consistent (calls : Calls) (t : Caller → Knows) (owner : ServerLock → Option Caller)
    (s : Bool × σ) : Prop where
  guard : ∀ i, (t i).guard = true ↔ owner .syncGuard = some i
  upload : ∀ i, (t i).upload = true ↔ owner .upload = some i
  announced : s.1 = (t .scheduler).announced
  cleared : ∀ i, (t i).cleared = true → (t i).guard = true ∧ s.1 = false
  apart : ∀ n k, (calls.purges n).hasClient = false → (t (.purge n)).cleared = true →
    (t (.explicit k)).upload = false

variable {calls : Calls} {t : Caller → Knows} {h : (c : Cmd) → σ → c.Answer × σ}
  {p q : Threads Caller ServerLock ServerCmd.Answer (Bool × σ)} {m : ServerAction}

theorem observe_caller (i j : Caller) (e : Event (LockCmd ServerLock ServerCmd) _) :
    Threads.observe (callerContract calls) t (i, e) j
      = if j = i then (t i).next e.1 e.2 else t j := by
  rw [Threads.observe, Function.update_apply]
  rfl

theorem KeptApart.acquire {k n : ℕ}
    (ha : KeptApart calls p (.explicit k, ⟨.acquire .upload, ()⟩))
    (hn : (calls.purges n).hasClient = false) : p.owner .syncGuard ≠ some (.purge n) := by
  intro hheld
  simp [KeptApart, keptApart, hheld, heldByFreePurge, hn] at ha

theorem KeptApart.read {n k : ℕ} {value : Bool}
    (ha : KeptApart calls p (.purge n, ⟨.act .readSyncing, value⟩))
    (hn : (calls.purges n).hasClient = false) : p.owner .upload ≠ some (.explicit k) := by
  intro hheld
  simp [KeptApart, keptApart, hheld, heldByExplicit, hn] at ha

/-- **One step.** -/
theorem Consistent.step (hc : Consistent calls t p.owner p.state)
    (hpermits : permits calls m.1 (t m.1) m.2.1) (hapart : KeptApart calls p m)
    (hs : p.Step (serve h) m q) :
    Consistent calls (Threads.observe (callerContract calls) t m) q.owner q.state := by
  obtain ⟨hguard, hupload, hannounced, hcleared, hsep⟩ := hc
  cases hs with
  | @acquire i l k hi hfree =>
      cases l with
      | syncGuard =>
          constructor <;> simp only [observe_caller, Function.update_apply] <;> grind [Knows.next]
      | upload =>
          have hexplicit : ∀ n k, i = .explicit k → (calls.purges n).hasClient = false →
              (t (.purge n)).cleared = false := by
            rintro n k rfl hn
            by_contra hknows
            have hheld := (hcleared (.purge n) (by simpa using hknows)).1
            exact hapart.acquire hn ((hguard _).mp hheld)
          constructor <;> simp only [observe_caller, Function.update_apply] <;> grind [Knows.next]
  | @release i l k hi hheld =>
      cases l with
      | syncGuard =>
          constructor <;> simp only [observe_caller, Function.update_apply] <;> grind [Knows.next]
      | upload =>
          constructor <;> simp only [observe_caller, Function.update_apply] <;> grind [Knows.next]
  | @act i c k hi =>
      cases c with
      | readSyncing =>
          have hholds : (t i).guard = true := hpermits
          have hpurge : ∀ n k, i = .purge n → (calls.purges n).hasClient = false →
              (t (.explicit k)).upload = false := by
            rintro n k rfl hn
            by_contra hknows
            exact hapart.read hn ((hupload _).mp (by simpa using hknows))
          have hanswer : (serve h .readSyncing p.state).1 = p.state.1 := rfl
          have hstate : (serve h .readSyncing p.state).2 = p.state := rfl
          constructor <;> simp only [observe_caller, hanswer, hstate] <;> grind [Knows.next]
      | setSyncing value =>
          -- only the scheduler writes the flag, and no one else holds the guard
          obtain ⟨hscheduler, hholds, -⟩ : i = .scheduler ∧ (t i).guard = true ∧ _ := hpermits
          have hstate : (serve h (.setSyncing value) p.state).2 = (value, p.state.2) := rfl
          constructor <;> simp only [observe_caller, hstate] <;> grind [Knows.next]
      | run c =>
          have hflag : ((serve h (.run c) p.state).2).1 = p.state.1 := rfl
          constructor <;> simp only [observe_caller, hflag] <;> grind [Knows.next]

/-! ### Runs -/

variable {formatDate : ℤ → Option String} {s : σ} {ms : List ServerAction}
  {caller : Caller} {n i j k x : ℕ}

/-- What the tasks know after some actions. -/
def known (calls : Calls) (ms : List ServerAction) : Caller → Knows :=
  Threads.observed (callerContract calls) (fun _ => {}) ms

theorem Consistent.start :
    Consistent calls (fun _ => {}) (calls.start formatDate s).owner
      (calls.start formatDate s).state := by
  constructor <;> simp [Calls.start]

/-- What is known before an action of a run. -/
theorem known_at (hr : (calls.start formatDate s).Run (serve h) (KeptApart calls) ms q)
    (hx : ms[x]? = some m) :
    permits calls m.1 (known calls (ms.take x) m.1) m.2.1
      ∧ ∃ owner s', @Consistent σ calls (known calls (ms.take x)) owner s' := by
  obtain ⟨q₁, q₂, hrun, hs⟩ := hr.at hx
  obtain ⟨hobeys, hc⟩ := Threads.Run.keeps (J := Consistent calls) Consistent.step hrun
    (fun i => task_obeys i) Consistent.start
  exact ⟨(hs.obeys hobeys).1, _, _, hc⟩

theorem eq_of_isStoreStep (hm : isStoreStep caller m = true) :
    ∃ c r, m = (caller, ⟨.act (.run c), r⟩) := by
  rw [isStoreStep.eq_def] at hm
  split at hm
  · rename_i i c r
    rw [beq_iff_eq.mp hm]
    exact ⟨_, _, rfl⟩
  · cases hm

theorem eq_of_isPurgeStep (hm : isPurgeStep n m = true) :
    ∃ c r, m = (.purge n, ⟨.act (.run c), r⟩) := by
  rw [isPurgeStep.eq_def] at hm
  split at hm
  · rename_i k ids cutoff r
    rw [beq_iff_eq.mp hm]
    exact ⟨_, _, rfl⟩
  · cases hm

/-- A task keeps the upload lock until it gives it back. -/
theorem Knows.next_upload {t : Knows} {c : LockCmd ServerLock ServerCmd}
    {r : LockCmd.Answer ServerCmd.Answer c} (hc : endsSync caller (caller, ⟨c, r⟩) = false)
    (ht : t.upload = true) : (t.next c r).upload = true := by
  rcases c with l | l | c
  · cases l with
    | syncGuard => exact ht
    | upload => rfl
  · cases l with
    | syncGuard => exact ht
    | upload => simp [endsSync] at hc
  · cases c with
    | readSyncing => exact ht
    | setSyncing value => exact ht
    | run c => exact ht

/-- While the scheduler holds the upload lock, a flag that it has lowered stays
lowered. -/
theorem Knows.next_lowered {t : Knows} {c : LockCmd ServerLock ServerCmd}
    {r : LockCmd.Answer ServerCmd.Answer c} (hpermits : permits calls caller t c)
    (hupload : t.upload = true) (ht : t.announced = false) : (t.next c r).announced = false := by
  rcases c with l | l | c
  · cases l <;> exact ht
  · cases l <;> exact ht
  · cases c with
    | readSyncing => exact ht
    | setSyncing value =>
        obtain ⟨-, -, hraise⟩ : caller = .scheduler ∧ t.guard = true ∧ _ := hpermits
        cases value with
        | false => rfl
        | true =>
            rw [hraise rfl] at hupload
            cases hupload
    | run c => exact ht

/-- **No purge runs during a sync**, in a run that keeps the purges without a
client and the `SyncWithQrz` calls apart. -/
theorem run_no_purge_during_sync
    (hr : (calls.start formatDate s).Run (serve h) (KeptApart calls) ms q) :
    ¬ PurgeDuringSync ms caller n i j k := by
  rintro ⟨hsyncs, hij, hjk, hfirst, hpurge, hlast, hsame⟩
  obtain ⟨mi, hi, hmi⟩ := (Option.any_eq_true _ _).mp hfirst
  obtain ⟨mj, hj, hmj⟩ := (Option.any_eq_true _ _).mp hpurge
  obtain ⟨mk, hk, hmk⟩ := (Option.any_eq_true _ _).mp hlast
  obtain ⟨ci, ri, rfl⟩ := eq_of_isStoreStep hmi
  obtain ⟨cj, rj, rfl⟩ := eq_of_isPurgeStep hmj
  obtain ⟨ck, rk, rfl⟩ := eq_of_isStoreStep hmk
  have hlen := (List.getElem?_eq_some_iff.mp hk).1
  have hstay : ∀ y, i ≤ y → y < k → ∀ c r, ms[y]? = some (caller, ⟨c, r⟩) →
      endsSync caller (caller, ⟨c, r⟩) = false := by
    intro y hiy hyk c r hy
    rcases hiy.eq_or_lt with rfl | hlt
    · rw [hi] at hy
      cases hy
      rfl
    · have hno := hsame y hyk hlt
      rwa [hy] at hno
  have hobeys : ∀ i', ((calls.start formatDate s).thread i').Obeys (callerContract calls i')
      (fun _ _ => True) {} := fun i' => task_obeys i'
  -- the caller holds the upload lock from its first store step on
  have huploadAt : ∀ {y c r}, ms[y]? = some (caller, ⟨.act (.run c), r⟩) →
      (known calls (ms.take y) caller).upload = true
        ∧ (caller = .scheduler → (known calls (ms.take y) caller).announced = true) := by
    intro y c r hy
    have hrun := (known_at hr hy).1
    cases caller with
    | scheduler => exact ⟨hrun.1, fun _ => hrun.2⟩
    | explicit k => exact ⟨hrun, fun hne => nomatch hne⟩
    | purge n => cases hsyncs
  have hupload : (known calls (ms.take j) caller).upload = true :=
    hr.stays (I := fun t => t.upload = true) hobeys hij.le (by omega)
      (fun hiy hyj hy _ ht => Knows.next_upload (hstay _ hiy (by omega) _ _ hy) ht)
      (huploadAt hi).1
  obtain ⟨⟨hcleared, hclient⟩, owner, s', hc⟩ := known_at hr hj
  have hlowered : s'.1 = false := (hc.cleared _ hcleared).2
  cases hcaller : caller with
  | scheduler =>
      subst hcaller
      -- the flag that the purge has seen lowered stays lowered up to the last step
      have hafter : (known calls (ms.take k) .scheduler).upload = true
          ∧ (known calls (ms.take k) .scheduler).announced = false := by
        refine hr.stays (I := fun t => t.upload = true ∧ t.announced = false) hobeys hjk.le
          (by omega) ?_ ⟨hupload, ?_⟩
        · intro t y c r hjy hyk hy hpermits ht
          exact ⟨Knows.next_upload (hstay y (by omega) hyk c r hy) ht.1,
            Knows.next_lowered (show permits calls .scheduler t c from hpermits) ht.1 ht.2⟩
        · show (known calls (ms.take j) .scheduler).announced = false
          rw [← hc.announced]
          exact hlowered
      have hraised := (huploadAt hk).2 rfl
      rw [hafter.2] at hraised
      cases hraised
  | explicit k' =>
      subst hcaller
      cases hlocks : (calls.purges n).hasClient with
      | true =>
          -- both hold the upload lock
          have hmine := (hc.upload _).mp hupload
          have htheirs := (hc.upload _).mp (hclient hlocks)
          rw [hmine] at htheirs
          cases htheirs
      | false =>
          have hfree := hc.apart n k' hlocks hcleared
          rw [hupload] at hfree
          cases hfree
  | purge n' =>
      subst hcaller
      cases hsyncs

end Apart

/-! ### An explicit sync and a purge -/

/-- A row that was deleted. -/
def trashedRow : QsoRecord := { localId := "a", deletedAt := some ⟨10, 0⟩ }

/-- A `SyncWithQrz` call and a purge that has no remote deletes to push. -/
def syncAndPurge : Calls where
  rounds := []
  syncs _ := (false, .lastWriteWins)
  purges _ := {}

/-- Nobody has moved; the store holds the deleted row. -/
def beforeTheCalls : Threads Caller ServerLock ServerCmd.Answer (Bool × World Unit) :=
  syncAndPurge.start (fun _ => none) (MemoryState.empty.put trashedRow, ())

/-- The purge goes between the first store steps of the sync. -/
def purgeInTheMiddle : List Caller :=
  [.explicit 0, .explicit 0, .purge 0, .purge 0, .purge 0] ++
    List.replicate 4 (.explicit 0)

/-- The actions of that schedule. -/
def overlappingRun : List ServerAction :=
  (beforeTheCalls.schedule (serve (handle quietRemote)) purgeInTheMiddle).1

/-- The purge deletes its row between two store steps of the sync. -/
theorem purge_during_explicit_sync :
    (∃ q, beforeTheCalls.Run (serve (handle quietRemote)) (fun _ _ => True) overlappingRun q
      ∧ q.state.2.1.get "a" = none)
    ∧ PurgeDuringSync overlappingRun (.explicit 0) 0 1 4 7 := by
  refine ⟨⟨_, Threads.schedule_run (by decide +kernel), by decide +kernel⟩, ?_⟩
  exact ⟨rfl, by decide, by decide, by decide +kernel, by decide +kernel, by decide +kernel,
    by decide +kernel⟩

/-- The purge waits for the end of the sync. -/
def purgeAfterwards : List Caller :=
  List.replicate 20 (.explicit 0) ++ List.replicate 4 (.purge 0)

/-- The actions of that schedule. -/
def separateRun : List ServerAction :=
  (beforeTheCalls.schedule (serve (handle quietRemote)) purgeAfterwards).1

/-- Then both do their work, and no sync is disturbed. -/
theorem run_no_purge_during_sync_afterwards :
    separateRun.any (isStoreStep (.explicit 0)) = true
    ∧ separateRun.any (isPurgeStep 0) = true
    ∧ ∀ i j k, ¬ PurgeDuringSync separateRun (.explicit 0) 0 i j k := by
  refine ⟨by decide +kernel, by decide +kernel, fun i j k => ?_⟩
  have hrun : beforeTheCalls.Run (serve (handle quietRemote)) (KeptApart syncAndPurge) separateRun
      (beforeTheCalls.schedule (serve (handle quietRemote)) purgeAfterwards).2 :=
    Threads.schedule_run (by decide +kernel)
  exact run_no_purge_during_sync hrun

end QsoRipper
