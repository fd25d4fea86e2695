/-
QsoRipper/DotNet/Metadata.lean

The record of sync metadata that QRZ and LoTW share, in the managed engine.
Three places write it, each whole: the end of a LoTW download copies the QRZ
fields from what it read, the end of a QRZ sync and an engine start with the
stamp of an old configuration build it anew and leave the LoTW fields empty.

The store is any store: what is assumed of it is that it keeps the metadata in
one place and gives back what was put there, up to a rounding of its own.
-/
import QsoRipper.DotNet.LotwSync
import QsoRipper.DotNet.QrzSync
import QsoRipper.Lib.Trace
import QsoRipper.Lotw.Metadata

namespace QsoRipper.DotNet

open Interaction

/-! ### The fields -/

/-- The LoTW fields: last sync, confirmation mark. -/
def lotwFields (m : SyncMetadata) : Option Timestamp × Option String := (m.lotwLastSync, m.lotwLastQsl)

/-- The QRZ fields: count, last sync, owner. -/
def qrzFields (m : SyncMetadata) : ℕ × Option Timestamp × Option String :=
  (m.qrzQsoCount, m.lastSync, m.qrzLogbookOwner)

theorem eq_of_fields {m m' : SyncMetadata} (hq : qrzFields m = qrzFields m')
    (hl : lotwFields m = lotwFields m') : m = m' := by
  obtain ⟨count, last, owner, lotwLast, qsl⟩ := m
  obtain ⟨count', last', owner', lotwLast', qsl'⟩ := m'
  simp only [qrzFields, lotwFields, Prod.mk.injEq] at hq hl
  obtain ⟨rfl, rfl, rfl⟩ := hq
  obtain ⟨rfl, rfl⟩ := hl
  rfl

/-- The LoTW fields of metadata that never saw a LoTW sync. -/
def noLotw : Option Timestamp × Option String := (none, none)

/-! ### The store -/

/-- The metadata an answered command has stored, if it has. -/
def storedMetadata (stored : SyncMetadata → SyncMetadata) :
    Event NetCmd NetCmd.Answer → Option SyncMetadata
  | ⟨.logbook (.upsertSyncMetadata m), answer⟩ =>
      match (answer : Except StorageException Unit) with
      | .ok () => some (stored m)
      | .error _ => none
  | _ => none

/-- The command does not write the metadata. -/
def LeavesMetadata (c : NetCmd) : Prop := ∀ m, c ≠ .logbook (.upsertSyncMetadata m)

/-- A store that keeps the metadata in one place; `stored` is what becomes of
metadata that is put there. -/
structure MetadataStore {σ : Type} (h : (c : NetCmd) → σ → c.Answer × σ) (metadata : σ → SyncMetadata)
    (stored : SyncMetadata → SyncMetadata) : Prop where
  read : ∀ s m, (h (.logbook .getSyncMetadata) s).1 = (.ok m : Except StorageException SyncMetadata) →
    m = metadata s
  write : ∀ c s, metadata (h c s).2 = (storedMetadata stored ⟨c, (h c s).1⟩).getD (metadata s)
  fixed : ∀ s, stored (metadata s) = metadata s
  qrz : ∀ m m', qrzFields m = qrzFields m' → qrzFields (stored m) = qrzFields (stored m')
  lotw : ∀ m, lotwFields m = noLotw → lotwFields (stored m) = noLotw

theorem storedMetadata_of_leaves {stored : SyncMetadata → SyncMetadata}
    {e : Event NetCmd NetCmd.Answer} (h : LeavesMetadata e.1) : storedMetadata stored e = none := by
  unfold storedMetadata
  split
  · exact absurd rfl (h _)
  · rfl

/-! ### What happens to a store -/

/-- A program that does not write the metadata. -/
def Quiet {α : Type} (p : NetProgram α) : Prop := p.Emits LeavesMetadata

/-- Something done to the store: an engine start, with its repairs and the stamp
of an old configuration; a sync; a call of the operator. -/
inductive Activity where
  | start (repairs : { p : NetProgram Unit // Quiet p }) (lastSyncUtc : Option Timestamp)
  | qrzSync (fullSync : Bool) (policy : ConflictPolicy)
  | lotwSync (fullSync upload download : Bool)
  | operator (p : { p : NetProgram Unit // Quiet p })

/-- The end of an engine start. -/
def restoreLastSync : Option Timestamp → NetProgram Unit
  | none => return ()
  | some lastSync => do
      let _ ← logbook (.upsertSyncMetadata { lastSync := some lastSync })
      return ()

section Activities

variable {σ : Type} (formatDate : Timestamp → String) (h : (c : NetCmd) → σ → c.Answer × σ)
  (metadata : σ → SyncMetadata) (stored : SyncMetadata → SyncMetadata)

/-- What is executed. -/
def Activity.program : Activity → NetProgram Unit
  | .start repairs lastSyncUtc => do
      repairs.val
      restoreLastSync lastSyncUtc
  | .qrzSync fullSync policy => do
      let _ ← executeSync formatDate fullSync policy
      return ()
  | .lotwSync fullSync upload download => do
      let _ ← DotNet.lotwSync fullSync upload download
      return ()
  | .operator p => p.val

/-- The state afterwards. -/
def Activity.after (a : Activity) (s : σ) : σ := ((a.program formatDate).run h s).2

/-- A LoTW sync whose download comes to its end. -/
def Activity.CompletesLotw (s : σ) : Activity → Prop
  | .lotwSync fullSync upload download =>
      ∃ o, ((DotNet.lotwSync fullSync upload download).run h s).1 = .ok o ∧ o.completed = true
  | _ => False

/-- A QRZ sync. -/
def Activity.IsQrzWork : Activity → Prop
  | .qrzSync _ _ => True
  | _ => False

/-- Only a completed LoTW sync changes the LoTW fields, and only QRZ work the
QRZ fields. -/
def Activity.KeepsFields (a : Activity) (s : σ) : Prop :=
  (¬ a.CompletesLotw h s →
      lotwFields (metadata (a.after formatDate h s)) = lotwFields (metadata s))
    ∧ (¬ a.IsQrzWork →
      qrzFields (metadata (a.after formatDate h s)) = qrzFields (metadata s))

/-- The activity writes the metadata, and the store takes it. -/
def Activity.StoresMetadata (a : Activity) (s : σ) : Prop :=
  ∃ e ∈ (a.program formatDate).events h s, storedMetadata stored e ≠ none

/-- A write would lose something: that of a QRZ sync the LoTW fields, that of an
engine start whatever differs from what it stores. -/
def Activity.Loses (s : σ) : Activity → Prop
  | .qrzSync _ _ => lotwFields (metadata s) ≠ noLotw
  | .start _ lastSyncUtc => metadata s ≠ stored { lastSync := lastSyncUtc }
  | _ => False

/-- The activity does not store metadata that loses something. -/
def Activity.Harmless (a : Activity) (s : σ) : Prop :=
  a.StoresMetadata formatDate h stored s → ¬ a.Loses metadata stored s

/-- `P` holds of every activity of a sequence, in the state it begins in. -/
def Along (P : Activity → σ → Prop) : List Activity → σ → Prop
  | [], _ => True
  | a :: rest, s => P a s ∧ Along P rest (a.after formatDate h s)

variable {formatDate h} in
theorem Along.congr {P Q : Activity → σ → Prop} (hPQ : ∀ a s, P a s ↔ Q a s)
    (acts : List Activity) (s : σ) : Along formatDate h P acts s ↔ Along formatDate h Q acts s := by
  induction acts generalizing s with
  | nil => exact Iff.rfl
  | cons a rest ih => exact and_congr (hPQ a s) (ih _)

end Activities

/-! ### Programs that leave the metadata alone -/

namespace Quiet

variable {α β : Type}

theorem pure (a : α) : Quiet (Pure.pure a : NetProgram α) := trivial

theorem bind {p : NetProgram α} {f : α → NetProgram β} (hp : Quiet p) (hf : ∀ a, Quiet (f a)) :
    Quiet (p >>= f) := Prog.Emits.bind hp hf

theorem logbook {c : LogbookCmd} (hc : ∀ m, c ≠ .upsertSyncMetadata m) : Quiet (DotNet.logbook c) :=
  Prog.Emits.call fun m heq => hc m (NetCmd.logbook.inj heq)

theorem qrzApi (c : QrzApiCmd) : Quiet (DotNet.qrzApi c) := Prog.Emits.call fun _ => nofun

theorem lotwApi (c : LotwApiCmd) : Quiet (DotNet.lotwApi c) := Prog.Emits.call fun _ => nofun

theorem newGuid : Quiet DotNet.newGuid := Prog.Emits.call fun _ => nofun

theorem utcNow : Quiet DotNet.utcNow := Prog.Emits.call fun _ => nofun

end Quiet

/-! ### The QRZ sync -/

theorem quiet_uploadRow (current : QsoRecord) (bookOwner : Option String) :
    Quiet (uploadRow current bookOwner) := by
  rw [uploadRow]
  split
  · refine .bind (.qrzApi _) fun a => ?_
    split <;> exact .pure _
  · refine .bind (.qrzApi _) fun a => ?_
    split
    · exact .pure _
    · split
      · refine .bind (.qrzApi _) fun a => ?_
        split <;> exact .pure _
      · exact .pure _
    · exact .pure _

theorem quiet_uploadAll (bookOwner : Option String) (shouldUpload : QsoRecord → Bool)
    (qsos : List QsoRecord) (pass : UploadPass) :
    Quiet (uploadAll bookOwner shouldUpload qsos pass) := by
  have hone (qso : QsoRecord) (pass : UploadPass) :
      Quiet (uploadOne bookOwner shouldUpload qso pass) := by
    rw [uploadOne]
    refine .bind (.logbook nofun) fun a => ?_
    split
    · exact .pure _
    · exact .pure _
    · split
      · exact .pure _
      · refine .bind (quiet_uploadRow _ _) fun a => ?_
        split
        · exact .pure _
        · rw [recordUpload]
          refine .bind (.logbook nofun) fun a => ?_
          split <;> exact .pure _
  induction qsos generalizing pass with
  | nil => exact .pure _
  | cons qso rest ih =>
      rw [uploadAll]
      exact .bind (hone _ _) fun pass => ih pass

theorem quiet_uploadPendingQsos (bookOwner : Option String) (shouldUpload : QsoRecord → Bool) :
    Quiet (uploadPendingQsos bookOwner shouldUpload) := by
  rw [uploadPendingQsos]
  refine .bind (.logbook nofun) fun a => ?_
  split
  · exact .pure _
  · exact quiet_uploadAll _ _ _ _

theorem quiet_startSync (policy : ConflictPolicy) : Quiet (startSync policy) := by
  have hread : Quiet readMetadata := by
    rw [readMetadata]
    refine .bind (.logbook nofun) fun a => ?_
    split <;> exact .pure _
  rw [startSync]
  refine .bind hread fun a => .bind (.qrzApi _) fun status => .bind ?_ fun pass => .pure _
  rw [pushCorrections]
  split
  · exact .pure _
  · exact quiet_uploadPendingQsos _ _

theorem quiet_processRemotes (ctx : DownloadContext) (remotes : List FetchedQso)
    (st : DownloadState) : Quiet (processRemotes ctx remotes st) := by
  have hone (remote : FetchedQso) (st : DownloadState) : Quiet (processRemote ctx remote st) := by
    rw [processRemote]
    split
    · exact .pure _
    split
    · exact .pure _
    split
    · -- nobody matches: the record is inserted
      have hrow (row : QsoRecord) : Quiet (insertRow remote.val row st) := by
        rw [insertRow]
        refine .bind (.logbook fun _ hno => by cases hno) fun a => ?_
        split <;> exact .pure _
      rw [insertRemote]
      split
      · exact .bind .newGuid fun _ => hrow _
      · exact hrow _
    · refine .bind ?_ fun _ => .pure _
      rw [mergeRemote]
      refine .bind (.logbook fun _ hno => by cases hno) fun a => ?_
      split <;> exact .pure _
  induction remotes generalizing st with
  | nil => exact .pure _
  | cons remote rest ih =>
      rw [processRemotes]
      exact .bind (hone _ _) fun st => ih st

theorem quiet_download (formatDate : Timestamp → String) (fullSync : Bool) (policy : ConflictPolicy)
    (start : SyncStart) : Quiet (download formatDate fullSync policy start) := by
  rw [download]
  refine .bind (.logbook nofun) fun a => ?_
  split
  · exact .pure _
  · refine .bind (.qrzApi _) fun a => ?_
    split
    · exact .pure _
    · exact .bind (quiet_processRemotes _ _ _) fun _ => .pure _

theorem quiet_completeRemoteDelete (qso : QsoRecord) (attempts : ℕ) :
    Quiet (completeRemoteDelete qso attempts) := by
  induction attempts with
  | zero => exact .pure _
  | succ attempts ih =>
      rw [completeRemoteDelete]
      refine .bind (.logbook nofun) fun a => ?_
      split
      · exact .pure _
      · exact .pure _
      · split
        · exact .pure _
        · refine .bind (.logbook nofun) fun a => ?_
          split
          · exact .pure _
          · exact .pure _
          · exact ih

theorem quiet_pushPendingRemoteDeletes (counters : SyncCounters) :
    Quiet (pushPendingRemoteDeletes counters) := by
  have hall (qsos : List QsoRecord) (counters : SyncCounters) :
      Quiet (pushRemoteDeletes qsos counters) := by
    induction qsos generalizing counters with
    | nil => exact .pure _
    | cons qso rest ih =>
        rw [pushRemoteDeletes]
        refine .bind (.qrzApi _) fun a => ?_
        split
        · exact .bind (quiet_completeRemoteDelete _ _) fun _ => ih _
        · exact ih _
  rw [pushPendingRemoteDeletes]
  refine .bind (.logbook nofun) fun a => ?_
  split
  · exact .pure _
  · exact hall _ _

/-- The command leaves the metadata alone or stores it without LoTW fields. -/
def DropsLotw (c : NetCmd) : Prop :=
  ∀ m, c = .logbook (.upsertSyncMetadata m) → lotwFields m = noLotw

theorem Quiet.dropsLotw {α : Type} {p : NetProgram α} (hp : Quiet p) : p.Emits DropsLotw :=
  hp.mono fun _ hc m heq => absurd heq (hc m)

/-- **What a QRZ sync stores has no LoTW fields.** -/
theorem executeSync_dropsLotw (formatDate : Timestamp → String) (fullSync : Bool)
    (policy : ConflictPolicy) : (executeSync formatDate fullSync policy).Emits DropsLotw := by
  have hcount (metadata : SyncMetadata) (status : Except ApiException QrzLogbookStatus)
      (counters : SyncCounters) : Quiet (countToPersist metadata status counters) := by
    cases status with
    | ok status => exact .pure _
    | error ex =>
        rw [countToPersist]
        refine .bind (.logbook nofun) fun a => ?_
        split <;> exact .pure _
  have hstore (metadata : SyncMetadata) (status : Except ApiException QrzLogbookStatus)
      (counters : SyncCounters) : (storeMetadata metadata status counters).Emits DropsLotw := by
    unfold storeMetadata
    refine .bind (hcount _ _ _).dropsLotw fun a => .bind Quiet.utcNow.dropsLotw fun now => ?_
    refine .bind (.call ?_) fun a => ?_
    · rintro m heq
      rw [NetCmd.logbook.injEq, LogbookCmd.upsertSyncMetadata.injEq] at heq
      rw [← heq]
      rfl
    · split <;> exact .pure _
  rw [executeSync]
  refine .bind (quiet_startSync policy).dropsLotw fun start => ?_
  refine .bind (quiet_download _ _ _ _).dropsLotw fun a => ?_
  split
  · exact .pure _
  · rw [finishSync]
    refine .bind (quiet_uploadPendingQsos _ _).dropsLotw fun pass => ?_
    refine .bind (quiet_pushPendingRemoteDeletes _).dropsLotw fun counters => ?_
    exact .bind (hstore _ _ _) fun _ => .pure _

/-! ### The LoTW sync -/

namespace Quiet

variable {α β : Type}

theorem tryStore {c : LogbookCmd} (hc : ∀ m, c ≠ .upsertSyncMetadata m)
    {f : c.Value → NetProgram (Except LotwException α)} (hf : ∀ a, Quiet (f a)) :
    Quiet (DotNet.tryStore c f) := by
  rw [DotNet.tryStore]
  refine .bind (.logbook hc) fun a => ?_
  split
  · exact .pure _
  · exact hf _

theorem andThen {p : NetProgram (Except LotwException α)}
    {f : α → NetProgram (Except LotwException β)} (hp : Quiet p) (hf : ∀ a, Quiet (f a)) :
    Quiet (DotNet.andThen p f) := by
  rw [DotNet.andThen]
  refine .bind hp fun a => ?_
  split
  · exact .pure _
  · exact hf _

theorem swapIn (localId : String) (skipsDeleted : Bool) {prepare : NetProgram Ticks}
    (hprepare : Quiet prepare) (replacement : QsoRecord → Ticks → QsoRecord) (attempts : ℕ) :
    Quiet (DotNet.swapIn localId skipsDeleted prepare replacement attempts) := by
  induction attempts with
  | zero => exact .pure _
  | succ attempts ih =>
      rw [DotNet.swapIn]
      refine .tryStore (by nofun) fun a => ?_
      split
      · exact .pure _
      · split
        · exact .pure _
        · refine .bind hprepare fun now => .tryStore (by nofun) fun a => ?_
          split
          · exact .pure _
          · exact ih

end Quiet

theorem quiet_patchAll (success : Bool) (qsos : List QsoRecord) : Quiet (patchAll success qsos) := by
  induction qsos with
  | nil => exact .pure _
  | cons qso rest ih =>
      rw [patchAll]
      refine .andThen ?_ fun _ => ih
      rw [patchUpload]
      split
      · exact .swapIn _ _ .utcNow _ _
      · exact .swapIn _ _ (.pure _) _ _

theorem quiet_uploadPhase (pending : List QsoRecord) : Quiet (uploadPhase pending) := by
  have hfail (message : String) (totals : LotwTotals) : Quiet (failUpload pending message totals) := by
    rw [failUpload]
    exact .andThen (quiet_patchAll _ _) fun _ => .pure _
  rw [uploadPhase]
  split
  · exact .pure _
  refine .bind (.lotwApi _) fun a => ?_
  split
  · exact .pure _
  · exact hfail _ _
  · refine .bind (quiet_patchAll _ _) fun a => ?_
    split
    · exact .pure _
    · exact .pure _
    · exact hfail _ _

theorem quiet_processConfirmations (localQsos confirmations : List QsoRecord)
    (totals : LotwTotals) : Quiet (processConfirmations localQsos confirmations totals) := by
  have hmark (rows : List QsoRecord) : Quiet (markConflicts rows) := by
    induction rows with
    | nil => exact .pure _
    | cons row rest ih =>
        rw [markConflicts]
        exact .andThen (.swapIn _ _ (.pure _) _ _) fun _ => ih
  have hone (confirmation : QsoRecord) (totals : LotwTotals) :
      Quiet (processConfirmation localQsos confirmation totals) := by
    rw [processConfirmation]
    split
    · exact .pure _
    · exact .pure _
    · refine .bind ?_ fun a => ?_
      · rw [applyConfirmation]
        refine .swapIn _ _ ?_ _ _
        split
        · exact .pure _
        · exact .utcNow
      · split <;> exact .pure _
    · exact .bind (hmark _) fun _ => .pure _
  induction confirmations generalizing totals with
  | nil => exact .pure _
  | cons confirmation rest ih =>
      rw [processConfirmations]
      refine .bind (hone _ _) fun a => ?_
      split
      · exact .pure _
      · exact ih _

section Runs

variable {σ : Type} {h : (c : NetCmd) → σ → c.Answer × σ} {metadata : σ → SyncMetadata}
  {stored : SyncMetadata → SyncMetadata}

/-- A store call that throws ends the program. -/
theorem tryStore_run_cases {α : Type} (c : LogbookCmd)
    (f : c.Value → NetProgram (Except LotwException α)) (s : σ) :
    (∃ ex, (h (.logbook c) s).1 = (.error ex : Except StorageException c.Value)
        ∧ (tryStore c f).run h s = (.error (.failed ex.message), (h (.logbook c) s).2))
      ∨ ∃ value, (h (.logbook c) s).1 = (.ok value : Except StorageException c.Value)
        ∧ (tryStore c f).run h s = (f value).run h (h (.logbook c) s).2 := by
  rw [tryStore, Prog.run_bind]
  show (∃ ex, _ ∧ (match (h (.logbook c) s).1 with
      | .error ex => (return .error (.failed ex.message) : NetProgram (Except LotwException α))
      | .ok value => f value).run h (h (.logbook c) s).2 = _) ∨ ∃ value, _ ∧ (match (h (.logbook c) s).1 with
      | .error ex => (return .error (.failed ex.message) : NetProgram (Except LotwException α))
      | .ok value => f value).run h (h (.logbook c) s).2 = _
  rcases e : ((h (.logbook c) s).1 : Except StorageException c.Value) with ex | value
  · exact .inl ⟨ex, rfl, rfl⟩
  · exact .inr ⟨value, rfl, rfl⟩

theorem andThen_run_cases {α β : Type} (p : NetProgram (Except LotwException α))
    (f : α → NetProgram (Except LotwException β)) (s : σ) :
    (∃ ex, (andThen p f).run h s = (.error ex, (p.run h s).2))
      ∨ ∃ value, (andThen p f).run h s = (f value).run h (p.run h s).2 := by
  rw [andThen, Prog.run_bind]
  rcases (p.run h s).1 with ex | value
  · exact .inl ⟨_, rfl⟩
  · exact .inr ⟨value, rfl⟩

variable (hstore : MetadataStore h metadata stored)
include hstore

theorem metadata_run_of_quiet {α : Type} {p : NetProgram α} (hp : Quiet p) (s : σ) :
    metadata (p.run h s).2 = metadata s :=
  Prog.register_run_of_quiet hstore.write fun _ he => storedMetadata_of_leaves (hp.of_mem_events he)

theorem metadata_logbook_of_leaves {c : LogbookCmd} (hc : ∀ m, c ≠ .upsertSyncMetadata m) (s : σ) :
    metadata (h (.logbook c) s).2 = metadata s :=
  metadata_run_of_quiet hstore (Quiet.logbook hc) s

/-- What a LoTW download does to the metadata, which it has just read. -/
theorem downloadPhase_run (localQsos : List QsoRecord) (fullSync : Bool) (totals : LotwTotals)
    (s : σ) :
    let o := (downloadPhase localQsos (metadata s) fullSync totals).run h s
    qrzFields (metadata o.2) = qrzFields (metadata s)
      ∧ (metadata o.2 = metadata s ∨ ∃ r, o.1 = .ok r ∧ r.completed = true) := by
  rw [downloadPhase, Prog.run_bind]
  have hfetch := metadata_run_of_quiet hstore
    (Quiet.lotwApi (.fetchConfirmations (if fullSync then none else (metadata s).lotwLastQsl))) s
  generalize (lotwApi (.fetchConfirmations (if fullSync then none
    else (metadata s).lotwLastQsl))).run h s = a at hfetch ⊢
  obtain ⟨answer, s₁⟩ := a
  dsimp only at hfetch ⊢
  split
  · exact ⟨congrArg qrzFields hfetch, .inl hfetch⟩
  · exact ⟨congrArg qrzFields hfetch, .inl hfetch⟩
  rename_i report
  rw [Prog.run_bind]
  have hloop := metadata_run_of_quiet hstore (quiet_processConfirmations localQsos
    report.confirmations
    { totals with processed := totals.processed + report.confirmations.length }) s₁
  generalize (processConfirmations localQsos report.confirmations
    { totals with processed := totals.processed + report.confirmations.length }).run h s₁ = l
    at hloop ⊢
  obtain ⟨⟨totals₂, outcome⟩, s₂⟩ := l
  dsimp only at hloop ⊢
  have hsame : metadata s₂ = metadata s := hloop.trans hfetch
  split
  · exact ⟨congrArg qrzFields hsame, .inl hsame⟩
  · exact ⟨congrArg qrzFields hsame, .inl hsame⟩
  rw [Prog.run_bind, storeHighWater, Prog.run_bind]
  have hclock := metadata_run_of_quiet hstore Quiet.utcNow s₂
  generalize utcNow.run h s₂ = t at hclock ⊢
  obtain ⟨now, s₃⟩ := t
  dsimp only at hclock ⊢
  -- the write copies the QRZ fields from what was read
  generalize hm : ({ metadata s with
    lotwLastSync := some (fromDateTimeOffset now)
    lotwLastQsl := report.highWater.or (metadata s).lotwLastQsl } : SyncMetadata) = m
  have hqrz : qrzFields m = qrzFields (metadata s) := by rw [← hm]; rfl
  have hwritten : qrzFields (metadata (h (.logbook (.upsertSyncMetadata m)) s₃).2)
      = qrzFields (metadata s) := by
    rw [hstore.write]
    rcases e : storedMetadata stored ⟨.logbook (.upsertSyncMetadata m),
      (h (.logbook (.upsertSyncMetadata m)) s₃).1⟩ with - | v
    · rw [Option.getD_none, hclock, hsame]
    · have hv : v = stored m := by
        unfold storedMetadata at e
        dsimp only at e
        split at e <;> cases e
        rfl
      rw [Option.getD_some, hv, hstore.qrz m (metadata s) hqrz, hstore.fixed]
  rcases tryStore_run_cases (h := h) (.upsertSyncMetadata m)
    (fun _ => (return .ok () : NetProgram (Except LotwException Unit))) s₃ with
    ⟨ex, hanswer, hrun⟩ | ⟨value, -, hrun⟩
  · rw [hrun]
    refine ⟨hwritten, .inl ?_⟩
    show metadata (h (.logbook (.upsertSyncMetadata m)) s₃).2 = _
    rw [hstore.write, hanswer]
    exact hclock.trans hsame
  · rw [hrun]
    exact ⟨hwritten, .inr ⟨_, rfl, rfl⟩⟩

/-- **A LoTW sync** leaves the QRZ fields alone, and the LoTW fields unless its
download comes to its end. -/
theorem lotwSync_run (fullSync upload download : Bool) (s : σ) :
    let o := (lotwSync fullSync upload download).run h s
    qrzFields (metadata o.2) = qrzFields (metadata s)
      ∧ (metadata o.2 = metadata s ∨ ∃ r, o.1 = .ok r ∧ r.completed = true) := by
  rw [lotwSync]
  have hlist := metadata_logbook_of_leaves hstore
    (c := .listQsos { sort := .oldestFirst }) nofun s
  rcases tryStore_run_cases (h := h) (.listQsos { sort := .oldestFirst }) _ s with
    ⟨ex, -, hrun⟩ | ⟨localQsos, -, hrun⟩
  · rw [hrun]
    exact ⟨congrArg qrzFields hlist, .inl hlist⟩
  rw [hrun]
  generalize (h (.logbook (.listQsos { sort := .oldestFirst })) s).2 = s₁ at hlist ⊢
  generalize hpending : (if upload then localQsos.filter isLotwUploadPending else []) = pending
  have hupload := metadata_run_of_quiet hstore (quiet_uploadPhase pending) s₁
  rcases andThen_run_cases (h := h) (uploadPhase pending) _ s₁ with ⟨ex, hrun⟩ | ⟨totals, hrun⟩
  · rw [hrun]
    exact ⟨congrArg qrzFields (hupload.trans hlist), .inl (hupload.trans hlist)⟩
  rw [hrun]
  generalize ((uploadPhase pending).run h s₁).2 = s₂ at hupload ⊢
  have hget := metadata_logbook_of_leaves hstore (c := .getSyncMetadata) nofun s₂
  have hsame := hget.trans (hupload.trans hlist)
  rcases tryStore_run_cases (h := h) .getSyncMetadata _ s₂ with ⟨ex, -, hrun⟩ | ⟨m, hanswer, hrun⟩
  · rw [hrun]
    exact ⟨congrArg qrzFields hsame, .inl hsame⟩
  rw [hrun]
  -- nothing has been written since, so what is read is what is stored
  have hm : m = metadata (h (.logbook .getSyncMetadata) s₂).2 := by
    rw [hget]
    exact hstore.read _ _ hanswer
  generalize (h (.logbook .getSyncMetadata) s₂).2 = s₃ at hsame hm ⊢
  subst hm
  split
  · rw [← hsame]
    exact downloadPhase_run hstore localQsos fullSync totals s₃
  · exact ⟨congrArg qrzFields hsame, .inl hsame⟩

end Runs

/-! ### Sequences -/

section Sequences

variable {σ : Type} (formatDate : Timestamp → String) {h : (c : NetCmd) → σ → c.Answer × σ}
  {metadata : σ → SyncMetadata} {stored : SyncMetadata → SyncMetadata}
  (hstore : MetadataStore h metadata stored)
include hstore

/-- What an activity leaves is what was there, or what it stored. -/
theorem after_cases (a : Activity) (s : σ) :
    (¬ a.StoresMetadata formatDate h stored s
        ∧ metadata (a.after formatDate h s) = metadata s)
      ∨ a.StoresMetadata formatDate h stored s ∧ ∃ e ∈ (a.program formatDate).events h s,
          storedMetadata stored e = some (metadata (a.after formatDate h s)) := by
  rcases Prog.register_run_cases hstore.write (a.program formatDate) s with
    ⟨hquiet, hsame⟩ | ⟨e, he, hwritten⟩
  · exact .inl ⟨fun ⟨e, he, hne⟩ => hne (hquiet e he), hsame⟩
  · exact .inr ⟨⟨e, he, by rw [hwritten]; nofun⟩, e, he, hwritten⟩

omit hstore in
theorem of_storedMetadata {e : Event NetCmd NetCmd.Answer} {m : SyncMetadata}
    (he : storedMetadata stored e = some m) :
    ∃ m', e.1 = .logbook (.upsertSyncMetadata m') ∧ m = stored m' := by
  unfold storedMetadata at he
  split at he
  · split at he
    · cases he
      exact ⟨_, rfl, rfl⟩
    · cases he
  · cases he

/-- **One activity** keeps the fields exactly if it is harmless. -/
theorem keepsFields_iff (a : Activity) (s : σ) :
    a.KeepsFields formatDate h metadata s ↔ a.Harmless formatDate h metadata stored s := by
  rw [Activity.KeepsFields, Activity.Harmless]
  rcases after_cases formatDate hstore a s with ⟨hno, hsame⟩ | ⟨hyes, e, he, hwritten⟩
  · rw [hsame]
    exact ⟨fun _ hyes => absurd hyes hno, fun _ => ⟨fun _ => rfl, fun _ => rfl⟩⟩
  obtain ⟨m, hcmd, hm⟩ := of_storedMetadata hwritten
  cases a with
  | start repairs lastSyncUtc =>
      -- the repairs do not write, so it is the stamp that was stored
      have hstamp : (Activity.start repairs lastSyncUtc).program formatDate
          |>.Emits fun c => ∀ m, c = .logbook (.upsertSyncMetadata m) → m = { lastSync := lastSyncUtc } := by
        refine .bind (repairs.property.mono fun _ hc m heq => absurd heq (hc m)) fun _ => ?_
        cases lastSyncUtc with
        | none => exact .pure _
        | some lastSync =>
            refine .bind (.call ?_) fun _ => .pure _
            rintro m heq
            rw [NetCmd.logbook.injEq, LogbookCmd.upsertSyncMetadata.injEq] at heq
            exact heq.symm
      have hm' := hstamp.of_mem_events he m hcmd
      rw [hm'] at hm
      rw [hm]
      constructor
      · intro hkeeps _ hloses
        exact hloses (eq_of_fields (hkeeps.2 nofun) (hkeeps.1 nofun)).symm
      · intro hharmless
        rw [← not_not.mp (hharmless hyes)]
        exact ⟨fun _ => rfl, fun _ => rfl⟩
  | qrzSync fullSync policy =>
      have hdrops : ((Activity.qrzSync fullSync policy).program formatDate).Emits DropsLotw :=
        .bind (executeSync_dropsLotw _ _ _) fun _ => .pure _
      have hnone := hstore.lotw m (hdrops.of_mem_events he m hcmd)
      rw [← hm] at hnone
      rw [hnone]
      constructor
      · intro hkeeps _ hloses
        exact hloses (hkeeps.1 nofun).symm
      · intro hharmless
        exact ⟨fun _ => (not_not.mp (hharmless hyes)).symm, fun hqrz => absurd trivial hqrz⟩
  | lotwSync fullSync upload download =>
      obtain ⟨hqrz, hcases⟩ := lotwSync_run hstore fullSync upload download s
      have hafter : (Activity.lotwSync fullSync upload download).after formatDate h s
          = ((DotNet.lotwSync fullSync upload download).run h s).2 := by
        rw [Activity.after, Activity.program, Prog.run_bind]
        rfl
      rw [hafter]
      refine ⟨fun _ _ => not_false, fun _ => ⟨fun hnot => ?_, fun _ => hqrz⟩⟩
      rcases hcases with hsame | hdone
      · exact congrArg lotwFields hsame
      · exact absurd hdone hnot
  | operator p =>
      exact absurd hcmd (Prog.Emits.of_mem_events p.property he m)

/-- **The fields of LoTW and QRZ** are kept along a sequence exactly if each QRZ
sync that stores metadata finds no LoTW fields and each engine start that does
finds what it stores. -/
theorem along_keepsFields_iff (acts : List Activity) (s : σ) :
    Along formatDate h (fun a s => a.KeepsFields formatDate h metadata s) acts s
      ↔ Along formatDate h (fun a s => a.Harmless formatDate h metadata stored s) acts s :=
  Along.congr (keepsFields_iff formatDate hstore) acts s

end Sequences

/-! ### The in-memory store -/

/-- Only the metadata write changes the metadata. -/
theorem syncMetadata_memory (c : LogbookCmd) (hc : ∀ m, c ≠ .upsertSyncMetadata m)
    (s : MemoryState) : (MemoryStorage.exec c s).2.syncMetadata = s.syncMetadata := by
  have hamend (localId : String) (f : QsoRecord → QsoRecord) :
      (MemoryStorage.amend s localId f).2.syncMetadata = s.syncMetadata := by
    rw [MemoryStorage.amend]
    split
    · rfl
    · split <;> rfl
  cases c with
  | insertQso qso =>
      show (MemoryStorage.insertQso s qso).2.syncMetadata = _
      rw [MemoryStorage.insertQso]
      split <;> rfl
  | updateQso qso =>
      show (MemoryStorage.updateQso s qso).2.syncMetadata = _
      rw [MemoryStorage.updateQso]
      split <;> rfl
  | updateQsoIfUnchanged expected replacement =>
      show (MemoryStorage.updateQsoIfUnchanged s expected replacement).2.syncMetadata = _
      rw [MemoryStorage.updateQsoIfUnchanged]
      split
      · rfl
      · split
        · rfl
        · split <;> rfl
  | updateQrzSyncMetadata localId expectedUpdatedAt qrzLogid =>
      show (MemoryStorage.updateQrzSyncMetadata s localId expectedUpdatedAt qrzLogid).2.syncMetadata = _
      rw [MemoryStorage.updateQrzSyncMetadata]
      split
      · rfl
      · split <;> rfl
  | deleteQso localId =>
      show (MemoryStorage.deleteQso s localId).2.syncMetadata = _
      rw [MemoryStorage.deleteQso]
      split <;> rfl
  | softDeleteQso localId deletedAt pending => exact hamend _ _
  | restoreQso localId => exact hamend _ _
  | getQso localId => rfl
  | listQsos query => rfl
  | listQsoHistory workedCallsign limit => rfl
  | getCounts => rfl
  | purgeDeletedQsos localIds olderThan =>
      show (MemoryStorage.purgeDeletedQsos s localIds olderThan).2.syncMetadata = _
      rw [MemoryStorage.purgeDeletedQsos]
      split
      · rfl
      · exact syncMetadata_removeAll _ _
  | getSyncMetadata => rfl
  | upsertSyncMetadata metadata => exact absurd rfl (hc metadata)

/-- The in-memory store keeps metadata as it is. -/
theorem metadataStore_memory {ε : Type} (env : NetEnvironment ε) :
    MetadataStore (netHandle env) (fun w => w.1.syncMetadata) id where
  read s m h := by
    cases h
    rfl
  write c w := by
    obtain ⟨s, e⟩ := w
    cases c with
    | logbook c =>
        by_cases hc : ∃ m, c = .upsertSyncMetadata m
        · obtain ⟨m, rfl⟩ := hc
          rfl
        · rw [storedMetadata_of_leaves]
          · exact syncMetadata_memory c (fun m heq => hc ⟨m, heq⟩) s
          · exact fun m heq => hc ⟨m, NetCmd.logbook.inj heq⟩
    | qrz c => rfl
    | lotw c => rfl
    | newGuid => rfl
    | utcNow => rfl
  fixed s := rfl
  qrz m m' h := h
  lotw m h := h

/-! ### Runs -/

/-- Services with nothing to report. -/
def emptyServices : NetEnvironment Unit where
  qrz
    | .fetchQsos _, e => (.ok [], e)
    | .uploadQso _ _, e => (.error (.other "refused"), e)
    | .uploadQsoWithReplace _ _, e => (.error (.other "refused"), e)
    | .updateQso _ _, e => (.error (.other "refused"), e)
    | .getStatus, e => (.ok { owner := "W1AW", qsoCount := 0 }, e)
    | .deleteQso _, e => (.error (.other "refused"), e)
  lotw
    | .uploadQsos _, e => (.error (.failed "refused"), e)
    | .fetchConfirmations _, e => (.ok { confirmations := [], highWater := some "2026-01-02" }, e)
  newGuid e := ("00000000-0000-0000-0000-000000000000", e)
  utcNow e := (0, e)

theorem along_keepsFields_first_syncs :
    Along (fun _ => "") (netHandle emptyServices)
      (fun a w => a.KeepsFields (fun _ => "") (netHandle emptyServices) (fun w => w.1.syncMetadata) w)
      [.qrzSync true .flagForReview, .lotwSync false true true] (MemoryState.empty, ()) :=
  (along_keepsFields_iff (fun _ => "") (metadataStore_memory emptyServices) _ _).mpr
    ⟨fun _ h => h rfl, fun _ h => h, trivial⟩

/-- A QRZ sync after a LoTW sync loses the confirmation mark. -/
theorem along_keepsFields_fails :
    ¬ Along (fun _ => "") (netHandle emptyServices)
      (fun a w => a.KeepsFields (fun _ => "") (netHandle emptyServices) (fun w => w.1.syncMetadata) w)
      [.lotwSync false true true, .qrzSync true .flagForReview] (MemoryState.empty, ()) := by
  rintro ⟨-, hkeeps, -⟩
  have hlotw := hkeeps.1 nofun
  revert hlotw
  decide +kernel

end QsoRipper.DotNet
