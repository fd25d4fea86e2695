/-
QsoRipper/Lotw/Confirmation.lean

Which rows end confirmed.  A LoTW sync that runs alone changes the standing of
a row by a sequence of patches that is known from the listing and the report:
one per confirmation that matches the row, which confirms it when it is the
only match and takes the confirmation back otherwise.  So the last matching
confirmation of the report decides, and the order of the report only matters
to rows that some confirmation matches together with others.
-/
import QsoRipper.Lib.Contract
import QsoRipper.Lotw.Sync

namespace QsoRipper.Lotw

open Interaction

/-! ### The standing of a row -/

/-- Is the row confirmed? -/
def isConfirmed (qso : QsoRecord) : Bool :=
  qso.lotwSyncStatus == LotwSyncStatus.confirmed.toI32

/-- What a patch looks at and what it changes: is the row active, does it
equal itself (a row with a NaN does not, and is never swapped), is it
confirmed? -/
structure Standing where
  active : Bool
  stable : Bool
  confirmed : Bool
  deriving DecidableEq

/-- The standing of a row. -/
def standingOf (qso : QsoRecord) : Standing where
  active := qso.deletedAt.isNone
  stable := qso == qso
  confirmed := isConfirmed qso

/-- The standing of the row of that id, if there is one. -/
def standing (s : MemoryState) (id : String) : Option Standing := (s.get id).map standingOf

/-- A patch of a row: does it skip deleted rows, and does it leave the row
confirmed? -/
structure Patch where
  skipsDeleted : Bool
  confirms : Bool

/-- What a patch does. -/
def Patch.on (p : Patch) (st : Standing) : Standing :=
  if st.stable && !(p.skipsDeleted && !st.active) then { st with confirmed := p.confirms } else st

/-- What a sequence of patches does. -/
def after (path : List Patch) (st : Standing) : Standing := path.foldl (fun st p => p.on st) st

theorem map_after_nil (st : Option Standing) : st.map (after []) = st := by
  cases st <;> rfl

theorem after_append {l₁ l₂ : List Patch} :
    after (l₁ ++ l₂) = after l₂ ∘ after l₁ := by
  funext st
  exact List.foldl_append

/-- **The last patch decides**, on an active row without a NaN. -/
theorem after_confirmed {path : List Patch} {st : Standing} (hactive : st.active = true)
    (hstable : st.stable = true) :
    after path st = { st with confirmed := (path.getLast?.map (·.confirms)).getD st.confirmed } := by
  induction path using List.reverseRecOn with
  | nil => rfl
  | append_singleton path p ih =>
      rw [after_append, Function.comp_apply, ih, List.getLast?_concat]
      simp [after, Patch.on, hactive, hstable]

/-- A row with a NaN is what it was. -/
theorem after_of_unstable {path : List Patch} {st : Standing} (hstable : st.stable = false) :
    after path st = st := by
  induction path with
  | nil => rfl
  | cons p path ih =>
      have hp : p.on st = st := by simp [Patch.on, hstable]
      show after path (p.on st) = st
      rw [hp, ih]

/-! ### Runs as sequences of patches -/

variable {ε α β : Type} {env : Environment ε} {id : String} {w : World ε}

/-- Alone on the adapter, the call comes back without a storage error, having
patched the row of that id along `path`. -/
structure Walks (env : Environment ε) (id : String) (p : Program (Except LotwError α))
    (w : World ε) (path : List Patch) : Prop where
  ok : ∃ a, (p.run (handle env) w).1 = .ok a
  final : standing (p.run (handle env) w).2.1 id = (standing w.1 id).map (after path)
  during : ∀ s ∈ p.states (handle env) w,
    ∃ l, l <+: path ∧ standing s.1 id = (standing w.1 id).map (after l)

/-- A call that leaves the store alone, where the path would change nothing. -/
theorem Walks.still {p : Program (Except LotwError α)} {path : List Patch}
    (hok : ∃ a, (p.run (handle env) w).1 = .ok a)
    (hstill : ∀ s ∈ p.states (handle env) w, s.1 = w.1)
    (hpath : (standing w.1 id).map (after path) = standing w.1 id) : Walks env id p w path := by
  refine ⟨hok, ?_, fun s hs => ⟨[], List.nil_prefix, ?_⟩⟩
  · rw [hstill _ Prog.run_mem_states, hpath]
  · rw [hstill s hs]
    exact (map_after_nil _).symm

theorem Walks.pure (a : α) : Walks env id (Pure.pure (.ok a)) w [] :=
  .still ⟨a, rfl⟩ (fun s hs => by rw [List.mem_singleton.mp hs]; rfl) (map_after_nil _)

/-- One call after another. -/
theorem Walks.andThen {p : Program (Except LotwError α)} {f : α → Program (Except LotwError β)}
    {l₁ l₂ : List Patch} (hp : Walks env id p w l₁)
    (hf : ∀ a, (p.run (handle env) w).1 = .ok a → Walks env id (f a) (p.run (handle env) w).2 l₂) :
    Walks env id (Lotw.andThen p f) w (l₁ ++ l₂) := by
  obtain ⟨a, ha⟩ := hp.ok
  have hrest := hf a ha
  have hrun : (Lotw.andThen p f).run (handle env) w
      = (f a).run (handle env) (p.run (handle env) w).2 := by
    rw [Lotw.andThen, Prog.run_bind, ha]
  refine ⟨by rw [hrun]; exact hrest.ok, ?_, fun s hs => ?_⟩
  · rw [hrun, hrest.final, hp.final, Option.map_map, after_append]
  · rcases Prog.mem_states_bind hs with hs | hs
    · obtain ⟨l, hl, heq⟩ := hp.during s hs
      exact ⟨l, hl.trans (List.prefix_append _ _), heq⟩
    · rw [ha] at hs
      obtain ⟨l, hl, heq⟩ := hrest.during s hs
      refine ⟨l₁ ++ l, (List.prefix_append_right_inj _).mpr hl, ?_⟩
      rw [heq, hp.final, Option.map_map, after_append]

/-- A storage call that goes well and then the rest. -/
theorem states_tryStore {c : StoreCmd} {f : c.Value → Program (Except LotwError α)} {v : c.Value}
    {s' : MemoryState} (hexec : MemoryState.exec c w.1 = (.ok v, s')) {s : World ε}
    (hs : s ∈ (tryStore c f).states (handle env) w) :
    s = w ∨ s ∈ (f v).states (handle env) (s', w.2) := by
  have hhandle : handle env (.store c) w = (.ok v, s', w.2) :=
    congrArg (fun r : c.Answer × MemoryState => (r.1, r.2, w.2)) hexec
  rcases Prog.mem_states_cmd.mp hs with hs | hs
  · exact .inl hs
  · rw [hhandle] at hs
    exact .inr hs

theorem run_tryStore {c : StoreCmd} {f : c.Value → Program (Except LotwError α)} {v : c.Value}
    {s' : MemoryState} (hexec : MemoryState.exec c w.1 = (.ok v, s')) :
    (tryStore c f).run (handle env) w = (f v).run (handle env) (s', w.2) := by
  rw [tryStore, run_store, hexec]

/-- A storage call that leaves the row alone. -/
theorem Walks.store {c : StoreCmd} {f : c.Value → Program (Except LotwError α)} {v : c.Value}
    {s' : MemoryState} {path : List Patch} (hexec : MemoryState.exec c w.1 = (.ok v, s'))
    (hsame : standing s' id = standing w.1 id) (h : Walks env id (f v) (s', w.2) path) :
    Walks env id (tryStore c f) w path := by
  refine ⟨?_, ?_, fun s hs => ?_⟩
  · rw [run_tryStore hexec]
    exact h.ok
  · rw [run_tryStore hexec, ← hsame]
    exact h.final
  · rcases states_tryStore hexec hs with rfl | hs
    · exact ⟨[], List.nil_prefix, (map_after_nil _).symm⟩
    · rw [← hsame]
      exact h.during s hs

/-- A storage call that only reads. -/
theorem Walks.read {c : StoreCmd} {f : c.Value → Program (Except LotwError α)} {v : c.Value}
    {path : List Patch} (hexec : MemoryState.exec c w.1 = (.ok v, w.1))
    (h : Walks env id (f v) w path) : Walks env id (tryStore c f) w path :=
  .store hexec rfl h

/-- Commands that leave the store alone, and then the rest. -/
theorem Walks.after_still {p : Program β} {f : β → Program (Except LotwError α)}
    {path : List Patch} (hstill : ∀ s ∈ p.states (handle env) w, s.1 = w.1)
    (h : Walks env id (f (p.run (handle env) w).1) (p.run (handle env) w).2 path) :
    Walks env id (p >>= f) w path := by
  have hstore : (p.run (handle env) w).2.1 = w.1 := hstill _ Prog.run_mem_states
  refine ⟨?_, ?_, fun s hs => ?_⟩
  · rw [Prog.run_bind]
    exact h.ok
  · rw [Prog.run_bind, h.final, hstore]
  · rcases Prog.mem_states_bind hs with hs | hs
    · refine ⟨[], List.nil_prefix, ?_⟩
      rw [hstill s hs]
      exact (map_after_nil _).symm
    · rw [← hstore]
      exact h.during s hs

/-! ### The patches -/

/-- The path of one patch of the row `localId`. -/
def pathOf (localId id : String) (p : Patch) : List Patch := if localId = id then [p] else []

/-- A call that stops where the patch would change nothing. -/
theorem Walks.stop {localId : String} {p : Patch} (a : α)
    (hidle : ∀ r, w.1.get localId = some r → p.on (standingOf r) = standingOf r) :
    Walks env id (return .ok a) w (pathOf localId id p) := by
  refine .still ⟨a, rfl⟩ (fun s hs => by rw [List.mem_singleton.mp hs]; rfl) ?_
  rw [pathOf]
  split
  · rename_i heq
    subst heq
    rw [standing]
    cases hr : w.1.get localId with
    | none => rfl
    | some r => exact congrArg some (hidle r hr)
  · exact map_after_nil _

section SwapIn

variable {localId : String} {p : Patch} {prepare : Program β}
  {replacement : QsoRecord → β → QsoRecord} {swapped notSwapped : α} {current next : QsoRecord}

/-- A compare-and-swap against the stored row goes in, unless the row has a
NaN. -/
theorem Walks.swap {f : Bool → Program (Except LotwError α)} {a : α}
    (hr : w.1.get localId = some current) (hid : next.localId = current.localId)
    (hnext : (current == current) = true → standingOf next = p.on (standingOf current))
    (htrue : f true = return .ok a)
    (hfalse : (current == current) = false → Walks env id (f false) w (pathOf localId id p)) :
    Walks env id (tryStore (.updateQsoIfUnchanged current next) f) w (pathOf localId id p) := by
  have hlocal : current.localId = localId := MemoryState.localId_of_get hr
  cases heq : current == current with
  | false =>
      refine Walks.read (v := false) ?_ (hfalse heq)
      refine MemoryState.updateQsoIfUnchanged_of_ne fun r h => ?_
      rw [hlocal, hr] at h
      cases h
      exact heq
  | true =>
      have hexec : MemoryState.exec (.updateQsoIfUnchanged current next) w.1
          = (.ok true, w.1.put next) :=
        MemoryState.updateQsoIfUnchanged_of_beq hid.symm (by rw [hlocal, hr]) heq
      have hput : standing (w.1.put next) id
          = (standing w.1 id).map (after (pathOf localId id p)) := by
        rw [standing, MemoryState.get_put, hid, hlocal, pathOf]
        split
        · rename_i h
          subst h
          rw [standing, hr, Option.map_some, Option.map_some, Option.map_some, hnext heq]
          rfl
        · exact (map_after_nil _).symm
      refine ⟨?_, ?_, fun s hs => ?_⟩
      · rw [run_tryStore hexec, htrue]
        exact ⟨a, rfl⟩
      · rw [run_tryStore hexec, htrue]
        exact hput
      · rcases states_tryStore hexec hs with rfl | hs
        · exact ⟨[], List.nil_prefix, (map_after_nil _).symm⟩
        · rw [htrue] at hs
          rw [List.mem_singleton.mp hs]
          exact ⟨_, List.prefix_refl _, hput⟩

theorem on_eq_self_of_unstable {st : Standing} (hstable : st.stable = false) : p.on st = st := by
  simp [Patch.on, hstable]

/-- **A patch of a row.**  The first attempt goes in, unless the row is
missing or skipped or has a NaN; then none does. -/
theorem swapIn_walks (hprepare : ∀ w, ∀ s ∈ prepare.states (handle env) w, s.1 = w.1)
    (hid : ∀ current value, (replacement current value).localId = current.localId)
    (hnext : ∀ current value,
      standingOf (replacement current value) = { standingOf current with confirmed := p.confirms })
    {attempts : ℕ}
    (hattempts : attempts ≠ 0 ∨ ∀ r, w.1.get localId = some r → (r == r) = false) :
    Walks env id
      (swapIn localId p.skipsDeleted prepare replacement swapped notSwapped attempts) w
      (pathOf localId id p) := by
  induction attempts generalizing w with
  | zero =>
      refine .stop notSwapped fun r hr => on_eq_self_of_unstable ?_
      rcases hattempts with h | h
      · exact absurd rfl h
      · exact h r hr
  | succ attempts ih =>
      refine Walks.read (v := w.1.get localId) rfl ?_
      cases hr : w.1.get localId with
      | none => exact .stop notSwapped fun r h => by rw [hr] at h; cases h
      | some current =>
          show Walks env id (ite ((p.skipsDeleted && current.deletedAt.isSome) = true) _ _) w _
          split
          · rename_i hskip
            refine .stop notSwapped fun r h => ?_
            rw [hr] at h
            cases h
            cases hd : current.deletedAt <;> simp_all [Patch.on, standingOf]
          rename_i hskip
          refine Walks.after_still (hprepare w) ?_
          have hstore : (prepare.run (handle env) w).2.1 = w.1 :=
            hprepare w _ Prog.run_mem_states
          generalize (prepare.run (handle env) w).1 = value
          generalize (prepare.run (handle env) w).2 = w₂ at hstore
          rw [← hstore] at hr
          refine Walks.swap hr (hid current value) (fun hstable => ?_) rfl fun hne => ?_
          · rw [hnext, Patch.on, if_pos]
            cases hd : current.deletedAt <;> simp_all [standingOf]
          · refine ih (.inr fun r h => ?_)
            rw [hr] at h
            cases h
            exact hne

end SwapIn

theorem states_return {a : α} : ∀ w, ∀ s ∈ (return a : Program α).states (handle env) w, s.1 = w.1 :=
  fun w s hs => by rw [List.mem_singleton.mp hs]; rfl

theorem states_utcNow : ∀ w, ∀ s ∈ utcNow.states (handle env) w, s.1 = w.1 := by
  intro w s hs
  rcases Prog.mem_states_cmd.mp hs with rfl | hs
  · rfl
  · rw [List.mem_singleton.mp hs]
    rfl

theorem states_receivedDate (confirmation : QsoRecord) :
    ∀ w, ∀ s ∈ (receivedDate confirmation).states (handle env) w, s.1 = w.1 := by
  rw [receivedDate]
  split
  · exact states_return
  · exact states_utcNow

/-- The patch of an upload. -/
def uploadPatch : Patch where
  skipsDeleted := true
  confirms := false

/-- The patch of a confirmation that matches one row. -/
def confirmPatch : Patch where
  skipsDeleted := true
  confirms := true

/-- The patch of a confirmation that matches several rows. -/
def conflictPatch : Patch where
  skipsDeleted := false
  confirms := false

theorem standingOf_uploadPatched (current snapshot : QsoRecord) (now : Timestamp) (success : Bool) :
    standingOf (uploadPatched current snapshot now success)
      = { standingOf current with confirmed := false } := by
  cases success with
  | true =>
      have hstable := QsoRecord.beq_self_congr
        (show (uploadPatched current snapshot now true).floats = current.floats from rfl)
      rw [standingOf, hstable]
      by_cases h : current.updatedAt = snapshot.updatedAt <;>
        simp [uploadPatched, standingOf, isConfirmed, h, LotwSyncStatus.toI32]
  | false =>
      have hstable := QsoRecord.beq_self_congr
        (show (uploadPatched current snapshot now false).floats = current.floats from rfl)
      rw [standingOf, hstable]
      rfl

theorem standingOf_confirmed (current confirmation : QsoRecord) (received : Timestamp) :
    standingOf (confirmed current confirmation received)
      = { standingOf current with confirmed := true } := by
  have hstable := QsoRecord.beq_self_congr
    (show (confirmed current confirmation received).floats = current.floats from rfl)
  rw [standingOf, hstable]
  rfl

theorem standingOf_conflict (current : QsoRecord) :
    standingOf (withLotwStatus current .conflict)
      = { standingOf current with confirmed := false } := by
  have hstable := QsoRecord.beq_self_congr
    (show (withLotwStatus current .conflict).floats = current.floats from rfl)
  rw [standingOf, hstable]
  rfl

theorem patchUploadResult_walks (snapshot : QsoRecord) (now : Timestamp) (success : Bool) :
    Walks env id (patchUploadResult snapshot now success) w
      (pathOf snapshot.localId id uploadPatch) := by
  refine swapIn_walks (p := uploadPatch) states_return (fun current _ => ?_) (fun current _ => ?_)
    (.inl (Nat.succ_ne_zero 2))
  · cases success <;> rfl
  · exact standingOf_uploadPatched current snapshot now success

theorem applyConfirmation_walks (snapshot confirmation : QsoRecord) :
    Walks env id (applyConfirmation snapshot confirmation) w
      (pathOf snapshot.localId id confirmPatch) := by
  refine swapIn_walks (p := confirmPatch) (states_receivedDate confirmation) (fun _ _ => ?_)
    (fun current received => ?_) (.inl (Nat.succ_ne_zero 2))
  · rfl
  · exact standingOf_confirmed current confirmation received

theorem patchLotwStatus_walks (snapshot : QsoRecord) :
    Walks env id (patchLotwStatus snapshot .conflict) w
      (pathOf snapshot.localId id conflictPatch) := by
  refine swapIn_walks (p := conflictPatch) states_return (fun _ _ => ?_) (fun current _ => ?_)
    (.inl (Nat.succ_ne_zero 2))
  · rfl
  · exact standingOf_conflict current

/-! ### The loops -/

/-- The path of a loop over rows. -/
def pathOfRows (rows : List QsoRecord) (id : String) (p : Patch) : List Patch :=
  rows.flatMap fun row => pathOf row.localId id p

theorem patchUploaded_walks (now : Timestamp) (rows : List QsoRecord) :
    Walks env id (patchUploaded now rows) w (pathOfRows rows id uploadPatch) := by
  induction rows generalizing w with
  | nil => exact .pure ()
  | cons row rest ih => exact (patchUploadResult_walks row now true).andThen fun _ _ => ih

theorem patchFailed_walks (rows : List QsoRecord) :
    Walks env id (patchFailed rows) w (pathOfRows rows id uploadPatch) := by
  induction rows generalizing w with
  | nil => exact .pure ()
  | cons row rest ih =>
      refine Walks.after_still (states_utcNow w) ?_
      exact (patchUploadResult_walks row _ false).andThen fun _ _ => ih

theorem markConflicts_walks (rows : List QsoRecord) :
    Walks env id (markConflicts rows) w (pathOfRows rows id conflictPatch) := by
  induction rows generalizing w with
  | nil => exact .pure ()
  | cons row rest ih => exact (patchLotwStatus_walks row).andThen fun _ _ => ih

theorem Walks.andThen_return {p : Program (Except LotwError α)} {f : α → β} {l : List Patch}
    (hp : Walks env id p w l) :
    Walks env id (Lotw.andThen p fun a => return .ok (f a)) w l := by
  have h := hp.andThen (f := fun a => return .ok (f a)) fun a _ => Walks.pure (f a)
  rwa [List.append_nil] at h

theorem states_lotw (c : LotwCmd) : ∀ w, ∀ s ∈ (lotw c).states (handle env) w, s.1 = w.1 := by
  intro w s hs
  rcases Prog.mem_states_cmd.mp hs with rfl | hs
  · rfl
  · rw [List.mem_singleton.mp hs]
    rfl

theorem uploadPhase_walks (upload : Bool) (rows : List QsoRecord) (result : LotwSyncResult)
    (errors : List String) :
    Walks env id (uploadPhase upload rows result errors) w
      (if upload then pathOfRows (rows.filter lotwUploadIsPending) id uploadPatch else []) := by
  rw [uploadPhase]
  cases upload with
  | false => exact .pure _
  | true =>
      rcases hpending : rows.filter lotwUploadIsPending with - | ⟨row, rest⟩
      · exact .pure _
      show Walks env id (uploadPending (row :: rest) result errors) w
        (pathOfRows (row :: rest) id uploadPatch)
      refine Walks.after_still (states_lotw _ w) ?_
      generalize ((lotw (.uploadQsos (row :: rest))).run (handle env) w).2 = w₂
      rcases ((lotw (.uploadQsos (row :: rest))).run (handle env) w).1 with e | submitted
      · exact (patchFailed_walks _).andThen_return
      · exact Walks.after_still (states_utcNow w₂) (patchUploaded_walks _ _).andThen_return

/-- The path of one confirmation of the report. -/
def pathOfConfirmation (rows : List QsoRecord) (id : String) (confirmation : QsoRecord) :
    List Patch :=
  match findConfirmationMatches confirmation rows with
  | [] => []
  | [mine] => pathOf mine.localId id confirmPatch
  | many => pathOfRows many id conflictPatch

theorem processConfirmation_walks (rows : List QsoRecord) (confirmation : QsoRecord)
    (result : LotwSyncResult) :
    Walks env id (processConfirmation rows confirmation result) w
      (pathOfConfirmation rows id confirmation) := by
  rw [processConfirmation, pathOfConfirmation]
  rcases findConfirmationMatches confirmation rows with - | ⟨mine, - | ⟨second, rest⟩⟩
  · exact .pure _
  · exact (applyConfirmation_walks mine confirmation).andThen_return
  · exact (markConflicts_walks _).andThen_return

theorem processConfirmations_walks (rows confirmations : List QsoRecord)
    (result : LotwSyncResult) :
    Walks env id (processConfirmations rows confirmations result) w
      (confirmations.flatMap (pathOfConfirmation rows id)) := by
  induction confirmations generalizing w result with
  | nil => exact .pure result
  | cons confirmation rest ih =>
      exact (processConfirmation_walks rows confirmation result).andThen fun _ _ => ih _

/-! ### The report -/

/-- Does the command fetch a report? -/
def isFetch : Cmd → Bool
  | .lotw (.fetchConfirmations _) => true
  | _ => false

/-- The confirmations an event brings. -/
def fetched : Event Cmd Cmd.Answer → List QsoRecord
  | ⟨.lotw (.fetchConfirmations _), .ok report⟩ => report.confirmations
  | _ => []

/-- The confirmations fetched when the program runs alone. -/
def report (env : Environment ε) (p : Program α) (w : World ε) : List QsoRecord :=
  (p.trace (handle env) w).flatMap fun m => fetched m.2

theorem fetched_of_not_fetch {e : Event Cmd Cmd.Answer} (h : isFetch e.1 = false) :
    fetched e = [] := by
  unfold fetched
  split
  · cases h
  · rfl

theorem report_bind {p : Program α} {f : α → Program β} :
    report env (p >>= f) w
      = report env p w ++ report env (f (p.run (handle env) w).1) (p.run (handle env) w).2 := by
  rw [report, Prog.trace_bind, List.flatMap_append]
  rfl

theorem report_of_emits {p : Program α} (hp : p.Emits fun c => isFetch c = false) :
    report env p w = [] :=
  List.flatMap_eq_nil_iff.mpr fun m hm => fetched_of_not_fetch (hp.trace m hm)

theorem noFetch_patches : AllowsPatches fun c => isFetch c = false where
  get _ := rfl
  failed _ _ _ := rfl
  confirmed _ _ _ := rfl
  conflict _ := rfl
  clock := rfl

theorem report_andThen {p : Program (Except LotwError α)} {f : α → Program (Except LotwError β)}
    {a : α} (ha : (p.run (handle env) w).1 = .ok a) :
    report env (Lotw.andThen p f) w
      = report env p w ++ report env (f a) (p.run (handle env) w).2 := by
  rw [Lotw.andThen, report_bind, ha]

theorem report_tryStore {c : StoreCmd} {f : c.Value → Program (Except LotwError α)} {v : c.Value}
    {s' : MemoryState} (hexec : MemoryState.exec c w.1 = (.ok v, s')) :
    report env (tryStore c f) w = report env (f v) (s', w.2) := by
  have hhandle : handle env (.store c) w = (.ok v, s', w.2) :=
    congrArg (fun r : c.Answer × MemoryState => (r.1, r.2, w.2)) hexec
  show fetched ⟨.store c, (handle env (.store c) w).1⟩ ++ _ = _
  rw [fetched_of_not_fetch rfl, List.nil_append, hhandle]
  rfl

theorem processReport_walks (rows : List QsoRecord) (metadata : SyncMetadata)
    (fetchedReport : LotwReport) (result : LotwSyncResult) :
    Walks env id (processReport rows metadata fetchedReport result) w
      (fetchedReport.confirmations.flatMap (pathOfConfirmation rows id)) := by
  rw [← List.append_nil (List.flatMap _ _)]
  refine (processConfirmations_walks rows fetchedReport.confirmations _).andThen fun result _ => ?_
  refine Walks.after_still (states_utcNow _) ?_
  exact Walks.store rfl rfl (.pure result)

theorem processReport_emits (rows : List QsoRecord) (metadata : SyncMetadata)
    (fetchedReport : LotwReport) (result : LotwSyncResult) :
    (processReport rows metadata fetchedReport result).Emits fun c => isFetch c = false := by
  refine andThen_emits (processConfirmations_emits noFetch_patches _ _ _) fun result => ?_
  exact ⟨rfl, fun now => tryStore_emits rfl fun _ => trivial⟩

/-- The download phase patches along the report it fetches. -/
theorem downloadPhase_walks (fullSync download : Bool) (rows : List QsoRecord)
    (result : LotwSyncResult) (errors : List String) :
    Walks env id (downloadPhase fullSync download rows result errors) w
      ((report env (downloadPhase fullSync download rows result errors) w).flatMap
        (pathOfConfirmation rows id)) := by
  rw [downloadPhase]
  cases download with
  | false => exact .pure _
  | true =>
      rw [if_pos rfl, report_tryStore (v := w.1.syncMetadata) rfl]
      refine Walks.read (v := w.1.syncMetadata) rfl ?_
      generalize (if fullSync then none else w.1.syncMetadata.lotwLastQsl) = since
      refine Walks.after_still (states_lotw _ w) ?_
      rw [report_bind]
      have hfetch : report env (lotw (.fetchConfirmations since)) w
          = fetched ⟨.lotw (.fetchConfirmations since),
              ((lotw (.fetchConfirmations since)).run (handle env) w).1⟩ :=
        List.append_nil _
      rw [hfetch]
      generalize ((lotw (.fetchConfirmations since)).run (handle env) w).1 = r
      generalize ((lotw (.fetchConfirmations since)).run (handle env) w).2 = w₂
      rcases r with e | fetchedReport
      · exact .pure _
      · show Walks env id (Lotw.andThen (processReport rows w.1.syncMetadata fetchedReport result) _)
          w₂ (List.flatMap _ (fetchedReport.confirmations ++ report env (Lotw.andThen _ _) w₂))
        rw [report_of_emits (andThen_emits (processReport_emits _ _ _ _) fun _ =>
          Prog.Emits.pure _), List.append_nil]
        exact (processReport_walks _ _ _ _).andThen_return

/-- **The path of a whole sync**: its uploads, and then its report. -/
theorem executeSync_walks (fullSync upload download : Bool) :
    Walks env id (executeSync fullSync upload download) w
      ((if upload then
          pathOfRows ((w.1.listQsos localQuery).filter lotwUploadIsPending) id uploadPatch else [])
        ++ (report env (executeSync fullSync upload download) w).flatMap
          (pathOfConfirmation (w.1.listQsos localQuery) id)) := by
  rw [executeSync, report_tryStore (v := w.1.listQsos localQuery) rfl]
  refine Walks.read (v := w.1.listQsos localQuery) rfl ?_
  generalize w.1.listQsos localQuery = rows
  have hupload : Walks env id
      (uploadPhase upload rows { totalRecords := saturatingU32 rows.length } []) w _ :=
    uploadPhase_walks upload rows _ []
  obtain ⟨⟨result, errors⟩, hok⟩ := hupload.ok
  rw [report_andThen hok, report_of_emits
    (uploadPhase_emits noFetch_patches (fun _ => rfl) (fun _ _ _ => rfl) _ _ _ _), List.nil_append]
  refine hupload.andThen fun progress hprogress => ?_
  rw [hok] at hprogress
  cases hprogress
  generalize ((uploadPhase upload rows _ []).run (handle env) w).2 = w₂
  have hdownload : Walks env id (downloadPhase fullSync download rows result errors) w₂ _ :=
    downloadPhase_walks fullSync download rows result errors
  obtain ⟨progress, hok⟩ := hdownload.ok
  rw [report_andThen hok, report_of_emits (Prog.Emits.pure _), List.append_nil,
    ← List.append_nil (List.flatMap _ _)]
  exact hdownload.andThen fun progress _ => .pure _

/-! ### One row -/

/-- Does the confirmation match the row of that id? -/
def matchesRow (rows : List QsoRecord) (id : String) (confirmation : QsoRecord) : Bool :=
  (findConfirmationMatches confirmation rows).any fun m => m.localId == id

/-- Does the confirmation match one row only? -/
def matchesOne (rows : List QsoRecord) (confirmation : QsoRecord) : Bool :=
  (findConfirmationMatches confirmation rows).length == 1

/-- The last confirmation of the report that matches the row. -/
def lastMatch (rows : List QsoRecord) (id : String) (confirmations : List QsoRecord) :
    Option QsoRecord :=
  (confirmations.filter (matchesRow rows id)).getLast?

/-- Is the row of that id confirmed in the store? -/
def ConfirmedIn (s : MemoryState) (id : String) : Prop :=
  ∃ r, s.get id = some r ∧ isConfirmed r = true

theorem confirmedIn_iff {s : MemoryState} :
    ConfirmedIn s id ↔ (standing s id).any (·.confirmed) = true := by
  rw [ConfirmedIn, standing]
  cases s.get id <;> simp [standingOf]

theorem mem_of_mem_matches {c m : QsoRecord} {rows : List QsoRecord}
    (h : m ∈ findConfirmationMatches c rows) : m ∈ rows := by
  rw [findConfirmationMatches] at h
  split at h
  · cases h
  · dsimp only at h
    split at h
    · cases h
    · exact List.mem_of_mem_filter h

theorem pathOf_confirms {localId : String} {p q : Patch} (hq : q ∈ pathOf localId id p) :
    q = p ∧ localId = id := by
  rw [pathOf] at hq
  split at hq
  · rename_i h
    exact ⟨List.mem_singleton.mp hq, h⟩
  · cases hq

theorem mem_pathOfRows {rows : List QsoRecord} {p q : Patch} (hq : q ∈ pathOfRows rows id p) :
    q = p ∧ ∃ m ∈ rows, m.localId = id := by
  obtain ⟨m, hm, hq⟩ := List.mem_flatMap.mp hq
  obtain ⟨hqp, hid⟩ := pathOf_confirms hq
  exact ⟨hqp, m, hm, hid⟩

theorem pathOfRows_ne_nil {rows : List QsoRecord} {p : Patch} (h : ∃ m ∈ rows, m.localId = id) :
    pathOfRows rows id p ≠ [] := by
  obtain ⟨m, hm, hid⟩ := h
  refine List.ne_nil_of_mem (List.mem_flatMap.mpr ⟨m, hm, ?_⟩) (a := p)
  rw [pathOf, if_pos hid]
  exact List.mem_singleton_self p

/-- A confirmation patches the rows it matches. -/
theorem pathOfConfirmation_ne_nil_iff {rows : List QsoRecord} {c : QsoRecord} :
    pathOfConfirmation rows id c ≠ [] ↔ matchesRow rows id c = true := by
  rw [pathOfConfirmation, matchesRow]
  rcases findConfirmationMatches c rows with - | ⟨mine, - | ⟨second, rest⟩⟩
  · simp
  · by_cases h : mine.localId = id <;> simp [pathOf, h]
  · refine ⟨fun h => ?_, fun h => pathOfRows_ne_nil ?_⟩
    · obtain ⟨q, hq⟩ := List.exists_mem_of_ne_nil _ h
      obtain ⟨-, m, hm, hid⟩ := mem_pathOfRows hq
      exact List.any_eq_true.mpr ⟨m, hm, beq_iff_eq.mpr hid⟩
    · obtain ⟨m, hm, hid⟩ := List.any_eq_true.mp h
      exact ⟨m, hm, beq_iff_eq.mp hid⟩

/-- It confirms them when it matches one row, and takes the confirmation back
otherwise. -/
theorem confirms_of_mem {rows : List QsoRecord} {c : QsoRecord} {q : Patch}
    (hq : q ∈ pathOfConfirmation rows id c) : q.confirms = matchesOne rows c := by
  rw [pathOfConfirmation] at hq
  rw [matchesOne]
  generalize findConfirmationMatches c rows = l at hq
  rcases l with - | ⟨mine, - | ⟨second, rest⟩⟩
  · cases hq
  · rw [(pathOf_confirms hq).1]
    rfl
  · rw [(mem_pathOfRows hq).1]
    rfl

/-- The last patch of a report is that of its last match. -/
theorem last_patch (rows confirmations : List QsoRecord) :
    ((confirmations.flatMap (pathOfConfirmation rows id)).getLast?).map (·.confirms)
      = (lastMatch rows id confirmations).map (matchesOne rows) := by
  induction confirmations using List.reverseRecOn with
  | nil => rfl
  | append_singleton confirmations c ih =>
      rw [lastMatch, List.filter_append, List.flatMap_append, List.flatMap_singleton,
        List.getLast?_append, List.getLast?_append]
      cases hm : matchesRow rows id c with
      | false =>
          have hnil : pathOfConfirmation rows id c = [] := by
            by_contra hne
            rw [pathOfConfirmation_ne_nil_iff.mp hne] at hm
            cases hm
          rw [hnil, List.filter_singleton, hm]
          exact ih
      | true =>
          obtain ⟨q, hq⟩ := List.getLast?_isSome.mpr (pathOfConfirmation_ne_nil_iff.mpr hm) |>
            Option.isSome_iff_exists.mp
          rw [hq, List.filter_singleton, hm]
          exact congrArg some (confirms_of_mem (List.mem_of_getLast? hq))

/-! ### Which rows end confirmed -/

section Sync

variable {r : QsoRecord} {fullSync upload download : Bool}

/-- The patches of the uploads of a sync. -/
def pathOfUploads (upload : Bool) (rows : List QsoRecord) (id : String) : List Patch :=
  if upload then pathOfRows (rows.filter lotwUploadIsPending) id uploadPatch else []

/-- No upload concerns a confirmed row. -/
theorem pathOfUploads_spec {rows : List QsoRecord} (hr : ∀ m ∈ rows, m.localId = id → m = r)
    {q : Patch} (hq : q ∈ pathOfUploads upload rows id) :
    q.confirms = false ∧ isConfirmed r = false := by
  rw [pathOfUploads] at hq
  split at hq
  · obtain ⟨rfl, m, hm, hid⟩ := mem_pathOfRows hq
    obtain ⟨hm, hpending⟩ := List.mem_filter.mp hm
    rw [hr m hm hid] at hpending
    refine ⟨rfl, ?_⟩
    by_contra hc
    rw [Bool.not_eq_false, isConfirmed, beq_iff_eq] at hc
    rw [lotwUploadIsPending, hc] at hpending
    cases hpending
  · cases hq

/-- Whether the row ends confirmed, by what has been fetched. -/
def EndsConfirmed (rows confirmations : List QsoRecord) (r : QsoRecord) : Bool :=
  if r == r then
    ((lastMatch rows r.localId confirmations).map (matchesOne rows)).getD (isConfirmed r)
  else isConfirmed r

/-- Without ambiguous matches, any match confirms the row. -/
theorem endsConfirmed_of_one {rows confirmations : List QsoRecord}
    (hone : ∀ c ∈ confirmations, matchesRow rows r.localId c = true → matchesOne rows c = true) :
    EndsConfirmed rows confirmations r
      = if r == r then confirmations.any (matchesRow rows r.localId) || isConfirmed r
        else isConfirmed r := by
  rw [EndsConfirmed]
  congr 1
  cases hm : lastMatch rows r.localId confirmations with
  | some c =>
      obtain ⟨hmem, hmatch⟩ := List.mem_filter.mp (List.mem_of_getLast? hm)
      have hany : confirmations.any (matchesRow rows r.localId) = true :=
        List.any_eq_true.mpr ⟨c, hmem, hmatch⟩
      rw [hany, Bool.true_or]
      exact hone c hmem hmatch
  | none =>
      have hany : confirmations.any (matchesRow rows r.localId) = false := by
        rw [lastMatch, List.getLast?_eq_none_iff, List.filter_eq_nil_iff] at hm
        rw [List.any_eq_false]
        exact hm
      rw [hany, Bool.false_or]
      rfl

section Path

variable {rows confirmations : List QsoRecord} {l : List Patch}

-- the listing has this row for its id, when it is active
variable (hrows : ∀ m ∈ rows, m.localId = r.localId → m = r ∧ r.deletedAt = none)

include hrows

/-- Only active rows are patched. -/
theorem active_of_mem {q : Patch} (hq : q ∈ pathOfUploads upload rows r.localId
      ++ confirmations.flatMap (pathOfConfirmation rows r.localId)) : r.deletedAt = none := by
  obtain ⟨m, hm, hid⟩ : ∃ m ∈ rows, m.localId = r.localId := by
    rcases List.mem_append.mp hq with hq | hq
    · rw [pathOfUploads] at hq
      split at hq
      · obtain ⟨-, m, hm, hid⟩ := mem_pathOfRows hq
        exact ⟨m, List.mem_of_mem_filter hm, hid⟩
      · cases hq
    · obtain ⟨c, -, hq⟩ := List.mem_flatMap.mp hq
      obtain ⟨m, hm, hid⟩ :=
        List.any_eq_true.mp (pathOfConfirmation_ne_nil_iff.mp (List.ne_nil_of_mem hq))
      exact ⟨m, mem_of_mem_matches hm, beq_iff_eq.mp hid⟩
  exact (hrows m hm hid).2

/-- The standing after some of the patches is that of the last one. -/
theorem confirmed_after (hl : l <+: pathOfUploads upload rows r.localId
      ++ confirmations.flatMap (pathOfConfirmation rows r.localId)) (hstable : (r == r) = true) :
    (after l (standingOf r)).confirmed = (l.getLast?.map (·.confirms)).getD (isConfirmed r) := by
  rcases l.eq_nil_or_concat with rfl | ⟨l, q, rfl⟩
  · rfl
  · have hactive : r.deletedAt = none := active_of_mem hrows (hl.subset (by simp) : q ∈ _)
    rw [after_confirmed (by rw [standingOf, hactive]; rfl) hstable]
    rfl

/-- The standing at the end. -/
theorem confirmed_end :
    (after (pathOfUploads upload rows r.localId
        ++ confirmations.flatMap (pathOfConfirmation rows r.localId)) (standingOf r)).confirmed
      = EndsConfirmed rows confirmations r := by
  rw [EndsConfirmed]
  cases hstable : r == r with
  | false => rw [after_of_unstable hstable]; rfl
  | true =>
      rw [confirmed_after hrows (List.prefix_refl _) hstable, List.getLast?_append, if_pos rfl]
      have hlast := @last_patch r.localId rows confirmations
      cases hm : lastMatch rows r.localId confirmations with
      | some c =>
          rw [hm] at hlast
          obtain ⟨q, hq, hc⟩ := Option.map_eq_some_iff.mp hlast
          rw [hq]
          exact hc
      | none =>
          rw [hm, Option.map_none, Option.map_eq_none_iff] at hlast
          rw [hlast, Option.none_or]
          cases hup : (pathOfUploads upload rows r.localId).getLast? with
          | none => rfl
          | some q =>
              obtain ⟨hq, hr⟩ := pathOfUploads_spec (fun m hm hid => (hrows m hm hid).1)
                (List.mem_of_getLast? hup)
              exact hq.trans hr.symm

/-- A row that is confirmed at some moment ends confirmed, when the last
confirmation that matches it matches it alone. -/
theorem confirmed_end_of_during (hl : l <+: pathOfUploads upload rows r.localId
      ++ confirmations.flatMap (pathOfConfirmation rows r.localId))
    (hduring : (after l (standingOf r)).confirmed = true)
    (halone : ∀ c, lastMatch rows r.localId confirmations = some c → matchesOne rows c = true) :
    EndsConfirmed rows confirmations r = true := by
  rw [EndsConfirmed]
  cases hstable : r == r with
  | false =>
      rw [after_of_unstable hstable] at hduring
      exact hduring
  | true =>
      rw [if_pos rfl]
      cases hm : lastMatch rows r.localId confirmations with
      | some c => exact halone c hm
      | none =>
          -- no match: only uploads have patched the row
          have hlast := @last_patch r.localId rows confirmations
          rw [hm, Option.map_none, Option.map_eq_none_iff, List.getLast?_eq_none_iff] at hlast
          rw [confirmed_after hrows hl hstable] at hduring
          rw [hlast, List.append_nil] at hl
          cases hup : l.getLast? with
          | none =>
              rw [hup] at hduring
              exact hduring
          | some q =>
              have hq := (pathOfUploads_spec (fun m hm hid => (hrows m hm hid).1)
                (hl.subset (List.mem_of_getLast? hup))).1
              rw [hup, Option.map_some, Option.getD_some, hq] at hduring
              cases hduring

end Path

/-- The listing has one row for an id, and it is active. -/
theorem listed_row (hrow : w.1.get r.localId = some r) :
    ∀ m ∈ w.1.listQsos localQuery, m.localId = r.localId → m = r ∧ r.deletedAt = none := by
  intro m hm hid
  obtain ⟨hget, hquery⟩ := (MemoryState.mem_listQsos rfl rfl).mp hm
  rw [hid, hrow] at hget
  cases hget
  refine ⟨rfl, ?_⟩
  simpa [MemoryState.matchesQuery, localQuery] using hquery

/-- **Which rows end confirmed.**  The last confirmation that matches the row
decides; a row that none matches, or that has a NaN, is what it was. -/
theorem confirmedIn_final (hrow : w.1.get r.localId = some r) :
    ConfirmedIn ((executeSync fullSync upload download).run (handle env) w).2.1 r.localId
      ↔ EndsConfirmed (w.1.listQsos localQuery)
          (report env (executeSync fullSync upload download) w) r = true := by
  rw [confirmedIn_iff, (executeSync_walks fullSync upload download).final, standing, hrow]
  exact iff_of_eq (congrArg (· = true) (confirmed_end (listed_row hrow)))

/-- **A confirmation is only taken back by an ambiguous one.**  A row that is
confirmed at some moment of a sync that runs alone is confirmed at its end,
when the last confirmation of the report that matches it matches no other row.
And the order of the report does not matter to a row that no confirmation
matches together with others. -/
theorem executeSync_keeps_confirmations (hrow : w.1.get r.localId = some r) :
    ((∀ c, lastMatch (w.1.listQsos localQuery) r.localId
          (report env (executeSync fullSync upload download) w) = some c →
        matchesOne (w.1.listQsos localQuery) c = true) →
      ∀ s ∈ (executeSync fullSync upload download).states (handle env) w,
        ConfirmedIn s.1 r.localId →
          ConfirmedIn ((executeSync fullSync upload download).run (handle env) w).2.1 r.localId)
    ∧ ∀ {ε' : Type} (env' : Environment ε') (e' : ε') (fullSync' upload' download' : Bool),
      (report env' (executeSync fullSync' upload' download') (w.1, e')).Perm
          (report env (executeSync fullSync upload download) w) →
      (∀ c ∈ report env (executeSync fullSync upload download) w,
        matchesRow (w.1.listQsos localQuery) r.localId c = true →
          matchesOne (w.1.listQsos localQuery) c = true) →
      (ConfirmedIn
          ((executeSync fullSync' upload' download').run (handle env') (w.1, e')).2.1 r.localId
        ↔ ConfirmedIn ((executeSync fullSync upload download).run (handle env) w).2.1 r.localId) := by
  refine ⟨fun halone s hs hduring => ?_, fun {ε'} env' e' fullSync' upload' download' hperm hone => ?_⟩
  · have hwalks : Walks env r.localId (executeSync fullSync upload download) w _ :=
      executeSync_walks fullSync upload download
    obtain ⟨l, hl, heq⟩ := hwalks.during s hs
    rw [confirmedIn_iff, heq, standing, hrow] at hduring
    exact (confirmedIn_final hrow).mpr
      (confirmed_end_of_during (listed_row hrow) hl hduring halone)
  · rw [confirmedIn_final (w := (w.1, e')) hrow, confirmedIn_final hrow]
    have hone' : ∀ c ∈ report env' (executeSync fullSync' upload' download') (w.1, e'),
        matchesRow (w.1.listQsos localQuery) r.localId c = true →
          matchesOne (w.1.listQsos localQuery) c = true :=
      fun c hc => hone c (hperm.mem_iff.mp hc)
    rw [endsConfirmed_of_one hone, endsConfirmed_of_one hone', hperm.any_eq]

end Sync

/-! ### An ambiguous report -/

instance (s : MemoryState) (id : String) : Decidable (ConfirmedIn s id) :=
  decidable_of_iff _ confirmedIn_iff.symm

/-- A contact with W1AW at a time. -/
def contactAt (localId : String) (seconds : ℤ) : QsoRecord :=
  { localId, stationCallsign := "K7RND", workedCallsign := "W1AW", band := 9, mode := 7,
    utcTimestamp := some ⟨seconds, 0⟩ }

/-- A confirmed row. -/
def confirmedContact : QsoRecord :=
  { contactAt "a" 1000 with lotwSyncStatus := LotwSyncStatus.confirmed.toI32 }

/-- The confirmed row and another contact ten minutes later. -/
def twoContacts : MemoryState :=
  (MemoryState.empty.put confirmedContact).put (contactAt "b" 1600)

/-- A LoTW that reports these confirmations. -/
def lotwReporting (confirmations : List QsoRecord) : Environment Unit :=
  { quietRemote with
    lotw
      | .uploadQsos qsos, e => (.ok qsos.length, e)
      | .fetchConfirmations _, e => (.ok { confirmations }, e) }

/-- A download on `twoContacts`. -/
def downloaded (confirmations : List QsoRecord) : MemoryState :=
  ((executeSync false false true).run (handle (lotwReporting confirmations)) (twoContacts, ())).2.1

/-- A confirmation between the two contacts takes the first one's confirmation
back, and whether one that matches it alone comes before or after that one
makes the difference. -/
theorem executeSync_takes_back :
    (ConfirmedIn twoContacts "a" ∧ ¬ ConfirmedIn (downloaded [contactAt "" 1300]) "a")
    ∧ ConfirmedIn (downloaded [contactAt "" 1300, contactAt "" (-300)]) "a"
    ∧ ¬ ConfirmedIn (downloaded [contactAt "" (-300), contactAt "" 1300]) "a" := by
  decide +kernel

/-- A confirmation that matches the first contact alone, after the ambiguous
one. -/
theorem executeSync_keeps_confirmed_contact :
    ConfirmedIn (downloaded [contactAt "" 1300, contactAt "" (-300)]) "a" := by
  have hlast : ((lastMatch (twoContacts.listQsos localQuery) "a"
      (report (lotwReporting [contactAt "" 1300, contactAt "" (-300)]) (executeSync false false true)
        (twoContacts, ()))).all (matchesOne (twoContacts.listQsos localQuery))) = true := by
    decide +kernel
  refine (@executeSync_keeps_confirmations Unit
    (lotwReporting [contactAt "" 1300, contactAt "" (-300)]) (twoContacts, ()) confirmedContact
    false false true ?_).1 (fun c hc => ?_) (twoContacts, ()) ?_ ?_
  · rfl
  · rw [show confirmedContact.localId = "a" from rfl] at hc
    rw [hc] at hlast
    exact hlast
  · exact List.mem_cons_self
  · exact (by decide +kernel : ConfirmedIn twoContacts "a")

end QsoRipper.Lotw
