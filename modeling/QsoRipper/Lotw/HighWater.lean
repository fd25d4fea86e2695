/-
QsoRipper/Lotw/HighWater.lean

The LoTW high-water mark beside operator edits.  A sync moves the mark past
the whole report it has fetched, so a confirmation that is not applied by then
is not fetched again.

`apply_confirmation` makes three attempts and then gives up without an error.
An attempt is lost when an edit writes the row between its read and its swap,
or when the row has a NaN; `Tally` counts the attempts that are lost in a row.
-/
import QsoRipper.Application.Edits
import QsoRipper.Lotw.Confirmation

namespace QsoRipper.Lotw

open Interaction

/-! ### What a confirmation is matched on -/

/-- The fields a confirmation is matched on. -/
def matchKey (qso : QsoRecord) : Option Timestamp × String × String × ℤ × ℤ × Option Timestamp :=
  (qso.deletedAt, qso.stationCallsign, qso.workedCallsign, qso.band, qso.mode, qso.utcTimestamp)

/-- Does the confirmation match the row? -/
def confirms (c r : QsoRecord) : Bool :=
  c.utcTimestamp.any fun time =>
    !((reportStationCallsign c).isEmpty || !notBlank c.workedCallsign)
      && matchesConfirmation c time (reportStationCallsign c) r

theorem findConfirmationMatches_eq_filter (c : QsoRecord) (rows : List QsoRecord) :
    findConfirmationMatches c rows = rows.filter (confirms c) := by
  rw [findConfirmationMatches]
  cases htime : c.utcTimestamp with
  | none =>
      have hnone : ∀ r, confirms c r = false := fun r => by rw [confirms, htime]; rfl
      simp [hnone]
  | some time =>
      dsimp only
      split
      · rename_i hblank
        have hnone : ∀ r, confirms c r = false := fun r => by
          rw [confirms, htime, Option.any_some, hblank]
          rfl
        simp [hnone]
      · rename_i hblank
        refine List.filter_congr fun r _ => ?_
        rw [Bool.not_eq_true] at hblank
        rw [confirms, htime, Option.any_some, hblank]
        rfl

theorem confirms_congr {a b c : QsoRecord} (h : matchKey a = matchKey b) :
    confirms c a = confirms c b := by
  simp only [matchKey, Prod.mk.injEq] at h
  obtain ⟨h₁, h₂, h₃, h₄, h₅, h₆⟩ := h
  simp only [confirms, matchesConfirmation, h₁, h₂, h₃, h₄, h₅, h₆]

/-- The stores have the same rows, up to what confirmations are not matched
on. -/
def SameRows (s₀ s : MemoryState) : Prop :=
  ∀ id, (s.get id).map matchKey = (s₀.get id).map matchKey

/-- The rows a confirmation matches in a store. -/
def matchIds (s : MemoryState) (c : QsoRecord) : List String :=
  (findConfirmationMatches c (s.listQsos localQuery)).map (·.localId)

/-- The confirmation matches that row and no other one. -/
def MatchesOnly (s : MemoryState) (c : QsoRecord) (id : String) : Prop := matchIds s c = [id]

instance (s : MemoryState) (c : QsoRecord) (id : String) : Decidable (MatchesOnly s c id) :=
  inferInstanceAs (Decidable (_ = _))

variable {s s₀ : MemoryState} {c : QsoRecord} {id : String}

theorem nodup_matchIds : (matchIds s c).Nodup := by
  rw [matchIds, findConfirmationMatches_eq_filter]
  exact (s.nodup_localIds_listQsos localQuery).sublist (List.filter_sublist.map _)

/-- Which rows a confirmation matches. -/
theorem mem_matchIds :
    id ∈ matchIds s c ↔ ∃ r, s.get id = some r ∧ r.deletedAt = none ∧ confirms c r = true := by
  rw [matchIds, findConfirmationMatches_eq_filter, List.mem_map]
  constructor
  · rintro ⟨r, hr, rfl⟩
    obtain ⟨hr, hc⟩ := List.mem_filter.mp hr
    obtain ⟨hget, hquery⟩ := (MemoryState.mem_listQsos rfl rfl).mp hr
    exact ⟨r, hget, by simpa [MemoryState.matchesQuery, localQuery] using hquery, hc⟩
  · rintro ⟨r, hget, hdel, hc⟩
    have hid := MemoryState.localId_of_get hget
    refine ⟨r, List.mem_filter.mpr ⟨(MemoryState.mem_listQsos rfl rfl).mpr ⟨?_, ?_⟩, hc⟩, hid⟩
    · rw [hid]
      exact hget
    · simp [MemoryState.matchesQuery, localQuery, hdel]

theorem SameRows.refl : SameRows s s := fun _ => rfl

theorem SameRows.symm (h : SameRows s₀ s) : SameRows s s₀ := fun id => (h id).symm

/-- The row in the other store. -/
theorem SameRows.get (h : SameRows s₀ s) {r : QsoRecord} (hr : s.get id = some r) :
    ∃ r₀, s₀.get id = some r₀ ∧ matchKey r = matchKey r₀ := by
  have hid := h id
  rw [hr, Option.map_some] at hid
  obtain ⟨r₀, hr₀, hkey⟩ := Option.map_eq_some_iff.mp hid.symm
  exact ⟨r₀, hr₀, hkey.symm⟩

theorem SameRows.mem_matchIds (h : SameRows s₀ s) (hid : id ∈ matchIds s c) :
    id ∈ matchIds s₀ c := by
  obtain ⟨r, hr, hdel, hc⟩ := Lotw.mem_matchIds.mp hid
  obtain ⟨r₀, hr₀, hkey⟩ := h.get hr
  refine Lotw.mem_matchIds.mpr ⟨r₀, hr₀, ?_, ?_⟩
  · exact (congrArg Prod.fst hkey).symm.trans hdel
  · rw [← confirms_congr hkey]
    exact hc

/-- Stores with the same rows match the same ids. -/
theorem SameRows.matchIds_perm (h : SameRows s₀ s) : (matchIds s c).Perm (matchIds s₀ c) :=
  (List.perm_ext_iff_of_nodup nodup_matchIds nodup_matchIds).mpr fun _ =>
    ⟨h.mem_matchIds, h.symm.mem_matchIds⟩

theorem SameRows.matchesOnly (h : SameRows s₀ s) (honly : MatchesOnly s₀ c id) :
    MatchesOnly s c id := by
  have hperm := h.matchIds_perm (c := c)
  rw [show matchIds s₀ c = [id] from honly] at hperm
  exact List.perm_singleton.mp hperm

/-! ### The sync as a contract -/

/-- What a sync has observed. -/
structure View where
  listing : Option (List QsoRecord) := none
  /-- The copy it has read and not yet tried to swap. -/
  held : Option QsoRecord := none
  /-- Fetched, and the only match is that row. -/
  owed : QsoRecord → String → Prop := fun _ _ => False
  applied : QsoRecord → String → Prop := fun _ _ => False
  /-- The swaps of a confirmation that were refused in a row. -/
  losses : String → ℕ := fun _ => 0
  /-- Three swaps were refused in a row. -/
  gaveUp : String → Prop := fun _ => False
  /-- The row was missing or deleted when it was read. -/
  missing : String → Prop := fun _ => False
  /-- The store answered with an error, or with another row. -/
  failed : Prop := False

namespace View

/-- What a swap adds. -/
def swap (t : View) (expected replacement : QsoRecord) : Bool → View
  | true =>
      { t with
        held := none
        applied := fun c id => t.applied c id
          ∨ (expected.localId = id ∧ ∃ received, replacement = confirmed expected c received)
        losses := Function.update t.losses expected.localId 0 }
  | false =>
      if isConfirmed replacement then
        { t with
          held := none
          losses := Function.update t.losses expected.localId (t.losses expected.localId + 1)
          gaveUp := fun id => t.gaveUp id
            ∨ (expected.localId = id ∧ 3 ≤ t.losses expected.localId + 1) }
      else { t with held := none }

/-- What an answer adds. -/
def next (t : View) : (c : Cmd) → Cmd.Answer c → View
  | .store (.listQsos _), .ok rows => { t with listing := some rows }
  | .store (.getQso id), .ok none => { t with missing := fun id' => t.missing id' ∨ id = id' }
  | .store (.getQso id), .ok (some row) =>
      { t with
        held := some row
        missing := fun id' => t.missing id' ∨ (id = id' ∧ row.deletedAt.isSome)
        failed := t.failed ∨ row.localId ≠ id }
  | .store (.updateQsoIfUnchanged expected replacement), .ok swapped =>
      t.swap expected replacement swapped
  | .store _, .error _ => { t with failed := True }
  | .lotw (.fetchConfirmations _), .ok report =>
      { t with
        owed := fun c id => t.owed c id ∨ (c ∈ report.confirmations
          ∧ ∃ rows ∈ t.listing, (findConfirmationMatches c rows).map (·.localId) = [id]) }
  | _, _ => t

/-- The confirmation has been dealt with. -/
def Settled (t : View) (c : QsoRecord) (id : String) : Prop :=
  t.applied c id ∨ t.gaveUp id ∨ t.missing id ∨ t.failed

/-- Every confirmation that has been fetched has been dealt with. -/
def AllSettled (t : View) : Prop := ∀ c id, t.owed c id → t.Settled c id

end View

/-- The commands of a sync, given what it has observed. -/
inductive Allowed (t : View) : Cmd → Prop
  | list : Allowed t (.store (.listQsos localQuery))
  | get (id : String) : Allowed t (.store (.getQso id))
  | metadata : Allowed t (.store .getSyncMetadata)
  | mark (metadata : SyncMetadata) : Allowed t (.store (.upsertSyncMetadata metadata))
  | upload (qsos : List QsoRecord) : Allowed t (.lotw (.uploadQsos qsos))
  | fetch (since : Option String) : t.listing.isSome → Allowed t (.lotw (.fetchConfirmations since))
  | clock : Allowed t .utcNow
  /-- A patch that neither confirms the row nor takes back its receipt. -/
  | patch {current next : QsoRecord} :
      t.held = some current → next.localId = current.localId → matchKey next = matchKey current →
      next.lotwReceived = current.lotwReceived → isConfirmed next = false →
      Allowed t (.store (.updateQsoIfUnchanged current next))
  | confirm {current c : QsoRecord} {received : Timestamp} :
      t.held = some current →
      Allowed t (.store (.updateQsoIfUnchanged current (confirmed current c received)))

/-- The contract of a sync. -/
def syncContract : Contract Cmd Cmd.Answer View where
  allowed := Allowed
  next := View.next

section Obeys

variable {α β : Type} {t : View}

theorem View.swap_listing {current next : QsoRecord} {went : Bool} :
    (t.swap current next went).listing = t.listing := by
  cases went with
  | true => rfl
  | false =>
      rw [View.swap]
      split <;> rfl

theorem View.swap_owed {current next : QsoRecord} {went : Bool} :
    (t.swap current next went).owed = t.owed := by
  cases went with
  | true => rfl
  | false =>
      rw [View.swap]
      split <;> rfl

theorem View.swap_missing {current next : QsoRecord} {went : Bool} :
    (t.swap current next went).missing = t.missing := by
  cases went with
  | true => rfl
  | false =>
      rw [View.swap]
      split <;> rfl

theorem View.swap_failed {current next : QsoRecord} {went : Bool} :
    (t.swap current next went).failed = t.failed := by
  cases went with
  | true => rfl
  | false =>
      rw [View.swap]
      split <;> rfl

/-- What has been dealt with stays so. -/
theorem View.Settled.next {cmd : Cmd} {r : Cmd.Answer cmd} (h : t.Settled c id) :
    (t.next cmd r).Settled c id := by
  have hgrows : (t.applied c id → (t.next cmd r).applied c id)
      ∧ (t.gaveUp id → (t.next cmd r).gaveUp id)
      ∧ (t.missing id → (t.next cmd r).missing id) ∧ (t.failed → (t.next cmd r).failed) := by
    have same : ∀ {p : Prop}, p → p := fun h => h
    unfold View.next
    split
    case h_2 => exact ⟨same, same, .inl, same⟩
    case h_3 => exact ⟨same, same, .inl, .inl⟩
    case h_4 expected replacement swapped =>
      unfold View.swap
      split
      · exact ⟨.inl, same, same, same⟩
      · split
        · exact ⟨same, .inl, same, same⟩
        · exact ⟨same, same, same, same⟩
    case h_5 => exact ⟨same, same, same, fun _ => trivial⟩
    all_goals exact ⟨same, same, same, same⟩
  obtain ⟨happlied, hgaveUp, hmissing, hfailed⟩ := hgrows
  rcases h with h | h | h | h
  · exact .inl (happlied h)
  · exact .inr (.inl (hgaveUp h))
  · exact .inr (.inr (.inl (hmissing h)))
  · exact .inr (.inr (.inr (hfailed h)))

/-- A call that neither lists nor fetches, and that fails only with the
store. -/
def Inner (t t' : View) (r : Except LotwError α) : Prop :=
  t'.listing = t.listing ∧ t'.owed = t.owed ∧ ((∃ e, r = .error e) → t'.failed)

theorem tryStore_obeys {Q : View → Except LotwError α → Prop} {cmd : StoreCmd}
    {f : cmd.Value → Program (Except LotwError α)} (hc : Allowed t (.store cmd))
    (herror : ∀ e, Q { t with failed := True } (.error e))
    (hok : ∀ v, (f v).Obeys syncContract Q (t.next (.store cmd) (.ok v))) :
    (tryStore cmd f).Obeys syncContract Q t := by
  refine ⟨hc, fun r => ?_⟩
  rcases r with e | v
  · have hnext : t.next (.store cmd) (.error e) = { t with failed := True } := by
      cases cmd <;> rfl
    show Q (t.next (.store cmd) (.error e)) _
    rw [hnext]
    exact herror _
  · exact hok v

/-- The attempts that are left are enough for three losses in a row, or the
goal is reached. -/
def Enough (id : String) (Done : View → Prop) (t : View) (attempts : ℕ) : Prop :=
  Done t ∨ (attempts ≠ 0 ∧ 3 ≤ t.losses id + attempts)

/-- **The loop of a patch**, for a goal that is reached when the row is
missing, when a swap goes in, and when three are refused. -/
theorem swapIn_obeys {skipsDeleted : Bool} {prepare : Program β}
    {replacement : QsoRecord → β → QsoRecord} {swapped notSwapped : α} {D : View → Prop}
    (hprepare : ∀ {Q : View → β → Prop} {t : View}, (∀ v, Q t v) → prepare.Obeys syncContract Q t)
    (hallowed : ∀ {t : View} current value, t.held = some current →
      Allowed t (.store (.updateQsoIfUnchanged current (replacement current value))))
    (hnext : ∀ {t : View} {cmd : Cmd} {r : Cmd.Answer cmd}, D t → D (t.next cmd r))
    (hmissing : ∀ {t : View}, t.missing id ∨ t.failed → D t)
    (htrue : ∀ (t : View) current value, current.localId = id →
      D (t.swap current (replacement current value) true))
    (hfalse : ∀ (t : View) current value attempts, current.localId = id →
      Enough id D t (attempts + 1) →
        Enough id D (t.swap current (replacement current value) false) attempts)
    (attempts : ℕ) (t : View) (henough : Enough id D t attempts) :
    (swapIn id skipsDeleted prepare replacement swapped notSwapped attempts).Obeys syncContract
      (fun t' r => Inner t t' r ∧ D t') t := by
  have hinner : ∀ {t : View} {a : α}, Inner t t (Except.ok a) :=
    fun {t a} => ⟨rfl, rfl, fun ⟨e, he⟩ => by cases he⟩
  induction attempts generalizing t with
  | zero =>
      refine ⟨hinner, ?_⟩
      rcases henough with h | h
      · exact h
      · exact absurd rfl h.1
  | succ attempts ih =>
      refine tryStore_obeys (.get id) (fun e => ⟨⟨rfl, rfl, fun _ => trivial⟩, ?_⟩) fun row => ?_
      · exact hmissing (.inr trivial)
      rcases row with _ | current
      · exact ⟨⟨rfl, rfl, fun ⟨e, he⟩ => by cases he⟩, hmissing (.inl (.inr rfl))⟩
      show Prog.Obeys _ _ (ite ((skipsDeleted && current.deletedAt.isSome) = true) _ _) _
      split
      · rename_i hskip
        rw [Bool.and_eq_true] at hskip
        exact ⟨⟨rfl, rfl, fun ⟨e, he⟩ => by cases he⟩, hmissing (.inl (.inr ⟨rfl, hskip.2⟩))⟩
      have hread : Enough id D (t.next (.store (.getQso id)) (.ok (some current))) (attempts + 1) := by
        rcases henough with h | h
        · exact .inl (hnext h)
        · exact .inr h
      rw [Prog.obeys_bind]
      refine hprepare fun value => ?_
      refine tryStore_obeys (hallowed current value rfl)
        (fun e => ⟨⟨rfl, rfl, fun _ => trivial⟩, hmissing (.inr trivial)⟩) fun went => ?_
      have hsame : ∀ {t' : View} {r : Except LotwError α},
          Inner ((t.next (.store (.getQso id)) (.ok (some current))).swap current
            (replacement current value) went) t' r → Inner t t' r := by
        intro t' r h
        rw [Inner, View.swap_listing, View.swap_owed] at h
        exact h
      by_cases hid : current.localId = id
      · cases went with
        | true => exact ⟨hsame hinner, htrue _ current value hid⟩
        | false =>
            exact (ih _ (hfalse _ current value attempts hid hread)).mono fun t' r h =>
              ⟨hsame h.1, h.2⟩
      · have hdone : D ((t.next (.store (.getQso id)) (.ok (some current))).next
            (.store (.updateQsoIfUnchanged current (replacement current value))) (.ok went)) :=
          hnext (hmissing (.inr (.inr hid)))
        cases went with
        | true => exact ⟨hsame hinner, hdone⟩
        | false => exact (ih _ (.inl hdone)).mono fun t' r h => ⟨hsame h.1, h.2⟩

/-- One call after another. -/
theorem andThen_inner {P P' : View → Prop} {p : Program (Except LotwError α)}
    {f : α → Program (Except LotwError β)} (hfailed : ∀ t', t'.failed → P' t')
    (hp : p.Obeys syncContract (fun t' r => Inner t t' r ∧ P t') t)
    (hf : ∀ t' a, t'.listing = t.listing → t'.owed = t.owed → P t' →
      (f a).Obeys syncContract (fun t'' r => Inner t' t'' r ∧ P' t'') t') :
    (andThen p f).Obeys syncContract (fun t'' r => Inner t t'' r ∧ P' t'') t := by
  refine andThen_obeys (hp.mono fun t' r h => ?_)
  obtain ⟨⟨hlisting, howed, herror⟩, hP⟩ := h
  rcases r with e | a
  · have hfail : t'.failed := herror ⟨e, rfl⟩
    exact ⟨⟨hlisting, howed, fun _ => hfail⟩, hfailed t' hfail⟩
  · refine (hf t' a hlisting howed hP).mono fun t'' r h => ?_
    exact ⟨⟨h.1.1.trans hlisting, h.1.2.1.trans howed, h.1.2.2⟩, h.2⟩

theorem inner_return {P : View → Prop} {a : α} (h : P t) :
    (return .ok a : Program (Except LotwError α)).Obeys syncContract
      (fun t' r => Inner t t' r ∧ P t') t :=
  ⟨⟨rfl, rfl, fun ⟨e, he⟩ => by cases he⟩, h⟩

theorem unit_obeys {Q : View → Unit → Prop} (h : ∀ v, Q t v) :
    (return () : Program Unit).Obeys syncContract Q t :=
  h ()

theorem clock_obeys {Q : View → Timestamp → Prop} (h : ∀ now, Q t now) :
    utcNow.Obeys syncContract Q t :=
  ⟨.clock, h⟩

theorem receivedDate_obeys {Q : View → Timestamp → Prop} (h : ∀ now, Q t now) :
    (receivedDate c).Obeys syncContract Q t := by
  rw [receivedDate]
  split
  · exact h _
  · exact clock_obeys h

theorem patchUploadResult_obeys (snapshot : QsoRecord) (now : Timestamp) (success : Bool) :
    (patchUploadResult snapshot now success).Obeys syncContract
      (fun t' r => Inner t t' r ∧ True) t := by
  refine swapIn_obeys (D := fun _ => True) unit_obeys (fun current value hheld => ?_)
    (fun _ => trivial) (fun _ => trivial) (fun _ _ _ _ => trivial)
    (fun _ _ _ _ _ _ => .inl trivial) 3 t (.inl trivial)
  refine .patch hheld ?_ ?_ ?_ (congrArg Standing.confirmed
    (standingOf_uploadPatched current snapshot now success))
  all_goals cases success <;> rfl

theorem patchLotwStatus_obeys (snapshot : QsoRecord) :
    (patchLotwStatus snapshot .conflict).Obeys syncContract
      (fun t' r => Inner t t' r ∧ True) t := by
  refine swapIn_obeys (D := fun _ => True) unit_obeys (fun current value hheld => ?_)
    (fun _ => trivial) (fun _ => trivial) (fun _ _ _ _ => trivial)
    (fun _ _ _ _ _ _ => .inl trivial) 3 t (.inl trivial)
  exact .patch hheld rfl rfl rfl (congrArg Standing.confirmed (standingOf_conflict current))

/-- **`apply_confirmation` settles its confirmation.** -/
theorem applyConfirmation_obeys (snapshot : QsoRecord) :
    (applyConfirmation snapshot c).Obeys syncContract
      (fun t' r => Inner t t' r ∧ t'.Settled c snapshot.localId) t := by
  refine swapIn_obeys (D := fun t => t.Settled c snapshot.localId) receivedDate_obeys
    (fun current received hheld => .confirm hheld) View.Settled.next (fun h => ?_)
    (fun t current received hid => ?_) (fun t current received attempts hid h => ?_) 3 t
    (.inr ⟨by decide, Nat.le_add_left 3 _⟩)
  · exact .inr (.inr h)
  · exact .inl (.inr ⟨hid, received, rfl⟩)
  · have hswap : t.swap current (confirmed current c received) false
        = t.next (.store (.updateQsoIfUnchanged current (confirmed current c received)))
          (.ok false) := rfl
    rcases h with h | ⟨-, h⟩
    · exact .inl (hswap ▸ h.next)
    by_cases hthree : 3 ≤ t.losses snapshot.localId + 1
    · refine .inl (.inr (.inl (.inr ⟨hid, ?_⟩)))
      rw [hid]
      exact hthree
    · refine .inr ⟨by omega, ?_⟩
      show 3 ≤ Function.update t.losses current.localId _ snapshot.localId + attempts
      rw [hid, Function.update_self]
      omega

/-! ### The loops of the sync -/

theorem patchUploaded_obeys (now : Timestamp) (rows : List QsoRecord) :
    (patchUploaded now rows).Obeys syncContract (fun t' r => Inner t t' r ∧ True) t := by
  induction rows generalizing t with
  | nil => exact inner_return trivial
  | cons row rest ih =>
      exact andThen_inner (fun _ _ => trivial) (patchUploadResult_obeys row now true)
        fun t' _ _ _ _ => ih

theorem patchFailed_obeys (rows : List QsoRecord) :
    (patchFailed rows).Obeys syncContract (fun t' r => Inner t t' r ∧ True) t := by
  induction rows generalizing t with
  | nil => exact inner_return trivial
  | cons row rest ih =>
      refine ⟨.clock, fun now => ?_⟩
      exact andThen_inner (fun _ _ => trivial) (patchUploadResult_obeys row now false)
        fun t' _ _ _ _ => ih

theorem markConflicts_obeys (rows : List QsoRecord) :
    (markConflicts rows).Obeys syncContract (fun t' r => Inner t t' r ∧ True) t := by
  induction rows generalizing t with
  | nil => exact inner_return trivial
  | cons row rest ih =>
      exact andThen_inner (fun _ _ => trivial) (patchLotwStatus_obeys row) fun t' _ _ _ _ => ih

theorem uploadPhase_obeys (upload : Bool) (rows : List QsoRecord) (result : LotwSyncResult)
    (errors : List String) :
    (uploadPhase upload rows result errors).Obeys syncContract
      (fun t' r => Inner t t' r ∧ True) t := by
  rw [uploadPhase]
  split
  · refine ⟨.upload _, fun r => ?_⟩
    rcases r with e | submitted
    · exact andThen_inner (fun _ _ => trivial) (patchFailed_obeys _) fun _ _ _ _ _ =>
        inner_return trivial
    · exact ⟨.clock, fun now => andThen_inner (fun _ _ => trivial) (patchUploaded_obeys now _)
        fun _ _ _ _ _ => inner_return trivial⟩
  · exact inner_return trivial

/-- The confirmation is settled for the row that it matches alone. -/
def SettledIn (rows : List QsoRecord) (c : QsoRecord) (t : View) : Prop :=
  ∀ id, (findConfirmationMatches c rows).map (·.localId) = [id] → t.Settled c id

theorem processConfirmation_obeys (rows : List QsoRecord) (result : LotwSyncResult) :
    (processConfirmation rows c result).Obeys syncContract
      (fun t' r => Inner t t' r ∧ SettledIn rows c t') t := by
  have hfailed : ∀ t' : View, t'.failed → SettledIn rows c t' :=
    fun _ h _ _ => .inr (.inr (.inr h))
  rw [processConfirmation]
  cases hm : findConfirmationMatches c rows with
  | nil =>
      refine inner_return fun id hid => ?_
      rw [hm] at hid
      cases hid
  | cons mine rest =>
      cases rest with
      | nil =>
          refine andThen_inner hfailed (applyConfirmation_obeys mine) fun t' _ _ _ h =>
            inner_return fun id hid => ?_
          rw [hm, List.map_singleton, List.singleton_inj] at hid
          exact hid ▸ h
      | cons second rest =>
          refine andThen_inner hfailed (markConflicts_obeys _) fun t' _ _ _ _ =>
            inner_return fun id hid => ?_
          rw [hm] at hid
          cases hid

/-- **The loop over the report settles all of it.** -/
theorem processConfirmations_obeys (rows confirmations : List QsoRecord)
    (result : LotwSyncResult) :
    (processConfirmations rows confirmations result).Obeys syncContract
      (fun t' r => Inner t t' r ∧ ∀ c ∈ confirmations, SettledIn rows c t') t := by
  induction confirmations generalizing t result with
  | nil => exact inner_return fun c hc => absurd hc List.not_mem_nil
  | cons first rest ih =>
      refine andThen_inner (fun t' h c _ id _ => .inr (.inr (.inr h)))
        (processConfirmation_obeys rows result) fun t' result _ _ hfirst => ?_
      refine ((ih result).keep (I := SettledIn rows first)
        (fun t cmd r h id hid => (h id hid).next) hfirst).mono fun t'' r h => ?_
      refine ⟨h.2.1, fun c hc => ?_⟩
      rcases List.mem_cons.mp hc with rfl | hc
      · exact h.1
      · exact h.2.2 c hc

/-- A call that does not fetch leaves everything settled. -/
theorem Inner.allSettled {p : Program (Except LotwError α)} {P : View → Prop}
    (hp : p.Obeys syncContract (fun t' r => Inner t t' r ∧ P t') t) (h : t.AllSettled) :
    p.Obeys syncContract (fun t' r => (Inner t t' r ∧ P t') ∧ t'.AllSettled) t := by
  have hkeep := hp.keep (I := fun t' : View => ∀ c id, t.owed c id → t'.Settled c id)
    (fun t cmd r h c id hc => (h c id hc).next) h
  refine hkeep.mono fun t' r hpost => ?_
  refine ⟨hpost.2, fun c id hc => hpost.1 c id ?_⟩
  rw [← hpost.2.1.2.1]
  exact hc

/-- A processed report is settled when the mark moves. -/
theorem processReport_obeys (rows : List QsoRecord) (metadata : SyncMetadata)
    (fetchedReport : LotwReport) (result : LotwSyncResult)
    (h : ∀ c id, t.owed c id → t.Settled c id
      ∨ (c ∈ fetchedReport.confirmations
        ∧ (findConfirmationMatches c rows).map (·.localId) = [id])) :
    (processReport rows metadata fetchedReport result).Obeys syncContract
      (fun t' _ => t'.AllSettled) t := by
  have hrest := (processConfirmations_obeys (t := t) rows fetchedReport.confirmations
    { result with
      confirmationHighWater := fetchedReport.highWater.or metadata.lotwLastQsl
      processedRecords := saturatingAdd result.processedRecords
        (saturatingU32 fetchedReport.confirmations.length) }).keep
    (I := fun t' => ∀ c id, t.Settled c id → t'.Settled c id)
    (fun t cmd r h c id hc => (h c id hc).next) fun _ _ hc => hc
  refine andThen_obeys (hrest.mono fun t' r hpost => ?_)
  obtain ⟨hkeep, ⟨-, howed, herror⟩, hnew⟩ := hpost
  have hall : t'.AllSettled := by
    intro c id hc
    rw [howed] at hc
    rcases h c id hc with hold | ⟨hmem, hmatch⟩
    · exact hkeep c id hold
    · exact hnew c hmem id hmatch
  rcases r with e | result
  · exact hall
  · refine ⟨.clock, fun now => ?_⟩
    exact tryStore_obeys (.mark _) (fun e c id hc => .inr (.inr (.inr trivial))) fun _ => hall

theorem downloadPhase_obeys {rows : List QsoRecord} (fullSync download : Bool)
    (result : LotwSyncResult) (errors : List String) (hlisting : t.listing = some rows)
    (h : t.AllSettled) :
    (downloadPhase fullSync download rows result errors).Obeys syncContract
      (fun t' _ => t'.AllSettled) t := by
  rw [downloadPhase]
  cases download with
  | false => exact h
  | true =>
      refine tryStore_obeys .metadata (fun e c id hc => .inr (.inr (.inr trivial)))
        fun metadata => ?_
      refine ⟨.fetch _ (Option.isSome_iff_exists.mpr ⟨rows, hlisting⟩), fun r => ?_⟩
      rcases r with e | fetchedReport
      · exact h
      · refine andThen_obeys ((processReport_obeys rows metadata fetchedReport result
          fun c id hc => ?_).mono fun t' r ht' => ?_)
        · rcases hc with hc | ⟨hmem, rows', hrows', hmatch⟩
          · exact .inl (h c id hc)
          · have hrows : t.listing = some rows' := hrows'
            rw [hlisting] at hrows
            cases hrows
            exact .inr ⟨hmem, hmatch⟩
        · rcases r with e | result
          · exact ht'
          · exact ht'

/-- **A sync settles what it fetches.** -/
theorem executeSync_obeys (fullSync upload download : Bool) (h : t.AllSettled) :
    (executeSync fullSync upload download).Obeys syncContract (fun t' _ => t'.AllSettled) t := by
  refine tryStore_obeys .list (fun e c id hc => .inr (.inr (.inr trivial))) fun rows => ?_
  have hlisted : (t.next (.store (.listQsos localQuery)) (.ok rows)).AllSettled := h
  refine andThen_obeys ((Inner.allSettled (uploadPhase_obeys upload rows _ []) hlisted).mono
    fun t' r hpost => ?_)
  obtain ⟨⟨⟨hlisting, -, -⟩, -⟩, hall⟩ := hpost
  rcases r with e | progress
  · exact hall
  · refine andThen_obeys ((downloadPhase_obeys fullSync download _ _ hlisting hall).mono
      fun t' r ht' => ?_)
    rcases r with e | progress
    · exact ht'
    · exact ht'

/-- Incremental syncs, one after the other. -/
def lotwSyncs : List Bool → Program Unit
  | [] => return ()
  | upload :: rest => do
      let _ ← executeSync false upload true
      lotwSyncs rest

theorem lotwSyncs_obeys (uploads : List Bool) (h : t.AllSettled) :
    (lotwSyncs uploads).Obeys syncContract (fun t' _ => t'.AllSettled) t := by
  induction uploads generalizing t with
  | nil => exact h
  | cons upload rest ih =>
      rw [lotwSyncs, Prog.obeys_bind]
      exact (executeSync_obeys false upload true h).mono fun t' _ ht' => ih ht'

end Obeys

/-! ### Beside edits -/

/-- The confirmations the syncs have fetched. -/
def fetchedIn (ms : List (Move Cmd Cmd.Answer)) : List QsoRecord :=
  ms.flatMap fun
    | .main e => fetched e
    | .other _ _ => []

/-- Whatever copy of the row the edit reads, it keeps the fields a confirmation
is matched on. -/
def KeepsMatchKey (s : MemoryState) (qso : QsoRecord) : Prop :=
  ∀ existing createdAt updatedAt,
    (s.get (editTarget qso)).map matchKey = some (matchKey existing) →
    matchKey (updated qso existing createdAt updatedAt) = matchKey existing

/-- A copy of a row of the store, up to what confirmations are not matched on. -/
def CopyOf (s : MemoryState) (id : String) (r : QsoRecord) : Prop :=
  r.localId = id ∧ (s.get id).map matchKey = some (matchKey r)

/-- What holds at every point of a run beside edits. -/
structure Beside (s₀ : MemoryState) (edits : List QsoRecord) (t : View)
    (ms : List (Move Cmd Cmd.Answer)) (others : List (Program (Except LogbookError QsoRecord)))
    (s : MemoryState) : Prop where
  rows : SameRows s₀ s
  editing : Editing (fun i r => ∀ qso, edits[i]? = some qso → CopyOf s₀ (editTarget qso) r)
    edits others
  listing : ∀ listed ∈ t.listing, ∃ s', SameRows s₀ s' ∧ listed = s'.listQsos localQuery
  failed : ¬ t.failed
  missing : ∀ id, t.missing id → ∀ r, s₀.get id = some r → r.deletedAt.isSome
  owed : ∀ c ∈ fetchedIn ms, ∀ id, MatchesOnly s₀ c id → t.owed c id

/-- How often a confirmation of the row has been lost. -/
structure Tally where
  /-- The copy the sync holds cannot be swapped: it was overtaken, or it has a
  NaN. -/
  doomed : Bool := false
  /-- The swaps of a confirmation that were lost in a row. -/
  losses : ℕ := 0
  thrice : Bool := false

/-- One move. -/
def Tally.move (id : String) (y : Tally) : Move Cmd Cmd.Answer → Tally
  | .main ⟨.store (.getQso id'), .ok (some r)⟩ =>
      if id' = id then { y with doomed := !(r == r) } else y
  | .other _ ⟨.store (.updateQso qso), _⟩ =>
      if qso.localId = id then { y with doomed := true } else y
  | .main ⟨.store (.updateQsoIfUnchanged current _), .ok true⟩ =>
      if current.localId = id then { y with losses := 0 } else y
  | .main ⟨.store (.updateQsoIfUnchanged current next), .ok false⟩ =>
      if current.localId = id ∧ isConfirmed next = true ∧ y.doomed = true then
        { y with losses := y.losses + 1, thrice := y.thrice || decide (3 ≤ y.losses + 1) }
      else y
  | _ => y

/-- The tally of a run. -/
def tally (id : String) (ms : List (Move Cmd Cmd.Answer)) : Tally := ms.foldl (Tally.move id) {}

/-- What a move does with the row: an edit reads it, a confirmation is applied
to it, an edit writes it. -/
inductive RowStep where
  | read (i : ℕ)
  | applied
  | write (i : ℕ)
  deriving DecidableEq

def rowStep (id : String) : Move Cmd Cmd.Answer → Option RowStep
  | .other i ⟨.store (.getQso id'), _⟩ => if id' = id then some (.read i) else none
  | .other i ⟨.store (.updateQso qso), _⟩ => if qso.localId = id then some (.write i) else none
  | .main ⟨.store (.updateQsoIfUnchanged current next), .ok true⟩ =>
      if current.localId = id ∧ isConfirmed next = true then some .applied else none
  | _ => none

def rowSteps (id : String) (ms : List (Move Cmd Cmd.Answer)) : List RowStep :=
  ms.filterMap (rowStep id)

/-- An edit that read the row before a confirmation was applied writes it
after that. -/
def StaleEdit (id : String) (ms : List (Move Cmd Cmd.Answer)) : Prop :=
  ∃ i, [RowStep.read i, .applied, .write i].Sublist (rowSteps id ms)

section Pool

variable {ε : Type} {env : Environment ε} {edits : List QsoRecord} {t : View}
  {ms : List (Move Cmd Cmd.Answer)} {others : List (Program (Except LogbookError QsoRecord))}
  {w : World ε}

/-- A row that is put back with the same fields. -/
theorem SameRows.put {r next : QsoRecord} (h : SameRows s₀ s) (hr : s.get next.localId = some r)
    (hkey : matchKey next = matchKey r) : SameRows s₀ (s.put next) := by
  intro id
  rw [MemoryState.get_put]
  split
  · rename_i hid
    subst hid
    rw [← h, hr, Option.map_some, Option.map_some, hkey]
  · exact h id

/-- What a swap of the sync does to the rows. -/
theorem Allowed.swap {current next : QsoRecord}
    (h : Allowed t (.store (.updateQsoIfUnchanged current next))) :
    t.held = some current ∧ next.localId = current.localId ∧ matchKey next = matchKey current
      ∧ (next.lotwReceived = current.lotwReceived ∨ next.lotwReceived = some true) := by
  cases h with
  | patch hheld hid hkey hreceived _ => exact ⟨hheld, hid, hkey, .inl hreceived⟩
  | confirm hheld => exact ⟨hheld, rfl, rfl, .inr rfl⟩

/-- What a command of the sync does. -/
inductive SyncMove (t : View) (s : MemoryState) : Event Cmd Cmd.Answer → MemoryState → Prop
  | list : SyncMove t s ⟨.store (.listQsos localQuery), .ok (s.listQsos localQuery)⟩ s
  | get (id : String) : SyncMove t s ⟨.store (.getQso id), .ok (s.get id)⟩ s
  | swap {stored current next : QsoRecord} :
      Allowed t (.store (.updateQsoIfUnchanged current next)) →
      s.get current.localId = some stored → (stored == current) = true →
      SyncMove t s ⟨.store (.updateQsoIfUnchanged current next), .ok true⟩ (s.put next)
  | lost {current next : QsoRecord} :
      Allowed t (.store (.updateQsoIfUnchanged current next)) →
      (∀ stored, s.get current.localId = some stored → (stored == current) = false) →
      SyncMove t s ⟨.store (.updateQsoIfUnchanged current next), .ok false⟩ s
  | fetch {since : Option String} {r : Cmd.Answer (.lotw (.fetchConfirmations since))} :
      t.listing.isSome → SyncMove t s ⟨.lotw (.fetchConfirmations since), r⟩ s
  | quiet {e : Event Cmd Cmd.Answer} {s' : MemoryState} :
      (∀ id, s'.get id = s.get id) → t.next e.1 e.2 = t → fetched e = [] →
      (∀ id y, Tally.move id y (.main e) = y) → (∀ id, rowStep id (.main e) = none) →
      SyncMove t s e s'

theorem Allowed.move {cmd : Cmd} (h : Allowed t cmd) :
    SyncMove t w.1 ⟨cmd, (handle env cmd w).1⟩ (handle env cmd w).2.1 := by
  have hswap : ∀ {current next : QsoRecord},
      Allowed t (.store (.updateQsoIfUnchanged current next)) →
      SyncMove t w.1 ⟨.store (.updateQsoIfUnchanged current next),
        (w.1.updateQsoIfUnchanged current next).1⟩ (w.1.updateQsoIfUnchanged current next).2 := by
    intro current next h
    by_cases hstored : ∃ stored, w.1.get current.localId = some stored ∧ (stored == current) = true
    · obtain ⟨stored, hget, heq⟩ := hstored
      rw [MemoryState.updateQsoIfUnchanged_of_beq h.swap.2.1.symm hget heq]
      exact .swap h hget heq
    · have hne : ∀ stored, w.1.get current.localId = some stored → (stored == current) = false := by
        intro stored hget
        by_contra heq
        exact hstored ⟨stored, hget, Bool.not_eq_false _ |>.mp heq⟩
      rw [MemoryState.updateQsoIfUnchanged_of_ne hne]
      exact .lost h hne
  cases h with
  | list => exact .list
  | get id => exact .get id
  | metadata => exact .quiet (fun _ => rfl) rfl rfl (fun _ _ => rfl) fun _ => rfl
  | mark metadata => exact .quiet (fun _ => rfl) rfl rfl (fun _ _ => rfl) fun _ => rfl
  | upload qsos => exact .quiet (fun _ => rfl) rfl rfl (fun _ _ => rfl) fun _ => rfl
  | fetch since h => exact .fetch h
  | clock => exact .quiet (fun _ => rfl) rfl rfl (fun _ _ => rfl) fun _ => rfl
  | patch hheld hid hkey hreceived hc => exact hswap (.patch hheld hid hkey hreceived hc)
  | confirm hheld => exact hswap (.confirm hheld)

/-- A stored row and an equal copy of it. -/
theorem matchKey_of_beq {a b : QsoRecord} (h : (a == b) = true) : matchKey a = matchKey b :=
  QsoRecord.congr_of_beq h matchKey fun _ => rfl

theorem lotwReceived_of_beq {a b : QsoRecord} (h : (a == b) = true) :
    a.lotwReceived = b.lotwReceived :=
  QsoRecord.congr_of_beq h (·.lotwReceived) fun _ => rfl

theorem fetchedIn_append {ns : List (Move Cmd Cmd.Answer)} :
    fetchedIn (ms ++ ns) = fetchedIn ms ++ fetchedIn ns := List.flatMap_append

theorem mem_fetchedIn_main {e : Event Cmd Cmd.Answer} (hc : c ∈ fetchedIn (ms ++ [.main e])) :
    c ∈ fetchedIn ms ∨ c ∈ fetched e := by
  rw [fetchedIn_append, List.mem_append] at hc
  refine hc.imp_right fun hc => ?_
  rwa [fetchedIn, List.flatMap_singleton] at hc

/-- One command of the sync. -/
theorem Beside.main {e : Event Cmd Cmd.Answer} {s' : MemoryState}
    (h : Beside s₀ edits t ms others s) (hmove : SyncMove t s e s') :
    Beside s₀ edits (t.next e.1 e.2) (ms ++ [.main e]) others s' := by
  have howed : fetched e = [] → ∀ c ∈ fetchedIn (ms ++ [.main e]), ∀ id, MatchesOnly s₀ c id →
      t.owed c id := by
    intro hnone c hc id honly
    rcases mem_fetchedIn_main hc with hc | hc
    · exact h.owed c hc id honly
    · rw [hnone] at hc
      cases hc
  cases hmove with
  | list =>
      refine ⟨h.rows, h.editing, fun listed hl => ?_, h.failed, h.missing, howed rfl⟩
      cases hl
      exact ⟨s, h.rows, rfl⟩
  | get id' =>
      have howed' := howed rfl
      cases hget : s.get id' with
      | none =>
          rw [hget] at howed'
          refine ⟨h.rows, h.editing, h.listing, h.failed, ?_, howed'⟩
          rintro id (hm | rfl) r hr
          · exact h.missing id hm r hr
          · obtain ⟨r', hr', -⟩ := h.rows.symm.get hr
            rw [hget] at hr'
            cases hr'
      | some row =>
          rw [hget] at howed'
          refine ⟨h.rows, h.editing, h.listing, ?_, ?_, howed'⟩
          · rintro (hf | hid)
            · exact h.failed hf
            · exact hid (MemoryState.localId_of_get hget)
          · rintro id (hm | ⟨rfl, hdel⟩) r hr
            · exact h.missing id hm r hr
            · obtain ⟨r', hr', hkey⟩ := h.rows.symm.get hr
              rw [hget] at hr'
              cases hr'
              rw [show r.deletedAt = row.deletedAt from congrArg Prod.fst hkey]
              exact hdel
  | @swap stored current next hallowed hget heq =>
      obtain ⟨-, hid, hkey, -⟩ := hallowed.swap
      refine ⟨h.rows.put (r := stored) ?_ (hkey.trans (matchKey_of_beq heq).symm), h.editing,
        h.listing, h.failed, h.missing, howed rfl⟩
      rw [hid]
      exact hget
  | @lost current next hallowed hne =>
      refine ⟨h.rows, h.editing, ?_, ?_, ?_, ?_⟩
      · exact View.swap_listing (t := t) ▸ h.listing
      · exact View.swap_failed (t := t) ▸ h.failed
      · exact View.swap_missing (t := t) ▸ h.missing
      · exact View.swap_owed (t := t) ▸ howed rfl
  | @fetch since r hlisting =>
      rcases r with e | report
      · exact ⟨h.rows, h.editing, h.listing, h.failed, h.missing, howed rfl⟩
      refine ⟨h.rows, h.editing, h.listing, h.failed, h.missing, fun c hc id honly => ?_⟩
      rcases mem_fetchedIn_main hc with hc | hc
      · exact .inl (h.owed c hc id honly)
      · obtain ⟨rows, hrows⟩ := Option.isSome_iff_exists.mp hlisting
        obtain ⟨s', hs', rfl⟩ := h.listing rows hrows
        exact .inr ⟨hc, _, hrows, hs'.matchesOnly honly⟩
  | quiet hsame hnext hfetched _ _ =>
      rw [hnext]
      refine ⟨fun id => ?_, h.editing, h.listing, h.failed, h.missing, howed hfetched⟩
      rw [hsame]
      exact h.rows id

/-- One move of an edit. -/
theorem Beside.other {α : Type} {i : ℕ} {e : Event Cmd Cmd.Answer}
    {q q' : Pool Cmd Cmd.Answer (World ε) α (Except LogbookError QsoRecord)}
    (hedits : ∀ qso ∈ edits, KeepsMatchKey s₀ qso)
    (h : Beside s₀ edits t ms q.others q.state.1) (hs : q.Step (handle env) (.other i e) q') :
    Beside s₀ edits t (ms ++ [.other i e]) q'.others q'.state.1 := by
  obtain ⟨hediting, -, hmove⟩ := h.editing.step hs (fun _ _ hr => hr) fun qso r hqso _ hr qso' hqso' => by
    rw [hqso] at hqso'
    cases hqso'
    refine ⟨MemoryState.localId_of_get hr, ?_⟩
    rw [← h.rows, hr, Option.map_some]
  have howed : ∀ c ∈ fetchedIn (ms ++ [.other i e]), ∀ id, MatchesOnly s₀ c id → t.owed c id := by
    intro c hc
    rw [fetchedIn_append, List.mem_append] at hc
    rcases hc with hc | hc
    · exact h.owed c hc
    · cases hc
  refine ⟨?_, hediting, h.listing, h.failed, h.missing, howed⟩
  generalize q'.state.1 = s' at hmove
  cases hmove with
  | clock => exact h.rows
  | read => exact h.rows
  | @write qso existing createdAt updatedAt _ hqso hcopy hdel =>
      obtain ⟨hid, hkey⟩ := hcopy qso hqso
      have hkeeps := hedits qso (List.mem_of_getElem? hqso) existing createdAt updatedAt hkey
      have hlocal : (updated qso existing createdAt updatedAt).localId = editTarget qso := hid
      obtain ⟨r, hr⟩ : ∃ r, q.state.1.get (editTarget qso) = some r := by
        rw [← h.rows] at hkey
        obtain ⟨r, hr, -⟩ := Option.map_eq_some_iff.mp hkey
        exact ⟨r, hr⟩
      have hrkey := h.rows (editTarget qso)
      rw [hr, hkey, Option.map_some, Option.some_inj] at hrkey
      rw [← hlocal] at hr
      intro id
      rw [MemoryState.get_updateQso hr]
      split
      · rename_i hid'
        rw [Option.map_some, hkeeps, ← hkey, ← hid', hlocal]
      · exact h.rows id

/-! ### Losses -/

/-- The tally covers what the sync has counted for the row. -/
structure Counted (id : String) (t : View) (ms : List (Move Cmd Cmd.Answer)) (s : MemoryState) :
    Prop where
  held : ∀ current ∈ t.held, current.localId = id →
    (tally id ms).doomed = true ∨ (s.get id = some current ∧ (current == current) = true)
  losses : t.losses id ≤ (tally id ms).losses
  gaveUp : t.gaveUp id → (tally id ms).thrice = true

theorem tally_snoc {m : Move Cmd Cmd.Answer} :
    tally id (ms ++ [m]) = (tally id ms).move id m := List.foldl_append

/-- One command of the sync. -/
theorem Counted.main {e : Event Cmd Cmd.Answer} {s' : MemoryState} (h : Counted id t ms s)
    (hmove : SyncMove t s e s') : Counted id (t.next e.1 e.2) (ms ++ [.main e]) s' := by
  obtain ⟨hheld, hlosses, hgaveUp⟩ := h
  generalize hy : tally id ms = y at hheld hlosses hgaveUp
  -- the view and the tally after the move
  suffices (∀ current ∈ (t.next e.1 e.2).held, current.localId = id →
        (y.move id (.main e)).doomed = true ∨ (s'.get id = some current ∧ (current == current) = true))
      ∧ (t.next e.1 e.2).losses id ≤ (y.move id (.main e)).losses
      ∧ ((t.next e.1 e.2).gaveUp id → (y.move id (.main e)).thrice = true) by
    rw [← hy, ← tally_snoc] at this
    exact ⟨this.1, this.2.1, this.2.2⟩
  cases hmove with
  | list => exact ⟨hheld, hlosses, hgaveUp⟩
  | get id' =>
      cases hget : s.get id' with
      | none => exact ⟨hheld, hlosses, hgaveUp⟩
      | some row =>
          have hmove : y.move id (.main ⟨.store (.getQso id'), .ok (some row)⟩)
              = if id' = id then { y with doomed := !(row == row) } else y := rfl
          rw [hmove]
          refine ⟨fun current hcurrent hid => ?_, ?_, fun hg => ?_⟩
          · cases hcurrent
            have hrow : id' = id := (MemoryState.localId_of_get hget).symm.trans hid
            subst hrow
            rw [if_pos rfl]
            cases hself : row == row with
            | true => exact .inr ⟨hget, rfl⟩
            | false => exact .inl rfl
          · split <;> exact hlosses
          · split <;> exact hgaveUp hg
  | @swap stored current next hallowed hget heq =>
      have hmove : y.move id (.main ⟨.store (.updateQsoIfUnchanged current next), .ok true⟩)
          = if current.localId = id then { y with losses := 0 } else y := rfl
      rw [hmove]
      refine ⟨fun current hcurrent => absurd hcurrent (Option.not_mem_none _), ?_, fun hg => ?_⟩
      · show Function.update t.losses current.localId 0 id ≤ _
        split
        · rename_i hid
          rw [hid, Function.update_self]
        · rename_i hid
          rw [Function.update_of_ne (Ne.symm hid)]
          exact hlosses
      · split <;> exact hgaveUp hg
  | @lost current next hallowed hne =>
      have hmove : y.move id (.main ⟨.store (.updateQsoIfUnchanged current next), .ok false⟩)
          = if current.localId = id ∧ isConfirmed next = true ∧ y.doomed = true then
              { y with losses := y.losses + 1, thrice := y.thrice || decide (3 ≤ y.losses + 1) }
            else y := rfl
      rw [hmove]
      show (∀ current' ∈ (t.swap current next false).held, _)
        ∧ (t.swap current next false).losses id ≤ _ ∧ ((t.swap current next false).gaveUp id → _)
      rw [View.swap]
      cases hc : isConfirmed next with
      | false =>
          rw [if_neg Bool.false_ne_true, if_neg fun h => Bool.false_ne_true h.2.1]
          exact ⟨fun current hcurrent => absurd hcurrent (Option.not_mem_none _), hlosses, hgaveUp⟩
      | true =>
          rw [if_pos rfl]
          refine ⟨fun current hcurrent => absurd hcurrent (Option.not_mem_none _), ?_⟩
          by_cases hid : current.localId = id
          · -- the swap was lost because the copy was doomed
            have hdoomed : y.doomed = true := by
              rcases hheld current hallowed.swap.1 hid with h | ⟨hget, hself⟩
              · exact h
              · rw [hne current (hid ▸ hget)] at hself
                cases hself
            subst hid
            rw [if_pos ⟨rfl, rfl, hdoomed⟩]
            dsimp only
            rw [Function.update_self]
            refine ⟨Nat.succ_le_succ hlosses, ?_⟩
            rintro (hg | ⟨-, hthree⟩)
            · simp [hgaveUp hg]
            · have hle : 3 ≤ y.losses + 1 := hthree.trans (Nat.succ_le_succ hlosses)
              simp [hle]
          · rw [if_neg fun h => hid h.1]
            dsimp only
            rw [Function.update_of_ne (Ne.symm hid)]
            exact ⟨hlosses, fun hg => hgaveUp (hg.resolve_right fun h => hid h.1)⟩
  | @fetch since r hlisting => rcases r with e | report <;> exact ⟨hheld, hlosses, hgaveUp⟩
  | quiet hsame hnext _ htally _ =>
      rw [hnext, htally, hsame]
      exact ⟨hheld, hlosses, hgaveUp⟩

/-- One move of an edit. -/
theorem Counted.other {P : ℕ → QsoRecord → Prop} {i : ℕ} {e : Event Cmd Cmd.Answer}
    {s' : MemoryState} (h : Counted id t ms s) (hmove : EditMove P edits s i e s') :
    Counted id t (ms ++ [.other i e]) s' := by
  obtain ⟨hheld, hlosses, hgaveUp⟩ := h
  generalize hy : tally id ms = y at hheld hlosses hgaveUp
  suffices (∀ current ∈ t.held, current.localId = id → (y.move id (.other i e)).doomed = true
        ∨ (s'.get id = some current ∧ (current == current) = true))
      ∧ t.losses id ≤ (y.move id (.other i e)).losses
      ∧ (t.gaveUp id → (y.move id (.other i e)).thrice = true) by
    rw [← hy, ← tally_snoc] at this
    exact ⟨this.1, this.2.1, this.2.2⟩
  cases hmove with
  | clock => exact ⟨hheld, hlosses, hgaveUp⟩
  | read => exact ⟨hheld, hlosses, hgaveUp⟩
  | @write qso existing createdAt updatedAt r hqso hcopy hdel =>
      generalize updated qso existing createdAt updatedAt = x at r
      have hmove : y.move id (.other i ⟨.store (.updateQso x), r⟩)
          = if x.localId = id then { y with doomed := true } else y := rfl
      rw [hmove]
      split
      · exact ⟨fun _ _ _ => .inl rfl, hlosses, hgaveUp⟩
      · rename_i hid
        rw [MemoryState.get_updateQso_of_ne hid]
        exact ⟨hheld, hlosses, hgaveUp⟩

/-! ### Receipts -/

/-- The copy the `i`-th edit holds of the row: once a confirmation has been
applied, it has the receipt or it is stale. -/
def Fresh (id : String) (ms : List (Move Cmd Cmd.Answer)) (i : ℕ) (r : QsoRecord) : Prop :=
  r.localId = id → .read i ∈ rowSteps id ms
    ∧ (.applied ∈ rowSteps id ms → r.lotwReceived = some true
      ∨ [RowStep.read i, .applied].Sublist (rowSteps id ms) ∨ StaleEdit id ms)

/-- A row that a confirmation has been applied to keeps its receipt. -/
structure Received (id : String) (edits : List QsoRecord) (ms : List (Move Cmd Cmd.Answer))
    (others : List (Program (Except LogbookError QsoRecord))) (s : MemoryState) : Prop where
  editing : Editing (Fresh id ms) edits others
  row : .applied ∈ rowSteps id ms → ¬ StaleEdit id ms →
    ∃ r, s.get id = some r ∧ r.lotwReceived = some true

theorem rowSteps_snoc {m : Move Cmd Cmd.Answer} :
    rowSteps id (ms ++ [m]) = rowSteps id ms ++ (rowStep id m).toList := by
  rw [rowSteps, List.filterMap_append]
  cases hm : rowStep id m <;> simp [rowSteps, hm]

theorem StaleEdit.snoc {m : Move Cmd Cmd.Answer} (h : StaleEdit id ms) :
    StaleEdit id (ms ++ [m]) := by
  obtain ⟨i, hi⟩ := h
  refine ⟨i, ?_⟩
  rw [rowSteps_snoc]
  exact hi.trans (List.sublist_append_left _ _)

/-- A move that applies no confirmation leaves copies fresh. -/
theorem Fresh.snoc {m : Move Cmd Cmd.Answer} {i : ℕ} {r : QsoRecord} (h : Fresh id ms i r)
    (hm : rowStep id m ≠ some .applied) : Fresh id (ms ++ [m]) i r := by
  intro hid
  obtain ⟨hread, hfresh⟩ := h hid
  rw [rowSteps_snoc]
  refine ⟨List.mem_append_left _ hread, fun happlied => ?_⟩
  rcases List.mem_append.mp happlied with happlied | happlied
  · rcases hfresh happlied with h | h | h
    · exact .inl h
    · exact .inr (.inl (h.trans (List.sublist_append_left _ _)))
    · exact .inr (.inr h.snoc)
  · exact absurd (Option.mem_toList.mp happlied) hm

/-- A confirmation that is applied makes all copies stale. -/
theorem Fresh.applied {m : Move Cmd Cmd.Answer} {i : ℕ} {r : QsoRecord} (h : Fresh id ms i r)
    (hm : rowStep id m = some .applied) : Fresh id (ms ++ [m]) i r := by
  intro hid
  obtain ⟨hread, -⟩ := h hid
  rw [rowSteps_snoc, hm]
  exact ⟨List.mem_append_left _ hread, fun _ => .inr (.inl
    ((List.singleton_sublist.mpr hread).append (List.Sublist.refl [RowStep.applied])))⟩

/-- A move that does nothing with the row. -/
theorem Received.frame {m : Move Cmd Cmd.Answer} {s' : MemoryState}
    (h : Received id edits ms others s) (hm : rowStep id m = none) (hsame : s'.get id = s.get id) :
    Received id edits (ms ++ [m]) others s' := by
  refine ⟨h.editing.mono fun i r hr => hr.snoc (by rw [hm]; nofun), fun happlied hstale => ?_⟩
  rw [rowSteps_snoc, hm, Option.toList_none, List.append_nil] at happlied
  rw [hsame]
  exact h.row happlied fun hs => hstale hs.snoc

/-- A swap that confirms a row sets its receipt. -/
theorem Allowed.confirms {current next : QsoRecord}
    (h : Allowed t (.store (.updateQsoIfUnchanged current next))) (hc : isConfirmed next = true) :
    next.lotwReceived = some true := by
  cases h with
  | patch _ _ _ _ hnot =>
      rw [hnot] at hc
      cases hc
  | confirm => rfl

/-- One command of the sync. -/
theorem Received.main {e : Event Cmd Cmd.Answer} {s' : MemoryState}
    (h : Received id edits ms others s) (hmove : SyncMove t s e s') :
    Received id edits (ms ++ [.main e]) others s' := by
  cases hmove with
  | list => exact h.frame rfl rfl
  | get id' => exact h.frame rfl rfl
  | @swap stored current next hallowed hget heq =>
      obtain ⟨-, hlocal, -, hreceived⟩ := hallowed.swap
      have hmove : rowStep id (.main ⟨.store (.updateQsoIfUnchanged current next), .ok true⟩)
          = if current.localId = id ∧ isConfirmed next = true then some .applied else none := rfl
      by_cases happlies : current.localId = id ∧ isConfirmed next = true
      · rw [if_pos happlies] at hmove
        refine ⟨h.editing.mono fun i r hr => hr.applied hmove, fun _ _ => ⟨next, ?_, ?_⟩⟩
        · rw [MemoryState.get_put, hlocal, if_pos happlies.1]
        · exact hallowed.confirms happlies.2
      · rw [if_neg happlies] at hmove
        refine ⟨h.editing.mono fun i r hr => hr.snoc (by rw [hmove]; nofun), fun happlied hstale => ?_⟩
        rw [rowSteps_snoc, hmove, Option.toList_none, List.append_nil] at happlied
        obtain ⟨r, hr, hreceipt⟩ := h.row happlied fun hs => hstale hs.snoc
        rw [MemoryState.get_put, hlocal]
        split
        · rename_i hid
          rw [hid, hr] at hget
          cases hget
          refine ⟨next, rfl, ?_⟩
          rcases hreceived with hsame | hset
          · rw [hsame, ← lotwReceived_of_beq heq, hreceipt]
          · exact hset
        · exact ⟨r, hr, hreceipt⟩
  | lost => exact h.frame rfl rfl
  | fetch => exact h.frame rfl rfl
  | quiet hsame _ _ _ hstep => exact h.frame (hstep id) (hsame id)

theorem rowStep_other_ne {i : ℕ} {e : Event Cmd Cmd.Answer} :
    rowStep id (.other i e) ≠ some .applied := by
  unfold rowStep
  split
  · split <;> nofun
  · split <;> nofun
  · rename_i heq
    cases heq
  · nofun

/-- One move of an edit. -/
theorem Received.other {α : Type} {i : ℕ} {e : Event Cmd Cmd.Answer}
    {q q' : Pool Cmd Cmd.Answer (World ε) α (Except LogbookError QsoRecord)}
    (h : Received id edits ms q.others q.state.1) (hs : q.Step (handle env) (.other i e) q') :
    Received id edits (ms ++ [.other i e]) q'.others q'.state.1 := by
  have hold : .applied ∈ rowSteps id (ms ++ [.other i e]) → .applied ∈ rowSteps id ms := by
    intro happlied
    rw [rowSteps_snoc] at happlied
    rcases List.mem_append.mp happlied with happlied | happlied
    · exact happlied
    · exact absurd (Option.mem_toList.mp happlied) rowStep_other_ne
  obtain ⟨hediting, -, hmove⟩ := h.editing.step (Q := Fresh id (ms ++ [.other i e])) hs
    (fun j r hr => hr.snoc rowStep_other_ne) fun qso r hqso hcmd hget hid => by
      obtain ⟨cmd, answer⟩ := e
      obtain rfl : cmd = .store (.getQso (editTarget qso)) := hcmd
      have htarget : editTarget qso = id := (MemoryState.localId_of_get hget).symm.trans hid
      have hstep : rowStep id (.other i ⟨.store (.getQso (editTarget qso)), answer⟩)
          = some (.read i) := if_pos htarget
      refine ⟨?_, fun happlied => ?_⟩
      · rw [rowSteps_snoc, hstep]
        exact List.mem_append_right _ (List.mem_singleton_self _)
      · by_cases hstale : StaleEdit id ms
        · exact .inr (.inr hstale.snoc)
        · obtain ⟨r', hr', hreceipt⟩ := h.row (hold happlied) hstale
          rw [← htarget, hget] at hr'
          cases hr'
          exact .inl hreceipt
  refine ⟨hediting, fun happlied hstale => ?_⟩
  have hrow := h.row (hold happlied) fun hs => hstale hs.snoc
  generalize q'.state.1 = s' at hmove
  cases hmove with
  | clock => exact hrow
  | read => exact hrow
  | @write qso existing createdAt updatedAt r hqso hfresh hdel =>
      have hreceipt : (updated qso existing createdAt updatedAt).lotwReceived
          = existing.lotwReceived := rfl
      have hlocal : (updated qso existing createdAt updatedAt).localId = existing.localId := rfl
      have hbefore := hold happlied
      clear hold happlied
      generalize updated qso existing createdAt updatedAt = x at r hreceipt hlocal hstale
      by_cases hid : x.localId = id
      · obtain ⟨stored, hstored, -⟩ := hrow
        have hstep : rowStep id (.other i ⟨.store (.updateQso x), r⟩) = some (.write i) :=
          if_pos hid
        rcases (hfresh (hlocal.symm.trans hid)).2 hbefore with h | h | h
        · refine ⟨x, ?_, hreceipt.trans h⟩
          rw [← hid] at hstored
          rw [MemoryState.get_updateQso hstored, if_pos hid]
        · -- the edit writes back a copy it read before the confirmation
          refine absurd ⟨i, ?_⟩ hstale
          rw [rowSteps_snoc, hstep]
          exact h.append (List.Sublist.refl [RowStep.write i])
        · exact absurd h.snoc hstale
      · rw [MemoryState.get_updateQso_of_ne hid]
        exact hrow

/-! ### The run -/

/-- A swap of the run has applied the confirmation to the row. -/
def AppliedIn (ms : List (Move Cmd Cmd.Answer)) (c : QsoRecord) (id : String) : Prop :=
  ∃ ms₁ ms₂ current received,
    ms = ms₁ ++ .main ⟨.store (.updateQsoIfUnchanged current (confirmed current c received)),
      .ok true⟩ :: ms₂ ∧ current.localId = id

theorem AppliedIn.snoc {m : Move Cmd Cmd.Answer} (h : AppliedIn ms c id) :
    AppliedIn (ms ++ [m]) c id := by
  obtain ⟨ms₁, ms₂, current, received, rfl, hid⟩ := h
  exact ⟨ms₁, ms₂ ++ [m], current, received, by simp, hid⟩

theorem AppliedIn.rowSteps (h : AppliedIn ms c id) : .applied ∈ rowSteps id ms := by
  obtain ⟨ms₁, ms₂, current, received, rfl, hid⟩ := h
  refine List.mem_filterMap.mpr ⟨_, List.mem_append_right _ List.mem_cons_self, ?_⟩
  exact if_pos ⟨hid, rfl⟩

/-- One command of the sync. -/
theorem appliedIn_main {e : Event Cmd Cmd.Answer} {s' : MemoryState}
    (h : ∀ c id, t.applied c id → AppliedIn ms c id) (hmove : SyncMove t s e s') :
    ∀ c id, (t.next e.1 e.2).applied c id → AppliedIn (ms ++ [.main e]) c id := by
  intro c id happlied
  cases hmove with
  | list => exact (h c id happlied).snoc
  | get id' => cases hget : s.get id' <;> (rw [hget] at happlied; exact (h c id happlied).snoc)
  | @swap stored current next hallowed hget heq =>
      rcases happlied with happlied | ⟨hid, received, rfl⟩
      · exact (h c id happlied).snoc
      · exact ⟨ms, [], current, received, rfl, hid⟩
  | @lost current next hallowed hne =>
      have hsame : (t.swap current next false).applied = t.applied := by
        rw [View.swap]
        split <;> rfl
      refine (h c id ?_).snoc
      rw [← hsame]
      exact happlied
  | @fetch since r hlisting => rcases r with e | report <;> exact (h c id happlied).snoc
  | quiet hsame hnext _ _ _ =>
      rw [hnext] at happlied
      exact (h c id happlied).snoc

/-- A swap that goes in leaves its replacement. -/
theorem get_of_swapped {α : Type} {current next : QsoRecord}
    {q q' : Pool Cmd Cmd.Answer (World ε) α (Except LogbookError QsoRecord)}
    (hs : q.Step (handle env) (.main ⟨.store (.updateQsoIfUnchanged current next), .ok true⟩) q') :
    q'.state.1.get current.localId = some next := by
  obtain ⟨hanswer, hstate⟩ := hs.main_eq
  have hok : (q.state.1.updateQsoIfUnchanged current next).1 = .ok true := hanswer.symm
  have hstore : q'.state.1 = (q.state.1.updateQsoIfUnchanged current next).2 :=
    congrArg Prod.fst hstate
  rcases q.state.1.updateQsoIfUnchanged_cases current next with ⟨stored, -, -, hid, hq⟩ | hq
  · rw [hstore, hq, MemoryState.get_put, if_pos hid.symm]
  · rw [hq] at hok
    cases hok

/-- What holds at every point of a run of incremental syncs beside edits. -/
theorem syncs_beside (id : String) {uploads : List Bool}
    {q : Pool Cmd Cmd.Answer (World ε) Unit (Except LogbookError QsoRecord)}
    (hedits : ∀ qso ∈ edits, KeepsMatchKey w.1 qso)
    (hrun : Pool.Run (handle env) ⟨lotwSyncs uploads, edits.map updateQso, w⟩ ms q) :
    ∃ t, q.main.Obeys syncContract (fun t' _ => t'.AllSettled) t
      ∧ Beside w.1 edits t ms q.others q.state.1 ∧ Counted id t ms q.state.1
      ∧ Received id edits ms q.others q.state.1 ∧ ∀ c id, t.applied c id → AppliedIn ms c id := by
  have hobeys := lotwSyncs_obeys (t := {}) uploads fun _ _ h => h.elim
  refine ⟨_, hrun.obeys hobeys, ?_⟩
  refine hrun.keeps (J := fun t ms others s => Beside w.1 edits t ms others s.1
    ∧ Counted id t ms s.1 ∧ Received id edits ms others s.1
    ∧ ∀ c id, t.applied c id → AppliedIn ms c id) ?_ ?_ hobeys ?_
  · rintro t ms others s cmd ⟨hbeside, hcounted, hreceived, happlied⟩ hallowed
    have hmove : SyncMove t s.1 ⟨cmd, (handle env cmd s).1⟩ (handle env cmd s).2.1 :=
      hallowed.move
    exact ⟨hbeside.main hmove, hcounted.main hmove, hreceived.main hmove,
      appliedIn_main happlied hmove⟩
  · rintro t ms i e q r ⟨hbeside, hcounted, hreceived, happlied⟩ hs
    obtain ⟨-, -, hmove⟩ := hreceived.editing.step (Q := fun _ _ => True) hs
      (fun _ _ _ => trivial) fun _ _ _ _ _ => trivial
    exact ⟨hbeside.other hedits hs, hcounted.other hmove, hreceived.other hs,
      fun c id h => (happlied c id h).snoc⟩
  · refine ⟨⟨.refl, editing_start, ?_, fun h => h, ?_, ?_⟩, ⟨?_, Nat.le_refl _, ?_⟩,
      ⟨editing_start, ?_⟩, ?_⟩
    · exact fun listed h => absurd h (Option.not_mem_none _)
    · exact fun id h => h.elim
    · exact fun c h => absurd h List.not_mem_nil
    · exact fun current h => absurd h (Option.not_mem_none _)
    · exact fun h => h.elim
    · exact fun h => absurd h List.not_mem_nil
    · exact fun c id h => h.elim

/-- **What a sync has fetched is applied, unless it was lost three times.**
Incremental syncs run one after the other beside edits that keep the fields a
confirmation is matched on.  When they have completed, a confirmation that was
fetched and that matches one active row has been applied to it; and the row
still has the receipt, unless an edit has written back a copy that it read
before. -/
theorem lotwSyncs_apply {uploads : List Bool} {id : String}
    {q : Pool Cmd Cmd.Answer (World ε) Unit (Except LogbookError QsoRecord)}
    (hedits : ∀ qso ∈ edits, KeepsMatchKey w.1 qso)
    (hrun : Pool.Run (handle env) ⟨lotwSyncs uploads, edits.map updateQso, w⟩ ms q)
    (hdone : q.main = .pure ()) (hfetched : c ∈ fetchedIn ms) (honly : MatchesOnly w.1 c id)
    (hlost : (tally id ms).thrice = false) :
    (∃ ms₁ q₁, ms₁ <+: ms
        ∧ Pool.Run (handle env) ⟨lotwSyncs uploads, edits.map updateQso, w⟩ ms₁ q₁
        ∧ ∃ current received r, q₁.state.1.get id = some r ∧ r = confirmed current c received
          ∧ r.lotwReceived = some true ∧ isConfirmed r = true)
    ∧ (¬ StaleEdit id ms → ∃ r, q.state.1.get id = some r ∧ r.lotwReceived = some true) := by
  obtain ⟨t, hobeys, hbeside, hcounted, hreceived, happlied⟩ := syncs_beside id hedits hrun
  rw [hdone] at hobeys
  have hin : AppliedIn ms c id := by
    rcases hobeys c id (hbeside.owed c hfetched id honly) with h | h | h | h
    · exact happlied c id h
    · rw [hcounted.gaveUp h] at hlost
      cases hlost
    · have hmem : id ∈ matchIds w.1 c := by
        rw [show matchIds w.1 c = [id] from honly]
        exact List.mem_singleton_self id
      obtain ⟨r, hr, hdel, -⟩ := mem_matchIds.mp hmem
      have hdeleted := hbeside.missing id h r hr
      rw [hdel] at hdeleted
      cases hdeleted
    · exact absurd h hbeside.failed
  refine ⟨?_, hreceived.row hin.rowSteps⟩
  obtain ⟨ms₁, ms₂, current, received, rfl, rfl⟩ := hin
  rw [List.append_cons] at hrun
  obtain ⟨q₁, hrun₁, -⟩ := hrun.split
  obtain ⟨q₀, -, hlast⟩ := hrun₁.last
  exact ⟨_, q₁, ⟨ms₂, (List.append_cons _ _ _).symm⟩, hrun₁, current, received, _,
    get_of_swapped hlast, rfl, rfl, rfl⟩

end Pool

/-! ### Three schedules -/

/-- An edit of a normalized row that changes none of the fields. -/
theorem keepsMatchKey_of_get {qso r : QsoRecord} (hr : s.get (editTarget qso) = some r)
    (hstation : Text.toUppercase (Text.trim r.stationCallsign) = r.stationCallsign)
    (hworked : Text.toUppercase (Text.trim qso.workedCallsign) = r.workedCallsign)
    (hrest : qso.band = r.band ∧ qso.mode = r.mode ∧ qso.utcTimestamp = r.utcTimestamp) :
    KeepsMatchKey s qso := by
  intro existing createdAt updatedAt hkey
  rw [hr, Option.map_some, Option.some_inj] at hkey
  simp only [matchKey, Prod.mk.injEq] at hkey
  obtain ⟨-, hs, hw, hb, hm, ht⟩ := hkey
  have hstation' : Text.toUppercase (Text.trim existing.stationCallsign)
      = existing.stationCallsign := hs ▸ hstation
  show (existing.deletedAt, Text.toUppercase (Text.trim existing.stationCallsign),
    Text.toUppercase (Text.trim qso.workedCallsign), qso.band, qso.mode, qso.utcTimestamp)
      = matchKey existing
  rw [hstation', hworked, hrest.1, hrest.2.1, hrest.2.2, hw, hb, hm, ht]
  rfl

/-- A contact with a note. -/
def noted (note : String) : QsoRecord := { contactAt "a" 1000 with notes := some note }

/-- A LoTW that reports one confirmation, unless it is asked for newer ones. -/
def lotwOnce : Environment Unit :=
  { quietRemote with
    lotw
      | .uploadQsos qsos, e => (.ok qsos.length, e)
      | .fetchConfirmations none, e =>
          (.ok { confirmations := [contactAt "" 1000], highWater := some "2024-01-01" }, e)
      | .fetchConfirmations (some _), e => (.ok {}, e) }

/-- Two syncs on one contact, beside edits that add a note.  All edits read the
row first. -/
def syncsBesideNotes (notes : List String) (turns : List Pool.Turn) : List (Move Cmd Cmd.Answer) ×
    Pool Cmd Cmd.Answer (World Unit) Unit (Except LogbookError QsoRecord) :=
  Pool.schedule (handle lotwOnce)
    ((List.range notes.length).flatMap (fun i => .replicate 3 (.other i)) ++ turns)
    ⟨lotwSyncs [false, false], (notes.map noted).map updateQso,
      MemoryState.empty.put (contactAt "a" 1000), ()⟩

open Pool.Turn in
/-- An edit writes between the read and the swap of an attempt. -/
def overtakenOnce : List Pool.Turn := List.replicate 5 main ++ other 0 :: List.replicate 23 main

open Pool.Turn in
/-- An edit writes between the read and the swap of each attempt. -/
def overtakenThrice : List Pool.Turn :=
  List.replicate 5 main ++ other 0 :: List.replicate 3 main ++ other 1 :: List.replicate 3 main
    ++ other 2 :: List.replicate 20 main

open Pool.Turn in
/-- An edit writes after the confirmation has been applied. -/
def writtenBack : List Pool.Turn := List.replicate 8 main ++ other 0 :: List.replicate 23 main

/-- Both syncs have completed, and a confirmation that the first one fetched
is not on its row: because three edits overtook the three attempts, or because
an edit wrote back the copy it had read before. -/
theorem lotwSyncs_skip_confirmation :
    (((syncsBesideNotes ["1", "2", "3"] overtakenThrice).2.turn (handle lotwOnce) .main).isNone
      ∧ (fetchedIn (syncsBesideNotes ["1", "2", "3"] overtakenThrice).1).length = 1
      ∧ ((syncsBesideNotes ["1", "2", "3"] overtakenThrice).2.state.1.get "a").map
          (fun r => (r.lotwReceived, isConfirmed r)) = some (none, false))
    ∧ (((syncsBesideNotes ["1"] writtenBack).2.turn (handle lotwOnce) .main).isNone
      ∧ (fetchedIn (syncsBesideNotes ["1"] writtenBack).1).length = 1
      ∧ ((syncsBesideNotes ["1"] writtenBack).2.state.1.get "a").map
          (fun r => (r.lotwReceived, isConfirmed r)) = some (none, false)) := by
  decide +kernel

theorem keepsMatchKey_noted :
    ∀ qso ∈ [noted "1"], KeepsMatchKey (MemoryState.empty.put (contactAt "a" 1000)) qso := by
  intro qso hqso
  rw [List.mem_singleton.mp hqso]
  have htarget : editTarget (noted "1") = "a" := by decide +kernel
  refine keepsMatchKey_of_get (r := contactAt "a" 1000) ?_ (by decide +kernel) (by decide +kernel)
    ⟨rfl, rfl, rfl⟩
  rw [htarget]
  exact MemoryState.get_put _ _ _

/-- One attempt is overtaken, and the next one goes in. -/
theorem lotwSyncs_apply_overtaken :
    ∃ r, (syncsBesideNotes ["1"] overtakenOnce).2.state.1.get "a" = some r
      ∧ r.lotwReceived = some true := by
  have hdone : ((syncsBesideNotes ["1"] overtakenOnce).2.turn (handle lotwOnce) .main).isNone := by
    decide +kernel
  have hfetched : (fetchedIn (syncsBesideNotes ["1"] overtakenOnce).1).length = 1 := by
    decide +kernel
  have honly : (fetchedIn (syncsBesideNotes ["1"] overtakenOnce).1).all fun c =>
      decide (MatchesOnly (MemoryState.empty.put (contactAt "a" 1000)) c "a") := by
    decide +kernel
  have hsteps : rowSteps "a" (syncsBesideNotes ["1"] overtakenOnce).1
      = [.read 0, .write 0, .applied] := by
    decide +kernel
  obtain ⟨c, hc⟩ := List.exists_mem_of_length_pos (hfetched ▸ Nat.one_pos)
  obtain ⟨⟨⟩, hpure⟩ := Pool.main_eq_pure hdone
  refine (lotwSyncs_apply keepsMatchKey_noted (Pool.schedule_run _ _) hpure hc
    (of_decide_eq_true (List.all_eq_true.mp honly c hc)) (by decide +kernel)).2 ?_
  rintro ⟨i, hi⟩
  replace hi : [RowStep.read i, .applied, .write i].Sublist
      (rowSteps "a" (syncsBesideNotes ["1"] overtakenOnce).1) := hi
  rw [hsteps] at hi
  cases hi.eq_of_length rfl

end QsoRipper.Lotw
