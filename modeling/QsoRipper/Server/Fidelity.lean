/-
QsoRipper/Server/Fidelity.lean

When a download keeps remote contacts apart.  Take a list of remote records
with pairwise distinct logids, none of them ignored and none matching a row
the operator has edited.  Afterwards each logid should be on exactly one
active row, and no row that already had one of them should have lost it.

The loop does this exactly when the list is `Separable` from the active rows
it starts with: no two records claim the same row or, being new, each other,
and no record claims a row it cannot be linked to.  That is a condition on
the input only, because a match never sees what earlier merges did.
-/
import QsoRipper.Server.Download

namespace QsoRipper

open Interaction MemoryState

/-! ### What is assumed and what is asked -/

/-- The active rows the download phase matches against. -/
def activeRows (s : MemoryState) : List QsoRecord :=
  (partitionLocalForSync (s.listQsos { deletedFilter := .all })).1

/-- The remote lists in question. -/
structure Downloadable (ctx : DownloadContext) (s : MemoryState) (remotes : List QsoRecord) :
    Prop where
  taken : ∀ remote ∈ remotes, ¬ Ignored ctx remote
  logids : ∀ remote ∈ remotes, (extractQrzLogid remote).isSome
  distinct : remotes.Pairwise fun a b => extractQrzLogid a ≠ extractQrzLogid b
  unedited : ∀ remote ∈ remotes, ∀ row ∈ activeRows s,
    HasLogidOf remote row ∨ similar remote row = true →
      SyncStatus.tryFrom row.syncStatus ≠ some .modified
        ∧ SyncStatus.tryFrom row.syncStatus ≠ some .conflict

/-- Each logid is on exactly one active row, and no row that had one of them
before has been linked to another. -/
def Faithful (remotes : List QsoRecord) (s s' : MemoryState) : Prop :=
  (∀ remote ∈ remotes, ∃! id, ∃ row, s'.get id = some row ∧ row.deletedAt = none
      ∧ HasLogidOf remote row)
    ∧ ∀ remote ∈ remotes, ∀ id row, s.get id = some row → HasLogidOf remote row →
        ∃ row', s'.get id = some row' ∧ row'.qrzLogid = row.qrzLogid

/-- The two records claim the same row, or neither claims one and they are
similar. -/
def Collide (rows : List QsoRecord) (earlier later : QsoRecord) : Prop :=
  (∃ c ∈ matchIn rows earlier, matchIn rows later = some c)
    ∨ (matchIn rows earlier = none ∧ matchIn rows later = none ∧ similar later earlier = true)

instance (rows : List QsoRecord) (earlier later : QsoRecord) :
    Decidable (Collide rows earlier later) :=
  inferInstanceAs (Decidable ((∃ c ∈ matchIn rows earlier, _) ∨ _))

/-- A row that a record of the list may be linked to: it compares equal to
itself, its status lets it be overwritten or linked, and it has no logid of
the list yet. -/
def Linkable (remotes : List QsoRecord) (c : QsoRecord) : Prop :=
  (c == c) = true
    ∧ (SyncStatus.tryFrom c.syncStatus = some .synced
        ∨ SyncStatus.tryFrom c.syncStatus = some .localOnly)
    ∧ ∀ remote ∈ remotes, ¬ HasLogidOf remote c

instance (remotes : List QsoRecord) (c : QsoRecord) : Decidable (Linkable remotes c) :=
  inferInstanceAs (Decidable (_ ∧ _ ∧ _))

/-- The condition, on the active rows and the list. -/
structure Separable (rows remotes : List QsoRecord) : Prop where
  single : ∀ remote ∈ remotes, ∀ a ∈ rows, ∀ b ∈ rows, HasLogidOf remote a → HasLogidOf remote b →
    a.localId = b.localId
  linkable : ∀ remote ∈ remotes, ∀ c ∈ matchIn rows remote,
    HasLogidOf remote c ∨ Linkable remotes c
  apart : remotes.Pairwise fun earlier later => ¬ Collide rows earlier later
  active : ∀ remote ∈ remotes, matchIn rows remote = none → remote.deletedAt = none

/-! ### Logids -/

variable {ctx : DownloadContext} {remote other row row' c q : QsoRecord}
  {remotes rest rows rows' rows₁ ins : List QsoRecord} {s₀ s s' s₁ : MemoryState} {id : String}

theorem mem_activeRows : row ∈ activeRows s ↔ s.get row.localId = some row ∧ row.deletedAt = none := by
  rw [activeRows, partitionLocalForSync, List.mem_filter, mem_listQsos_all,
    Option.isNone_iff_eq_none]

/-- A row has one logid. -/
theorem HasLogidOf.unique (h : HasLogidOf remote row) (h' : HasLogidOf other row) :
    extractQrzLogid remote = extractQrzLogid other := by
  obtain ⟨logid, hl, hrow⟩ := h
  obtain ⟨logid', hl', hrow'⟩ := h'
  rw [hl, hl', ← hrow, ← hrow']

theorem HasLogidOf.congr (h : HasLogidOf remote row) (heq : row'.qrzLogid = row.qrzLogid) :
    HasLogidOf remote row' := by
  obtain ⟨logid, hl, hrow⟩ := h
  exact ⟨logid, hl, heq.trans hrow⟩

/-- Two records with the logid of one row have it on the same rows. -/
theorem HasLogidOf.of_eq (h : HasLogidOf remote row)
    (heq : extractQrzLogid remote = extractQrzLogid other) : HasLogidOf other row := by
  obtain ⟨logid, hl, hrow⟩ := h
  exact ⟨logid, heq ▸ hl, hrow⟩

theorem hasLogidOf_taken {own : Option String} (h : (extractQrzLogid remote).isSome)
    (hrow : row.qrzLogid = (extractQrzLogid remote).or own) : HasLogidOf remote row := by
  obtain ⟨logid, hl⟩ := Option.isSome_iff_exists.mp h
  rw [hl, Option.some_or] at hrow
  exact ⟨logid, hl, hrow⟩

theorem hasLogidOf_newRow (h : (extractQrzLogid remote).isSome) (localId : String) :
    HasLogidOf remote (newRow remote (extractQrzLogid remote) localId) :=
  hasLogidOf_taken h rfl

/-- A row with the logid of a record has its own logid changed by no merge of
that record, and a mergeable one takes it. -/
theorem hasLogidOf_mergeResult {policy : ConflictPolicy} (h : (extractQrzLogid remote).isSome)
    (hq : mergeResult policy c remote = some q)
    (hstatus : HasLogidOf remote c ∨ SyncStatus.tryFrom c.syncStatus ≠ some .modified) :
    HasLogidOf remote q := by
  rcases hstatus with hc | hstatus
  · rcases mergeResult_cases hq with rfl | rfl | rfl
    · exact hasLogidOf_taken h rfl
    · exact hasLogidOf_taken h rfl
    · exact hc
  · rw [mergeResult] at hq
    split at hq
    · cases hq
      exact hasLogidOf_taken h rfl
    · cases hq
      exact hasLogidOf_taken h rfl
    · rename_i hmod
      exact absurd hmod hstatus
    · cases hq
    · cases hq

/-- A linkable row is merged. -/
theorem Linkable.mergeResult (h : Linkable remotes c) (policy : ConflictPolicy)
    (remote : QsoRecord) : ∃ q, mergeResult policy c remote = some q := by
  rcases h.2.1 with hs | hs
  · exact ⟨_, by rw [QsoRipper.mergeResult, hs]⟩
  · exact ⟨_, by rw [QsoRipper.mergeResult, hs]⟩

/-! ### Separable lists are kept apart -/

/-- What holds before each record of a separable list. -/
structure Loading (s₀ : MemoryState) (remotes rest rows : List QsoRecord) (s : MemoryState) :
    Prop where
  grown : ∃ ins, rows = activeRows s₀ ++ ins ∧ ∀ q ∈ ins, ∀ remote ∈ rest,
    ¬ HasLogidOf remote q ∧ (matchIn (activeRows s₀) remote = none → similar remote q = false)
  target : ∀ remote ∈ rest, ∀ c, matchIn (activeRows s₀) remote = some c →
    s.get c.localId = some c
  absent : ∀ remote ∈ rest, ∀ id row, s.get id = some row → row.deletedAt = none →
    HasLogidOf remote row → ∃ row₀ ∈ activeRows s₀, row₀.localId = id ∧ HasLogidOf remote row₀
  done : ∀ remote ∈ remotes, remote ∈ rest
    ∨ ∃ id row, s.get id = some row ∧ row.deletedAt = none ∧ HasLogidOf remote row
  unique : ∀ remote ∈ remotes, ∀ id id' row row', s.get id = some row → s.get id' = some row' →
    row.deletedAt = none → row'.deletedAt = none → HasLogidOf remote row →
      HasLogidOf remote row' → id = id'
  kept : ∀ remote ∈ remotes, ∀ id row₀, s₀.get id = some row₀ → HasLogidOf remote row₀ →
    ∃ row, s.get id = some row ∧ row.qrzLogid = row₀.qrzLogid

/-- The match of the next record is its match in the rows at the start. -/
theorem Loading.matchIn_eq (h : Loading s₀ remotes (remote :: rest) rows s) :
    matchIn rows remote = matchIn (activeRows s₀) remote := by
  obtain ⟨ins, rfl, hins⟩ := h.grown
  rw [matchIn_append fun q hq => (hins q hq remote List.mem_cons_self).1]
  cases hm : matchIn (activeRows s₀) remote with
  | some c => rfl
  | none =>
      rw [Option.none_or, List.find?_eq_none]
      intro q hq hsim
      rw [(hins q hq remote List.mem_cons_self).2 hm] at hsim
      cases hsim

/-- Before the first record. -/
theorem loading_start (hsep : Separable (activeRows s₀) remotes) :
    Loading s₀ remotes remotes (activeRows s₀) s₀ where
  grown := ⟨[], (List.append_nil _).symm, fun q hq => absurd hq List.not_mem_nil⟩
  target remote _ c hm := (mem_activeRows.mp (matchIn_eq_some hm).1).1
  absent remote _ id row hrow hact hlogid := by
    have hid := localId_of_get hrow
    exact ⟨row, mem_activeRows.mpr ⟨hid ▸ hrow, hact⟩, hid, hlogid⟩
  done remote hr := .inl hr
  unique remote hr id id' row row' hrow hrow' hact hact' hl hl' := by
    have hid := localId_of_get hrow
    have hid' := localId_of_get hrow'
    rw [← hid, ← hid']
    exact hsep.single remote hr row (mem_activeRows.mpr ⟨hid ▸ hrow, hact⟩) row'
      (mem_activeRows.mpr ⟨hid' ▸ hrow', hact'⟩) hl hl'
  kept remote _ id row₀ hrow _ := ⟨row₀, hrow, rfl⟩

/-- After the last one. -/
theorem Loading.faithful (h : Loading s₀ remotes [] rows s) : Faithful remotes s₀ s := by
  refine ⟨fun remote hr => ?_, h.kept⟩
  obtain ⟨id, row, hrow, hact, hl⟩ := (h.done remote hr).resolve_left List.not_mem_nil
  refine ⟨id, ⟨row, hrow, hact, hl⟩, ?_⟩
  rintro id' ⟨row', hrow', hact', hl'⟩
  exact h.unique remote hr id' id row' row hrow' hrow hact' hact hl' hl

section Step

/-- How the next record stands to the later ones. -/
def Leads (rows : List QsoRecord) (remote : QsoRecord) (rest : List QsoRecord) : Prop :=
  ∀ later ∈ rest, extractQrzLogid remote ≠ extractQrzLogid later ∧ ¬ Collide rows remote later

variable (hdown : Downloadable ctx s₀ remotes) (hsep : Separable (activeRows s₀) remotes)
  (hmem : remote ∈ remotes) (hleads : Leads (activeRows s₀) remote rest)
  (h : Loading s₀ remotes (remote :: rest) rows s)

/-- Dropping a record that some row has by now. -/
theorem Loading.done_of (hrow : s.get id = some row) (hact : row.deletedAt = none)
    (hl : HasLogidOf remote row) (h : Loading s₀ remotes (remote :: rest) rows s) :
    ∀ r ∈ remotes, r ∈ rest
      ∨ ∃ id row, s.get id = some row ∧ row.deletedAt = none ∧ HasLogidOf r row := by
  intro r hr
  rcases h.done r hr with hr | hr
  · rcases List.mem_cons.mp hr with rfl | hr
    · exact .inr ⟨id, row, hrow, hact, hl⟩
    · exact .inl hr
  · exact .inr hr

/-- A record whose merge does not go in already has its row. -/
theorem Loading.keep (h : Loading s₀ remotes (remote :: rest) rows s)
    (hm : matchIn (activeRows s₀) remote = some c) (hl : HasLogidOf remote c) :
    Loading s₀ remotes rest rows s := by
  have hcurrent := h.target remote List.mem_cons_self c hm
  have hact := (mem_activeRows.mp (matchIn_eq_some hm).1).2
  obtain ⟨ins, hrows, hins⟩ := h.grown
  exact ⟨⟨ins, hrows, fun q hq later hlater => hins q hq later (List.mem_cons_of_mem _ hlater)⟩,
    fun later hlater => h.target later (List.mem_cons_of_mem _ hlater),
    fun later hlater => h.absent later (List.mem_cons_of_mem _ hlater),
    h.done_of hcurrent hact hl, h.unique, h.kept⟩

include hdown hsep hmem hleads h

/-- A record that is matched to nothing is inserted. -/
theorem Loading.insert {localId : String} (hm : matchIn (activeRows s₀) remote = none)
    (hfree : s.get localId = none) :
    Loading s₀ remotes rest (rows ++ [newRow remote (extractQrzLogid remote) localId])
      (s.put (newRow remote (extractQrzLogid remote) localId)) := by
  have hlogid := hasLogidOf_newRow (hdown.logids remote hmem) localId
  have hact : (newRow remote (extractQrzLogid remote) localId).deletedAt = none :=
    hsep.active remote hmem hm
  have hsim : ∀ r, similar r (newRow remote (extractQrzLogid remote) localId) = similar r remote :=
    fun r => rfl
  have hid : (newRow remote (extractQrzLogid remote) localId).localId = localId := rfl
  generalize newRow remote (extractQrzLogid remote) localId = q at hlogid hact hsim hid ⊢
  -- the other rows are the ones that were there
  have hother : ∀ {id row}, s.get id = some row → (s.put q).get id = some row := by
    intro id row hrow
    rw [get_put, if_neg, hrow]
    rintro rfl
    rw [hid, hfree] at hrow
    cases hrow
  have hcases : ∀ {id row}, (s.put q).get id = some row →
      (id = localId ∧ row = q) ∨ s.get id = some row := by
    intro id row hrow
    rw [get_put, hid] at hrow
    split at hrow
    · rename_i heq
      exact .inl ⟨heq.symm, (Option.some.inj hrow).symm⟩
    · exact .inr hrow
  -- no row had the logid of the new one
  have hnone : ∀ {id row}, s.get id = some row → row.deletedAt = none → ¬ HasLogidOf remote row := by
    intro id row hrow hact hl
    obtain ⟨row₀, hrow₀, -, hl₀⟩ := h.absent remote List.mem_cons_self id row hrow hact hl
    exact (matchIn_eq_none.mp hm row₀ hrow₀).1 hl₀
  refine ⟨?_, ?_, ?_, ?_, ?_, ?_⟩
  · obtain ⟨ins, rfl, hins⟩ := h.grown
    refine ⟨ins ++ [q], List.append_assoc _ _ _, fun q' hq' later hlater => ?_⟩
    rcases List.mem_append.mp hq' with hq' | hq'
    · exact hins q' hq' later (List.mem_cons_of_mem _ hlater)
    · rw [List.mem_singleton.mp hq']
      refine ⟨fun hl => (hleads later hlater).1 (hlogid.unique hl), fun hm' => ?_⟩
      rw [hsim]
      by_contra hsimilar
      exact (hleads later hlater).2 (.inr ⟨hm, hm', by simpa using hsimilar⟩)
  · exact fun later hlater c hc => hother (h.target later (List.mem_cons_of_mem _ hlater) c hc)
  · intro later hlater id row hrow hact' hl
    rcases hcases hrow with ⟨-, rfl⟩ | hrow
    · exact absurd (hlogid.unique hl) (hleads later hlater).1
    · exact h.absent later (List.mem_cons_of_mem _ hlater) id row hrow hact' hl
  · intro r hr
    rcases h.done r hr with hr | ⟨id, row, hrow, hact', hl⟩
    · rcases List.mem_cons.mp hr with rfl | hr
      · exact .inr ⟨localId, q, by rw [get_put, if_pos hid], hact, hlogid⟩
      · exact .inl hr
    · exact .inr ⟨id, row, hother hrow, hact', hl⟩
  · intro r hr id id' row row' hrow hrow' hact₁ hact₂ hl hl'
    rcases hcases hrow with ⟨rfl, rfl⟩ | hold
    · rcases hcases hrow' with ⟨rfl, -⟩ | hold'
      · rfl
      · exact absurd (hl'.of_eq (hl.unique hlogid)) (hnone hold' hact₂)
    · rcases hcases hrow' with ⟨rfl, rfl⟩ | hold'
      · exact absurd (hl.of_eq (hl'.unique hlogid)) (hnone hold hact₁)
      · exact h.unique r hr id id' row row' hold hold' hact₁ hact₂ hl hl'
  · intro r hr id row₀ hrow₀ hl
    obtain ⟨row, hrow, heq⟩ := h.kept r hr id row₀ hrow₀ hl
    exact ⟨row, hother hrow, heq⟩

/-- A record that is matched to a row it can be linked to is merged into it. -/
theorem Loading.merge {q : QsoRecord} (hm : matchIn (activeRows s₀) remote = some c)
    (hq : mergeResult ctx.conflictPolicy c remote = some q) :
    Loading s₀ remotes rest rows (s.put q) := by
  obtain ⟨hc, hmatch⟩ := matchIn_eq_some hm
  obtain ⟨hc₀, hact₀⟩ := mem_activeRows.mp hc
  have hcurrent := h.target remote List.mem_cons_self c hm
  obtain ⟨hid, hdel⟩ := mergeResult_frame hq
  have hact : q.deletedAt = none := hdel.trans hact₀
  have hlogid : HasLogidOf remote q := by
    refine hasLogidOf_mergeResult (hdown.logids remote hmem) hq ?_
    exact .inr (hdown.unedited remote hmem c hc (hmatch.imp_right And.left)).1
  -- a logid of the list that the row had is the one it has now
  have hsame : ∀ r ∈ remotes, HasLogidOf r c → q.qrzLogid = c.qrzLogid := by
    intro r hr hl
    have hlc : HasLogidOf remote c :=
      (hsep.linkable remote hmem c hm).resolve_right fun hlink => hlink.2.2 r hr hl
    obtain ⟨logid, hlogid', hrow⟩ := hlc
    obtain ⟨logid'', hlogid'', hrow'⟩ := hlogid
    rw [hrow', hrow, ← hlogid', hlogid'']
  have hcases : ∀ {id row}, (s.put q).get id = some row →
      (id = c.localId ∧ row = q) ∨ (id ≠ c.localId ∧ s.get id = some row) := by
    intro id row hrow
    rw [get_put, hid] at hrow
    split at hrow
    · rename_i heq
      exact .inl ⟨heq.symm, (Option.some.inj hrow).symm⟩
    · rename_i hne
      exact .inr ⟨fun heq => hne heq.symm, hrow⟩
  have hput : (s.put q).get c.localId = some q := by rw [get_put, if_pos hid]
  have hother : ∀ {id row}, id ≠ c.localId → s.get id = some row → (s.put q).get id = some row := by
    intro id row hne hrow
    rw [get_put, hid, if_neg (Ne.symm hne), hrow]
  -- no other active row has the logid
  have honly : ∀ {id row}, s.get id = some row → row.deletedAt = none → HasLogidOf remote row →
      id = c.localId := by
    intro id row hrow hact hl
    obtain ⟨row₀, hrow₀, hid₀, hl₀⟩ := h.absent remote List.mem_cons_self id row hrow hact hl
    have hlc : HasLogidOf remote c := hmatch.resolve_right fun hno => hno.2 row₀ hrow₀ hl₀
    rw [← hid₀]
    exact hsep.single remote hmem row₀ hrow₀ c hc hl₀ hlc
  refine ⟨?_, ?_, ?_, ?_, ?_, ?_⟩
  · obtain ⟨ins, hrows, hins⟩ := h.grown
    exact ⟨ins, hrows, fun q' hq' later hlater =>
      hins q' hq' later (List.mem_cons_of_mem _ hlater)⟩
  · intro later hlater c' hm'
    have hc' := h.target later (List.mem_cons_of_mem _ hlater) c' hm'
    refine hother (fun heq => ?_) hc'
    rw [heq, hcurrent] at hc'
    cases hc'
    exact (hleads later hlater).2 (.inl ⟨c, hm, hm'⟩)
  · intro later hlater id row hrow hact' hl
    rcases hcases hrow with ⟨-, rfl⟩ | ⟨-, hrow⟩
    · exact absurd (hlogid.unique hl) (hleads later hlater).1
    · exact h.absent later (List.mem_cons_of_mem _ hlater) id row hrow hact' hl
  · intro r hr
    rcases h.done r hr with hr' | ⟨id, row, hrow, hact', hl⟩
    · rcases List.mem_cons.mp hr' with rfl | hr'
      · exact .inr ⟨c.localId, q, hput, hact, hlogid⟩
      · exact .inl hr'
    · by_cases heq : id = c.localId
      · rw [heq, hcurrent] at hrow
        cases hrow
        exact .inr ⟨c.localId, q, hput, hact, hl.congr (hsame r hr hl)⟩
      · exact .inr ⟨id, row, hother heq hrow, hact', hl⟩
  · intro r hr id id' row row' hrow hrow' hact₁ hact₂ hl hl'
    rcases hcases hrow with ⟨rfl, rfl⟩ | ⟨-, hold⟩
    · rcases hcases hrow' with ⟨rfl, -⟩ | ⟨-, hold'⟩
      · rfl
      · exact (honly hold' hact₂ (hl'.of_eq (hl.unique hlogid))).symm
    · rcases hcases hrow' with ⟨rfl, rfl⟩ | ⟨-, hold'⟩
      · exact honly hold hact₁ (hl.of_eq (hl'.unique hlogid))
      · exact h.unique r hr id id' row row' hold hold' hact₁ hact₂ hl hl'
  · intro r hr id row₀ hrow₀ hl
    obtain ⟨row, hrow, heq⟩ := h.kept r hr id row₀ hrow₀ hl
    by_cases hidc : id = c.localId
    · rw [hidc, hc₀] at hrow₀
      cases hrow₀
      exact ⟨q, hidc ▸ hput, hsame r hr hl⟩
    · exact ⟨row, hother hidc hrow, heq⟩

/-- **One record of a separable list.** -/
theorem Loading.step (hstep : DownloadStep ctx remote rows s rows' s') :
    Loading s₀ remotes rest rows' s' := by
  have hmatch := h.matchIn_eq
  cases hstep with
  | ignore hign => exact absurd hign (hdown.taken remote hmem)
  | insert _ hm hfree =>
      rw [hmatch] at hm
      exact h.insert hdown hsep hmem hleads hm hfree
  | merge _ hm hq =>
      rw [hmatch] at hm
      have hcurrent := h.target remote List.mem_cons_self _ hm
      exact h.merge hdown hsep hmem hleads hm hq
  | @keep c _ hm hno =>
      rw [hmatch] at hm
      refine h.keep hm ?_
      by_contra hl
      have hlink := (hsep.linkable remote hmem c hm).resolve_left hl
      obtain ⟨q, hq⟩ := hlink.mergeResult ctx.conflictPolicy remote
      have hne := hno q hq c (h.target remote List.mem_cons_self c hm)
      rw [hlink.1] at hne
      cases hne

end Step

/-- Along a separable list. -/
theorem Downloads.faithful (hdown : Downloadable ctx s₀ remotes)
    (hsep : Separable (activeRows s₀) remotes)
    (h : Downloads ctx remotes (activeRows s₀) s₀ rows' s') : Faithful remotes s₀ s' := by
  have hrun : ∀ {rest rows s rows' s'}, Downloads ctx rest rows s rows' s' →
      (∀ r ∈ rest, r ∈ remotes) → rest.Pairwise (fun a b => extractQrzLogid a ≠ extractQrzLogid b) →
      rest.Pairwise (fun a b => ¬ Collide (activeRows s₀) a b) →
      Loading s₀ remotes rest rows s → Loading s₀ remotes [] rows' s' := by
    intro rest rows s rows' s' h
    induction h with
    | nil => exact fun _ _ _ hload => hload
    | cons hstep _ ih =>
        intro hsub hdist hapart hload
        obtain ⟨hmem, hsub⟩ := List.forall_mem_cons.mp hsub
        obtain ⟨hd, hdist⟩ := List.pairwise_cons.mp hdist
        obtain ⟨ha, hapart⟩ := List.pairwise_cons.mp hapart
        have hleads : Leads (activeRows s₀) _ _ := fun later hl => ⟨hd later hl, ha later hl⟩
        exact ih hsub hdist hapart (hload.step hdown hsep hmem hleads hstep)
  exact (hrun h (fun r hr => hr) hdown.distinct hsep.apart (loading_start hsep)).faithful

/-! ### Lists that are kept apart are separable -/

/-- What put a record into a row: its insert, or a merge into the row. -/
theorem DownloadStep.wrote {row₂ : QsoRecord} (h : DownloadStep ctx remote rows s rows' s')
    (h₂ : s'.get id = some row₂) (h₁ : s.get id ≠ some row₂) :
    (matchIn rows remote = none ∧ rows' = rows ++ [newRow remote (extractQrzLogid remote) id]
        ∧ s'.get id = some (newRow remote (extractQrzLogid remote) id))
      ∨ ∃ c q current, matchIn rows remote = some c
          ∧ mergeResult ctx.conflictPolicy c remote = some q ∧ (current == c) = true
          ∧ c.localId = id := by
  cases h with
  | ignore => exact absurd h₂ h₁
  | keep => exact absurd h₂ h₁
  | @insert localId _ hm _ =>
      rw [get_put] at h₂
      split at h₂
      · rename_i hid
        obtain rfl : localId = id := hid
        exact .inl ⟨hm, rfl, (get_put _ _ _).trans (if_pos rfl)⟩
      · exact absurd h₂ h₁
  | @merge c current q _ hm hq _ heq =>
      rw [get_put] at h₂
      split at h₂
      · rename_i hid
        exact .inr ⟨c, q, current, hm, hq, heq, (mergeResult_frame hq).1.symm.trans hid⟩
      · exact absurd h₂ h₁

/-- A logid on a row was there before, or is the record's. -/
theorem DownloadStep.origin (h : DownloadStep ctx remote rows s rows' s')
    (hsome : (extractQrzLogid remote).isSome) (hrow : s'.get id = some row') :
    (∃ row, s.get id = some row ∧ row.qrzLogid = row'.qrzLogid) ∨ HasLogidOf remote row' := by
  cases h with
  | ignore => exact .inl ⟨row', hrow, rfl⟩
  | keep => exact .inl ⟨row', hrow, rfl⟩
  | @insert localId =>
      rw [get_put] at hrow
      split at hrow
      · cases hrow
        exact .inr (hasLogidOf_newRow hsome localId)
      · exact .inl ⟨row', hrow, rfl⟩
  | @merge c current q _ _ hq hcurrent heq =>
      rw [get_put] at hrow
      split at hrow
      · rename_i hid
        cases hrow
        rcases mergeResult_cases hq with rfl | rfl | rfl
        · exact .inr (hasLogidOf_taken hsome rfl)
        · exact .inr (hasLogidOf_taken hsome rfl)
        · have hlogid := qrzLogid_of_beq heq
          exact .inl ⟨current, hid ▸ hcurrent, hlogid⟩
      · exact .inl ⟨row', hrow, rfl⟩

theorem Downloads.origin (h : Downloads ctx remotes rows s rows' s')
    (hsome : ∀ remote ∈ remotes, (extractQrzLogid remote).isSome) (hrow : s'.get id = some row') :
    (∃ row, s.get id = some row ∧ row.qrzLogid = row'.qrzLogid)
      ∨ ∃ remote ∈ remotes, HasLogidOf remote row' := by
  induction h with
  | nil => exact .inl ⟨row', hrow, rfl⟩
  | cons hstep _ ih =>
      obtain ⟨hr, hrest⟩ := List.forall_mem_cons.mp hsome
      rcases ih hrest hrow with ⟨row₁, hrow₁, heq⟩ | ⟨remote, hmem, hl⟩
      · rcases hstep.origin hr hrow₁ with ⟨row, hrow, heq'⟩ | hl
        · exact .inl ⟨row, hrow, heq'.trans heq⟩
        · exact .inr ⟨_, List.mem_cons_self, hl.congr heq.symm⟩
      · exact .inr ⟨remote, List.mem_cons_of_mem _ hmem, hl⟩

/-- The rows that were inserted have the logids of the list. -/
theorem Downloads.grown (h : Downloads ctx remotes rows s rows' s')
    (hsome : ∀ remote ∈ remotes, (extractQrzLogid remote).isSome) :
    ∃ ins, rows' = rows ++ ins ∧ ∀ q ∈ ins, ∃ remote ∈ remotes, HasLogidOf remote q := by
  induction h with
  | nil => exact ⟨[], (List.append_nil _).symm, fun q hq => absurd hq List.not_mem_nil⟩
  | @cons remote rest _ _ _ _ _ _ hstep _ ih =>
      obtain ⟨hr, hrest⟩ := List.forall_mem_cons.mp hsome
      obtain ⟨ins, hrows, hins⟩ := ih hrest
      have hins' : ∀ q ∈ ins, ∃ r ∈ remote :: rest, HasLogidOf r q := fun q hq =>
        (hins q hq).imp fun r hr => ⟨List.mem_cons_of_mem _ hr.1, hr.2⟩
      cases hstep with
      | ignore => exact ⟨ins, hrows, hins'⟩
      | keep => exact ⟨ins, hrows, hins'⟩
      | merge => exact ⟨ins, hrows, hins'⟩
      | @insert localId =>
          refine ⟨_ :: ins, by rw [hrows, List.append_assoc, List.singleton_append], ?_⟩
          intro q hq
          rcases List.mem_cons.mp hq with rfl | hq
          · exact ⟨remote, List.mem_cons_self, hasLogidOf_newRow hr localId⟩
          · exact hins' q hq

/-- The turn of a record in a run. -/
structure Turn (ctx : DownloadContext) (remotes : List QsoRecord) (s₀ s' : MemoryState)
    (pre : List QsoRecord) (remote : QsoRecord) (rows₁ : List QsoRecord) (s₁ : MemoryState)
    (rows₂ : List QsoRecord) (s₂ : MemoryState) : Prop where
  before : Downloads ctx pre (activeRows s₀) s₀ rows₁ s₁
  step : DownloadStep ctx remote rows₁ s₁ rows₂ s₂
  after : ∃ post rows', remotes = pre ++ remote :: post ∧ Downloads ctx post rows₂ s₂ rows' s'

/-- Every record has its turn. -/
theorem Downloads.turn {pre post : List QsoRecord}
    (h : Downloads ctx (pre ++ remote :: post) (activeRows s₀) s₀ rows' s') :
    ∃ rows₁ s₁ rows₂ s₂, Turn ctx (pre ++ remote :: post) s₀ s' pre remote rows₁ s₁ rows₂ s₂ := by
  obtain ⟨rows₁, s₁, hpre, hrest⟩ := h.split
  cases hrest with
  | @cons _ _ _ rows₂ _ _ s₂ _ hstep hpost =>
      exact ⟨rows₁, s₁, rows₂, s₂, hpre, hstep, post, rows', rfl, hpost⟩

section Converse

variable {pre : List QsoRecord} {rows₂ : List QsoRecord} {s₂ : MemoryState}

/-- The record differs from all others in its logid. -/
theorem Turn.distinct (hdown : Downloadable ctx s₀ remotes)
    (h : Turn ctx remotes s₀ s' pre remote rows₁ s₁ rows₂ s₂) :
    remote ∈ remotes ∧ (∀ r ∈ pre, r ∈ remotes ∧ extractQrzLogid r ≠ extractQrzLogid remote) := by
  obtain ⟨post, _, rfl, -⟩ := h.after
  have hd := (List.pairwise_append.mp hdown.distinct).2.2
  refine ⟨List.mem_append_right _ List.mem_cons_self, fun r hr => ?_⟩
  exact ⟨List.mem_append_left _ hr, hd r hr remote List.mem_cons_self⟩

/-- **Where a new logid lands.**  When no active row had the logid of a record,
the row that has it in the end was written at the record's turn. -/
theorem Turn.lands (hdown : Downloadable ctx s₀ remotes) (hfaith : Faithful remotes s₀ s')
    (h : Turn ctx remotes s₀ s' pre remote rows₁ s₁ rows₂ s₂)
    (hnew : ∀ row ∈ activeRows s₀, ¬ HasLogidOf remote row) :
    ∃ id row, s'.get id = some row ∧ row.deletedAt = none ∧ HasLogidOf remote row
      ∧ ∃ row₂, s₂.get id = some row₂ ∧ s₁.get id ≠ some row₂ := by
  obtain ⟨hmem, hpre⟩ := h.distinct hdown
  obtain ⟨post, rows', hsplit, hafter⟩ := h.after
  obtain ⟨id, ⟨row, hrow, hact, hl⟩, -⟩ := hfaith.1 remote hmem
  refine ⟨id, row, hrow, hact, hl, ?_⟩
  have hpost : ∀ r ∈ post, (extractQrzLogid r).isSome ∧ extractQrzLogid remote ≠ extractQrzLogid r := by
    intro r hr
    have hd := (List.pairwise_append.mp (hsplit ▸ hdown.distinct)).2.1
    refine ⟨hdown.logids r ?_, (List.pairwise_cons.mp hd).1 r hr⟩
    rw [hsplit]
    exact List.mem_append_right _ (List.mem_cons_of_mem _ hr)
  rcases hafter.origin (fun r hr => (hpost r hr).1) hrow with ⟨row₂, hrow₂, heq₂⟩ | ⟨r, hr, hl'⟩
  · refine ⟨row₂, hrow₂, fun hrow₁ => ?_⟩
    -- it was there before the turn, so it was there at the start
    rcases h.before.origin (fun r hr => hdown.logids r (hpre r hr).1) hrow₁ with
      ⟨row₀, hrow₀, heq₀⟩ | ⟨r, hr, hl'⟩
    · obtain ⟨row₁', hrow₁', hdel₁⟩ := h.before.kept hrow₀
      obtain ⟨row₂', hrow₂', hdel₂⟩ := h.step.kept hrow₁'
      obtain ⟨row', hrow', hdel'⟩ := hafter.kept hrow₂'
      rw [hrow] at hrow'
      cases hrow'
      have hid := localId_of_get hrow₀
      refine hnew row₀ (mem_activeRows.mpr ⟨hid ▸ hrow₀, ?_⟩) (hl.congr (heq₀.trans heq₂))
      rw [← hdel₁, ← hdel₂, ← hdel', hact]
    · exact (hpre r hr).2 (hl'.unique (hl.congr heq₂))
  · exact absurd (hl.unique hl') (hpost r hr).2

/-- At its turn a record is matched in the rows at the start, and after them
in the rows inserted before it, none of which has its logid. -/
theorem Turn.matchIn_eq (hdown : Downloadable ctx s₀ remotes)
    (h : Turn ctx remotes s₀ s' pre remote rows₁ s₁ rows₂ s₂) :
    ∃ ins, rows₁ = activeRows s₀ ++ ins ∧ (∀ q ∈ ins, ¬ HasLogidOf remote q)
      ∧ matchIn rows₁ remote
        = (matchIn (activeRows s₀) remote).or (ins.find? (similar remote)) := by
  obtain ⟨-, hpre⟩ := h.distinct hdown
  obtain ⟨ins, rfl, hins⟩ := h.before.grown fun r hr => hdown.logids r (hpre r hr).1
  have hnot : ∀ q ∈ ins, ¬ HasLogidOf remote q := by
    intro q hq hl
    obtain ⟨r, hr, hl'⟩ := hins q hq
    exact (hpre r hr).2 (hl'.unique hl)
  exact ⟨ins, rfl, hnot, matchIn_append hnot⟩

/-- A record that claims a row without its logid ends up on that row, and the
row could be linked to it. -/
theorem Turn.claims (hdown : Downloadable ctx s₀ remotes) (hfaith : Faithful remotes s₀ s')
    (h : Turn ctx remotes s₀ s' pre remote rows₁ s₁ rows₂ s₂)
    (hm : matchIn (activeRows s₀) remote = some c) (hl : ¬ HasLogidOf remote c) :
    (∃ row, s'.get c.localId = some row ∧ HasLogidOf remote row) ∧ (c == c) = true
      ∧ ∃ q, mergeResult ctx.conflictPolicy c remote = some q := by
  have hnew := ((matchIn_eq_some hm).2.resolve_left hl).2
  obtain ⟨id, row, hrow, -, hl', row₂, hrow₂, hne⟩ := h.lands hdown hfaith hnew
  obtain ⟨ins, -, -, hmatch⟩ := h.matchIn_eq hdown
  rw [hm, Option.some_or] at hmatch
  rcases h.step.wrote hrow₂ hne with ⟨hnone, -⟩ | ⟨c', q, current, hm', hq, heq, rfl⟩
  · rw [hmatch] at hnone
    cases hnone
  · rw [hmatch] at hm'
    cases hm'
    exact ⟨⟨row, hrow, hl'⟩, PartialEquivBEq.trans (PartialEquivBEq.symm heq) heq, q, hq⟩

/-- A record that claims nothing is inserted, and stays on its new row. -/
theorem Turn.inserts (hdown : Downloadable ctx s₀ remotes) (hfaith : Faithful remotes s₀ s')
    (h : Turn ctx remotes s₀ s' pre remote rows₁ s₁ rows₂ s₂)
    (hm : matchIn (activeRows s₀) remote = none) :
    ∃ id row, s'.get id = some row ∧ row.deletedAt = none ∧ HasLogidOf remote row
      ∧ matchIn rows₁ remote = none
      ∧ rows₂ = rows₁ ++ [newRow remote (extractQrzLogid remote) id]
      ∧ s₂.get id = some (newRow remote (extractQrzLogid remote) id) := by
  have hnew := fun row hrow => (matchIn_eq_none.mp hm row hrow).1
  obtain ⟨id, row, hrow, hact, hl, row₂, hrow₂, hne⟩ := h.lands hdown hfaith hnew
  refine ⟨id, row, hrow, hact, hl, ?_⟩
  rcases h.step.wrote hrow₂ hne with hins | ⟨c, q, current, hm', -, -, rfl⟩
  · exact hins
  exfalso
  -- a row inserted by an earlier record, whose logid it would have lost
  obtain ⟨ins, hrows, hnot, hmatch⟩ := h.matchIn_eq hdown
  rw [hm, Option.none_or, hm'] at hmatch
  have hc : c ∉ activeRows s₀ := by
    intro hc
    have hsim := List.find?_some hmatch.symm
    rw [(matchIn_eq_none.mp hm c hc).2] at hsim
    cases hsim
  have hcrows : c ∈ rows₁ := (matchIn_eq_some hm').1
  obtain ⟨u, r, v, rows₃, s₃, localId, hsplit, hu, hnone, hfree, hcrow, hv⟩ :=
    h.before.inserted hcrows hc
  obtain ⟨-, hpre⟩ := h.distinct hdown
  obtain ⟨hr, hdist⟩ := hpre r (by rw [hsplit]; exact List.mem_append_right _ List.mem_cons_self)
  have hturn : Turn ctx remotes s₀ s' u r rows₃ s₃ (rows₃ ++ [c]) (s₃.put c) := by
    obtain ⟨post, rows', hrem, hafter⟩ := h.after
    refine ⟨hu, hcrow ▸ .insert (hdown.taken r hr) hnone hfree, v ++ remote :: post, rows', ?_, ?_⟩
    · rw [hrem, hsplit, List.append_assoc, List.cons_append]
    · exact hv.append (.cons h.step hafter)
  have hstart : ∀ row ∈ activeRows s₀, ¬ HasLogidOf r row := fun row hrow =>
    (matchIn_eq_none.mp hnone row (hu.prefix_rows.subset hrow)).1
  obtain ⟨id', row', hrow', -, hl', row₃, hrow₃, hne'⟩ := hturn.lands hdown hfaith hstart
  have hid : c.localId = id' := by
    rw [get_put] at hrow₃
    by_contra hid
    rw [if_neg hid] at hrow₃
    exact hne' hrow₃
  rw [← hid, hrow] at hrow'
  cases hrow'
  exact hdist (hl'.unique hl)

/-- **A list that is kept apart is separable.** -/
theorem Downloads.separable (hdown : Downloadable ctx s₀ remotes)
    (hfaith : Faithful remotes s₀ s') (h : Downloads ctx remotes (activeRows s₀) s₀ rows' s') :
    Separable (activeRows s₀) remotes := by
  have hturn : ∀ r ∈ remotes, ∃ pre rows₁ s₁ rows₂ s₂,
      Turn ctx remotes s₀ s' pre r rows₁ s₁ rows₂ s₂ := by
    intro r hr
    obtain ⟨pre, post, rfl⟩ := List.append_of_mem hr
    exact ⟨pre, h.turn⟩
  have hlinkable : ∀ remote ∈ remotes, ∀ c ∈ matchIn (activeRows s₀) remote,
      HasLogidOf remote c ∨ Linkable remotes c := by
    intro r hr c hm
    by_cases hl : HasLogidOf r c
    · exact .inl hl
    obtain ⟨hc, hmatch⟩ := matchIn_eq_some hm
    obtain ⟨pre, rows₁, s₁, rows₂, s₂, ht⟩ := hturn r hr
    obtain ⟨⟨row, hrow, hlrow⟩, hself, q, hq⟩ := ht.claims hdown hfaith hm hl
    refine .inr ⟨hself, ?_, fun r' hr' hl' => ?_⟩
    · have hnot := hdown.unedited r hr c hc (hmatch.imp_right And.left)
      rw [mergeResult] at hq
      split at hq
      · rename_i hs
        exact .inl hs
      · rename_i hs
        exact .inr hs
      · rename_i hs
        exact absurd hs hnot.1
      · cases hq
      · cases hq
    · obtain ⟨row', hrow', heq⟩ := hfaith.2 r' hr' _ c (mem_activeRows.mp hc).1 hl'
      rw [hrow] at hrow'
      cases hrow'
      exact hl (hlrow.congr heq.symm)
  refine ⟨?_, hlinkable, ?_, ?_⟩
  · -- both rows keep the logid, and one row has it in the end
    intro r hr a ha b hb hla hlb
    obtain ⟨ha₀, hact⟩ := mem_activeRows.mp ha
    obtain ⟨hb₀, hbct⟩ := mem_activeRows.mp hb
    obtain ⟨row, hrow, hlrow⟩ := hfaith.2 r hr _ a ha₀ hla
    obtain ⟨row', hrow', hlrow'⟩ := hfaith.2 r hr _ b hb₀ hlb
    obtain ⟨_, hk, hdel⟩ := h.kept ha₀
    obtain ⟨_, hk', hdel'⟩ := h.kept hb₀
    rw [hrow] at hk
    rw [hrow'] at hk'
    cases hk
    cases hk'
    exact (hfaith.1 r hr).unique ⟨row, hrow, hdel.trans hact, hla.congr hlrow⟩
      ⟨row', hrow', hdel'.trans hbct, hlb.congr hlrow'⟩
  · rw [List.pairwise_iff_forall_sublist]
    intro a b hsub hcollide
    obtain ⟨r₁, r₂, hsplit, ha, hb⟩ := List.cons_sublist_iff.mp hsub
    obtain ⟨u, v, rfl⟩ := List.append_of_mem ha
    obtain ⟨x, y, rfl⟩ := List.append_of_mem (List.singleton_sublist.mp hb)
    have hb_split : remotes = (u ++ a :: (v ++ x)) ++ b :: y := by simp [hsplit]
    have ha_split : remotes = u ++ a :: (v ++ x ++ b :: y) := by simp [hsplit]
    have hrun := h
    rw [hb_split] at hrun
    obtain ⟨rows₁, s₁, rows₂, s₂, hb⟩ := hrun.turn
    rw [← hb_split] at hb
    obtain ⟨rows₃, s₃, hu, hrest⟩ := hb.before.split
    cases hrest with
    | @cons _ _ _ rows₄ _ _ s₄ _ hstep hvx =>
    have hta : Turn ctx remotes s₀ s' u a rows₃ s₃ rows₄ s₄ := by
      obtain ⟨post, rows', hrem, hafter⟩ := hb.after
      refine ⟨hu, hstep, v ++ x ++ b :: y, rows', ha_split, hvx.append (.cons hb.step ?_)⟩
      rw [hb_split, List.append_cancel_left_eq, List.cons.injEq] at hrem
      rw [hrem.2]
      exact hafter
    obtain ⟨hbmem, hbpre⟩ := hb.distinct hdown
    obtain ⟨hamem, hdist⟩ := hbpre a (List.mem_append_right _ List.mem_cons_self)
    rcases hcollide with ⟨c, hma, hmb⟩ | ⟨hma, hmb, hsim⟩
    · -- they claim one row, and only one of them can end up on it
      have hla : ¬ HasLogidOf a c := by
        intro hla
        rcases hlinkable b hbmem c hmb with hlb | hlink
        · exact hdist (hla.unique hlb)
        · exact hlink.2.2 a hamem hla
      have hlb : ¬ HasLogidOf b c := by
        intro hlb
        rcases hlinkable a hamem c hma with hla | hlink
        · exact hdist (hla.unique hlb)
        · exact hlink.2.2 b hbmem hlb
      obtain ⟨⟨row, hrow, hl⟩, -⟩ := hta.claims hdown hfaith hma hla
      obtain ⟨⟨row', hrow', hl'⟩, -⟩ := hb.claims hdown hfaith hmb hlb
      rw [hrow] at hrow'
      cases hrow'
      exact hdist (hl.unique hl')
    · -- the later one finds the row the earlier one was inserted as
      obtain ⟨id, row, -, -, -, -, hrows₄, -⟩ := hta.inserts hdown hfaith hma
      obtain ⟨id', row', -, -, -, hnone, -, -⟩ := hb.inserts hdown hfaith hmb
      have hq : newRow a (extractQrzLogid a) id ∈ rows₁ := by
        refine hvx.prefix_rows.subset ?_
        rw [hrows₄]
        exact List.mem_append_right _ (List.mem_singleton_self _)
      have hnot := (matchIn_eq_none.mp hnone _ hq).2
      rw [show similar b (newRow a (extractQrzLogid a) id) = similar b a from rfl, hsim] at hnot
      cases hnot
  · intro r hr hm
    obtain ⟨pre, rows₁, s₁, rows₂, s₂, ht⟩ := hturn r hr
    obtain ⟨id, row, hrow, hact, -, -, -, hnew⟩ := ht.inserts hdown hfaith hm
    obtain ⟨post, rows', -, hafter⟩ := ht.after
    obtain ⟨row', hrow', hdel⟩ := hafter.kept hnew
    rw [hrow] at hrow'
    cases hrow'
    exact hdel.symm.trans hact

end Converse

/-! ### The download loop -/

/-- **When a download keeps remote contacts apart.**  For a list as described
above and a run in which the store rejects nothing, the loop is faithful if
and only if the list is separable from the active rows. -/
theorem processRemoteQsos_faithful_iff {ε : Type} {env : Environment ε} {ctx : DownloadContext}
    {remotes : List QsoRecord} {counters : SyncCounters} {w : World ε}
    (hdown : Downloadable ctx w.1 remotes)
    (hok : ∀ m ∈ (processRemoteQsos ctx remotes
      { indexes := buildLocalIndexes (activeRows w.1), counters }).trace (handle env) w,
      isStorageError m.2 = false) :
    Faithful remotes w.1 ((processRemoteQsos ctx remotes
        { indexes := buildLocalIndexes (activeRows w.1), counters }).run (handle env) w).2.1
      ↔ Separable (activeRows w.1) remotes := by
  obtain ⟨rows', -, hrun⟩ := processRemoteQsos_downloads rfl hok
  exact ⟨fun hfaith => hrun.separable hdown hfaith, fun hsep => hrun.faithful hdown hsep⟩

/-! ### Two lists -/

/-- A contact with one station on one band, `seconds` into the epoch. -/
def contactAt (localId : String) (logid : Option String) (seconds : ℤ) : QsoRecord :=
  { localId, stationCallsign := "K7RND", workedCallsign := "W1AW", band := 9, mode := 7,
    utcTimestamp := some ⟨seconds, 0⟩, qrzLogid := logid }

/-- Nothing deleted, nothing freshly uploaded. -/
def plainContext : DownloadContext := ⟨∅, ∅, .flagForReview⟩

/-- The loop at its start. -/
def downloadFrom (remotes : List QsoRecord) (s : MemoryState) : Program DownloadState :=
  processRemoteQsos plainContext remotes
    { indexes := buildLocalIndexes (activeRows s), counters := {} }

/-- Two contacts with one station half a minute apart. -/
def halfMinuteApart : List QsoRecord := [contactAt "r1" (some "1") 0, contactAt "r2" (some "2") 30]

/-- The second of two close contacts takes over the row of the first. -/
theorem processRemoteQsos_merges_contacts :
    Downloadable plainContext empty halfMinuteApart
      ∧ (∀ m ∈ (downloadFrom halfMinuteApart empty).trace (handle quietRemote) (empty, ()),
          isStorageError m.2 = false)
      ∧ ¬ Faithful halfMinuteApart empty
          ((downloadFrom halfMinuteApart empty).run (handle quietRemote) (empty, ())).2.1 := by
  refine ⟨⟨by decide +kernel, by decide +kernel, by decide +kernel, by decide +kernel⟩,
    by decide +kernel, fun hfaith => ?_⟩
  have hlost : ∀ row ∈ ((downloadFrom halfMinuteApart empty).run (handle quietRemote)
      (empty, ())).2.1.rows, ¬ HasLogidOf (contactAt "r1" (some "1") 0) row := by
    decide +kernel
  obtain ⟨id, ⟨row, hrow, -, hl⟩, -⟩ := hfaith.1 _ List.mem_cons_self
  exact hlost row (mem_rows.mpr ((localId_of_get hrow).symm ▸ hrow)) hl

/-- A contact to link and a contact to insert. -/
def minutesApart : List QsoRecord := [contactAt "r1" (some "1") 0, contactAt "r2" (some "2") 300]

/-- A store with the contact to link. -/
def linkStore : MemoryState := empty.put (contactAt "a" none 30)

/-- They are kept apart. -/
theorem processRemoteQsos_links_and_inserts :
    Faithful minutesApart linkStore
      ((downloadFrom minutesApart linkStore).run (handle quietRemote) (linkStore, ())).2.1 := by
  have hdown : Downloadable plainContext linkStore minutesApart :=
    ⟨by decide +kernel, by decide +kernel, by decide +kernel, by decide +kernel⟩
  have hok : ∀ m ∈ (downloadFrom minutesApart linkStore).trace (handle quietRemote) (linkStore, ()),
      isStorageError m.2 = false := by
    decide +kernel
  refine (processRemoteQsos_faithful_iff (w := (linkStore, ())) hdown hok).mpr ?_
  exact ⟨by decide +kernel, by decide +kernel, by decide +kernel, by decide +kernel⟩

end QsoRipper
