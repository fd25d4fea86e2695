/-
QsoRipper/Setup/Catalog.lean

The station profile catalog over sequences of calls.  A request's id is normalised
before it is compared, and a stored id is not, so the catalog stays consistent only
if the active id that was loaded is the id that its entry is found under.
-/
import QsoRipper.Lib.Transition
import QsoRipper.Setup.Document

namespace QsoRipper.Setup

open Interaction

/-! ### Generated ids are normalised -/

/-- No dash stands at either end. -/
def Undashed (cs : List Char) : Prop := cs.head? ≠ some '-' ∧ cs.getLast? ≠ some '-'

theorem dropWhile_eq_self {cs : List Char} :
    cs.dropWhile (· == '-') = cs ↔ cs.head? ≠ some '-' := by
  rw [List.dropWhile_eq_self_iff]
  cases cs <;> simp

theorem rdropWhile_eq_self {cs : List Char} :
    cs.rdropWhile (· == '-') = cs ↔ cs.getLast? ≠ some '-' := by
  rw [List.rdropWhile_eq_self_iff]
  rcases cs.eq_nil_or_concat with rfl | ⟨front, last, rfl⟩ <;> simp

theorem trimDashes_of_undashed {cs : List Char} (h : Undashed cs) : trimDashes cs = cs := by
  rw [trimDashes, Text.trimList, dropWhile_eq_self.mpr h.1, rdropWhile_eq_self.mpr h.2]

theorem undashed_trimDashes (cs : List Char) : Undashed (trimDashes cs) := by
  refine ⟨dropWhile_eq_self.mp ?_, rdropWhile_eq_self.mp ?_⟩
  · exact Text.dropWhile_eq_self_of_prefix (Text.dropWhile_idem cs)
      (List.rdropWhile_prefix (· == '-') _)
  · exact List.rdropWhile_idempotent _ _

theorem normalizeProfileId_of_grouped {id : String} (hgrouped : Grouped false id.toList)
    (hends : Undashed id.toList) : normalizeProfileId id = id := by
  have hlower : id.toList.flatMap lowerIdChar = id.toList :=
    Text.flatMap_eq_self fun c hc => lowerIdChar_eq (hgrouped.mem c hc)
  rw [normalizeProfileId, hlower, separate_of_grouped hgrouped, trimDashes_of_undashed hends,
    String.ofList_toList]

theorem grouped_of_normalized {id : String} (h : normalizeProfileId id = id) :
    Grouped false id.toList ∧ Undashed id.toList := by
  rw [← h, normalizeProfileId, String.toList_ofList]
  exact ⟨(separate_grouped false _).trimDashes, undashed_trimDashes _⟩

/-- A group may follow groups that end without a dash. -/
theorem Grouped.append_dash {b : Bool} {cs ds : List Char} (hcs : Grouped b cs) (hne : cs ≠ [])
    (hlast : cs.getLast? ≠ some '-') (hds : Grouped true ds) : Grouped b (cs ++ '-' :: ds) := by
  induction cs generalizing b with
  | nil => exact absurd rfl hne
  | cons c cs ih =>
      rcases cs with - | ⟨d, cs⟩
      · rcases hcs with ⟨hid, -⟩ | ⟨rfl, -, -⟩
        · exact .inl ⟨hid, .inr ⟨rfl, rfl, hds⟩⟩
        · exact absurd rfl hlast
      · rw [List.getLast?_cons_cons] at hlast
        rcases hcs with ⟨hid, hrest⟩ | ⟨rfl, rfl, hrest⟩
        · exact .inl ⟨hid, ih hrest (List.cons_ne_nil _ _) hlast⟩
        · exact .inr ⟨rfl, rfl, ih hrest (List.cons_ne_nil _ _) hlast⟩

theorem grouped_of_isIdChar {b : Bool} {cs : List Char} (h : ∀ c ∈ cs, isIdChar c = true) :
    Grouped b cs := by
  induction cs generalizing b with
  | nil => trivial
  | cons c cs ih =>
      obtain ⟨hc, hcs⟩ := List.forall_mem_cons.mp h
      exact .inl ⟨hc, ih hcs⟩

theorem isIdChar_of_isDigit {c : Char} (h : c.isDigit = true) : isIdChar c = true := by
  simp only [Char.isDigit, Bool.and_eq_true, decide_eq_true_eq] at h
  have hrange : '0'.toNat ≤ c.toNat ∧ c.toNat ≤ '9'.toNat :=
    ⟨UInt32.le_iff_toNat_le.mp h.1, UInt32.le_iff_toNat_le.mp h.2⟩
  rw [isIdChar, decide_eq_true hrange, Bool.or_true]

/-- A number after an id makes an id. -/
theorem normalizeProfileId_numbered {original : String} (hne : original ≠ "")
    (h : normalizeProfileId original = original) (suffix : ℕ) :
    normalizeProfileId (numbered original suffix) = numbered original suffix := by
  obtain ⟨hgrouped, hhead, hlast⟩ := grouped_of_normalized h
  have hlist : (numbered original suffix).toList
      = original.toList ++ '-' :: Nat.toDigits 10 suffix := by
    rw [numbered, String.toList_append, String.toList_append]
    show original.toList ++ ['-'] ++ (Nat.repr suffix).toList = _
    rw [Nat.toList_repr, List.append_assoc]
    rfl
  have hdigits : ∀ c ∈ Nat.toDigits 10 suffix, isIdChar c = true := fun c hc =>
    isIdChar_of_isDigit (Nat.isDigit_of_mem_toDigits (by decide) (by decide) hc)
  have hnil : original.toList ≠ [] := fun hnil => hne (String.toList_eq_nil_iff.mp hnil)
  have hends : Undashed (original.toList ++ '-' :: Nat.toDigits 10 suffix) := by
    refine ⟨?_, ?_⟩
    · rw [List.head?_append_of_ne_nil _ hnil]
      exact hhead
    · rw [List.getLast?_append_cons, List.getLast?_cons_of_ne_nil Nat.toDigits_ne_nil]
      intro hdash
      have hmem := List.mem_of_getLast? hdash
      exact absurd (hdigits '-' hmem) (by decide)
  refine normalizeProfileId_of_grouped ?_ ?_ <;> rw [hlist]
  · exact hgrouped.append_dash hnil hlast (grouped_of_isIdChar hdigits)
  · exact hends

theorem numbered_ne_empty (original : String) (suffix : ℕ) : numbered original suffix ≠ "" := by
  intro h
  have hnil := congrArg String.toList h
  rw [numbered, String.toList_append, String.toList_append] at hnil
  exact absurd (List.append_eq_nil_iff.mp (List.append_eq_nil_iff.mp hnil).1).2 (by decide)

theorem firstFree_normalized {original : String} (hne : original ≠ "")
    (h : normalizeProfileId original = original) (existingIds : List String) (rounds suffix : ℕ) :
    firstFree existingIds original rounds suffix ≠ ""
      ∧ normalizeProfileId (firstFree existingIds original rounds suffix)
        = firstFree existingIds original rounds suffix := by
  induction rounds generalizing suffix with
  | zero => exact ⟨numbered_ne_empty _ _, normalizeProfileId_numbered hne h suffix⟩
  | succ rounds ih =>
      rw [firstFree]
      split_ifs
      · exact ih (suffix + 1)
      · exact ⟨numbered_ne_empty _ _, normalizeProfileId_numbered hne h suffix⟩

theorem nonEmpty_normalized {rawValue id : String}
    (h : nonEmpty (normalizeProfileId rawValue) = some id) :
    id ≠ "" ∧ normalizeProfileId id = id := by
  rw [nonEmpty] at h
  split_ifs at h with hempty
  rw [← Option.some.inj h]
  exact ⟨fun heq => hempty (String.isEmpty_iff.mpr heq), normalizeProfileId_normalizeProfileId _⟩

theorem suggestedProfileId_normalized (requestedProfileId : Option String)
    (profile : StationProfile) :
    suggestedProfileId requestedProfileId profile ≠ ""
      ∧ normalizeProfileId (suggestedProfileId requestedProfileId profile)
        = suggestedProfileId requestedProfileId profile := by
  rw [suggestedProfileId]
  generalize hfound : ((requestedProfileId.bind fun value => nonEmpty (normalizeProfileId value)).or
    ((profile.profileName.bind fun value => nonEmpty (normalizeProfileId value)).or
      (nonEmpty (normalizeProfileId profile.stationCallsign)))) = found
  rcases found with - | id
  · exact ⟨by decide +kernel, by decide +kernel⟩
  · rw [Option.getD_some]
    rcases Option.or_eq_some_iff.mp hfound with h | ⟨-, h⟩
    · obtain ⟨value, -, hvalue⟩ := Option.bind_eq_some_iff.mp h
      exact nonEmpty_normalized hvalue
    · rcases Option.or_eq_some_iff.mp h with h | ⟨-, h⟩
      · obtain ⟨value, -, hvalue⟩ := Option.bind_eq_some_iff.mp h
        exact nonEmpty_normalized hvalue
      · exact nonEmpty_normalized h

/-- A generated id is normalised. -/
theorem generateProfileId_normalized (requestedProfileId : Option String)
    (profile : StationProfile) (existingIds : List String) :
    generateProfileId requestedProfileId profile existingIds ≠ ""
      ∧ normalizeProfileId (generateProfileId requestedProfileId profile existingIds)
        = generateProfileId requestedProfileId profile existingIds := by
  obtain ⟨hne, hnormal⟩ := suggestedProfileId_normalized requestedProfileId profile
  rw [generateProfileId]
  split_ifs
  · exact firstFree_normalized hne hnormal existingIds _ _
  · exact ⟨hne, hnormal⟩

/-! ### Calls -/

/-- `SaveStationProfileRequest`. -/
structure SaveStationProfileRequest where
  profileId : Option String := none
  profile : Option StationProfile
  makeActive : Bool := false

/-- The calls that change the profiles; `SaveSetup` also reads the two stored secrets. -/
inductive ProfileCall where
  | saveSetup (request : SaveSetupRequest) (suggestedLogFilePath : String)
      (xmlPassword logbookApiKey : Option String)
  | saveStationProfile (request : SaveStationProfileRequest)
  | deleteStationProfile (profileId : String)
  | setActiveStationProfile (profileId : String)

/-- `hydrate_secret`, for the two secrets. -/
def PersistedSetupConfig.hydrateSecrets (config : PersistedSetupConfig)
    (xmlPassword logbookApiKey : Option String) : PersistedSetupConfig :=
  { config with
    qrzXml := { config.qrzXml with password := config.qrzXml.password.or xmlPassword }
    qrzLogbook := { config.qrzLogbook with apiKey := config.qrzLogbook.apiKey.or logbookApiKey } }

namespace ProfileCall

/-- The setup that a call computes. -/
def next (config : PersistedSetupConfig) : ProfileCall → Except String PersistedSetupConfig
  | saveSetup request suggestedLogFilePath xmlPassword logbookApiKey => do
      let config ← PersistedSetupConfig.fromRequest (some config) request suggestedLogFilePath
      return config.hydrateSecrets xmlPassword logbookApiKey
  | saveStationProfile request => do
      let some payload := request.profile
        | throw "SaveStationProfile requires a profile payload."
      let profile ← normalizeStationProfile payload
      return (config.saveStationProfile request.profileId profile request.makeActive).1
  | deleteStationProfile profileId => config.deleteStationProfile profileId
  | setActiveStationProfile profileId =>
      config.setActiveStationProfile (normalizeProfileId profileId)

/-- A call takes effect or fails. -/
def Step (config : PersistedSetupConfig) (call : ProfileCall) (after : PersistedSetupConfig) :
    Prop :=
  after = config ∨ call.next config = .ok after

/-- Any calls one after another. -/
abbrev Calls := Transition.Run Step fun _ _ _ => True

/-- The profile that a call is sent. -/
def payload : ProfileCall → Option StationProfile
  | saveSetup request _ _ _ => request.stationProfile
  | saveStationProfile request => request.profile
  | _ => none

/-- The id that a call asks for. -/
def requestedId : ProfileCall → Option String
  | saveStationProfile request =>
      request.profileId.bind fun value => nonEmpty (normalizeProfileId value)
  | _ => none

/-- The entry is the one that the call saves. -/
def Saves (call : ProfileCall) (entry : PersistedStationProfileEntry) : Prop :=
  ∃ payload ∈ call.payload, ∃ profile, normalizeStationProfile payload = .ok profile
    ∧ entry.profile = .fromProto profile ∧ ∀ id ∈ call.requestedId, entry.profileId = id

/-- The entry is the one that the call is about. -/
def Concerns (config : PersistedSetupConfig) (entry : PersistedStationProfileEntry) :
    ProfileCall → Prop
  | saveSetup _ _ _ _ => config.stationProfiles.activeProfile = some entry
  | saveStationProfile request =>
      entry.profileId ∈ request.profileId.bind fun value => nonEmpty (normalizeProfileId value)
  | deleteStationProfile profileId => entry.profileId = normalizeProfileId profileId
  | setActiveStationProfile _ => False

end ProfileCall

/-! ### Consistency -/

/-- What a profile is stamped as. -/
def PersistedStationProfileEntry.stamp (entry : PersistedStationProfileEntry) :
    Option StationProfile :=
  if stationProfileHasValues entry.profile.toProto then some entry.profile.toProto else none

/-- The ids are distinct, and the active id is that of the profile that is stamped. -/
structure PersistedSetupConfig.Consistent (config : PersistedSetupConfig) : Prop where
  nodup : config.stationProfiles.ids.Nodup
  active : config.stationProfiles.entries ≠ [] → ∃ entry ∈ config.stationProfiles.entries,
    config.activeStationProfileId = some entry.profileId
      ∧ config.activeStationProfile = entry.stamp

/-- A call changes only the profile that it is about, and a deletion never the one
that is stamped. -/
structure ProfileCall.KeepsOthers (config : PersistedSetupConfig) (call : ProfileCall)
    (after : PersistedSetupConfig) : Prop where
  others : ∀ entry ∈ config.stationProfiles.entries, ¬ call.Concerns config entry →
    entry ∈ after.stationProfiles.entries
  stamped : ∀ profileId entry, call = .deleteStationProfile profileId →
    config.stationProfiles.activeProfile = some entry → entry ∈ after.stationProfiles.entries
  deleted : ∀ profileId, call = .deleteStationProfile profileId →
    normalizeProfileId profileId ∉ after.stationProfiles.ids

/-- What the catalog promises from a setup on. -/
def PersistedSetupConfig.CatalogKeeps (config : PersistedSetupConfig) : Prop :=
  ∀ calls reached, ProfileCall.Calls config calls reached → reached.Consistent
    ∧ (∀ call after, ProfileCall.next reached call = .ok after →
        call.KeepsOthers reached after)
    ∧ ∀ later after, ProfileCall.Calls reached later after →
        ∀ entry ∈ after.stationProfiles.entries,
          entry ∈ reached.stationProfiles.entries ∨ ∃ call ∈ later, call.Saves entry

/-- The first profile stands in for an active id that is not found: no request can
delete it, and saving it saves another profile, which becomes the active one. -/
def StandsIn (first id : String) : Prop :=
  normalizeProfileId first ≠ first
    ∧ (normalizeProfileId first = id
      ∨ normalizeProfileId first = "" ∧ (normalizeProfileId id = id ∨ normalizeProfileId id = ""))

/-- The active id is found as it is stored, or the first profile stands in for it. -/
def PersistedStationProfileCatalog.Findable (catalog : PersistedStationProfileCatalog) : Prop :=
  catalog.ids.Nodup ∧
    match catalog.activeProfileId with
    | none => catalog.ids = []
    | some id => id ∈ catalog.ids ∧ normalizeProfileId id = id
        ∨ normalizeProfileId id ∉ catalog.ids ∧ ∃ first ∈ catalog.ids.head?, StandsIn first id

/-! ### One operation -/

section Operations

variable {catalog : PersistedStationProfileCatalog} {legacy : PersistedStationProfile}
variable {entries : List PersistedStationProfileEntry} {entry : PersistedStationProfileEntry}
variable {id : String} {profile : PersistedStationProfile}

theorem ids_putEntry : (PersistedStationProfileCatalog.putEntry id profile entries).map
      PersistedStationProfileEntry.profileId
    = if id ∈ entries.map PersistedStationProfileEntry.profileId then
        entries.map PersistedStationProfileEntry.profileId
      else entries.map PersistedStationProfileEntry.profileId ++ [id] := by
  induction entries with
  | nil => rfl
  | cons first rest ih =>
      rw [PersistedStationProfileCatalog.putEntry]
      by_cases h : first.profileId = id
      · rw [if_pos h, List.map_cons, List.map_cons, if_pos (h ▸ List.mem_cons_self)]
      · rw [if_neg h, List.map_cons, List.map_cons, ih]
        simp only [List.mem_cons, Ne.symm h, false_or]
        split_ifs <;> rfl

/-- The entries but the one that is saved are kept, and no others are added. -/
theorem mem_putEntry (hnodup : (entries.map PersistedStationProfileEntry.profileId).Nodup) :
    entry ∈ PersistedStationProfileCatalog.putEntry id profile entries
      ↔ entry = ⟨id, profile⟩ ∨ entry ∈ entries ∧ entry.profileId ≠ id := by
  induction entries with
  | nil => simp [PersistedStationProfileCatalog.putEntry]
  | cons first rest ih =>
      obtain ⟨hfirst, hrest⟩ := List.nodup_cons.mp hnodup
      rw [PersistedStationProfileCatalog.putEntry]
      by_cases h : first.profileId = id
      · -- the others have other ids
        have hother : ∀ other ∈ rest, other.profileId ≠ id := by
          intro other hmem heq
          exact hfirst (by rw [h, ← heq]; exact List.mem_map_of_mem hmem)
        rw [if_pos h, List.mem_cons, List.mem_cons]
        constructor
        · rintro (rfl | hmem)
          · exact .inl (by rw [h])
          · exact .inr ⟨.inr hmem, hother entry hmem⟩
        · rintro (rfl | ⟨rfl | hmem, hne⟩)
          · exact .inl (by rw [h])
          · exact absurd h hne
          · exact .inr hmem
      · rw [if_neg h, List.mem_cons, List.mem_cons, ih hrest]
        constructor
        · rintro (rfl | rfl | ⟨hmem, hne⟩)
          · exact .inr ⟨.inl rfl, h⟩
          · exact .inl rfl
          · exact .inr ⟨.inr hmem, hne⟩
        · rintro (rfl | ⟨rfl | hmem, hne⟩)
          · exact .inr (.inl rfl)
          · exact .inl rfl
          · exact .inr (.inr ⟨hmem, hne⟩)

theorem bootstrapFromLegacy_eq (hfindable : catalog.Findable)
    (hlegacy : catalog.entries = [] → legacy.hasValues = false) :
    catalog.bootstrapFromLegacy legacy = catalog := by
  obtain ⟨activeProfileId, entries⟩ := catalog
  obtain ⟨-, hactive⟩ := hfindable
  have hentries : (if (entries.isEmpty && legacy.hasValues) = true then
      [⟨generateProfileId none legacy.toProto [], legacy⟩] else entries) = entries := by
    refine if_neg fun h => ?_
    obtain ⟨hempty, hvalues⟩ := (Bool.and_eq_true _ _).mp h
    rw [hlegacy (List.isEmpty_iff.mp hempty)] at hvalues
    cases hvalues
  rw [PersistedStationProfileCatalog.bootstrapFromLegacy]
  dsimp only
  rw [hentries]
  rcases activeProfileId with - | id
  · have hnil : entries = [] := List.map_eq_nil_iff.mp hactive
    rw [hnil]
    rfl
  · rfl

/-- The profile that is stamped has the active id, or stands in for it. -/
theorem activeProfile_of_findable (hfindable : catalog.Findable) (hne : catalog.entries ≠ []) :
    ∃ entry id, catalog.activeProfile = some entry ∧ catalog.activeProfileId = some id
      ∧ (entry.profileId = id ∧ normalizeProfileId id = id
        ∨ normalizeProfileId id ∉ catalog.ids ∧ StandsIn entry.profileId id) := by
  obtain ⟨-, hactive⟩ := hfindable
  rw [PersistedStationProfileCatalog.activeProfile]
  generalize catalog.activeProfileId = activeProfileId at hactive
  rcases activeProfileId with - | id
  · exact absurd (List.map_eq_nil_iff.mp hactive) hne
  · rw [Option.bind_some, PersistedStationProfileCatalog.findEntry]
    rcases hactive with ⟨hmem, hnormal⟩ | ⟨hnot, first, hhead, hstands⟩
    · obtain ⟨other, hother, hid⟩ := List.mem_map.mp hmem
      rw [hnormal]
      generalize hfind : catalog.entries.find? (fun entry => entry.profileId == id) = found
      rcases found with - | entry
      · exact absurd (beq_iff_eq.mpr hid) (List.find?_eq_none.mp hfind other hother)
      · have hentry : (entry.profileId == id) = true := by simpa using List.find?_some hfind
        exact ⟨entry, id, rfl, rfl, .inl ⟨beq_iff_eq.mp hentry, hnormal⟩⟩
    · rw [PersistedStationProfileCatalog.ids, List.head?_map] at hhead
      obtain ⟨entry, hentry, rfl⟩ := Option.map_eq_some_iff.mp hhead
      have hfind : catalog.entries.find? (fun entry => entry.profileId == normalizeProfileId id)
          = none := by
        refine List.find?_eq_none.mpr fun other hother heq => hnot ?_
        rw [← beq_iff_eq.mp heq]
        exact List.mem_map_of_mem hother
      rw [hfind, hentry]
      exact ⟨entry, id, rfl, rfl, .inr ⟨hnot, hstands⟩⟩

/-- The id that a profile is saved under. -/
def savedProfileId (catalog : PersistedStationProfileCatalog) (requestedProfileId : Option String)
    (profile : StationProfile) : String :=
  (requestedProfileId.bind fun value => nonEmpty (normalizeProfileId value)).getD
    (generateProfileId none profile catalog.ids)

theorem savedProfileId_normalized (requestedProfileId : Option String) (profile : StationProfile) :
    savedProfileId catalog requestedProfileId profile ≠ ""
      ∧ normalizeProfileId (savedProfileId catalog requestedProfileId profile)
        = savedProfileId catalog requestedProfileId profile := by
  rw [savedProfileId]
  generalize hrequested : (requestedProfileId.bind fun value =>
    nonEmpty (normalizeProfileId value)) = requested
  rcases requested with - | id
  · exact generateProfileId_normalized _ _ _
  · obtain ⟨value, -, hvalue⟩ := Option.bind_eq_some_iff.mp hrequested
    exact nonEmpty_normalized hvalue

/-- Saving a profile keeps the active id to be found. -/
theorem findable_putEntry (hfindable : catalog.Findable) (hne : id ≠ "")
    (hnormal : normalizeProfileId id = id) (makeActive : Bool) :
    PersistedStationProfileCatalog.Findable
      { activeProfileId :=
          if makeActive || catalog.activeProfileId.isNone then some id
          else catalog.activeProfileId
        entries := PersistedStationProfileCatalog.putEntry id profile catalog.entries } := by
  obtain ⟨hnodup, hactive⟩ := hfindable
  have hids : (PersistedStationProfileCatalog.putEntry id profile catalog.entries).map
      PersistedStationProfileEntry.profileId
        = if id ∈ catalog.ids then catalog.ids else catalog.ids ++ [id] := ids_putEntry
  have hmem : ∀ other, other ∈ (if id ∈ catalog.ids then catalog.ids else catalog.ids ++ [id])
      ↔ other ∈ catalog.ids ∨ other = id := by
    intro other
    split_ifs with hin
    · exact ⟨.inl, fun h => h.elim (fun h => h) fun h => h ▸ hin⟩
    · simp
  refine ⟨?_, ?_⟩
  · rw [PersistedStationProfileCatalog.ids, hids]
    split_ifs with hin
    · exact hnodup
    · exact List.nodup_append.mpr ⟨hnodup, List.nodup_singleton id, by
        rintro a ha b hb rfl
        exact hin (List.mem_singleton.mp hb ▸ ha)⟩
  · simp only [PersistedStationProfileCatalog.ids, hids]
    generalize catalog.activeProfileId = activeProfileId at hactive
    by_cases hmake : (makeActive || activeProfileId.isNone) = true
    · rw [if_pos hmake]
      exact .inl ⟨(hmem id).mpr (.inr rfl), hnormal⟩
    · rw [if_neg hmake]
      rcases activeProfileId with - | other
      · exact absurd (Bool.or_true makeActive) hmake
      · rcases hactive with ⟨hother, hothernormal⟩ | ⟨hnot, first, hfirst, hstands⟩
        · exact .inl ⟨(hmem other).mpr (.inl hother), hothernormal⟩
        · by_cases heq : normalizeProfileId other = id
          · -- the profile that is saved is the one that was not found
            have hothernormal : normalizeProfileId other = other := by
              rcases hstands.2 with hfirst | ⟨-, hothernormal | hempty⟩
              · rw [← hfirst, normalizeProfileId_normalizeProfileId]
              · exact hothernormal
              · exact absurd (heq.symm.trans hempty) hne
            exact .inl ⟨(hmem other).mpr (.inr (hothernormal.symm.trans heq)), hothernormal⟩
          · refine .inr ⟨fun h => ((hmem _).mp h).elim hnot heq, first, ?_, hstands⟩
            -- the first profile stays the first
            have hsame : (if id ∈ catalog.ids then catalog.ids else catalog.ids ++ [id]).head?
                = catalog.ids.head? := by
              split_ifs
              · rfl
              · rw [List.head?_append, Option.mem_def.mp hfirst, Option.some_or]
            exact hsame.trans hfirst

theorem saveProfile_eq (hfindable : catalog.Findable)
    (hlegacy : catalog.entries = [] → legacy.hasValues = false)
    (requestedProfileId : Option String) (profile : StationProfile) (makeActive : Bool) :
    (catalog.saveProfile requestedProfileId profile makeActive legacy).1
      = { activeProfileId :=
            if makeActive || catalog.activeProfileId.isNone then
              some (savedProfileId catalog requestedProfileId profile)
            else catalog.activeProfileId
          entries := PersistedStationProfileCatalog.putEntry
            (savedProfileId catalog requestedProfileId profile) (.fromProto profile)
            catalog.entries } := by
  rw [PersistedStationProfileCatalog.saveProfile, bootstrapFromLegacy_eq hfindable hlegacy]
  rfl

theorem deleteProfile_ok {after : PersistedStationProfileCatalog} {profileId : String}
    (hfindable : catalog.Findable)
    (hlegacy : catalog.entries = [] → legacy.hasValues = false)
    (h : catalog.deleteProfile profileId legacy = .ok after) :
    catalog.activeProfileId ≠ some (normalizeProfileId profileId) ∧ catalog.entries ≠ []
      ∧ after = { catalog with entries := catalog.entries.filter fun entry =>
          entry.profileId != normalizeProfileId profileId } := by
  rw [PersistedStationProfileCatalog.deleteProfile, bootstrapFromLegacy_eq hfindable hlegacy] at h
  dsimp only at h
  split_ifs at h with hactive hlength
  cases h
  refine ⟨hactive, fun hnil => hlength ?_, rfl⟩
  rw [hnil]
  rfl

/-- The profile that is stamped has another id than one that may be deleted. -/
theorem profileId_ne_of_active (hfindable : catalog.Findable)
    (hid : catalog.activeProfileId ≠ some id) (hnormal : normalizeProfileId id = id)
    (hentry : catalog.activeProfile = some entry) : entry.profileId ≠ id := by
  have hmem := PersistedStationProfileCatalog.mem_of_activeProfile hentry
  obtain ⟨stamped, active, hstamped, hactive, hfound⟩ :=
    activeProfile_of_findable hfindable (List.ne_nil_of_mem hmem)
  obtain rfl : entry = stamped := Option.some.inj (hentry.symm.trans hstamped)
  rintro rfl
  rcases hfound with ⟨heq, -⟩ | ⟨-, hstands, -⟩
  · exact hid (hactive.trans (congrArg some heq.symm))
  · exact hstands hnormal

/-- Deleting a profile keeps the active id to be found, and keeps the one stamped. -/
theorem findable_filter (hfindable : catalog.Findable) (hid : catalog.activeProfileId ≠ some id)
    (hnormal : normalizeProfileId id = id) :
    PersistedStationProfileCatalog.Findable
      { catalog with entries := catalog.entries.filter fun entry => entry.profileId != id } := by
  obtain ⟨hnodup, hactive⟩ := hfindable
  have hids : (catalog.entries.filter fun entry => entry.profileId != id).map
      PersistedStationProfileEntry.profileId = catalog.ids.filter (· != id) := by
    rw [PersistedStationProfileCatalog.ids, List.filter_map]
    rfl
  refine ⟨?_, ?_⟩
  · rw [PersistedStationProfileCatalog.ids, hids]
    exact hnodup.filter _
  · simp only [PersistedStationProfileCatalog.ids, hids]
    generalize catalog.activeProfileId = activeProfileId at hactive hid
    rcases activeProfileId with - | other
    · show catalog.ids.filter (· != id) = []
      rw [hactive, List.filter_nil]
    · have hne : other ≠ id := fun h => hid (congrArg some h)
      rcases hactive with ⟨hother, hothernormal⟩ | ⟨hnot, first, hfirst, hstands⟩
      · exact .inl ⟨List.mem_filter.mpr ⟨hother, bne_iff_ne.mpr hne⟩, hothernormal⟩
      · refine .inr ⟨fun h => hnot (List.mem_of_mem_filter h), first, ?_, hstands⟩
        -- the first profile is not deleted: its id is not a normalised one
        obtain ⟨rest, hrest⟩ := List.head?_eq_some_iff.mp hfirst
        have hkept : (first != id) = true :=
          bne_iff_ne.mpr fun heq => hstands.1 (heq ▸ hnormal)
        have hsame : (catalog.ids.filter (· != id)).head? = catalog.ids.head? := by
          rw [hrest, List.filter_cons, if_pos hkept]
          rfl
        exact hsame.trans hfirst

theorem setActiveProfile_ok {after : PersistedStationProfileCatalog} {profileId : String}
    (hfindable : catalog.Findable)
    (hlegacy : catalog.entries = [] → legacy.hasValues = false)
    (h : catalog.setActiveProfile profileId legacy = .ok after) :
    normalizeProfileId profileId ∈ catalog.ids
      ∧ after = { catalog with activeProfileId := some (normalizeProfileId profileId) } := by
  rw [PersistedStationProfileCatalog.setActiveProfile, bootstrapFromLegacy_eq hfindable hlegacy]
    at h
  split_ifs at h with hany
  cases h
  obtain ⟨entry, hentry, heq⟩ := List.any_eq_true.mp hany
  refine ⟨?_, rfl⟩
  rw [← beq_iff_eq.mp heq]
  exact List.mem_map_of_mem hentry

end Operations

/-! ### One call -/

/-- A computation that succeeds has a first step that does. -/
theorem exists_of_bind_ok {α β : Type} {x : Except String α} {f : α → Except String β} {b : β}
    (h : x >>= f = .ok b) : ∃ a, x = .ok a ∧ f a = .ok b := by
  cases x with
  | error e => cases h
  | ok a => exact ⟨a, rfl, h⟩

/-- The active id is found, and there is no older profile to start from. -/
structure PersistedSetupConfig.Sound (config : PersistedSetupConfig) : Prop where
  findable : config.stationProfiles.Findable
  legacy : config.stationProfiles.entries = [] → config.stationProfile.hasValues = false

namespace PersistedSetupConfig

variable {config after : PersistedSetupConfig}

theorem Sound.consistent (h : config.Sound) : config.Consistent := by
  refine ⟨h.findable.1, fun hne => ?_⟩
  obtain ⟨entry, id, hentry, -, -⟩ := activeProfile_of_findable h.findable hne
  refine ⟨entry, PersistedStationProfileCatalog.mem_of_activeProfile hentry, ?_, ?_⟩
  · rw [activeStationProfileId, PersistedStationProfileCatalog.activeId, hentry]
    rfl
  · rw [activeStationProfile, hentry]
    rfl

/-- What a save does to the catalog. -/
theorem Sound.of_save (h : config.Sound) {requestedProfileId : Option String}
    {profile : StationProfile} {makeActive : Bool}
    (hafter : after.stationProfiles = (config.stationProfiles.saveProfile requestedProfileId
      profile makeActive config.stationProfile).1) :
    after.Sound ∧ ∀ entry, entry ∈ after.stationProfiles.entries
      ↔ entry = ⟨savedProfileId config.stationProfiles requestedProfileId profile,
          .fromProto profile⟩
        ∨ entry ∈ config.stationProfiles.entries
          ∧ entry.profileId ≠ savedProfileId config.stationProfiles requestedProfileId profile := by
  rw [saveProfile_eq h.findable h.legacy] at hafter
  have hmem : ∀ entry, entry ∈ after.stationProfiles.entries
      ↔ entry = ⟨savedProfileId config.stationProfiles requestedProfileId profile,
          .fromProto profile⟩
        ∨ entry ∈ config.stationProfiles.entries
          ∧ entry.profileId ≠ savedProfileId config.stationProfiles requestedProfileId profile := by
    intro entry
    rw [hafter]
    exact mem_putEntry h.findable.1
  refine ⟨⟨?_, fun hnil => ?_⟩, hmem⟩
  · obtain ⟨hne, hnormal⟩ := savedProfileId_normalized requestedProfileId profile
    rw [hafter]
    exact findable_putEntry h.findable hne hnormal makeActive
  · have hsaved := (hmem _).mpr (.inl rfl)
    rw [hnil] at hsaved
    exact absurd hsaved List.not_mem_nil

theorem ne_savedProfileId {entry : PersistedStationProfileEntry}
    (hentry : entry ∈ config.stationProfiles.entries) {requestedProfileId : Option String}
    {profile : StationProfile} (hother : entry.profileId ∉ requestedProfileId.bind fun value =>
      nonEmpty (normalizeProfileId value)) :
    entry.profileId ≠ savedProfileId config.stationProfiles requestedProfileId profile := by
  rw [savedProfileId]
  generalize (requestedProfileId.bind fun value => nonEmpty (normalizeProfileId value)) = requested
    at hother
  rcases requested with - | id
  · intro heq
    refine generateProfileId_notMem none profile config.stationProfiles.ids ?_
    rw [← Option.getD_none (a := generateProfileId none profile config.stationProfiles.ids), ← heq]
    exact List.mem_map_of_mem hentry
  · exact fun heq => hother (congrArg some heq.symm)

/-- Saving under the active id leaves the other profiles. -/
theorem Sound.ne_savedProfileId (h : config.Sound) {entry : PersistedStationProfileEntry}
    (hentry : entry ∈ config.stationProfiles.entries)
    (hother : config.stationProfiles.activeProfile ≠ some entry) (profile : StationProfile) :
    entry.profileId
      ≠ savedProfileId config.stationProfiles config.activeStationProfileId profile := by
  obtain ⟨stamped, id, hstamped, -, hid⟩ :=
    activeProfile_of_findable h.findable (List.ne_nil_of_mem hentry)
  have hactive : config.activeStationProfileId = some stamped.profileId := by
    rw [activeStationProfileId, PersistedStationProfileCatalog.activeId, hstamped, Option.map_some,
      Option.some_or]
  refine PersistedSetupConfig.ne_savedProfileId hentry fun hsaved => ?_
  rw [hactive, Option.bind_some, Option.mem_def, nonEmpty] at hsaved
  split_ifs at hsaved with hsome
  have hsame : normalizeProfileId stamped.profileId = entry.profileId := Option.some.inj hsaved
  rcases hid with ⟨hid, hnormal⟩ | ⟨hnot, -, hid | ⟨hempty, -⟩⟩
  · rw [hid, hnormal, ← hid] at hsame
    have heq : stamped = entry := List.inj_on_of_nodup_map h.findable.1
      (PersistedStationProfileCatalog.mem_of_activeProfile hstamped) hentry hsame
    exact hother (heq ▸ hstamped)
  · rw [← hid, normalizeProfileId_normalizeProfileId, hsame] at hnot
    exact hnot (List.mem_map_of_mem hentry)
  · exact hsome (String.isEmpty_iff.mpr hempty)

/-- The catalog that `SaveSetup` leaves. -/
theorem fromRequest_ok {request : SaveSetupRequest} {suggestedLogFilePath : String}
    (h : fromRequest (some config) request suggestedLogFilePath = .ok after) :
    ∃ payload profile, request.stationProfile = some payload
      ∧ normalizeStationProfile payload = .ok profile
      ∧ after.stationProfiles = (config.stationProfiles.saveProfile config.activeStationProfileId
          profile true config.stationProfile).1 := by
  rw [fromRequest] at h
  generalize request.stationProfile = stationProfile at h
  rcases stationProfile with - | payload
  · cases h
  · obtain ⟨profile, hprofile, h⟩ := exists_of_bind_ok h
    obtain ⟨⟨logbook, storage⟩, -, h⟩ := exists_of_bind_ok h
    obtain ⟨rigControl, -, h⟩ := exists_of_bind_ok h
    obtain ⟨wsjtxIngest, -, h⟩ := exists_of_bind_ok h
    cases h
    exact ⟨payload, profile, rfl, hprofile, rfl⟩

end PersistedSetupConfig

namespace ProfileCall

variable {config after : PersistedSetupConfig} {call : ProfileCall}

/-- What a call does to a sound setup. -/
theorem step_sound (h : config.Sound) (hnext : call.next config = .ok after) :
    after.Sound ∧ call.KeepsOthers config after
      ∧ ∀ entry ∈ after.stationProfiles.entries,
          entry ∈ config.stationProfiles.entries ∨ call.Saves entry := by
  cases call with
  | saveSetup request suggestedLogFilePath xmlPassword logbookApiKey =>
      obtain ⟨saved, hsaved, heq⟩ := exists_of_bind_ok hnext
      obtain ⟨payload, profile, hpayload, hprofile, hcatalog⟩ :=
        PersistedSetupConfig.fromRequest_ok hsaved
      have hafter : after.stationProfiles = saved.stationProfiles := by
        cases heq
        rfl
      obtain ⟨hsound, hmem⟩ := h.of_save (hafter.trans hcatalog)
      refine ⟨hsound, ⟨fun entry hentry hother => (hmem entry).mpr (.inr ⟨hentry, ?_⟩), ?_, ?_⟩,
        fun entry hentry => ?_⟩
      · exact h.ne_savedProfileId hentry hother profile
      · exact fun _ _ hcall => nomatch hcall
      · exact fun _ hcall => nomatch hcall
      · rcases (hmem entry).mp hentry with rfl | ⟨hentry, -⟩
        · exact .inr ⟨payload, hpayload, profile, hprofile, rfl, fun id hid => nomatch hid⟩
        · exact .inl hentry
  | saveStationProfile request =>
      obtain ⟨profileId, payload, makeActive⟩ := request
      rcases payload with - | payload
      · cases hnext
      · obtain ⟨profile, hprofile, heq⟩ := exists_of_bind_ok hnext
        have hcatalog : after.stationProfiles = (config.stationProfiles.saveProfile profileId
            profile makeActive config.stationProfile).1 := by
          cases heq
          rfl
        obtain ⟨hsound, hmem⟩ := h.of_save hcatalog
        refine ⟨hsound, ⟨fun entry hentry hother => (hmem entry).mpr (.inr ⟨hentry, ?_⟩), ?_, ?_⟩,
          fun entry hentry => ?_⟩
        · exact PersistedSetupConfig.ne_savedProfileId hentry hother
        · exact fun _ _ hcall => nomatch hcall
        · exact fun _ hcall => nomatch hcall
        · rcases (hmem entry).mp hentry with rfl | ⟨hentry, -⟩
          · refine .inr ⟨payload, rfl, profile, hprofile, rfl, fun id hid => ?_⟩
            have hrequested : (profileId.bind fun value => nonEmpty (normalizeProfileId value))
                = some id := hid
            show savedProfileId config.stationProfiles profileId profile = id
            rw [savedProfileId, hrequested, Option.getD_some]
          · exact .inl hentry
  | deleteStationProfile profileId =>
      obtain ⟨catalog, hcatalog, heq⟩ := exists_of_bind_ok hnext
      obtain ⟨hactive, hne, rfl⟩ := deleteProfile_ok h.findable h.legacy hcatalog
      have hafter : after.stationProfiles = { config.stationProfiles with
          entries := config.stationProfiles.entries.filter fun entry =>
            entry.profileId != normalizeProfileId profileId } := by
        cases heq
        rfl
      have hkept : ∀ entry, entry ∈ after.stationProfiles.entries
          ↔ entry ∈ config.stationProfiles.entries
            ∧ entry.profileId ≠ normalizeProfileId profileId := by
        intro entry
        rw [hafter, List.mem_filter, bne_iff_ne]
      have hstamped : ∀ entry, config.stationProfiles.activeProfile = some entry →
          entry ∈ after.stationProfiles.entries := by
        intro entry hentry
        refine (hkept entry).mpr
          ⟨PersistedStationProfileCatalog.mem_of_activeProfile hentry, ?_⟩
        exact profileId_ne_of_active h.findable hactive
          (normalizeProfileId_normalizeProfileId _) hentry
      refine ⟨⟨?_, fun hnil => ?_⟩, ⟨fun entry hentry hother => ?_, ?_, ?_⟩, ?_⟩
      · rw [hafter]
        exact findable_filter h.findable hactive (normalizeProfileId_normalizeProfileId _)
      · -- the profile that is stamped is still there
        obtain ⟨stamped, -, hactive, -⟩ := activeProfile_of_findable h.findable hne
        have hmem := hstamped stamped hactive
        rw [hnil] at hmem
        exact absurd hmem List.not_mem_nil
      · exact (hkept entry).mpr ⟨hentry, hother⟩
      · rintro _ entry - hentry
        exact hstamped entry hentry
      · rintro _ ⟨⟩ hid
        obtain ⟨entry, hentry, heq⟩ := List.mem_map.mp hid
        exact ((hkept entry).mp hentry).2 heq
      · exact fun entry hentry => .inl ((hkept entry).mp hentry).1
  | setActiveStationProfile profileId =>
      obtain ⟨catalog, hcatalog, heq⟩ := exists_of_bind_ok hnext
      obtain ⟨hmem, rfl⟩ := setActiveProfile_ok h.findable h.legacy hcatalog
      have hafter : after.stationProfiles = { config.stationProfiles with
          activeProfileId := some (normalizeProfileId (normalizeProfileId profileId)) } := by
        cases heq
        rfl
      have hentries : after.stationProfiles.entries = config.stationProfiles.entries := by
        rw [hafter]
      refine ⟨⟨?_, fun hnil => ?_⟩, ⟨fun entry hentry _ => hentries ▸ hentry, ?_, ?_⟩,
        fun entry hentry => .inl (hentries ▸ hentry)⟩
      · rw [hafter]
        exact ⟨h.findable.1, .inl ⟨hmem, normalizeProfileId_normalizeProfileId _⟩⟩
      · rw [hentries] at hnil
        rw [PersistedStationProfileCatalog.ids, hnil] at hmem
        exact absurd hmem List.not_mem_nil
      · exact fun _ _ hcall => nomatch hcall
      · exact fun _ hcall => nomatch hcall

/-- Calls keep the setup sound. -/
theorem calls_sound {calls : List ProfileCall} (hrun : Calls config calls after)
    (h : config.Sound) : after.Sound := by
  refine hrun.invariant (I := fun _ config => config.Sound) h ?_
  rintro - before call after hsound - (rfl | hnext)
  · exact hsound
  · exact (step_sound hsound hnext).1

/-- After any calls, a profile was there before or one of the calls saved it. -/
theorem calls_entries {calls : List ProfileCall} (hrun : Calls config calls after)
    (h : config.Sound) :
    ∀ entry ∈ after.stationProfiles.entries,
      entry ∈ config.stationProfiles.entries ∨ ∃ call ∈ calls, call.Saves entry := by
  have hall : after.Sound ∧ ∀ entry ∈ after.stationProfiles.entries,
      entry ∈ config.stationProfiles.entries ∨ ∃ call ∈ calls, call.Saves entry := by
    refine hrun.invariant (I := fun calls after => after.Sound ∧
      ∀ entry ∈ after.stationProfiles.entries,
        entry ∈ config.stationProfiles.entries ∨ ∃ call ∈ calls, call.Saves entry)
      ⟨h, fun entry hentry => .inl hentry⟩ ?_
    rintro calls before call after ⟨hsound, hpast⟩ - hstep
    have hearlier : ∀ entry ∈ before.stationProfiles.entries,
        entry ∈ config.stationProfiles.entries ∨ ∃ c ∈ calls ++ [call], c.Saves entry := by
      intro entry hentry
      refine (hpast entry hentry).imp_right ?_
      rintro ⟨c, hc, hsaves⟩
      exact ⟨c, List.mem_append_left _ hc, hsaves⟩
    rcases hstep with rfl | hnext
    · exact ⟨hsound, hearlier⟩
    · obtain ⟨hafter, -, hentries⟩ := step_sound hsound hnext
      refine ⟨hafter, fun entry hentry => ?_⟩
      rcases hentries entry hentry with hentry | hsaves
      · exact hearlier entry hentry
      · exact .inr ⟨call, List.mem_append_right _ (List.mem_singleton_self call), hsaves⟩
  exact hall.2

end ProfileCall

/-- A loaded setup whose active id can be found is sound. -/
theorem sound_of_load {doc left : Toml.Table} {config : PersistedSetupConfig}
    (hload : loadPersistedConfig doc = some (config, left))
    (hfindable : config.stationProfiles.Findable) : config.Sound := by
  refine ⟨hfindable, fun hnil => ?_⟩
  obtain ⟨read, -, hsettle⟩ := Option.bind_eq_some_iff.mp hload
  have hconfig : config = read.settle := by
    dsimp only at hsettle
    split_ifs at hsettle
    · obtain ⟨written, -, heq⟩ := Option.bind_eq_some_iff.mp hsettle
      cases heq
      rfl
    · cases hsettle
      rfl
  rw [hconfig] at hnil ⊢
  have hentries : (if (read.stationProfiles.entries.isEmpty && read.stationProfile.hasValues) = true
      then [⟨generateProfileId none read.stationProfile.toProto [], read.stationProfile⟩]
      else read.stationProfiles.entries) = [] := hnil
  split_ifs at hentries with hlegacy
  have hactive : read.settle.stationProfiles.activeProfile = none := by
    rw [PersistedStationProfileCatalog.activeProfile, hnil]
    rcases read.settle.stationProfiles.activeProfileId with - | id
    · rfl
    · rw [Option.bind_some, PersistedStationProfileCatalog.findEntry, hnil]
      rfl
  have hprofile : read.settle.stationProfile = read.stationProfile := by
    show read.settle.stationProfiles.activeProfile.elim read.stationProfile _ = read.stationProfile
    rw [hactive]
    rfl
  rw [hprofile]
  rw [hentries, List.isEmpty_nil, Bool.true_and] at hlegacy
  exact Bool.eq_false_iff.mpr hlegacy

/-- **The catalog stays consistent** from any document whose active id can be found. -/
theorem catalogKeeps_of_load {doc left : Toml.Table} {config : PersistedSetupConfig}
    (hload : loadPersistedConfig doc = some (config, left))
    (hfindable : config.stationProfiles.Findable) : config.CatalogKeeps := by
  intro calls reached hrun
  have hsound := ProfileCall.calls_sound hrun (sound_of_load hload hfindable)
  exact ⟨hsound.consistent, fun call after hnext => (ProfileCall.step_sound hsound hnext).2.1,
    fun later after hlater => ProfileCall.calls_entries hlater hsound⟩

/-- A document with the profiles `home` and `field`. -/
def profilesDocument (activeProfileId : String) : Toml.Table :=
  [("station_profiles", .table
    [("active_profile_id", .string activeProfileId),
      ("entries", .array
        [.table [("profile_id", .string "home"), ("station_callsign", .string "K1AAA")],
          .table [("profile_id", .string "field"), ("station_callsign", .string "K1BBB")]])])]

theorem catalogKeeps_profilesDocument : ∃ config left,
    loadPersistedConfig (profilesDocument "home") = some (config, left) ∧ config.CatalogKeeps := by
  have hloads : (loadPersistedConfig (profilesDocument "home")).isSome = true := by decide +kernel
  obtain ⟨⟨config, left⟩, hload⟩ := Option.isSome_iff_exists.mp hloads
  have hcatalog : (loadPersistedConfig (profilesDocument "home")).map
      (fun read => (read.1.stationProfiles.ids, read.1.stationProfiles.activeProfileId))
        = some (["home", "field"], some "home") := by decide +kernel
  rw [hload, Option.map_some, Option.some.injEq, Prod.mk.injEq] at hcatalog
  refine ⟨config, left, hload, catalogKeeps_of_load hload ?_⟩
  rw [PersistedStationProfileCatalog.Findable, hcatalog.1, hcatalog.2]
  exact ⟨by decide, .inl ⟨by decide, by decide +kernel⟩⟩

/-- With the active id written in capitals, the profile that is stamped can be
deleted. -/
theorem not_catalogKeeps_capitals : ¬ ∀ doc config left,
    loadPersistedConfig doc = some (config, left) → config.CatalogKeeps := by
  intro h
  have hloads : (loadPersistedConfig (profilesDocument "Home")).isSome = true := by decide +kernel
  obtain ⟨⟨config, left⟩, hload⟩ := Option.isSome_iff_exists.mp hloads
  have hdeleted : (loadPersistedConfig (profilesDocument "Home")).map (fun read =>
      (read.1.stationProfiles.activeProfile.map (fun entry => entry.profileId),
        (ProfileCall.next read.1 (.deleteStationProfile "home")).toOption.map
          fun after => after.stationProfiles.ids))
        = some (some "home", some ["field"]) := by decide +kernel
  rw [hload, Option.map_some, Option.some.injEq, Prod.mk.injEq] at hdeleted
  obtain ⟨hstamped, hafter⟩ := hdeleted
  obtain ⟨entry, hentry, hid⟩ := Option.map_eq_some_iff.mp hstamped
  obtain ⟨after, hnext, hids⟩ := Option.map_eq_some_iff.mp hafter
  have hok : ProfileCall.next config (.deleteStationProfile "home") = .ok after := by
    cases hcall : ProfileCall.next config (.deleteStationProfile "home") with
    | error message =>
        rw [hcall] at hnext
        cases hnext
    | ok other =>
        rw [hcall] at hnext
        cases hnext
        rfl
  obtain ⟨-, hsteps, -⟩ := h _ config left hload [] config (.nil config)
  have hkept := (hsteps _ after hok).stamped "home" entry rfl hentry
  have hmem : "home" ∈ after.stationProfiles.ids := hid ▸ List.mem_map_of_mem hkept
  rw [hids] at hmem
  exact absurd hmem (by decide)

end QsoRipper.Setup
