/-
QsoRipper/DotNet/Profiles.lean

The station profiles of the managed engine over its whole life: from the
configuration it loads, through every call that changes them.

The ids of loaded profiles are normalised one by one and the active id is taken
as it stands, so that two profiles may share an id and the active one may be
missing.  After that the calls keep what they find.
-/
import QsoRipper.Lib.Transition
import QsoRipper.DotNet.Setup

namespace QsoRipper.DotNet.Profiles

open Interaction Setup

/-! ### Loading -/

/-- `StationProfileHasValues`. -/
def stationProfileHasValues (profile : StationProfile) : Bool :=
  !NetText.isNullOrWhiteSpace profile.profileName
    || !NetText.isWhiteSpace profile.stationCallsign
    || !NetText.isNullOrWhiteSpace profile.operatorCallsign
    || !NetText.isNullOrWhiteSpace profile.operatorName
    || !NetText.isNullOrWhiteSpace profile.grid
    || !NetText.isNullOrWhiteSpace profile.county
    || !NetText.isNullOrWhiteSpace profile.state
    || !NetText.isNullOrWhiteSpace profile.country
    || !NetText.isNullOrWhiteSpace profile.arrlSection
    || profile.dxcc.isSome
    || profile.cqZone.isSome
    || profile.ituZone.isSome
    || profile.latitude.isSome
    || profile.longitude.isSome

/-- The tables `[station_profiles]` and `[station_profile]` of a TOML file. -/
structure TomlProfiles where
  activeProfileId : Option String := none
  /-- The entries, with their `profile_id`. -/
  entries : List (Option String × StationProfile) := []
  stationProfile : StationProfile := {}

/-- The profiles of `ManagedEnginePersistedState`, each with its id and its JSON:
`none` if that is blank, and else what it parses to. -/
structure JsonProfiles where
  activeProfileId : Option String := none
  stationProfiles : List (String × Option (Option StationProfile)) := []
  sessionOverrideProfile : Option StationProfile := none

/-- What the engine may load. -/
inductive ProfileSource where
  | toml (file : TomlProfiles)
  | legacyJson (file : JsonProfiles)

/-- The profiles of a configuration, and its active id. -/
structure LoadedProfiles where
  stationProfiles : List ManagedPersistedStationProfile
  activeProfileId : Option String

/-- The last step of both loaders: without an active id the first profile is
active. -/
def LoadedProfiles.orFirst (loaded : LoadedProfiles) : LoadedProfiles :=
  if NetText.isNullOrWhiteSpace loaded.activeProfileId then
    match loaded.stationProfiles with
    | [] => loaded
    | first :: _ => { loaded with activeProfileId := some first.profileId }
  else loaded

/-- The entries that have values. -/
def TomlProfiles.listed (file : TomlProfiles) : List ManagedPersistedStationProfile :=
  (file.entries.filter fun entry => stationProfileHasValues entry.2).map fun entry =>
    ⟨normalizeProfileIdOrDefault [entry.1], some entry.2⟩

/-- The id of the profile that is not listed. -/
def TomlProfiles.legacyId (file : TomlProfiles) : String :=
  normalizeProfileIdOrDefault [normalizeOptional file.activeProfileId,
    file.stationProfile.profileName, some file.stationProfile.stationCallsign]

/-- The profiles of `ParseToml`. -/
def parseToml (file : TomlProfiles) : LoadedProfiles :=
  let activeProfileId := normalizeOptional file.activeProfileId
  let loaded : LoadedProfiles :=
    if file.listed.isEmpty && stationProfileHasValues file.stationProfile then
      { stationProfiles := [⟨file.legacyId, some file.stationProfile⟩]
        activeProfileId := activeProfileId.or (some file.legacyId) }
    else { stationProfiles := file.listed, activeProfileId := activeProfileId }
  loaded.orFirst

/-- The stored profiles that have an id and JSON. -/
def JsonProfiles.listed (file : JsonProfiles) : List ManagedPersistedStationProfile :=
  file.stationProfiles.filterMap fun entry =>
    if NetText.isWhiteSpace entry.1 then none
    else entry.2.map fun profile => ⟨normalizeProfileIdOrDefault [some entry.1], profile⟩

/-- The profiles of `ConvertLegacyState`. -/
def convertLegacyState (file : JsonProfiles) : LoadedProfiles :=
  let loaded : LoadedProfiles :=
    match file.listed, file.sessionOverrideProfile with
    | [], some profile =>
        if stationProfileHasValues profile then
          let profileId :=
            normalizeProfileIdOrDefault [profile.profileName, some profile.stationCallsign]
          { stationProfiles := [⟨profileId, some profile⟩], activeProfileId := some profileId }
        else { stationProfiles := [], activeProfileId := normalizeOptional file.activeProfileId }
    | listed, _ =>
        { stationProfiles := listed, activeProfileId := normalizeOptional file.activeProfileId }
  loaded.orFirst

/-- `Load`. -/
def ProfileSource.load : ProfileSource → LoadedProfiles
  | toml file => parseToml file
  | legacyJson file => convertLegacyState file

/-- The engine has just been made from a configuration. -/
def Started (source : ProfileSource) (s : ManagedEngineState) : Prop :=
  s.stationProfiles = source.load.stationProfiles
    ∧ s.activeProfileId = normalizeOptional source.load.activeProfileId

/-! ### Calls -/

/-- The calls that change profiles. -/
inductive ProfileCall where
  | saveSetup (request : SaveSetupRequest)
  | saveStationProfile (request : SaveStationProfileRequest)
  | setActiveStationProfile (profileId : String)
  | deleteStationProfile (profileId : String)
  | setSessionStationProfileOverride (profile : StationProfile)
  | clearSessionStationProfileOverride

/-- The state after a call, whether it throws or not. -/
def ProfileCall.after (w : Surroundings) (s : ManagedEngineState) :
    ProfileCall → ManagedEngineState
  | saveSetup request => (serve (Setup.saveSetup w request) s).2
  | saveStationProfile request => (serve (Setup.saveStationProfile w request) s).2
  | setActiveStationProfile profileId => (serve (Setup.setActiveStationProfile w profileId) s).2
  | deleteStationProfile profileId => (serve (Setup.deleteStationProfile w profileId) s).2
  | setSessionStationProfileOverride profile =>
      (serve (Setup.setSessionStationProfileOverride profile) s).2
  | clearSessionStationProfileOverride => (serve Setup.clearSessionStationProfileOverride s).2

/-- A call of a run. -/
structure Moment where
  call : ProfileCall
  surroundings : Surroundings
  before : ManagedEngineState
  after : ManagedEngineState

/-- One call of a run. -/
def ProfileStep (s : ManagedEngineState) (m : Moment) (s' : ManagedEngineState) : Prop :=
  m.call.after m.surroundings s = s' ∧ m.before = s ∧ m.after = s'

/-! ### What holds of the profiles -/

/-- The ids, as the lookups compare them. -/
def ids (profiles : List ManagedPersistedStationProfile) : List String :=
  profiles.map (·.profileId)

/-- No two profiles have one id, and the active one exists. -/
structure Sound (s : ManagedEngineState) : Prop where
  distinct : (ids s.stationProfiles).Nodup
  active : s.stationProfiles ≠ [] →
    ∃ profileId, s.activeProfileId = some profileId ∧ profileId ∈ ids s.stationProfiles

/-- The name of a stored profile. -/
def name (entry : ManagedPersistedStationProfile) : Option String :=
  entry.profile.bind (·.profileName)

/-- What a request stores, and under which id. -/
def savedAs (request : SaveStationProfileRequest) : Option (String × StationProfile) :=
  request.profile.bind fun profile =>
    (normalizeStationProfile profile).toOption.map fun normalized =>
      (normalizeProfileIdOrDefault
        [some (normalizeProfileIdOrDefault
          [request.profileId, profile.profileName, some profile.stationCallsign]),
          normalized.profileName, some normalized.stationCallsign], normalized)

/-- The request is for this profile: for its id and, if it gives none itself, for
its name. -/
def IsFor (request : SaveStationProfileRequest) (entry : ManagedPersistedStationProfile) : Prop :=
  ∃ profileId profile, savedAs request = some (profileId, profile)
    ∧ entry.profileId = profileId
    ∧ (normalizeProfileId request.profileId = none → name entry = profile.profileName)

/-- Saving a profile leaves every other one where and as it is. -/
def Framed (m : Moment) : Prop :=
  match m.call with
  | .saveStationProfile request =>
      ∀ (i : ℕ) (entry), m.before.stationProfiles[i]? = some entry → ¬ IsFor request entry →
        m.after.stationProfiles[i]? = some entry
  | _ => True

/-! ### When it holds -/

/-- The active id of a file is blank, or names a profile of it. -/
def Names (activeProfileId : Option String) (profiles : List ManagedPersistedStationProfile) :
    Prop :=
  ∀ profileId, normalizeOptional activeProfileId = some profileId → profileId ∈ ids profiles

/-- The profiles of the configuration have different ids after normalisation, and
its active id, if it has one, is among them. -/
def ProfileSource.Loads : ProfileSource → Prop
  | toml file =>
      (ids file.listed).Nodup ∧
        if file.listed = [] then
          stationProfileHasValues file.stationProfile = true →
            ∀ profileId, normalizeOptional file.activeProfileId = some profileId →
              profileId = file.legacyId
        else Names file.activeProfileId file.listed
  | legacyJson file =>
      (ids file.listed).Nodup ∧ (file.listed ≠ [] → Names file.activeProfileId file.listed)

/-- The first profile is saved as the active one, unless there is no other active
id; and a profile that is saved without an id has no namesake by id only. -/
def Orderly (m : Moment) : Prop :=
  match m.call with
  | .saveStationProfile request =>
      ∀ profileId profile, savedAs request = some (profileId, profile) →
        (m.before.stationProfiles = [] → request.makeActive = false →
          NetText.isNullOrWhiteSpace m.before.activeProfileId = false →
          m.before.activeProfileId = some profileId)
        ∧ (normalizeProfileId request.profileId = none →
          ∀ entry ∈ m.before.stationProfiles.find? (·.named profileId),
            name entry = profile.profileName)
  | _ => True

/-! ### Ids are not blank -/

theorem trim_eq_self {text : String} (h : ∀ c ∈ text.toList, Text.isWhitespace c = false) :
    Text.trim text = text := by
  rw [← String.toList_inj, Text.toList_trim, Text.trimList]
  have hfront : text.toList.dropWhile Text.isWhitespace = text.toList := by
    rw [List.dropWhile_eq_self_iff]
    intro hpos
    rw [h _ (List.getElem_mem hpos)]
    exact Bool.false_ne_true
  rw [hfront, List.rdropWhile_eq_self_iff]
  intro hne
  rw [h _ (List.getLast_mem hne)]
  exact Bool.false_ne_true

/-- The characters of an id. -/
def IsOfId (c : Char) : Prop := isIdChar c = true ∨ c = '-'

theorem isWhitespace_of_isOfId {c : Char} (h : IsOfId c) : Text.isWhitespace c = false := by
  have hcode : 0x2D ≤ c.toNat ∧ c.toNat ≤ 0x7A := by
    rcases h with hid | rfl
    · simp only [isIdChar, Bool.or_eq_true, decide_eq_true_eq] at hid
      rcases hid with ⟨hlo, hhi⟩ | ⟨hlo, hhi⟩
      · exact ⟨le_trans (by decide) hlo, hhi⟩
      · exact ⟨le_trans (by decide) hlo, le_trans hhi (by decide)⟩
    · decide
  simp only [Text.isWhitespace, Unicode.isSpaceCode]
  simp
  omega

theorem isOfId_of_mem_replaceRuns {replaced : Bool} {cs : List Char} {c : Char}
    (h : c ∈ replaceRuns replaced cs) : IsOfId c := by
  induction cs generalizing replaced with
  | nil => cases h
  | cons d cs ih =>
      rw [replaceRuns] at h
      split at h
      · rename_i hid
        rcases List.mem_cons.mp h with rfl | hrest
        · exact .inl hid
        · exact ih hrest
      · split at h
        · exact ih h
        · rcases List.mem_cons.mp h with rfl | hrest
          · exact .inr rfl
          · exact ih hrest

theorem mem_of_mem_trimDashes {cs : List Char} {c : Char} (h : c ∈ trimDashes cs) : c ∈ cs :=
  (List.dropWhile_sublist _).subset ((List.rdropWhile_prefix _ _).subset h)

/-- What every id is. -/
structure IsId (profileId : String) : Prop where
  ne_empty : profileId ≠ ""
  chars : ∀ c ∈ profileId.toList, IsOfId c

theorem isId_of_normalizeProfileId {candidate : Option String} {profileId : String}
    (h : normalizeProfileId candidate = some profileId) : IsId profileId := by
  rw [normalizeProfileId, Option.bind_eq_some_iff] at h
  obtain ⟨text, -, h⟩ := h
  dsimp only at h
  split at h
  · cases h
  rename_i hne
  rw [← Option.some.inj h]
  refine ⟨fun hempty => hne ?_, fun c hc => ?_⟩
  · have hlist := congrArg String.toList hempty
    rw [String.toList_ofList] at hlist
    rw [hlist]
    rfl
  · rw [String.toList_ofList] at hc
    exact isOfId_of_mem_replaceRuns (mem_of_mem_trimDashes hc)

theorem isId_normalizeProfileIdOrDefault (candidates : List (Option String)) :
    IsId (normalizeProfileIdOrDefault candidates) := by
  rw [normalizeProfileIdOrDefault]
  rcases hfirst : candidates.findSome? normalizeProfileId with - | profileId
  · refine ⟨by decide, fun c hc => ?_⟩
    have hlist : "default".toList = ['d', 'e', 'f', 'a', 'u', 'l', 't'] := rfl
    have hall : ∀ c ∈ ['d', 'e', 'f', 'a', 'u', 'l', 't'], isIdChar c = true := by
      simp [isIdChar]
    rw [Option.getD_none, hlist] at hc
    exact .inl (hall c hc)
  · obtain ⟨candidate, -, hid⟩ := List.exists_of_findSome?_eq_some hfirst
    exact isId_of_normalizeProfileId hid

/-- An id is not blank, and trimming leaves it as it is. -/
theorem IsId.normalizeOptional {profileId : String} (h : IsId profileId) :
    NetText.isWhiteSpace profileId = false
      ∧ normalizeOptional (some profileId) = some profileId := by
  have htrim : Text.trim profileId = profileId :=
    trim_eq_self fun c hc => isWhitespace_of_isOfId (h.chars c hc)
  have hnonblank : NetText.isWhiteSpace profileId = false := by
    rw [NetText.isWhiteSpace, htrim, Bool.eq_false_iff]
    exact fun hempty => h.ne_empty (String.isEmpty_iff.mp hempty)
  refine ⟨hnonblank, ?_⟩
  rw [Setup.normalizeOptional, Option.bind_some, hnonblank, if_neg Bool.false_ne_true, htrim]

/-! ### Loading -/

theorem mem_ids {profiles : List ManagedPersistedStationProfile} {profileId : String} :
    profileId ∈ ids profiles ↔ ∃ entry ∈ profiles, entry.profileId = profileId := List.mem_map

theorem isId_of_mem_listed {file : TomlProfiles} {profileId : String}
    (h : profileId ∈ ids file.listed) : IsId profileId := by
  obtain ⟨entry, hentry, rfl⟩ := mem_ids.mp h
  obtain ⟨source, -, rfl⟩ := List.mem_map.mp hentry
  exact isId_normalizeProfileIdOrDefault _

theorem isId_of_mem_json_listed {file : JsonProfiles} {profileId : String}
    (h : profileId ∈ ids file.listed) : IsId profileId := by
  obtain ⟨entry, hentry, rfl⟩ := mem_ids.mp h
  obtain ⟨source, -, heq⟩ := List.mem_filterMap.mp hentry
  split at heq
  · cases heq
  · obtain ⟨profile, -, rfl⟩ := Option.map_eq_some_iff.mp heq
    exact isId_normalizeProfileIdOrDefault _

theorem normalizeOptional_idem (value : Option String) :
    normalizeOptional (normalizeOptional value) = normalizeOptional value := by
  rcases value with - | text
  · rfl
  · simp only [Setup.normalizeOptional, Option.bind_some]
    by_cases hblank : NetText.isWhiteSpace text = true
    · rw [if_pos hblank, Option.bind_none]
    · have htrimmed : ¬ NetText.isWhiteSpace (Text.trim text) = true := by
        rwa [NetText.isWhiteSpace, Text.trim_trim]
      rw [if_neg hblank, Option.bind_some, if_neg htrimmed, Text.trim_trim]

/-- A normalised text is blank only when there is none. -/
theorem isNullOrWhiteSpace_normalizeOptional (value : Option String) :
    NetText.isNullOrWhiteSpace (normalizeOptional value) = (normalizeOptional value).isNone := by
  rcases value with - | text
  · rfl
  · simp only [Setup.normalizeOptional, Option.bind_some]
    by_cases hblank : NetText.isWhiteSpace text = true
    · rw [if_pos hblank]
      rfl
    · have htrimmed : NetText.isWhiteSpace (Text.trim text) = false := by
        rw [NetText.isWhiteSpace, Text.trim_trim]
        exact Bool.eq_false_iff.mpr hblank
      rw [if_neg hblank]
      exact htrimmed

/-- Listed profiles: the active id is the given one, or the first. -/
theorem orFirst_active {profiles : List ManagedPersistedStationProfile} {active : Option String}
    (hids : ∀ profileId ∈ ids profiles, IsId profileId) :
    let loaded := (LoadedProfiles.mk profiles (normalizeOptional active)).orFirst
    loaded.stationProfiles = profiles
      ∧ (profiles ≠ [] → ((∃ profileId, normalizeOptional loaded.activeProfileId = some profileId
          ∧ profileId ∈ ids profiles) ↔ Names active profiles)) := by
  dsimp only
  rw [LoadedProfiles.orFirst, Names]
  dsimp only
  rw [isNullOrWhiteSpace_normalizeOptional]
  rcases hactive : normalizeOptional active with - | given
  · rcases profiles with - | ⟨first, rest⟩
    · exact ⟨rfl, fun hno => absurd rfl hno⟩
    · refine ⟨rfl, fun _ => iff_of_true ⟨first.profileId, ?_, ?_⟩ fun _ hno => nomatch hno⟩
      · exact (hids first.profileId List.mem_cons_self).normalizeOptional.2
      · exact List.mem_cons_self
  · have hsame : normalizeOptional (some given) = some given := by
      rw [← hactive, normalizeOptional_idem]
    simp only [Option.isNone_some, Bool.false_eq_true, if_false, hsame]
    refine ⟨trivial, fun _ => ⟨?_, ?_⟩⟩
    · rintro ⟨profileId, heq, hmem⟩ profileId' heq'
      rw [heq] at heq'
      cases heq'
      exact hmem
    · intro hnames
      exact ⟨given, rfl, hnames given rfl⟩

/-- The active profile exists, if there are profiles. -/
def HasActive (s : ManagedEngineState) : Prop :=
  s.stationProfiles ≠ [] →
    ∃ profileId, s.activeProfileId = some profileId ∧ profileId ∈ ids s.stationProfiles

theorem sound_iff {s : ManagedEngineState} :
    Sound s ↔ (ids s.stationProfiles).Nodup ∧ HasActive s :=
  ⟨fun h => ⟨h.distinct, h.active⟩, fun h => ⟨h.1, h.2⟩⟩

/-- One profile that is not listed: it is active unless another id is given. -/
theorem single_active {profile : StationProfile} {profileId : String} {active : Option String}
    (hid : IsId profileId) :
    let loaded := (LoadedProfiles.mk [⟨profileId, some profile⟩]
      ((normalizeOptional active).or (some profileId))).orFirst
    loaded.stationProfiles = [⟨profileId, some profile⟩]
      ∧ ((∃ other, normalizeOptional loaded.activeProfileId = some other
          ∧ other ∈ ids [⟨profileId, some profile⟩])
        ↔ ∀ given, normalizeOptional active = some given → given = profileId) := by
  have hfirst : ∀ other, other ∈ ids [⟨profileId, some profile⟩] ↔ other = profileId :=
    fun other => List.mem_singleton
  rcases hactive : normalizeOptional active with - | given
  · have hkept : (LoadedProfiles.mk [⟨profileId, some profile⟩] (some profileId)).orFirst
        = ⟨[⟨profileId, some profile⟩], some profileId⟩ := by
      rw [LoadedProfiles.orFirst]
      split <;> rfl
    rw [Option.none_or, hkept]
    refine ⟨rfl, iff_of_true ⟨profileId, hid.normalizeOptional.2, (hfirst _).mpr rfl⟩ ?_⟩
    exact fun _ hno => nomatch hno
  · have hsame : normalizeOptional (some given) = some given := by
      rw [← hactive, normalizeOptional_idem]
    have hnonblank : NetText.isNullOrWhiteSpace (some given) = false := by
      rw [← hactive, isNullOrWhiteSpace_normalizeOptional, hactive]
      rfl
    rw [Option.some_or, LoadedProfiles.orFirst]
    dsimp only
    rw [hnonblank, if_neg Bool.false_ne_true, hsame]
    refine ⟨rfl, ?_⟩
    constructor
    · rintro ⟨other, heq, hmem⟩ given' heq'
      cases heq
      cases heq'
      exact (hfirst _).mp hmem
    · intro hall
      exact ⟨given, rfl, (hfirst _).mpr (hall given rfl)⟩

/-- Nothing is loaded. -/
theorem none_loaded (active : Option String) :
    (LoadedProfiles.mk [] active).orFirst.stationProfiles = [] := by
  rw [LoadedProfiles.orFirst]
  split <;> rfl

/-- **What is loaded is sound** exactly when the file is. -/
theorem started_sound_iff {source : ProfileSource} {s : ManagedEngineState}
    (h : Started source s) : Sound s ↔ source.Loads := by
  obtain ⟨hprofiles, hactive⟩ := h
  rw [sound_iff, HasActive, hprofiles, hactive]
  rcases source with file | file
  · rw [ProfileSource.load, parseToml, ProfileSource.Loads]
    by_cases hlisted : file.listed = []
    · rw [hlisted, if_pos rfl]
      rcases hvalues : stationProfileHasValues file.stationProfile
      · rw [Bool.and_false, if_neg Bool.false_ne_true, none_loaded]
        simp [ids]
      · obtain ⟨hsame, hgiven⟩ := @single_active file.stationProfile _
          file.activeProfileId (isId_normalizeProfileIdOrDefault _)
        rw [List.isEmpty_nil, Bool.and_true, if_pos rfl, TomlProfiles.legacyId, hsame]
        simp only [forall_const]
        refine and_congr (iff_of_true (List.nodup_singleton _) List.nodup_nil) ?_
        rw [← hgiven]
        exact ⟨fun hall => hall (List.cons_ne_nil _ _), fun hall _ => hall⟩
    · have hfull : file.listed.isEmpty = false := List.isEmpty_eq_false_iff.mpr hlisted
      obtain ⟨hsame, hnames⟩ := @orFirst_active _ file.activeProfileId
        (fun _ => @isId_of_mem_listed file _)
      rw [hfull, Bool.false_and, if_neg Bool.false_ne_true, if_neg hlisted, hsame]
      refine and_congr_right fun _ => ?_
      exact ⟨fun hall => (hnames hlisted).mp (hall hlisted),
        fun hall _ => (hnames hlisted).mpr hall⟩
  · rw [ProfileSource.load, convertLegacyState, ProfileSource.Loads]
    obtain ⟨hsame, hnames⟩ := @orFirst_active _ file.activeProfileId
      (fun _ => @isId_of_mem_json_listed file _)
    rcases hlisted : file.listed with - | ⟨first, rest⟩
    · rcases file.sessionOverrideProfile with - | profile
      · rw [none_loaded]
        simp [ids]
      · dsimp only
        split
        · have hid : IsId (normalizeProfileIdOrDefault
              [profile.profileName, some profile.stationCallsign]) :=
            isId_normalizeProfileIdOrDefault _
          obtain ⟨hsingle, hgiven⟩ := @single_active profile _ none hid
          rw [show normalizeOptional none = none from rfl, Option.none_or] at hsingle hgiven
          rw [hsingle]
          refine and_congr (iff_of_true (List.nodup_singleton _) List.nodup_nil) ?_
          refine iff_of_true (fun _ => hgiven.mpr fun _ hno => nomatch hno) fun hno => ?_
          exact absurd rfl hno
        · rw [none_loaded]
          simp [ids]
    · rw [hlisted] at hsame hnames
      dsimp only
      rw [hsame]
      refine and_congr_right fun _ => ?_
      exact ⟨fun hall hne => (hnames hne).mp (hall hne),
        fun hall hne => (hnames hne).mpr (hall hne)⟩

/-! ### What a call does to the profiles -/

/-- The profiles and the active id are what they were. -/
def Same (s s' : ManagedEngineState) : Prop :=
  s'.stationProfiles = s.stationProfiles ∧ s'.activeProfileId = s.activeProfileId

theorem Same.trans {s s' s'' : ManagedEngineState} (h : Same s s') (h' : Same s' s'') :
    Same s s'' := ⟨h'.1.trans h.1, h'.2.trans h.2⟩

variable {α β : Type}

/-- A statement that leaves the profiles alone, whether it throws or not. -/
def Keeps (m : SetupM α) : Prop := ∀ s, Same s (serve m s).2

theorem Keeps.bind {m : SetupM α} {f : α → SetupM β} (hm : Keeps m) (hf : ∀ a, Keeps (f a)) :
    Keeps (m >>= f) := by
  intro s
  rw [serve_bind]
  have hfirst := hm s
  rcases hserve : serve m s with ⟨error | a, s'⟩
  · rw [hserve] at hfirst
    exact hfirst
  · rw [hserve] at hfirst
    exact hfirst.trans (hf a s')

theorem keeps_pure (a : α) : Keeps (pure a) := fun _ => ⟨rfl, rfl⟩

theorem keeps_throw (error : SetupException) : Keeps (throw error : SetupM α) :=
  fun _ => ⟨rfl, rfl⟩

theorem keeps_modify {f : ManagedEngineState → ManagedEngineState} (hf : ∀ s, Same s (f s)) :
    Keeps (modify f) := hf

theorem same_syncPersistedProfiles (s : ManagedEngineState) : Same s (syncPersistedProfiles s) :=
  ⟨rfl, rfl⟩

theorem same_override (key : String) (value : Option String) (s : ManagedEngineState) :
    Same s (s.override key value) := ⟨rfl, rfl⟩

theorem same_withBase (s : ManagedEngineState) : Same s (withBase s) := ⟨rfl, rfl⟩

theorem keeps_get : Keeps get := fun _ => ⟨rfl, rfl⟩

theorem keeps_persist (w : Surroundings) : Keeps (persist w) := by
  refine keeps_get.bind fun s => ?_
  rcases saveError w s with - | error
  · exact keeps_modify fun _ => ⟨rfl, rfl⟩
  · exact keeps_throw error

theorem keeps_rebuildSyncEngine (w : Surroundings) : Keeps (rebuildSyncEngine w) := by
  refine keeps_get.bind fun s => ?_
  split
  · rcases rebuildError w s with - | error
    · exact keeps_pure ()
    · exact keeps_throw error
  · exact keeps_pure ()

theorem keeps_persistRequestedSecret (w : Surroundings) (secret : QrzSecret)
    (value : Option String) : Keeps (persistRequestedSecret w secret value) := by
  unfold persistRequestedSecret
  split
  · exact keeps_pure ()
  · exact keeps_throw _
  · exact keeps_modify fun _ => ⟨rfl, rfl⟩

theorem keeps_normalizedIngest (request : SaveSetupRequest) : Keeps (normalizedIngest request) := by
  rw [normalizedIngest]
  split
  · exact keeps_pure _
  · split
    · exact keeps_throw _
    · exact keeps_pure _

theorem keeps_parseProfile (entry : ManagedPersistedStationProfile) :
    Keeps (parseProfile entry) := by
  rw [parseProfile]
  split
  · exact keeps_throw _
  · exact keeps_pure _

theorem keeps_buildStationProfileRecord (entry : ManagedPersistedStationProfile) :
    Keeps (buildStationProfileRecord entry) :=
  (keeps_parseProfile entry).bind fun _ => keeps_get.bind fun _ => keeps_pure _

theorem keeps_getPersistedActiveProfile : Keeps getPersistedActiveProfile := by
  refine keeps_get.bind fun s => ?_
  split
  · exact keeps_pure _
  · exact (keeps_parseProfile _).bind fun _ => keeps_pure _

/-- What `SaveStationProfileNoLock` does. -/
theorem saveStationProfileNoLock_cases (profileId : String) (profile : StationProfile)
    (makeActive : Bool) (s : ManagedEngineState) :
    let s' := (serve (saveStationProfileNoLock profileId profile makeActive) s).2
    match normalizeStationProfile profile with
    | .error _ => Same s s'
    | .ok normalized =>
        Same (withStationProfile (normalizeProfileIdOrDefault
          [some profileId, normalized.profileName, some normalized.stationCallsign])
          normalized makeActive s) s' := by
  dsimp only
  rw [saveStationProfileNoLock]
  rcases normalizeStationProfile profile with error | normalized
  · exact ⟨rfl, rfl⟩
  · dsimp only
    rw [serve_bind, serve_modify]
    exact keeps_buildStationProfileRecord _ _

/-- What `SaveStationProfile` does: it stores the request's profile, or throws
before it has changed any. -/
theorem saveStationProfile_cases (w : Surroundings) (request : SaveStationProfileRequest)
    (s : ManagedEngineState) :
    let s' := (serve (saveStationProfile w request) s).2
    match savedAs request with
    | none => Same s s'
    | some (profileId, profile) =>
        Same (withStationProfile profileId profile request.makeActive s) s' := by
  dsimp only
  rw [saveStationProfile, savedAs]
  rcases request.profile with - | profile
  · exact ⟨rfl, rfl⟩
  dsimp only
  have hsave := saveStationProfileNoLock_cases
    (normalizeProfileIdOrDefault [request.profileId, profile.profileName,
      some profile.stationCallsign]) profile request.makeActive s
  have hrest : ∀ record : StationProfileRecord, Keeps (do
      modify syncPersistedProfiles
      persist w
      return record) := fun record =>
    (keeps_modify same_syncPersistedProfiles).bind fun _ =>
      (keeps_persist w).bind fun _ => keeps_pure record
  rw [serve_bind]
  rcases hserve : serve (saveStationProfileNoLock (normalizeProfileIdOrDefault
    [request.profileId, profile.profileName, some profile.stationCallsign]) profile
    request.makeActive) s with ⟨error | record, s'⟩
  · rw [hserve] at hsave
    rcases hnormal : normalizeStationProfile profile with message | normalized
    · rw [hnormal] at hsave
      simpa [hnormal, Except.toOption] using hsave
    · rw [hnormal] at hsave
      simpa [hnormal, Except.toOption] using hsave
  · rw [hserve] at hsave
    rcases hnormal : normalizeStationProfile profile with message | normalized
    · rw [hnormal] at hsave
      simpa [hnormal, Except.toOption] using hsave.trans (hrest record s')
    · rw [hnormal] at hsave
      simpa [hnormal, Except.toOption] using hsave.trans (hrest record s')

/-- A profile may have been stored as the active one. -/
def MaySave (s s' : ManagedEngineState) : Prop :=
  Same s s' ∨ ∃ profileId profile, Same (withStationProfile profileId profile true s) s'

theorem MaySave.after {s s' s'' : ManagedEngineState} (h : MaySave s' s'') (hs : Same s s') :
    MaySave s s'' := by
  obtain ⟨hprofiles, hactive⟩ := hs
  rcases h with hsame | ⟨profileId, profile, hsaved⟩
  · exact .inl (Same.trans ⟨hprofiles, hactive⟩ hsame)
  · refine .inr ⟨profileId, profile, ?_⟩
    rw [Same, withStationProfile, hprofiles, hactive] at hsaved
    exact hsaved

theorem MaySave.before {s s' s'' : ManagedEngineState} (h : MaySave s s') (hs : Same s' s'') :
    MaySave s s'' := by
  rcases h with hsame | ⟨profileId, profile, hsaved⟩
  · exact .inl (hsame.trans hs)
  · exact .inr ⟨profileId, profile, hsaved.trans hs⟩

/-- A statement that stores at most one profile, as the active one. -/
def Saves (m : SetupM α) : Prop := ∀ s, MaySave s (serve m s).2

/-- A statement before it. -/
theorem Saves.after {m : SetupM α} {f : α → SetupM β} (hf : ∀ a, Saves (f a)) (hm : Keeps m) :
    Saves (m >>= f) := by
  intro s
  rw [serve_bind]
  have hfirst := hm s
  rcases hserve : serve m s with ⟨error | a, s'⟩
  · rw [hserve] at hfirst
    exact .inl hfirst
  · rw [hserve] at hfirst
    exact (hf a s').after hfirst

/-- Statements behind it. -/
theorem Saves.bind {m : SetupM α} {f : α → SetupM β} (hm : Saves m) (hf : ∀ a, Keeps (f a)) :
    Saves (m >>= f) := by
  intro s
  rw [serve_bind]
  have hfirst := hm s
  rcases hserve : serve m s with ⟨error | a, s'⟩
  · rw [hserve] at hfirst
    exact hfirst
  · rw [hserve] at hfirst
    exact hfirst.before (hf a s')

theorem saves_saveRequestedProfile (request : SaveSetupRequest) :
    Saves (saveRequestedProfile request) := by
  rw [saveRequestedProfile]
  rcases request.stationProfile with - | profile
  · exact fun _ => .inl ⟨rfl, rfl⟩
  refine Saves.bind (fun s => ?_) fun _ => keeps_pure ()
  have hsave := saveStationProfileNoLock_cases
    (normalizeProfileIdOrDefault [profile.profileName, some profile.stationCallsign]) profile true s
  rcases hnormal : normalizeStationProfile profile with error | normalized
  · rw [hnormal] at hsave
    exact .inl hsave
  · rw [hnormal] at hsave
    exact .inr ⟨_, _, hsave⟩

theorem same_withQrzXmlUsername (username : Option String) (s : ManagedEngineState) :
    Same s (withQrzXmlUsername username s) := by
  unfold withQrzXmlUsername
  split <;> exact ⟨rfl, rfl⟩

theorem same_withQrzXmlPassword (password : Option String) (s : ManagedEngineState) :
    Same s (withQrzXmlPassword password s) := by
  unfold withQrzXmlPassword
  split <;> exact ⟨rfl, rfl⟩

theorem same_withQrzLogbookApiKey (apiKey : Option String) (s : ManagedEngineState) :
    Same s (withQrzLogbookApiKey apiKey s) := by
  unfold withQrzLogbookApiKey
  split <;> exact ⟨rfl, rfl⟩

theorem same_withSyncConfig (config : Option SyncConfig) (s : ManagedEngineState) :
    Same s (withSyncConfig config s) := by
  unfold withSyncConfig
  split <;> exact ⟨rfl, rfl⟩

theorem same_withRigControl (settings : Option RigControlSettings) (s : ManagedEngineState) :
    Same s (withRigControl settings s) := by
  unfold withRigControl
  split <;> exact ⟨rfl, rfl⟩

theorem same_withWsjtxIngest (settings : Option WsjtxIngestSettings) (s : ManagedEngineState) :
    Same s (withWsjtxIngest settings s) := by
  unfold withWsjtxIngest
  split <;> exact ⟨rfl, rfl⟩

theorem same_withStorage (request : SaveSetupRequest) (s : ManagedEngineState) :
    Same s (withStorage request s) := by
  unfold withStorage
  split <;> exact ⟨rfl, rfl⟩

theorem same_withCredentials (request : SaveSetupRequest) (s : ManagedEngineState) :
    Same s (withCredentials request s) :=
  (same_withQrzXmlUsername _ s).trans <|
    (same_withQrzXmlPassword _ _).trans (same_withQrzLogbookApiKey _ _)

theorem same_withSettings (request : SaveSetupRequest) (ingest : Option WsjtxIngestSettings)
    (s : ManagedEngineState) : Same s (withSettings request ingest s) :=
  (same_withSyncConfig _ s).trans <|
    (same_withRigControl _ _).trans <|
      (same_withWsjtxIngest _ _).trans <|
        (same_withStorage request _).trans <|
          (same_syncPersistedProfiles _).trans <|
            (same_override storageBackendKey none _).trans (same_withBase _)

/-- What `SaveSetup` does to the profiles: it stores the request's profile as the
active one, or leaves them alone. -/
theorem saves_saveSetup (w : Surroundings) (request : SaveSetupRequest) :
    Saves (saveSetup w request) := by
  refine Saves.after (fun _ => ?_) (keeps_persistRequestedSecret w _ _)
  refine Saves.after (fun _ => ?_) (keeps_persistRequestedSecret w _ _)
  refine Saves.after (fun ingest => ?_) (keeps_normalizedIngest request)
  refine (saves_saveRequestedProfile request).bind fun _ => ?_
  refine (keeps_modify (same_withCredentials request)).bind fun _ => ?_
  have hrest : Keeps (do
      modify (withSettings request ingest)
      persist w
      let _ ← getPersistedActiveProfile) := by
    refine (keeps_modify (same_withSettings request ingest)).bind fun _ => ?_
    refine (keeps_persist w).bind fun _ => ?_
    exact keeps_getPersistedActiveProfile.bind fun _ => keeps_pure ()
  split
  · exact (keeps_rebuildSyncEngine w).bind fun _ => hrest
  · exact hrest

/-- What `SetActiveStationProfile` does: an existing profile becomes active. -/
theorem setActiveStationProfile_cases (w : Surroundings) (profileId : String)
    (s : ManagedEngineState) :
    let s' := (serve (setActiveStationProfile w profileId) s).2
    Same s s' ∨ ∃ entry ∈ s.stationProfiles,
      Same { s with activeProfileId := some entry.profileId } s' := by
  dsimp only
  rw [setActiveStationProfile, serve_bind, throwIfWhiteSpace]
  by_cases hblank : NetText.isWhiteSpace profileId = true
  · rw [if_pos hblank]
    exact .inl ⟨rfl, rfl⟩
  rw [if_neg hblank, serve_pure]
  dsimp only
  rw [serve_bind, serve_get]
  dsimp only
  split
  · exact .inl ⟨rfl, rfl⟩
  · rename_i stored hfound
    right
    refine ⟨stored, List.mem_of_find?_eq_some hfound, ?_⟩
    rw [serve_bind, serve_modify]
    have hrest : Keeps (do
        persist w
        some <$> buildStationProfileRecord stored) :=
      (keeps_persist w).bind fun _ =>
        (keeps_buildStationProfileRecord stored).bind fun _ => keeps_pure _
    exact hrest _

/-- What `DeleteStationProfile` does: a profile that is not active goes. -/
theorem deleteStationProfile_cases (w : Surroundings) (profileId : String)
    (s : ManagedEngineState) :
    let s' := (serve (deleteStationProfile w profileId) s).2
    Same s s' ∨ ∃ removed, s.activeProfileId ≠ some removed
      ∧ Same (withoutStationProfile removed s) s' := by
  dsimp only
  rw [deleteStationProfile, serve_bind, throwIfWhiteSpace]
  by_cases hblank : NetText.isWhiteSpace profileId = true
  · rw [if_pos hblank]
    exact .inl ⟨rfl, rfl⟩
  rw [if_neg hblank, serve_pure]
  dsimp only
  rw [serve_bind, serve_get]
  dsimp only
  split
  · exact .inl ⟨rfl, rfl⟩
  rename_i hinactive
  split
  · right
    refine ⟨Text.trim profileId, fun hactive => hinactive (by rw [hactive, beq_self_eq_true]), ?_⟩
    rw [serve_bind, serve_modify]
    have hrest : Keeps (do
        persist w
        return StationProfileDeleteOutcome.deleted) :=
      (keeps_persist w).bind fun _ => keeps_pure _
    exact hrest _
  · exact .inl ⟨rfl, rfl⟩

/-! ### Storing a profile -/

theorem named_iff {profileId : String} {entry : ManagedPersistedStationProfile} :
    entry.named profileId = true ↔ entry.profileId = profileId := by
  rw [ManagedPersistedStationProfile.named, beq_iff_eq]

/-- The ids after a profile has been stored. -/
theorem ids_putProfile (profileId : String) (profile : StationProfile)
    (profiles : List ManagedPersistedStationProfile) :
    ids (putProfile profileId profile profiles)
      = if profileId ∈ ids profiles then ids profiles else ids profiles ++ [profileId] := by
  induction profiles with
  | nil => rfl
  | cons entry profiles ih =>
      rw [putProfile]
      by_cases hnamed : entry.named profileId = true
      · have hmem : profileId ∈ ids (entry :: profiles) := by
          rw [← named_iff.mp hnamed]
          exact List.mem_cons_self
        rw [if_pos hnamed, if_pos hmem]
        rfl
      · have hother : profileId ≠ entry.profileId := fun heq => hnamed (named_iff.mpr heq.symm)
        have hmem : profileId ∈ ids (entry :: profiles) ↔ profileId ∈ ids profiles := by
          rw [ids, List.map_cons, List.mem_cons]
          exact or_iff_right hother
        rw [if_neg hnamed]
        show entry.profileId :: ids (putProfile profileId profile profiles) = _
        rw [ih]
        simp only [hmem]
        split <;> rfl

theorem mem_ids_putProfile (profileId : String) (profile : StationProfile)
    (profiles : List ManagedPersistedStationProfile) :
    profileId ∈ ids (putProfile profileId profile profiles) := by
  rw [ids_putProfile]
  split
  · assumption
  · exact List.mem_append_right _ (List.mem_singleton_self _)

/-- Storing a profile adds no id twice. -/
theorem nodup_putProfile {profileId : String} {profile : StationProfile}
    {profiles : List ManagedPersistedStationProfile} (h : (ids profiles).Nodup) :
    (ids (putProfile profileId profile profiles)).Nodup := by
  rw [ids_putProfile]
  split
  · exact h
  · rename_i hnew
    refine List.nodup_append.mpr ⟨h, List.nodup_singleton _, fun a ha b hb heq => hnew ?_⟩
    rw [List.mem_singleton.mp hb] at heq
    rwa [← heq]

/-- An entry stays as it is, unless it is the first of the stored id. -/
theorem getElem?_putProfile (profileId : String) (profile : StationProfile)
    {profiles : List ManagedPersistedStationProfile} {i : ℕ}
    {entry : ManagedPersistedStationProfile} (h : profiles[i]? = some entry) :
    (putProfile profileId profile profiles)[i]? = some entry
      ∨ profiles.find? (·.named profileId) = some entry := by
  induction profiles generalizing i with
  | nil => simp at h
  | cons first profiles ih =>
      rw [putProfile]
      by_cases hnamed : first.named profileId = true
      · rw [if_pos hnamed, List.find?_cons_of_pos hnamed]
        rcases i with - | i
        · right
          simpa using h
        · left
          simpa using h
      · rw [if_neg hnamed, List.find?_cons_of_neg hnamed]
        rcases i with - | i
        · left
          simpa using h
        · have h' : profiles[i]? = some entry := by simpa using h
          rcases ih h' with hkept | hfound
          · left
            simpa using hkept
          · exact .inr hfound

/-- The first entry of the stored id gets the profile. -/
theorem getElem?_putProfile_found (profileId : String) (profile : StationProfile)
    {profiles : List ManagedPersistedStationProfile} {entry : ManagedPersistedStationProfile}
    (h : profiles.find? (·.named profileId) = some entry) :
    ∃ i : ℕ, profiles[i]? = some entry
      ∧ (putProfile profileId profile profiles)[i]?
        = some { entry with profile := some profile } := by
  induction profiles with
  | nil => cases h
  | cons first profiles ih =>
      rw [putProfile]
      by_cases hnamed : first.named profileId = true
      · rw [List.find?_cons_of_pos hnamed] at h
        cases h
        refine ⟨0, rfl, ?_⟩
        rw [if_pos hnamed]
        rfl
      · rw [List.find?_cons_of_neg hnamed] at h
        obtain ⟨i, hold, hnew⟩ := ih h
        refine ⟨i + 1, hold, ?_⟩
        rw [if_neg hnamed]
        exact hnew

/-! ### Runs -/

/-- Nothing has happened to the profiles. -/
theorem Sound.same {s s' : ManagedEngineState} (h : Sound s) (hs : Same s s') : Sound s' := by
  rw [sound_iff, HasActive, hs.1, hs.2]
  exact ⟨h.distinct, h.active⟩

/-- A profile has been stored: the active one exists unless an id that names no
profile was there before the first one. -/
theorem Sound.stored_iff {s s' : ManagedEngineState} {profileId : String}
    {profile : StationProfile} {makeActive : Bool} (h : Sound s)
    (hs : Same (withStationProfile profileId profile makeActive s) s') :
    Sound s' ↔ (s.stationProfiles = [] → makeActive = false →
      NetText.isNullOrWhiteSpace s.activeProfileId = false →
      s.activeProfileId = some profileId) := by
  rw [sound_iff, HasActive, hs.1, hs.2]
  dsimp only [withStationProfile]
  have hmem := mem_ids_putProfile profileId profile s.stationProfiles
  have hne : putProfile profileId profile s.stationProfiles ≠ [] := by
    rintro hnil
    rw [hnil] at hmem
    cases hmem
  rw [and_iff_right (nodup_putProfile h.distinct)]
  by_cases hnew : (makeActive || NetText.isNullOrWhiteSpace s.activeProfileId) = true
  · rw [if_pos hnew]
    refine iff_of_true (fun _ => ⟨profileId, rfl, hmem⟩) fun _ hoff hgiven => ?_
    rw [hoff, hgiven] at hnew
    cases hnew
  · rw [if_neg hnew]
    have hboth : makeActive = false ∧ NetText.isNullOrWhiteSpace s.activeProfileId = false := by
      rwa [Bool.not_eq_true, Bool.or_eq_false_iff] at hnew
    by_cases hempty : s.stationProfiles = []
    · rw [hempty]
      constructor
      · intro hactive _ _ _
        obtain ⟨active, heq, hin⟩ := hactive (List.cons_ne_nil _ _)
        rw [heq]
        have hsingle : active ∈ [profileId] := hin
        rw [List.mem_singleton.mp hsingle]
      · intro hactive _
        exact ⟨profileId, hactive rfl hboth.1 hboth.2, List.mem_cons_self⟩
    · refine iff_of_true (fun _ => ?_) fun hno => absurd hno hempty
      obtain ⟨active, heq, hin⟩ := h.active hempty
      refine ⟨active, heq, ?_⟩
      rw [ids_putProfile]
      split
      · exact hin
      · exact List.mem_append_left _ hin

/-- A profile that is not active is gone. -/
theorem Sound.removed {s s' : ManagedEngineState} {profileId : String} (h : Sound s)
    (hinactive : s.activeProfileId ≠ some profileId)
    (hs : Same (withoutStationProfile profileId s) s') : Sound s' := by
  rw [sound_iff, HasActive, hs.1, hs.2]
  dsimp only [withoutStationProfile]
  refine ⟨h.distinct.sublist (List.Sublist.map _ List.filter_sublist), fun hne => ?_⟩
  have hbefore : s.stationProfiles ≠ [] := by
    rintro hnil
    rw [hnil] at hne
    exact hne rfl
  obtain ⟨active, heq, hin⟩ := h.active hbefore
  obtain ⟨entry, hentry, hid⟩ := mem_ids.mp hin
  refine ⟨active, heq, mem_ids.mpr ⟨entry, List.mem_filter.mpr ⟨hentry, ?_⟩, hid⟩⟩
  rw [Bool.not_eq_true', Bool.eq_false_iff]
  intro hnamed
  refine hinactive ?_
  rw [heq, ← hid, named_iff.mp hnamed]

/-- Another profile is active. -/
theorem Sound.activated {s s' : ManagedEngineState} {entry : ManagedPersistedStationProfile}
    (h : Sound s) (hentry : entry ∈ s.stationProfiles)
    (hs : Same { s with activeProfileId := some entry.profileId } s') : Sound s' := by
  rw [sound_iff, HasActive, hs.1, hs.2]
  exact ⟨h.distinct, fun _ => ⟨entry.profileId, rfl, mem_ids.mpr ⟨entry, hentry, rfl⟩⟩⟩

/-- Saving leaves other profiles alone exactly when a request without an id finds
no profile of another name under its id. -/
theorem framed_iff {request : SaveStationProfileRequest} {s s' : ManagedEngineState}
    {profileId : String} {profile : StationProfile}
    (hsaved : savedAs request = some (profileId, profile))
    (hs : Same (withStationProfile profileId profile request.makeActive s) s') :
    (∀ (i : ℕ) (entry), s.stationProfiles[i]? = some entry → ¬ IsFor request entry →
        s'.stationProfiles[i]? = some entry)
      ↔ (normalizeProfileId request.profileId = none →
        ∀ entry ∈ s.stationProfiles.find? (·.named profileId),
          name entry = profile.profileName) := by
  have hisFor : ∀ entry, IsFor request entry ↔ entry.profileId = profileId
      ∧ (normalizeProfileId request.profileId = none → name entry = profile.profileName) := by
    intro entry
    rw [IsFor, hsaved]
    constructor
    · rintro ⟨_, _, heq, hid⟩
      cases heq
      exact hid
    · intro hid
      exact ⟨profileId, profile, rfl, hid⟩
  rw [hs.1]
  dsimp only [withStationProfile]
  constructor
  · intro hframed hnoid entry hfound
    by_contra hname
    obtain ⟨i, hold, hnew⟩ := getElem?_putProfile_found profileId profile hfound
    have hkept := hframed i entry hold fun hfor => hname (((hisFor entry).mp hfor).2 hnoid)
    rw [hkept] at hnew
    refine hname ?_
    rw [Option.some.inj hnew]
    rfl
  · intro hnames i entry hold hother
    rcases getElem?_putProfile profileId profile hold with hkept | hfound
    · exact hkept
    · refine absurd ((hisFor entry).mpr ⟨?_, fun hnoid => hnames hnoid entry hfound⟩) hother
      exact named_iff.mp (List.find?_some hfound)

/-- **One call.** -/
theorem Sound.step {s s' : ManagedEngineState} {m : Moment} (h : Sound s)
    (hstep : ProfileStep s m s') : Sound s' ∧ Framed m ↔ Orderly m := by
  obtain ⟨call, w, before, after⟩ := m
  obtain ⟨hafter, rfl, rfl⟩ := hstep
  dsimp only at hafter h
  subst hafter
  rw [Framed, Orderly]
  dsimp only
  rcases call with request | request | profileId | profileId | profile | -
  · refine iff_of_true ⟨?_, trivial⟩ trivial
    rcases saves_saveSetup w request before with hsame | ⟨profileId, profile, hsaved⟩
    · exact h.same hsame
    · exact (h.stored_iff hsaved).mpr fun _ hno => nomatch hno
  · have hcases := saveStationProfile_cases w request before
    dsimp only
    rcases hsaved : savedAs request with - | ⟨profileId, profile⟩
    · rw [hsaved] at hcases
      refine iff_of_true ⟨h.same hcases, fun i entry hold _ => ?_⟩ fun _ _ hno => nomatch hno
      show (serve (Setup.saveStationProfile w request) before).2.stationProfiles[i]? = _
      rw [hcases.1]
      exact hold
    · rw [hsaved] at hcases
      refine Iff.trans (and_congr (h.stored_iff hcases) (framed_iff hsaved hcases)) ⟨?_, ?_⟩
      · rintro hboth _ _ heq
        cases heq
        exact hboth
      · exact fun hall => hall profileId profile rfl
  · refine iff_of_true ⟨?_, trivial⟩ trivial
    rcases setActiveStationProfile_cases w profileId before with hsame | ⟨entry, hentry, hactive⟩
    · exact h.same hsame
    · exact h.activated hentry hactive
  · refine iff_of_true ⟨?_, trivial⟩ trivial
    rcases deleteStationProfile_cases w profileId before with hsame | ⟨removed, hinactive, hgone⟩
    · exact h.same hsame
    · exact h.removed hinactive hgone
  · refine iff_of_true ⟨h.same ?_, trivial⟩ trivial
    show Same before (serve (Setup.setSessionStationProfileOverride profile) before).2
    rw [Setup.setSessionStationProfileOverride]
    split <;> exact ⟨rfl, rfl⟩
  · exact iff_of_true ⟨h.same ⟨rfl, rfl⟩, trivial⟩ trivial

/-- **The active profile exists, ids are distinct, and saving a profile leaves the
others alone**, throughout the life of an engine, exactly when the configuration
loads so and every call is orderly. -/
theorem profiles_sound_iff {source : ProfileSource} {s₀ s : ManagedEngineState} {ms : List Moment}
    (hstart : Started source s₀)
    (hr : Transition.Run ProfileStep (fun _ _ _ => True) s₀ ms s) :
    Sound s₀ ∧ (∀ m ∈ ms, Sound m.after ∧ Framed m)
      ↔ source.Loads ∧ ∀ m ∈ ms, Orderly m := by
  rw [← started_sound_iff hstart]
  refine and_congr_right fun hfirst => hr.forall_iff (I := Sound) hfirst ?_
  intro s m s' hsound hs
  rw [hs.2.2]
  exact ⟨hsound.step hs, And.left⟩

/-! ### Configurations that load otherwise -/

/-- An engine on the in-memory store, with nothing but the profiles of a
configuration. -/
def engineFrom (source : ProfileSource) : ManagedEngineState where
  storageBackendName := "memory"
  currentPersistenceLocation := none
  ownsSyncEngine := true
  persistedSetup :=
    { activeProfileId := source.load.activeProfileId
      stationProfiles := source.load.stationProfiles }
  qrzXmlUsername := none
  qrzXmlPassword := none
  hasQrzXmlPassword := false
  qrzLogbookApiKey := none
  hasQrzLogbookApiKey := false
  baseQrzXmlUsername := none
  baseQrzXmlPassword := none
  baseQrzLogbookApiKey := none
  baseRigControl := none
  syncConfig := {}
  rigControl := none
  stationProfiles := source.load.stationProfiles
  activeProfileId := normalizeOptional source.load.activeProfileId
  sessionOverrideProfile := none
  runtimeOverrides := fun _ => none
  secrets := fun _ => none

theorem started_engineFrom (source : ProfileSource) : Started source (engineFrom source) :=
  ⟨rfl, rfl⟩

/-- A profile of this name. -/
def profileNamed (profileName : String) : StationProfile where
  profileName := some profileName
  stationCallsign := "W1AW"

/-- The active id is written like the profile's name. -/
def capitalised : ProfileSource :=
  .toml { activeProfileId := some "Home", entries := [(some "Home", profileNamed "Home")] }

/-- **The active profile of this configuration does not exist.** -/
theorem capitalised_active_missing :
    ∃ source s₀, Started source s₀ ∧ ¬ Sound s₀ := by
  refine ⟨capitalised, engineFrom capitalised, started_engineFrom _, fun hsound => ?_⟩
  have hactive : (engineFrom capitalised).activeProfileId = some "Home" := by decide +kernel
  have hids : ids (engineFrom capitalised).stationProfiles = ["home"] := by decide +kernel
  obtain ⟨profileId, heq, hmem⟩ := hsound.active (by
    rintro hnil
    rw [hnil] at hids
    cases hids)
  rw [hactive] at heq
  cases heq
  rw [hids] at hmem
  simp at hmem

/-- Serve a call. -/
def serveNext (s : ManagedEngineState) (call : ProfileCall) :
    Option (Moment × ManagedEngineState) :=
  some (⟨call, {}, s, call.after {} s⟩, call.after {} s)

theorem profileStep_of_serveNext (s : ManagedEngineState) (call : ProfileCall) (m : Moment)
    (s' : ManagedEngineState) (h : serveNext s call = some (m, s')) : ProfileStep s m s' := by
  cases h
  exact ⟨rfl, rfl, rfl⟩

/-- Two names with one id: the second profile takes the place of the first. -/
def twoNames : List ProfileCall :=
  [.saveStationProfile { profile := some (profileNamed "Home 1"), makeActive := true },
    .saveStationProfile { profile := some (profileNamed "Home-1") }]

theorem profiles_sound_iff_twoNames :
    Sound (engineFrom capitalised)
        ∧ (∀ m ∈ (Transition.schedule serveNext twoNames (engineFrom capitalised)).1,
          Sound m.after ∧ Framed m)
      ↔ capitalised.Loads
        ∧ ∀ m ∈ (Transition.schedule serveNext twoNames (engineFrom capitalised)).1, Orderly m :=
  profiles_sound_iff (started_engineFrom capitalised)
    (Transition.schedule_run profileStep_of_serveNext (by decide +kernel))

end QsoRipper.DotNet.Profiles
