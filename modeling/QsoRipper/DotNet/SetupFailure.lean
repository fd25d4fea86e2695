/-
QsoRipper/DotNet/SetupFailure.lean

What a configuration call that fails leaves behind.  Each call changes the state
in memory and stores secrets before the last of its steps that may throw, and
undoes nothing: a failure is harmless exactly where everything changed before it
was already as the request wants it.
-/
import QsoRipper.DotNet.Profiles

namespace QsoRipper.DotNet.Setup

/-! ### Calls and their failures -/

/-- The calls that change the configuration. -/
inductive ConfigCall where
  | saveSetup (request : SaveSetupRequest)
  | saveStationProfile (request : SaveStationProfileRequest)
  | setActiveStationProfile (profileId : String)
  | deleteStationProfile (profileId : String)
  | applyRuntimeConfig (mutations : List RuntimeConfigMutation)

/-- A result that is an exception. -/
def threw {α : Type} (result : Except SetupException α) : Bool := !result.isOk

/-- Whether a call throws or reports an error, and the state afterwards. -/
def ConfigCall.outcome (w : Surroundings) (s : ManagedEngineState) :
    ConfigCall → Bool × ManagedEngineState
  | saveSetup request => (serve (Setup.saveSetup w request) s).map threw id
  | saveStationProfile request => (serve (Setup.saveStationProfile w request) s).map threw id
  | setActiveStationProfile profileId =>
      (serve (Setup.setActiveStationProfile w profileId) s).map
        (fun result => result.toOption.join.isNone) id
  | deleteStationProfile profileId =>
      (serve (Setup.deleteStationProfile w profileId) s).map
        (fun result => result.toOption ≠ some .deleted) id
  | applyRuntimeConfig mutations =>
      (serve (Setup.applyRuntimeConfig w mutations) s).map threw id

/-- A call that fails leaves the state as it was. -/
def RollsBack (w : Surroundings) (s : ManagedEngineState) (call : ConfigCall) : Prop :=
  (call.outcome w s).1 = true → (call.outcome w s).2 = s

/-! ### What a call asks for -/

/-- Writing the file throws, with these profiles in it. -/
def SaveFails (w : Surroundings) (profiles : List ManagedPersistedStationProfile) : Prop :=
  w.unwritable.isSome = true ∨ ∃ entry ∈ profiles, entry.profile = none

/-- The stored secret is the requested one. -/
def Stored (secret : QrzSecret) (value : Option String) (s : ManagedEngineState) : Prop :=
  ∀ text, value = some text → s.secrets secret = some text

/-- The store refuses a secret that is requested. -/
def Refused (w : Surroundings) (secret : QrzSecret) (value : Option String) : Prop :=
  value.isSome = true ∧ (w.refuses secret).isSome = true

/-- The profile of a `SaveSetup` with its id, normalised. -/
def SaveSetupRequest.normalizedProfile (request : SaveSetupRequest) :
    Option (String × StationProfile) :=
  request.stationProfile.bind fun profile =>
    (normalizeStationProfile profile).toOption.map fun normalized =>
      (normalizeProfileIdOrDefault
        [some (normalizeProfileIdOrDefault [profile.profileName, some profile.stationCallsign]),
          normalized.profileName, some normalized.stationCallsign], normalized)

/-- The ingest settings and the station profile of a `SaveSetup` are accepted. -/
def SaveSetupRequest.IsValid (request : SaveSetupRequest) : Prop :=
  (∀ settings ∈ request.wsjtxIngest, (normalizeWsjtxIngest settings).isOk = true)
    ∧ ∀ profile ∈ request.stationProfile, (normalizeStationProfile profile).isOk = true

/-- The profiles that a `SaveSetup` stores. -/
def SaveSetupRequest.profiles (request : SaveSetupRequest) (s : ManagedEngineState) :
    List ManagedPersistedStationProfile :=
  request.normalizedProfile.elim s.stationProfiles fun saved =>
    putProfile saved.1 saved.2 s.stationProfiles

/-- The profile and the credentials that a `SaveSetup` sets. -/
def withAccount (request : SaveSetupRequest) (s : ManagedEngineState) : ManagedEngineState :=
  withCredentials request
    (request.normalizedProfile.elim s fun saved => withStationProfile saved.1 saved.2 true s)

/-- The ingest settings that it sets. -/
def SaveSetupRequest.ingest (request : SaveSetupRequest) : Option WsjtxIngestSettings :=
  request.wsjtxIngest.bind fun settings => (normalizeWsjtxIngest settings).toOption

/-- Another API key is requested, and the sync engine cannot be rebuilt with it. -/
def RebuildFails (w : Surroundings) (request : SaveSetupRequest) (s : ManagedEngineState) : Prop :=
  (normalizeOptional request.qrzLogbookApiKey).isSome = true ∧ s.ownsSyncEngine = true
    ∧ (rebuildError w
      { s with qrzLogbookApiKey := normalizeOptional request.qrzLogbookApiKey }).isSome = true

/-- A failing `SaveSetup` is harmless: what it sets before it fails is in force. -/
def HarmlessSetup (w : Surroundings) (request : SaveSetupRequest) (s : ManagedEngineState) :
    Prop :=
  let password := normalizeOptional request.qrzXmlPassword
  let apiKey := normalizeOptional request.qrzLogbookApiKey
  ¬ Refused w .xmlPassword password →
    (Refused w .logbookApiKey apiKey → Stored .xmlPassword password s)
    ∧ (¬ Refused w .logbookApiKey apiKey →
      (¬ request.IsValid → Stored .xmlPassword password s ∧ Stored .logbookApiKey apiKey s)
      ∧ (request.IsValid →
        (RebuildFails w request s →
          Stored .xmlPassword password s ∧ Stored .logbookApiKey apiKey s
            ∧ withAccount request s = s)
        ∧ (¬ RebuildFails w request s → SaveFails w (request.profiles s) →
          Stored .xmlPassword password s ∧ Stored .logbookApiKey apiKey s
            ∧ withAccount request s = s ∧ withSettings request request.ingest s = s)))

/-- What a mutation assigns. -/
def RuntimeConfigMutation.assign (m : RuntimeConfigMutation) (s : ManagedEngineState) :
    ManagedEngineState :=
  if m.key = qrzXmlUsernameKey then m.username s
  else if m.key = qrzXmlPasswordKey then m.password s
  else if m.key = qrzLogbookApiKeyKey then m.apiKey s
  else if m.key = rigEnabledKey then
    if m.clear then withRigEnabled false "" s
    else
      match tryParseBool m.value with
      | some enabled => withRigEnabled enabled (if enabled then "TRUE" else "FALSE") s
      | none => s
  else s

/-- A mutation throws: its key is not supported, its value no boolean, or the sync
engine cannot be rebuilt. -/
def RuntimeConfigMutation.Rejected (w : Surroundings) (s : ManagedEngineState)
    (m : RuntimeConfigMutation) : Prop :=
  m.key ∉ [qrzXmlUsernameKey, qrzXmlPasswordKey, qrzLogbookApiKeyKey, rigEnabledKey]
    ∨ m.key = qrzLogbookApiKeyKey ∧ s.ownsSyncEngine = true
      ∧ (rebuildError w (m.apiKey s)).isSome = true
    ∨ m.key = rigEnabledKey ∧ m.clear = false ∧ tryParseBool m.value = none

/-- What mutations assign, one after another. -/
def assignAll (mutations : List RuntimeConfigMutation) (s : ManagedEngineState) :
    ManagedEngineState :=
  mutations.foldl (fun s m => m.assign s) s

/-- The snapshot that is answered cannot be built. -/
def SnapshotFails (s : ManagedEngineState) : Prop :=
  s.sessionOverrideProfile = none
    ∧ ∃ stored, s.stationProfiles.find? (fun entry => s.activeProfileId == some entry.profileId)
      = some stored ∧ stored.profile = none

/-- Failing mutations are harmless: those up to the first rejected one come to
nothing. -/
def HarmlessMutations (w : Surroundings) (mutations : List RuntimeConfigMutation)
    (s : ManagedEngineState) : Prop :=
  (∀ before m after, mutations = before ++ m :: after → (∀ m' ∈ before, ¬ m'.Rejected w s) →
      m.Rejected w s → assignAll (before ++ [m]) s = s)
    ∧ ((∀ m ∈ mutations, ¬ m.Rejected w s) → SnapshotFails s → assignAll mutations s = s)

/-- **A failing call is harmless**: what it changes before it fails is already as
it wants it. -/
def Harmless (w : Surroundings) (s : ManagedEngineState) : ConfigCall → Prop
  | .saveSetup request => HarmlessSetup w request s
  | .saveStationProfile request =>
      ∀ profileId profile, Profiles.savedAs request = some (profileId, profile) →
        SaveFails w (putProfile profileId profile s.stationProfiles) →
        withStationProfile profileId profile request.makeActive s = s
          ∧ syncPersistedProfiles s = s
  | .setActiveStationProfile profileId =>
      ∀ stored, NetText.isWhiteSpace profileId = false →
        s.stationProfiles.find? (·.named (Text.trim profileId)) = some stored →
        SaveFails w s.stationProfiles →
        s.activeProfileId = some stored.profileId ∧ syncPersistedProfiles s = s
  | .deleteStationProfile profileId =>
      NetText.isWhiteSpace profileId = false → s.activeProfileId ≠ some (Text.trim profileId) →
        (∃ entry ∈ s.stationProfiles, entry.profileId = Text.trim profileId) →
        ¬ SaveFails w (s.stationProfiles.filter fun entry => !entry.named (Text.trim profileId))
  | .applyRuntimeConfig mutations => HarmlessMutations w mutations s

/-! ### Updates that change nothing -/

section Updates

variable {σ V : Type}

/-- Two updates of different parts come to nothing exactly if each does. -/
theorem comp_eq_self_iff {f g : σ → σ} (view : σ → V) (hf : ∀ s, view (f s) = view s)
    (hg : ∀ s, view (g s) = view s → g s = s) (s : σ) : f (g s) = s ↔ g s = s ∧ f s = s := by
  constructor
  · intro hboth
    have hsame : g s = s := hg s (by rw [← hf (g s), hboth])
    refine ⟨hsame, ?_⟩
    rw [← congrArg f hsame]
    exact hboth
  · rintro ⟨hfirst, hsecond⟩
    rw [hfirst, hsecond]

end Updates

/-- The state with a secret stored. -/
def withSecret (secret : QrzSecret) (value : Option String) (s : ManagedEngineState) :
    ManagedEngineState :=
  match value with
  | none => s
  | some text => { s with secrets := Function.update s.secrets secret (some text) }

theorem withSecret_eq_self_iff {secret : QrzSecret} {value : Option String}
    {s : ManagedEngineState} : withSecret secret value s = s ↔ Stored secret value s := by
  rcases value with - | text
  · exact iff_of_true rfl fun _ hno => nomatch hno
  · constructor
    · intro hsame other heq
      cases heq
      have hsecrets := congrArg (fun s => s.secrets secret) hsame
      simp only [withSecret, Function.update_self] at hsecrets
      exact hsecrets.symm
    · intro hstored
      show { s with secrets := Function.update s.secrets secret (some text) } = s
      rw [← hstored text rfl, Function.update_eq_self]

/-- Both secrets. -/
theorem withSecrets_eq_self_iff {password apiKey : Option String} {s : ManagedEngineState} :
    withSecret .logbookApiKey apiKey (withSecret .xmlPassword password s) = s
      ↔ Stored .xmlPassword password s ∧ Stored .logbookApiKey apiKey s := by
  rw [comp_eq_self_iff (fun s => s.secrets .xmlPassword), withSecret_eq_self_iff,
    withSecret_eq_self_iff]
  · intro s
    rcases apiKey with - | text
    · rfl
    · have hother : QrzSecret.xmlPassword ≠ .logbookApiKey := by decide
      exact Function.update_of_ne hother (some text) s.secrets
  · intro s hsame
    rw [withSecret_eq_self_iff]
    intro text heq
    rw [← hsame, heq]
    show Function.update s.secrets .xmlPassword (some text) .xmlPassword = some text
    rw [Function.update_self]

/-- What the account touches. -/
theorem withAccount_frame (request : SaveSetupRequest) (s : ManagedEngineState) :
    let t := withAccount request s
    t = { s with
      stationProfiles := t.stationProfiles
      activeProfileId := t.activeProfileId
      qrzXmlUsername := t.qrzXmlUsername
      qrzXmlPassword := t.qrzXmlPassword
      hasQrzXmlPassword := t.hasQrzXmlPassword
      qrzLogbookApiKey := t.qrzLogbookApiKey
      hasQrzLogbookApiKey := t.hasQrzLogbookApiKey
      persistedSetup :=
        { s.persistedSetup with qrzXmlUsername := t.persistedSetup.qrzXmlUsername }
      runtimeOverrides := t.runtimeOverrides }
      ∧ t.runtimeOverrides storageBackendKey = s.runtimeOverrides storageBackendKey := by
  dsimp only
  rw [withAccount, withCredentials]
  rcases request.normalizedProfile with - | ⟨profileId, profile⟩ <;>
    unfold withQrzXmlUsername withQrzXmlPassword withQrzLogbookApiKey <;>
    rcases normalizeOptional request.qrzXmlUsername <;>
    rcases normalizeOptional request.qrzXmlPassword <;>
    rcases normalizeOptional request.qrzLogbookApiKey <;>
    exact ⟨rfl, by simp [ManagedEngineState.override, withStationProfile, Function.update,
      storageBackendKey, qrzXmlUsernameKey, qrzXmlPasswordKey, qrzLogbookApiKeyKey]⟩

/-- The account and the secrets are what they were. -/
structure SameAccount (s t : ManagedEngineState) : Prop where
  stationProfiles : t.stationProfiles = s.stationProfiles
  activeProfileId : t.activeProfileId = s.activeProfileId
  qrzXmlUsername : t.qrzXmlUsername = s.qrzXmlUsername
  qrzXmlPassword : t.qrzXmlPassword = s.qrzXmlPassword
  hasQrzXmlPassword : t.hasQrzXmlPassword = s.hasQrzXmlPassword
  qrzLogbookApiKey : t.qrzLogbookApiKey = s.qrzLogbookApiKey
  hasQrzLogbookApiKey : t.hasQrzLogbookApiKey = s.hasQrzLogbookApiKey
  persistedUsername : t.persistedSetup.qrzXmlUsername = s.persistedSetup.qrzXmlUsername
  secrets : t.secrets = s.secrets
  runtimeOverrides : ∀ key, key ≠ storageBackendKey →
    t.runtimeOverrides key = s.runtimeOverrides key

theorem SameAccount.trans {s t u : ManagedEngineState} (h : SameAccount s t)
    (h' : SameAccount t u) : SameAccount s u where
  stationProfiles := h'.stationProfiles.trans h.stationProfiles
  activeProfileId := h'.activeProfileId.trans h.activeProfileId
  qrzXmlUsername := h'.qrzXmlUsername.trans h.qrzXmlUsername
  qrzXmlPassword := h'.qrzXmlPassword.trans h.qrzXmlPassword
  hasQrzXmlPassword := h'.hasQrzXmlPassword.trans h.hasQrzXmlPassword
  qrzLogbookApiKey := h'.qrzLogbookApiKey.trans h.qrzLogbookApiKey
  hasQrzLogbookApiKey := h'.hasQrzLogbookApiKey.trans h.hasQrzLogbookApiKey
  persistedUsername := h'.persistedUsername.trans h.persistedUsername
  secrets := h'.secrets.trans h.secrets
  runtimeOverrides key hne := (h'.runtimeOverrides key hne).trans (h.runtimeOverrides key hne)

theorem withSyncConfig_sameAccount (config : Option SyncConfig) (s : ManagedEngineState) :
    SameAccount s (withSyncConfig config s) := by
  rcases config <;> exact ⟨rfl, rfl, rfl, rfl, rfl, rfl, rfl, rfl, rfl, fun _ _ => rfl⟩

theorem withRigControl_sameAccount (settings : Option RigControlSettings)
    (s : ManagedEngineState) : SameAccount s (withRigControl settings s) := by
  rcases settings <;> exact ⟨rfl, rfl, rfl, rfl, rfl, rfl, rfl, rfl, rfl, fun _ _ => rfl⟩

theorem withWsjtxIngest_sameAccount (settings : Option WsjtxIngestSettings)
    (s : ManagedEngineState) : SameAccount s (withWsjtxIngest settings s) := by
  rcases settings <;> exact ⟨rfl, rfl, rfl, rfl, rfl, rfl, rfl, rfl, rfl, fun _ _ => rfl⟩

theorem withStorage_sameAccount (request : SaveSetupRequest) (s : ManagedEngineState) :
    SameAccount s (withStorage request s) := by
  rw [withStorage]
  split <;> exact ⟨rfl, rfl, rfl, rfl, rfl, rfl, rfl, rfl, rfl, fun _ _ => rfl⟩

theorem syncPersistedProfiles_sameAccount (s : ManagedEngineState) :
    SameAccount s (syncPersistedProfiles s) :=
  ⟨rfl, rfl, rfl, rfl, rfl, rfl, rfl, rfl, rfl, fun _ _ => rfl⟩

theorem override_sameAccount (s : ManagedEngineState) (value : Option String) :
    SameAccount s (s.override storageBackendKey value) :=
  ⟨rfl, rfl, rfl, rfl, rfl, rfl, rfl, rfl, rfl, fun _ hne => Function.update_of_ne hne _ _⟩

theorem withBase_sameAccount (s : ManagedEngineState) : SameAccount s (withBase s) :=
  ⟨rfl, rfl, rfl, rfl, rfl, rfl, rfl, rfl, rfl, fun _ _ => rfl⟩

/-- The other settings leave the account alone. -/
theorem withSettings_sameAccount (request : SaveSetupRequest)
    (ingest : Option WsjtxIngestSettings) (s : ManagedEngineState) :
    SameAccount s (withSettings request ingest s) :=
  (withSyncConfig_sameAccount request.syncConfig s).trans <|
    (withRigControl_sameAccount request.rigControl _).trans <|
      (withWsjtxIngest_sameAccount _ _).trans <|
        (withStorage_sameAccount request _).trans <|
          (syncPersistedProfiles_sameAccount _).trans <|
            (override_sameAccount _ none).trans (withBase_sameAccount _)

/-- The account has come to nothing if the other settings have not undone it. -/
theorem withAccount_eq_self_of_same {request : SaveSetupRequest} {s : ManagedEngineState}
    (h : SameAccount (withAccount request s) s) : withAccount request s = s := by
  obtain ⟨hframe, hstorage⟩ := withAccount_frame request s
  generalize withAccount request s = t at h hframe hstorage ⊢
  obtain ⟨hprofiles, hactive, husername, hpassword, hhas, hkey, hhasKey, hpersisted, -,
    hoverrides⟩ := h
  have hall : t.runtimeOverrides = s.runtimeOverrides := by
    funext key
    by_cases heq : key = storageBackendKey
    · rw [heq]
      exact hstorage
    · exact (hoverrides key heq).symm
  rw [hframe, ← hprofiles, ← hactive, ← husername, ← hpassword, ← hhas, ← hkey, ← hhasKey,
    ← hpersisted, hall]

/-- Both requested secrets, stored. -/
def withSecrets (request : SaveSetupRequest) (s : ManagedEngineState) : ManagedEngineState :=
  withSecret .logbookApiKey (normalizeOptional request.qrzLogbookApiKey)
    (withSecret .xmlPassword (normalizeOptional request.qrzXmlPassword) s)

theorem withSecret_eq_of_secrets {secret : QrzSecret} {value : Option String}
    {s : ManagedEngineState} :
    withSecret secret value s = { s with secrets := (withSecret secret value s).secrets } := by
  rcases value <;> rfl

theorem withSecrets_eq_self_of_same {request : SaveSetupRequest} {s : ManagedEngineState}
    (h : (withSecrets request s).secrets = s.secrets) : withSecrets request s = s := by
  rw [withSecrets] at h ⊢
  rw [withSecret_eq_of_secrets, h, withSecret_eq_of_secrets]

theorem withAccount_secrets (request : SaveSetupRequest) (s : ManagedEngineState) :
    (withAccount request s).secrets = s.secrets := by
  rw [(withAccount_frame request s).1]

/-- Secrets and account come to nothing exactly if each does. -/
theorem withAccount_withSecrets_eq_self_iff {request : SaveSetupRequest}
    {s : ManagedEngineState} :
    withAccount request (withSecrets request s) = s
      ↔ withSecrets request s = s ∧ withAccount request s = s :=
  comp_eq_self_iff (fun s => s.secrets) (withAccount_secrets request)
    (fun _ => withSecrets_eq_self_of_same) s

/-- So do they with the other settings. -/
theorem withSettings_withAccount_withSecrets_eq_self_iff {request : SaveSetupRequest}
    {s : ManagedEngineState} :
    withSettings request request.ingest (withAccount request (withSecrets request s)) = s
      ↔ withSecrets request s = s ∧ withAccount request s = s
        ∧ withSettings request request.ingest s = s := by
  constructor
  · intro hall
    have hsame := withSettings_sameAccount request request.ingest
      (withAccount request (withSecrets request s))
    rw [hall] at hsame
    have hsecrets : withSecrets request s = s :=
      withSecrets_eq_self_of_same (by rw [← withAccount_secrets, ← hsame.secrets])
    rw [hsecrets] at hall hsame
    have haccount := withAccount_eq_self_of_same hsame
    rw [haccount] at hall
    exact ⟨hsecrets, haccount, hall⟩
  · rintro ⟨hsecrets, haccount, hsettings⟩
    rw [hsecrets, haccount, hsettings]

/-! ### The steps of `SaveSetup` -/

theorem serve_persistRequestedSecret (w : Surroundings) (secret : QrzSecret)
    (value : Option String) (s : ManagedEngineState) :
    Refused w secret value
        ∧ (∃ error, serve (persistRequestedSecret w secret value) s = (.error error, s))
      ∨ ¬ Refused w secret value
        ∧ serve (persistRequestedSecret w secret value) s
          = (.ok (), withSecret secret value s) := by
  unfold persistRequestedSecret Refused
  rcases value with - | text
  · exact .inr ⟨fun hno => (nomatch hno.1), rfl⟩
  · rcases w.refuses secret with - | message
    · exact .inr ⟨fun hno => (nomatch hno.2), rfl⟩
    · exact .inl ⟨⟨rfl, rfl⟩, _, rfl⟩

/-- The ingest settings of a request are accepted. -/
def SaveSetupRequest.IngestValid (request : SaveSetupRequest) : Prop :=
  ∀ settings ∈ request.wsjtxIngest, (normalizeWsjtxIngest settings).isOk = true

/-- Its station profile is. -/
def SaveSetupRequest.ProfileValid (request : SaveSetupRequest) : Prop :=
  ∀ profile ∈ request.stationProfile, (normalizeStationProfile profile).isOk = true

theorem serve_normalizedIngest (request : SaveSetupRequest) (s : ManagedEngineState) :
    ¬ request.IngestValid ∧ (∃ error, serve (normalizedIngest request) s = (.error error, s))
      ∨ request.IngestValid ∧ serve (normalizedIngest request) s
        = (.ok request.ingest, s) := by
  rw [normalizedIngest, SaveSetupRequest.IngestValid, SaveSetupRequest.ingest]
  rcases request.wsjtxIngest with - | settings
  · exact .inr ⟨fun _ hno => absurd hno.symm (Option.some_ne_none _), rfl⟩
  · rcases hnormal : normalizeWsjtxIngest settings with error | normalized
    · refine .inl ⟨fun hall => ?_, error, ?_⟩
      · have hno := hall settings rfl
        rw [hnormal] at hno
        cases hno
      · simp [hnormal]
    · refine .inr ⟨fun other heq => ?_, ?_⟩
      · cases heq
        rw [hnormal]
        rfl
      · simp [hnormal, Except.toOption]

theorem serve_saveRequestedProfile (request : SaveSetupRequest) (s : ManagedEngineState) :
    ¬ request.ProfileValid
        ∧ (∃ error, serve (saveRequestedProfile request) s = (.error error, s))
      ∨ request.ProfileValid ∧ serve (saveRequestedProfile request) s
        = (.ok (), request.normalizedProfile.elim s fun saved =>
          withStationProfile saved.1 saved.2 true s) := by
  rw [saveRequestedProfile, SaveSetupRequest.ProfileValid, SaveSetupRequest.normalizedProfile]
  rcases request.stationProfile with - | profile
  · exact .inr ⟨fun _ hno => absurd hno.symm (Option.some_ne_none _), rfl⟩
  · rcases hnormal : normalizeStationProfile profile with error | normalized
    · refine .inl ⟨fun hall => ?_, error, ?_⟩
      · have hno := hall profile rfl
        rw [hnormal] at hno
        cases hno
      · simp [saveStationProfileNoLock, hnormal]
    · refine .inr ⟨fun other heq => ?_, ?_⟩
      · cases heq
        rw [hnormal]
        rfl
      · simp [serve_bind, saveStationProfileNoLock, hnormal, Except.toOption,
          buildStationProfileRecord, parseProfile, Except.map]

/-- Rebuilding the sync engine throws, or changes nothing. -/
theorem serve_rebuildSyncEngine (w : Surroundings) (s : ManagedEngineState) :
    (s.ownsSyncEngine = true ∧ (rebuildError w s).isSome = true)
        ∧ (∃ error, serve (rebuildSyncEngine w) s = (.error error, s))
      ∨ ¬ (s.ownsSyncEngine = true ∧ (rebuildError w s).isSome = true)
        ∧ serve (rebuildSyncEngine w) s = (.ok (), s) := by
  rw [rebuildSyncEngine, serve_bind, serve_get]
  rcases hown : s.ownsSyncEngine
  · exact .inr ⟨fun hno => (nomatch hno.1), by simp [hown]⟩
  · rcases herror : rebuildError w s with - | error
    · exact .inr ⟨fun hno => (nomatch hno.2), by simp [hown, herror]⟩
    · exact .inl ⟨⟨rfl, rfl⟩, error, by simp [hown, herror]⟩

theorem saveError_isSome_iff (w : Surroundings) (s : ManagedEngineState) :
    (saveError w s).isSome = true ↔ SaveFails w s.persistedSetup.stationProfiles := by
  rw [saveError, SaveFails]
  by_cases hany : s.persistedSetup.stationProfiles.any (·.profile.isNone) = true
  · rw [if_pos hany]
    refine iff_of_true rfl (.inr ?_)
    simpa [List.any_eq_true, Option.isNone_iff_eq_none] using hany
  · rw [if_neg hany, Option.isSome_map, or_iff_left]
    simpa [List.any_eq_true, Option.isNone_iff_eq_none] using hany

/-- Writing the file throws, or goes through. -/
theorem serve_persist (w : Surroundings) (s : ManagedEngineState) :
    SaveFails w s.persistedSetup.stationProfiles
        ∧ (∃ error, serve (persist w) s = (.error error, s))
      ∨ ¬ SaveFails w s.persistedSetup.stationProfiles
        ∧ serve (persist w) s = (.ok (), { s with
          persistedSetup := { s.persistedSetup with wsjtxIngestWriteOverride := none } }) := by
  rw [← saveError_isSome_iff, persist, serve_bind, serve_get]
  dsimp only
  rcases saveError w s with - | error
  · exact .inr ⟨fun hno => (nomatch hno), rfl⟩
  · exact .inl ⟨rfl, error, rfl⟩

/-- No stored profile fails to parse. -/
theorem serve_getPersistedActiveProfile {s : ManagedEngineState}
    (h : ∀ entry ∈ s.stationProfiles, entry.profile ≠ none) :
    ∃ profile, serve getPersistedActiveProfile s = (.ok profile, s) := by
  rw [getPersistedActiveProfile, serve_bind, serve_get]
  dsimp only
  split
  · exact ⟨none, rfl⟩
  · rename_i stored hfound
    obtain ⟨profile, hprofile⟩ :=
      Option.ne_none_iff_exists'.mp (h stored (List.mem_of_find?_eq_some hfound))
    refine ⟨some profile, ?_⟩
    rw [serve_map, parseProfile, hprofile]
    rfl

/-- An exception leaves the state as it was. -/
def Restores {α : Type} (o : Except SetupException α × ManagedEngineState)
    (s : ManagedEngineState) : Prop := threw o.1 = true → o.2 = s

theorem restores_error {α : Type} {error : SetupException} {s s' : ManagedEngineState} :
    Restores ((.error error, s') : Except SetupException α × ManagedEngineState) s ↔ s' = s :=
  ⟨fun h => h rfl, fun h _ => h⟩

theorem restores_ok {α : Type} {a : α} {s s' : ManagedEngineState} :
    Restores ((.ok a, s') : Except SetupException α × ManagedEngineState) s :=
  fun hno => nomatch hno

/-- The profiles that go into the file. -/
theorem withSettings_persisted (request : SaveSetupRequest)
    (ingest : Option WsjtxIngestSettings) (s : ManagedEngineState) :
    (withSettings request ingest s).persistedSetup.stationProfiles = s.stationProfiles :=
  ((withSyncConfig_sameAccount request.syncConfig s).trans <|
    (withRigControl_sameAccount request.rigControl _).trans <|
      (withWsjtxIngest_sameAccount ingest _).trans
        (withStorage_sameAccount request _)).stationProfiles

/-- The rest of `SaveSetup`, once the account has been set. -/
theorem restores_settings (w : Surroundings) (request : SaveSetupRequest)
    (s t : ManagedEngineState) :
    Restores (serve (do
        modify (withSettings request request.ingest)
        persist w
        let _ ← getPersistedActiveProfile) t) s
      ↔ (SaveFails w t.stationProfiles → withSettings request request.ingest t = s) := by
  have haccount := withSettings_sameAccount request request.ingest t
  rw [serve_bind, serve_modify]
  dsimp only
  rw [serve_bind]
  rcases serve_persist w (withSettings request request.ingest t) with
    ⟨hfails, error, hrun⟩ | ⟨hfine, hrun⟩
  · rw [withSettings_persisted] at hfails
    rw [hrun]
    exact restores_error.trans ⟨fun h _ => h, fun h => h hfails⟩
  · rw [withSettings_persisted] at hfine
    rw [hrun]
    dsimp only
    -- what has been written can be read back
    have hparse : ∀ entry ∈ (withSettings request request.ingest t).stationProfiles,
        entry.profile ≠ none := by
      intro entry hentry hnone
      rw [haccount.stationProfiles] at hentry
      exact hfine (.inr ⟨entry, hentry, hnone⟩)
    clear hrun haccount
    generalize withSettings request request.ingest t = u at hparse ⊢
    obtain ⟨profile, hread⟩ := serve_getPersistedActiveProfile (s := { u with
        persistedSetup := { u.persistedSetup with wsjtxIngestWriteOverride := none } }) hparse
    rw [serve_bind, hread]
    exact iff_of_true restores_ok fun hfails => absurd hfails hfine

/-- Rebuilding the engine after the account has been set. -/
theorem rebuildFails_iff {w : Surroundings} {request : SaveSetupRequest} {s : ManagedEngineState}
    (h : (normalizeOptional request.qrzLogbookApiKey).isSome = true) :
    RebuildFails w request s
      ↔ (withAccount request (withSecrets request s)).ownsSyncEngine = true
        ∧ (rebuildError w (withAccount request (withSecrets request s))).isSome = true := by
  have hkey : (withAccount request (withSecrets request s)).qrzLogbookApiKey
      = normalizeOptional request.qrzLogbookApiKey := by
    obtain ⟨apiKey, hrequested⟩ := Option.isSome_iff_exists.mp h
    rw [withAccount, withCredentials, hrequested]
    rfl
  have hsame : (withSecrets request s).persistedSetup = s.persistedSetup
      ∧ (withSecrets request s).ownsSyncEngine = s.ownsSyncEngine := by
    rw [withSecrets, withSecret_eq_of_secrets, withSecret_eq_of_secrets]
    exact ⟨rfl, rfl⟩
  have hframe := (withAccount_frame request (withSecrets request s)).1
  have howns : (withAccount request (withSecrets request s)).ownsSyncEngine = s.ownsSyncEngine := by
    rw [hframe]
    exact hsame.2
  have hurl : (withAccount request (withSecrets request s)).persistedSetup.qrzLogbookBaseUrl
      = s.persistedSetup.qrzLogbookBaseUrl := by
    rw [hframe, ← hsame.1]
  rw [RebuildFails, and_iff_right h, howns, rebuildError, rebuildError, hkey, hurl]

/-- The profiles after the account has been set. -/
theorem withAccount_stationProfiles (request : SaveSetupRequest) (s : ManagedEngineState) :
    (withAccount request (withSecrets request s)).stationProfiles = request.profiles s := by
  have hsame : (withSecrets request s).stationProfiles = s.stationProfiles := by
    rw [withSecrets, withSecret_eq_of_secrets, withSecret_eq_of_secrets]
  have hcredentials (t : ManagedEngineState) :
      (withCredentials request t).stationProfiles = t.stationProfiles := by
    unfold withCredentials withQrzXmlUsername withQrzXmlPassword withQrzLogbookApiKey
    rcases normalizeOptional request.qrzXmlUsername <;>
      rcases normalizeOptional request.qrzXmlPassword <;>
      rcases normalizeOptional request.qrzLogbookApiKey <;> rfl
  rw [withAccount, hcredentials, SaveSetupRequest.profiles]
  rcases request.normalizedProfile with - | saved
  · exact hsame
  · show putProfile saved.1 saved.2 (withSecrets request s).stationProfiles = _
    rw [hsame]
    rfl

/-- The rest of `SaveSetup`, once the request has been accepted. -/
theorem restores_account_iff (w : Surroundings) (request : SaveSetupRequest)
    (s : ManagedEngineState) :
    Restores (serve (do
        if (normalizeOptional request.qrzLogbookApiKey).isSome then rebuildSyncEngine w
        modify (withSettings request request.ingest)
        persist w
        let _ ← getPersistedActiveProfile) (withAccount request (withSecrets request s))) s
      ↔ (RebuildFails w request s → withSecrets request s = s ∧ withAccount request s = s)
        ∧ (¬ RebuildFails w request s → SaveFails w (request.profiles s) →
          withSecrets request s = s ∧ withAccount request s = s
            ∧ withSettings request request.ingest s = s) := by
  by_cases hkey : (normalizeOptional request.qrzLogbookApiKey).isSome = true
  · rw [if_pos hkey, serve_bind, rebuildFails_iff hkey]
    rcases serve_rebuildSyncEngine w (withAccount request (withSecrets request s)) with
      ⟨hfails, error, hrun⟩ | ⟨hfine, hrun⟩
    · rw [hrun, imp_iff_right hfails, and_iff_left fun hno => absurd hfails hno]
      exact restores_error.trans withAccount_withSecrets_eq_self_iff
    · rw [hrun, imp_iff_right hfine, and_iff_right fun hno => absurd hno hfine]
      dsimp only
      rw [restores_settings, withAccount_stationProfiles,
        withSettings_withAccount_withSecrets_eq_self_iff]
  · have hfine : ¬ RebuildFails w request s := fun hno => hkey hno.1
    rw [if_neg hkey, imp_iff_right hfine, and_iff_right fun hno => absurd hno hfine]
    rw [restores_settings, withAccount_stationProfiles,
      withSettings_withAccount_withSecrets_eq_self_iff]

/-- **`SaveSetup`.** -/
theorem restores_saveSetup_iff (w : Surroundings) (request : SaveSetupRequest)
    (s : ManagedEngineState) :
    Restores (serve (saveSetup w request) s) s ↔ HarmlessSetup w request s := by
  rw [saveSetup, HarmlessSetup, serve_bind]
  dsimp only
  rcases serve_persistRequestedSecret w .xmlPassword (normalizeOptional request.qrzXmlPassword) s
    with ⟨hrefused, error, hrun⟩ | ⟨hpassword, hrun⟩
  · rw [hrun]
    exact iff_of_true (restores_error.mpr rfl) fun hno => absurd hrefused hno
  rw [hrun, imp_iff_right hpassword]
  dsimp only
  rw [serve_bind]
  rcases serve_persistRequestedSecret w .logbookApiKey (normalizeOptional request.qrzLogbookApiKey)
    (withSecret .xmlPassword (normalizeOptional request.qrzXmlPassword) s)
    with ⟨hrefused, error, hrun⟩ | ⟨hapiKey, hrun⟩
  · rw [hrun, imp_iff_right hrefused, and_iff_left fun hno => absurd hrefused hno,
      ← withSecret_eq_self_iff]
    exact restores_error
  rw [hrun, imp_iff_right hapiKey, and_iff_right fun hno => absurd hno hapiKey]
  simp only [← and_assoc, ← withSecrets_eq_self_iff]
  rw [← withSecrets, serve_bind]
  -- the request is looked at only now, with both secrets stored
  rcases serve_normalizedIngest request (withSecrets request s) with
    ⟨hingest, error, hrun⟩ | ⟨hingest, hrun⟩
  · have hinvalid : ¬ request.IsValid := fun hvalid => hingest hvalid.1
    rw [hrun, imp_iff_right hinvalid, and_iff_left fun hno => absurd hno hinvalid]
    exact restores_error
  rw [hrun]
  dsimp only
  rw [serve_bind]
  rcases serve_saveRequestedProfile request (withSecrets request s) with
    ⟨hprofile, error, hrun⟩ | ⟨hprofile, hrun⟩
  · have hinvalid : ¬ request.IsValid := fun hvalid => hprofile hvalid.2
    rw [hrun, imp_iff_right hinvalid, and_iff_left fun hno => absurd hno hinvalid]
    exact restores_error
  have hvalid : request.IsValid := ⟨hingest, hprofile⟩
  rw [hrun, imp_iff_right hvalid, and_iff_right fun hno => absurd hvalid hno]
  dsimp only
  rw [serve_bind, serve_modify]
  dsimp only
  rw [← withAccount]
  simpa only [and_assoc] using restores_account_iff w request s

/-! ### Station profiles -/

theorem withStationProfile_frame (profileId : String) (profile : StationProfile)
    (makeActive : Bool) (s : ManagedEngineState) :
    withStationProfile profileId profile makeActive s = { s with
      stationProfiles := (withStationProfile profileId profile makeActive s).stationProfiles
      activeProfileId := (withStationProfile profileId profile makeActive s).activeProfileId } :=
  rfl

/-- Writing the file after the profiles have been copied for it. -/
theorem serve_persist_profiles (w : Surroundings) (t : ManagedEngineState) :
    SaveFails w t.stationProfiles
        ∧ (∃ error, serve (persist w) (syncPersistedProfiles t)
          = (.error error, syncPersistedProfiles t))
      ∨ ¬ SaveFails w t.stationProfiles
        ∧ ∃ s', serve (persist w) (syncPersistedProfiles t) = (.ok (), s') := by
  rcases serve_persist w (syncPersistedProfiles t) with ⟨hfails, herror⟩ | ⟨hfine, hrun⟩
  · exact .inl ⟨hfails, herror⟩
  · exact .inr ⟨hfine, _, hrun⟩

/-- **`SaveStationProfile`.** -/
theorem restores_saveStationProfile_iff (w : Surroundings) (request : SaveStationProfileRequest)
    (s : ManagedEngineState) :
    Restores (serve (saveStationProfile w request) s) s
      ↔ Harmless w s (.saveStationProfile request) := by
  rw [saveStationProfile, Harmless, Profiles.savedAs]
  rcases request.profile with - | profile
  · exact iff_of_true (restores_error.mpr rfl) fun _ _ hno => absurd hno.symm (Option.some_ne_none _)
  dsimp only
  rw [saveStationProfileNoLock, Option.bind_some]
  rcases normalizeStationProfile profile with error | normalized
  · exact iff_of_true (restores_error.mpr rfl) fun _ _ hno => absurd hno.symm (Option.some_ne_none _)
  simp only [Except.toOption, Option.map_some, Option.some.injEq, Prod.mk.injEq]
  generalize normalizeProfileIdOrDefault [some (normalizeProfileIdOrDefault [request.profileId,
    profile.profileName, some profile.stationCallsign]), normalized.profileName,
    some normalized.stationCallsign] = profileId
  have hall (P : String → StationProfile → Prop) :
      (∀ id saved, profileId = id ∧ normalized = saved → P id saved) ↔ P profileId normalized :=
    ⟨fun h => h _ _ ⟨rfl, rfl⟩, fun h id saved heq => heq.1 ▸ heq.2 ▸ h⟩
  rw [hall, bind_assoc, serve_bind, serve_modify]
  dsimp only
  rw [serve_bind, buildStationProfileRecord, parseProfile]
  simp only [pure_bind, serve_bind, serve_get, serve_pure, serve_modify]
  rcases serve_persist_profiles w (withStationProfile profileId normalized request.makeActive s)
    with ⟨hfails, error, hrun⟩ | ⟨hfine, s', hrun⟩
  · rw [hrun, restores_error]
    have hboth := comp_eq_self_iff (f := syncPersistedProfiles)
      (g := withStationProfile profileId normalized request.makeActive)
      (fun s => (s.stationProfiles, s.activeProfileId)) (fun _ => rfl) (fun s hsame => by
        obtain ⟨hprofiles, hactive⟩ := Prod.mk.inj hsame
        rw [withStationProfile_frame, hprofiles, hactive]) s
    exact hboth.trans ⟨fun h _ => h, fun h => h hfails⟩
  · rw [hrun]
    exact iff_of_true restores_ok fun hfails => absurd hfails hfine

/-- A call without a result, too, leaves the state as it was. -/
theorem serve_throwIfWhiteSpace (profileId : String) (s : ManagedEngineState) :
    NetText.isWhiteSpace profileId = true
        ∧ (∃ error, serve (throwIfWhiteSpace profileId) s = (.error error, s))
      ∨ NetText.isWhiteSpace profileId = false
        ∧ serve (throwIfWhiteSpace profileId) s = (.ok (), s) := by
  rw [throwIfWhiteSpace]
  rcases hblank : NetText.isWhiteSpace profileId
  · exact .inr ⟨rfl, rfl⟩
  · exact .inl ⟨rfl, _, rfl⟩

/-- **`SetActiveStationProfile`.** -/
theorem rollsBack_setActive_iff (w : Surroundings) (s : ManagedEngineState) (profileId : String) :
    RollsBack w s (.setActiveStationProfile profileId)
      ↔ Harmless w s (.setActiveStationProfile profileId) := by
  rw [RollsBack, ConfigCall.outcome, Harmless, setActiveStationProfile, serve_bind]
  rcases serve_throwIfWhiteSpace profileId s with ⟨hblank, error, hrun⟩ | ⟨hword, hrun⟩
  · rw [hrun]
    refine iff_of_true (fun _ => rfl) fun _ hno => ?_
    rw [hblank] at hno
    cases hno
  rw [hrun]
  dsimp only
  rw [serve_bind, serve_get]
  dsimp only
  generalize hfound : s.stationProfiles.find? (·.named (Text.trim profileId)) = found
  rcases found with - | stored
  · exact iff_of_true (fun _ => rfl) fun _ _ hno => absurd hno.symm (Option.some_ne_none _)
  dsimp only
  rw [serve_bind, serve_modify]
  dsimp only
  rw [serve_bind]
  rcases serve_persist_profiles w { s with activeProfileId := some stored.profileId } with
    ⟨hfails, error, hrun⟩ | ⟨hfine, s', hrun⟩
  · rw [hrun]
    have hboth := comp_eq_self_iff (f := syncPersistedProfiles)
      (g := fun s => { s with activeProfileId := some stored.profileId })
      (fun s => s.activeProfileId) (fun _ => rfl) (fun s hsame => by
        dsimp only at hsame ⊢
        rw [hsame]) s
    constructor
    · intro h other _ heq _
      cases heq
      obtain ⟨hsame, hsync⟩ := hboth.mp (h rfl)
      exact ⟨(congrArg (fun s => s.activeProfileId) hsame).symm, hsync⟩
    · intro h _
      obtain ⟨hactive, hsync⟩ := h stored hword rfl hfails
      exact hboth.mpr ⟨by rw [← hactive], hsync⟩
  · rw [hrun]
    refine iff_of_true (fun hno => ?_) fun other _ heq hfails => ?_
    · -- a profile that has been written can be read back
      obtain ⟨profile, hprofile⟩ := Option.ne_none_iff_exists'.mp fun hnone =>
        hfine (.inr ⟨stored, List.mem_of_find?_eq_some hfound, hnone⟩)
      dsimp only at hno
      rw [serve_map, buildStationProfileRecord, parseProfile, hprofile] at hno
      cases hno
    · exact absurd hfails hfine

/-- **`DeleteStationProfile`.** -/
theorem rollsBack_delete_iff (w : Surroundings) (s : ManagedEngineState) (profileId : String) :
    RollsBack w s (.deleteStationProfile profileId)
      ↔ Harmless w s (.deleteStationProfile profileId) := by
  rw [RollsBack, ConfigCall.outcome, Harmless, deleteStationProfile, serve_bind]
  rcases serve_throwIfWhiteSpace profileId s with ⟨hblank, error, hrun⟩ | ⟨hword, hrun⟩
  · rw [hrun]
    refine iff_of_true (fun _ => rfl) fun hno => ?_
    rw [hblank] at hno
    cases hno
  rw [hrun, imp_iff_right hword]
  dsimp only
  rw [serve_bind, serve_get]
  dsimp only
  by_cases hactive : s.activeProfileId = some (Text.trim profileId)
  · rw [if_pos (beq_iff_eq.mpr hactive)]
    exact iff_of_true (fun _ => rfl) fun hno => absurd hactive hno
  rw [if_neg (mt beq_iff_eq.mp hactive), imp_iff_right hactive]
  have hany : s.stationProfiles.any (·.named (Text.trim profileId)) = true
      ↔ ∃ entry ∈ s.stationProfiles, entry.profileId = Text.trim profileId := by
    simp [ManagedPersistedStationProfile.named]
  by_cases hstored : s.stationProfiles.any (·.named (Text.trim profileId)) = true
  · rw [if_pos hstored, imp_iff_right (hany.mp hstored), serve_bind, serve_modify]
    dsimp only
    rw [serve_bind]
    rcases serve_persist_profiles w (withoutStationProfile (Text.trim profileId) s) with
      ⟨hfails, error, hrun⟩ | ⟨hfine, s', hrun⟩
    · rw [hrun]
      refine iff_of_false (fun h => ?_) fun hno => hno hfails
      -- the profile is gone, and no failure brings it back
      have hsame := congrArg (fun s => s.stationProfiles) (h rfl)
      obtain ⟨entry, hentry, hnamed⟩ := List.any_eq_true.mp hstored
      rw [← hsame] at hentry
      have hno := (List.mem_filter.mp hentry).2
      rw [hnamed] at hno
      cases hno
    · rw [hrun]
      refine iff_of_true (fun hno => ?_) hfine
      cases hno
  · rw [if_neg hstored]
    exact iff_of_true (fun _ => rfl) fun hno => absurd (hany.mpr hno) hstored

/-! ### The runtime configuration -/

/-- What a mutation leaves alone. -/
theorem assign_frame (m : RuntimeConfigMutation) (s : ManagedEngineState) :
    m.assign s = { s with
      qrzXmlUsername := (m.assign s).qrzXmlUsername
      qrzXmlPassword := (m.assign s).qrzXmlPassword
      hasQrzXmlPassword := (m.assign s).hasQrzXmlPassword
      qrzLogbookApiKey := (m.assign s).qrzLogbookApiKey
      hasQrzLogbookApiKey := (m.assign s).hasQrzLogbookApiKey
      rigControl := (m.assign s).rigControl
      runtimeOverrides := (m.assign s).runtimeOverrides } := by
  unfold RuntimeConfigMutation.assign RuntimeConfigMutation.username
    RuntimeConfigMutation.password RuntimeConfigMutation.apiKey
  split_ifs <;> first | rfl | (split <;> rfl)

/-- Whether a mutation is rejected does not depend on those before it. -/
theorem rejected_assign_iff {w : Surroundings} {m m' : RuntimeConfigMutation}
    {s : ManagedEngineState} : m'.Rejected w (m.assign s) ↔ m'.Rejected w s := by
  have howns : (m.assign s).ownsSyncEngine = s.ownsSyncEngine := by rw [assign_frame]
  have herror : rebuildError w (m'.apiKey (m.assign s)) = rebuildError w (m'.apiKey s) := by
    have hpersisted : (m.assign s).persistedSetup = s.persistedSetup := by rw [assign_frame]
    show rebuildError w { m.assign s with
      qrzLogbookApiKey := if m'.clear then none else normalizeOptional m'.value } = _
    rw [rebuildError, hpersisted]
    rfl
  rw [RuntimeConfigMutation.Rejected, RuntimeConfigMutation.Rejected, howns, herror]

/-- One round: the assignment is there, whether it throws or not. -/
theorem serve_applyMutation (w : Surroundings) (m : RuntimeConfigMutation)
    (s : ManagedEngineState) :
    m.Rejected w s ∧ (∃ error, serve (applyMutation w m) s = (.error error, m.assign s))
      ∨ ¬ m.Rejected w s ∧ serve (applyMutation w m) s = (.ok (), m.assign s) := by
  rw [applyMutation, RuntimeConfigMutation.Rejected, RuntimeConfigMutation.assign]
  by_cases husername : m.key = qrzXmlUsernameKey
  · rw [if_pos husername, if_pos husername]
    exact .inr ⟨by simp [husername, qrzXmlUsernameKey, qrzLogbookApiKeyKey, rigEnabledKey], rfl⟩
  rw [if_neg husername, if_neg husername]
  by_cases hpassword : m.key = qrzXmlPasswordKey
  · rw [if_pos hpassword, if_pos hpassword]
    exact .inr ⟨by simp [hpassword, qrzXmlPasswordKey, qrzLogbookApiKeyKey, rigEnabledKey], rfl⟩
  rw [if_neg hpassword, if_neg hpassword]
  by_cases hkey : m.key = qrzLogbookApiKeyKey
  · rw [if_pos hkey, if_pos hkey, hkey, serve_bind, serve_modify]
    have howns : (m.apiKey s).ownsSyncEngine = s.ownsSyncEngine := rfl
    rcases serve_rebuildSyncEngine w (m.apiKey s) with ⟨hfails, error, hrun⟩ | ⟨hfine, hrun⟩
    · rw [howns] at hfails
      exact .inl ⟨.inr (.inl ⟨rfl, hfails⟩), error, hrun⟩
    · refine .inr ⟨?_, hrun⟩
      rintro (hno | ⟨-, hno⟩ | ⟨hno, -⟩)
      · exact absurd hno (by decide)
      · exact hfine hno
      · exact absurd hno (by decide)
  rw [if_neg hkey, if_neg hkey]
  by_cases hrig : m.key = rigEnabledKey
  · rw [if_pos hrig, if_pos hrig, hrig]
    have hrejected : (rigEnabledKey ∉ [qrzXmlUsernameKey, qrzXmlPasswordKey, qrzLogbookApiKeyKey,
        rigEnabledKey]
          ∨ rigEnabledKey = qrzLogbookApiKeyKey ∧ s.ownsSyncEngine = true
            ∧ (rebuildError w (m.apiKey s)).isSome = true
          ∨ rigEnabledKey = rigEnabledKey ∧ m.clear = false ∧ tryParseBool m.value = none)
        ↔ m.clear = false ∧ tryParseBool m.value = none := by
      constructor
      · rintro (hno | ⟨hno, -⟩ | ⟨-, hvalue⟩)
        · exact absurd hno (by decide)
        · exact absurd hno (by decide)
        · exact hvalue
      · exact fun hvalue => .inr (.inr ⟨rfl, hvalue⟩)
    rw [hrejected]
    rcases m.clear
    · rcases tryParseBool m.value with - | enabled
      · exact .inl ⟨⟨rfl, rfl⟩, _, rfl⟩
      · exact .inr ⟨fun hno => (nomatch hno.2), rfl⟩
    · exact .inr ⟨fun hno => (nomatch hno.1), rfl⟩
  · rw [if_neg hrig, if_neg hrig]
    refine .inl ⟨.inl ?_, _, rfl⟩
    simp [husername, hpassword, hkey, hrig]

/-- All rounds: up to the first that throws. -/
theorem serve_mutations (w : Surroundings) (mutations : List RuntimeConfigMutation)
    (s : ManagedEngineState) :
    (∃ before m after, mutations = before ++ m :: after ∧ (∀ m' ∈ before, ¬ m'.Rejected w s)
        ∧ m.Rejected w s ∧ ∃ error,
          serve (mutations.forM (applyMutation w)) s = (.error error, assignAll (before ++ [m]) s))
      ∨ (∀ m ∈ mutations, ¬ m.Rejected w s)
        ∧ serve (mutations.forM (applyMutation w)) s = (.ok (), assignAll mutations s) := by
  induction mutations generalizing s with
  | nil => exact .inr ⟨fun _ hno => (nomatch hno), rfl⟩
  | cons m mutations ih =>
    have hcons : serve ((m :: mutations).forM (applyMutation w)) s
        = match serve (applyMutation w m) s with
          | (.ok _, s') => serve (mutations.forM (applyMutation w)) s'
          | (.error error, s') => (.error error, s') := by
      rw [List.forM_eq_forM, List.forM_cons, serve_bind]
      rcases serve (applyMutation w m) s with ⟨error | _, s'⟩ <;> rfl
    rw [hcons]
    rcases serve_applyMutation w m s with ⟨hrejected, error, hrun⟩ | ⟨haccepted, hrun⟩
    · refine .inl ⟨[], m, mutations, rfl, fun _ hno => (nomatch hno), hrejected, error, ?_⟩
      rw [hrun]
      rfl
    · rw [hrun]
      rcases ih (m.assign s) with
        ⟨before, m', after, hsplit, hbefore, hrejected, error, hrest⟩ | ⟨hall, hrest⟩
      · refine .inl ⟨m :: before, m', after, by rw [hsplit]; rfl, ?_,
          rejected_assign_iff.mp hrejected, error, hrest⟩
        intro other hother
        rcases List.mem_cons.mp hother with rfl | hother
        · exact haccepted
        · exact mt rejected_assign_iff.mpr (hbefore other hother)
      · refine .inr ⟨?_, hrest⟩
        intro other hother
        rcases List.mem_cons.mp hother with rfl | hother
        · exact haccepted
        · exact mt rejected_assign_iff.mpr (hall other hother)

/-- There is one first rejected mutation. -/
theorem first_unique {α : Type} {P : α → Prop} {before before' after after' : List α} {a a' : α}
    (heq : before ++ a :: after = before' ++ a' :: after') (hbefore : ∀ b ∈ before, ¬ P b)
    (ha : P a) (hbefore' : ∀ b ∈ before', ¬ P b) (ha' : P a') : before = before' ∧ a = a' := by
  induction before generalizing before' with
  | nil =>
    rcases before' with - | ⟨b, before'⟩
    · exact ⟨rfl, (List.cons.inj heq).1⟩
    · rw [(List.cons.inj heq).1] at ha
      exact absurd ha (hbefore' b List.mem_cons_self)
  | cons b before ih =>
    rcases before' with - | ⟨b', before'⟩
    · rw [← (List.cons.inj heq).1] at ha'
      exact absurd ha' (hbefore b List.mem_cons_self)
    · obtain ⟨hhead, htail⟩ := List.cons.inj heq
      obtain ⟨hsame, heq'⟩ := ih htail (fun c hc => hbefore c (List.mem_cons_of_mem _ hc))
        fun c hc => hbefore' c (List.mem_cons_of_mem _ hc)
      exact ⟨by rw [hhead, hsame], heq'⟩

theorem serve_getPersistedActiveProfile_cases (s : ManagedEngineState) :
    (∃ stored, s.stationProfiles.find? (fun entry => s.activeProfileId == some entry.profileId)
        = some stored ∧ stored.profile = none)
        ∧ (∃ error, serve getPersistedActiveProfile s = (.error error, s))
      ∨ ¬ (∃ stored, s.stationProfiles.find?
          (fun entry => s.activeProfileId == some entry.profileId) = some stored
            ∧ stored.profile = none)
        ∧ ∃ profile, serve getPersistedActiveProfile s = (.ok profile, s) := by
  rw [getPersistedActiveProfile, serve_bind, serve_get]
  dsimp only
  generalize s.stationProfiles.find? (fun entry => s.activeProfileId == some entry.profileId)
    = found
  rcases found with - | stored
  · exact .inr ⟨fun ⟨_, hno, _⟩ => (nomatch hno), none, rfl⟩
  dsimp only
  rw [serve_map, parseProfile]
  rcases hprofile : stored.profile with - | profile
  · exact .inl ⟨⟨stored, rfl, hprofile⟩, _, rfl⟩
  · refine .inr ⟨?_, some profile, rfl⟩
    rintro ⟨_, heq, hno⟩
    cases heq
    rw [hprofile] at hno
    cases hno

/-- Building the snapshot throws, or not, and changes nothing. -/
theorem serve_getEffectiveActiveProfile (s : ManagedEngineState) :
    SnapshotFails s ∧ (∃ error, serve getEffectiveActiveProfile s = (.error error, s))
      ∨ ¬ SnapshotFails s ∧ ∃ profile, serve getEffectiveActiveProfile s = (.ok profile, s) := by
  rw [getEffectiveActiveProfile, serve_bind, serve_get, SnapshotFails]
  dsimp only
  rcases s.sessionOverrideProfile with - | profile
  · rw [and_iff_right rfl]
    exact serve_getPersistedActiveProfile_cases s
  · exact .inr ⟨fun hno => (nomatch hno.1), some profile, rfl⟩

/-- The assignments do not touch the profiles. -/
theorem snapshotFails_assignAll (mutations : List RuntimeConfigMutation)
    (s : ManagedEngineState) : SnapshotFails (assignAll mutations s) ↔ SnapshotFails s := by
  induction mutations generalizing s with
  | nil => exact Iff.rfl
  | cons m mutations ih =>
    show SnapshotFails (assignAll mutations (m.assign s)) ↔ _
    rw [ih, SnapshotFails, assign_frame]
    exact Iff.rfl

/-- **`ApplyRuntimeConfig`.** -/
theorem restores_applyRuntimeConfig_iff (w : Surroundings)
    (mutations : List RuntimeConfigMutation) (s : ManagedEngineState) :
    Restores (serve (applyRuntimeConfig w mutations) s) s ↔ HarmlessMutations w mutations s := by
  rw [applyRuntimeConfig, HarmlessMutations, serve_bind]
  rcases serve_mutations w mutations s with
    ⟨before, m, after, hsplit, hbefore, hrejected, error, hrun⟩ | ⟨haccepted, hrun⟩
  · rw [hrun]
    refine restores_error.trans ⟨fun hsame => ⟨?_, ?_⟩, fun h => h.1 _ _ _ hsplit hbefore hrejected⟩
    · intro before' m' after' hsplit' hbefore' hrejected'
      obtain ⟨rfl, rfl⟩ :=
        first_unique (hsplit.symm.trans hsplit') hbefore hrejected hbefore' hrejected'
      exact hsame
    · intro hall
      exact absurd hrejected (hall m (by rw [hsplit]; simp))
  · have hfirst : ∀ before m after, mutations = before ++ m :: after →
        (∀ m' ∈ before, ¬ m'.Rejected w s) → m.Rejected w s → assignAll (before ++ [m]) s = s := by
      intro before m after hsplit _ hrejected
      exact absurd hrejected (haccepted m (by rw [hsplit]; simp))
    rw [hrun, and_iff_right hfirst, imp_iff_right haccepted, ← snapshotFails_assignAll mutations]
    dsimp only
    rw [serve_bind]
    rcases serve_getEffectiveActiveProfile (assignAll mutations s) with
      ⟨hfails, error, hread⟩ | ⟨hfine, profile, hread⟩
    · rw [hread]
      exact restores_error.trans ⟨fun h _ => h, fun h => h hfails⟩
    · rw [hread]
      exact iff_of_true restores_ok fun hno => absurd hno hfine

/-! ### Every call -/

/-- An engine without a profile or a secret. -/
def emptyEngine : ManagedEngineState where
  storageBackendName := "memory"
  currentPersistenceLocation := none
  ownsSyncEngine := true
  persistedSetup := {}
  qrzXmlUsername := none
  qrzXmlPassword := none
  hasQrzXmlPassword := false
  qrzLogbookApiKey := none
  hasQrzLogbookApiKey := false
  baseQrzXmlUsername := none
  baseQrzXmlPassword := none
  baseQrzLogbookApiKey := none
  baseRigControl := none
  syncConfig := {}
  rigControl := none
  stationProfiles := []
  activeProfileId := none
  sessionOverrideProfile := none
  runtimeOverrides := fun _ => none
  secrets := fun _ => none

end QsoRipper.DotNet.Setup
