/-
QsoRipper/Setup/Saving.lean

What a saved setup reads back as.  A section is left out under conditions that are
not the reader's defaults, so a setup survives being saved only if what is left
out is what would be read in its place.
-/
import QsoRipper.Setup.RoundTrip
import QsoRipper.Setup.Values

namespace QsoRipper.Setup

open Toml

/-! ### What saving promises -/

/-- The runtime values that come from the sections that are written, apart from
the secrets. -/
def RuntimeKey.isSaved : RuntimeKey → Bool
  | .qrzXmlPassword | .qrzLogbookApiKey | .lotwPassword | .lotwCertificatePassword => false
  | .wsjtxIngestEnabled | .wsjtxIngestUdpEnabled | .wsjtxIngestUdpBind
  | .wsjtxIngestAdifTailEnabled | .wsjtxIngestAdifTailPath | .wsjtxIngestPollIntervalMs
  | .wsjtxIngestSyncToQrz => false
  | .cwKeyerBackend | .cwWinkeyerPort | .cwWinkeyerBaud | .cwCathubEndpoint | .cwCathubClientName
  | .cwSpeedWpm | .cwTransmitEnabled | .cwMaxTxMs => false
  | _ => true

/-- Where a secret could stand: the section and the field. -/
def secretFields : List (String × String) :=
  [("qrz_xml", "password"), ("qrz_logbook", "api_key"), ("lotw", "password"),
    ("lotw", "certificate_password")]

/-- No secret is in the document. -/
def NoSecrets (doc : Table) : Prop :=
  ∀ place ∈ secretFields, ∀ t : Table, doc.get? place.1 = some (.table t) → t.get? place.2 = none

/-- **Saving a setup loses nothing**: it is written, what is written loads to the same
values and carries no secret, the other tables stay, and what was loaded is
written the same. -/
def SavesAll (text : FloatText) (doc : Table) (config : PersistedSetupConfig) : Prop :=
  ∃ saved loaded, writePersistedConfig doc config none = some saved
    ∧ loadPersistedConfig saved = some (loaded, saved)
    ∧ (∀ key, key.isSaved = true →
        loaded.toRuntimeValues text key = config.toRuntimeValues text key)
    ∧ (∀ key, key ∉ engineOwnedConfigKeys → saved.get? key = doc.get? key)
    ∧ NoSecrets saved
    ∧ writePersistedConfig saved loaded none = some saved

/-! ### What it takes -/

/-- Each number fits the type that it is read as. -/
structure PersistedSetupConfig.InRange (config : PersistedSetupConfig) : Prop where
  stationProfile : config.stationProfile.InRange
  stationProfiles : config.stationProfiles.InRange
  sync : config.sync.syncIntervalSeconds < 2 ^ 32
  rigControl : ∀ n ∈ config.rigControl.port, n < 2 ^ 16

/-- The ingest settings of a document. -/
def ingestOf (doc : Table) : Option PersistedWsjtxIngestConfig :=
  doc.withDefault "wsjtx_ingest" {} fun v => v.table?.bind PersistedWsjtxIngestConfig.ofToml

/-- The keying settings of a document. -/
def keyingOf (doc : Table) : Option PersistedCwKeyingConfig :=
  doc.withDefault "cw_keying" {} fun v => v.table?.bind PersistedCwKeyingConfig.ofToml

/-- A section is left out only if what is written of it says nothing, and is not
kept for its secrets alone. -/
def KeptAs {α : Type} (isEmpty : α → Bool) (config written empty : α) : Prop :=
  if isEmpty config = true then written = empty else isEmpty written = false

def PersistedQrzLogbookConfig.Kept (config : PersistedQrzLogbookConfig) : Prop :=
  KeptAs isEmpty config config.written {}

def PersistedLotwConfig.Kept (config : PersistedLotwConfig) : Prop :=
  KeptAs isEmpty config config.written {}

/-- A setup that survives being saved over a document. -/
structure Saveable (doc : Table) (config : PersistedSetupConfig) : Prop where
  /-- Each number that is written fits an `i64`. -/
  fits : ∀ n ∈ config.numbers, n < 2 ^ 63
  inRange : config.InRange
  ingest : (ingestOf doc).isSome = true
  keying : (keyingOf doc).isSome = true
  /-- The active profile stands in both places, and loading has nothing to add. -/
  settled : config.settle = config
  qrzLogbook : config.qrzLogbook.Kept
  lotw : config.lotw.Kept
  /-- The default sync settings are left out, but others are read in their place. -/
  sync : config.sync.isEmpty = false

/-! ### The document that is written -/

/-- The document without the tables of the engine. -/
def unowned (doc : Table) : Table := engineOwnedConfigKeys.foldl Table.remove doc

/-- The sections that are spliced in. -/
def PersistedSetupConfig.ownedSections (config : PersistedSetupConfig) :
    List (String × Option Toml) :=
  config.sections.take 9

section Written

variable {doc : Table} {config : PersistedSetupConfig} {key : String}

theorem get?_unowned :
    (unowned doc).get? key = if key ∈ engineOwnedConfigKeys then none else doc.get? key :=
  Table.get?_foldl_remove

theorem map_fst_ownedSections : config.ownedSections.map Prod.fst = engineOwnedConfigKeys := rfl

theorem engineOwnedConfigKeys_nodup : engineOwnedConfigKeys.Nodup := by
  simp [engineOwnedConfigKeys]

theorem nodup_ownedSections : (config.ownedSections.map Prod.fst).Nodup := by
  rw [map_fst_ownedSections]
  exact engineOwnedConfigKeys_nodup

/-- The two last sections are skipped. -/
theorem foldl_sections (t : Table) :
    (Table.ofFields config.sections).foldl spliceOwned t
      = (Table.ofFields config.ownedSections).foldl (fun t entry => Table.insert entry.1 entry.2 t)
        t := by
  have hsplit : Table.ofFields config.sections
      = Table.ofFields config.ownedSections ++ Table.ofFields (config.sections.drop 9) := by
    rw [Table.ofFields, Table.ofFields, Table.ofFields, ← List.filterMap_append]
    rfl
  have hkept : ∀ entry ∈ Table.ofFields config.ownedSections, ∀ t,
      spliceOwned t entry = Table.insert entry.1 entry.2 t := by
    intro entry hentry t
    have hmem := Table.fst_mem_of_mem_ofFields hentry
    rw [map_fst_ownedSections] at hmem
    refine if_neg ?_
    rintro (hkey | hkey) <;> rw [hkey] at hmem <;>
      exact absurd hmem (by simp [engineOwnedConfigKeys])
  have hskipped : ∀ (entries : Table) (t : Table),
      (∀ entry ∈ entries, entry.1 = "wsjtx_ingest" ∨ entry.1 = "cw_keying") →
      entries.foldl spliceOwned t = t := by
    intro entries
    induction entries with
    | nil => exact fun _ _ => rfl
    | cons entry entries ih =>
        intro t hall
        obtain ⟨hentry, hrest⟩ := List.forall_mem_cons.mp hall
        rw [List.foldl_cons, spliceOwned, if_pos hentry]
        exact ih t hrest
  rw [hsplit, List.foldl_append, hskipped]
  · exact List.foldl_ext _ _ _ fun t entry hentry => hkept entry hentry t
  · intro entry hentry
    have hmem := Table.fst_mem_of_mem_ofFields hentry
    simpa [PersistedSetupConfig.sections] using hmem

/-- The document as it is saved. -/
def savedDocument (doc : Table) (config : PersistedSetupConfig) : Table :=
  unowned doc ++ Table.ofFields config.ownedSections

theorem writePersistedConfig_none :
    writePersistedConfig doc config none =
      if ∀ n ∈ config.numbers, n < 2 ^ 63 then some (savedDocument doc config) else none := by
  rw [writePersistedConfig, PersistedSetupConfig.serialize]
  split_ifs
  · show some _ = _
    congr 1
    rw [foldl_sections, Table.foldl_insert]
    · rfl
    · exact nodup_ownedSections.sublist Table.map_fst_ofFields
    · intro entry hentry
      have hmem := Table.fst_mem_of_mem_ofFields hentry
      rw [map_fst_ownedSections] at hmem
      exact get?_unowned.trans (if_pos hmem)
  · rfl

theorem get?_saved_owned (h : key ∈ engineOwnedConfigKeys) :
    (savedDocument doc config).get? key = (config.ownedSections.lookup key).join := by
  rw [savedDocument, Table.get?_append, get?_unowned, if_pos h, Option.none_or,
    Table.get?_ofFields nodup_ownedSections]

theorem get?_saved_other (h : key ∉ engineOwnedConfigKeys) :
    (savedDocument doc config).get? key = doc.get? key := by
  have hnone : config.ownedSections.lookup key = none := by
    refine List.lookup_eq_none_iff.mpr fun entry hentry => bne_iff_ne.mpr fun heq => h ?_
    rw [← map_fst_ownedSections, heq]
    exact List.mem_map_of_mem hentry
  rw [savedDocument, Table.get?_append, get?_unowned, if_neg h,
    Table.get?_ofFields nodup_ownedSections, hnone, Option.join_none, Option.or_none]

/-! ### What is read back -/

/-- The setup that the saved document reads as, with its ingest and its keying. -/
def PersistedSetupConfig.readBack (config : PersistedSetupConfig)
    (wsjtxIngest : PersistedWsjtxIngestConfig) (cwKeying : PersistedCwKeyingConfig) :
    PersistedSetupConfig where
  logbook := if config.logbook.isEmpty then {} else config.logbook
  storage := if config.storage.isEmpty then {} else config.storage
  stationProfile := config.stationProfile
  stationProfiles := config.stationProfiles
  qrzXml := config.qrzXml.written
  qrzLogbook := if config.qrzLogbook.isEmpty then {} else config.qrzLogbook.written
  lotw := if config.lotw.isEmpty then {} else config.lotw.written
  sync := if config.sync.isEmpty then {} else config.sync
  rigControl := if config.rigControl.isEmpty then {} else config.rigControl
  wsjtxIngest := wsjtxIngest
  cwKeying := cwKeying

theorem withDefault_section {α : Type} {default : α} {read : Table → Option α} {t : Table}
    {skipped : Bool} {fields : List (String × Option Toml)}
    (h : t.get? key = sectionOf skipped fields) :
    (t.withDefault key default fun v => v.table?.bind read)
      = if skipped then some default else read (Table.ofFields fields) := by
  rw [Table.withDefault, h, sectionOf]
  cases skipped <;> rfl

/-- An empty section has its port in range. -/
theorem PersistedRigControlConfig.port_of_isEmpty {config : PersistedRigControlConfig}
    (h : config.isEmpty = true) : config = {} := by
  obtain ⟨enabled, host, port, readTimeoutMs, staleThresholdMs⟩ := config
  simp only [isEmpty, Bool.and_eq_true, Option.isNone_iff_eq_none] at h
  obtain ⟨⟨⟨⟨rfl, rfl⟩, rfl⟩, rfl⟩, rfl⟩ := h
  rfl

theorem PersistedSyncConfig.interval_of_isEmpty {config : PersistedSyncConfig}
    (h : config.isEmpty = true) : config.syncIntervalSeconds = 300 := by
  simp only [isEmpty, Bool.and_eq_true, beq_iff_eq] at h
  exact h.1.2

/-- A section of the saved document. -/
theorem get?_saved_section {skipped : Bool} {fields : List (String × Option Toml)}
    (hkey : key ∈ engineOwnedConfigKeys)
    (hlookup : config.ownedSections.lookup key = some (sectionOf skipped fields)) :
    (savedDocument doc config).get? key = sectionOf skipped fields := by
  rw [get?_saved_owned hkey, hlookup, Option.join_some]

theorem ofToml_saved (hfits : ∀ n ∈ config.numbers, n < 2 ^ 63) {read : PersistedSetupConfig} :
    PersistedSetupConfig.ofToml (savedDocument doc config) = some read
      ↔ config.InRange ∧ ∃ w ∈ ingestOf doc, ∃ c ∈ keyingOf doc, read = config.readBack w c := by
  have hsections : ∀ {key skipped fields}, key ∈ engineOwnedConfigKeys →
      config.ownedSections.lookup key = some (sectionOf skipped fields) →
      (savedDocument doc config).get? key = sectionOf skipped fields := get?_saved_section
  simp only [PersistedSetupConfig.numbers, List.forall_mem_append] at hfits
  obtain ⟨⟨⟨⟨⟨⟨hprofile, hentries⟩, hlotw⟩, hsync⟩, hrig⟩, -⟩, -⟩ := hfits
  have hcatalog : ∀ entry ∈ config.stationProfiles.entries,
      ∀ n ∈ entry.profile.numbers, n < 2 ^ 63 := by
    intro entry hentry n hn
    exact hentries n (List.mem_flatMap.mpr ⟨entry, hentry, hn⟩)
  have hrange : config.InRange ↔ config.stationProfile.InRange ∧ config.stationProfiles.InRange
      ∧ config.sync.syncIntervalSeconds < 2 ^ 32 ∧ ∀ n ∈ config.rigControl.port, n < 2 ^ 16 :=
    ⟨fun h => ⟨h.1, h.2, h.3, h.4⟩, fun h => ⟨h.1, h.2.1, h.2.2.1, h.2.2.2⟩⟩
  have hlotwRead : (if config.lotw.isEmpty then some {}
      else PersistedLotwConfig.ofToml (Table.ofFields config.lotw.fields))
        = some (if config.lotw.isEmpty then {} else config.lotw.written) := by
    split_ifs with hempty
    · rfl
    · rw [if_neg hempty] at hlotw
      exact config.lotw.ofToml_fields fun n hn => hlotw n (Option.mem_toList.mpr hn)
  have hsyncRead : (if config.sync.isEmpty then some {}
      else PersistedSyncConfig.ofToml (Table.ofFields config.sync.fields))
        = if config.sync.syncIntervalSeconds < 2 ^ 32 then
            some (if config.sync.isEmpty then {} else config.sync) else none := by
    by_cases hempty : config.sync.isEmpty = true
    · rw [if_pos hempty, if_pos, if_pos hempty]
      rw [PersistedSyncConfig.interval_of_isEmpty hempty]
      decide
    · rw [if_neg hempty] at hsync
      rw [if_neg hempty, if_neg hempty]
      exact config.sync.ofToml_fields (hsync _ (List.mem_singleton_self _))
  have hrigRead : (if config.rigControl.isEmpty then some {}
      else PersistedRigControlConfig.ofToml (Table.ofFields config.rigControl.fields))
        = if ∀ n ∈ config.rigControl.port, n < 2 ^ 16 then
            some (if config.rigControl.isEmpty then {} else config.rigControl) else none := by
    by_cases hempty : config.rigControl.isEmpty = true
    · rw [if_pos hempty, if_pos, if_pos hempty]
      rw [PersistedRigControlConfig.port_of_isEmpty hempty]
      exact fun n hn => by cases hn
    · rw [if_neg hempty] at hrig
      rw [if_neg hempty, if_neg hempty]
      exact config.rigControl.ofToml_fields hrig
  have hingest : ((savedDocument doc config).withDefault "wsjtx_ingest" {} fun v =>
      v.table?.bind PersistedWsjtxIngestConfig.ofToml) = ingestOf doc := by
    rw [ingestOf, Table.withDefault, Table.withDefault,
      get?_saved_other (by simp [engineOwnedConfigKeys])]
  have hkeying : ((savedDocument doc config).withDefault "cw_keying" {} fun v =>
      v.table?.bind PersistedCwKeyingConfig.ofToml) = keyingOf doc := by
    rw [keyingOf, Table.withDefault, Table.withDefault,
      get?_saved_other (by simp [engineOwnedConfigKeys])]
  rw [PersistedSetupConfig.ofToml, hingest, hkeying,
    withDefault_section (hsections (by simp [engineOwnedConfigKeys]) (rfl :
      config.ownedSections.lookup "logbook" = _)), config.logbook.ofToml_fields,
    withDefault_section (hsections (by simp [engineOwnedConfigKeys]) (rfl :
      config.ownedSections.lookup "storage" = _)), config.storage.ofToml_fields,
    withDefault_section (hsections (by simp [engineOwnedConfigKeys]) (rfl :
      config.ownedSections.lookup "station_profile" = _)), if_neg Bool.false_ne_true,
    config.stationProfile.ofToml_fields hprofile,
    withDefault_section (hsections (by simp [engineOwnedConfigKeys]) (rfl :
      config.ownedSections.lookup "station_profiles" = _)), if_neg Bool.false_ne_true,
    config.stationProfiles.ofToml_fields hcatalog,
    withDefault_section (hsections (by simp [engineOwnedConfigKeys]) (rfl :
      config.ownedSections.lookup "qrz_xml" = _)), if_neg Bool.false_ne_true,
    config.qrzXml.ofToml_fields,
    withDefault_section (hsections (by simp [engineOwnedConfigKeys]) (rfl :
      config.ownedSections.lookup "qrz_logbook" = _)), config.qrzLogbook.ofToml_fields,
    withDefault_section (hsections (by simp [engineOwnedConfigKeys]) (rfl :
      config.ownedSections.lookup "lotw" = _)), hlotwRead,
    withDefault_section (hsections (by simp [engineOwnedConfigKeys]) (rfl :
      config.ownedSections.lookup "sync" = _)), hsyncRead,
    withDefault_section (hsections (by simp [engineOwnedConfigKeys]) (rfl :
      config.ownedSections.lookup "rig_control" = _)), hrigRead, hrange]
  have hsome : ∀ {α : Type} (b : Bool) (x y : α),
      (if b = true then some x else some y) = some (if b = true then x else y) :=
    fun b x y => by cases b <;> rfl
  rw [hsome, hsome, hsome]
  by_cases hall : config.stationProfile.InRange ∧ config.stationProfiles.InRange
      ∧ config.sync.syncIntervalSeconds < 2 ^ 32 ∧ ∀ n ∈ config.rigControl.port, n < 2 ^ 16
  · obtain ⟨hp, hps, hs, hr⟩ := id hall
    rw [if_pos hp, if_pos hps, if_pos hs, if_pos hr]
    rcases hw : ingestOf doc with - | w
    · refine iff_of_false (by rintro ⟨⟩) ?_
      rintro ⟨-, w, ⟨⟩, -⟩
    · rcases hc : keyingOf doc with - | c
      · refine iff_of_false (by rintro ⟨⟩) ?_
        rintro ⟨-, w, -, c, ⟨⟩, -⟩
      · constructor
        · intro h
          exact ⟨hall, w, rfl, c, rfl, (Option.some.inj h).symm⟩
        · rintro ⟨-, _, ⟨⟩, _, ⟨⟩, rfl⟩
          rfl
  · refine iff_of_false (fun h => hall ?_) fun h => hall h.1
    by_cases hp : config.stationProfile.InRange
    · by_cases hps : config.stationProfiles.InRange
      · by_cases hs : config.sync.syncIntervalSeconds < 2 ^ 32
        · by_cases hr : ∀ n ∈ config.rigControl.port, n < 2 ^ 16
          · exact ⟨hp, hps, hs, hr⟩
          · rw [if_pos hp, if_pos hps, if_pos hs, if_neg hr] at h
            cases h
        · rw [if_pos hp, if_pos hps, if_neg hs] at h
          cases h
      · rw [if_pos hp, if_neg hps] at h
        cases h
    · rw [if_neg hp] at h
      cases h

/-- What is read back has no secrets, so that loading writes nothing. -/
theorem loadPersistedConfig_saved (hfits : ∀ n ∈ config.numbers, n < 2 ^ 63)
    {loaded : PersistedSetupConfig} {left : Table} :
    loadPersistedConfig (savedDocument doc config) = some (loaded, left)
      ↔ config.InRange ∧ (∃ w ∈ ingestOf doc, ∃ c ∈ keyingOf doc,
          loaded = (config.readBack w c).settle) ∧ left = savedDocument doc config := by
  have hnone : ∀ w c, (config.readBack w c).hadPlaintextSecrets = false := by
    intro w c
    rw [PersistedSetupConfig.hadPlaintextSecrets, PersistedSetupConfig.readBack]
    dsimp only
    split_ifs <;> rfl
  rw [loadPersistedConfig]
  constructor
  · intro h
    obtain ⟨read, hread, hrest⟩ := Option.bind_eq_some_iff.mp h
    obtain ⟨hrange, w, hw, c, hc, rfl⟩ := (ofToml_saved hfits).mp hread
    dsimp only at hrest
    rw [hnone, if_neg Bool.false_ne_true] at hrest
    cases hrest
    exact ⟨hrange, ⟨w, hw, c, hc, rfl⟩, rfl⟩
  · rintro ⟨hrange, ⟨w, hw, c, hc, rfl⟩, rfl⟩
    rw [(ofToml_saved hfits).mpr ⟨hrange, w, hw, c, hc, rfl⟩]
    show (if (config.readBack w c).hadPlaintextSecrets = true then _ else _) = _
    rw [hnone, if_neg Bool.false_ne_true]
    rfl

/-- Saving again leaves the tables of others as they are. -/
theorem unowned_savedDocument : unowned (savedDocument doc config) = unowned doc := by
  rw [unowned, unowned, savedDocument, unowned, Table.foldl_remove, Table.foldl_remove,
    List.filter_append, List.filter_filter]
  have hrest : (Table.ofFields config.ownedSections).filter
      (fun entry => decide (entry.1 ∉ engineOwnedConfigKeys)) = [] := by
    refine List.filter_eq_nil_iff.mpr fun entry hentry => ?_
    have hmem := Table.fst_mem_of_mem_ofFields hentry
    rw [map_fst_ownedSections] at hmem
    simpa using hmem
  rw [hrest, List.append_nil]
  simp only [Bool.and_self]

/-- A second save changes nothing exactly if each section is written the same. -/
theorem savedDocument_eq_iff {loaded : PersistedSetupConfig} :
    savedDocument (savedDocument doc config) loaded = savedDocument doc config
      ↔ loaded.ownedSections = config.ownedSections := by
  rw [savedDocument, unowned_savedDocument, savedDocument, List.append_cancel_left_eq]
  refine ⟨Table.ofFields_injective rfl nodup_ownedSections, fun h => ?_⟩
  rw [h]

theorem noSecrets_saved : NoSecrets (savedDocument doc config) := by
  have habsent : ∀ {key field skipped fields t}, key ∈ engineOwnedConfigKeys →
      config.ownedSections.lookup key = some (sectionOf skipped fields) →
      (fields.map Prod.fst).Nodup → fields.lookup field = none →
      (savedDocument doc config).get? key = some (.table t) → Table.get? t field = none := by
    intro key field skipped fields t hkey hlookup hnodup hfield ht
    rw [get?_saved_section hkey hlookup, sectionOf] at ht
    split_ifs at ht
    cases ht
    rw [Table.get?_ofFields hnodup, hfield, Option.join_none]
  simp only [NoSecrets, secretFields, List.forall_mem_cons, List.not_mem_nil, false_implies,
    implies_true, and_true]
  refine ⟨fun t => habsent (by simp [engineOwnedConfigKeys]) rfl ?_ ?_,
    fun t => habsent (by simp [engineOwnedConfigKeys]) rfl ?_ ?_,
    fun t => habsent (by simp [engineOwnedConfigKeys]) rfl ?_ ?_,
    fun t => habsent (by simp [engineOwnedConfigKeys]) rfl ?_ ?_⟩ <;>
    simp [PersistedQrzXmlConfig.fields, PersistedQrzLogbookConfig.fields,
      PersistedLotwConfig.fields, List.lookup]

/-! ### Loading what was saved -/

theorem InRange.lt {profile : PersistedStationProfile} (h : profile.InRange) :
    ∀ n ∈ profile.numbers, n < 2 ^ 63 :=
  fun n hn => (h n hn).trans (by decide)

/-- Profiles with the same serialised fields are the same. -/
theorem PersistedStationProfile.fields_injective {profile other : PersistedStationProfile}
    (hprofile : profile.InRange) (hother : other.InRange)
    (h : Table.ofFields profile.fields = Table.ofFields other.fields) : profile = other := by
  have hread := congrArg PersistedStationProfile.ofToml h
  rw [profile.ofToml_fields (InRange.lt hprofile), other.ofToml_fields (InRange.lt hother),
    if_pos hprofile, if_pos hother] at hread
  exact Option.some.inj hread

theorem PersistedStationProfileCatalog.fields_injective
    {catalog other : PersistedStationProfileCatalog} (hcatalog : catalog.InRange)
    (hother : other.InRange) (h : Table.ofFields catalog.fields = Table.ofFields other.fields) :
    catalog = other := by
  have hread := congrArg PersistedStationProfileCatalog.ofToml h
  rw [catalog.ofToml_fields fun entry hentry => InRange.lt (hcatalog entry hentry),
    other.ofToml_fields fun entry hentry => InRange.lt (hother entry hentry), if_pos hcatalog,
    if_pos hother] at hread
  exact Option.some.inj hread

theorem bootstrap_inRange {catalog : PersistedStationProfileCatalog}
    {legacy : PersistedStationProfile} (hcatalog : catalog.InRange) (hlegacy : legacy.InRange) :
    (catalog.bootstrapFromLegacy legacy).InRange := by
  intro entry hentry
  rw [PersistedStationProfileCatalog.bootstrapFromLegacy] at hentry
  dsimp only at hentry
  split_ifs at hentry
  · rw [List.mem_singleton.mp hentry]
    exact hlegacy
  · exact hcatalog entry hentry

theorem settle_inRange (h : config.InRange) :
    config.settle.stationProfile.InRange ∧ config.settle.stationProfiles.InRange := by
  have hcatalog : config.settle.stationProfiles.InRange :=
    bootstrap_inRange h.stationProfiles h.stationProfile
  refine ⟨?_, hcatalog⟩
  show ((config.stationProfiles.bootstrapFromLegacy config.stationProfile).activeProfile.elim
    config.stationProfile fun entry => .fromProto entry.profile.toProto).InRange
  rcases hactive : (config.stationProfiles.bootstrapFromLegacy
    config.stationProfile).activeProfile with - | entry
  · exact h.stationProfile
  · exact hcatalog entry (PersistedStationProfileCatalog.mem_of_activeProfile hactive)

theorem settle_eq_self_iff : config.settle = config
    ↔ config.settle.stationProfile = config.stationProfile
      ∧ config.settle.stationProfiles = config.stationProfiles := by
  refine ⟨fun h => ⟨congrArg _ h, congrArg _ h⟩, fun ⟨hprofile, hcatalog⟩ => ?_⟩
  have hframe : config.settle = { config with
      stationProfile := config.settle.stationProfile
      stationProfiles := config.settle.stationProfiles } := rfl
  rw [hframe, hprofile, hcatalog]

/-- What loading adds to the profiles does not depend on the other sections. -/
theorem settle_readBack (w : PersistedWsjtxIngestConfig) (c : PersistedCwKeyingConfig) :
    (config.readBack w c).settle = { config.readBack w c with
      stationProfile := config.settle.stationProfile
      stationProfiles := config.settle.stationProfiles } := rfl

theorem KeptAs.eq_empty {α : Type} {isEmpty : α → Bool} {config written empty : α}
    (h : KeptAs isEmpty config written empty) (hempty : isEmpty config = true) :
    written = empty := by
  rwa [KeptAs, if_pos hempty] at h

/-- The section is written the same when what was left out is read as `empty`. -/
theorem sectionOf_ite {α : Type} (isEmpty : α → Bool) (fields : α → List (String × Option Toml))
    {empty config : α} (hempty : isEmpty empty = true) :
    sectionOf (isEmpty (if isEmpty config = true then empty else config))
        (fields (if isEmpty config = true then empty else config))
      = sectionOf (isEmpty config) (fields config) := by
  by_cases h : isEmpty config = true
  · rw [if_pos h, hempty, h]
    rfl
  · rw [if_neg h]

/-- A section with secrets is written the same exactly if it is kept, provided that
nothing is left out that says something. -/
theorem sectionOf_kept {α : Type} (isEmpty : α → Bool) (fields : α → List (String × Option Toml))
    {empty config written : α} (hempty : isEmpty empty = true)
    (hfields : fields written = fields config)
    (hnothing : isEmpty config = true → written = empty) :
    sectionOf (isEmpty (if isEmpty config = true then empty else written))
        (fields (if isEmpty config = true then empty else written))
      = sectionOf (isEmpty config) (fields config) ↔ KeptAs isEmpty config written empty := by
  by_cases h : isEmpty config = true
  · rw [KeptAs, if_pos h, if_pos h, hempty, h]
    exact iff_of_true rfl (hnothing h)
  · rw [KeptAs, if_neg h, if_neg h, hfields, Bool.eq_false_iff.mpr h]
    cases isEmpty written <;> simp [sectionOf]

theorem sectionOf_of_kept {α : Type} {isEmpty : α → Bool} {empty config written : α}
    {fields : α → List (String × Option Toml)} (hkept : KeptAs isEmpty config written empty)
    (hfields : fields written = fields config) (hempty : isEmpty empty = true) :
    sectionOf (isEmpty (if isEmpty config = true then empty else written))
        (fields (if isEmpty config = true then empty else written))
      = sectionOf (isEmpty config) (fields config) :=
  (sectionOf_kept isEmpty fields hempty hfields hkept.eq_empty).mpr hkept

section Values

variable {text : FloatText} {w : PersistedWsjtxIngestConfig} {c : PersistedCwKeyingConfig}

theorem logFilePath_readBack : (config.readBack w c).logFilePath = config.logFilePath := by
  rw [PersistedSetupConfig.logFilePath, PersistedSetupConfig.logFilePath]
  congr 1
  · show normalizeOptionalString (if config.logbook.isEmpty then {} else config.logbook).filePath
      = normalizeOptionalString config.logbook.filePath
    split_ifs with h
    · exact (Option.isNone_iff_eq_none.mp h).symm
    · rfl
  · show normalizeOptionalString (if config.storage.isEmpty then {} else config.storage).sqlitePath
      = normalizeOptionalString config.storage.sqlitePath
    split_ifs with h
    · exact (Option.isNone_iff_eq_none.mp ((Bool.and_eq_true _ _).mp h).2).symm
    · rfl

theorem runtimeStorageBackend_readBack :
    (config.readBack w c).runtimeStorageBackend = config.runtimeStorageBackend := by
  have hbackend : (config.readBack w c).storage.backend = config.storage.backend := by
    show (if config.storage.isEmpty then {} else config.storage).backend = config.storage.backend
    split_ifs with h
    · exact (Option.isNone_iff_eq_none.mp ((Bool.and_eq_true _ _).mp h).1).symm
    · rfl
  rw [PersistedSetupConfig.runtimeStorageBackend, PersistedSetupConfig.runtimeStorageBackend,
    logFilePath_readBack, PersistedSetupConfig.legacyStorageBackend,
    PersistedSetupConfig.legacyStorageBackend, hbackend]

theorem rigControl_readBack : (config.readBack w c).rigControl = config.rigControl := by
  show (if config.rigControl.isEmpty then {} else config.rigControl) = config.rigControl
  split_ifs with h
  · exact (PersistedRigControlConfig.port_of_isEmpty h).symm
  · rfl

theorem toRuntimeValues_storageBackend (config : PersistedSetupConfig) :
    config.toRuntimeValues text .storageBackend
      = match config.runtimeStorageBackend with
        | .memory => some "memory"
        | .sqlite => some "sqlite"
        | .unspecified => none := rfl

/-- The saved values are read back if no section is left out that says something. -/
theorem toRuntimeValues_readBack (hlogbook : config.qrzLogbook.isEmpty = true →
      config.qrzLogbook.written = {})
    (hlotw : config.lotw.isEmpty = true → config.lotw.written = {})
    (hsync : config.sync.isEmpty = false) {key : RuntimeKey} (hkey : key.isSaved = true) :
    (config.readBack w c).toRuntimeValues text key = config.toRuntimeValues text key := by
  have hbase : (config.readBack w c).qrzLogbook.baseUrl = config.qrzLogbook.baseUrl := by
    show (if config.qrzLogbook.isEmpty then {} else config.qrzLogbook.written).baseUrl
      = config.qrzLogbook.written.baseUrl
    split_ifs with h
    · exact congrArg PersistedQrzLogbookConfig.baseUrl (hlogbook h).symm
    · rfl
  have hread : (config.readBack w c).lotw = config.lotw.written := by
    show (if config.lotw.isEmpty then {} else config.lotw.written) = config.lotw.written
    split_ifs with h
    · exact (hlotw h).symm
    · rfl
  have hsame : (config.readBack w c).sync = config.sync := by
    show (if config.sync.isEmpty then {} else config.sync) = _
    rw [hsync, if_neg Bool.false_ne_true]
  cases key with
  | storageBackend =>
      rw [toRuntimeValues_storageBackend, toRuntimeValues_storageBackend,
        runtimeStorageBackend_readBack]
  | sqlitePath =>
      show (if (config.readBack w c).runtimeStorageBackend = .sqlite then
        (config.readBack w c).logFilePath else none) = _
      rw [runtimeStorageBackend_readBack, logFilePath_readBack]
      rfl
  | qrzLogbookBaseUrl => exact hbase
  | lotwUsername =>
      show (config.readBack w c).lotw.username = config.lotw.written.username
      rw [hread]
  | lotwTqslPath =>
      show (config.readBack w c).lotw.tqslPath = config.lotw.written.tqslPath
      rw [hread]
  | lotwStationLocation =>
      show (config.readBack w c).lotw.stationLocation = config.lotw.written.stationLocation
      rw [hread]
  | lotwReportUrl =>
      show (config.readBack w c).lotw.reportUrl = config.lotw.written.reportUrl
      rw [hread]
  | lotwTimeoutSeconds =>
      show (config.readBack w c).lotw.timeoutSeconds.map toString
        = config.lotw.written.timeoutSeconds.map toString
      rw [hread]
  | syncAutoEnabled => exact congrArg (fun s => some (toString s.autoSyncEnabled)) hsame
  | syncIntervalSeconds => exact congrArg (fun s => some (toString s.syncIntervalSeconds)) hsame
  | syncConflictPolicy =>
      exact congrArg (fun s : PersistedSyncConfig =>
        if s.conflictPolicy.isEmpty then none else some s.conflictPolicy) hsame
  | rigctldEnabled => exact congrArg (fun r => r.enabled.map toString) rigControl_readBack
  | rigctldHost => exact congrArg PersistedRigControlConfig.host rigControl_readBack
  | rigctldPort => exact congrArg (fun r => r.port.map toString) rigControl_readBack
  | rigctldReadTimeoutMs =>
      exact congrArg (fun r => r.readTimeoutMs.map toString) rigControl_readBack
  | rigctldStaleThresholdMs =>
      exact congrArg (fun r => r.staleThresholdMs.map toString) rigControl_readBack
  | qrzXmlPassword | qrzLogbookApiKey | lotwPassword | lotwCertificatePassword
  | wsjtxIngestEnabled | wsjtxIngestUdpEnabled | wsjtxIngestUdpBind | wsjtxIngestAdifTailEnabled
  | wsjtxIngestAdifTailPath | wsjtxIngestPollIntervalMs | wsjtxIngestSyncToQrz | cwKeyerBackend
  | cwWinkeyerPort | cwWinkeyerBaud | cwCathubEndpoint | cwCathubClientName | cwSpeedWpm
  | cwTransmitEnabled | cwMaxTxMs => cases hkey
  | qrzXmlUsername | qrzUserAgent => rfl
  | _ =>
      -- the profiles are read back as they were, and the ingest has no other key
      exact congrArg₂ Option.or rfl ((ite_self none).trans (ite_self none).symm)

/-- What is left out is empty if the saved values are read back. -/
theorem nothing_left_out
    (h : ∀ key, key.isSaved = true →
      (config.readBack w c).settle.toRuntimeValues text key = config.toRuntimeValues text key) :
    (config.qrzLogbook.isEmpty = true → config.qrzLogbook.written = {})
      ∧ (config.lotw.isEmpty = true → config.lotw.written = {})
      ∧ config.sync.isEmpty = false := by
  refine ⟨fun hempty => ?_, fun hempty => ?_, ?_⟩
  · have hbase : (if config.qrzLogbook.isEmpty then {} else config.qrzLogbook.written).baseUrl
        = config.qrzLogbook.baseUrl := h .qrzLogbookBaseUrl rfl
    rw [if_pos hempty] at hbase
    rw [PersistedQrzLogbookConfig.written, ← hbase]
  · have hread : (config.readBack w c).lotw = {} := if_pos hempty
    have husername : (config.readBack w c).lotw.username = config.lotw.username :=
      h .lotwUsername rfl
    have htqsl : (config.readBack w c).lotw.tqslPath = config.lotw.tqslPath := h .lotwTqslPath rfl
    have hstation : (config.readBack w c).lotw.stationLocation = config.lotw.stationLocation :=
      h .lotwStationLocation rfl
    have hreport : (config.readBack w c).lotw.reportUrl = config.lotw.reportUrl :=
      h .lotwReportUrl rfl
    have htimeout : (config.readBack w c).lotw.timeoutSeconds.map toString
        = config.lotw.timeoutSeconds.map toString := h .lotwTimeoutSeconds rfl
    rw [hread] at husername htqsl hstation hreport htimeout
    rw [PersistedLotwConfig.written, ← husername, ← htqsl, ← hstation, ← hreport,
      Option.map_eq_none_iff.mp htimeout.symm]
  · -- the interval that is left out is 300, and the one that is read is 0
    refine Bool.eq_false_iff.mpr fun hempty => ?_
    have hread : (config.readBack w c).sync = {} := if_pos hempty
    have hinterval : some (toString (config.readBack w c).sync.syncIntervalSeconds)
        = some (toString config.sync.syncIntervalSeconds) := h .syncIntervalSeconds rfl
    rw [hread, PersistedSyncConfig.interval_of_isEmpty hempty] at hinterval
    exact absurd hinterval (by decide)

end Values

theorem ofFields_of_sectionOf {fields other : List (String × Option Toml)}
    (h : some (sectionOf false fields) = some (sectionOf false other)) :
    Table.ofFields fields = Table.ofFields other :=
  Toml.table.inj (Option.some.inj (Option.some.inj h))

/-- Settled, the setup that is read back has nothing to add either. -/
theorem settle_readBack_of_settled {w : PersistedWsjtxIngestConfig} {c : PersistedCwKeyingConfig}
    (h : config.settle = config) : (config.readBack w c).settle = config.readBack w c := by
  rw [settle_readBack, h]
  rfl

/-- A section of the document reads as its default or from a table. -/
theorem withDefault_table {α : Type} {default value : α} {read : Table → Option α}
    (h : (doc.withDefault key default fun v => v.table?.bind read) = some value) :
    value = default ∨ ∃ t, read t = some value := by
  rw [Table.withDefault] at h
  split at h
  · exact .inl (Option.some.inj h).symm
  · obtain ⟨t, -, hread⟩ := Option.bind_eq_some_iff.mp h
    exact .inr ⟨t, hread⟩

theorem lt_of_ingestOf {w : PersistedWsjtxIngestConfig} (h : ingestOf doc = some w) :
    ∀ n ∈ w.pollIntervalMs, n < 2 ^ 63 := by
  obtain rfl | ⟨t, hread⟩ := withDefault_table h
  · exact fun n hn => nomatch hn
  · rw [PersistedWsjtxIngestConfig.ofToml] at hread
    obtain ⟨_, -, hread⟩ := Option.bind_eq_some_iff.mp hread
    obtain ⟨_, -, hread⟩ := Option.bind_eq_some_iff.mp hread
    obtain ⟨_, -, hread⟩ := Option.bind_eq_some_iff.mp hread
    obtain ⟨_, -, hread⟩ := Option.bind_eq_some_iff.mp hread
    obtain ⟨_, -, hread⟩ := Option.bind_eq_some_iff.mp hread
    obtain ⟨pollIntervalMs, hpoll, hread⟩ := Option.bind_eq_some_iff.mp hread
    obtain ⟨_, -, hread⟩ := Option.bind_eq_some_iff.mp hread
    cases hread
    exact lt_of_optional hpoll

theorem lt_of_keyingOf {c : PersistedCwKeyingConfig} (h : keyingOf doc = some c) :
    ∀ n ∈ c.numbers, n < 2 ^ 63 := by
  obtain rfl | ⟨t, hread⟩ := withDefault_table h
  · exact fun n hn => nomatch hn
  · rw [PersistedCwKeyingConfig.ofToml] at hread
    obtain ⟨_, -, hread⟩ := Option.bind_eq_some_iff.mp hread
    obtain ⟨_, -, hread⟩ := Option.bind_eq_some_iff.mp hread
    obtain ⟨winkeyerBaud, hbaud, hread⟩ := Option.bind_eq_some_iff.mp hread
    obtain ⟨_, -, hread⟩ := Option.bind_eq_some_iff.mp hread
    obtain ⟨_, -, hread⟩ := Option.bind_eq_some_iff.mp hread
    obtain ⟨speedWpm, hspeed, hread⟩ := Option.bind_eq_some_iff.mp hread
    obtain ⟨_, -, hread⟩ := Option.bind_eq_some_iff.mp hread
    obtain ⟨maxTxMs, hmax, hread⟩ := Option.bind_eq_some_iff.mp hread
    cases hread
    intro n hn
    simp only [PersistedCwKeyingConfig.numbers, List.reduceOption_mem_iff, List.mem_cons,
      List.not_mem_nil, or_false] at hn
    obtain rfl | rfl | rfl := hn
    · exact lt_of_optional hbaud n rfl
    · exact lt_of_optional hspeed n rfl
    · exact lt_of_optional hmax n rfl

/-- What was read back can be written. -/
theorem fits_readBack {w : PersistedWsjtxIngestConfig} {c : PersistedCwKeyingConfig}
    (hfits : ∀ n ∈ config.numbers, n < 2 ^ 63) (hw : ingestOf doc = some w)
    (hc : keyingOf doc = some c) (hsync : config.sync.isEmpty = false) :
    ∀ n ∈ (config.readBack w c).numbers, n < 2 ^ 63 := by
  have hsame : (config.readBack w c).sync = config.sync := if_neg (Bool.eq_false_iff.mp hsync)
  simp only [PersistedSetupConfig.numbers, List.forall_mem_append, rigControl_readBack, hsame]
    at hfits ⊢
  obtain ⟨⟨⟨⟨⟨⟨hprofile, hentries⟩, htimeout⟩, hinterval⟩, hrig⟩, -⟩, -⟩ := hfits
  have hlotw : (config.readBack w c).lotw
      = if config.lotw.isEmpty then {} else config.lotw.written := rfl
  have hnone : ∀ n ∈ ([] : List ℕ), n < 2 ^ 63 := List.forall_mem_nil _
  refine ⟨⟨⟨⟨⟨⟨hprofile, hentries⟩, ?_⟩, hinterval⟩, hrig⟩, ?_⟩, ?_⟩
  · rw [hlotw]
    by_cases hempty : config.lotw.isEmpty = true
    · rw [if_pos hempty]
      exact hnone
    · rw [if_neg hempty] at htimeout
      rw [if_neg hempty]
      split_ifs
      · exact hnone
      · exact htimeout
  · have hread : (config.readBack w c).wsjtxIngest = w := rfl
    rw [hread]
    split_ifs
    · exact hnone
    · exact fun n hn => lt_of_ingestOf hw n (Option.mem_toList.mp hn)
  · have hread : (config.readBack w c).cwKeying = c := rfl
    rw [hread]
    split_ifs
    · exact hnone
    · exact lt_of_keyingOf hc

/-- A section that is written again as it was is kept. -/
theorem kept_of_ownedSections {loaded : PersistedSetupConfig}
    (hqrzLogbook : loaded.qrzLogbook
      = if config.qrzLogbook.isEmpty then {} else config.qrzLogbook.written)
    (hlotw : loaded.lotw = if config.lotw.isEmpty then {} else config.lotw.written)
    (hnoLogbook : config.qrzLogbook.isEmpty = true → config.qrzLogbook.written = {})
    (hnoLotw : config.lotw.isEmpty = true → config.lotw.written = {})
    (h : loaded.ownedSections = config.ownedSections) :
    config.qrzLogbook.Kept ∧ config.lotw.Kept := by
  have hfieldsLogbook : config.qrzLogbook.written.fields = config.qrzLogbook.fields := rfl
  have hfieldsLotw : config.lotw.written.fields = config.lotw.fields := rfl
  have hsectionLogbook : sectionOf loaded.qrzLogbook.isEmpty loaded.qrzLogbook.fields
      = sectionOf config.qrzLogbook.isEmpty config.qrzLogbook.fields :=
    Option.some.inj (congrArg (List.lookup "qrz_logbook") h)
  have hsectionLotw : sectionOf loaded.lotw.isEmpty loaded.lotw.fields
      = sectionOf config.lotw.isEmpty config.lotw.fields :=
    Option.some.inj (congrArg (List.lookup "lotw") h)
  rw [hqrzLogbook] at hsectionLogbook
  rw [hlotw] at hsectionLotw
  exact ⟨(sectionOf_kept _ _ rfl hfieldsLogbook hnoLogbook).mp hsectionLogbook,
    (sectionOf_kept _ _ rfl hfieldsLotw hnoLotw).mp hsectionLotw⟩

/-- What was read back is written as it was. -/
theorem ownedSections_readBack {w : PersistedWsjtxIngestConfig} {c : PersistedCwKeyingConfig}
    (hqrzLogbook : config.qrzLogbook.Kept) (hlotw : config.lotw.Kept)
    (hsync : config.sync.isEmpty = false) :
    (config.readBack w c).ownedSections = config.ownedSections := by
  have hsame : (config.readBack w c).sync = config.sync :=
    if_neg (Bool.eq_false_iff.mp hsync)
  have hlogbook : sectionOf (config.readBack w c).logbook.isEmpty
        (config.readBack w c).logbook.fields
      = sectionOf config.logbook.isEmpty config.logbook.fields := sectionOf_ite _ _ rfl
  have hstorage : sectionOf (config.readBack w c).storage.isEmpty
        (config.readBack w c).storage.fields
      = sectionOf config.storage.isEmpty config.storage.fields := sectionOf_ite _ _ rfl
  have hqrz : sectionOf (config.readBack w c).qrzLogbook.isEmpty
        (config.readBack w c).qrzLogbook.fields
      = sectionOf config.qrzLogbook.isEmpty config.qrzLogbook.fields :=
    sectionOf_of_kept hqrzLogbook rfl rfl
  have hlotwSection : sectionOf (config.readBack w c).lotw.isEmpty
        (config.readBack w c).lotw.fields
      = sectionOf config.lotw.isEmpty config.lotw.fields := sectionOf_of_kept hlotw rfl rfl
  rw [PersistedSetupConfig.ownedSections, PersistedSetupConfig.ownedSections,
    PersistedSetupConfig.sections, PersistedSetupConfig.sections, rigControl_readBack, hsame,
    hlogbook, hstorage, hqrz, hlotwSection]
  rfl

/-! ### When saving loses nothing -/

/-- Saving loses nothing exactly if the setup survives it. -/
theorem savesAll_iff {text : FloatText} : SavesAll text doc config ↔ Saveable doc config := by
  constructor
  · rintro ⟨saved, loaded, hwrite, hload, hvalues, -, -, hagain⟩
    rw [writePersistedConfig_none] at hwrite
    obtain ⟨hfits, hsaved⟩ := Option.ite_none_right_eq_some.mp hwrite
    obtain rfl : savedDocument doc config = saved := Option.some.inj hsaved
    obtain ⟨hrange, ⟨w, hw, c, hc, rfl⟩, -⟩ := (loadPersistedConfig_saved hfits).mp hload
    obtain ⟨hlogbook, hlotw, hsync⟩ := nothing_left_out hvalues
    rw [writePersistedConfig_none] at hagain
    obtain ⟨-, hagain⟩ := Option.ite_none_right_eq_some.mp hagain
    have hsections := savedDocument_eq_iff.mp (Option.some.inj hagain)
    have hlookup := fun key => congrArg (List.lookup key) hsections
    have hprofile := ofFields_of_sectionOf (hlookup "station_profile")
    have hcatalog := ofFields_of_sectionOf (hlookup "station_profiles")
    obtain ⟨hprofileRange, hcatalogRange⟩ := settle_inRange hrange
    obtain ⟨hkeptLogbook, hkeptLotw⟩ := kept_of_ownedSections rfl rfl hlogbook hlotw hsections
    refine ⟨hfits, hrange, Option.isSome_iff_exists.mpr ⟨w, hw⟩,
      Option.isSome_iff_exists.mpr ⟨c, hc⟩, settle_eq_self_iff.mpr ⟨?_, ?_⟩, hkeptLogbook,
      hkeptLotw, hsync⟩
    · exact PersistedStationProfile.fields_injective hprofileRange hrange.stationProfile hprofile
    · exact PersistedStationProfileCatalog.fields_injective hcatalogRange hrange.stationProfiles
        hcatalog
  · rintro ⟨hfits, hrange, hingest, hkeying, hsettled, hlogbook, hlotw, hsync⟩
    obtain ⟨w, hw⟩ := Option.isSome_iff_exists.mp hingest
    obtain ⟨c, hc⟩ := Option.isSome_iff_exists.mp hkeying
    refine ⟨savedDocument doc config, config.readBack w c, ?_, ?_, fun key hkey => ?_,
      fun key hkey => get?_saved_other hkey, noSecrets_saved, ?_⟩
    · rw [writePersistedConfig_none, if_pos hfits]
    · exact (loadPersistedConfig_saved hfits).mpr
        ⟨hrange, ⟨w, hw, c, hc, (settle_readBack_of_settled hsettled).symm⟩, rfl⟩
    · exact toRuntimeValues_readBack (KeptAs.eq_empty hlogbook) (KeptAs.eq_empty hlotw) hsync hkey
    · rw [writePersistedConfig_none, if_pos (fits_readBack hfits hw hc hsync),
        savedDocument_eq_iff.mpr (ownedSections_readBack hlogbook hlotw hsync)]

/-- A setup with the sync settings that a request without an interval asks for. -/
def defaultSyncSetup : PersistedSetupConfig where
  logbook := { filePath := some "log.db" }
  sync := .fromProto { conflictPolicy := .lastWriteWins }

/-- The default sync settings are left out, and their interval is read as 0. -/
theorem not_savesAll_defaultSyncSetup : ¬ ∀ text doc config, SavesAll text doc config := by
  intro h
  obtain ⟨saved, loaded, hwrite, hload, hvalues, -⟩ :=
    h ⟨fun _ => none, fun _ => ""⟩ [] defaultSyncSetup
  have hread : ((writePersistedConfig [] defaultSyncSetup none).bind loadPersistedConfig).map
      (fun read => read.1.sync.syncIntervalSeconds) = some 0 := by decide +kernel
  rw [hwrite, Option.bind_some, hload, Option.map_some] at hread
  have hinterval : some (toString loaded.sync.syncIntervalSeconds) = some (toString 300) :=
    hvalues .syncIntervalSeconds rfl
  rw [Option.some.inj hread] at hinterval
  exact absurd hinterval (by decide)

end Written

end QsoRipper.Setup
