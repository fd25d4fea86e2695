/-
QsoRipper/Setup/RoundTrip.lean

What is read back from a serialised section: the section without its secrets,
provided that each of its numbers fits the type it is read as.
-/
import QsoRipper.Setup.Document

namespace QsoRipper.Setup

open Toml

/-! ### Sections of texts -/

theorem PersistedLogbookConfig.ofToml_fields (config : PersistedLogbookConfig) :
    ofToml (Table.ofFields config.fields) = some config := by
  have hnodup : (config.fields.map Prod.fst).Nodup := by simp [fields]
  rw [ofToml, optional_string hnodup config.filePath (by simp [fields])]
  rfl

theorem PersistedStorageConfig.ofToml_fields (config : PersistedStorageConfig) :
    ofToml (Table.ofFields config.fields) = some config := by
  have hnodup : (config.fields.map Prod.fst).Nodup := by simp [fields]
  rw [ofToml, optional_string hnodup config.backend (by simp [fields]),
    optional_string hnodup config.sqlitePath (by simp [fields, List.lookup])]
  rfl

/-- Without the password. -/
def PersistedQrzXmlConfig.written (config : PersistedQrzXmlConfig) : PersistedQrzXmlConfig :=
  { config with password := none }

theorem PersistedQrzXmlConfig.ofToml_fields (config : PersistedQrzXmlConfig) :
    ofToml (Table.ofFields config.fields) = some config.written := by
  have hnodup : (config.fields.map Prod.fst).Nodup := by simp [fields]
  have hpassword : (Table.ofFields config.fields).optional "password" string? = some none := by
    rw [Table.optional, Table.get?_ofFields hnodup]
    simp [fields, List.lookup]
  rw [ofToml, optional_string hnodup config.username (by simp [fields]), hpassword,
    optional_string hnodup config.userAgent (by simp [fields, List.lookup])]
  rfl

/-- Without the API key. -/
def PersistedQrzLogbookConfig.written (config : PersistedQrzLogbookConfig) :
    PersistedQrzLogbookConfig :=
  { config with apiKey := none }

theorem PersistedQrzLogbookConfig.ofToml_fields (config : PersistedQrzLogbookConfig) :
    ofToml (Table.ofFields config.fields) = some config.written := by
  have hnodup : (config.fields.map Prod.fst).Nodup := by simp [fields]
  have hkey : (Table.ofFields config.fields).optional "api_key" string? = some none := by
    rw [Table.optional, Table.get?_ofFields hnodup]
    simp [fields, List.lookup]
  rw [ofToml, hkey, optional_string hnodup config.baseUrl (by simp [fields])]
  rfl

/-! ### Sections with numbers -/

/-- A limit that no `i64` reaches is none. -/
theorem optional_unsigned_of_le {fields : List (String × Option Toml)} {key : String}
    {bound : ℕ} (hbound : 2 ^ 63 ≤ bound) (hnodup : (fields.map Prod.fst).Nodup)
    (value : Option ℕ) (hlookup : fields.lookup key = some (value.map unsigned))
    (hfits : ∀ n ∈ value, n < 2 ^ 63) :
    (Table.ofFields fields).optional key (unsigned? bound) = some value := by
  rw [optional_unsigned hnodup value hlookup hfits, if_pos]
  exact fun n hn => (hfits n hn).trans_le hbound

/-- Without the two passwords. -/
def PersistedLotwConfig.written (config : PersistedLotwConfig) : PersistedLotwConfig :=
  { config with password := none, certificatePassword := none }

theorem PersistedLotwConfig.ofToml_fields (config : PersistedLotwConfig)
    (hfits : ∀ n ∈ config.timeoutSeconds, n < 2 ^ 63) :
    ofToml (Table.ofFields config.fields) = some config.written := by
  have hnodup : (config.fields.map Prod.fst).Nodup := by simp [fields]
  have hpassword : (Table.ofFields config.fields).optional "password" string? = some none := by
    rw [Table.optional, Table.get?_ofFields hnodup]
    simp [fields, List.lookup]
  have hcertificate : (Table.ofFields config.fields).optional "certificate_password" string?
      = some none := by
    rw [Table.optional, Table.get?_ofFields hnodup]
    simp [fields, List.lookup]
  rw [ofToml, optional_string hnodup config.username (by simp [fields]), hpassword,
    optional_string hnodup config.tqslPath (by simp [fields, List.lookup]),
    optional_string hnodup config.stationLocation (by simp [fields, List.lookup]), hcertificate,
    optional_string hnodup config.reportUrl (by simp [fields, List.lookup]),
    optional_unsigned_of_le (by decide) hnodup config.timeoutSeconds
      (by simp [fields, List.lookup]) hfits]
  rfl

theorem PersistedSyncConfig.ofToml_fields (config : PersistedSyncConfig)
    (hfits : config.syncIntervalSeconds < 2 ^ 63) :
    ofToml (Table.ofFields config.fields)
      = if config.syncIntervalSeconds < 2 ^ 32 then some config else none := by
  have hnodup : (config.fields.map Prod.fst).Nodup := by simp [fields]
  have hget : ∀ {key value}, config.fields.lookup key = some (some value) →
      (Table.ofFields config.fields).get? key = some value := by
    intro key value hlookup
    rw [Table.get?_ofFields hnodup, hlookup]
    rfl
  rw [ofToml, Table.withDefault, hget (by simp [fields]; rfl), Table.withDefault,
    hget (by simp [fields, List.lookup]; rfl), Table.withDefault,
    hget (by simp [fields, List.lookup]; rfl)]
  dsimp only
  rw [unsigned?_unsigned hfits]
  split_ifs <;> rfl

theorem PersistedRigControlConfig.ofToml_fields (config : PersistedRigControlConfig)
    (hfits : ∀ n ∈ config.numbers, n < 2 ^ 63) :
    ofToml (Table.ofFields config.fields)
      = if ∀ n ∈ config.port, n < 2 ^ 16 then some config else none := by
  have hnodup : (config.fields.map Prod.fst).Nodup := by simp [fields]
  simp only [numbers, List.reduceOption_mem_iff, List.mem_cons, List.not_mem_nil, or_false] at hfits
  rw [ofToml, optional_boolean hnodup config.enabled (by simp [fields]),
    optional_string hnodup config.host (by simp [fields, List.lookup]),
    optional_unsigned hnodup config.port (by simp [fields, List.lookup])
      (fun n hn => hfits n (.inl hn.symm)),
    optional_unsigned_of_le (by decide) hnodup config.readTimeoutMs (by simp [fields, List.lookup])
      (fun n hn => hfits n (.inr (.inl hn.symm))),
    optional_unsigned_of_le (by decide) hnodup config.staleThresholdMs
      (by simp [fields, List.lookup]) (fun n hn => hfits n (.inr (.inr hn.symm)))]
  split_ifs <;> rfl

/-! ### Station profiles -/

/-- Each number of the profile fits a `u32`. -/
def PersistedStationProfile.InRange (profile : PersistedStationProfile) : Prop :=
  ∀ n ∈ profile.numbers, n < 2 ^ 32

instance (profile : PersistedStationProfile) : Decidable profile.InRange :=
  inferInstanceAs (Decidable (∀ n ∈ profile.numbers, n < 2 ^ 32))

theorem PersistedStationProfile.ofToml_fields (profile : PersistedStationProfile)
    (hfits : ∀ n ∈ profile.numbers, n < 2 ^ 63) :
    ofToml (Table.ofFields profile.fields) = if profile.InRange then some profile else none := by
  have hnodup : (profile.fields.map Prod.fst).Nodup := by simp [fields]
  have hrange : profile.InRange ↔ (∀ n ∈ profile.dxcc, n < 2 ^ 32)
      ∧ (∀ n ∈ profile.cqZone, n < 2 ^ 32) ∧ ∀ n ∈ profile.ituZone, n < 2 ^ 32 := by
    simp [InRange, numbers, List.reduceOption_mem_iff, or_imp, forall_and, eq_comm]
  simp only [numbers, List.reduceOption_mem_iff, List.mem_cons, List.not_mem_nil, or_false] at hfits
  rw [ofToml, optional_string hnodup profile.profileName (by simp [fields]),
    optional_string hnodup profile.stationCallsign (by simp [fields, List.lookup]),
    optional_string hnodup profile.operatorCallsign (by simp [fields, List.lookup]),
    optional_string hnodup profile.operatorName (by simp [fields, List.lookup]),
    optional_string hnodup profile.grid (by simp [fields, List.lookup]),
    optional_string hnodup profile.county (by simp [fields, List.lookup]),
    optional_string hnodup profile.state (by simp [fields, List.lookup]),
    optional_string hnodup profile.country (by simp [fields, List.lookup]),
    optional_string hnodup profile.arrlSection (by simp [fields, List.lookup]),
    optional_unsigned hnodup profile.dxcc (by simp [fields, List.lookup])
      (fun n hn => hfits n (.inl hn.symm)),
    optional_unsigned hnodup profile.cqZone (by simp [fields, List.lookup])
      (fun n hn => hfits n (.inr (.inl hn.symm))),
    optional_unsigned hnodup profile.ituZone (by simp [fields, List.lookup])
      (fun n hn => hfits n (.inr (.inr hn.symm))),
    optional_float hnodup profile.latitude (by simp [fields, List.lookup]),
    optional_float hnodup profile.longitude (by simp [fields, List.lookup])]
  by_cases hdxcc : ∀ n ∈ profile.dxcc, n < 2 ^ 32
  · by_cases hcq : ∀ n ∈ profile.cqZone, n < 2 ^ 32
    · by_cases hitu : ∀ n ∈ profile.ituZone, n < 2 ^ 32
      · rw [if_pos hdxcc, if_pos hcq, if_pos hitu, if_pos (hrange.mpr ⟨hdxcc, hcq, hitu⟩)]
        rfl
      · rw [if_pos hdxcc, if_pos hcq, if_neg hitu, if_neg fun h => hitu (hrange.mp h).2.2]
        rfl
    · rw [if_pos hdxcc, if_neg hcq, if_neg fun h => hcq (hrange.mp h).2.1]
      rfl
  · rw [if_neg hdxcc, if_neg fun h => hdxcc (hrange.mp h).1]
    rfl

/-- The id of an entry is none of the fields of its profile. -/
theorem PersistedStationProfile.ofToml_congr {t u : Table}
    (h : ∀ key, key ≠ "profile_id" → t.get? key = u.get? key) : ofToml t = ofToml u := by
  have hoptional : ∀ {α : Type} {key : String} {read : Toml → Option α}, key ≠ "profile_id" →
      t.optional key read = u.optional key read := by
    intro α key read hkey
    rw [Table.optional, Table.optional, h key hkey]
  simp (disch := decide) only [ofToml, hoptional]

theorem PersistedStationProfileEntry.ofToml_fields (entry : PersistedStationProfileEntry)
    (hfits : ∀ n ∈ entry.profile.numbers, n < 2 ^ 63) :
    ofToml (Table.ofFields entry.fields)
      = if entry.profile.InRange then some entry else none := by
  have hcons : Table.ofFields entry.fields
      = ("profile_id", .string entry.profileId) :: Table.ofFields entry.profile.fields := rfl
  have hprofile : PersistedStationProfile.ofToml (Table.ofFields entry.fields)
      = PersistedStationProfile.ofToml (Table.ofFields entry.profile.fields) := by
    refine PersistedStationProfile.ofToml_congr fun key hkey => ?_
    rw [hcons, Table.get?_cons, if_neg hkey]
  rw [ofToml, hprofile, PersistedStationProfile.ofToml_fields _ hfits, hcons, Table.get?_cons,
    if_pos rfl]
  split_ifs <;> rfl

/-- Each number of the catalog fits a `u32`. -/
def PersistedStationProfileCatalog.InRange (catalog : PersistedStationProfileCatalog) : Prop :=
  ∀ entry ∈ catalog.entries, entry.profile.InRange

instance (catalog : PersistedStationProfileCatalog) : Decidable catalog.InRange :=
  inferInstanceAs (Decidable (∀ entry ∈ catalog.entries, entry.profile.InRange))

theorem mapM_entries (entries : List PersistedStationProfileEntry)
    (hfits : ∀ entry ∈ entries, ∀ n ∈ entry.profile.numbers, n < 2 ^ 63) :
    (entries.map fun entry => Table.ofFields entry.fields).mapM PersistedStationProfileEntry.ofToml
      = if ∀ entry ∈ entries, entry.profile.InRange then some entries else none := by
  induction entries with
  | nil => rfl
  | cons entry entries ih =>
      obtain ⟨hentry, hrest⟩ := List.forall_mem_cons.mp hfits
      rw [List.map_cons, List.mapM_cons, entry.ofToml_fields hentry, ih hrest]
      simp only [List.forall_mem_cons]
      by_cases hhead : entry.profile.InRange
      · by_cases htail : ∀ entry ∈ entries, entry.profile.InRange
        · rw [if_pos hhead, if_pos htail, if_pos ⟨hhead, htail⟩]
          rfl
        · rw [if_pos hhead, if_neg htail, if_neg fun h => htail h.2]
          rfl
      · rw [if_neg hhead, if_neg (show ¬ (_ ∧ _) from fun h => hhead h.1)]
        rfl

theorem PersistedStationProfileCatalog.ofToml_fields (catalog : PersistedStationProfileCatalog)
    (hfits : ∀ entry ∈ catalog.entries, ∀ n ∈ entry.profile.numbers, n < 2 ^ 63) :
    ofToml (Table.ofFields catalog.fields) = if catalog.InRange then some catalog else none := by
  have hnodup : (catalog.fields.map Prod.fst).Nodup := by simp [fields]
  have hentries : (Table.ofFields catalog.fields).get? "entries"
      = some (.array
        ((catalog.entries.map fun entry => Table.ofFields entry.fields).map .table)) := by
    rw [Table.get?_ofFields hnodup, List.map_map]
    simp [fields, List.lookup]
  rw [ofToml, optional_string hnodup catalog.activeProfileId (by simp [fields]), Table.withDefault,
    hentries]
  dsimp only
  rw [tables?_map, Option.bind_some, mapM_entries _ hfits]
  have hrange : catalog.InRange ↔ ∀ entry ∈ catalog.entries, entry.profile.InRange := Iff.rfl
  by_cases h : ∀ entry ∈ catalog.entries, entry.profile.InRange
  · rw [if_pos h, if_pos (hrange.mpr h)]
    rfl
  · rw [if_neg h, if_neg (hrange.not.mpr h)]
    rfl

end QsoRipper.Setup
