/-
QsoRipper/Setup/Migration.lean

Loading a setup whose file holds QRZ secrets in plain text.  The file is rewritten without
them before the secret store is asked to keep them, and what the store answers is ignored.
-/
import QsoRipper.Setup.Saving

namespace QsoRipper.Setup

open Toml

/-! ### The secret store -/

/-- `QrzSecret`. -/
inductive QrzSecret where
  | xmlPassword
  | logbookApiKey
  deriving DecidableEq

/-- What the secret store holds. -/
abbrev Secrets := QrzSecret → Option String

/-- What comes of a `set`; on some platforms it fails after the value is stored. -/
inductive SetOutcome where
  | done
  | failedAfter
  | refused
  deriving DecidableEq

/-- What one load meets: a file that can be written or not, and a secret store whose answers may
fail. -/
structure Access where
  writable : Bool
  set : QrzSecret → SetOutcome
  get : QrzSecret → Bool

/-- `QrzSecretStore::set`. -/
def QrzSecret.setIn (access : Access) (secrets : Secrets) (secret : QrzSecret) (value : String) :
    Secrets :=
  if access.set secret = .refused then secrets else Function.update secrets secret (some value)

/-- `hydrate_secret`. -/
def hydrateSecret (access : Access) (secrets : Secrets) (secret : QrzSecret)
    (value : Option String) : Option String :=
  match value with
  | some value => some value
  | none => if access.get secret then secrets secret else none

/-- `migrate_or_hydrate_secret`. -/
def migrateOrHydrateSecret (access : Access) (secrets : Secrets) (secret : QrzSecret)
    (value : Option String) : Option String × Secrets :=
  match value with
  | some legacyValue => (some legacyValue, secret.setIn access secrets legacyValue)
  | none => (hydrateSecret access secrets secret none, secrets)

/-! ### Loading -/

/-- What stands at the path of the setup. -/
inductive ConfigFile where
  | missing
  | unreadable
  | document (doc : Table)

/-- `load_persisted_config`, with the file it leaves; nothing where it fails. -/
def loadConfigFile (access : Access) :
    ConfigFile → Option (Option PersistedSetupConfig × ConfigFile)
  | .missing => some (none, .missing)
  | .unreadable => none
  | .document doc => do
      let read ← PersistedSetupConfig.ofToml doc
      let config := read.settle
      if read.hadPlaintextSecrets then
        if access.writable then
          let saved ← writePersistedConfig doc config none
          return (some config, .document saved)
        else none
      else return (some config, .document doc)

/-- The file and the secret store. -/
structure Kept where
  file : ConfigFile
  secrets : Secrets

/-- `load_with_secret_store`: what it makes of the setup, unless it fails, and what it leaves. -/
def loadWithSecretStore (access : Access) (kept : Kept) :
    Option (Option PersistedSetupConfig) × Kept :=
  match loadConfigFile access kept.file with
  | none => (none, kept)
  | some (none, file) => (some none, { kept with file })
  | some (some config, file) =>
      let (password, secrets) :=
        migrateOrHydrateSecret access kept.secrets .xmlPassword config.qrzXml.password
      let (apiKey, secrets) :=
        migrateOrHydrateSecret access secrets .logbookApiKey config.qrzLogbook.apiKey
      (some (some { config with
        qrzXml := { config.qrzXml with password }
        qrzLogbook := { config.qrzLogbook with apiKey } }), ⟨file, secrets⟩)

/-- Several loads, one after another. -/
def loads (kept : Kept) (accesses : List Access) : Kept :=
  accesses.foldl (fun kept access => (loadWithSecretStore access kept).2) kept

/-! ### Where a secret stands -/

namespace QrzSecret

/-- The section and the field of the file. -/
def place : QrzSecret → String × String
  | xmlPassword => ("qrz_xml", "password")
  | logbookApiKey => ("qrz_logbook", "api_key")

/-- The value in a setup. -/
def inConfig : QrzSecret → PersistedSetupConfig → Option String
  | xmlPassword, config => config.qrzXml.password
  | logbookApiKey, config => config.qrzLogbook.apiKey

/-- The value in the file. -/
def inFile (secret : QrzSecret) : ConfigFile → Option String
  | .document doc => do
      let table ← (← doc.get? secret.place.1).table?
      (← table.get? secret.place.2).string?
  | _ => none

end QrzSecret

variable {access : Access} {kept : Kept} {doc : Table} {secret : QrzSecret} {value : String}
  {config read : PersistedSetupConfig}

/-- The two sections, where the setup can be read. -/
theorem sections_of_ofToml (h : PersistedSetupConfig.ofToml doc = some read) :
    (doc.withDefault "qrz_xml" {} fun v => v.table?.bind PersistedQrzXmlConfig.ofToml)
        = some read.qrzXml
      ∧ (doc.withDefault "qrz_logbook" {} fun v => v.table?.bind PersistedQrzLogbookConfig.ofToml)
        = some read.qrzLogbook := by
  unfold PersistedSetupConfig.ofToml at h
  obtain ⟨logbook, -, h⟩ := Option.bind_eq_some_iff.mp h
  obtain ⟨storage, -, h⟩ := Option.bind_eq_some_iff.mp h
  obtain ⟨stationProfile, -, h⟩ := Option.bind_eq_some_iff.mp h
  obtain ⟨stationProfiles, -, h⟩ := Option.bind_eq_some_iff.mp h
  obtain ⟨qrzXml, hxml, h⟩ := Option.bind_eq_some_iff.mp h
  obtain ⟨qrzLogbook, hlogbook, h⟩ := Option.bind_eq_some_iff.mp h
  obtain ⟨lotw, -, h⟩ := Option.bind_eq_some_iff.mp h
  obtain ⟨sync, -, h⟩ := Option.bind_eq_some_iff.mp h
  obtain ⟨rigControl, -, h⟩ := Option.bind_eq_some_iff.mp h
  obtain ⟨wsjtxIngest, -, h⟩ := Option.bind_eq_some_iff.mp h
  obtain ⟨cwKeying, -, h⟩ := Option.bind_eq_some_iff.mp h
  cases h
  exact ⟨hxml, hlogbook⟩

/-- A field that is read as a text. -/
theorem optional_string_eq {table : Table} {key : String} {value : Option String}
    (h : table.optional key string? = some value) : value = (table.get? key).bind string? := by
  unfold Table.optional at h
  cases hget : table.get? key with
  | none =>
      rw [hget] at h
      cases h
      rfl
  | some item =>
      rw [hget] at h
      obtain ⟨text, htext, rfl⟩ := Option.map_eq_some_iff.mp h
      exact htext.symm

/-- The secrets that are read are those of the file. -/
theorem inConfig_of_ofToml (h : PersistedSetupConfig.ofToml doc = some read) :
    secret.inConfig read = secret.inFile (.document doc) := by
  obtain ⟨hxml, hlogbook⟩ := sections_of_ofToml h
  unfold Table.withDefault at hxml hlogbook
  cases secret with
  | xmlPassword =>
      show read.qrzXml.password
        = (doc.get? "qrz_xml").bind fun v => v.table?.bind fun t => (t.get? "password").bind string?
      cases hget : doc.get? "qrz_xml" with
      | none =>
          rw [hget] at hxml
          rw [← Option.some.inj hxml]
          rfl
      | some item =>
          rw [hget] at hxml
          obtain ⟨table, htable, hread⟩ := Option.bind_eq_some_iff.mp hxml
          unfold PersistedQrzXmlConfig.ofToml at hread
          obtain ⟨username, -, hread⟩ := Option.bind_eq_some_iff.mp hread
          obtain ⟨password, hpassword, hread⟩ := Option.bind_eq_some_iff.mp hread
          obtain ⟨userAgent, -, hread⟩ := Option.bind_eq_some_iff.mp hread
          rw [← Option.some.inj hread, Option.bind_some, htable, Option.bind_some]
          exact optional_string_eq hpassword
  | logbookApiKey =>
      show read.qrzLogbook.apiKey = (doc.get? "qrz_logbook").bind fun v =>
        v.table?.bind fun t => (t.get? "api_key").bind string?
      cases hget : doc.get? "qrz_logbook" with
      | none =>
          rw [hget] at hlogbook
          rw [← Option.some.inj hlogbook]
          rfl
      | some item =>
          rw [hget] at hlogbook
          obtain ⟨table, htable, hread⟩ := Option.bind_eq_some_iff.mp hlogbook
          unfold PersistedQrzLogbookConfig.ofToml at hread
          obtain ⟨apiKey, hkey, hread⟩ := Option.bind_eq_some_iff.mp hread
          obtain ⟨baseUrl, -, hread⟩ := Option.bind_eq_some_iff.mp hread
          rw [← Option.some.inj hread, Option.bind_some, htable, Option.bind_some]
          exact optional_string_eq hkey

theorem inConfig_settle : secret.inConfig config.settle = secret.inConfig config := by
  cases secret <;> rfl

/-- Nothing of them is in the file that is written. -/
theorem inFile_saved : secret.inFile (.document (savedDocument doc config)) = none := by
  have hnone : ∀ place ∈ secretFields, ∀ t : Table,
      (savedDocument doc config).get? place.1 = some (.table t) → t.get? place.2 = none :=
    noSecrets_saved
  have hplace : secret.place ∈ secretFields := by
    cases secret <;> simp [QrzSecret.place, secretFields]
  show (((savedDocument doc config).get? secret.place.1).bind fun v =>
    v.table?.bind fun t => (t.get? secret.place.2).bind string?) = none
  cases hget : (savedDocument doc config).get? secret.place.1 with
  | none => rfl
  | some item =>
      rw [Option.bind_some]
      cases item with
      | table entries =>
          rw [table?_table, Option.bind_some, hnone _ hplace entries hget]
          rfl
      | _ => rfl

/-! ### One load -/

/-- What a load comes to: it fails and leaves everything, or it finds nothing to load, or it reads
a setup with the secrets of the file; a secret of a file that is read leaves it. -/
theorem loadConfigFile_cases (access : Access) (file : ConfigFile) :
    loadConfigFile access file = none
      ∨ loadConfigFile access file = some (none, file) ∧ (∀ secret, QrzSecret.inFile secret file = none)
      ∨ ∃ config left, loadConfigFile access file = some (some config, left)
        ∧ (∀ secret, QrzSecret.inConfig secret config = QrzSecret.inFile secret file)
        ∧ ∀ secret, QrzSecret.inFile secret left = none := by
  cases file with
  | missing => exact .inr (.inl ⟨rfl, fun _ => rfl⟩)
  | unreadable => exact .inl rfl
  | document doc =>
      unfold loadConfigFile
      dsimp only
      cases hread : PersistedSetupConfig.ofToml doc with
      | none => exact .inl rfl
      | some read =>
          rw [Option.bind_eq_bind, Option.bind_some]
          have hconfig : ∀ secret, QrzSecret.inConfig secret read.settle
              = QrzSecret.inFile secret (.document doc) := fun secret =>
            inConfig_settle.trans (inConfig_of_ofToml hread)
          by_cases hplain : read.hadPlaintextSecrets = true
          · rw [if_pos hplain]
            by_cases hwritable : access.writable = true
            · rw [if_pos hwritable, writePersistedConfig_none]
              split_ifs
              · exact .inr (.inr ⟨_, _, rfl, hconfig, fun _ => inFile_saved⟩)
              · exact .inl rfl
            · rw [if_neg hwritable]
              exact .inl rfl
          · rw [if_neg hplain]
            refine .inr (.inr ⟨_, _, rfl, hconfig, fun secret => ?_⟩)
            -- a file without plain secrets is left as it is
            rw [← inConfig_of_ofToml hread]
            simp only [PersistedSetupConfig.hadPlaintextSecrets, Bool.or_eq_true, not_or,
              Option.isSome_iff_ne_none, ne_eq, not_not] at hplain
            cases secret
            · exact hplain.1.1.1
            · exact hplain.1.1.2

/-- What the store holds of a secret afterwards: the value of the file, where there is one and it
is taken. -/
def QrzSecret.heldAfter (secret : QrzSecret) (access : Access) (kept : Kept) : Option String :=
  match secret.inFile kept.file with
  | some value => if access.set secret = .refused then kept.secrets secret else some value
  | none => kept.secrets secret

/-- What the setup that is loaded has of a secret. -/
def QrzSecret.loaded (secret : QrzSecret) (access : Access) (kept : Kept) : Option String :=
  match secret.inFile kept.file with
  | some value => some value
  | none => if access.get secret then kept.secrets secret else none

theorem setIn_other (secrets : Secrets) {other : QrzSecret} (h : other ≠ secret) (value : String) :
    secret.setIn access secrets value other = secrets other := by
  unfold QrzSecret.setIn
  split_ifs
  · rfl
  · exact Function.update_of_ne h _ _

theorem setIn_self (secrets : Secrets) (value : String) : secret.setIn access secrets value secret
    = if access.set secret = .refused then secrets secret else some value := by
  unfold QrzSecret.setIn
  split_ifs
  · rfl
  · exact Function.update_self _ _ _

/-- **One load**: it fails and leaves everything, or there is nothing to load, or the setup has
each secret of the file, which the store was asked to keep. -/
theorem loadWithSecretStore_cases (access : Access) (kept : Kept) :
    loadWithSecretStore access kept = (none, kept)
      ∨ loadWithSecretStore access kept = (some none, kept)
        ∧ (∀ secret, QrzSecret.inFile secret kept.file = none)
      ∨ ∃ config after, loadWithSecretStore access kept = (some (some config), after)
        ∧ ∀ secret : QrzSecret, secret.inFile after.file = none
          ∧ after.secrets secret = secret.heldAfter access kept
          ∧ secret.inConfig config = secret.loaded access kept := by
  unfold loadWithSecretStore
  rcases loadConfigFile_cases access kept.file with
    h | ⟨h, hnone⟩ | ⟨config, left, h, hconfig, hleft⟩
  · rw [h]
    exact .inl rfl
  · rw [h]
    exact .inr (.inl ⟨rfl, hnone⟩)
  · rw [h]
    refine .inr (.inr ⟨_, _, rfl, fun secret => ⟨hleft secret, ?_⟩⟩)
    have hpassword := hconfig .xmlPassword
    have hkey := hconfig .logbookApiKey
    simp only [QrzSecret.inConfig] at hpassword hkey
    have hne : QrzSecret.xmlPassword ≠ .logbookApiKey := by decide
    cases secret with
    | xmlPassword =>
        rw [QrzSecret.heldAfter, QrzSecret.loaded, ← hpassword]
        dsimp only [QrzSecret.inConfig]
        -- the second secret does not touch the first
        cases config.qrzXml.password <;> cases config.qrzLogbook.apiKey
        all_goals simp only [hydrateSecret, setIn_other _ hne, setIn_self,
          and_self]
    | logbookApiKey =>
        rw [QrzSecret.heldAfter, QrzSecret.loaded, ← hkey]
        dsimp only [QrzSecret.inConfig]
        cases config.qrzXml.password <;> cases config.qrzLogbook.apiKey
        all_goals simp only [hydrateSecret, setIn_other _ hne.symm,
          setIn_self, and_self]

/-! ### What migration keeps -/

/-- A load does not lose a secret, unless the store refuses it: then the process alone has it.  The
store is changed to what the file asks for only. -/
structure Migrates (access : Access) (kept : Kept) : Prop where
  survives : ∀ (secret : QrzSecret) value, secret.inFile kept.file = some value →
    secret.inFile (loadWithSecretStore access kept).2.file = some value
      ∨ (loadWithSecretStore access kept).2.secrets secret = some value
      ∨ access.set secret = .refused ∧ ∃ config,
        (loadWithSecretStore access kept).1 = some (some config)
          ∧ secret.inConfig config = some value
  asked : ∀ secret : QrzSecret,
    (loadWithSecretStore access kept).2.secrets secret = kept.secrets secret
      ∨ ∃ value, secret.inFile kept.file = some value
        ∧ (loadWithSecretStore access kept).2.secrets secret = some value

/-- The secret is where a load finds it: in the file, or in the store with nothing of it in the
file. -/
def QrzSecret.Findable (secret : QrzSecret) (value : String) (kept : Kept) : Prop :=
  secret.inFile kept.file = some value
    ∨ secret.inFile kept.file = none ∧ kept.secrets secret = some value

theorem migrates (access : Access) (kept : Kept) : Migrates access kept := by
  rcases loadWithSecretStore_cases access kept with
    h | ⟨h, hnone⟩ | ⟨config, after, h, hafter⟩
  · refine ⟨fun secret value hvalue => ?_, fun secret => ?_⟩
    · rw [h]
      exact .inl hvalue
    · rw [h]
      exact .inl rfl
  · refine ⟨fun secret value hvalue => ?_, fun secret => ?_⟩
    · rw [h]
      exact .inl hvalue
    · rw [h]
      exact .inl rfl
  · refine ⟨fun secret value hvalue => ?_, fun secret => ?_⟩
    · obtain ⟨-, hheld, hloaded⟩ := hafter secret
      rw [h]
      rw [QrzSecret.heldAfter, hvalue] at hheld
      rw [QrzSecret.loaded, hvalue] at hloaded
      dsimp only at hheld
      by_cases hrefused : access.set secret = .refused
      · exact .inr (.inr ⟨hrefused, config, rfl, hloaded⟩)
      · rw [if_neg hrefused] at hheld
        exact .inr (.inl hheld)
    · obtain ⟨-, hheld, -⟩ := hafter secret
      rw [h]
      rw [QrzSecret.heldAfter] at hheld
      dsimp only
      rw [hheld]
      cases hfile : secret.inFile kept.file with
      | none => exact .inl rfl
      | some value =>
          dsimp only
          split_ifs
          · exact .inl rfl
          · exact .inr ⟨value, rfl, rfl⟩

/-- A load that does not refuse a secret leaves it findable. -/
theorem findable_load (h : secret.Findable value kept) (haccess : access.set secret ≠ .refused) :
    secret.Findable value (loadWithSecretStore access kept).2 := by
  rcases loadWithSecretStore_cases access kept with
    hload | ⟨hload, -⟩ | ⟨config, after, hload, hafter⟩
  · rw [hload]
    exact h
  · rw [hload]
    exact h
  · obtain ⟨hnone, hheld, -⟩ := hafter secret
    rw [hload]
    refine .inr ⟨hnone, ?_⟩
    rw [hheld, QrzSecret.heldAfter]
    rcases h with hfile | ⟨hfile, hstore⟩
    · rw [hfile]
      exact if_neg haccess
    · rw [hfile]
      exact hstore

/-- So do several loads. -/
theorem findable_loads {accesses : List Access} (h : secret.Findable value kept)
    (haccesses : ∀ access ∈ accesses, access.set secret ≠ .refused) :
    secret.Findable value (loads kept accesses) := by
  induction accesses generalizing kept with
  | nil => exact h
  | cons access accesses ih =>
      obtain ⟨haccess, hrest⟩ := List.forall_mem_cons.mp haccesses
      exact ih (findable_load h haccess) hrest

/-- A setup that is loaded has a findable secret, if the store answers. -/
theorem loaded_of_findable (h : secret.Findable value kept) (hget : access.get secret = true)
    (hload : (loadWithSecretStore access kept).1 = some (some config)) :
    secret.inConfig config = some value := by
  rcases loadWithSecretStore_cases access kept with
    hcase | ⟨hcase, -⟩ | ⟨loaded, after, hcase, hafter⟩
  · rw [hcase] at hload
    cases hload
  · rw [hcase] at hload
    cases hload
  · obtain ⟨-, -, hloaded⟩ := hafter secret
    rw [hcase] at hload
    cases hload
    rw [hloaded, QrzSecret.loaded]
    rcases h with hfile | ⟨hfile, hstore⟩
    · rw [hfile]
    · rw [hfile]
      dsimp only
      rw [if_pos hget, hstore]

/-- **Migration keeps the secrets**: each load does, up to a refusal, and what was in the file is
found again after any loads in which the store does not refuse it. -/
theorem migration_keeps (kept : Kept) :
    (∀ access, Migrates access kept)
      ∧ ∀ (secret : QrzSecret) (value : String) (accesses : List Access),
        secret.inFile kept.file = some value →
        (∀ access ∈ accesses, access.set secret ≠ .refused) →
        secret.Findable value (loads kept accesses)
          ∧ ∀ (access : Access) (config : PersistedSetupConfig), access.get secret = true →
            (loadWithSecretStore access (loads kept accesses)).1 = some (some config) →
            secret.inConfig config = some value := by
  refine ⟨fun access => migrates access kept, fun secret value accesses hfile haccesses => ?_⟩
  have hfindable : secret.Findable value (loads kept accesses) :=
    findable_loads (.inl hfile) haccesses
  exact ⟨hfindable, fun access config hget hload => loaded_of_findable hfindable hget hload⟩

/-- A file with a password in plain text, and an empty store. -/
def legacySetup : Kept where
  file := .document [("qrz_xml", .table [("password", .string "secret")])]
  secrets := fun _ => none

theorem migration_keeps_legacySetup : QrzSecret.xmlPassword.Findable "secret"
    (loads legacySetup [⟨true, fun _ => .failedAfter, fun _ => false⟩]) :=
  ((migration_keeps legacySetup).2 .xmlPassword "secret" [⟨true, fun _ => .failedAfter, fun _ => false⟩]
    rfl (by simp)).1

/-- A store that refuses the password: afterwards it is in neither place. -/
theorem refused_legacySetup : QrzSecret.xmlPassword.inFile legacySetup.file = some "secret"
    ∧ QrzSecret.xmlPassword.inFile
      (loadWithSecretStore ⟨true, fun _ => .refused, fun _ => true⟩ legacySetup).2.file = none
    ∧ (loadWithSecretStore ⟨true, fun _ => .refused, fun _ => true⟩ legacySetup).2.secrets
      .xmlPassword = none := by
  refine ⟨rfl, ?_, ?_⟩
  · decide +kernel
  · decide +kernel

end QsoRipper.Setup
