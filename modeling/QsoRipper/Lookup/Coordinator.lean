/-
QsoRipper/Lookup/Coordinator.lean

The lookup coordinator: `lookup`, `stream_lookup_into` and
`get_cached_callsign`.  A call looks into the cache, then into the snapshots of
the store, and asks the provider when neither holds a fresh entry; calls for one
callsign that run at once share the provider's future.

Instants and durations are nanoseconds; an instant counts from the origin of
the monotonic clock, and the wall clock from the epoch.
-/
import QsoRipper.Lookup.Provider

namespace QsoRipper.Lookup

open Interaction

/-! ### Configuration and entries -/

/-- `LookupCoordinatorConfig`, and whether there is a snapshot store. -/
structure Config where
  positiveTtl : ℕ
  negativeTtl : ℕ
  maxEntries : ℕ
  maxEntries_pos : 0 < maxEntries
  hasStorage : Bool

/-- Nanoseconds of a second. -/
def second : ℕ := 1000000000

/-- `CachedLookup`. -/
inductive CachedLookup where
  | found (record : AnnotatedRecord)
  | notFound

/-- `CacheEntry`. -/
structure CacheEntry where
  lookup : CachedLookup
  cachedAt : ℕ
  /-- When the provider gave the answer; the source has no such field, and
  nothing reads it. -/
  answeredAt : ℕ

/-- `QsoHistoryEntry`. -/
structure QsoHistoryEntry where
  localId : String
  utcTimestamp : Option Timestamp
  band : ℤ
  mode : ℤ
  submode : Option String
  frequencyHz : Option ℕ
  frequencyRxHz : Option ℕ
  contestId : Option String

/-- `qso_to_history_entry`. -/
def qsoToHistoryEntry (qso : QsoRecord) : QsoHistoryEntry where
  localId := qso.localId
  utcTimestamp := qso.utcTimestamp
  band := qso.band
  mode := qso.mode
  submode := qso.submode
  frequencyHz := qso.frequencyHz
  frequencyRxHz := qso.frequencyRxHz
  contestId := qso.contestId

/-- `LookupResult`. -/
structure LookupResult where
  state : ℤ := 0
  record : Option AnnotatedRecord := none
  errorMessage : Option String := none
  cacheHit : Bool := false
  lookupLatencyMs : ℕ := 0
  queriedCallsign : String := ""
  debugHttpExchanges : List DebugHttpExchange := []
  priorQsos : List QsoHistoryEntry := []
  priorQsoTotalCount : ℕ := 0
  /-- When the provider gave the answer that the result carries, if it carries
  one; not in the source. -/
  answeredAt : Option ℕ := none

/-- `LookupState::… as i32`. -/
def stateLoading : ℤ := 1

/-- `LookupState::Found as i32`. -/
def stateFound : ℤ := 2

/-- `LookupState::NotFound as i32`. -/
def stateNotFound : ℤ := 3

/-- `LookupState::Error as i32`. -/
def stateError : ℤ := 4

/-- `LookupState::Stale as i32`. -/
def stateStale : ℤ := 5

/-- `LookupSnapshot`. -/
structure LookupSnapshot where
  callsign : String
  result : LookupResult
  storedAt : Timestamp
  expiresAt : Option Timestamp

/-- What waiting for a shared provider future yields. -/
structure ProviderAnswer where
  result : Except ProviderLookupError ProviderLookup
  /-- When the provider gave it; not in the source. -/
  answeredAt : ℕ

/-! ### Commands -/

/-- What a call asks for. -/
inductive LookupCmd where
  /-- The call starts. -/
  | enter
  | readCache (key : String)
  | putCache (key : String) (entry : CacheEntry)
  | getSnapshot (key : String)
  | putSnapshot (snapshot : LookupSnapshot)
  | instantNow
  | utcNow
  /-- Take the entry of `in_flight`, or put a new future there. -/
  | join (key : String)
  | awaitCall (call : ℕ)
  | removeInFlight (key : String)
  | listHistory (key : String) (limit : ℕ)
  | send (result : LookupResult)

/-- What it is answered. -/
abbrev LookupCmd.Answer : LookupCmd → Type
  | enter => Unit
  | readCache _ => Option CacheEntry
  | putCache _ _ => Unit
  | getSnapshot _ => Except StorageError (Option LookupSnapshot)
  | putSnapshot _ => Except StorageError Unit
  | instantNow => ℕ
  | utcNow => ℕ
  | join _ => ℕ × Bool
  | awaitCall _ => ProviderAnswer
  | removeInFlight _ => Unit
  | listHistory _ _ => Except StorageError QsoHistoryPage
  | send _ => Bool

/-- A program of the coordinator. -/
abbrev LookupProgram (α : Type) : Type := Prog LookupCmd LookupCmd.Answer α

/-- One command. -/
def ask (c : LookupCmd) : LookupProgram c.Answer := Prog.call c

/-! ### The provider -/

/-- `run_provider_lookup_deduped`. -/
def runProviderLookupDeduped (normalizedCallsign : String) : LookupProgram ProviderAnswer := do
  let (call, owner) ← ask (.join normalizedCallsign)
  let result ← ask (.awaitCall call)
  if owner then ask (.removeInFlight normalizedCallsign)
  return result

/-- Is a second attempt made, and with which exchanges of the first? -/
def fallsBack (exactCallsign base : String) (first : ProviderAnswer) :
    Option (List DebugHttpExchange) :=
  if base = exactCallsign then none
  else
    match first.result with
    | .ok ⟨.notFound, firstExchanges⟩ => some firstExchanges
    | _ => none

/-- `run_provider_lookup_with_fallback`. -/
def runProviderLookupWithFallback (exactCallsign : String) (baseCallsign : Option String) :
    LookupProgram ProviderAnswer := do
  let first ← runProviderLookupDeduped exactCallsign
  match baseCallsign with
  | none => return first
  | some base =>
      match fallsBack exactCallsign base first with
      | none => return first
      | some firstExchanges => do
          let second ← runProviderLookupDeduped base
          return { second with
            result := second.result.map fun lookup =>
              { lookup with debugHttpExchanges := lookup.debugHttpExchanges ++ firstExchanges } }

/-! ### The cache and the snapshots -/

variable (config : Config)

/-- `ttl_for`. -/
def ttlFor : CachedLookup → ℕ
  | .found _ => config.positiveTtl
  | .notFound => config.negativeTtl

/-- `is_fresh`. -/
def isFresh (entry : CacheEntry) : LookupProgram Bool := do
  let now ← ask .instantNow
  return decide (now - entry.cachedAt ≤ ttlFor config entry.lookup)

/-- `cache_entry_to_result`. -/
def cacheEntryToResult (entry : CacheEntry) (normalizedCallsign : String)
    (stateOverride : Option ℤ) (cacheHit : Bool) : LookupResult :=
  match entry.lookup with
  | .found record =>
      { state := stateOverride.getD stateFound
        record := some record
        cacheHit
        queriedCallsign := normalizedCallsign
        answeredAt := some entry.answeredAt }
  | .notFound =>
      { state := stateNotFound
        cacheHit
        queriedCallsign := normalizedCallsign
        answeredAt := some entry.answeredAt }

/-- `chrono::Utc::now().timestamp()`. -/
def wallSeconds (nanos : ℕ) : ℤ := nanos / second

/-- The result that a snapshot keeps. -/
def snapshotResult : CachedLookup → ℕ → LookupResult
  | .found record, answeredAt =>
      { state := stateFound, record := some record, answeredAt := some answeredAt }
  | .notFound, answeredAt => { state := stateNotFound, answeredAt := some answeredAt }

/-- The snapshot that `store_cache_entry` makes of an entry. -/
def snapshotOf (normalizedCallsign : String) (entry : CacheEntry) (nowUtc : ℕ) :
    LookupSnapshot where
  callsign := normalizedCallsign
  result := snapshotResult entry.lookup entry.answeredAt
  storedAt := ⟨wallSeconds nowUtc, 0⟩
  expiresAt := some
    ⟨saturateI64 (wallSeconds nowUtc
        + min ((ttlFor config entry.lookup / second : ℕ) : ℤ) (2 ^ 63 - 1)), 0⟩

/-- `store_cache_entry`. -/
def storeCacheEntry (normalizedCallsign : String) (entry : CacheEntry) : LookupProgram Unit := do
  ask (.putCache normalizedCallsign entry)
  if config.hasStorage then
    let nowUtc ← ask .utcNow
    let _ ← ask (.putSnapshot (snapshotOf config normalizedCallsign entry nowUtc))

/-- Has the snapshot expired? -/
def isExpired (snapshot : LookupSnapshot) (nowSecs : ℤ) : Bool :=
  snapshot.expiresAt.any fun expiresAt => decide (expiresAt.seconds ≤ nowSecs)

/-- The lookup that a snapshot holds. -/
def snapshotLookup (snapshot : LookupSnapshot) : Option CachedLookup :=
  if snapshot.result.state = stateFound then snapshot.result.record.map .found
  else some .notFound

/-- How long the snapshot still lives. -/
def remainingLifetime (snapshot : LookupSnapshot) (nowSecs : ℤ) : ℕ :=
  snapshot.expiresAt.elim 0 fun expiresAt =>
    (max (saturateI64 (expiresAt.seconds - nowSecs)) 0).toNat * second

/-- The entry that a snapshot becomes: back-dated by what has gone of its
lifetime, or dated now where the clock does not reach back so far. -/
def promoted (snapshot : LookupSnapshot) (lookup : CachedLookup) (nowSecs : ℤ) (now : ℕ) :
    CacheEntry where
  lookup
  cachedAt :=
    let elapsed := ttlFor config lookup - remainingLifetime snapshot nowSecs
    if elapsed ≤ now then now - elapsed else now
  answeredAt := snapshot.result.answeredAt.getD 0

/-- `load_snapshot_entry`, once the snapshot has been read. -/
def promoteSnapshot (normalizedCallsign : String) (snapshot : LookupSnapshot) :
    LookupProgram (Option CacheEntry) := do
  let nowUtc ← ask .utcNow
  if isExpired snapshot (wallSeconds nowUtc) then return none
  else
    match snapshotLookup snapshot with
    | none => return none
    | some lookup => do
        let nowUtc ← ask .utcNow
        let now ← ask .instantNow
        let entry := promoted config snapshot lookup (wallSeconds nowUtc) now
        ask (.putCache normalizedCallsign entry)
        return some entry

/-- `load_snapshot_entry`. -/
def loadSnapshotEntry (normalizedCallsign : String) : LookupProgram (Option CacheEntry) :=
  if !config.hasStorage then return none
  else do
    match ← ask (.getSnapshot normalizedCallsign) with
    | .error _ => return none
    | .ok none => return none
    | .ok (some (snapshot : LookupSnapshot)) => promoteSnapshot config normalizedCallsign snapshot

/-- `get_cache_entry`. -/
def getCacheEntry (normalizedCallsign : String) : LookupProgram (Option CacheEntry) := do
  match ← ask (.readCache normalizedCallsign) with
  | some entry => return some entry
  | none => loadSnapshotEntry config normalizedCallsign

/-! ### The calls -/

/-- `duration_to_millis_u32`. -/
def durationToMillisU32 (duration : ℕ) : ℕ := min (duration / 1000000) u32Max

/-- `normalize_callsign_for_history`. -/
def normalizeCallsignForHistory (callsign : String) : Option String :=
  let trimmed := Text.trim callsign
  if trimmed.isEmpty then none else some (Text.toAsciiUppercase trimmed)

/-- `DEFAULT_HISTORY_LIMIT`. -/
def defaultHistoryLimit : ℕ := 25

/-- `populate_history`. -/
def populateHistory (callsign : String) (result : LookupResult) : LookupProgram LookupResult :=
  if !config.hasStorage then return result
  else
    match normalizeCallsignForHistory callsign with
    | none => return result
    | some historyKey => do
        match ← ask (.listHistory historyKey defaultHistoryLimit) with
        | .ok (page : QsoHistoryPage) =>
            return { result with
              priorQsos := page.entries.map qsoToHistoryEntry
              priorQsoTotalCount := page.total }
        | .error _ => return result

/-- What an answer of the provider is remembered as. -/
def answerEntry (outcome : ProviderLookupOutcome) (parsed : ParsedCallsign) (now answeredAt : ℕ) :
    CacheEntry where
  lookup :=
    match outcome with
    | .found record => .found (annotateRecord record parsed)
    | .notFound => .notFound
  cachedAt := now
  answeredAt

/-- `provider_result_to_lookup`. -/
def providerResultToLookup (answer : ProviderAnswer) (normalizedCallsign : String)
    (lookupLatencyMs : ℕ) (parsed : ParsedCallsign) : LookupProgram LookupResult :=
  match answer.result with
  | .ok lookup => do
      let now ← ask .instantNow
      let entry := answerEntry lookup.outcome parsed now answer.answeredAt
      storeCacheEntry config normalizedCallsign entry
      return { cacheEntryToResult entry normalizedCallsign none false with
        lookupLatencyMs
        debugHttpExchanges := lookup.debugHttpExchanges }
  | .error error =>
      return {
        state := stateError
        errorMessage := some error.toText
        lookupLatencyMs
        queriedCallsign := normalizedCallsign
        debugHttpExchanges := error.debugHttpExchanges
        answeredAt := some answer.answeredAt }

/-- The end of `lookup` and of `stream_lookup_into`: ask the provider. -/
def askProvider (callsign normalizedCallsign : String) : LookupProgram LookupResult := do
  let parsed := parseCallsign normalizedCallsign
  let startedAt ← ask .instantNow
  let answer ← runProviderLookupWithFallback normalizedCallsign parsed.base
  let now ← ask .instantNow
  let result ← providerResultToLookup config answer normalizedCallsign
    (durationToMillisU32 (now - startedAt)) parsed
  populateHistory config callsign result

/-- The entry a call starts from. -/
def cachedEntry (skipCache : Bool) (normalizedCallsign : String) :
    LookupProgram (Option CacheEntry) :=
  if skipCache then return none else getCacheEntry config normalizedCallsign

/-- `lookup`. -/
def lookup (callsign : String) (skipCache : Bool) : LookupProgram LookupResult := do
  ask .enter
  let normalizedCallsign := normalizeCallsign callsign
  match ← cachedEntry config skipCache normalizedCallsign with
  | none => askProvider config callsign normalizedCallsign
  | some (entry : CacheEntry) => do
      if ← isFresh config entry then
        populateHistory config callsign (cacheEntryToResult entry normalizedCallsign none true)
      else askProvider config callsign normalizedCallsign

/-- The last update of a stream. -/
def streamFromProvider (callsign normalizedCallsign : String) : LookupProgram Unit := do
  let finalUpdate ← askProvider config callsign normalizedCallsign
  let _ ← ask (.send finalUpdate)

/-- The updates of a stream after a stale entry has been found. -/
def streamStale (callsign normalizedCallsign : String) (entry : CacheEntry) :
    LookupProgram Unit :=
  match entry.lookup with
  | .notFound => streamFromProvider config callsign normalizedCallsign
  | .found _ => do
      let stale ← populateHistory config callsign
        (cacheEntryToResult entry normalizedCallsign (some stateStale) true)
      if ← ask (.send stale) then return ()
      else streamFromProvider config callsign normalizedCallsign

/-- The first update of a stream. -/
def loadingResult (normalizedCallsign : String) : LookupResult :=
  { state := stateLoading, queriedCallsign := normalizedCallsign }

/-- `stream_lookup_into`; `send` answers whether it failed. -/
def streamLookupInto (callsign : String) (skipCache : Bool) : LookupProgram Unit := do
  ask .enter
  let normalizedCallsign := normalizeCallsign callsign
  if ← ask (.send (loadingResult normalizedCallsign)) then return ()
  else
    match ← cachedEntry config skipCache normalizedCallsign with
    | none => streamFromProvider config callsign normalizedCallsign
    | some (entry : CacheEntry) => do
        if ← isFresh config entry then
          let fresh ← populateHistory config callsign
            (cacheEntryToResult entry normalizedCallsign none true)
          let _ ← ask (.send fresh)
        else streamStale config callsign normalizedCallsign entry

/-- The result of a call that finds nothing in the cache. -/
def cacheMiss (normalizedCallsign : String) : LookupResult :=
  { state := stateNotFound, queriedCallsign := normalizedCallsign }

/-- `get_cached_callsign`. -/
def getCachedCallsign (callsign : String) : LookupProgram LookupResult := do
  ask .enter
  let normalizedCallsign := normalizeCallsign callsign
  match ← getCacheEntry config normalizedCallsign with
  | none => populateHistory config callsign (cacheMiss normalizedCallsign)
  | some (entry : CacheEntry) => do
      if ← isFresh config entry then
        populateHistory config callsign (cacheEntryToResult entry normalizedCallsign none true)
      else populateHistory config callsign (cacheMiss normalizedCallsign)

/-! ### What the parts ask for -/

section Emits

variable {config} {P : LookupCmd → Prop}

theorem isFresh_emits (hP : P .instantNow) (entry : CacheEntry) :
    (isFresh config entry).Emits P :=
  ⟨hP, fun _ => trivial⟩

theorem populateHistory_emits (hP : ∀ key limit, P (.listHistory key limit)) (callsign : String)
    (result : LookupResult) : (populateHistory config callsign result).Emits P := by
  rw [populateHistory]
  split
  · trivial
  cases normalizeCallsignForHistory callsign with
  | none => trivial
  | some historyKey =>
      refine ⟨hP _ _, fun answer => ?_⟩
      cases answer with
      | error error => trivial
      | ok page => trivial

end Emits

end QsoRipper.Lookup
