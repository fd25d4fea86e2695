/-
QsoRipper/Lookup/Freshness.lean

How old a cached answer can be.  Calls of the coordinator follow one another
while time passes, entries are evicted and the process is restarted over the
same snapshot store.  A call takes no time, except for the answer of the
provider.

An entry taken over from a snapshot is back-dated by what has gone of its
lifetime.  Where the monotonic clock does not reach back so far it is dated now
instead, and where the lifetime has been shortened meanwhile there is nothing
to subtract: both give a snapshot a new life.  Without these an entry in the
cache is at most a second older than its date says.
-/
import QsoRipper.Lib.Transition
import QsoRipper.Lookup.Coordinator

namespace QsoRipper.Lookup

open Interaction

/-! ### The process and its surroundings -/

/-- How the surroundings answer, from a state of their own. -/
structure Surroundings (ε : Type) where
  /-- The provider's answer, and how long it takes. -/
  provider : String → ε → (Except ProviderLookupError ProviderLookup × ℕ) × ε
  /-- Does a call of the snapshot store fail? -/
  storeFails : ε → Bool × ε
  history : String → ε → Except StorageError QsoHistoryPage × ε
  /-- Has the listener of a stream gone? -/
  sendFails : ε → Bool × ε
  /-- The first key of a full cache. -/
  firstKey : List String → ε → Option String

/-- The running process with its clocks, and the snapshot store. -/
structure Process (ε : Type) where
  config : Config
  monotonic : ℕ
  wall : ℕ
  cache : Std.ExtTreeMap String CacheEntry := ∅
  snapshots : Std.ExtTreeMap String LookupSnapshot := ∅
  /-- The key of the request in flight. -/
  asking : String := ""
  /-- What the call has sent so far. -/
  sent : List LookupResult := []
  surroundings : ε

variable {ε : Type}

/-- `BoundedCache::put`. -/
def Process.put (sur : Surroundings ε) (w : Process ε) (key : String) (entry : CacheEntry) :
    Std.ExtTreeMap String CacheEntry :=
  if key ∈ w.cache then w.cache.insert key entry
  else if w.config.maxEntries ≤ w.cache.size then
    match sur.firstKey w.cache.keys w.surroundings with
    | some evictKey => (w.cache.erase evictKey).insert key entry
    | none => w.cache.insert key entry
  else w.cache.insert key entry

/-- Answer a command. -/
def serveLookup (sur : Surroundings ε) : (c : LookupCmd) → Process ε → c.Answer × Process ε
  | .enter, w => ((), w)
  | .readCache key, w => (w.cache[key]?, w)
  | .putCache key entry, w => ((), { w with cache := w.put sur key entry })
  | .getSnapshot key, w =>
      let (fails, surroundings) := sur.storeFails w.surroundings
      (if fails then .error (.backend "snapshot store") else .ok w.snapshots[normalizeCallsign key]?,
        { w with surroundings })
  | .putSnapshot snapshot, w =>
      let (fails, surroundings) := sur.storeFails w.surroundings
      if fails then (.error (.backend "snapshot store"), { w with surroundings })
      else
        (.ok (),
          { w with
            snapshots := w.snapshots.insert (normalizeCallsign snapshot.callsign)
              { snapshot with callsign := normalizeCallsign snapshot.callsign }
            surroundings })
  | .instantNow, w => (w.monotonic, w)
  | .utcNow, w => (w.wall, w)
  | .join key, w => ((0, true), { w with asking := key })
  | .awaitCall _, w =>
      let ((result, duration), surroundings) := sur.provider w.asking w.surroundings
      (⟨result, w.wall + duration⟩,
        { w with
          monotonic := w.monotonic + duration
          wall := w.wall + duration
          surroundings })
  | .removeInFlight _, w => ((), { w with asking := "" })
  | .listHistory key _, w =>
      let (page, surroundings) := sur.history key w.surroundings
      (page, { w with surroundings })
  | .send result, w =>
      let (fails, surroundings) := sur.sendFails w.surroundings
      (fails, { w with sent := if fails then w.sent else w.sent ++ [result], surroundings })

/-- What happens to the process, one after the other. -/
inductive LookupEvent where
  | elapse (nanos : ℕ)
  | lookup (callsign : String) (skipCache : Bool)
  | stream (callsign : String) (skipCache : Bool)
  | cached (callsign : String)
  | evict (key : String)
  /-- The process is restarted, perhaps with other settings; the monotonic clock
  may have a new origin. -/
  | restart (config : Config) (monotonic : ℕ)

/-- An event, with the results that callers get. -/
def happen (sur : Surroundings ε) : LookupEvent → Process ε → List LookupResult × Process ε
  | .elapse nanos, w =>
      ([], { w with monotonic := w.monotonic + nanos, wall := w.wall + nanos })
  | .lookup callsign skipCache, w =>
      let o := (lookup w.config callsign skipCache).run (serveLookup sur) w
      ([o.1], o.2)
  | .stream callsign skipCache, w =>
      let o := (streamLookupInto w.config callsign skipCache).run (serveLookup sur)
        { w with sent := [] }
      (o.2.sent, o.2)
  | .cached callsign, w =>
      let o := (getCachedCallsign w.config callsign).run (serveLookup sur) w
      ([o.1], o.2)
  | .evict key, w => ([], { w with cache := w.cache.erase key })
  | .restart config monotonic, w => ([], { w with config, monotonic, cache := ∅, asking := "" })

/-! ### What is kept -/

/-- The entry is at most a second older than its date says. -/
def Dated (w : Process ε) (entry : CacheEntry) : Prop :=
  entry.cachedAt ≤ w.monotonic
    ∧ w.wall ≤ entry.answeredAt + (w.monotonic - entry.cachedAt) + second

/-- The snapshot was stored when its answer was given, not in the future. -/
structure Kept (w : Process ε) (snapshot : LookupSnapshot) : Prop where
  past : snapshot.storedAt.seconds * second ≤ snapshot.result.answeredAt.getD 0
  answered : snapshot.result.answeredAt.getD 0 ≤ w.wall
  expires : snapshot.expiresAt.isSome = true

/-- Every entry and every snapshot is as it should be. -/
structure Sound (w : Process ε) : Prop where
  cache : ∀ (key : String) entry, w.cache[key]? = some entry → Dated w entry
  snapshots : ∀ (key : String) snapshot, w.snapshots[key]? = some snapshot → Kept w snapshot

/-- A result that is presented as fresh carries an answer that is. -/
def Fresh (w : Process ε) (result : LookupResult) : Prop :=
  result.cacheHit = true → ∃ answeredAt, result.answeredAt = some answeredAt
    ∧ (result.state = stateFound → w.wall ≤ answeredAt + w.config.positiveTtl + second)
    ∧ (result.state = stateNotFound → w.wall ≤ answeredAt + w.config.negativeTtl + second)

/-- The lifetime under which a snapshot was stored. -/
def lifetime (snapshot : LookupSnapshot) : ℕ :=
  snapshot.expiresAt.elim 0 fun expiresAt =>
    (expiresAt.seconds - snapshot.storedAt.seconds).toNat * second

/-- If the snapshot of the key is taken over, then its lifetime has not been
shortened since, and the monotonic clock reaches back to the date it gets. -/
def backdates (w : Process ε) (key : String) : Bool :=
  match w.snapshots[normalizeCallsign key]? with
  | none => true
  | some snapshot =>
      !w.config.hasStorage || isExpired snapshot (wallSeconds w.wall)
        || (snapshotLookup snapshot).all fun lookup =>
            decide (lifetime snapshot ≤ ttlFor w.config lookup)
              && decide (ttlFor w.config lookup
                    - remainingLifetime snapshot (wallSeconds w.wall) ≤ w.monotonic)

section Specs

variable {sur : Surroundings ε} {w w' : Process ε} {config : Config} {key callsign : String}
  {entry : CacheEntry} {snapshot : LookupSnapshot} {result : LookupResult}

/-- No time has passed, and everything is still as it should be. -/
structure Settled (w w' : Process ε) : Prop where
  sound : Sound w'
  monotonic : w'.monotonic = w.monotonic
  wall : w'.wall = w.wall
  config : w'.config = w.config
  sent : w'.sent = w.sent

theorem Settled.refl (h : Sound w) : Settled w w := ⟨h, rfl, rfl, rfl, rfl⟩

theorem Settled.trans {w₁ w₂ w₃ : Process ε} (h : Settled w₁ w₂) (h' : Settled w₂ w₃) :
    Settled w₁ w₃ where
  sound := h'.sound
  monotonic := h'.monotonic.trans h.monotonic
  wall := h'.wall.trans h.wall
  config := h'.config.trans h.config
  sent := h'.sent.trans h.sent

/-- The surroundings do not matter. -/
theorem Sound.of_eq (h : Sound w) (hcache : w'.cache = w.cache)
    (hsnapshots : w'.snapshots = w.snapshots) (hmonotonic : w'.monotonic = w.monotonic)
    (hwall : w'.wall = w.wall) : Sound w' := by
  constructor
  · intro key entry hget
    rw [hcache] at hget
    rw [Dated, hmonotonic, hwall]
    exact h.cache key entry hget
  · intro key snapshot hget
    rw [hsnapshots] at hget
    obtain ⟨hpast, hanswered, hexpires⟩ := h.snapshots key snapshot hget
    exact ⟨hpast, by rw [hwall]; exact hanswered, hexpires⟩

theorem get_put {k : String} {e : CacheEntry} (hget : (w.put sur key entry)[k]? = some e) :
    e = entry ∨ w.cache[k]? = some e := by
  have hinsert : ∀ m : Std.ExtTreeMap String CacheEntry, (m.insert key entry)[k]? = some e →
      e = entry ∨ m[k]? = some e := by
    intro m hm
    rw [Std.ExtTreeMap.getElem?_insert] at hm
    split at hm
    · cases hm
      exact .inl rfl
    · exact .inr hm
  rw [Process.put] at hget
  split at hget
  · exact hinsert _ hget
  · split at hget
    · split at hget
      · rcases hinsert _ hget with he | he
        · exact .inl he
        · rw [Std.ExtTreeMap.getElem?_erase] at he
          split at he
          · cases he
          · exact .inr he
      · exact hinsert _ hget
    · exact hinsert _ hget

/-- A well dated entry may be put into the cache. -/
theorem Sound.put (h : Sound w) (he : Dated w entry) :
    Settled w { w with cache := w.put sur key entry } := by
  refine ⟨⟨fun k e hget => ?_, fun k e hget => ?_⟩, rfl, rfl, rfl, rfl⟩
  · rcases get_put hget with rfl | hold
    · exact he
    · exact h.cache k e hold
  · obtain ⟨hpast, hanswered, hexpires⟩ := h.snapshots k e hget
    exact ⟨hpast, hanswered, hexpires⟩

variable (key) in
/-- A new snapshot is as it should be. -/
theorem kept_snapshotOf (hanswered : entry.answeredAt = w.wall) :
    Kept w { snapshotOf w.config key entry w.wall with callsign := normalizeCallsign key } := by
  have hresult : (snapshotResult entry.lookup entry.answeredAt).answeredAt.getD 0 = w.wall := by
    cases entry.lookup <;> exact hanswered
  constructor
  · show wallSeconds w.wall * second ≤ _
    show wallSeconds w.wall * second
      ≤ (((snapshotResult entry.lookup entry.answeredAt).answeredAt.getD 0 : ℕ) : ℤ)
    rw [hresult, wallSeconds]
    exact Int.ediv_mul_le _ (by decide)
  · exact hresult.le
  · rfl

/-- A command that neither writes nor takes time. -/
def Calm : LookupCmd → Prop
  | .putCache _ _ | .putSnapshot _ | .awaitCall _ | .send _ => False
  | _ => True

theorem settled_calm {c : LookupCmd} (hc : Calm c) (h : Sound w) :
    Settled w (serveLookup sur c w).2 := by
  cases c <;> first | exact hc.elim | exact ⟨h.of_eq rfl rfl rfl rfl, rfl, rfl, rfl, rfl⟩

variable (snapshot) in
theorem settled_putSnapshot (h : Sound w)
    (hkept : Kept w { snapshot with callsign := normalizeCallsign snapshot.callsign }) :
    Settled w (serveLookup sur (.putSnapshot snapshot) w).2 := by
  simp only [serveLookup]
  split
  · exact ⟨h.of_eq rfl rfl rfl rfl, rfl, rfl, rfl, rfl⟩
  · refine ⟨⟨h.cache, fun k s hget => ?_⟩, rfl, rfl, rfl, rfl⟩
    have hget' : (w.snapshots.insert (normalizeCallsign snapshot.callsign)
        { snapshot with callsign := normalizeCallsign snapshot.callsign })[k]? = some s := hget
    rw [Std.ExtTreeMap.getElem?_insert] at hget'
    split at hget'
    · cases hget'
      exact ⟨hkept.past, hkept.answered, hkept.expires⟩
    · obtain ⟨hpast, hans, hexpires⟩ := h.snapshots k s hget'
      exact ⟨hpast, hans, hexpires⟩

/-- A part that only has calm commands. -/
theorem settled_run {α : Type} {p : LookupProgram α} (hp : p.Emits Calm) (h : Sound w) :
    Settled w (p.run (serveLookup sur) w).2 := by
  induction p generalizing w with
  | pure a => exact .refl h
  | cmd c k ih =>
      have hfirst : Settled w (serveLookup sur c w).2 := settled_calm hp.1 h
      exact hfirst.trans (ih _ (hp.2 _) hfirst.sound)

variable (sur key entry) in
/-- `store_cache_entry` keeps an answer that has just been given. -/
theorem storeCacheEntry_run (h : Sound w) (hcached : entry.cachedAt = w.monotonic)
    (hanswered : entry.answeredAt = w.wall) :
    Settled w ((storeCacheEntry w.config key entry).run (serveLookup sur) w).2 := by
  have hdated : Dated w entry := by
    rw [Dated, hcached, hanswered]
    omega
  have hput : Settled w { w with cache := w.put sur key entry } := h.put hdated
  rw [storeCacheEntry]
  cases hstorage : w.config.hasStorage with
  | false => exact hput
  | true =>
      have hkept : Kept { w with cache := w.put sur key entry }
          { snapshotOf w.config key entry w.wall with callsign := normalizeCallsign key } := by
        obtain ⟨hpast, hans, hexpires⟩ := kept_snapshotOf key hanswered
        exact ⟨hpast, hans, hexpires⟩
      exact hput.trans (settled_putSnapshot _ hput.sound hkept)

/-- What has been stored lives as long as its answer may. -/
theorem dated_promoted {lookup : CachedLookup} (hkept : Kept w snapshot)
    (hfresh : isExpired snapshot (wallSeconds w.wall) = false)
    (hlifetime : lifetime snapshot ≤ ttlFor w.config lookup)
    (hreach : ttlFor w.config lookup - remainingLifetime snapshot (wallSeconds w.wall)
      ≤ w.monotonic) :
    Dated w (promoted w.config snapshot lookup (wallSeconds w.wall) w.monotonic) := by
  obtain ⟨hpast, hanswered, hexpires⟩ := hkept
  obtain ⟨expiresAt, hat⟩ := Option.isSome_iff_exists.mp hexpires
  have hlater : wallSeconds w.wall < expiresAt.seconds := by
    rw [isExpired, hat] at hfresh
    simpa using hfresh
  rw [lifetime, hat] at hlifetime
  have hremaining : remainingLifetime snapshot (wallSeconds w.wall)
      ≤ (expiresAt.seconds - wallSeconds w.wall).toNat * second := by
    rw [remainingLifetime, hat]
    show (max (saturateI64 (expiresAt.seconds - wallSeconds w.wall)) 0).toNat * second ≤ _
    apply Nat.mul_le_mul_right
    rw [saturateI64]
    omega
  rw [Dated, promoted]
  dsimp only at hlifetime ⊢
  rw [if_pos hreach]
  rw [wallSeconds] at *
  simp only [second, Option.elim_some] at *
  omega

/-- What becomes of a snapshot that was read: nothing when it has expired or holds no
result, otherwise its entry, which the cache takes in. -/
theorem run_promoteSnapshot :
    (promoteSnapshot w.config key snapshot).run (serveLookup sur) w
      = if isExpired snapshot (wallSeconds w.wall) then (none, w)
        else
          match snapshotLookup snapshot with
          | none => (none, w)
          | some lookup =>
              let entry := promoted w.config snapshot lookup (wallSeconds w.wall) w.monotonic
              (some entry, { w with cache := w.put sur key entry }) := by
  rw [promoteSnapshot]
  show (ite (isExpired snapshot (wallSeconds w.wall) = true) _ _ :
    LookupProgram (Option CacheEntry)).run (serveLookup sur) w = _
  split
  · rfl
  · cases snapshotLookup snapshot <;> rfl

variable (sur key) in
/-- A snapshot that is taken over becomes a well dated entry. -/
theorem promoteSnapshot_run (h : Sound w) (hkept : Kept w snapshot)
    (hback : isExpired snapshot (wallSeconds w.wall) = false → ∀ lookup,
      snapshotLookup snapshot = some lookup → lifetime snapshot ≤ ttlFor w.config lookup
        ∧ ttlFor w.config lookup - remainingLifetime snapshot (wallSeconds w.wall)
          ≤ w.monotonic) :
    Settled w ((promoteSnapshot w.config key snapshot).run (serveLookup sur) w).2
      ∧ ∀ entry, ((promoteSnapshot w.config key snapshot).run (serveLookup sur) w).1 = some entry →
        Dated w entry := by
  rw [run_promoteSnapshot]
  cases hexpired : isExpired snapshot (wallSeconds w.wall) with
  | true => exact ⟨.refl h, fun entry hentry => by cases hentry⟩
  | false =>
      rw [if_neg Bool.false_ne_true]
      cases hlookup : snapshotLookup snapshot with
      | none => exact ⟨.refl h, fun entry hentry => by cases hentry⟩
      | some lookup =>
          obtain ⟨hlifetime, hreach⟩ := hback hexpired lookup hlookup
          have hdated := dated_promoted hkept hexpired hlifetime hreach
          refine ⟨h.put hdated, fun entry hentry => ?_⟩
          cases hentry
          exact hdated

/-- What a store with snapshots answers goes on into the cache. -/
theorem run_loadSnapshotEntry :
    (loadSnapshotEntry w.config key).run (serveLookup sur) w
      = if w.config.hasStorage then
          (match (serveLookup sur (.getSnapshot key) w).1 with
          | .error _ => pure none
          | .ok none => pure none
          | .ok (some (snapshot : LookupSnapshot)) => promoteSnapshot w.config key snapshot :
            LookupProgram (Option CacheEntry)).run (serveLookup sur)
              (serveLookup sur (.getSnapshot key) w).2
        else (none, w) := by
  rw [loadSnapshotEntry]
  cases w.config.hasStorage <;> rfl

/-- `load_snapshot_entry`. -/
theorem loadSnapshotEntry_run (h : Sound w) (hback : backdates w key = true) :
    Settled w ((loadSnapshotEntry w.config key).run (serveLookup sur) w).2
      ∧ ∀ entry, ((loadSnapshotEntry w.config key).run (serveLookup sur) w).1 = some entry →
        Dated w entry := by
  rw [run_loadSnapshotEntry]
  cases hstorage : w.config.hasStorage with
  | false => exact ⟨.refl h, fun entry hentry => by cases hentry⟩
  | true =>
      rw [if_pos rfl]
      have hread : Settled w (serveLookup sur (.getSnapshot key) w).2 := settled_calm trivial h
      have hsnapshots : (serveLookup sur (.getSnapshot key) w).2.snapshots = w.snapshots := rfl
      -- what the store answers: a failure, or the snapshot of the key
      have hanswer : (∃ error, (serveLookup sur (.getSnapshot key) w).1 = .error error)
          ∨ (serveLookup sur (.getSnapshot key) w).1 = .ok w.snapshots[normalizeCallsign key]? := by
        simp only [serveLookup]
        cases (sur.storeFails w.surroundings).1 with
        | true => exact .inl ⟨_, rfl⟩
        | false => exact .inr rfl
      generalize (serveLookup sur (.getSnapshot key) w).2 = w₁ at hread hsnapshots ⊢
      rcases hanswer with ⟨error, herror⟩ | hok
      · rw [herror]
        exact ⟨hread, fun entry hentry => by cases hentry⟩
      rw [hok]
      cases hsnapshot : w.snapshots[normalizeCallsign key]? with
      | none => exact ⟨hread, fun entry hentry => by cases hentry⟩
      | some snapshot =>
          have hkept : Kept w₁ snapshot :=
            hread.sound.snapshots (normalizeCallsign key) snapshot (by rw [hsnapshots]; exact hsnapshot)
          have hback₁ : isExpired snapshot (wallSeconds w₁.wall) = false → ∀ lookup,
              snapshotLookup snapshot = some lookup → lifetime snapshot ≤ ttlFor w₁.config lookup
                ∧ ttlFor w₁.config lookup - remainingLifetime snapshot (wallSeconds w₁.wall)
                  ≤ w₁.monotonic := by
            intro hexpired lookup hlookup
            rw [hread.wall] at hexpired
            rw [hread.config, hread.wall, hread.monotonic]
            rw [backdates, hsnapshot] at hback
            simpa [hstorage, hexpired, hlookup] using hback
          have hpromote := promoteSnapshot_run sur key hread.sound hkept hback₁
          rw [hread.config] at hpromote
          refine ⟨hread.trans hpromote.1, fun entry hentry => ?_⟩
          have hdated := hpromote.2 entry hentry
          rw [Dated, hread.monotonic, hread.wall] at hdated
          exact hdated

variable (sur) in
/-- `get_cache_entry`. -/
theorem getCacheEntry_run (h : Sound w)
    (hback : w.cache[key]? = none → backdates w key = true) :
    Settled w ((getCacheEntry w.config key).run (serveLookup sur) w).2
      ∧ ∀ entry, ((getCacheEntry w.config key).run (serveLookup sur) w).1 = some entry →
        Dated w entry := by
  have hread : (ask (.readCache key)).run (serveLookup sur) w = (w.cache[key]?, w) := rfl
  rw [getCacheEntry, Prog.run_bind, hread]
  cases hcache : w.cache[key]? with
  | none => exact loadSnapshotEntry_run h (hback hcache)
  | some entry =>
      refine ⟨.refl h, fun entry' hentry => ?_⟩
      cases hentry
      exact h.cache key entry hcache

variable (sur) in
/-- The entry a call starts from. -/
theorem cachedEntry_run (skipCache : Bool) (h : Sound w)
    (hback : skipCache = false → w.cache[key]? = none → backdates w key = true) :
    Settled w ((cachedEntry w.config skipCache key).run (serveLookup sur) w).2
      ∧ ∀ entry, ((cachedEntry w.config skipCache key).run (serveLookup sur) w).1 = some entry →
        Dated w entry := by
  rw [cachedEntry]
  cases skipCache with
  | true => exact ⟨.refl h, fun entry hentry => nomatch hentry⟩
  | false => exact getCacheEntry_run _ h (hback rfl)

variable (key) in
/-- An entry that passes the test may be presented. -/
theorem fresh_cacheEntryToResult (hdated : Dated w entry)
    (hfresh : w.monotonic - entry.cachedAt ≤ ttlFor w.config entry.lookup) :
    Fresh w (cacheEntryToResult entry key none true) := by
  obtain ⟨-, hage⟩ := hdated
  intro _
  rw [cacheEntryToResult]
  cases hlookup : entry.lookup with
  | found record =>
      rw [hlookup] at hfresh
      refine ⟨entry.answeredAt, rfl, fun _ => ?_,
        fun hstate => absurd hstate (show stateFound ≠ stateNotFound by decide)⟩
      have httl : w.monotonic - entry.cachedAt ≤ w.config.positiveTtl := hfresh
      omega
  | notFound =>
      rw [hlookup] at hfresh
      refine ⟨entry.answeredAt, rfl,
        fun hstate => absurd hstate (show stateNotFound ≠ stateFound by decide), fun _ => ?_⟩
      have httl : w.monotonic - entry.cachedAt ≤ w.config.negativeTtl := hfresh
      omega

/-- The two results carry the same answer. -/
structure SameAnswer (result result' : LookupResult) : Prop where
  cacheHit : result'.cacheHit = result.cacheHit
  state : result'.state = result.state
  answeredAt : result'.answeredAt = result.answeredAt

theorem Fresh.congr {result' : LookupResult} (h : Fresh w result)
    (hsame : SameAnswer result result') : Fresh w result' := by
  rw [Fresh, hsame.cacheHit, hsame.state, hsame.answeredAt]
  exact h

theorem fresh_of_miss (h : result.cacheHit = false) : Fresh w result := by
  intro hhit
  rw [h] at hhit
  cases hhit

variable (sur callsign result) in
/-- The history is no part of the answer. -/
theorem populateHistory_run (h : Sound w) :
    Settled w ((populateHistory w.config callsign result).run (serveLookup sur) w).2
      ∧ SameAnswer result ((populateHistory w.config callsign result).run (serveLookup sur) w).1 := by
  refine ⟨settled_run (populateHistory_emits (fun _ _ => trivial) _ _) h, ?_⟩
  rw [populateHistory]
  split
  · exact ⟨rfl, rfl, rfl⟩
  cases normalizeCallsignForHistory callsign with
  | none => exact ⟨rfl, rfl, rfl⟩
  | some historyKey =>
      rw [Prog.run_bind]
      cases (Prog.run (serveLookup sur) (ask (.listHistory historyKey defaultHistoryLimit)) w).1 with
      | error error => exact ⟨rfl, rfl, rfl⟩
      | ok page => exact ⟨rfl, rfl, rfl⟩

/-! ### Asking the provider -/

/-- Time may have passed. -/
structure Moved (w w' : Process ε) : Prop where
  sound : Sound w'
  config : w'.config = w.config
  sent : w'.sent = w.sent

theorem Settled.moved (h : Settled w w') : Moved w w' := ⟨h.sound, h.config, h.sent⟩

theorem Moved.trans {w₁ w₂ w₃ : Process ε} (h : Moved w₁ w₂) (h' : Moved w₂ w₃) : Moved w₁ w₃ :=
  ⟨h'.sound, h'.config.trans h.config, h'.sent.trans h.sent⟩

/-- Time passes on both clocks. -/
theorem Sound.elapse {nanos : ℕ} (h : Sound w) (hcache : w'.cache = w.cache)
    (hsnapshots : w'.snapshots = w.snapshots) (hmonotonic : w'.monotonic = w.monotonic + nanos)
    (hwall : w'.wall = w.wall + nanos) : Sound w' := by
  constructor
  · intro k e hget
    rw [hcache] at hget
    obtain ⟨hpast, hage⟩ := h.cache k e hget
    rw [Dated, hmonotonic, hwall]
    omega
  · intro k s hget
    rw [hsnapshots] at hget
    obtain ⟨hpast, hanswered, hexpires⟩ := h.snapshots k s hget
    exact ⟨hpast, by rw [hwall]; omega, hexpires⟩

variable (sur key) in
/-- One request; the answer has just been given. -/
theorem runProviderLookupDeduped_run (h : Sound w) :
    Moved w ((runProviderLookupDeduped key).run (serveLookup sur) w).2
      ∧ ((runProviderLookupDeduped key).run (serveLookup sur) w).1.answeredAt
        = ((runProviderLookupDeduped key).run (serveLookup sur) w).2.wall :=
  ⟨⟨h.elapse rfl rfl rfl rfl, rfl, rfl⟩, rfl⟩

variable (sur key) in
theorem runProviderLookupWithFallback_run (base : Option String) (h : Sound w) :
    Moved w ((runProviderLookupWithFallback key base).run (serveLookup sur) w).2
      ∧ ((runProviderLookupWithFallback key base).run (serveLookup sur) w).1.answeredAt
        = ((runProviderLookupWithFallback key base).run (serveLookup sur) w).2.wall := by
  have hfirst := runProviderLookupDeduped_run sur key h
  rw [runProviderLookupWithFallback, Prog.run_bind]
  generalize (runProviderLookupDeduped key).run (serveLookup sur) w = o at hfirst ⊢
  obtain ⟨first, w₁⟩ := o
  cases base with
  | none => exact hfirst
  | some base =>
      dsimp only
      cases fallsBack key base first with
      | none => exact hfirst
      | some firstExchanges =>
          have hsecond := runProviderLookupDeduped_run sur base hfirst.1.sound
          exact ⟨hfirst.1.trans hsecond.1, hsecond.2⟩

variable (sur key) in
theorem providerResultToLookup_run {answer : ProviderAnswer} (latency : ℕ)
    (parsed : ParsedCallsign) (h : Sound w) (hanswer : answer.answeredAt = w.wall) :
    Settled w ((providerResultToLookup w.config answer key latency parsed).run
        (serveLookup sur) w).2
      ∧ ((providerResultToLookup w.config answer key latency parsed).run
        (serveLookup sur) w).1.cacheHit = false := by
  rw [providerResultToLookup]
  cases answer.result with
  | error error => exact ⟨.refl h, rfl⟩
  | ok lookup =>
      have hstore := storeCacheEntry_run sur key (answerEntry lookup.outcome parsed w.monotonic answer.answeredAt) h rfl hanswer
      have hnow : (ask .instantNow).run (serveLookup sur) w = (w.monotonic, w) := rfl
      dsimp only
      simp only [Prog.run_bind, hnow]
      refine ⟨hstore, ?_⟩
      show (cacheEntryToResult (answerEntry lookup.outcome parsed w.monotonic answer.answeredAt)
        key none false).cacheHit = false
      rw [cacheEntryToResult]
      cases (answerEntry lookup.outcome parsed w.monotonic answer.answeredAt).lookup <;> rfl

variable (sur key callsign) in
/-- What the provider says is never presented as cached. -/
theorem askProvider_run (h : Sound w) :
    Moved w ((askProvider w.config callsign key).run (serveLookup sur) w).2
      ∧ ((askProvider w.config callsign key).run (serveLookup sur) w).1.cacheHit = false := by
  rw [askProvider]
  simp only [Prog.run_bind]
  have hstart : (ask .instantNow).run (serveLookup sur) w = (w.monotonic, w) := rfl
  rw [hstart]
  dsimp only
  have hanswer := runProviderLookupWithFallback_run sur key ((parseCallsign key).base) h
  generalize (runProviderLookupWithFallback key (parseCallsign key).base).run (serveLookup sur) w
    = o at hanswer ⊢
  obtain ⟨answer, w₁⟩ := o
  have hend : (ask .instantNow).run (serveLookup sur) w₁ = (w₁.monotonic, w₁) := rfl
  rw [hend]
  dsimp only at hanswer ⊢
  obtain ⟨hmoved, hanswered⟩ := hanswer
  have hresult := providerResultToLookup_run sur key (durationToMillisU32 (w₁.monotonic - w.monotonic)) (parseCallsign key)
    hmoved.sound hanswered
  rw [hmoved.config] at hresult
  generalize (providerResultToLookup w.config answer key
    (durationToMillisU32 (w₁.monotonic - w.monotonic)) (parseCallsign key)).run (serveLookup sur) w₁
    = o at hresult ⊢
  obtain ⟨result, w₂⟩ := o
  dsimp only at hresult ⊢
  obtain ⟨hsettled, hmiss⟩ := hresult
  have hhistory := populateHistory_run sur callsign result
    hsettled.sound
  rw [hsettled.config, hmoved.config] at hhistory
  exact ⟨hmoved.trans (hsettled.trans hhistory.1).moved, hhistory.2.cacheHit.trans hmiss⟩

/-! ### The calls -/

variable (sur w entry) in
/-- The test of an entry. -/
theorem isFresh_run :
    (isFresh w.config entry).run (serveLookup sur) w
      = (decide (w.monotonic - entry.cachedAt ≤ ttlFor w.config entry.lookup), w) := rfl

/-- A good outcome of a call that returns its result. -/
def Outcome (w : Process ε) (o : LookupResult × Process ε) : Prop :=
  Moved w o.2 ∧ Fresh o.2 o.1

variable (sur key callsign) in
/-- A cached entry is presented, after it has passed the test. -/
theorem presented_run {w₀ : Process ε} (hsettled : Settled w₀ w) (hdated : Dated w entry)
    (hfresh : w.monotonic - entry.cachedAt ≤ ttlFor w.config entry.lookup) :
    Outcome w₀ ((populateHistory w.config callsign (cacheEntryToResult entry key none true)).run
      (serveLookup sur) w) := by
  have hhistory := populateHistory_run sur callsign (cacheEntryToResult entry key none true) hsettled.sound
  refine ⟨(hsettled.trans hhistory.1).moved, Fresh.congr ?_ hhistory.2⟩
  rw [Fresh, hhistory.1.wall, hhistory.1.config]
  exact fresh_cacheEntryToResult key hdated hfresh

variable (sur callsign) in
theorem lookup_run (skipCache : Bool) (h : Sound w)
    (hback : skipCache = false → w.cache[normalizeCallsign callsign]? = none →
      backdates w (normalizeCallsign callsign) = true) :
    Outcome w ((lookup w.config callsign skipCache).run (serveLookup sur) w) := by
  have hentry := cachedEntry_run sur skipCache h hback
  have hstart : (ask .enter).run (serveLookup sur) w = ((), w) := rfl
  rw [lookup]
  simp only [Prog.run_bind, hstart]
  generalize (cachedEntry w.config skipCache (normalizeCallsign callsign)).run (serveLookup sur) w
    = o at hentry ⊢
  obtain ⟨entry, w₁⟩ := o
  obtain ⟨hsettled, hdated⟩ := hentry
  dsimp only at hsettled hdated ⊢
  have hprovider : Outcome w ((askProvider w.config callsign (normalizeCallsign callsign)).run
      (serveLookup sur) w₁) := by
    have hask := askProvider_run sur (normalizeCallsign callsign) callsign hsettled.sound
    rw [hsettled.config] at hask
    exact ⟨hsettled.moved.trans hask.1, fresh_of_miss hask.2⟩
  cases entry with
  | none => exact hprovider
  | some entry =>
      have hdated₁ : Dated w₁ entry := by
        rw [Dated, hsettled.monotonic, hsettled.wall]
        exact hdated entry rfl
      have htest := isFresh_run sur w₁ entry
      rw [hsettled.config] at htest
      dsimp only
      rw [Prog.run_bind, htest]
      dsimp only
      split
      · rename_i hfresh
        rw [← hsettled.config] at hfresh ⊢
        exact presented_run _ _ _ hsettled hdated₁ (of_decide_eq_true hfresh)
      · exact hprovider

variable (sur callsign) in
theorem getCachedCallsign_run (h : Sound w)
    (hback : w.cache[normalizeCallsign callsign]? = none →
      backdates w (normalizeCallsign callsign) = true) :
    Outcome w ((getCachedCallsign w.config callsign).run (serveLookup sur) w) := by
  have hentry := getCacheEntry_run sur h hback
  have hstart : (ask .enter).run (serveLookup sur) w = ((), w) := rfl
  rw [getCachedCallsign]
  simp only [Prog.run_bind, hstart]
  generalize (getCacheEntry w.config (normalizeCallsign callsign)).run (serveLookup sur) w
    = o at hentry ⊢
  obtain ⟨entry, w₁⟩ := o
  obtain ⟨hsettled, hdated⟩ := hentry
  dsimp only at hsettled hdated ⊢
  have hmiss : Outcome w ((populateHistory w.config callsign
      (cacheMiss (normalizeCallsign callsign))).run (serveLookup sur) w₁) := by
    have hhistory := populateHistory_run sur callsign (cacheMiss (normalizeCallsign callsign)) hsettled.sound
    rw [hsettled.config] at hhistory
    exact ⟨(hsettled.trans hhistory.1).moved, fresh_of_miss hhistory.2.cacheHit⟩
  cases entry with
  | none => exact hmiss
  | some entry =>
      have hdated₁ : Dated w₁ entry := by
        rw [Dated, hsettled.monotonic, hsettled.wall]
        exact hdated entry rfl
      have htest := isFresh_run sur w₁ entry
      rw [hsettled.config] at htest
      dsimp only
      rw [Prog.run_bind, htest]
      dsimp only
      split
      · rename_i hfresh
        rw [← hsettled.config] at hfresh ⊢
        exact presented_run _ _ _ hsettled hdated₁ (of_decide_eq_true hfresh)
      · exact hmiss

/-! ### Streams -/

/-- A result that is not presented as a fresh one from the cache. -/
def Plain (result : LookupResult) : Prop :=
  result.cacheHit = true → result.state = stateStale ∧ result.answeredAt.isSome = true

theorem Plain.fresh (h : Plain result) : Fresh w result := by
  intro hhit
  obtain ⟨hstate, hanswered⟩ := h hhit
  obtain ⟨answeredAt, hat⟩ := Option.isSome_iff_exists.mp hanswered
  refine ⟨answeredAt, hat, fun hfound => ?_, fun hnotFound => ?_⟩
  · exact absurd (hstate.symm.trans hfound) (by decide)
  · exact absurd (hstate.symm.trans hnotFound) (by decide)

/-- What `send` does. -/
structure Sent (w : Process ε) (result : LookupResult) (w' : Process ε) : Prop where
  sound : Sound w'
  wall : w'.wall = w.wall
  monotonic : w'.monotonic = w.monotonic
  config : w'.config = w.config
  cache : w'.cache = w.cache
  snapshots : w'.snapshots = w.snapshots
  sent : ∀ r ∈ w'.sent, r ∈ w.sent ∨ r = result

variable (sur result) in
theorem send_run (h : Sound w) :
    Sent w result ((ask (.send result)).run (serveLookup sur) w).2 := by
  refine ⟨h.of_eq rfl rfl rfl rfl, rfl, rfl, rfl, rfl, rfl, fun r hr => ?_⟩
  have hr' : r ∈ if (sur.sendFails w.surroundings).1 then w.sent else w.sent ++ [result] := hr
  split at hr'
  · exact .inl hr'
  · simpa using hr'

/-- A stream that has only sent plain results. -/
structure Streaming (config : Config) (w : Process ε) : Prop where
  sound : Sound w
  config_eq : w.config = config
  plain : ∀ r ∈ w.sent, Plain r

theorem Streaming.moved (h : Streaming config w) (h' : Moved w w') : Streaming config w' where
  sound := h'.sound
  config_eq := h'.config.trans h.config_eq
  plain := by rw [h'.sent]; exact h.plain

theorem Streaming.send (h : Streaming config w) (h' : Sent w result w') (hplain : Plain result) :
    Streaming config w' where
  sound := h'.sound
  config_eq := h'.config.trans h.config_eq
  plain := by
    intro r hr
    rcases h'.sent r hr with hold | rfl
    · exact h.plain r hold
    · exact hplain

/-- A good outcome of a stream. -/
def StreamOutcome (config : Config) (w : Process ε) : Prop :=
  Sound w ∧ w.config = config ∧ ∀ r ∈ w.sent, Fresh w r

theorem Streaming.outcome (h : Streaming config w) : StreamOutcome config w :=
  ⟨h.sound, h.config_eq, fun r hr => (h.plain r hr).fresh⟩

theorem streamFromProvider_run (h : Streaming config w) :
    Streaming config ((streamFromProvider config callsign key).run (serveLookup sur) w).2 := by
  have hask := askProvider_run sur key callsign h.sound
  rw [h.config_eq] at hask
  rw [streamFromProvider, Prog.run_bind]
  refine (h.moved hask.1).send (send_run _ _ hask.1.sound) fun hhit => ?_
  rw [hask.2] at hhit
  cases hhit

theorem streamStale_run (h : Streaming config w) :
    Streaming config ((streamStale config callsign key entry).run (serveLookup sur) w).2 := by
  rw [streamStale]
  cases hlookup : entry.lookup with
  | notFound => exact streamFromProvider_run h
  | found record =>
      have hhistory := populateHistory_run sur callsign (cacheEntryToResult entry key (some stateStale) true) h.sound
      rw [h.config_eq] at hhistory
      dsimp only
      simp only [Prog.run_bind]
      generalize (populateHistory config callsign
        (cacheEntryToResult entry key (some stateStale) true)).run (serveLookup sur) w
        = o at hhistory ⊢
      obtain ⟨stale, w₁⟩ := o
      obtain ⟨hsettled, hsame⟩ := hhistory
      have hplain : Plain stale := by
        intro _
        rw [hsame.state, hsame.answeredAt, cacheEntryToResult, hlookup]
        exact ⟨rfl, rfl⟩
      have hsent := (h.moved hsettled.moved).send
        (send_run sur stale hsettled.sound) hplain
      dsimp only
      generalize (ask (.send stale)).run (serveLookup sur) w₁ = o at hsent ⊢
      obtain ⟨failed, w₂⟩ := o
      cases failed with
      | true => exact hsent
      | false => exact streamFromProvider_run hsent

variable (sur callsign) in
theorem streamLookupInto_run (skipCache : Bool) (h : Sound w) (hsent : w.sent = [])
    (hback : skipCache = false → w.cache[normalizeCallsign callsign]? = none →
      backdates w (normalizeCallsign callsign) = true) :
    StreamOutcome w.config
      ((streamLookupInto w.config callsign skipCache).run (serveLookup sur) w).2 := by
  have hbegin : Streaming w.config w := ⟨h, rfl, fun r hr => by rw [hsent] at hr; cases hr⟩
  have hloading := send_run sur (loadingResult (normalizeCallsign callsign)) h
  have hstart : (ask .enter).run (serveLookup sur) w = ((), w) := rfl
  rw [streamLookupInto]
  simp only [Prog.run_bind, hstart]
  generalize (ask (.send (loadingResult (normalizeCallsign callsign)))).run (serveLookup sur) w
    = o at hloading ⊢
  obtain ⟨failed, w₁⟩ := o
  have hloaded : Streaming w.config w₁ := hbegin.send hloading fun hhit => nomatch hhit
  cases failed with
  | true => exact hloaded.outcome
  | false =>
      have hback₁ : skipCache = false → w₁.cache[normalizeCallsign callsign]? = none →
          backdates w₁ (normalizeCallsign callsign) = true := by
        rw [hloading.cache]
        intro hskip hnone
        have hw := hback hskip hnone
        rw [backdates] at hw ⊢
        rw [hloading.snapshots, hloading.config, hloading.wall, hloading.monotonic]
        exact hw
      have hentry := cachedEntry_run sur skipCache hloaded.sound hback₁
      rw [hloading.config] at hentry
      simp only [Bool.false_eq_true, if_false, Prog.run_bind]
      generalize (cachedEntry w.config skipCache (normalizeCallsign callsign)).run
        (serveLookup sur) w₁ = o at hentry ⊢
      obtain ⟨entry, w₂⟩ := o
      obtain ⟨hsettled, hdated⟩ := hentry
      dsimp only at hsettled hdated ⊢
      have hcached := hloaded.moved hsettled.moved
      cases entry with
      | none => exact (streamFromProvider_run hcached).outcome
      | some entry =>
          have hdated₂ : Dated w₂ entry := by
            rw [Dated, hsettled.monotonic, hsettled.wall]
            exact hdated entry rfl
          have htest := isFresh_run sur w₂ entry
          rw [hcached.config_eq] at htest
          dsimp only
          rw [Prog.run_bind, htest]
          dsimp only
          split
          · rename_i hfresh
            rw [← hcached.config_eq] at hfresh
            have hpresented := presented_run sur (normalizeCallsign callsign) callsign (.refl hcached.sound) hdated₂
              (of_decide_eq_true hfresh)
            rw [hcached.config_eq] at hpresented
            simp only [Prog.run_bind]
            generalize (populateHistory w.config callsign
              (cacheEntryToResult entry (normalizeCallsign callsign) none true)).run
              (serveLookup sur) w₂ = o at hpresented ⊢
            obtain ⟨fresh, w₃⟩ := o
            obtain ⟨hmoved, hfresh₃⟩ := hpresented
            have hsent₃ := hcached.moved hmoved
            have hlast := send_run sur fresh hsent₃.sound
            have hend : Fresh ((ask (.send fresh)).run (serveLookup sur) w₃).2 fresh := by
              rw [Fresh, hlast.wall, hlast.config]
              exact hfresh₃
            refine ⟨hlast.sound, hlast.config.trans hsent₃.config_eq, fun r hr => ?_⟩
            rcases hlast.sent r hr with hold | rfl
            · exact (hsent₃.plain r hold).fresh
            · exact hend
          · exact (streamStale_run hcached).outcome

/-! ### Sequences of calls -/

/-- The key under which an event may take over a snapshot. -/
def LookupEvent.loads : LookupEvent → Option String
  | lookup callsign false | stream callsign false | cached callsign =>
      some (normalizeCallsign callsign)
  | _ => none

/-- If the event takes over a snapshot, it can date it as it should. -/
def backdatesAll (w : Process ε) (event : LookupEvent) : Bool :=
  event.loads.all fun key => (w.cache[key]?).isSome || backdates w key

/-- What an event has to meet. -/
theorem backdates_of_all {event : LookupEvent} (hall : backdatesAll w event = true)
    (hloads : event.loads = some key) (hnone : w.cache[key]? = none) : backdates w key = true := by
  rw [backdatesAll, hloads, Option.all_some, hnone] at hall
  simpa using hall

variable (sur) in
/-- **One event.** -/
theorem happen_sound {event : LookupEvent} (h : Sound w) (hall : backdatesAll w event = true) :
    Sound (happen sur event w).2
      ∧ ∀ r ∈ (happen sur event w).1, Fresh (happen sur event w).2 r := by
  cases event with
  | elapse nanos => exact ⟨h.elapse rfl rfl rfl rfl, fun r hr => nomatch hr⟩
  | lookup callsign skipCache =>
      have hrun := lookup_run sur callsign skipCache h
        fun hskip hnone => by
          subst hskip
          exact backdates_of_all hall rfl hnone
      exact ⟨hrun.1.sound, fun r hr => by rw [List.mem_singleton.mp hr]; exact hrun.2⟩
  | stream callsign skipCache =>
      have hclear : Sound { w with sent := [] } := h.of_eq rfl rfl rfl rfl
      have hrun := streamLookupInto_run sur callsign skipCache hclear rfl fun hskip hnone => by
          subst hskip
          exact backdates_of_all hall rfl hnone
      exact ⟨hrun.1, hrun.2.2⟩
  | cached callsign =>
      have hrun := getCachedCallsign_run sur callsign h
        fun hnone => backdates_of_all hall rfl hnone
      exact ⟨hrun.1.sound, fun r hr => by rw [List.mem_singleton.mp hr]; exact hrun.2⟩
  | evict key =>
      refine ⟨⟨fun k e hget => ?_, fun k s hget => ?_⟩, fun r hr => nomatch hr⟩
      swap
      · obtain ⟨hpast, hanswered, hexpires⟩ := h.snapshots k s hget
        exact ⟨hpast, hanswered, hexpires⟩
      have hget' : (w.cache.erase key)[k]? = some e := hget
      rw [Std.ExtTreeMap.getElem?_erase] at hget'
      split at hget'
      · cases hget'
      · exact h.cache k e hget'
  | restart config monotonic =>
      refine ⟨⟨fun k e hget => ?_, fun k s hget => ?_⟩, fun r hr => nomatch hr⟩
      swap
      · obtain ⟨hpast, hanswered, hexpires⟩ := h.snapshots k s hget
        exact ⟨hpast, hanswered, hexpires⟩
      have hget' : (∅ : Std.ExtTreeMap String CacheEntry)[k]? = some e := hget
      rw [Std.ExtTreeMap.getElem?_empty] at hget'
      cases hget'

end Specs

/-- An event with the results it returns, and the process as it returns them. -/
structure Reply (ε : Type) where
  event : LookupEvent
  results : List LookupResult
  after : Process ε

/-- One event of a run. -/
def ReplyStep (sur : Surroundings ε) (w : Process ε) (m : Reply ε) (w' : Process ε) : Prop :=
  happen sur m.event w = (m.results, w') ∧ m.after = w'

/-- The condition on an event: what it takes over gets its date. -/
def Backdated (_ : List (Reply ε)) (w : Process ε) (m : Reply ε) : Prop :=
  backdatesAll w m.event = true

instance (ms : List (Reply ε)) (w : Process ε) (m : Reply ε) : Decidable (Backdated ms w m) :=
  inferInstanceAs (Decidable (_ = true))

/-- Let an event happen. -/
def reply (sur : Surroundings ε) (w : Process ε) (event : LookupEvent) :
    Option (Reply ε × Process ε) :=
  some (⟨event, (happen sur event w).1, (happen sur event w).2⟩, (happen sur event w).2)

theorem replyStep_of_reply {sur : Surroundings ε} (w : Process ε) (event : LookupEvent)
    (m : Reply ε) (w' : Process ε) (hreply : reply sur w event = some (m, w')) :
    ReplyStep sur w m w' := by
  cases hreply
  exact ⟨rfl, rfl⟩

/-- **A cached answer is never presented as fresh beyond its lifetime**, in a
run in which every snapshot that is taken over gets its date. -/
theorem cached_answers_are_fresh {sur : Surroundings ε} {w₀ w : Process ε} {ms : List (Reply ε)}
    (hcache : w₀.cache = ∅) (hsnapshots : w₀.snapshots = ∅)
    (hr : Transition.Run (ReplyStep sur) Backdated w₀ ms w) :
    ∀ m ∈ ms, ∀ r ∈ m.results, Fresh m.after r := by
  have hstart : Sound w₀ := by
    constructor
    · intro key entry hget
      rw [hcache, Std.ExtTreeMap.getElem?_empty] at hget
      cases hget
    · intro key snapshot hget
      rw [hsnapshots, Std.ExtTreeMap.getElem?_empty] at hget
      cases hget
  have hboth : Sound w ∧ ∀ m ∈ ms, ∀ r ∈ m.results, Fresh m.after r := by
    refine hr.invariant (I := fun ms w => Sound w ∧ ∀ m ∈ ms, ∀ r ∈ m.results, Fresh m.after r)
      ⟨hstart, fun m hm => absurd hm List.not_mem_nil⟩ ?_
    rintro ms w m w' ⟨hsound, hpast⟩ hdated ⟨hstep, hafter⟩
    have hone := happen_sound sur hsound hdated
    rw [hstep] at hone
    refine ⟨hone.1, fun m' hm' => ?_⟩
    rcases List.mem_append.mp hm' with hold | hnew
    · exact hpast m' hold
    · rw [List.mem_singleton.mp hnew, hafter]
      exact hone.2
  exact hboth.2

/-! ### A clock with a new origin -/

/-- A provider that knows everyone and answers at once. -/
def promptProvider : Surroundings Unit where
  provider _ e := ((.ok { outcome := .found { record := {} } }, 0), e)
  storeFails e := (false, e)
  history _ e := (.ok {}, e)
  sendFails e := (false, e)
  firstKey keys _ := keys.head?

/-- A quarter of an hour for what was found, and a snapshot store. -/
def storedConfig : Config where
  positiveTtl := 900 * second
  negativeTtl := 120 * second
  maxEntries := 1000
  maxEntries_pos := by decide
  hasStorage := true

/-- A process that has just been started, an hour after the machine. -/
def startedProcess : Process Unit where
  config := storedConfig
  monotonic := 3600 * second
  wall := 1700000000 * second
  surroundings := ()

/-- The machine is restarted while a snapshot still has some of its life. -/
def rebooted : List LookupEvent :=
  [.lookup "W1AW" false, .elapse (800 * second), .restart storedConfig (10 * second),
    .cached "W1AW", .elapse (890 * second), .cached "W1AW"]

/-- Is a hit presented as found that is too old? -/
def expiredHit (w : Process Unit) (r : LookupResult) : Bool :=
  r.cacheHit && r.state == stateFound
    && r.answeredAt.any fun answeredAt =>
        decide (answeredAt + w.config.positiveTtl + second < w.wall)

theorem not_fresh_of_expiredHit {w : Process Unit} {r : LookupResult}
    (h : expiredHit w r = true) : ¬ Fresh w r := by
  simp only [expiredHit, Bool.and_eq_true, beq_iff_eq, Option.any_eq_true, decide_eq_true_eq] at h
  obtain ⟨⟨hhit, hfound⟩, answeredAt, hat, hold⟩ := h
  intro hfresh
  obtain ⟨answeredAt', hat', hage, -⟩ := hfresh hhit
  rw [hat] at hat'
  cases hat'
  have := hage hfound
  omega

/-- The replies of that run, and where it ends. -/
def rebootedRun : List (Reply Unit) × Process Unit :=
  Transition.schedule (reply promptProvider) rebooted startedProcess

/-- Half an hour after the provider's answer it is still presented as fresh. -/
theorem rebooted_presents_expired :
    Transition.Run (ReplyStep promptProvider) (fun _ _ _ => True) startedProcess rebootedRun.1
      rebootedRun.2
    ∧ ∃ m ∈ rebootedRun.1, ∃ r ∈ m.results, ¬ Fresh m.after r := by
  refine ⟨Transition.schedule_run replyStep_of_reply (by decide +kernel), ?_⟩
  have hany : (rebootedRun.1.any fun m => m.results.any (expiredHit m.after)) = true := by
    decide +kernel
  obtain ⟨m, hm, hresults⟩ := List.any_eq_true.mp hany
  obtain ⟨r, hr, hexpired⟩ := List.any_eq_true.mp hresults
  exact ⟨m, hm, r, hr, not_fresh_of_expiredHit hexpired⟩

/-- The process alone is restarted; the clock goes on. -/
def restarted : List LookupEvent :=
  [.lookup "W1AW" false, .elapse (800 * second), .restart storedConfig (4400 * second),
    .cached "W1AW", .elapse (90 * second), .cached "W1AW", .elapse (90 * second), .cached "W1AW"]

/-- The replies of that run, and where it ends. -/
def restartedRun : List (Reply Unit) × Process Unit :=
  Transition.schedule (reply promptProvider) restarted startedProcess

/-- The snapshot is presented until its lifetime is over. -/
theorem cached_answers_are_fresh_restarted :
    restartedRun.1.map (fun m => m.results.map fun r => (r.cacheHit, r.state))
      = [[(false, 2)], [], [], [(true, 2)], [], [(true, 2)], [], [(false, 3)]]
    ∧ ∀ m ∈ restartedRun.1, ∀ r ∈ m.results, Fresh m.after r := by
  have hrun : Transition.Run (ReplyStep promptProvider) Backdated startedProcess restartedRun.1
      restartedRun.2 := Transition.schedule_run replyStep_of_reply (by decide +kernel)
  exact ⟨by decide +kernel, cached_answers_are_fresh rfl rfl hrun⟩

end QsoRipper.Lookup
