/-
QsoRipper/Lookup/Streaming.lean

A stream of updates against the unary call.  Both start from the same process;
the provider, the stores and the logbook give the same answers to both, and the
listener of the stream stays.  How long the provider takes may differ.

Up to the question to the provider the two calls read the same, so they part
only in the clocks: in the latency that is reported, in the dates of the entry
that is kept, and in what the stream has sent meanwhile.  A stale update costs
the stream a query of the history, which changes nothing.
-/
import QsoRipper.Lookup.Freshness
import QsoRipper.Lookup.InFlight

namespace QsoRipper.Lookup

open Interaction

variable {ε : Type}

/-! ### Answers without their times -/

/-- What everything outside answers, whenever it is asked. -/
structure Answers (ε : Type) where
  provider : String → ε → Except ProviderLookupError ProviderLookup × ε
  storeFails : ε → Bool × ε
  history : String → ε → Except StorageError QsoHistoryPage
  firstKey : List String → ε → Option String

/-- The surroundings that give these answers, the provider within some time; the
listener stays. -/
def Answers.within (answers : Answers ε) (times : String → ε → ℕ) : Surroundings ε where
  provider key e := (((answers.provider key e).1, times key e), (answers.provider key e).2)
  storeFails := answers.storeFails
  history key e := (answers.history key e, e)
  sendFails e := (false, e)
  firstKey := answers.firstKey

/-- A result without its times. -/
def LookupResult.untimed (result : LookupResult) : LookupResult :=
  { result with lookupLatencyMs := 0, answeredAt := none }

/-- The result with the history that the logbook has. -/
def withHistory (answers : Answers ε) (config : Config) (callsign : String) (e : ε)
    (result : LookupResult) : LookupResult :=
  if !config.hasStorage then result
  else
    match normalizeCallsignForHistory callsign with
    | none => result
    | some historyKey =>
        match answers.history historyKey e with
        | .ok page =>
            { result with
              priorQsos := page.entries.map qsoToHistoryEntry
              priorQsoTotalCount := page.total }
        | .error _ => result

section Specs

variable {answers : Answers ε} {times times' : String → ε → ℕ} {w w' : Process ε}
  {config : Config} {key callsign : String}

/-- The history is read and nothing else happens. -/
theorem populateHistory_within (result : LookupResult) :
    (populateHistory config callsign result).run (serveLookup (answers.within times)) w
      = (withHistory answers config callsign w.surroundings result, w) := by
  rw [populateHistory, withHistory]
  cases config.hasStorage with
  | false => rfl
  | true =>
      simp only [Bool.not_true, Bool.false_eq_true, if_false]
      cases normalizeCallsignForHistory callsign with
      | none => rfl
      | some historyKey =>
          have hpage : (ask (.listHistory historyKey defaultHistoryLimit)).run
              (serveLookup (answers.within times)) w = (answers.history historyKey w.surroundings, w) :=
            rfl
          dsimp only
          rw [Prog.run_bind, hpage]
          dsimp only
          cases answers.history historyKey w.surroundings <;> rfl

/-- A snapshot is stored unless the store fails. -/
theorem putSnapshot_within (snapshot : LookupSnapshot) :
    serveLookup (answers.within times) (.putSnapshot snapshot) w
      = bif (answers.storeFails w.surroundings).1 then
          (.error (.backend "snapshot store"),
            { w with surroundings := (answers.storeFails w.surroundings).2 })
        else
          (.ok (),
            { w with
              snapshots := w.snapshots.insert (normalizeCallsign snapshot.callsign)
                { snapshot with callsign := normalizeCallsign snapshot.callsign }
              surroundings := (answers.storeFails w.surroundings).2 }) := by
  show (if (answers.storeFails w.surroundings).1 = true then _ else _ :
    Except StorageError Unit × Process ε) = _
  cases (answers.storeFails w.surroundings).1 <;> rfl

/-- The history does not depend on the times of a result. -/
theorem untimed_withHistory {e : ε} {result result' : LookupResult}
    (h : result.untimed = result'.untimed) :
    (withHistory answers config callsign e result).untimed
      = (withHistory answers config callsign e result').untimed := by
  rw [withHistory, withHistory]
  split
  · exact h
  cases normalizeCallsignForHistory callsign with
  | none => exact h
  | some historyKey =>
      dsimp only
      cases answers.history historyKey e with
      | error error => exact h
      | ok page =>
          simp only [LookupResult.untimed, LookupResult.mk.injEq] at h ⊢
          simp only [h, and_self]

theorem withHistory_state (e : ε) (result : LookupResult) :
    (withHistory answers config callsign e result).state = result.state := by
  rw [withHistory]
  split
  · rfl
  cases normalizeCallsignForHistory callsign with
  | none => rfl
  | some historyKey =>
      dsimp only
      cases answers.history historyKey e <;> rfl

theorem withHistory_record (e : ε) (result : LookupResult) :
    (withHistory answers config callsign e result).record = result.record := by
  rw [withHistory]
  split
  · rfl
  cases normalizeCallsignForHistory callsign with
  | none => rfl
  | some historyKey =>
      dsimp only
      cases answers.history historyKey e <;> rfl

/-! ### Before the provider is asked -/

/-- The two calls have read and written the same so far, and the second has
sent these updates. -/
structure Abreast (sent : List LookupResult) (w w' : Process ε) : Prop where
  config : w'.config = w.config
  monotonic : w'.monotonic = w.monotonic
  wall : w'.wall = w.wall
  cache : w'.cache = w.cache
  snapshots : w'.snapshots = w.snapshots
  surroundings : w'.surroundings = w.surroundings
  sent : w'.sent = sent

variable {sent : List LookupResult}

/-- A quiet command is answered alike. -/
theorem Abreast.step {c : LookupCmd} (hc : Quiet c) (h : Abreast sent w w') :
    (serveLookup (answers.within times) c w).1 = (serveLookup (answers.within times') c w').1
      ∧ Abreast sent (serveLookup (answers.within times) c w).2
          (serveLookup (answers.within times') c w').2 := by
  obtain ⟨hconfig, hmonotonic, hwall, hcache, hsnapshots, hsurroundings, hsent⟩ := h
  cases c with
  | enter | join | awaitCall | removeInFlight | send => exact hc.elim
  | readCache key =>
      refine ⟨?_, hconfig, hmonotonic, hwall, hcache, hsnapshots, hsurroundings, hsent⟩
      simp only [serveLookup, hcache]
  | putCache key entry =>
      refine ⟨rfl, hconfig, hmonotonic, hwall, ?_, hsnapshots, hsurroundings, hsent⟩
      simp only [serveLookup, Process.put, hcache, hconfig, hsurroundings, Answers.within]
  | getSnapshot key =>
      simp only [serveLookup, Answers.within, hsurroundings, hsnapshots]
      exact ⟨rfl, hconfig, hmonotonic, hwall, hcache, rfl, rfl, hsent⟩
  | putSnapshot snapshot =>
      rw [putSnapshot_within, putSnapshot_within, hsurroundings, hsnapshots]
      cases (answers.storeFails w.surroundings).1 with
      | true => exact ⟨rfl, hconfig, hmonotonic, hwall, hcache, rfl, rfl, hsent⟩
      | false => exact ⟨rfl, hconfig, hmonotonic, hwall, hcache, rfl, rfl, hsent⟩
  | instantNow =>
      exact ⟨hmonotonic.symm, hconfig, hmonotonic, hwall, hcache, hsnapshots, hsurroundings, hsent⟩
  | utcNow =>
      exact ⟨hwall.symm, hconfig, hmonotonic, hwall, hcache, hsnapshots, hsurroundings, hsent⟩
  | listHistory key limit =>
      refine ⟨?_, hconfig, hmonotonic, hwall, hcache, hsnapshots, hsurroundings, hsent⟩
      simp only [serveLookup, Answers.within, hsurroundings]

variable (answers times times') in
/-- A quiet part. -/
theorem Abreast.run {α : Type} {p : LookupProgram α} (hp : p.Emits Quiet)
    (h : Abreast sent w w') :
    (p.run (serveLookup (answers.within times)) w).1
        = (p.run (serveLookup (answers.within times')) w').1
      ∧ Abreast sent (p.run (serveLookup (answers.within times)) w).2
          (p.run (serveLookup (answers.within times')) w').2 :=
  Prog.run_lockstep (fun _ hc _ _ hst => hst.step hc) hp h

/-! ### Asking the provider -/

/-- The two calls have read and written the same; their clocks may differ. -/
structure Parted (sent : List LookupResult) (w w' : Process ε) : Prop where
  config : w'.config = w.config
  cache : w'.cache = w.cache
  snapshots : w'.snapshots = w.snapshots
  surroundings : w'.surroundings = w.surroundings
  sent : w'.sent = sent

theorem Abreast.parted (h : Abreast sent w w') : Parted sent w w' :=
  ⟨h.config, h.cache, h.snapshots, h.surroundings, h.sent⟩

/-- One request to the provider. -/
theorem runProviderLookupDeduped_within (key : String) :
    (runProviderLookupDeduped key).run (serveLookup (answers.within times)) w
      = (⟨(answers.provider key w.surroundings).1, w.wall + times key w.surroundings⟩,
          { w with
            monotonic := w.monotonic + times key w.surroundings
            wall := w.wall + times key w.surroundings
            asking := ""
            surroundings := (answers.provider key w.surroundings).2 }) := rfl

theorem Parted.send (h : Parted sent w w') (update : LookupResult) :
    Parted (sent ++ [update]) w { w' with sent := w'.sent ++ [update] } where
  config := h.config
  cache := h.cache
  snapshots := h.snapshots
  surroundings := h.surroundings
  sent := by rw [h.sent]

variable (answers times times') in
/-- One request is answered alike. -/
theorem Parted.deduped (key : String) (h : Parted sent w w') :
    ((runProviderLookupDeduped key).run (serveLookup (answers.within times')) w').1.result
        = ((runProviderLookupDeduped key).run (serveLookup (answers.within times)) w).1.result
      ∧ Parted sent ((runProviderLookupDeduped key).run (serveLookup (answers.within times)) w).2
          ((runProviderLookupDeduped key).run (serveLookup (answers.within times')) w').2 := by
  obtain ⟨hconfig, hcache, hsnapshots, hsurroundings, hsent⟩ := h
  rw [runProviderLookupDeduped_within, runProviderLookupDeduped_within, hsurroundings]
  exact ⟨rfl, hconfig, hcache, hsnapshots, rfl, hsent⟩

/-- Whether a second attempt is made depends on the answer alone. -/
theorem fallsBack_congr {exact base : String} {first first' : ProviderAnswer}
    (h : first'.result = first.result) : fallsBack exact base first' = fallsBack exact base first := by
  rw [fallsBack, fallsBack, h]

variable (answers times times') in
/-- The attempt with the base callsign is made by both or by none. -/
theorem Parted.withFallback (exact : String) (base : Option String) (h : Parted sent w w') :
    ((runProviderLookupWithFallback exact base).run
        (serveLookup (answers.within times')) w').1.result
        = ((runProviderLookupWithFallback exact base).run
          (serveLookup (answers.within times)) w).1.result
      ∧ Parted sent
          ((runProviderLookupWithFallback exact base).run (serveLookup (answers.within times)) w).2
          ((runProviderLookupWithFallback exact base).run
            (serveLookup (answers.within times')) w').2 := by
  obtain ⟨hfirst, hparted⟩ : _ ∧ _ := h.deduped answers times times' exact
  rw [runProviderLookupWithFallback]
  simp only [Prog.run_bind]
  generalize (runProviderLookupDeduped exact).run (serveLookup (answers.within times)) w = o
    at hfirst hparted ⊢
  generalize (runProviderLookupDeduped exact).run (serveLookup (answers.within times')) w' = o'
    at hfirst hparted ⊢
  obtain ⟨first, w₁⟩ := o
  obtain ⟨first', w₁'⟩ := o'
  dsimp only at hfirst hparted ⊢
  cases base with
  | none => exact ⟨hfirst, hparted⟩
  | some base =>
      dsimp only
      rw [fallsBack_congr hfirst]
      cases fallsBack exact base first with
      | none => exact ⟨hfirst, hparted⟩
      | some firstExchanges =>
          obtain ⟨hsecond, hparted'⟩ : _ ∧ _ := hparted.deduped answers times times' base
          dsimp only
          simp only [Prog.run_bind]
          refine ⟨?_, hparted'⟩
          show Except.map _ _ = Except.map _ _
          rw [hsecond]

/-! ### What is kept -/

/-- The same entry, or one that each call has made as it ended. -/
def SameEntry (w w' : Process ε) (entry entry' : CacheEntry) : Prop :=
  entry'.lookup = entry.lookup
    ∧ (entry' = entry ∨ entry.cachedAt = w.monotonic ∧ entry'.cachedAt = w'.monotonic)

theorem SameEntry.refl (entry : CacheEntry) : SameEntry w w' entry entry := ⟨rfl, .inl rfl⟩

/-- The same snapshot but for its dates. -/
def SameSnapshot (snapshot snapshot' : LookupSnapshot) : Prop :=
  snapshot'.callsign = snapshot.callsign ∧ snapshot'.result.untimed = snapshot.result.untimed

/-- The two calls leave the same behind. -/
structure Agrees (sent : List LookupResult) (w w' : Process ε) : Prop where
  config : w'.config = w.config
  surroundings : w'.surroundings = w.surroundings
  sent : w'.sent = sent
  cache : ∀ key : String, Option.Rel (SameEntry w w') w.cache[key]? w'.cache[key]?
  snapshots : ∀ key : String, Option.Rel SameSnapshot w.snapshots[key]? w'.snapshots[key]?

theorem rel_refl {α : Type} {r : α → α → Prop} (hr : ∀ a, r a a) (o : Option α) :
    Option.Rel r o o := by
  cases o with
  | none => exact .none
  | some a => exact .some (hr a)

theorem Parted.agrees (h : Parted sent w w') : Agrees sent w w' where
  config := h.config
  surroundings := h.surroundings
  sent := h.sent
  cache key := by
    rw [h.cache]
    exact rel_refl SameEntry.refl _
  snapshots key := by
    rw [h.snapshots]
    exact rel_refl (fun _ => ⟨rfl, rfl⟩) _

/-- The cache in which there is room for the key. -/
def Process.room (sur : Surroundings ε) (w : Process ε) (key : String) :
    Std.ExtTreeMap String CacheEntry :=
  if key ∈ w.cache then w.cache
  else if w.config.maxEntries ≤ w.cache.size then
    match sur.firstKey w.cache.keys w.surroundings with
    | some evictKey => w.cache.erase evictKey
    | none => w.cache
  else w.cache

theorem put_eq_insert (sur : Surroundings ε) (key : String) (entry : CacheEntry) :
    w.put sur key entry = (w.room sur key).insert key entry := by
  rw [Process.put, Process.room]
  split
  · rfl
  split
  · cases sur.firstKey w.cache.keys w.surroundings <;> rfl
  · rfl

/-- Room is made in the same way. -/
theorem Parted.room (h : Parted sent w w') (key : String) :
    w'.room (answers.within times') key = w.room (answers.within times) key := by
  simp only [Process.room, h.cache, h.config, h.surroundings, Answers.within]

/-- Two values put under one key. -/
theorem rel_insert {α : Type} {r : α → α → Prop} (hr : ∀ a, r a a)
    (m : Std.ExtTreeMap String α) (key k : String) {a a' : α} (ha : r a a') :
    Option.Rel r (m.insert key a)[k]? (m.insert key a')[k]? := by
  rw [Std.ExtTreeMap.getElem?_insert, Std.ExtTreeMap.getElem?_insert]
  split
  · exact .some ha
  · exact rel_refl hr _

variable (answers times times') in
/-- An entry that is kept just now. -/
theorem Parted.put (h : Parted sent w w') (key : String) {entry entry' : CacheEntry}
    (hentry : SameEntry w w' entry entry') :
    Agrees sent { w with cache := w.put (answers.within times) key entry }
      { w' with cache := w'.put (answers.within times') key entry' } where
  config := h.config
  surroundings := h.surroundings
  sent := h.sent
  cache k := by
    show Option.Rel _ (w.put (answers.within times) key entry)[k]?
      (w'.put (answers.within times') key entry')[k]?
    rw [put_eq_insert, put_eq_insert, h.room]
    exact rel_insert SameEntry.refl _ _ _ hentry
  snapshots := h.agrees.snapshots

/-- What the snapshot says of the lookup does not depend on its dates. -/
theorem untimed_snapshotResult (lookup : CachedLookup) (answeredAt answeredAt' : ℕ) :
    (snapshotResult lookup answeredAt').untimed = (snapshotResult lookup answeredAt).untimed := by
  cases lookup <;> rfl

/-- A snapshot is stored by both or by none. -/
theorem Agrees.putSnapshot (h : Agrees sent w w') {snapshot snapshot' : LookupSnapshot}
    (hsnapshot : SameSnapshot snapshot snapshot') :
    Agrees sent (serveLookup (answers.within times) (.putSnapshot snapshot) w).2
      (serveLookup (answers.within times') (.putSnapshot snapshot') w').2 := by
  obtain ⟨hconfig, hsurroundings, hsent, hcache, hsnapshots⟩ := h
  rw [putSnapshot_within, putSnapshot_within, hsurroundings]
  cases (answers.storeFails w.surroundings).1 with
  | true => exact ⟨hconfig, rfl, hsent, hcache, hsnapshots⟩
  | false =>
      refine ⟨hconfig, rfl, hsent, hcache, fun k => ?_⟩
      obtain ⟨hcallsign, hresult⟩ := hsnapshot
      show Option.Rel _ (w.snapshots.insert _ _)[k]? (w'.snapshots.insert _ _)[k]?
      rw [hcallsign, Std.ExtTreeMap.getElem?_insert, Std.ExtTreeMap.getElem?_insert]
      split
      · exact .some ⟨rfl, hresult⟩
      · exact hsnapshots k

variable (answers times times') in
/-- **Storing an entry** that is made just now. -/
theorem Parted.storeCacheEntry (h : Parted sent w w') (key : String) {entry entry' : CacheEntry}
    (hentry : SameEntry w w' entry entry') :
    Agrees sent
      ((storeCacheEntry config key entry).run (serveLookup (answers.within times)) w).2
      ((storeCacheEntry config key entry').run (serveLookup (answers.within times')) w').2 := by
  have hput := h.put answers times times' key hentry
  rw [Lookup.storeCacheEntry, Lookup.storeCacheEntry]
  cases hstorage : config.hasStorage with
  | false => exact hput
  | true =>
      refine hput.putSnapshot ⟨rfl, ?_⟩
      show (snapshotResult entry'.lookup _).untimed = (snapshotResult entry.lookup _).untimed
      rw [hentry.1]
      exact untimed_snapshotResult _ _ _

/-! ### The result -/

/-- The entry that an answer makes. -/
theorem sameEntry_answerEntry (outcome : ProviderLookupOutcome) (parsed : ParsedCallsign)
    (answeredAt answeredAt' : ℕ) :
    SameEntry w w' (answerEntry outcome parsed w.monotonic answeredAt)
      (answerEntry outcome parsed w'.monotonic answeredAt') :=
  ⟨rfl, .inr ⟨rfl, rfl⟩⟩

/-- What an entry says does not depend on its dates. -/
theorem untimed_cacheEntryToResult {entry entry' : CacheEntry} (key : String)
    (state : Option ℤ) (hit : Bool) (h : entry'.lookup = entry.lookup) :
    (cacheEntryToResult entry' key state hit).untimed
      = (cacheEntryToResult entry key state hit).untimed := by
  rw [cacheEntryToResult, cacheEntryToResult, h]
  cases entry.lookup <;> rfl

/-- The state of a last update. -/
def Terminal (result : LookupResult) : Prop :=
  result.state = stateFound ∨ result.state = stateNotFound ∨ result.state = stateError

/-- What an entry says is a last update. -/
theorem terminal_cacheEntryToResult (entry : CacheEntry) (key : String) (hit : Bool) :
    Terminal (cacheEntryToResult entry key none hit) := by
  rw [Terminal, cacheEntryToResult]
  cases entry.lookup with
  | found record => exact .inl rfl
  | notFound => exact .inr (.inl rfl)

theorem Terminal.withHistory {result : LookupResult} (h : Terminal result) (e : ε) :
    Terminal (withHistory answers config callsign e result) := by
  rw [Terminal, withHistory_state]
  exact h

variable (config answers times times') in
/-- **The provider's answer** makes the same result, and the same is kept. -/
theorem Parted.providerResultToLookup {answer answer' : ProviderAnswer} (key : String)
    (latency latency' : ℕ) (parsed : ParsedCallsign) (h : Parted sent w w')
    (hanswer : answer'.result = answer.result) :
    ((providerResultToLookup config answer' key latency' parsed).run
        (serveLookup (answers.within times')) w').1.untimed
        = ((providerResultToLookup config answer key latency parsed).run
          (serveLookup (answers.within times)) w).1.untimed
      ∧ Terminal ((providerResultToLookup config answer' key latency' parsed).run
          (serveLookup (answers.within times')) w').1
      ∧ Agrees sent
          ((providerResultToLookup config answer key latency parsed).run
            (serveLookup (answers.within times)) w).2
          ((providerResultToLookup config answer' key latency' parsed).run
            (serveLookup (answers.within times')) w').2 := by
  rw [Lookup.providerResultToLookup, Lookup.providerResultToLookup, hanswer]
  cases answer.result with
  | error error => exact ⟨rfl, .inr (.inr rfl), h.agrees⟩
  | ok lookup =>
      have hnow : (ask .instantNow).run (serveLookup (answers.within times)) w
          = (w.monotonic, w) := rfl
      have hnow' : (ask .instantNow).run (serveLookup (answers.within times')) w'
          = (w'.monotonic, w') := rfl
      have hentry : SameEntry w w' _ _ := sameEntry_answerEntry lookup.outcome parsed
        answer.answeredAt answer'.answeredAt
      dsimp only
      simp only [Prog.run_bind, hnow, hnow']
      refine ⟨?_, terminal_cacheEntryToResult _ key false,
        h.storeCacheEntry answers times times' key hentry⟩
      have hsame := untimed_cacheEntryToResult key none false hentry.1
      simp only [LookupResult.untimed, LookupResult.mk.injEq] at hsame
      simp only [Prog.run_pure, LookupResult.untimed, hsame]

variable (config answers times times' callsign) in
/-- **Asking the provider** ends alike in both calls. -/
theorem Parted.asked (key : String) (h : Parted sent w w') :
    ((askProvider config callsign key).run (serveLookup (answers.within times')) w').1.untimed
        = ((askProvider config callsign key).run
          (serveLookup (answers.within times)) w).1.untimed
      ∧ Terminal ((askProvider config callsign key).run
          (serveLookup (answers.within times')) w').1
      ∧ Agrees sent
          ((askProvider config callsign key).run (serveLookup (answers.within times)) w).2
          ((askProvider config callsign key).run
            (serveLookup (answers.within times')) w').2 := by
  have hstart : (ask .instantNow).run (serveLookup (answers.within times)) w
      = (w.monotonic, w) := rfl
  have hstart' : (ask .instantNow).run (serveLookup (answers.within times')) w'
      = (w'.monotonic, w') := rfl
  obtain ⟨hanswer, hparted⟩ := h.withFallback answers times times' key (parseCallsign key).base
  rw [Lookup.askProvider]
  simp only [Prog.run_bind, hstart, hstart']
  generalize (runProviderLookupWithFallback key (parseCallsign key).base).run
    (serveLookup (answers.within times)) w = o at hanswer hparted ⊢
  generalize (runProviderLookupWithFallback key (parseCallsign key).base).run
    (serveLookup (answers.within times')) w' = o' at hanswer hparted ⊢
  obtain ⟨answer, w₁⟩ := o
  obtain ⟨answer', w₁'⟩ := o'
  have hend : (ask .instantNow).run (serveLookup (answers.within times)) w₁
      = (w₁.monotonic, w₁) := rfl
  have hend' : (ask .instantNow).run (serveLookup (answers.within times')) w₁'
      = (w₁'.monotonic, w₁') := rfl
  dsimp only at hanswer hparted ⊢
  simp only [hend, hend', populateHistory_within]
  obtain ⟨huntimed, hterminal, hagrees⟩ := hparted.providerResultToLookup answers times times'
    config key (durationToMillisU32 (w₁.monotonic - w.monotonic))
    (durationToMillisU32 (w₁'.monotonic - w'.monotonic)) (parseCallsign key) hanswer
  refine ⟨?_, hterminal.withHistory _, hagrees⟩
  rw [hagrees.surroundings]
  exact untimed_withHistory huntimed

variable (config answers times times' callsign) in
/-- The last update of a stream is what the unary call returns. -/
theorem Parted.streamed (key : String) (h : Parted sent w w') :
    ∃ terminal, Agrees (sent ++ [terminal])
          ((askProvider config callsign key).run (serveLookup (answers.within times)) w).2
          ((streamFromProvider config callsign key).run
            (serveLookup (answers.within times')) w').2
      ∧ terminal.untimed
        = ((askProvider config callsign key).run
          (serveLookup (answers.within times)) w).1.untimed
      ∧ Terminal terminal := by
  obtain ⟨huntimed, hterminal, hagrees⟩ := h.asked answers times times' config callsign key
  rw [Lookup.streamFromProvider]
  simp only [Prog.run_bind]
  generalize (askProvider config callsign key).run (serveLookup (answers.within times)) w = o
    at huntimed hagrees ⊢
  generalize (askProvider config callsign key).run (serveLookup (answers.within times')) w' = o'
    at huntimed hterminal hagrees ⊢
  refine ⟨_, ⟨hagrees.config, hagrees.surroundings, ?_, hagrees.cache, hagrees.snapshots⟩,
    huntimed, hterminal⟩
  show _ ++ _ = _
  rw [hagrees.sent]

/-! ### A stale entry -/

/-- Nothing quiet takes time. -/
theorem quiet_run {α : Type} {sur : Surroundings ε} {p : LookupProgram α} (hp : p.Emits Quiet) :
    (p.run (serveLookup sur) w).2.monotonic = w.monotonic := by
  induction p generalizing w with
  | pure a => rfl
  | cmd c k ih =>
      have hfirst : (serveLookup sur c w).2.monotonic = w.monotonic := by
        cases c with
        | enter | join | awaitCall | removeInFlight | send => exact hp.1.elim
        | putSnapshot snapshot =>
            simp only [serveLookup]
            split <;> rfl
        | _ => rfl
      exact (ih _ (hp.2 _)).trans hfirst

/-- A snapshot that is taken over is dated within its lifetime. -/
theorem promoted_age (snapshot : LookupSnapshot) (lookup : CachedLookup) (nowSecs : ℤ) (now : ℕ) :
    now - (promoted config snapshot lookup nowSecs now).cachedAt ≤ ttlFor config lookup := by
  rw [promoted]
  dsimp only
  split
  · omega
  · omega

/-- What comes from the snapshots is fresh. -/
theorem loadSnapshotEntry_age {sur : Surroundings ε} {entry : CacheEntry}
    (h : ((loadSnapshotEntry config key).run (serveLookup sur) w).1 = some entry) :
    w.monotonic - entry.cachedAt ≤ ttlFor config entry.lookup := by
  rw [loadSnapshotEntry] at h
  split at h
  · cases h
  rw [Prog.run_bind] at h
  have hclock : ((ask (.getSnapshot key)).run (serveLookup sur) w).2.monotonic = w.monotonic := rfl
  generalize (ask (.getSnapshot key)).run (serveLookup sur) w = o at h hclock
  obtain ⟨answer, w₁⟩ := o
  dsimp only at h hclock
  rcases answer with error | _ | snapshot
  · cases h
  · cases h
  have hnow : (ask .utcNow).run (serveLookup sur) w₁ = (w₁.wall, w₁) := rfl
  dsimp only at h
  rw [promoteSnapshot, Prog.run_bind, hnow] at h
  dsimp only at h
  split at h
  · cases h
  cases hlookup : snapshotLookup snapshot with
  | none =>
      rw [hlookup] at h
      cases h
  | some lookup =>
      rw [hlookup] at h
      cases h
      rw [← hclock]
      exact promoted_age snapshot lookup _ _

/-- A call only starts from an expired entry if it is in the cache. -/
theorem cachedEntry_expired {sur : Surroundings ε} {skipCache : Bool} {entry : CacheEntry}
    (h : ((cachedEntry config skipCache key).run (serveLookup sur) w).1 = some entry)
    (hexpired : ¬ w.monotonic - entry.cachedAt ≤ ttlFor config entry.lookup) :
    skipCache = false ∧ w.cache[key]? = some entry := by
  rw [cachedEntry] at h
  cases skipCache with
  | true => cases h
  | false =>
      rw [if_neg Bool.false_ne_true, getCacheEntry, Prog.run_bind] at h
      have hread : (ask (.readCache key)).run (serveLookup sur) w = (w.cache[key]?, w) := rfl
      rw [hread] at h
      cases hcache : w.cache[key]? with
      | none =>
          rw [hcache] at h
          exact absurd (loadSnapshotEntry_age h) hexpired
      | some cached =>
          rw [hcache] at h
          cases h
          exact ⟨rfl, rfl⟩

/-! ### The two calls -/

/-- The update shows an expired record that the cache holds. -/
structure ShowsExpired (w : Process ε) (key : String) (skipCache : Bool) (update : LookupResult) :
    Prop where
  state : update.state = stateStale
  mayRead : skipCache = false
  expired : ∃ entry record, w.cache[key]? = some entry ∧ entry.lookup = .found record
    ∧ w.config.positiveTtl < w.monotonic - entry.cachedAt ∧ update.record = some record

/-- What a stream does, beside the unary call. -/
structure StreamAgrees (w : Process ε) (key : String) (skipCache : Bool)
    (unary : LookupResult × Process ε) (stream : Process ε) (stale : Option LookupResult)
    (terminal : LookupResult) : Prop where
  sent : stream.sent = loadingResult key :: (stale.toList ++ [terminal])
  expired : ∀ update ∈ stale, ShowsExpired w key skipCache update
  last : Terminal terminal
  result : terminal.untimed = unary.1.untimed
  cache : ∀ k : String, Option.Rel (SameEntry unary.2 stream) unary.2.cache[k]? stream.cache[k]?
  snapshots : ∀ k : String, Option.Rel SameSnapshot unary.2.snapshots[k]? stream.snapshots[k]?

/-- A stream that ends with what the unary call returns. -/
theorem StreamAgrees.of_agrees {skipCache : Bool} {unary : LookupResult × Process ε}
    {stream : Process ε} {terminal : LookupResult} {stale : Option LookupResult}
    (hagrees : Agrees (loadingResult key :: (stale.toList ++ [terminal])) unary.2 stream)
    (hstale : ∀ update ∈ stale, ShowsExpired w key skipCache update)
    (hterminal : Terminal terminal) (hresult : terminal.untimed = unary.1.untimed) :
    StreamAgrees w key skipCache unary stream stale terminal :=
  ⟨hagrees.sent, hstale, hterminal, hresult, hagrees.cache, hagrees.snapshots⟩

/-- The stale update of an expired record. -/
def staleResult (answers : Answers ε) (config : Config) (callsign : String) (e : ε)
    (entry : CacheEntry) : LookupResult :=
  withHistory answers config callsign e
    (cacheEntryToResult entry (normalizeCallsign callsign) (some stateStale) true)

/-- An expired record is shown before the provider is asked. -/
theorem streamStale_run_within {entry : CacheEntry} {record : AnnotatedRecord}
    (h : entry.lookup = .found record) :
    (streamStale config callsign (normalizeCallsign callsign) entry).run
        (serveLookup (answers.within times)) w
      = (streamFromProvider config callsign (normalizeCallsign callsign)).run
          (serveLookup (answers.within times))
          { w with sent := w.sent ++ [staleResult answers config callsign w.surroundings entry] } := by
  rw [streamStale, h]
  dsimp only
  rw [Prog.run_bind, populateHistory_within]
  rfl

/-- The stale update shows the record. -/
theorem showsExpired_staleResult {skipCache : Bool} {entry : CacheEntry}
    {record : AnnotatedRecord} {e : ε} (hskip : skipCache = false)
    (hcache : w.cache[normalizeCallsign callsign]? = some entry)
    (hlookup : entry.lookup = .found record)
    (hexpired : ¬ w.monotonic - entry.cachedAt ≤ ttlFor w.config entry.lookup) :
    ShowsExpired w (normalizeCallsign callsign) skipCache
      (staleResult answers w.config callsign e entry) where
  state := by
    rw [staleResult, withHistory_state, cacheEntryToResult, hlookup]
    rfl
  mayRead := hskip
  expired := by
    rw [hlookup] at hexpired
    refine ⟨entry, record, hcache, hlookup, lt_of_not_ge hexpired, ?_⟩
    rw [staleResult, withHistory_record, cacheEntryToResult, hlookup]

/-- A unary call, from what it finds in the cache. -/
theorem lookup_run_within (skipCache : Bool) :
    (lookup config callsign skipCache).run (serveLookup (answers.within times)) w
      = (match (cachedEntry config skipCache (normalizeCallsign callsign)).run
          (serveLookup (answers.within times)) w with
        | (none, w₁) =>
            (askProvider config callsign (normalizeCallsign callsign)).run
              (serveLookup (answers.within times)) w₁
        | (some entry, w₁) =>
            if w₁.monotonic - entry.cachedAt ≤ ttlFor config entry.lookup then
              (withHistory answers config callsign w₁.surroundings
                (cacheEntryToResult entry (normalizeCallsign callsign) none true), w₁)
            else
              (askProvider config callsign (normalizeCallsign callsign)).run
                (serveLookup (answers.within times)) w₁) := by
  have hstart : (ask .enter).run (serveLookup (answers.within times)) w = ((), w) := rfl
  rw [lookup]
  simp only [Prog.run_bind, hstart]
  generalize (cachedEntry config skipCache (normalizeCallsign callsign)).run
    (serveLookup (answers.within times)) w = o
  obtain ⟨entry, w₁⟩ := o
  cases entry with
  | none => rfl
  | some entry =>
      have htest : (isFresh config entry).run (serveLookup (answers.within times)) w₁
          = (decide (w₁.monotonic - entry.cachedAt ≤ ttlFor config entry.lookup), w₁) := rfl
      dsimp only
      simp only [Prog.run_bind, htest, decide_eq_true_eq]
      split
      · exact populateHistory_within _
      · rfl

/-- The updates after the loading one, from what the stream finds in the
cache. -/
theorem streamLookupInto_run_within (skipCache : Bool) (w : Process ε) :
    ((streamLookupInto config callsign skipCache).run (serveLookup (answers.within times))
        { w with sent := [] }).2
      = (match (cachedEntry config skipCache (normalizeCallsign callsign)).run
          (serveLookup (answers.within times))
          { w with sent := [loadingResult (normalizeCallsign callsign)] } with
        | (none, w₁) =>
            ((streamFromProvider config callsign (normalizeCallsign callsign)).run
              (serveLookup (answers.within times)) w₁).2
        | (some entry, w₁) =>
            if w₁.monotonic - entry.cachedAt ≤ ttlFor config entry.lookup then
              { w₁ with
                sent := w₁.sent ++ [withHistory answers config callsign w₁.surroundings
                  (cacheEntryToResult entry (normalizeCallsign callsign) none true)] }
            else
              ((streamStale config callsign (normalizeCallsign callsign) entry).run
                (serveLookup (answers.within times)) w₁).2) := by
  have hstart : (ask .enter).run (serveLookup (answers.within times)) { w with sent := [] }
      = ((), { w with sent := [] }) := rfl
  have hsend : (ask (.send (loadingResult (normalizeCallsign callsign)))).run
      (serveLookup (answers.within times)) { w with sent := [] }
      = (false, { w with sent := [loadingResult (normalizeCallsign callsign)] }) := rfl
  rw [streamLookupInto]
  simp only [Prog.run_bind, hstart, hsend, Bool.false_eq_true, if_false]
  generalize (cachedEntry config skipCache (normalizeCallsign callsign)).run
    (serveLookup (answers.within times)) _ = o
  obtain ⟨entry, w₁⟩ := o
  cases entry with
  | none => rfl
  | some entry =>
      have htest : (isFresh config entry).run (serveLookup (answers.within times)) w₁
          = (decide (w₁.monotonic - entry.cachedAt ≤ ttlFor config entry.lookup), w₁) := rfl
      dsimp only
      simp only [Prog.run_bind, htest, decide_eq_true_eq]
      split
      · rw [Prog.run_bind, populateHistory_within]
        rfl
      · rfl

variable (answers times times' w) in
/-- **A stream and a unary call agree.**  The stream sends the loading update,
at most one stale one, and then what the unary call returns from the same
state; both leave the same in the cache. -/
theorem streamLookupInto_agrees (callsign : String) (skipCache : Bool) :
    ∃ stale terminal, StreamAgrees w (normalizeCallsign callsign) skipCache
      ((lookup w.config callsign skipCache).run (serveLookup (answers.within times)) w)
      ((streamLookupInto w.config callsign skipCache).run (serveLookup (answers.within times'))
        { w with sent := [] }).2 stale terminal := by
  have hloading : Abreast [loadingResult (normalizeCallsign callsign)] w
      { w with sent := [loadingResult (normalizeCallsign callsign)] } :=
    ⟨rfl, rfl, rfl, rfl, rfl, rfl, rfl⟩
  have hquiet : (cachedEntry w.config skipCache (normalizeCallsign callsign)).Emits Quiet :=
    cachedEntry_emits skipCache _
  obtain ⟨hsame, hread⟩ := hloading.run answers times times' hquiet
  have hexpired := @cachedEntry_expired ε w w.config (normalizeCallsign callsign)
    (answers.within times) skipCache
  have hclock := @quiet_run ε w _ (answers.within times) _ hquiet
  rw [lookup_run_within, streamLookupInto_run_within]
  generalize (cachedEntry w.config skipCache (normalizeCallsign callsign)).run
    (serveLookup (answers.within times)) w = o at hsame hread hexpired hclock ⊢
  generalize (cachedEntry w.config skipCache (normalizeCallsign callsign)).run
    (serveLookup (answers.within times')) _ = o' at hsame hread ⊢
  obtain ⟨entry, w₁⟩ := o
  obtain ⟨entry', w₁'⟩ := o'
  dsimp only at hsame hread hexpired hclock ⊢
  subst hsame
  cases entry with
  | none =>
      obtain ⟨terminal, hagrees, hresult, hlast⟩ := hread.parted.streamed answers times times'
        w.config callsign (normalizeCallsign callsign)
      exact ⟨none, terminal, .of_agrees hagrees (fun _ h => nomatch h) hlast hresult⟩
  | some entry =>
      dsimp only
      by_cases hfresh : w₁.monotonic - entry.cachedAt ≤ ttlFor w.config entry.lookup
      · -- a fresh entry is the last update
        rw [if_pos hfresh, if_pos (by rw [hread.monotonic]; exact hfresh)]
        have hlast : Terminal (cacheEntryToResult entry (normalizeCallsign callsign) none true) :=
          terminal_cacheEntryToResult entry _ true
        refine ⟨none, withHistory answers w.config callsign w₁'.surroundings
          (cacheEntryToResult entry (normalizeCallsign callsign) none true),
          .of_agrees (hread.parted.send _).agrees (fun _ h => nomatch h)
            (hlast.withHistory _) ?_⟩
        rw [hread.surroundings]
      · rw [if_neg hfresh, if_neg (by rw [hread.monotonic]; exact hfresh)]
        rw [hclock] at hfresh
        obtain ⟨hskip, hcache⟩ := hexpired rfl hfresh
        cases hlookup : entry.lookup with
        | notFound =>
            rw [streamStale, hlookup]
            obtain ⟨terminal, hagrees, hresult, hlast⟩ := hread.parted.streamed answers times
              times' w.config callsign (normalizeCallsign callsign)
            exact ⟨none, terminal, .of_agrees hagrees (fun _ h => nomatch h) hlast hresult⟩
        | found record =>
            rw [streamStale_run_within hlookup]
            obtain ⟨terminal, hagrees, hresult, hlast⟩ :=
              (hread.parted.send (staleResult answers w.config callsign w₁'.surroundings
                entry)).streamed answers times times' w.config callsign (normalizeCallsign callsign)
            refine ⟨some _, terminal, .of_agrees hagrees (fun update hupdate => ?_) hlast hresult⟩
            cases hupdate
            exact showsExpired_staleResult hskip hcache hlookup hfresh

end Specs

end QsoRipper.Lookup
