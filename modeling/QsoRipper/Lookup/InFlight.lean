/-
QsoRipper/Lookup/InFlight.lean

Sharing requests in flight.  Any number of calls run at once over the map of
shared provider futures; a call may be dropped wherever it waits, and the
provider answers in any order.

The call that has put a future into the map removes it again, after it has
waited for it.  A call dropped in between leaves the future there for ever, and
a call that starts between the answer and the removal joins a future that has
its answer already.  In a run without these every call gets an answer that was
given after it started, and the map is empty when no call runs.
-/
import QsoRipper.Lib.Tasks
import QsoRipper.Lookup.Coordinator

namespace QsoRipper.Lookup

open Interaction

/-! ### The shared state -/

/-- The map of futures, the provider calls behind them, the cache, and what
everything else answers for the time being. -/
structure Shared where
  inFlight : String → Option ℕ := fun _ => none
  nextCall : ℕ := 0
  answered : ℕ → Option ProviderAnswer := fun _ => none
  cache : String → Option CacheEntry := fun _ => none
  others : (c : LookupCmd) → c.Answer

/-- A command; a call that waits for a future waits until the provider has
answered. -/
def effect : (c : LookupCmd) → Shared → Option (c.Answer × Shared)
  | .join key, s =>
      match s.inFlight key with
      | some call => some ((call, false), s)
      | none =>
          some ((s.nextCall, true),
            { s with
              inFlight := Function.update s.inFlight key (some s.nextCall)
              nextCall := s.nextCall + 1 })
  | .awaitCall call, s => (s.answered call).map fun answer => (answer, s)
  | .removeInFlight key, s => some ((), { s with inFlight := Function.update s.inFlight key none })
  | .readCache key, s => some (s.cache key, s)
  | .putCache key entry, s =>
      some ((), { s with cache := Function.update s.cache key (some entry) })
  | c, s => some (s.others c, s)

/-- What happens outside. -/
inductive Outside where
  /-- The provider answers a call. -/
  | answer (call : ℕ) (answer : ProviderAnswer)
  /-- The cache loses an entry. -/
  | evict (key : String)
  /-- Clocks, stores and listeners change. -/
  | change (others : (c : LookupCmd) → c.Answer)

/-- What it does to the state; a call is answered once. -/
def outside : Outside → Shared → Option Shared
  | .answer call answer, s =>
      if call < s.nextCall ∧ (s.answered call).isNone then
        some { s with answered := Function.update s.answered call (some answer) }
      else none
  | .evict key, s => some { s with cache := Function.update s.cache key none }
  | .change others, s => some { s with others }

/-! ### Calls -/

/-- A call of the coordinator. -/
inductive Request where
  | lookup (callsign : String) (skipCache : Bool)
  | stream (callsign : String) (skipCache : Bool)
  | cached (callsign : String)

/-- The callsign of a request. -/
def Request.callsign : Request → String
  | lookup callsign _ | stream callsign _ | cached callsign => callsign

/-- Its program. -/
def Request.program (config : Config) : Request → LookupProgram Unit
  | lookup callsign skipCache => do
      let _ ← Lookup.lookup config callsign skipCache
  | stream callsign skipCache => streamLookupInto config callsign skipCache
  | cached callsign => do
      let _ ← getCachedCallsign config callsign

/-- The keys it may join: the callsign, and what a slash form falls back to. -/
def Request.keys (request : Request) : List String :=
  let key := normalizeCallsign request.callsign
  key :: (parseCallsign key).base.toList

/-- The calls of a run. -/
abbrev Coordinating : Type := Tasks ℕ LookupCmd.Answer Shared

/-- What happens in a run. -/
abbrev LookupMove : Type := TaskMove ℕ LookupCmd.Answer Outside

/-- No call has started. -/
def coordinating (config : Config) (requests : ℕ → Request) (s : Shared) : Coordinating where
  task i := (requests i).program config
  state := s

/-! ### What a call holds -/

/-- Has the call started, for which future does it wait, and which one has it
put into the map? -/
structure Stage where
  begun : Bool := false
  waiting : Option ℕ := none
  holding : Option (String × ℕ) := none
  deriving DecidableEq

/-- What an answer adds. -/
def Stage.next (t : Stage) : (c : LookupCmd) → c.Answer → Stage
  | .enter, _ => { t with begun := true }
  | .join key, (call, owner) =>
      { t with waiting := some call, holding := if owner then some (key, call) else none }
  | .awaitCall _, _ => { t with waiting := none }
  | .removeInFlight _, _ => { t with holding := none }
  | _, _ => t

/-- What a call may do. -/
def Stage.allows (keys : List String) (t : Stage) : LookupCmd → Prop
  | .enter => t.begun = false
  | .join key => t = { begun := true } ∧ key ∈ keys
  | .awaitCall call => t.waiting = some call
  | .removeInFlight key => t.waiting = none ∧ ∃ call, t.holding = some (key, call)
  | _ => True

/-- The contract of a call. -/
def requestContract (request : Request) : Contract LookupCmd LookupCmd.Answer Stage where
  allowed := Stage.allows request.keys
  next := Stage.next

/-- A call ends with nothing left in the map. -/
def HoldsNothing (t : Stage) (_ : Unit) : Prop := t.holding = none

/-- A command that concerns no future. -/
def Neutral : LookupCmd → Prop
  | .enter | .join _ | .awaitCall _ | .removeInFlight _ => False
  | _ => True

/-- A command that concerns no future and sends nothing. -/
def Quiet : LookupCmd → Prop
  | .enter | .join _ | .awaitCall _ | .removeInFlight _ | .send _ => False
  | _ => True

theorem Quiet.neutral {c : LookupCmd} (hc : Quiet c) : Neutral c := by
  cases c <;> first | exact hc.elim | exact trivial

section Obeys

variable {config : Config} {request : Request} {α β : Type}

theorem Neutral.allowed {c : LookupCmd} {t : Stage} (hc : Neutral c) :
    (requestContract request).allowed t c ∧ ∀ r, (requestContract request).next t c r = t := by
  cases c <;> first | exact hc.elim | exact ⟨trivial, fun _ => rfl⟩

/-- A part that concerns no future. -/
theorem obeys_neutral_bind {Q : Stage → β → Prop} {t : Stage} {p : LookupProgram α}
    {f : α → LookupProgram β} (hp : p.Emits Neutral)
    (hf : ∀ a, (f a).Obeys (requestContract request) Q t) :
    (p >>= f).Obeys (requestContract request) Q t :=
  Prog.Emits.obeys_bind (hp.mono fun _ hc => hc.allowed) hf

theorem storeCacheEntry_emits (key : String) (entry : CacheEntry) :
    (storeCacheEntry config key entry).Emits Quiet := by
  rw [storeCacheEntry]
  refine ⟨trivial, fun _ => ?_⟩
  cases config.hasStorage with
  | true => exact ⟨trivial, fun _ => ⟨trivial, fun _ => trivial⟩⟩
  | false => trivial

theorem promoteSnapshot_emits (key : String) (snapshot : LookupSnapshot) :
    (promoteSnapshot config key snapshot).Emits Quiet := by
  rw [promoteSnapshot]
  refine ⟨trivial, fun nowUtc => ?_⟩
  show Prog.Emits Quiet (ite (isExpired snapshot (wallSeconds nowUtc) = true) _ _)
  split
  · trivial
  cases snapshotLookup snapshot with
  | none => trivial
  | some lookup => exact ⟨trivial, fun _ => ⟨trivial, fun _ => ⟨trivial, fun _ => trivial⟩⟩⟩

theorem loadSnapshotEntry_emits (key : String) :
    (loadSnapshotEntry config key).Emits Quiet := by
  rw [loadSnapshotEntry]
  split
  · trivial
  refine ⟨trivial, fun answer => ?_⟩
  rcases answer with error | _ | snapshot
  · trivial
  · trivial
  · exact promoteSnapshot_emits key snapshot

theorem getCacheEntry_emits (key : String) : (getCacheEntry config key).Emits Quiet := by
  rw [getCacheEntry]
  refine ⟨trivial, fun answer => ?_⟩
  cases answer with
  | none => exact loadSnapshotEntry_emits key
  | some entry => trivial

theorem cachedEntry_emits (skipCache : Bool) (key : String) :
    (cachedEntry config skipCache key).Emits Quiet := by
  rw [cachedEntry]
  split
  · trivial
  · exact getCacheEntry_emits key

theorem providerResultToLookup_emits (answer : ProviderAnswer) (key : String) (latency : ℕ)
    (parsed : ParsedCallsign) :
    (providerResultToLookup config answer key latency parsed).Emits Quiet := by
  rw [providerResultToLookup]
  cases answer.result with
  | error error => trivial
  | ok lookup =>
      refine ⟨trivial, fun now => ?_⟩
      show Prog.Emits Quiet (storeCacheEntry config key _ >>= fun _ => pure _)
      exact (storeCacheEntry_emits _ _).bind fun _ => trivial

/-- A call that has started and holds nothing. -/
def idle : Stage := { begun := true }

/-- **One request** ends as it began. -/
theorem obeys_deduped_bind {Q : Stage → β → Prop} {key : String}
    {f : ProviderAnswer → LookupProgram β} (hkey : key ∈ request.keys)
    (hf : ∀ answer, (f answer).Obeys (requestContract request) Q idle) :
    (runProviderLookupDeduped key >>= f).Obeys (requestContract request) Q idle := by
  rw [runProviderLookupDeduped]
  simp only [bind_assoc]
  refine ⟨⟨rfl, hkey⟩, fun joined => ?_⟩
  obtain ⟨call, owner⟩ := joined
  refine ⟨rfl, fun answer => ?_⟩
  cases owner with
  | true => exact ⟨⟨rfl, call, rfl⟩, fun _ => hf answer⟩
  | false => exact hf answer

theorem obeys_withFallback_bind {Q : Stage → β → Prop} {key : String} {base : Option String}
    {f : ProviderAnswer → LookupProgram β} (hkey : key ∈ request.keys)
    (hbase : ∀ b, base = some b → b ∈ request.keys)
    (hf : ∀ answer, (f answer).Obeys (requestContract request) Q idle) :
    (runProviderLookupWithFallback key base >>= f).Obeys (requestContract request) Q idle := by
  rw [runProviderLookupWithFallback]
  simp only [bind_assoc]
  apply obeys_deduped_bind hkey
  intro first
  cases base with
  | none => exact hf first
  | some base =>
      dsimp only
      cases fallsBack key base first with
      | none => exact hf first
      | some firstExchanges =>
          dsimp only
          simp only [bind_assoc]
          apply obeys_deduped_bind (hbase base rfl)
          exact fun second => hf _

/-- The part of a call that asks the provider. -/
theorem obeys_askProvider_bind {Q : Stage → β → Prop} {f : LookupResult → LookupProgram β}
    (hf : ∀ result, (f result).Obeys (requestContract request) Q idle) :
    (askProvider config request.callsign (normalizeCallsign request.callsign) >>= f).Obeys
      (requestContract request) Q idle := by
  rw [askProvider]
  simp only [bind_assoc]
  refine ⟨trivial, fun startedAt => ?_⟩
  apply obeys_withFallback_bind
  · exact List.mem_cons_self
  · intro b hb
    apply List.mem_cons_of_mem
    rw [hb]
    exact List.mem_singleton_self b
  intro answer
  refine ⟨trivial, fun now => ?_⟩
  apply obeys_neutral_bind ((providerResultToLookup_emits _ _ _ _).mono fun _ hc => hc.neutral)
  intro result
  exact obeys_neutral_bind (populateHistory_emits (fun _ _ => trivial) _ _) hf

theorem streamFromProvider_obeys :
    (streamFromProvider config request.callsign (normalizeCallsign request.callsign)).Obeys
      (requestContract request) HoldsNothing idle := by
  rw [streamFromProvider]
  apply obeys_askProvider_bind
  exact fun result => ⟨trivial, fun _ => rfl⟩

theorem streamStale_obeys (entry : CacheEntry) :
    (streamStale config request.callsign (normalizeCallsign request.callsign) entry).Obeys
      (requestContract request) HoldsNothing idle := by
  rw [streamStale]
  cases entry.lookup with
  | notFound => exact streamFromProvider_obeys
  | found record =>
      apply obeys_neutral_bind (populateHistory_emits (fun _ _ => trivial) _ _)
      intro stale
      refine ⟨trivial, fun failed => ?_⟩
      cases failed with
      | true => exact rfl
      | false => exact streamFromProvider_obeys

/-- Every call does what it may. -/
theorem program_obeys (request : Request) :
    (request.program config).Obeys (requestContract request) HoldsNothing {} := by
  cases request with
  | lookup callsign skipCache =>
      show (Lookup.lookup config callsign skipCache >>= fun _ => pure ()).Obeys _ _ _
      rw [Lookup.lookup]
      simp only [bind_assoc]
      refine ⟨rfl, fun _ => ?_⟩
      have hprovider : (askProvider config callsign (normalizeCallsign callsign)
          >>= fun _ => pure ()).Obeys (requestContract (.lookup callsign skipCache)) HoldsNothing
          idle :=
        @obeys_askProvider_bind config (.lookup callsign skipCache) _ _ _ fun _ => rfl
      apply obeys_neutral_bind ((cachedEntry_emits _ _).mono fun _ hc => hc.neutral)
      intro entry
      cases entry with
      | none => exact hprovider
      | some entry =>
          dsimp only
          simp only [bind_assoc]
          apply obeys_neutral_bind (isFresh_emits trivial _)
          intro fresh
          cases fresh with
          | true =>
              apply obeys_neutral_bind (populateHistory_emits (fun _ _ => trivial) _ _)
              exact fun _ => rfl
          | false => exact hprovider
  | stream callsign skipCache =>
      show (streamLookupInto config callsign skipCache).Obeys _ _ _
      rw [streamLookupInto]
      refine ⟨rfl, fun _ => ⟨trivial, fun failed => ?_⟩⟩
      cases failed with
      | true => exact rfl
      | false =>
          apply obeys_neutral_bind ((cachedEntry_emits _ _).mono fun _ hc => hc.neutral)
          intro entry
          cases entry with
          | none => exact @streamFromProvider_obeys config (.stream callsign skipCache)
          | some entry =>
              apply obeys_neutral_bind (isFresh_emits trivial _)
              intro fresh
              cases fresh with
              | true =>
                  apply obeys_neutral_bind (populateHistory_emits (fun _ _ => trivial) _ _)
                  exact fun _ => ⟨trivial, fun _ => rfl⟩
              | false => exact @streamStale_obeys config (.stream callsign skipCache) entry
  | cached callsign =>
      show (getCachedCallsign config callsign >>= fun _ => pure ()).Obeys _ _ _
      rw [getCachedCallsign]
      simp only [bind_assoc]
      refine ⟨rfl, fun _ => ?_⟩
      apply obeys_neutral_bind ((getCacheEntry_emits _).mono fun _ hc => hc.neutral)
      intro entry
      have hhistory : ∀ result, (populateHistory config callsign result
          >>= fun _ => pure ()).Obeys (requestContract (.cached callsign)) HoldsNothing idle :=
        fun result => obeys_neutral_bind (populateHistory_emits (fun _ _ => trivial) _ _) fun _ => rfl
      cases entry with
      | none => exact hhistory _
      | some entry =>
          dsimp only
          simp only [bind_assoc]
          apply obeys_neutral_bind (isFresh_emits trivial _)
          intro fresh
          cases fresh with
          | true => exact hhistory _
          | false => exact hhistory _

end Obeys

/-! ### The history of a run -/

/-- What matters of a move. -/
inductive Mark where
  | answered (call : ℕ)
  | begun (i : ℕ)
  | delivered (i call : ℕ)
  deriving DecidableEq

/-- The mark of a move. -/
def markOf : LookupMove → Option Mark
  | .outside (.answer call _) => some (.answered call)
  | .act i ⟨.enter, _⟩ => some (.begun i)
  | .act i ⟨.awaitCall call, _⟩ => some (.delivered i call)
  | _ => none

/-- The marks of a run. -/
def marks (ms : List LookupMove) : List Mark := ms.filterMap markOf

/-- A call gets an answer that was given before the call started. -/
def ServesFinished (ms : List LookupMove) : Prop :=
  ∃ i call, [Mark.answered call, .begun i, .delivered i call].Sublist (marks ms)

/-- How the calls stand. -/
def stages (requests : ℕ → Request) (ms : List LookupMove) : ℕ → Stage :=
  Tasks.observed (fun i => requestContract (requests i)) (fun _ => {}) ms

/-- No call starts while a future of its callsign has its answer and is still
in the map, and no call is dropped that has to remove a future. -/
def undisturbed (requests : ℕ → Request) (ms : List LookupMove) (p : Coordinating) :
    LookupMove → Bool
  | .act i ⟨.enter, _⟩ =>
      (requests i).keys.all fun key =>
        (p.state.inFlight key).all fun call => (p.state.answered call).isNone
  | .drop i => (stages requests ms i).holding.isNone
  | _ => true

/-- The condition on a move. -/
def Undisturbed (requests : ℕ → Request) (ms : List LookupMove) (p : Coordinating)
    (m : LookupMove) : Prop :=
  undisturbed requests ms p m = true

instance (requests : ℕ → Request) (ms : List LookupMove) (p : Coordinating) (m : LookupMove) :
    Decidable (Undisturbed requests ms p m) :=
  inferInstanceAs (Decidable (_ = true))

/-- Every future in the map has exactly one call that will remove it, and no
call waits for, or can still join, an answer from before its start. -/
structure Tracked (requests : ℕ → Request) (ms : List LookupMove) (s : Shared) : Prop where
  owned : ∀ key call, s.inFlight key = some call →
    ∃ i, (stages requests ms i).holding = some (key, call)
  held : ∀ i key call, (stages requests ms i).holding = some (key, call) →
    s.inFlight key = some call
  single : ∀ i j key call call', (stages requests ms i).holding = some (key, call) →
    (stages requests ms j).holding = some (key, call') → i = j
  given : ∀ call, Mark.answered call ∈ marks ms →
    call < s.nextCall ∧ (s.answered call).isSome = true
  begun : ∀ i, (stages requests ms i).begun = true ↔ Mark.begun i ∈ marks ms
  idle : ∀ i, (stages requests ms i).begun = false → stages requests ms i = {}
  waits : ∀ i call, (stages requests ms i).waiting = some call →
    ¬ [Mark.answered call, .begun i].Sublist (marks ms)
  joins : ∀ i key call, Mark.begun i ∈ marks ms → key ∈ (requests i).keys →
    s.inFlight key = some call → ¬ [Mark.answered call, .begun i].Sublist (marks ms)
  clean : ¬ ServesFinished ms

section Steps

variable {config : Config} {requests : ℕ → Request} {ms : List LookupMove} {p q : Coordinating}
  {s s' : Shared} {m : LookupMove} {i call : ℕ}

theorem marks_snoc : marks (ms ++ [m]) = marks ms ++ (markOf m).toList := by
  rw [marks, List.filterMap_append]
  rcases h : markOf m with - | mark <;> simp [marks, h]

theorem stages_act {c : LookupCmd} {r : c.Answer} :
    stages requests (ms ++ [.act i ⟨c, r⟩])
      = Function.update (stages requests ms) i ((stages requests ms i).next c r) :=
  Tasks.observed_snoc

theorem stages_drop : stages requests (ms ++ [.drop i]) = stages requests ms :=
  Tasks.observed_snoc

theorem stages_outside {z : Outside} :
    stages requests (ms ++ [.outside z]) = stages requests ms := Tasks.observed_snoc

/-- A move that is not marked changes nothing about the answers. -/
theorem marks_unmarked (hm : markOf m = none) : marks (ms ++ [m]) = marks ms := by
  rw [marks_snoc, hm, Option.toList_none, List.append_nil]

theorem begunAfter_snoc {j : ℕ} :
    [Mark.answered call, .begun j].Sublist (marks (ms ++ [m]))
      ↔ [Mark.answered call, .begun j].Sublist (marks ms)
        ∨ markOf m = some (.begun j) ∧ Mark.answered call ∈ marks ms := by
  rw [marks_snoc]
  rcases h : markOf m with - | mark
  · simp
  · rw [Option.toList_some, Transition.pair_sublist_snoc]
    simp

theorem servesFinished_snoc :
    ServesFinished (ms ++ [m]) ↔ ServesFinished ms
      ∨ ∃ i call, markOf m = some (.delivered i call)
        ∧ [Mark.answered call, .begun i].Sublist (marks ms) := by
  have hone : ∀ i call, [Mark.answered call, .begun i, .delivered i call].Sublist
      (marks (ms ++ [m])) ↔
        [Mark.answered call, .begun i, .delivered i call].Sublist (marks ms)
        ∨ markOf m = some (.delivered i call)
          ∧ [Mark.answered call, .begun i].Sublist (marks ms) := by
    intro i call
    rw [marks_snoc]
    rcases h : markOf m with - | mark
    · simp
    · rw [Option.toList_some]
      have hsnoc := @Transition.concat_sublist_snoc _ (marks ms) mark
        [Mark.answered call, .begun i] (.delivered i call)
      simpa using hsnoc
  simp only [ServesFinished, hone]
  constructor
  · rintro ⟨i, call, hold | hnew⟩
    · exact .inl ⟨i, call, hold⟩
    · exact .inr ⟨i, call, hnew⟩
  · rintro (⟨i, call, hold⟩ | ⟨i, call, hnew⟩)
    · exact ⟨i, call, .inl hold⟩
    · exact ⟨i, call, .inr hnew⟩

theorem mem_marks_snoc {mark : Mark} :
    mark ∈ marks (ms ++ [m]) ↔ mark ∈ marks ms ∨ markOf m = some mark := by
  rw [marks_snoc, List.mem_append, Option.mem_toList]

/-- A call starts. -/
theorem Tracked.enter {r : Unit} (h : Tracked requests ms s)
    (hallowed : (stages requests ms i).begun = false)
    (hfree : ∀ key ∈ (requests i).keys, ∀ call, s.inFlight key = some call →
      s.answered call = none) :
    Tracked requests (ms ++ [.act i ⟨.enter, r⟩]) s := by
  have hstage := h.idle i hallowed
  have hmark : markOf (.act i ⟨.enter, r⟩ : LookupMove) = some (.begun i) := rfl
  have hnext : (stages requests ms i).next .enter r = { begun := true } := by rw [hstage]; rfl
  constructor <;>
    simp only [stages_act, hnext, mem_marks_snoc, begunAfter_snoc, servesFinished_snoc, hmark,
      Function.update_apply] <;>
    grind [Tracked]

/-- A call joins a future of the map. -/
theorem Tracked.joinOld {key : String} (h : Tracked requests ms s)
    (hstage : stages requests ms i = { begun := true }) (hkey : key ∈ (requests i).keys)
    (hcall : s.inFlight key = some call) :
    Tracked requests (ms ++ [.act i ⟨.join key, (call, false)⟩]) s := by
  have hmark : markOf (.act i ⟨.join key, (call, false)⟩ : LookupMove) = none := rfl
  have hnext : (stages requests ms i).next (.join key) (call, false)
      = { begun := true, waiting := some call } := by rw [hstage]; rfl
  constructor <;>
    simp only [stages_act, hnext, mem_marks_snoc, begunAfter_snoc, servesFinished_snoc, hmark,
      Function.update_apply] <;>
    grind [Tracked]

/-- A call puts a future into the map. -/
theorem Tracked.joinNew {key : String} (h : Tracked requests ms s)
    (hstage : stages requests ms i = { begun := true }) (hfree : s.inFlight key = none) :
    Tracked requests (ms ++ [.act i ⟨.join key, (s.nextCall, true)⟩])
      { s with
        inFlight := Function.update s.inFlight key (some s.nextCall)
        nextCall := s.nextCall + 1 } := by
  have hmark : markOf (.act i ⟨.join key, (s.nextCall, true)⟩ : LookupMove) = none := rfl
  have hnext : (stages requests ms i).next (.join key) (s.nextCall, true)
      = { begun := true, waiting := some s.nextCall, holding := some (key, s.nextCall) } := by
    rw [hstage]; rfl
  have hnew : Mark.answered s.nextCall ∉ marks ms := by
    intro hmem
    exact absurd (h.given _ hmem).1 (lt_irrefl _)
  have hafter : ∀ j, ¬ [Mark.answered s.nextCall, .begun j].Sublist (marks ms) :=
    fun j hsub => hnew (hsub.subset List.mem_cons_self)
  constructor
  case owned =>
    intro key' call hget
    simp only [stages_act, hnext, Function.update_apply] at hget ⊢
    by_cases hkey : key' = key
    · subst hkey
      rw [if_pos rfl] at hget
      cases hget
      exact ⟨i, by rw [if_pos rfl]⟩
    · rw [if_neg hkey] at hget
      obtain ⟨j, hj⟩ := h.owned _ _ hget
      refine ⟨j, ?_⟩
      have hne : j ≠ i := by
        rintro rfl
        rw [hstage] at hj
        cases hj
      rw [if_neg hne]
      exact hj
  all_goals
    simp only [stages_act, hnext, mem_marks_snoc, begunAfter_snoc, servesFinished_snoc, hmark,
      Function.update_apply]
    grind [Tracked]

/-- A call gets its answer. -/
theorem Tracked.await {answer : ProviderAnswer} (h : Tracked requests ms s)
    (hwaiting : (stages requests ms i).waiting = some call) :
    Tracked requests (ms ++ [.act i ⟨.awaitCall call, answer⟩]) s := by
  have hmark : markOf (.act i ⟨.awaitCall call, answer⟩ : LookupMove)
      = some (.delivered i call) := rfl
  have hnext : (stages requests ms i).next (.awaitCall call) answer
      = { stages requests ms i with waiting := none } := rfl
  constructor <;>
    simp only [stages_act, hnext, mem_marks_snoc, begunAfter_snoc, servesFinished_snoc, hmark,
      Function.update_apply] <;>
    grind [Tracked]

/-- A call removes its future. -/
theorem Tracked.remove {key : String} {r : Unit} (h : Tracked requests ms s)
    (hholding : (stages requests ms i).holding = some (key, call)) :
    Tracked requests (ms ++ [.act i ⟨.removeInFlight key, r⟩])
      { s with inFlight := Function.update s.inFlight key none } := by
  have hmark : markOf (.act i ⟨.removeInFlight key, r⟩ : LookupMove) = none := rfl
  have hnext : (stages requests ms i).next (.removeInFlight key) r
      = { stages requests ms i with holding := none } := rfl
  constructor <;>
    simp only [stages_act, hnext, mem_marks_snoc, begunAfter_snoc, servesFinished_snoc, hmark,
      Function.update_apply] <;>
    grind [Tracked]

/-- What leaves the map and the answers alone. -/
theorem Tracked.frame (h : Tracked requests ms s) (hmark : markOf m = none)
    (hstages : stages requests (ms ++ [m]) = stages requests ms)
    (hinFlight : s'.inFlight = s.inFlight) (hnextCall : s'.nextCall = s.nextCall)
    (hanswered : s'.answered = s.answered) : Tracked requests (ms ++ [m]) s' := by
  constructor <;>
    simp only [hstages, mem_marks_snoc, begunAfter_snoc, servesFinished_snoc, hmark, hinFlight,
      hnextCall, hanswered] <;>
    grind [Tracked]

/-- The provider answers. -/
theorem Tracked.answer {answer : ProviderAnswer} (h : Tracked requests ms s)
    (hcall : call < s.nextCall) :
    Tracked requests (ms ++ [.outside (.answer call answer)])
      { s with answered := Function.update s.answered call (some answer) } := by
  have hmark : markOf (.outside (.answer call answer) : LookupMove)
      = some (.answered call) := rfl
  constructor <;>
    simp only [stages_outside, mem_marks_snoc, begunAfter_snoc, servesFinished_snoc, hmark,
      Function.update_apply] <;>
    grind [Tracked]

/-! ### Runs -/

variable {cache : String → Option CacheEntry} {others : (c : LookupCmd) → c.Answer}

/-- A coordinator that has no request in flight. -/
def freshShared (cache : String → Option CacheEntry) (others : (c : LookupCmd) → c.Answer) :
    Shared where
  cache
  others

/-- Has a program ended? -/
def finished : LookupProgram Unit → Bool
  | .pure _ => true
  | .cmd _ _ => false

/-- No call that has started is still running. -/
def NoneRunning (ms : List LookupMove) (q : Coordinating) : Prop :=
  ∀ i, Mark.begun i ∈ marks ms → finished (q.task i) = true

/-- **One command of a call.** -/
theorem Tracked.act {c : LookupCmd} {r : c.Answer} (h : Tracked requests ms p.state)
    (hallowed : (requestContract (requests i)).allowed (stages requests ms i) c)
    (hE : Undisturbed requests ms p (.act i ⟨c, r⟩)) (heff : effect c p.state = some (r, s)) :
    Tracked requests (ms ++ [.act i ⟨c, r⟩]) s := by
  cases c with
  | enter =>
      cases heff
      refine h.enter hallowed fun key hkey call hcall => ?_
      have hfree := List.all_eq_true.mp hE key hkey
      rw [hcall] at hfree
      exact Option.isNone_iff_eq_none.mp hfree
  | join key =>
      obtain ⟨hstage, hkey⟩ : stages requests ms i = { begun := true } ∧ key ∈ _ := hallowed
      rw [effect] at heff
      cases hcall : p.state.inFlight key with
      | some call =>
          rw [hcall] at heff
          cases heff
          exact h.joinOld hstage hkey hcall
      | none =>
          rw [hcall] at heff
          cases heff
          exact h.joinNew hstage hcall
  | awaitCall call =>
      obtain ⟨answer, -, hanswer⟩ := Option.map_eq_some_iff.mp heff
      cases hanswer
      exact h.await hallowed
  | removeInFlight key =>
      obtain ⟨-, call, hholding⟩ : _ ∧ ∃ call, (stages requests ms i).holding = some (key, call) :=
        hallowed
      cases heff
      exact h.remove hholding
  | readCache | putCache | getSnapshot | putSnapshot | instantNow | utcNow | listHistory | send =>
      cases heff
      refine h.frame rfl ?_ rfl rfl rfl
      rw [stages_act]
      exact Function.update_eq_self i _

/-- What happens outside. -/
theorem Tracked.happen {z : Outside} (h : Tracked requests ms s) (hz : outside z s = some s') :
    Tracked requests (ms ++ [.outside z]) s' := by
  cases z with
  | answer call answer =>
      rw [outside] at hz
      split at hz
      · rename_i hcall
        cases hz
        exact h.answer hcall.1
      · cases hz
  | evict key =>
      cases hz
      exact h.frame rfl stages_outside rfl rfl rfl
  | change others =>
      cases hz
      exact h.frame rfl stages_outside rfl rfl rfl

/-- Nothing has happened. -/
theorem Tracked.start : Tracked requests [] (freshShared cache others) := by
  constructor <;> simp [freshShared, stages, Tasks.observed, marks, ServesFinished]

/-- **Requests in flight are shared, and only while they are in flight.**  In
an undisturbed run no call gets an answer from before its start, and when no
call runs the map is empty. -/
theorem lookups_share_running_requests
    (hr : (coordinating config requests (freshShared cache others)).Run effect outside
      (Undisturbed requests) ms q) :
    ¬ ServesFinished ms ∧ (NoneRunning ms q → ∀ key, q.state.inFlight key = none) := by
  obtain ⟨hobeys, htracked⟩ := Tasks.Run.keeps (J := Tracked requests)
    (K := fun i => requestContract (requests i)) (Q := HoldsNothing) (t := fun _ => {})
    (fun h hallowed hE heff => h.act hallowed hE heff)
    (fun h hE => ⟨Option.isNone_iff_eq_none.mp hE, h.frame rfl stages_drop rfl rfl rfl⟩)
    (fun h _ hz => h.happen hz) hr (fun i => program_obeys (requests i)) .start
  refine ⟨htracked.clean, fun hnone key => ?_⟩
  by_contra hsome
  obtain ⟨call, hcall⟩ := Option.ne_none_iff_exists'.mp hsome
  obtain ⟨i, hholding⟩ := htracked.owned key call hcall
  -- the call that holds the future has started, so it has ended, and then it holds nothing
  have hbegun : Mark.begun i ∈ marks ms := by
    rw [← htracked.begun]
    by_contra hidle
    rw [htracked.idle i (by simpa using hidle)] at hholding
    cases hholding
  have hend := hobeys i
  have hfinished := hnone i hbegun
  cases htask : q.task i with
  | pure a =>
      rw [htask] at hend
      have hempty : (stages requests ms i).holding = none := hend
      rw [hempty] at hholding
      cases hholding
  | cmd c k =>
      rw [htask] at hfinished
      cases hfinished

end Steps

/-! ### A call that is dropped -/

/-- No store, no clock, and a listener that is there. -/
def quietOthers : (c : LookupCmd) → c.Answer
  | .enter => ()
  | .readCache _ => none
  | .putCache _ _ => ()
  | .getSnapshot _ => .ok none
  | .putSnapshot _ => .ok ()
  | .instantNow => 0
  | .utcNow => 0
  | .join _ => (0, false)
  | .awaitCall _ => ⟨.ok { outcome := .notFound }, 0⟩
  | .removeInFlight _ => ()
  | .listHistory _ _ => .ok {}
  | .send _ => false

theorem plainConfig_entries : 0 < 1000 := Nat.succ_pos 999

/-- A quarter of an hour for what was found, two minutes for what was not. -/
def plainConfig : Config where
  positiveTtl := 900 * second
  negativeTtl := 120 * second
  maxEntries := 1000
  maxEntries_pos := plainConfig_entries
  hasStorage := false

/-- Everyone asks for the same callsign, and wants no cached answer. -/
def sameRequest (_ : ℕ) : Request := .lookup "w1aw" true

/-- The coordinator before the calls. -/
def beforeLookups : Coordinating :=
  coordinating plainConfig sameRequest (freshShared (fun _ => none) quietOthers)

open Tasks.Turn in
/-- Two calls share a future, the one that put it into the map is dropped, the
provider answers, and a third call comes later. -/
def ownerDropped : List (Tasks.Turn ℕ Outside) :=
  List.replicate 3 (act 0) ++ List.replicate 3 (act 1) ++ [drop 0]
    ++ [Tasks.Turn.outside (Outside.answer 0 ⟨.ok { outcome := .notFound }, 0⟩)]
    ++ List.replicate 10 (act 1) ++ List.replicate 10 (act 2)

/-- The moves of that run, and where it ends. -/
def droppedRun : List LookupMove × Coordinating :=
  Transition.schedule (Tasks.turn effect outside) ownerDropped beforeLookups

/-- The third call is served the old answer, and the future stays in the map
when nobody runs any more. -/
theorem dropped_owner_serves_finished :
    beforeLookups.Run effect outside (fun _ _ _ => True) droppedRun.1 droppedRun.2
    ∧ ServesFinished droppedRun.1
    ∧ NoneRunning droppedRun.1 droppedRun.2 ∧ droppedRun.2.state.inFlight "W1AW" = some 0 := by
  refine ⟨Transition.schedule_run Tasks.step_of_turn (by decide +kernel), ⟨2, 0, ?_⟩, ?_, ?_⟩
  · decide +kernel
  · have hmarks : marks droppedRun.1 = [.begun 0, .begun 1, .answered 0, .delivered 1 0, .begun 2,
        .delivered 2 0] := by decide +kernel
    have hfinished : ∀ i ∈ [0, 1, 2], finished (droppedRun.2.task i) = true := by decide +kernel
    intro i hi
    rw [hmarks] at hi
    apply hfinished
    simpa using hi
  · decide +kernel

open Tasks.Turn in
/-- The same calls, and none is dropped. -/
def ownerStays : List (Tasks.Turn ℕ Outside) :=
  List.replicate 3 (act 0) ++ List.replicate 3 (act 1)
    ++ [Tasks.Turn.outside (Outside.answer 0 ⟨.ok { outcome := .notFound }, 0⟩)]
    ++ List.replicate 10 (act 0) ++ List.replicate 10 (act 1) ++ List.replicate 3 (act 2)
    ++ [Tasks.Turn.outside (Outside.answer 1 ⟨.ok { outcome := .notFound }, 0⟩)] ++ List.replicate 10 (act 2)

/-- The moves of that run, and where it ends. -/
def sharedRun : List LookupMove × Coordinating :=
  Transition.schedule (Tasks.turn effect outside) ownerStays beforeLookups

/-- The first two calls share one answer, the third gets its own. -/
theorem lookups_share_running_requests_thrice :
    marks sharedRun.1 = [.begun 0, .begun 1, .answered 0, .delivered 0 0, .delivered 1 0, .begun 2,
      .answered 1, .delivered 2 1]
    ∧ ¬ ServesFinished sharedRun.1 := by
  have hrun : beforeLookups.Run effect outside (Undisturbed sameRequest) sharedRun.1 sharedRun.2 :=
    Transition.schedule_run Tasks.step_of_turn (by decide +kernel)
  exact ⟨by decide +kernel, (lookups_share_running_requests hrun).1⟩

end QsoRipper.Lookup
