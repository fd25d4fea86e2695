/-
QsoRipper/Application/Monitors.lean

The monitors of the rig, the space weather and the contests: a cached snapshot of a provider,
for any number of calls at once.  A call reads the cache, fetches without holding it, and then
writes the cache whatever it holds by then.

The instant at which a fetch starts and the instant that its data are of are known to nobody in
the program; they are recorded with the data to say what is promised.
-/
import QsoRipper.Lib.Text
import QsoRipper.Lib.Transition

namespace QsoRipper.Monitors

open Interaction

/-! ### Providers -/

/-- The categories of a provider's errors. -/
inductive ProviderErrorKind where
  | disabled
  | transport
  | parse
  | timeout
  deriving DecidableEq

def ProviderErrorKind.toText : ProviderErrorKind → String
  | disabled => "disabled"
  | transport => "transport"
  | parse => "parse"
  | timeout => "timeout"

/-- A provider's error. -/
structure ProviderError where
  kind : ProviderErrorKind
  message : String

/-- The status of a snapshot; `Connected` of a rig is `current`. -/
inductive Status where
  | current
  | stale
  | error
  | disabled
  deriving DecidableEq

/-- What the three monitors differ in. -/
structure Monitor where
  /-- A cached snapshot of this age is fetched again. -/
  refreshInterval : ℕ
  /-- A cached snapshot of this age is stale. -/
  staleAfter : ℕ
  /-- After a failed fetch: the status of what is in the cache. -/
  failedStatus : Status
  /-- After a failed fetch with nothing in the cache. -/
  emptyStatus : ProviderError → Status
  errorText : ProviderError → String

/-- `Display` of a provider's error. -/
def ProviderError.toText (provider : String) (error : ProviderError) : String :=
  provider ++ " provider " ++ error.kind.toText ++ " error: " ++ error.message

/-- `RigControlMonitor`. -/
def rigControlMonitor (staleThreshold : ℕ) : Monitor where
  refreshInterval := staleThreshold
  staleAfter := staleThreshold
  failedStatus := .error
  emptyStatus error := if error.kind = .disabled then .disabled else .error
  errorText error := error.toText "Rig control"

/-- `SpaceWeatherMonitor`. -/
def spaceWeatherMonitor (refreshInterval staleAfter : ℕ) : Monitor where
  refreshInterval
  staleAfter
  failedStatus := .stale
  emptyStatus _ := .error
  errorText error := error.toText "Space weather"

/-- `ContestCalendarMonitor`. -/
def contestCalendarMonitor (refreshInterval staleAfter : ℕ) : Monitor where
  refreshInterval
  staleAfter
  failedStatus := .stale
  emptyStatus error :=
    if Text.contains (error.toText "Contest calendar") "disabled error" then .disabled else .error
  errorText error := error.toText "Contest calendar"

/-! ### Calls -/

variable {δ : Type}

/-- `CachedSnapshot`, with the start of its fetch and the instant that its data are of. -/
structure CachedSnapshot (δ : Type) where
  snapshot : δ
  fetchedMonotonic : ℕ
  started : ℕ
  asOf : ℕ

/-- What a call returns. -/
structure Answer (δ : Type) where
  data : Option (CachedSnapshot δ)
  status : Status
  errorMessage : Option String

/-- Where a call stands. -/
inductive Call (δ : Type) where
  | idle
  /-- It is going to refresh. -/
  | due
  /-- It has read the cache for the case that the fetch fails. -/
  | holding (cached : Option (CachedSnapshot δ))
  | fetching (cached : Option (CachedSnapshot δ)) (started : ℕ)
  /-- It has the data and their time, and waits to write them. -/
  | delivered (fresh : CachedSnapshot δ)

/-- The clock, the cache, the calls, and everything that was ever stored. -/
structure State (δ : Type) where
  now : ℕ := 0
  cache : Option (CachedSnapshot δ) := none
  calls : ℕ → Call δ := fun _ => .idle
  stored : List (CachedSnapshot δ) := []

/-- What can happen next. -/
inductive Action (δ : Type) where
  | wait (duration : ℕ)
  | currentSnapshot (caller : ℕ)
  | refreshSnapshot (caller : ℕ)
  | read (caller : ℕ)
  | fetch (caller : ℕ)
  | deliver (caller : ℕ) (snapshot : δ) (asOf : ℕ)
  | fail (caller : ℕ) (error : ProviderError)
  | store (caller : ℕ)

namespace State

variable (s : State δ)

/-- A call goes on. -/
def goto (caller : ℕ) (call : Call δ) : State δ :=
  { s with calls := Function.update s.calls caller call }

/-- A call writes the cache and is over. -/
def put (caller : ℕ) (fresh : CachedSnapshot δ) : State δ :=
  { s.goto caller .idle with cache := some fresh, stored := s.stored ++ [fresh] }

end State

namespace Monitor

variable (m : Monitor)

/-- `snapshot_with_age_status`, `snapshot_from_cached`. -/
def aged (now : ℕ) (cached : CachedSnapshot δ) : Answer δ where
  data := some cached
  status := if m.staleAfter ≤ now - cached.fetchedMonotonic then .stale else .current
  errorMessage := none

/-- What a failed fetch is answered with, from what was in the cache before it. -/
def failed (cached : Option (CachedSnapshot δ)) (error : ProviderError) : Answer δ where
  data := cached
  status := if cached.isSome then m.failedStatus else m.emptyStatus error
  errorMessage := some (m.errorText error)

/-- One step, with what a call returns in it: `current_snapshot` and `refresh_snapshot`, cut where
they wait. -/
def turn (s : State δ) : Action δ → Option (Option (Answer δ) × State δ)
  | .wait duration => some (none, { s with now := s.now + duration })
  | .currentSnapshot caller =>
      match s.calls caller, s.cache with
      | .idle, some cached =>
          if s.now - cached.fetchedMonotonic < m.refreshInterval then
            some (some (m.aged s.now cached), s)
          else some (none, s.goto caller .due)
      | .idle, none => some (none, s.goto caller .due)
      | _, _ => none
  | .refreshSnapshot caller =>
      match s.calls caller with
      | .idle => some (none, s.goto caller .due)
      | _ => none
  | .read caller =>
      match s.calls caller with
      | .due => some (none, s.goto caller (.holding s.cache))
      | _ => none
  | .fetch caller =>
      match s.calls caller with
      | .holding cached => some (none, s.goto caller (.fetching cached s.now))
      | _ => none
  | .deliver caller snapshot asOf =>
      match s.calls caller with
      | .fetching _ started =>
          if started ≤ asOf ∧ asOf ≤ s.now then
            some (none, s.goto caller (.delivered ⟨snapshot, s.now, started, asOf⟩))
          else none
      | _ => none
  | .fail caller error =>
      match s.calls caller with
      | .fetching cached _ => some (some (m.failed cached error), s.goto caller .idle)
      | _ => none
  | .store caller =>
      match s.calls caller with
      | .delivered fresh => some (some ⟨some fresh, .current, none⟩, s.put caller fresh)
      | _ => none

/-- The steps, labelled with what happens and what is returned. -/
def Step (s : State δ) (label : Action δ × Option (Answer δ)) (s' : State δ) : Prop :=
  m.turn s label.1 = some (label.2, s')

/-! ### What is promised -/

/-- No step goes back in time. -/
structure Sound (s : State δ) (label : Action δ × Option (Answer δ)) : Prop where
  /-- Data are never replaced by those of a fetch that started earlier. -/
  forward : ∀ caller fresh old, label.1 = .store caller → s.calls caller = .delivered fresh →
    s.cache = some old → old.started ≤ fresh.started
  /-- A fetch that fails is answered with the newest data that were stored. -/
  newest : ∀ caller error, label.1 = .fail caller error → ∃ answer, label.2 = some answer
    ∧ ∀ cached ∈ s.stored, ∃ given ∈ answer.data, cached.started ≤ given.started
  /-- What is reported as current is not older than the limit. -/
  recent : ∀ answer, label.2 = some answer → answer.status = .current →
    ∃ given, answer.data = some given ∧ s.now ≤ given.asOf + m.staleAfter

/-- The data are recent enough at any age at which they are answered from the cache. -/
def Prompt (fresh : CachedSnapshot δ) : Prop :=
  ∀ age, age < m.refreshInterval → age < m.staleAfter →
    fresh.fetchedMonotonic + age ≤ fresh.asOf + m.staleAfter

/-- What a step must meet: fetches are stored in the order in which they started, with data that
arrive soon enough; and when a fetch fails, nothing of a later fetch was stored since the cache
was read. -/
def Meets (s : State δ) : Action δ → Prop
  | .store caller => ∀ fresh, s.calls caller = .delivered fresh →
      (∀ cached ∈ s.stored, cached.started ≤ fresh.started)
        ∧ s.now ≤ fresh.asOf + m.staleAfter ∧ m.Prompt fresh
  | .fail caller _ => ∀ held started, s.calls caller = .fetching held started →
      ∀ cached ∈ s.cache, ∃ given ∈ held, cached.started ≤ given.started
  | _ => True

/-- Runs all whose steps meet this. -/
abbrev Runs : State δ → List (Action δ × Option (Answer δ)) → State δ → Prop :=
  Transition.Run m.Step fun _ s label => m.Meets s label.1

/-! ### One step -/

/-- The cache holds the newest of what was stored, and it is prompt. -/
structure Inv (s : State δ) : Prop where
  stored_of_cache : ∀ cached ∈ s.cache, cached ∈ s.stored
  empty : s.cache = none → s.stored = []
  newest : ∀ cached ∈ s.cache, ∀ other ∈ s.stored, other.started ≤ cached.started
  prompt : ∀ cached ∈ s.cache, m.Prompt cached

variable {m} {s s' : State δ} {label : Action δ × Option (Answer δ)}

/-- What a step can be: it returns nothing and leaves the cache, it answers from the cache, it
answers a failed fetch, or it stores what its call has. -/
inductive StepCase (m : Monitor) (s s' : State δ) : Action δ → Option (Answer δ) → Prop
  | quiet {action : Action δ} : s'.cache = s.cache → s'.stored = s.stored →
      (∀ caller, action ≠ .store caller) → (∀ caller error, action ≠ .fail caller error) →
      StepCase m s s' action none
  | cached {caller : ℕ} {cached : CachedSnapshot δ} : s' = s → s.cache = some cached →
      s.now - cached.fetchedMonotonic < m.refreshInterval →
      StepCase m s s' (.currentSnapshot caller) (some (m.aged s.now cached))
  | failed {caller : ℕ} {error : ProviderError} {held : Option (CachedSnapshot δ)} {started : ℕ} :
      s'.cache = s.cache → s'.stored = s.stored → s.calls caller = .fetching held started →
      StepCase m s s' (.fail caller error) (some (m.failed held error))
  | stored {caller : ℕ} {fresh : CachedSnapshot δ} : s.calls caller = .delivered fresh →
      s'.cache = some fresh → s'.stored = s.stored ++ [fresh] →
      StepCase m s s' (.store caller) (some ⟨some fresh, .current, none⟩)

theorem step_cases (h : m.Step s label s') : StepCase m s s' label.1 label.2 := by
  obtain ⟨action, answer⟩ := label
  unfold Step turn at h
  dsimp only at h
  cases action with
  | wait duration =>
      cases h
      exact .quiet rfl rfl nofun nofun
  | currentSnapshot caller =>
      dsimp only at h
      split at h
      · rename_i cached _ hcache
        split_ifs at h with hyoung
        · cases h
          exact .cached rfl hcache hyoung
        · cases h
          exact .quiet rfl rfl nofun nofun
      · cases h
        exact .quiet rfl rfl nofun nofun
      · cases h
  | refreshSnapshot caller =>
      dsimp only at h
      split at h
      · cases h
        exact .quiet rfl rfl nofun nofun
      · cases h
  | read caller =>
      dsimp only at h
      split at h
      · cases h
        exact .quiet rfl rfl nofun nofun
      · cases h
  | fetch caller =>
      dsimp only at h
      split at h
      · cases h
        exact .quiet rfl rfl nofun nofun
      · cases h
  | deliver caller snapshot asOf =>
      dsimp only at h
      split at h
      · split_ifs at h
        cases h
        exact .quiet rfl rfl nofun nofun
      · cases h
  | fail caller error =>
      dsimp only at h
      split at h
      · rename_i held started hcall
        cases h
        exact .failed rfl rfl hcall
      · cases h
  | store caller =>
      dsimp only at h
      split at h
      · rename_i fresh hcall
        cases h
        exact .stored hcall rfl rfl
      · cases h

theorem Inv.congr (hinv : m.Inv s) (hcache : s'.cache = s.cache) (hstored : s'.stored = s.stored) :
    m.Inv s' := by
  obtain ⟨hmem, hempty, hnewest, hprompt⟩ := hinv
  refine ⟨?_, ?_, ?_, ?_⟩
  · rwa [hcache, hstored]
  · rwa [hcache, hstored]
  · rwa [hcache, hstored]
  · rwa [hcache]

/-- A step that meets its condition keeps the invariant. -/
theorem inv_step (hinv : m.Inv s) (h : m.Step s label s') (hmeets : m.Meets s label.1) :
    m.Inv s' := by
  have hcases := step_cases h
  obtain ⟨action, answer⟩ := label
  dsimp only at hcases hmeets
  cases hcases with
  | quiet hcache hstored => exact hinv.congr hcache hstored
  | cached hsame =>
      rw [hsame]
      exact hinv
  | failed hcache hstored => exact hinv.congr hcache hstored
  | @stored caller fresh hcall hcache hstored =>
      obtain ⟨horder, -, hprompt⟩ := hmeets fresh hcall
      have hmem (cached : CachedSnapshot δ) (hcached : cached ∈ s'.cache) : cached = fresh := by
        rw [hcache] at hcached
        exact (Option.mem_some_iff.mp hcached).symm
      refine ⟨fun cached hcached => ?_, fun hnone => ?_, fun cached hcached other hother => ?_,
        fun cached hcached => ?_⟩
      · rw [hmem cached hcached, hstored]
        exact List.mem_append_right _ (List.mem_singleton_self fresh)
      · rw [hcache] at hnone
        cases hnone
      · rw [hmem cached hcached]
        rw [hstored] at hother
        rcases List.mem_append.mp hother with hother | hother
        · exact horder other hother
        · rw [List.mem_singleton.mp hother]
      · rw [hmem cached hcached]
        exact hprompt

/-- A step that meets its condition is sound, where a failure is never reported as current. -/
theorem sound_step (hinv : m.Inv s) (h : m.Step s label s') (hmeets : m.Meets s label.1)
    (hfailed : m.failedStatus ≠ .current) (hempty : ∀ error, m.emptyStatus error ≠ .current) :
    m.Sound s label := by
  have hcases := step_cases h
  obtain ⟨action, answer⟩ := label
  dsimp only at hcases hmeets
  cases hcases with
  | quiet _ _ hstore hfail =>
      exact ⟨fun caller _ _ hlabel => absurd hlabel (hstore caller),
        fun caller error hlabel => absurd hlabel (hfail caller error), nofun⟩
  | @cached caller cached _ hcache hyoung =>
      refine ⟨nofun, nofun, ?_⟩
      rintro _ ⟨⟩ hcurrent
      refine ⟨cached, rfl, ?_⟩
      unfold aged at hcurrent
      dsimp only at hcurrent
      split_ifs at hcurrent with hstale
      -- the age since it was fetched is below both limits
      have hprompt := hinv.prompt cached hcache _ hyoung (by omega)
      omega
  | @failed caller error held started _ _ hcall =>
      have hlater := hmeets held started hcall
      refine ⟨nofun, fun _ _ _ => ⟨_, rfl, fun cached hcached => ?_⟩, ?_⟩
      · cases hcache : s.cache with
        | none =>
            rw [hinv.empty hcache] at hcached
            cases hcached
        | some newest =>
            obtain ⟨given, hgiven, hle⟩ := hlater newest hcache
            exact ⟨given, hgiven, (hinv.newest newest hcache cached hcached).trans hle⟩
      · rintro _ ⟨⟩ hcurrent
        unfold Monitor.failed at hcurrent
        dsimp only at hcurrent
        split_ifs at hcurrent
        · exact absurd hcurrent hfailed
        · exact absurd hcurrent (hempty error)
  | @stored caller fresh hcall =>
      obtain ⟨horder, hrecent, -⟩ := hmeets fresh hcall
      refine ⟨?_, nofun, ?_⟩
      · rintro _ fresh' old ⟨⟩ hcall' hcache
        rw [hcall] at hcall'
        cases hcall'
        exact horder old (hinv.stored_of_cache old hcache)
      · rintro _ ⟨⟩ -
        exact ⟨fresh, rfl, hrecent⟩

/-! ### Whole runs -/

theorem inv_initial : m.Inv ({} : State δ) := ⟨nofun, fun _ => rfl, nofun, nofun⟩

/-- The invariant holds throughout a run. -/
theorem inv_runs {labels : List (Action δ × Option (Answer δ))} (hrun : m.Runs {} labels s) :
    m.Inv s :=
  Transition.Run.invariant (I := fun _ s => m.Inv s) hrun inv_initial
    fun hinv hmeets hstep => inv_step hinv hstep hmeets

/-- One of the three monitors. -/
def Known (m : Monitor) : Prop :=
  (∃ staleThreshold, m = rigControlMonitor staleThreshold)
    ∨ ∃ refreshInterval staleAfter, m = spaceWeatherMonitor refreshInterval staleAfter
      ∨ m = contestCalendarMonitor refreshInterval staleAfter

/-- A failure is never reported as current. -/
theorem Known.failure (h : m.Known) :
    m.failedStatus ≠ .current ∧ ∀ error, m.emptyStatus error ≠ .current := by
  rcases h with ⟨staleThreshold, rfl⟩ | ⟨refreshInterval, staleAfter, rfl | rfl⟩
  · refine ⟨nofun, fun error => ?_⟩
    unfold rigControlMonitor
    dsimp only
    split_ifs <;> nofun
  · exact ⟨nofun, fun _ => nofun⟩
  · refine ⟨nofun, fun error => ?_⟩
    unfold contestCalendarMonitor
    dsimp only
    split_ifs <;> nofun

/-- A call that is about to store the data of its fetch. -/
def storing : State ℕ :=
  (((({} : State ℕ).goto 0 .due).goto 0 (.holding none)).goto 0 (.fetching none 0)).goto 0
    (.delivered ⟨7, 0, 0, 0⟩)

/-- Data that do not arrive soon enough are answered as current when they are too old. -/
theorem late_answer {cached : CachedSnapshot δ} {caller : ℕ} (hcache : s.cache = some cached)
    (hcall : s.calls caller = .idle) (hnow : s.now = cached.fetchedMonotonic)
    (hlate : ¬ m.Prompt cached) :
    ∃ age after, m.Step { s with now := s.now + age }
        (.currentSnapshot caller, some ⟨some cached, .current, none⟩) after
      ∧ cached.asOf + m.staleAfter < s.now + age := by
  unfold Prompt at hlate
  push Not at hlate
  obtain ⟨age, hyoung, hstale, hlate⟩ := hlate
  have helapsed : cached.fetchedMonotonic + age - cached.fetchedMonotonic = age := by omega
  refine ⟨age, { s with now := s.now + age }, ?_, by omega⟩
  unfold Step turn
  dsimp only
  rw [hcall, hcache, hnow]
  dsimp only
  rw [helapsed, if_pos hyoung]
  unfold aged
  rw [helapsed, if_neg (by omega)]

end Monitor

end QsoRipper.Monitors
