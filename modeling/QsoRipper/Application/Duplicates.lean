/-
QsoRipper/Application/Duplicates.lean

The search for a duplicate among the rows of a time window, and among all rows.
The filter on callsigns hides no row that matches; the window does, where one of
the two times is a full minute and the other more than 59 seconds behind it.
-/
import QsoRipper.Application.Reimport
import QsoRipper.Lib.Lines

namespace QsoRipper

open Interaction

variable {ε : Type} {env : Environment ε} {w : World ε} {s : MemoryState}
  {row candidate : QsoRecord} {t u : Timestamp}

/-! ### The filter on callsigns -/

/-- A text contains what it is trimmed to. -/
theorem contains_of_trim_eq {a b : String}
    (h : stringsEqualIgnoreAsciiCase a b = true) :
    Text.contains (Text.toAsciiUppercase a) (Text.toAsciiUppercase (Text.trim b)) = true := by
  rw [stringsEqualIgnoreAsciiCase, Text.eqIgnoreAsciiCase_iff] at h
  rw [← h, Text.contains_iff, Text.toAsciiUppercase, Text.toAsciiUppercase, String.toList_ofList,
    String.toList_ofList]
  exact (Text.trim_infix a).map _

/-- A row that matches passes the filter on callsigns. -/
theorem callsignFilter_passes (h : qsosMatchForDuplicate row candidate = true) :
    (windowQuery candidate t).callsignFilter.all (fun filter =>
      let normalized := Text.toAsciiUppercase (Text.trim filter)
      normalized.isEmpty
        || Text.contains (Text.toAsciiUppercase row.stationCallsign) normalized
        || Text.contains (Text.toAsciiUppercase row.workedCallsign) normalized) = true := by
  simp only [qsosMatchForDuplicate, Bool.and_eq_true] at h
  obtain ⟨⟨⟨⟨-, hstation⟩, hworked⟩, -⟩, -⟩ := h
  have hfilter {text filter : String} (hf : trimmedNonEmpty text = some filter) :
      Text.trim filter = Text.trim text := by
    rw [trimmedNonEmpty] at hf
    split at hf
    · cases hf
    · cases hf
      exact Text.trim_trim text
  rw [Option.all_eq_true]
  intro filter hmem
  dsimp only
  rw [windowQuery] at hmem
  rcases Option.or_eq_some_iff.mp hmem with hcall | ⟨-, hcall⟩
  · rw [hfilter hcall, contains_of_trim_eq hworked, Bool.or_true]
  · rw [hfilter hcall, contains_of_trim_eq hstation, Bool.or_true, Bool.true_or]

/-! ### The window -/

/-- The time of a row is in the window, in whole milliseconds. -/
def WithinWindow (row candidate : Timestamp) : Prop :=
  (offsetTimestampSeconds candidate (-adifDuplicateTimeWindowSeconds)).toMillis ≤ row.toMillis
    ∧ row.toMillis ≤ (offsetTimestampSeconds candidate adifDuplicateTimeWindowSeconds).toMillis

instance (row candidate : Timestamp) : Decidable (WithinWindow row candidate) :=
  inferInstanceAs (Decidable (_ ∧ _))

/-- The one time is a full minute, the other in the last second of it and a millisecond or
more. -/
def InLastSecond (early late : Timestamp) : Prop :=
  timestampIsMinutePrecision early = true ∧ late.seconds % 60 = 59 ∧ 1000000 ≤ late.nanos

/-- A timestamp as it should be: in the years 1 to 9999, with the nanoseconds of one second. -/
def Timestamp.WellFormed (t : Timestamp) : Prop :=
  -62135596800 ≤ t.seconds ∧ t.seconds ≤ 253402300799 ∧ 0 ≤ t.nanos ∧ t.nanos < 1000000000

/-- **When a matching time is in the window.** -/
theorem withinWindow_iff (ht : t.WellFormed) (hu : u.WellFormed)
    (h : timestampsMatch (some u) (some t) = true) :
    WithinWindow u t ↔ ¬ (InLastSecond u t ∨ InLastSecond t u) := by
  obtain ⟨ht₁, ht₂, ht₃, ht₄⟩ := ht
  obtain ⟨hu₁, hu₂, hu₃, hu₄⟩ := hu
  -- far from the ends of `i64` nothing saturates
  have hmillis {v : Timestamp} (h₁ : -62135600000 ≤ v.seconds) (h₂ : v.seconds ≤ 253402310000)
      (h₃ : 0 ≤ v.nanos) (h₄ : v.nanos < 1000000000) :
      v.toMillis = v.seconds * 1000 + v.nanos / 1000000 := by
    rw [Timestamp.toMillis, Int.tdiv_eq_ediv_of_nonneg h₃]
    unfold saturateI64
    omega
  have hseconds {offset : ℤ} (h₁ : -59 ≤ offset) (h₂ : offset ≤ 59) :
      saturateI64 (t.seconds + offset) = t.seconds + offset := by
    unfold saturateI64
    omega
  have hoffset {offset : ℤ} (h₁ : -59 ≤ offset) (h₂ : offset ≤ 59) :
      (offsetTimestampSeconds t offset).toMillis
        = (t.seconds + offset) * 1000 + t.nanos / 1000000 := by
    rw [offsetTimestampSeconds, hseconds h₁ h₂]
    exact hmillis (by dsimp only; omega) (by dsimp only; omega) ht₃ ht₄
  rw [WithinWindow, adifDuplicateTimeWindowSeconds, hoffset (by decide) (by decide),
    hoffset (by decide) (by decide), hmillis (by omega) (by omega) hu₃ hu₄]
  have hdiv (x : ℤ) : x.ediv 60 = x / 60 := rfl
  have hmod (x : ℤ) : x.emod 60 = x % 60 := rfl
  simp only [InLastSecond, timestampIsMinutePrecision, Bool.and_eq_true, beq_iff_eq, hmod]
  simp only [timestampsMatch, timestampMinuteBucket, timestampIsMinutePrecision,
    Bool.or_eq_true, Bool.and_eq_true, beq_iff_eq, hdiv, hmod] at h
  rcases h with rfl | ⟨hbucket, hprecise⟩
  · omega
  · omega

/-- A row that matches is listed exactly if its time is in the window. -/
theorem matchesQuery_window (h : qsosMatchForDuplicate row candidate = true) :
    MemoryState.matchesQuery row (windowQuery candidate t) = true
      ↔ ∀ u ∈ row.utcTimestamp, WithinWindow u t := by
  have hmatch := h
  simp only [qsosMatchForDuplicate, Bool.and_eq_true] at h
  have htime := h.1.1.1.1.1.1
  rcases hrow : row.utcTimestamp with - | u
  · rw [hrow] at htime
    cases htime
  · have hfilter := callsignFilter_passes (t := t) hmatch
    rw [MemoryState.matchesQuery]
    rw [hfilter]
    simp [windowQuery, WithinWindow, MemoryState.timestampToMillis, hrow]

/-! ### The search -/

/-- Some row of the store matches the candidate. -/
def HasMatch (s : MemoryState) (candidate : QsoRecord) : Prop :=
  ∃ row, s.get row.localId = some row ∧ qsosMatchForDuplicate row candidate = true

/-- Some row has the fingerprint of the candidate, or matches it within the window. -/
def HasMatchInWindow (s : MemoryState) (candidate : QsoRecord) (t : Timestamp) : Prop :=
  ∃ row, s.get row.localId = some row
    ∧ ((∃ fingerprint ∈ candidate.extraFields[adifImportFingerprintField]?,
        hasFingerprint fingerprint row = true)
      ∨ qsosMatchForDuplicate row candidate = true ∧ ∀ u ∈ row.utcTimestamp, WithinWindow u t)

/-- **The search agrees with a full scan** exactly if, of the rows that match, one has the
fingerprint or is in the window. -/
theorem findDuplicateImport_complete_iff (ht : candidate.utcTimestamp = some t) :
    (HasMatch w.1 candidate →
        ∃ row, ((findDuplicateImport candidate).run (handle env) w).1 = .ok (some row))
      ↔ (HasMatch w.1 candidate → HasMatchInWindow w.1 candidate t) := by
  have hfound : (∃ row, ((findDuplicateImport candidate).run (handle env) w).1 = .ok (some row))
      ↔ (duplicateOf w.1 candidate).isSome = true := by
    rw [findDuplicateImport_run, Option.isSome_iff_exists]
    simp
  rw [hfound, duplicateOf_isSome]
  refine imp_congr_right fun _ => exists_congr fun row => and_congr_right fun _ => ?_
  rw [IsDuplicate, ht]
  simp only [Option.some.injEq, exists_eq_left', Option.mem_def]
  refine or_congr_right ?_
  rw [and_comm]
  exact and_congr_right fun hmatch => matchesQuery_window hmatch

/-- A contact at a time of day, without a fingerprint. -/
def contactAtInstant (seconds nanos : ℤ) : QsoRecord :=
  { localId := "a", stationCallsign := "K7RND", workedCallsign := "W1AW"
    band := Band.band20m.toI32, mode := Mode.ft8.toI32, utcTimestamp := some ⟨seconds, nanos⟩ }

/-- A store with the contact in it. -/
def holdingContact (seconds nanos : ℤ) : MemoryState :=
  MemoryState.empty.put (contactAtInstant seconds nanos)

/-- A row half a minute behind the full minute is found. -/
theorem findDuplicateImport_complete_halfMinute :
    ∃ row, ((findDuplicateImport (contactAtInstant 1714560000 0)).run (handle quietRemote)
      (holdingContact 1714560030 500000000, ())).1 = .ok (some row) := by
  have hget : (holdingContact 1714560030 500000000).get "a"
      = some (contactAtInstant 1714560030 500000000) := by
    decide +kernel
  have hmatch : qsosMatchForDuplicate (contactAtInstant 1714560030 500000000)
      (contactAtInstant 1714560000 0) = true := by
    decide +kernel
  have hwindow : ∀ u ∈ (contactAtInstant 1714560030 500000000).utcTimestamp,
      WithinWindow u ⟨1714560000, 0⟩ := by
    decide +kernel
  have ht : (contactAtInstant 1714560000 0).utcTimestamp = some ⟨1714560000, 0⟩ := rfl
  refine (findDuplicateImport_complete_iff (w := (holdingContact 1714560030 500000000, ())) ht).mpr
    (fun _ => ?_) ?_
  · exact ⟨_, hget, .inr ⟨hmatch, hwindow⟩⟩
  · exact ⟨_, hget, hmatch⟩

/-- A row 59.5 seconds behind the full minute matches and is not found. -/
theorem not_findDuplicateImport_complete :
    ¬ ∀ (s : MemoryState) (candidate : QsoRecord), candidate.utcTimestamp ≠ none →
      HasMatch s candidate →
        ∃ row, ((findDuplicateImport candidate).run (handle quietRemote) (s, ())).1
          = .ok (some row) := by
  intro h
  have hmissed : ((findDuplicateImport (contactAtInstant 1714560000 0)).run (handle quietRemote)
      (holdingContact 1714560059 500000000, ())).1.toOption = some none := by
    decide +kernel
  have hget : (holdingContact 1714560059 500000000).get "a"
      = some (contactAtInstant 1714560059 500000000) := by
    decide +kernel
  have hmatch : qsosMatchForDuplicate (contactAtInstant 1714560059 500000000)
      (contactAtInstant 1714560000 0) = true := by
    decide +kernel
  obtain ⟨row, hrow⟩ := h (holdingContact 1714560059 500000000) (contactAtInstant 1714560000 0)
    nofun ⟨_, hget, hmatch⟩
  rw [hrow] at hmissed
  cases hmissed

end QsoRipper
