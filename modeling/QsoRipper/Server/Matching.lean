/-
QsoRipper/Server/Matching.lean

Recognising a downloaded record among the local rows: the two indexes the
download phase builds, the QRZ logid of a record, and the fuzzy match on
callsign, band, mode and time.
-/
import QsoRipper.Lib.Text
import QsoRipper.Domain.Record

namespace QsoRipper

/-! ### QRZ logids -/

/-- `QRZ_LOGID_EXTRA_FIELDS`. -/
def qrzLogidExtraFields : List String := ["APP_QRZLOG_LOGID", "APP_QRZ_LOGID"]

/-- `filter(|s| !s.is_empty())`. -/
def nonEmpty (value : Option String) : Option String := value.filter fun s => !s.isEmpty

/-- `extract_qrz_logid`: the dedicated field, then the legacy aliases. -/
def extractQrzLogid (qso : QsoRecord) : Option String :=
  (nonEmpty qso.qrzLogid).or
    (qrzLogidExtraFields.findSome? fun key => nonEmpty qso.extraFields[key]?)

section

variable {a b : QsoRecord} {logid : String}

theorem extractQrzLogid_of_beq (h : (a == b) = true) : extractQrzLogid a = extractQrzLogid b :=
  QsoRecord.congr_of_beq h extractQrzLogid fun _ => rfl

theorem nonEmpty_eq_some {value : Option String} :
    nonEmpty value = some logid ↔ value = some logid ∧ logid ≠ "" := by
  simp [nonEmpty, Option.filter_eq_some_iff]

theorem nonEmpty_some (h : logid ≠ "") : nonEmpty (some logid) = some logid :=
  nonEmpty_eq_some.mpr ⟨rfl, h⟩

/-- A logid that was read is not empty. -/
theorem extractQrzLogid_ne_empty (h : extractQrzLogid a = some logid) : logid ≠ "" := by
  rw [extractQrzLogid, Option.or_eq_some_iff] at h
  rcases h with h | ⟨-, h⟩
  · exact (nonEmpty_eq_some.mp h).2
  · obtain ⟨key, -, hkey⟩ := List.exists_of_findSome?_eq_some h
    exact (nonEmpty_eq_some.mp hkey).2

/-- The dedicated field comes first. -/
theorem extractQrzLogid_of_field (h : a.qrzLogid = some logid) (hne : logid ≠ "") :
    extractQrzLogid a = some logid := by
  rw [extractQrzLogid, h, nonEmpty_some hne, Option.some_or]

theorem extractQrzLogid_congr (hq : nonEmpty a.qrzLogid = nonEmpty b.qrzLogid)
    (hx : ∀ key ∈ qrzLogidExtraFields, a.extraFields[key]? = b.extraFields[key]?) :
    extractQrzLogid a = extractQrzLogid b := by
  have h₁ := hx "APP_QRZLOG_LOGID" (by decide)
  have h₂ := hx "APP_QRZ_LOGID" (by decide)
  simp only [extractQrzLogid, qrzLogidExtraFields, List.findSome?_cons, List.findSome?_nil, hq, h₁, h₂]

end

/-! ### Indexes -/

/-- `LogidIndex`. -/
abbrev LogidIndex := String → Option QsoRecord

/-- The key of the fuzzy index: callsign, band, mode. -/
abbrev FuzzyKey := String × ℤ × ℤ

/-- `FuzzyIndex`; a key without an entry has no candidates. -/
abbrev FuzzyIndex := FuzzyKey → List QsoRecord

/-- The key a record is filed under. -/
def fuzzyKey (qso : QsoRecord) : FuzzyKey :=
  (Text.toAsciiUppercase qso.workedCallsign, qso.band, qso.mode)

/-- `by_qrz_logid.insert`. -/
def LogidIndex.insert (index : LogidIndex) (logid : String) (qso : QsoRecord) : LogidIndex :=
  Function.update index logid (some qso)

/-- `by_key.entry(key).or_default().push`. -/
def FuzzyIndex.push (index : FuzzyIndex) (qso : QsoRecord) : FuzzyIndex :=
  Function.update index (fuzzyKey qso) (index (fuzzyKey qso) ++ [qso])

/-- The two indexes. -/
structure LocalIndexes where
  byQrzLogid : LogidIndex
  byKey : FuzzyIndex

/-- File a record in both indexes, under the logid when there is one. -/
def LocalIndexes.add (indexes : LocalIndexes) (logid : Option String) (qso : QsoRecord) :
    LocalIndexes where
  byQrzLogid := logid.elim indexes.byQrzLogid fun logid => indexes.byQrzLogid.insert logid qso
  byKey := indexes.byKey.push qso

/-- `build_local_indexes`. -/
def buildLocalIndexes (localQsos : List QsoRecord) : LocalIndexes :=
  localQsos.foldl (fun indexes qso => indexes.add (nonEmpty qso.qrzLogid) qso)
    { byQrzLogid := fun _ => none, byKey := fun _ => [] }

/-- `partition_local_for_sync`: the active rows, and the logids of the
soft-deleted ones. -/
def partitionLocalForSync (localQsos : List QsoRecord) : List QsoRecord × Finset String :=
  (localQsos.filter fun qso => qso.deletedAt.isNone,
    ((localQsos.filter fun qso => qso.deletedAt.isSome).filterMap fun qso =>
      nonEmpty qso.qrzLogid).toFinset)

/-! ### Fuzzy match -/

/-- `TIMESTAMP_TOLERANCE_SECONDS`. -/
def timestampToleranceSeconds : ℤ := 60

/-- `(a - b).abs()` in `i64`, which wraps. -/
def absDiffI64 (a b : ℤ) : ℤ :=
  let d := (a - b).bmod (2 ^ 64)
  if d = -2 ^ 63 then d else |d|

/-- Are the two timestamps within the tolerance? -/
def withinTolerance (localTs remoteTs : ℤ) : Bool :=
  decide (absDiffI64 localTs remoteTs ≤ timestampToleranceSeconds)

/-- `fuzzy_match`. -/
def fuzzyMatch (remote : QsoRecord) (byKey : FuzzyIndex) : Option QsoRecord :=
  remote.utcTimestamp.bind fun remoteTs =>
    (byKey (fuzzyKey remote)).find? fun candidate =>
      candidate.utcTimestamp.any fun ts => withinTolerance ts.seconds remoteTs.seconds

/-- The local row a remote record is matched to: by logid, else fuzzily. -/
def LocalIndexes.match (indexes : LocalIndexes) (remoteLogid : Option String)
    (remote : QsoRecord) : Option QsoRecord :=
  (remoteLogid.bind indexes.byQrzLogid).or (fuzzyMatch remote indexes.byKey)

theorem withinTolerance_self (a : ℤ) : withinTolerance a a = true := by
  simp [withinTolerance, absDiffI64, timestampToleranceSeconds]

end QsoRipper
