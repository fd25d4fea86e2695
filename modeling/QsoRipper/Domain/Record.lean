/-
QsoRipper/Domain/Record.lean

The protobuf messages of the logbook as the generated Rust types hold them:
optional fields are `Option`, enumerations are their `i32` value, the map of
unmapped ADIF fields is ordered by key.  A field left out of a structure
literal has its protobuf default.

`==` on records is the derived `PartialEq`.  It is equality except on the
floating point fields, where it is the IEEE comparison, so a record holding a
NaN is not even equal to itself.
-/
import QsoRipper.Lib.Float64

namespace QsoRipper

/-! ### Enumerations -/

/-- `SyncStatus`. -/
inductive SyncStatus where
  | localOnly
  | synced
  | modified
  | conflict
  deriving DecidableEq

namespace SyncStatus

/-- `SyncStatus::X as i32`. -/
def toI32 : SyncStatus → ℤ
  | localOnly => 0
  | synced => 1
  | modified => 2
  | conflict => 3

/-- `SyncStatus::try_from(i32)`. -/
def tryFrom : ℤ → Option SyncStatus
  | 0 => some localOnly
  | 1 => some synced
  | 2 => some modified
  | 3 => some conflict
  | _ => none

end SyncStatus

/-- `LotwSyncStatus`. -/
inductive LotwSyncStatus where
  | localOnly
  | queued
  | uploaded
  | modified
  | confirmed
  | failed
  | conflict
  deriving DecidableEq

/-- `LotwSyncStatus::X as i32`. -/
def LotwSyncStatus.toI32 : LotwSyncStatus → ℤ
  | localOnly => 0
  | queued => 1
  | uploaded => 2
  | modified => 3
  | confirmed => 4
  | failed => 5
  | conflict => 6

/-- `LotwSyncStatus::try_from(i32)`. -/
def LotwSyncStatus.tryFrom : ℤ → Option LotwSyncStatus
  | 0 => some localOnly
  | 1 => some queued
  | 2 => some uploaded
  | 3 => some modified
  | 4 => some confirmed
  | 5 => some failed
  | 6 => some conflict
  | _ => none

/-- `QslStatus`. -/
inductive QslStatus where
  | unspecified
  | no
  | yes
  | requested
  | queued
  | ignore
  deriving DecidableEq

/-- `QslStatus::X as i32`. -/
def QslStatus.toI32 : QslStatus → ℤ
  | unspecified => 0
  | no => 1
  | yes => 2
  | requested => 3
  | queued => 4
  | ignore => 5

/-- `QslStatus::try_from(i32)`. -/
def QslStatus.tryFrom : ℤ → Option QslStatus
  | 0 => some unspecified
  | 1 => some no
  | 2 => some yes
  | 3 => some requested
  | 4 => some queued
  | 5 => some ignore
  | _ => none

/-- `Band`, in the order of its `i32` values. -/
inductive Band where
  | unspecified | band2190m | band630m | band560m | band160m | band80m | band60m | band40m
  | band30m | band20m | band17m | band15m | band12m | band10m | band8m | band6m | band5m
  | band4m | band2m | band125m | band70cm | band33cm | band23cm | band13cm | band9cm | band6cm
  | band3cm | band125cm | band6mm | band4mm | band25mm | band2mm | band1mm | submm
  deriving DecidableEq

/-- `band as i32`. -/
def Band.toI32 (b : Band) : ℤ := b.ctorIdx

/-- `Band::try_from(i32)`. -/
def Band.tryFrom (n : ℤ) : Option Band :=
  if 0 ≤ n ∧ n ≤ 33 then some (Band.ofNat n.toNat) else none

/-- `Mode`, in the order of its `i32` values. -/
inductive Mode where
  | unspecified | am | ardop | atv | chip | clo | contesti | cw | digitalvoice | domino
  | dynamic | fax | fm | fsk | ft8 | hell | iscat | jt4 | jt9 | jt44 | jt65 | mfsk | mtone
  | msk144 | ofdm | olivia | opera | pac | pax | pkt | psk | q15 | qra64 | ros | rtty | rttym
  | ssb | sstv | t10 | thor | thrb | tor | v4 | voi | winmor | wspr
  deriving DecidableEq

/-- `mode as i32`. -/
def Mode.toI32 (m : Mode) : ℤ := m.ctorIdx

/-- `Mode::try_from(i32)`. -/
def Mode.tryFrom (n : ℤ) : Option Mode :=
  if 0 ≤ n ∧ n ≤ 45 then some (Mode.ofNat n.toNat) else none

/-! ### Messages -/

/-- `prost_types::Timestamp`. -/
structure Timestamp where
  seconds : ℤ
  nanos : ℤ := 0
  deriving DecidableEq, Inhabited

structure RstReport where
  readability : Option ℕ := none
  strength : Option ℕ := none
  tone : Option ℕ := none
  raw : String := ""
  deriving DecidableEq, Inhabited

structure StationSnapshot where
  profileName : Option String := none
  stationCallsign : String := ""
  operatorCallsign : Option String := none
  operatorName : Option String := none
  grid : Option String := none
  county : Option String := none
  state : Option String := none
  country : Option String := none
  dxcc : Option ℕ := none
  cqZone : Option ℕ := none
  ituZone : Option ℕ := none
  latitude : Option Float64 := none
  longitude : Option Float64 := none
  arrlSection : Option String := none
  altitudeMeters : Option Float64 := none
  gridsquareExt : Option String := none
  deriving BEq, DecidableEq, Inhabited

structure QsoRecord where
  localId : String := ""
  qrzLogid : Option String := none
  qrzBookid : Option String := none
  stationCallsign : String := ""
  workedCallsign : String := ""
  utcTimestamp : Option Timestamp := none
  band : ℤ := 0
  mode : ℤ := 0
  frequencyKhz : Option ℕ := none
  frequencyHz : Option ℕ := none
  submode : Option String := none
  stationSnapshot : Option StationSnapshot := none
  utcEndTimestamp : Option Timestamp := none
  rstSent : Option RstReport := none
  rstReceived : Option RstReport := none
  txPower : Option String := none
  qslSentStatus : ℤ := 0
  qslReceivedStatus : ℤ := 0
  lotwSent : Option Bool := none
  lotwReceived : Option Bool := none
  eqslSent : Option Bool := none
  eqslReceived : Option Bool := none
  qslSentDate : Option Timestamp := none
  qslReceivedDate : Option Timestamp := none
  lotwSentStatus : ℤ := 0
  lotwReceivedStatus : ℤ := 0
  lotwSentDate : Option Timestamp := none
  lotwReceivedDate : Option Timestamp := none
  lotwSyncStatus : ℤ := 0
  workedOperatorCallsign : Option String := none
  workedOperatorName : Option String := none
  workedGrid : Option String := none
  workedCountry : Option String := none
  workedDxcc : Option ℕ := none
  workedState : Option String := none
  workedCqZone : Option ℕ := none
  workedItuZone : Option ℕ := none
  workedCounty : Option String := none
  workedIota : Option String := none
  workedContinent : Option String := none
  workedArrlSection : Option String := none
  skcc : Option String := none
  contestId : Option String := none
  serialSent : Option String := none
  serialReceived : Option String := none
  exchangeSent : Option String := none
  exchangeReceived : Option String := none
  propMode : Option String := none
  satName : Option String := none
  satMode : Option String := none
  notes : Option String := none
  comment : Option String := none
  createdAt : Option Timestamp := none
  updatedAt : Option Timestamp := none
  syncStatus : ℤ := 0
  deletedAt : Option Timestamp := none
  pendingRemoteDelete : Bool := false
  extraFields : Std.ExtTreeMap String String := ∅
  workedLatitude : Option Float64 := none
  workedLongitude : Option Float64 := none
  workedAltitudeMeters : Option Float64 := none
  workedGridsquareExt : Option String := none
  frequencyRxKhz : Option ℕ := none
  frequencyRxHz : Option ℕ := none
  bandRx : ℤ := 0
  ownerCallsign : Option String := none
  qsoComplete : ℤ := 0
  cwDecodeRxWpm : Option ℕ := none
  cwDecodeTranscript : Option String := none
  deriving BEq, DecidableEq, Inhabited

/-! ### Comparison -/

/-- A snapshot with its floating point fields blanked. -/
def StationSnapshot.withoutFloats (s : StationSnapshot) : StationSnapshot :=
  { s with latitude := none, longitude := none, altitudeMeters := none }

/-- The floating point fields of a snapshot. -/
def StationSnapshot.floats (s : StationSnapshot) : List (Option Float64) :=
  [s.latitude, s.longitude, s.altitudeMeters]

theorem StationSnapshot.beq_iff {a b : StationSnapshot} :
    (a == b) = true ↔ a.withoutFloats = b.withoutFloats ∧ (a.floats == b.floats) = true := by
  cases a
  cases b
  change instBEqStationSnapshot.beq _ _ = true ↔ _
  simp only [instBEqStationSnapshot.beq, withoutFloats, floats, Bool.and_eq_true, beq_iff_eq,
    mk.injEq, List.cons_beq_cons, true_and]
  grind

theorem snapshot_beq_iff {a b : Option StationSnapshot} :
    (a == b) = true ↔ a.map (·.withoutFloats) = b.map (·.withoutFloats)
      ∧ (a.elim [] (·.floats) == b.elim [] (·.floats)) = true := by
  cases a <;> cases b <;> simp [StationSnapshot.beq_iff]

namespace QsoRecord

/-- A record with its floating point fields blanked. -/
def withoutFloats (r : QsoRecord) : QsoRecord :=
  { r with
    stationSnapshot := r.stationSnapshot.map (·.withoutFloats)
    workedLatitude := none
    workedLongitude := none
    workedAltitudeMeters := none }

/-- The floating point fields of a record. -/
def floats (r : QsoRecord) : List (Option Float64) :=
  [r.workedLatitude, r.workedLongitude, r.workedAltitudeMeters]
    ++ r.stationSnapshot.elim [] (·.floats)

/-- **What `==` compares**: everything exactly, the floating point fields by
the IEEE comparison. -/
theorem beq_iff {a b : QsoRecord} :
    (a == b) = true ↔ a.withoutFloats = b.withoutFloats ∧ (a.floats == b.floats) = true := by
  cases a
  cases b
  change instBEqQsoRecord.beq _ _ = true ↔ _
  simp only [instBEqQsoRecord.beq, withoutFloats, floats, Bool.and_eq_true, beq_iff_eq, mk.injEq,
    List.cons_append, List.nil_append, List.cons_beq_cons, snapshot_beq_iff, true_and]
  tauto

/-- Whether a record equals itself is up to its floating point fields. -/
theorem beq_self_congr {a b : QsoRecord} (h : a.floats = b.floats) : (a == a) = (b == b) := by
  rw [Bool.eq_iff_iff, beq_iff, beq_iff, h]
  simp

/-- A field that ignores the floating point fields agrees on equal records. -/
theorem congr_of_beq {β : Type} {a b : QsoRecord} (h : (a == b) = true) (f : QsoRecord → β)
    (hf : ∀ r, f r.withoutFloats = f r) : f a = f b := by
  rw [← hf a, ← hf b, (beq_iff.mp h).1]

instance : PartialEquivBEq QsoRecord where
  symm h := by
    rw [beq_iff] at h ⊢
    exact ⟨h.1.symm, PartialEquivBEq.symm h.2⟩
  trans h₁ h₂ := by
    rw [beq_iff] at h₁ h₂ ⊢
    exact ⟨h₁.1.trans h₂.1, PartialEquivBEq.trans h₁.2 h₂.2⟩

end QsoRecord

end QsoRipper
