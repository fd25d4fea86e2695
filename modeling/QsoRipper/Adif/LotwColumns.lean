/-
QsoRipper/Adif/LotwColumns.lean

The reading half of the ADIF adapter as far as LoTW goes: the columns a record
has for it, and the sync status that is derived from them.
-/
import QsoRipper.Adif.Mapper
import QsoRipper.Lib.Text

namespace QsoRipper.Adif

/-! ### Dates -/

/-- A decimal number of an `i32` that has at most four characters. -/
def parseSigned (cs : List Char) : Option ℤ :=
  let (negative, digits) :=
    match cs with
    | '-' :: cs => (true, cs)
    | '+' :: cs => (false, cs)
    | cs => (false, cs)
  if digits.isEmpty || !digits.all Char.isDigit then none
  else
    let value : ℤ := digits.foldl (fun value c => value * 10 + (c.toNat - '0'.toNat)) 0
    some (if negative then -value else value)

/-- The length of a month. -/
def daysInMonth (year month : ℤ) : ℤ :=
  if month = 2 then
    if year % 4 = 0 ∧ (year % 100 ≠ 0 ∨ year % 400 = 0) then 29 else 28
  else if month = 4 ∨ month = 6 ∨ month = 9 ∨ month = 11 then 30 else 31

/-- The days from the epoch to a date, counting years from March. -/
def daysFromCivil (year month day : ℤ) : ℤ :=
  let y := if month ≤ 2 then year - 1 else year
  let dayOfYear := (153 * (if month > 2 then month - 3 else month + 9) + 2) / 5 + day - 1
  365 * y + y / 4 - y / 100 + y / 400 + dayOfYear - 719468

/-- `parse_adif_datetime` without a time. -/
def parseAdifDate (date : String) : Option Timestamp :=
  let cs := date.toList
  if cs.length ≠ 8 ∨ ¬ cs.all fun c => decide (c.toNat < 128) then none
  else do
    let year ← parseSigned (cs.take 4)
    let month ← (parseSigned ((cs.drop 4).take 2)).filter (0 ≤ ·)
    let day ← (parseSigned (cs.drop 6)).filter (0 ≤ ·)
    if 1 ≤ month ∧ month ≤ 12 ∧ 1 ≤ day ∧ day ≤ daysInMonth year month then
      some ⟨daysFromCivil year month day * 86400, 0⟩
    else none

/-! ### Columns -/

/-- `qsl_status_from_adif`. -/
def qslStatusFromAdif (s : String) : QslStatus :=
  match Text.toUppercase s with
  | "Y" => .yes
  | "N" => .no
  | "R" => .requested
  | "Q" => .queued
  | "I" => .ignore
  | _ => .unspecified

/-- `qsl_status_as_confirmation`. -/
def qslStatusAsConfirmation : QslStatus → Option Bool
  | .yes => some true
  | .no => some false
  | _ => none

/-- What the LoTW columns of a record come to. -/
structure LotwColumns where
  sentStatus : QslStatus := .unspecified
  sent : Option Bool := none
  receivedStatus : QslStatus := .unspecified
  received : Option Bool := none
  sentDate : Option Timestamp := none
  receivedDate : Option Timestamp := none
  /-- Dates that do not parse, which become extra fields. -/
  unparsed : List AdifField := []

/-- The LoTW arms of `record_to_qso`. -/
def LotwColumns.read (columns : LotwColumns) (field : AdifField) : LotwColumns :=
  let key := Text.toUppercase field.1
  match key with
  | "LOTW_QSL_SENT" =>
      { columns with
        sentStatus := qslStatusFromAdif field.2
        sent := qslStatusAsConfirmation (qslStatusFromAdif field.2) }
  | "LOTW_QSL_RCVD" =>
      { columns with
        receivedStatus := qslStatusFromAdif field.2
        received := qslStatusAsConfirmation (qslStatusFromAdif field.2) }
  | "LOTW_QSLSDATE" =>
      match parseAdifDate field.2 with
      | some ts => { columns with sentDate := some ts }
      | none => { columns with unparsed := columns.unparsed ++ [(key, field.2)] }
  | "LOTW_QSLRDATE" =>
      match parseAdifDate field.2 with
      | some ts => { columns with receivedDate := some ts }
      | none => { columns with unparsed := columns.unparsed ++ [(key, field.2)] }
  | _ => columns

/-- The columns of a record. -/
def LotwColumns.ofFields (fields : List AdifField) : LotwColumns := fields.foldl read {}

/-- `derive_lotw_sync_status`. -/
def deriveLotwSyncStatus (qso : QsoRecord) : LotwSyncStatus :=
  let received := (QslStatus.tryFrom qso.lotwReceivedStatus).getD .unspecified
  if received = .yes ∨ qso.lotwReceived = some true then .confirmed
  else
    match (QslStatus.tryFrom qso.lotwSentStatus).getD .unspecified with
    | .yes => .uploaded
    | .queued => .queued
    | _ => if qso.lotwSent = some true then .uploaded else .localOnly

/-- `record_to_qso`, given the record that the other columns come to. -/
def recordToQso (others : QsoRecord) (fields : List AdifField) : QsoRecord :=
  let columns := LotwColumns.ofFields fields
  let qso := { others with
    lotwSentStatus := columns.sentStatus.toI32
    lotwSent := columns.sent
    lotwReceivedStatus := columns.receivedStatus.toI32
    lotwReceived := columns.received
    lotwSentDate := columns.sentDate
    lotwReceivedDate := columns.receivedDate
    extraFields := others.extraFields.insertMany columns.unparsed }
  { qso with lotwSyncStatus := (deriveLotwSyncStatus qso).toI32 }

/-! ### The derived status -/

/-- What the columns say about a contact. -/
def LotwColumns.standing (columns : LotwColumns) : LotwSyncStatus :=
  if columns.receivedStatus = .yes then .confirmed
  else
    match columns.sentStatus with
    | .yes => .uploaded
    | .queued => .queued
    | _ => .localOnly

/-- The two forms of a status agree. -/
structure LotwColumns.Agree (columns : LotwColumns) : Prop where
  sent : columns.sent = qslStatusAsConfirmation columns.sentStatus
  received : columns.received = qslStatusAsConfirmation columns.receivedStatus

theorem LotwColumns.Agree.read {columns : LotwColumns} (h : columns.Agree) (field : AdifField) :
    (columns.read field).Agree := by
  unfold LotwColumns.read
  dsimp only
  split
  · exact ⟨rfl, h.received⟩
  · exact ⟨h.sent, rfl⟩
  · split <;> exact ⟨h.sent, h.received⟩
  · split <;> exact ⟨h.sent, h.received⟩
  · exact h

theorem LotwColumns.agree_ofFields (fields : List AdifField) :
    (LotwColumns.ofFields fields).Agree := by
  rw [LotwColumns.ofFields]
  have hrun : ∀ columns : LotwColumns, columns.Agree →
      (fields.foldl LotwColumns.read columns).Agree := by
    induction fields with
    | nil => exact fun _ h => h
    | cons field fields ih => exact fun columns h => ih (columns.read field) (h.read field)
  exact hrun {} ⟨rfl, rfl⟩

theorem tryFrom_toI32 (status : QslStatus) : QslStatus.tryFrom status.toI32 = some status := by
  cases status <;> rfl

/-- **The sync status of a record** is what its columns say. -/
theorem lotwSyncStatus_recordToQso (others : QsoRecord) (fields : List AdifField) :
    (recordToQso others fields).lotwSyncStatus
      = (LotwColumns.ofFields fields).standing.toI32 := by
  have hagree := LotwColumns.agree_ofFields fields
  rw [recordToQso]
  dsimp only
  rw [deriveLotwSyncStatus]
  simp only [tryFrom_toI32, Option.getD_some]
  rw [hagree.sent, hagree.received, LotwColumns.standing]
  rcases (LotwColumns.ofFields fields).receivedStatus <;>
    rcases (LotwColumns.ofFields fields).sentStatus <;> rfl

theorem lotwReceivedStatus_recordToQso (others : QsoRecord) (fields : List AdifField) :
    (recordToQso others fields).lotwReceivedStatus
      = (LotwColumns.ofFields fields).receivedStatus.toI32 := rfl

end QsoRipper.Adif
