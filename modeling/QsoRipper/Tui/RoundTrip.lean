/-
QsoRipper/Tui/RoundTrip.lean

A contact that is opened in the terminal client and saved as it is.  The record that is
sent is the stored one, in what the engine takes from it, exactly if each field is what
its text reads back as.
-/
import QsoRipper.Application.Edits
import QsoRipper.Tui.ExtraFields
import QsoRipper.Tui.Saves
import QsoRipper.Tui.Texts

namespace QsoRipper.Tui

/-! ### Bands and modes -/

/-- The bands that the form has. -/
def listedBands : List Band :=
  [.band160m, .band80m, .band60m, .band40m, .band30m, .band20m, .band17m, .band15m, .band12m,
    .band10m, .band6m, .band2m, .band70cm]

/-- The modes of the form that stand for themselves. -/
def listedModes : List Mode := [.ssb, .cw, .ft8, .rtty, .am, .fm]

/-- The band that a form has for a code. -/
def shownBand (code : ℤ) : Fin 13 :=
  (position bands (((Band.tryFrom code).bind Adif.bandToAdif).getD "?")).getD 5

/-- The mode that a form has for a code. -/
def shownMode (code : ℤ) : Fin 8 :=
  (position modes (((Mode.tryFrom code).bind Adif.modeToAdif).getD "?")).getD 0

/-- Every code with what a form shows of it. -/
theorem codes_shown :
    (∀ n ∈ List.range 34, (((bandFromAdif (bands (shownBand n))).getD .unspecified).toI32 = n
        ↔ (n : ℤ) ∈ listedBands.map Band.toI32)
      ∧ ((((Band.tryFrom n).bind Adif.bandToAdif).bind bandFromAdif).map Band.toI32).getD 0 = n)
      ∧ ((bandFromAdif (bands 5)).getD .unspecified).toI32 = 9
      ∧ (∀ n ∈ List.range 46,
        ((resolveMode (modes (shownMode n))).1.toI32 = n ↔ (n : ℤ) ∈ listedModes.map Mode.toI32)
          ∧ (resolveMode (modes (shownMode n))).2 = none)
      ∧ (resolveMode (modes 0)).1.toI32 = 36
      ∧ position bands "?" = none ∧ position modes "?" = none := by
  decide +kernel

theorem band_shown_eq_iff {code : ℤ} :
    ((bandFromAdif (bands (shownBand code))).getD .unspecified).toI32 = code
      ↔ code ∈ listedBands.map Band.toI32 := by
  by_cases hcode : 0 ≤ code ∧ code ≤ 33
  · obtain ⟨n, rfl⟩ := Int.eq_ofNat_of_zero_le hcode.1
    exact (codes_shown.1 n (List.mem_range.mpr (by omega))).1
  · have hshown : shownBand code = 5 := by
      rw [shownBand, Band.tryFrom, if_neg hcode, Option.bind_none, Option.getD_none,
        codes_shown.2.2.2.2.1]
      rfl
    have hlisted : ∀ b ∈ listedBands.map Band.toI32, 0 ≤ b ∧ b ≤ 33 := by decide
    rw [hshown, codes_shown.2.1]
    exact iff_of_false (by omega) fun hmem => hcode (hlisted code hmem)

theorem bandRx_shown_eq_iff {code : ℤ} :
    ((((Band.tryFrom code).bind Adif.bandToAdif).bind bandFromAdif).map Band.toI32).getD 0 = code
      ↔ (Band.tryFrom code).isSome := by
  by_cases hcode : 0 ≤ code ∧ code ≤ 33
  · obtain ⟨n, rfl⟩ := Int.eq_ofNat_of_zero_le hcode.1
    have hsome : (Band.tryFrom n).isSome := by
      rw [Band.tryFrom, if_pos hcode]
      rfl
    exact iff_of_true (codes_shown.1 n (List.mem_range.mpr (by omega))).2 hsome
  · rw [Band.tryFrom, if_neg hcode]
    simp only [Option.bind_none, Option.map_none, Option.getD_none, Option.isSome_none,
      Bool.false_eq_true, iff_false]
    omega

/-- A mode that stands for itself has no submode. -/
theorem mode_shown_eq_iff {code : ℤ} {submode : Option String} :
    ((resolveMode (modes (shownMode code))).1.toI32 = code
        ∧ (if submode.getD "" = "" then (resolveMode (modes (shownMode code))).2
          else some (submode.getD "")) = submode)
      ↔ code ∈ listedModes.map Mode.toI32 ∧ submode ≠ some "" := by
  have hsubmode : (if submode.getD "" = "" then none else some (submode.getD "")) = submode
      ↔ submode ≠ some "" := optString_eq_iff
  by_cases hcode : 0 ≤ code ∧ code ≤ 45
  · obtain ⟨n, rfl⟩ := Int.eq_ofNat_of_zero_le hcode.1
    obtain ⟨hmode, hnone⟩ := codes_shown.2.2.1 n (List.mem_range.mpr (by omega))
    rw [hnone]
    exact and_congr hmode hsubmode
  · have hshown : shownMode code = 0 := by
      rw [shownMode, Mode.tryFrom, if_neg hcode, Option.bind_none, Option.getD_none,
        codes_shown.2.2.2.2.2]
      rfl
    have hlisted : ∀ m ∈ listedModes.map Mode.toI32, 0 ≤ m ∧ m ≤ 45 := by decide
    rw [hshown, codes_shown.2.2.2.1]
    exact iff_of_false (fun h => hcode (by omega)) fun h => hcode (hlisted code h.1)

/-! ### Reports -/

/-- A report is not empty, and its numbers are its digits. -/
def ReportKept (report : RstReport) : Prop :=
  report.raw ≠ ""
    ∧ (report.readability, report.strength, report.tone) = rstDigits report.raw

theorem parseRst_eq_iff {report : Option RstReport} :
    parseRst ((report.map (·.raw)).getD "") = report ↔ ∀ r ∈ report, ReportKept r := by
  rcases report with - | ⟨readability, strength, tone, raw⟩
  · simp [parseRst]
  · by_cases hraw : raw = ""
    · simp [parseRst, ReportKept, hraw]
    · obtain ⟨r, st, t, hdigits⟩ : ∃ r st t, rstDigits raw = (r, st, t) := ⟨_, _, _, rfl⟩
      have hparse : parseRst raw = some { readability := r, strength := st, tone := t, raw } := by
        rw [parseRst, if_neg hraw, hdigits]
      rw [Option.map_some, Option.getD_some, hparse]
      simp only [Option.some.injEq, RstReport.mk.injEq, and_true, Option.mem_def, forall_eq',
        ReportKept, ne_eq, hraw, not_false_eq_true, true_and, hdigits, Prod.mk.injEq]
      constructor
      · rintro ⟨rfl, rfl, rfl⟩
        exact ⟨rfl, rfl, rfl⟩
      · rintro ⟨rfl, rfl, rfl⟩
        exact ⟨rfl, rfl, rfl⟩

/-! ### A record that is opened and saved -/

/-- The numbers of a record are `u32` and `u64`. -/
structure WellTyped (r : QsoRecord) : Prop where
  frequencyHz : ∀ n ∈ r.frequencyHz, n < 2 ^ 64
  workedDxcc : ∀ n ∈ r.workedDxcc, n < 2 ^ 32
  workedCqZone : ∀ n ∈ r.workedCqZone, n < 2 ^ 32
  workedItuZone : ∀ n ∈ r.workedItuZone, n < 2 ^ 32
  cwDecodeRxWpm : ∀ n ∈ r.cwDecodeRxWpm, n < 2 ^ 32

/-- The texts that the form has a field for. -/
def formTexts (r : QsoRecord) : List (Option String) :=
  [r.comment, r.notes, r.txPower, r.submode, r.contestId, r.serialSent, r.serialReceived,
    r.exchangeSent, r.exchangeReceived, r.propMode, r.satName, r.satMode, r.workedIota,
    r.workedArrlSection, r.workedState, r.workedCounty, r.workedOperatorCallsign,
    r.workedOperatorName, r.workedGrid, r.workedCountry, r.workedContinent, r.skcc,
    r.cwDecodeTranscript]

/-- **What survives** being opened and saved. -/
structure Survives (readers : Readers) (formats : Formats) (now : Now) (r : QsoRecord) : Prop where
  callsign : Text.toUppercase r.workedCallsign = r.workedCallsign
  operator : ∀ s ∈ r.workedOperatorCallsign, Text.toUppercase s = s
  band : r.band ∈ listedBands.map Band.toI32
  mode : r.mode ∈ listedModes.map Mode.toI32
  bandRx : (Band.tryFrom r.bandRx).isSome
  frequency : r.frequencyHz = none → r.frequencyKhz = none
  start : ∀ ts ∈ r.utcTimestamp, formats.IsMinute ts
  /-- The end is on the day of the start, or without one today. -/
  finish : ∀ ts ∈ r.utcEndTimestamp, formats.IsMinute ts
    ∧ r.utcTimestamp.elim (readers.date now.date = some (ts.seconds / 86400 * 86400))
      fun start => start.seconds / 86400 = ts.seconds / 86400
  rstSent : ∀ report ∈ r.rstSent, ReportKept report
  rstReceived : ∀ report ∈ r.rstReceived, ReportKept report
  qslSentStatus : (QslStatus.tryFrom r.qslSentStatus).isSome
  qslReceivedStatus : (QslStatus.tryFrom r.qslReceivedStatus).isSome
  qslSentDate : ∀ ts ∈ r.qslSentDate, formats.IsMidnight ts
  qslReceivedDate : ∀ ts ∈ r.qslReceivedDate, formats.IsMidnight ts
  texts : ∀ text ∈ formTexts r, text ≠ some ""
  extraFields : PlainFields r.extraFields

/-- The record that is sent for one that is opened and saved. -/
def openAndSave (readers : Readers) (formats : Formats) (now later : Now) (app : App)
    (localId : String) : Except String QsoRecord :=
  ((app.loadQsoIntoForm formats now localId).spawnLogQso later).update readers localId

/-- Two records that are the same to `update_qso` of the engine: the fields that it takes
from the request agree. -/
def SameUpdate (stored sent : QsoRecord) : Prop :=
  ∀ createdAt updatedAt, stampUpdate stored (carryStored stored sent) createdAt updatedAt
    = stampUpdate stored (carryStored stored stored) createdAt updatedAt

section Opened

variable {readers : Readers} {formats : Formats} {now : Now} {r : QsoRecord}

theorem parseFrequencyMhz_eq_iff (hr : WellTyped r) :
    parseFrequencyMhz readers (formatFrequency r) = r.frequencyHz
      ↔ (r.frequencyHz = none → r.frequencyKhz = none) := by
  have hblank : parseFrequencyMhz readers "" = none := by
    rw [parseFrequencyMhz, Text.trim_empty]
    rfl
  rw [formatFrequency]
  cases hhz : r.frequencyHz with
  | some hz =>
      rw [Option.some_or, Option.map_some, Option.getD_some,
        parseFrequencyMhz_formatFrequencyMhz (hr.frequencyHz hz hhz)]
      exact iff_of_true rfl nofun
  | none =>
      cases hkhz : r.frequencyKhz with
      | none => simp [hblank]
      | some khz =>
          have hbound : khz * 1000 % 2 ^ 64 < 2 ^ 64 := Nat.mod_lt _ (by decide)
          rw [Option.none_or, Option.map_some, Option.map_some, Option.getD_some,
            parseFrequencyMhz_formatFrequencyMhz hbound]
          exact iff_of_false nofun fun h => nomatch h rfl

/-- The start and the end are read with the same date. -/
theorem times_eq_iff (h : readers.Reads formats) (now : Now) (start finish : Option Timestamp) :
    (parseTimestamp readers (shownDate formats now start) (formatOptional formats.time start)
        = start
      ∧ (if formatOptional formats.time finish = "" then none
        else parseTimestamp readers (shownDate formats now start)
          (formatOptional formats.time finish)) = finish)
      ↔ (∀ ts ∈ start, formats.IsMinute ts) ∧ ∀ ts ∈ finish, formats.IsMinute ts
        ∧ start.elim (readers.date now.date = some (ts.seconds / 86400 * 86400))
          fun start => start.seconds / 86400 = ts.seconds / 86400 := by
  rw [parseTimestamp_start h, parseTimestamp_end h]
  refine and_congr_right fun hstart => forall₂_congr fun ts _ => and_congr_right fun _ => ?_
  cases start with
  | none => rfl
  | some start =>
      obtain ⟨date, hdate⟩ := Option.isSome_iff_exists.mp (hstart start rfl).1
      rw [shownDate, Option.bind_some, hdate, Option.getD_some, (h.date _ date hdate).1,
        Option.some.injEq, Option.elim_some]
      omega

theorem stationSnapshotFromForm_ok (h : readers.Reads formats) (now : Now) (tab : AdvancedTab)
    (provenance : Provenance) :
    ∃ snapshot, stationSnapshotFromForm readers
      (loadedForm formats now tab provenance (.ofRecord formats r)) = .ok snapshot := by
  have hcoordinate (x : Option Float64) :
      ∃ y, optF64 readers ((x.map formats.float).getD "") = .ok y := by
    rcases x with - | x
    · refine ⟨none, ?_⟩
      rw [Option.map_none, Option.getD_none, optF64, Text.trim_empty]
      rfl
    · rw [Option.map_some, Option.getD_some]
      unfold optF64
      dsimp only
      rw [h.float]
      split_ifs
      · exact ⟨_, rfl⟩
      · exact ⟨_, rfl⟩
  have htexts : ∃ lat long, (loadedForm formats now tab provenance (.ofRecord formats r)).text
        .snapshotLatitude = ((lat : Option Float64).map formats.float).getD ""
      ∧ (loadedForm formats now tab provenance (.ofRecord formats r)).text
        .snapshotLongitude = ((long : Option Float64).map formats.float).getD "" := by
    cases hsnapshot : r.stationSnapshot with
    | none =>
        refine ⟨none, none, ?_, ?_⟩ <;>
          simp [loadedForm, loadedText, RecentQso.ofRecord, hsnapshot]
    | some snapshot =>
        refine ⟨snapshot.latitude, snapshot.longitude, ?_, ?_⟩ <;>
          simp [loadedForm, loadedText, RecentQso.ofRecord, hsnapshot, snapshotText]
  obtain ⟨lat, long, hlat, hlong⟩ := htexts
  obtain ⟨latitude, hlatitude⟩ := hcoordinate lat
  obtain ⟨longitude, hlongitude⟩ := hcoordinate long
  unfold stationSnapshotFromForm
  dsimp only
  split_ifs
  · exact ⟨none, rfl⟩
  · rw [hlat, hlong, hlatitude, hlongitude]
    exact ⟨_, rfl⟩

/-- The form of a row that is opened, as it is sent. -/
theorem openAndSave_eq (readers : Readers) (now later : Now) (app : App)
    (hrow : app.recentQsos.find? (·.localId == r.localId) = some (.ofRecord formats r))
    (hlookup : app.lookupResult = none) :
    ∃ tab provenance, openAndSave readers formats now later app r.localId
      = updateQso readers r.localId (loadedForm formats now tab provenance (.ofRecord formats r))
        none (some r) := by
  refine ⟨app.form.advancedTab,
    { serial := app.form.provenance.serial + 1, loadedFrom := some r.localId }, ?_⟩
  rw [openAndSave, App.loadQsoIntoForm, hrow]
  simp only [Save.update, App.spawnLogQso, Option.isNone_some, Bool.false_and,
    Bool.false_eq_true, if_false, hlookup, Option.map_none, Option.bind_some, hrow,
    Option.map_some]
  rfl

theorem updateQso_loaded (h : readers.Reads formats) (hr : WellTyped r) (tab : AdvancedTab)
    (provenance : Provenance) :
    (∃ sent, updateQso readers r.localId
        (loadedForm formats now tab provenance (.ofRecord formats r)) none (some r) = .ok sent
          ∧ SameUpdate r sent)
      ↔ Survives readers formats now r := by
  obtain ⟨snapshot, hsnapshot⟩ := stationSnapshotFromForm_ok h now tab provenance
  obtain ⟨sentDate, hsentDate, hsentDateKept⟩ := parseOptionalDate_formatOptional h r.qslSentDate
  obtain ⟨receivedDate, hreceivedDate, hreceivedDateKept⟩ :=
    parseOptionalDate_formatOptional h r.qslReceivedDate
  generalize hform : loadedForm formats now tab provenance (.ofRecord formats r) = form
    at hsnapshot
  have htext (f : Field) : form.text f = loadedText formats now (.ofRecord formats r) f := by
    rw [← hform]
    rfl
  have hband : form.bandIdx = shownBand r.band := by
    rw [← hform]
    rfl
  have hmode : form.modeIdx = shownMode r.mode := by
    rw [← hform]
    rfl
  have hrxHz : form.rigFrequencyRxHz = r.frequencyRxHz := by
    rw [← hform]
    rfl
  have hrxBand : form.rigBandRx = (Band.tryFrom r.bandRx).bind Adif.bandToAdif := by
    rw [← hform]
    rfl
  unfold updateQso
  rw [hsnapshot]
  simp only [htext, hband, hmode, hrxHz, hrxBand]
  simp only [loadedText, RecentQso.ofRecord, parseQslStatus_formatQslStatus,
    parseOptionalBool_formatOptionalBool, hsentDate, hreceivedDate, bind, Except.bind, pure,
    Except.pure]
  cases hextra : parseExtraFields (formatExtraFields r.extraFields) with
  | error e =>
      refine iff_of_false (fun ⟨sent, hsent, _⟩ => nomatch hsent) fun hs => ?_
      rw [parseExtraFields_formatExtraFields.mpr hs.extraFields] at hextra
      cases hextra
  | ok fields =>
      have hfields : fields = r.extraFields ↔ PlainFields r.extraFields := by
        rw [← parseExtraFields_formatExtraFields, hextra, Except.ok.injEq]
      have htimes := times_eq_iff h now r.utcTimestamp r.utcEndTimestamp
      simp only [shownDate] at htimes
      simp only [Except.ok.injEq, exists_eq_left', SameUpdate, stampUpdate, carryStored,
        QsoRecord.mk.injEq, true_and, forall_const, Option.getD_some, Option.getD_none,
        Option.or_none, optU32_formatNumber hr.workedDxcc, optU32_formatNumber hr.workedCqZone,
        optU32_formatNumber hr.workedItuZone, optU32_formatNumber hr.cwDecodeRxWpm]
      simp only [parseFrequencyMhz_eq_iff hr, parseRst_eq_iff, optString_eq_iff,
        optString_toUppercase_eq_iff, qslStatus_toI32_eq_iff, hsentDateKept, hreceivedDateKept,
        hfields, band_shown_eq_iff, bandRx_shown_eq_iff]
      constructor
      · rintro ⟨hcallsign, hstart, hband, hmode, hfrequency, hsubmode, hend, hrstSent, hrstReceived,
          htxPower, hsentStatus, hreceivedStatus, hsentDate, hreceivedDate,
          ⟨hoperatorNe, hoperator⟩, hname, hgrid, hcountry, hstate, hcounty, hiota, hcontinent, hsection, hskcc, hcontest,
          hserialSent, hserialReceived, hexchangeSent, hexchangeReceived, hpropMode, hsatName,
          hsatMode, hnotes, hcomment, hextraKept, hbandRx, htranscript⟩
        obtain ⟨hstart, hend⟩ := htimes.mp ⟨hstart, hend⟩
        obtain ⟨hmode, hsubmode⟩ := mode_shown_eq_iff.mp ⟨hmode, hsubmode⟩
        refine ⟨hcallsign, hoperator, hband, hmode, hbandRx, hfrequency, hstart, hend, hrstSent,
          hrstReceived, hsentStatus, hreceivedStatus, hsentDate, hreceivedDate, ?_, hextraKept⟩
        simp only [formTexts, List.forall_mem_cons, List.not_mem_nil, false_imp_iff, implies_true,
          and_true]
        exact ⟨hcomment, hnotes, htxPower, hsubmode, hcontest, hserialSent, hserialReceived,
          hexchangeSent, hexchangeReceived, hpropMode, hsatName, hsatMode, hiota, hsection, hstate,
          hcounty, hoperatorNe, hname, hgrid, hcountry, hcontinent, hskcc, htranscript⟩
      · intro hs
        obtain ⟨hstart, hend⟩ := htimes.mpr ⟨hs.start, hs.finish⟩
        have htexts := hs.texts
        simp only [formTexts, List.forall_mem_cons, List.not_mem_nil, false_imp_iff, implies_true,
          and_true] at htexts
        obtain ⟨hcomment, hnotes, htxPower, hsubmode, hcontest, hserialSent, hserialReceived,
          hexchangeSent, hexchangeReceived, hpropMode, hsatName, hsatMode, hiota, hsection, hstate,
          hcounty, hoperatorNe, hname, hgrid, hcountry, hcontinent, hskcc, htranscript⟩ := htexts
        obtain ⟨hmode, hsubmode⟩ := mode_shown_eq_iff.mpr ⟨hs.mode, hsubmode⟩
        exact ⟨hs.callsign, hstart, hs.band, hmode, hs.frequency, hsubmode, hend, hs.rstSent,
          hs.rstReceived, htxPower, hs.qslSentStatus, hs.qslReceivedStatus, hs.qslSentDate,
          hs.qslReceivedDate, ⟨hoperatorNe, hs.operator⟩, hname, hgrid, hcountry, hstate, hcounty,
          hiota, hcontinent, hsection, hskcc, hcontest, hserialSent, hserialReceived,
          hexchangeSent, hexchangeReceived, hpropMode, hsatName, hsatMode, hnotes, hcomment,
          hs.extraFields, hs.bandRx, htranscript⟩

/-- **What is opened and saved is unchanged** exactly if it survives. -/
theorem openAndSave_unchanged_iff (h : readers.Reads formats) (hr : WellTyped r) {later : Now}
    {app : App} (hrow : app.recentQsos.find? (·.localId == r.localId) = some (.ofRecord formats r))
    (hlookup : app.lookupResult = none) :
    (∃ sent, openAndSave readers formats now later app r.localId = .ok sent ∧ SameUpdate r sent)
      ↔ Survives readers formats now r := by
  obtain ⟨tab, provenance, hsave⟩ := openAndSave_eq readers now later app hrow hlookup
  rw [hsave]
  exact updateQso_loaded h hr tab provenance

end Opened

/-! ### Two contacts -/

/-- Formats of the first minute of 1970; no other time is in range. -/
def epochFormats : Formats where
  toLowercase := Text.toAsciiLowercase
  date s := if 0 ≤ s ∧ s < 60 then some "1970-01-01" else none
  time s := if 0 ≤ s ∧ s < 60 then some "00:00" else none
  stamp _ := none
  float x := toString x.bits.toNat

/-- What reads these texts. -/
def epochReaders : Readers where
  date text := if text = "1970-01-01" then some 0 else none
  time text := if text = "00:00:00" then some 0 else none
  float text := (Text.parseUnsigned (2 ^ 64) text).map fun n => ⟨BitVec.ofNat 64 n⟩
  mhz _ := none

theorem epochReaders_reads : epochReaders.Reads epochFormats where
  time_of_date s := by
    simp only [epochFormats]
    split_ifs <;> rfl
  date s text h := by
    simp only [epochFormats] at h
    split_ifs at h with hs
    cases h
    have hday : s / 86400 * 86400 = 0 := by omega
    rw [hday]
    decide +kernel
  time s text h := by
    simp only [epochFormats] at h
    split_ifs at h with hs
    cases h
    have hminute : s % 86400 / 60 * 60 = 0 := by omega
    rw [hminute]
    decide +kernel
  noTime := by decide +kernel
  midnight text s h := by
    simp only [epochReaders] at h
    split_ifs at h
    cases h
    rfl
  float x := by
    have htrim : Text.trim (toString x.bits.toNat) = toString x.bits.toNat :=
      Text.trim_eq_self fun c hc => Text.isWhitespace_of_isDigit (toString_digits _ c hc)
    simp only [epochReaders, epochFormats, htrim, Text.parseUnsigned_toString x.bits.isLt,
      Option.map_some, BitVec.ofNat_toNat]
    rfl

/-- A contact on a band and in a mode that the form has. -/
def plainQso : QsoRecord where
  localId := "7"
  stationCallsign := "W1AW"
  workedCallsign := "K7DEF"
  utcTimestamp := some { seconds := 0 }
  band := Band.band20m.toI32
  mode := Mode.ssb.toI32
  frequencyHz := some 14250000
  rstSent := some { readability := some 5, strength := some 9, raw := "59" }

/-- The same in PSK. -/
def pskQso : QsoRecord := { plainQso with mode := Mode.psk.toI32 }

theorem plainQso_wellTyped : WellTyped plainQso := by
  constructor <;> simp [plainQso]

theorem pskQso_wellTyped : WellTyped pskQso := by
  constructor <;> simp [pskQso, plainQso]

theorem plainQso_survives : Survives epochReaders epochFormats noon plainQso where
  callsign := by decide +kernel
  operator := by simp [plainQso]
  band := by decide
  mode := by decide
  bandRx := by decide
  frequency := by simp [plainQso]
  start := by simp [plainQso, Formats.IsMinute, epochFormats]
  finish := by simp [plainQso]
  rstSent := by
    have hdigits : rstDigits "59" = (some 5, some 9, none) := by decide +kernel
    simp [plainQso, ReportKept, hdigits]
  rstReceived := by simp [plainQso]
  qslSentStatus := by decide
  qslReceivedStatus := by decide
  qslSentDate := by simp [plainQso]
  qslReceivedDate := by simp [plainQso]
  texts := by simp [formTexts, plainQso]
  extraFields := by simp [PlainFields, plainQso]

/-- The application with this row in its list. -/
def listing (r : QsoRecord) : App := { App.new noon with recentQsos := [.ofRecord epochFormats r] }

theorem openAndSave_plainQso :
    ∃ sent, openAndSave epochReaders epochFormats noon noon (listing plainQso) "7" = .ok sent
      ∧ SameUpdate plainQso sent :=
  (openAndSave_unchanged_iff epochReaders_reads plainQso_wellTyped rfl rfl).mpr plainQso_survives

/-- A contact in PSK becomes one in SSB. -/
theorem not_unchanged_psk :
    ¬ ∀ (readers : Readers) (formats : Formats) (now later : Now) (app : App) (r : QsoRecord),
      readers.Reads formats → WellTyped r →
      app.recentQsos.find? (·.localId == r.localId) = some (.ofRecord formats r) →
      app.lookupResult = none →
      ∃ sent, openAndSave readers formats now later app r.localId = .ok sent
        ∧ SameUpdate r sent := by
  intro hall
  have hsame := hall epochReaders epochFormats noon noon (listing pskQso) pskQso epochReaders_reads
    pskQso_wellTyped rfl rfl
  have hrow : (listing pskQso).recentQsos.find? (·.localId == pskQso.localId)
      = some (.ofRecord epochFormats pskQso) := rfl
  obtain ⟨tab, provenance, hsave⟩ :=
    openAndSave_eq epochReaders noon noon (listing pskQso) hrow rfl
  rw [hsave] at hsame
  have hsurvives :=
    (updateQso_loaded epochReaders_reads pskQso_wellTyped tab provenance).mp hsame
  exact absurd hsurvives.mode (by decide)

end QsoRipper.Tui
