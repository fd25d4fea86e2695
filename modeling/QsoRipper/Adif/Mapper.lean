/-
QsoRipper/Adif/Mapper.lean

The writing half of the ADIF adapter: which fields a record is written as, in
the order of `qso_to_adif_fields`, how a list of fields becomes ADI text, and
the text of a whole file.

The length that stands in front of a value is the number of its bytes.
-/
import QsoRipper.Domain.Station
import QsoRipper.Lib.Utf8

namespace QsoRipper.Adif

/-- A field: its name and its text. -/
abbrev AdifField := String × String

/-- What the mapper takes from elsewhere: `chrono`'s `%Y%m%d` and `%H%M%S` of an
instant, if it has one, the decimal texts of floating point values, and the
order in which the map of unmapped fields is gone through. -/
structure AdifText where
  datetime : ℤ → ℕ → Option (String × String)
  location : Float64 → Bool → Option String
  altitude : Float64 → String
  entries : Std.ExtTreeMap String String → List AdifField

/-! ### Enumerations as ADIF texts -/

/-- `QsoCompletion`, in the order of its `i32` values. -/
inductive QsoCompletion where
  | unspecified
  | yes
  | no
  | nil
  | uncertain
  deriving DecidableEq

/-- `QsoCompletion::try_from(i32)`. -/
def QsoCompletion.tryFrom : ℤ → Option QsoCompletion
  | 0 => some unspecified
  | 1 => some yes
  | 2 => some no
  | 3 => some nil
  | 4 => some uncertain
  | _ => none

/-- `qso_completion_to_adif`. -/
def qsoCompletionToAdif : QsoCompletion → Option String
  | .yes => some "Y"
  | .no => some "N"
  | .nil => some "NIL"
  | .uncertain => some "?"
  | .unspecified => none

/-- `qsl_status_to_adif`. -/
def qslStatusToAdif : QslStatus → Option String
  | .yes => some "Y"
  | .no => some "N"
  | .requested => some "R"
  | .queued => some "Q"
  | .ignore => some "I"
  | .unspecified => none

/-- `band_to_adif`. -/
def bandToAdif : Band → Option String
  | .unspecified => none
  | .band2190m => some "2190M"
  | .band630m => some "630M"
  | .band560m => some "560M"
  | .band160m => some "160M"
  | .band80m => some "80M"
  | .band60m => some "60M"
  | .band40m => some "40M"
  | .band30m => some "30M"
  | .band20m => some "20M"
  | .band17m => some "17M"
  | .band15m => some "15M"
  | .band12m => some "12M"
  | .band10m => some "10M"
  | .band8m => some "8M"
  | .band6m => some "6M"
  | .band5m => some "5M"
  | .band4m => some "4M"
  | .band2m => some "2M"
  | .band125m => some "1.25M"
  | .band70cm => some "70CM"
  | .band33cm => some "33CM"
  | .band23cm => some "23CM"
  | .band13cm => some "13CM"
  | .band9cm => some "9CM"
  | .band6cm => some "6CM"
  | .band3cm => some "3CM"
  | .band125cm => some "1.25CM"
  | .band6mm => some "6MM"
  | .band4mm => some "4MM"
  | .band25mm => some "2.5MM"
  | .band2mm => some "2MM"
  | .band1mm => some "1MM"
  | .submm => some "SUBMM"

/-- `mode_to_adif`. -/
def modeToAdif : Mode → Option String
  | .unspecified => none
  | .am => some "AM"
  | .ardop => some "ARDOP"
  | .atv => some "ATV"
  | .chip => some "CHIP"
  | .clo => some "CLO"
  | .contesti => some "CONTESTI"
  | .cw => some "CW"
  | .digitalvoice => some "DIGITALVOICE"
  | .domino => some "DOMINO"
  | .dynamic => some "DYNAMIC"
  | .fax => some "FAX"
  | .fm => some "FM"
  | .fsk => some "FSK"
  | .ft8 => some "FT8"
  | .hell => some "HELL"
  | .iscat => some "ISCAT"
  | .jt4 => some "JT4"
  | .jt9 => some "JT9"
  | .jt44 => some "JT44"
  | .jt65 => some "JT65"
  | .mfsk => some "MFSK"
  | .mtone => some "MTONE"
  | .msk144 => some "MSK144"
  | .ofdm => some "OFDM"
  | .olivia => some "OLIVIA"
  | .opera => some "OPERA"
  | .pac => some "PAC"
  | .pax => some "PAX"
  | .pkt => some "PKT"
  | .psk => some "PSK"
  | .q15 => some "Q15"
  | .qra64 => some "QRA64"
  | .ros => some "ROS"
  | .rtty => some "RTTY"
  | .rttym => some "RTTYM"
  | .ssb => some "SSB"
  | .sstv => some "SSTV"
  | .t10 => some "T10"
  | .thor => some "THOR"
  | .thrb => some "THRB"
  | .tor => some "TOR"
  | .v4 => some "V4"
  | .voi => some "VOI"
  | .winmor => some "WINMOR"
  | .wspr => some "WSPR"

/-! ### Values -/

/-- `"{n:06}"`. -/
def sixDigits (n : ℕ) : String :=
  String.ofList (List.replicate (6 - (toString n).length) '0') ++ toString n

/-- `format_hz_as_mhz`. -/
def formatHzAsMhz (hz : ℕ) : String :=
  let whole := hz / 1000000
  let frac := hz % 1000000
  let full := toString whole ++ "." ++ sixDigits frac
  let minLen := (toString whole).length + 1 + 3
  let trimmed := full.toList.rdropWhile (· == '0')
  String.ofList (full.toList.take (max trimmed.length minLen))

/-- `hz_to_mhz_str`; the product is a `u64`. -/
def hzToMhzStr (hz khzFallback : Option ℕ) : Option String :=
  (hz.or (khzFallback.map fun k => k * 1000 % 2 ^ 64)).map formatHzAsMhz

/-- `sanitize_cw_transcript_for_adif`. -/
def sanitizeCwTranscriptForAdif (value : String) : String :=
  String.ofList <| value.toList.filter fun c =>
    c == '\r' || c == '\n' || c == '\t'
      || !(c.toNat < 0x20 || c.toNat == 0x7F || 0x7E < c.toNat)

section Values

variable (t : AdifText)

/-- `format_adif_datetime`. -/
def formatAdifDatetime (ts : Timestamp) : Option (String × String) :=
  if ts.nanos < 0 then none else t.datetime ts.seconds ts.nanos.toNat

/-- `format_adif_date`. -/
def formatAdifDate (ts : Timestamp) : Option String :=
  (formatAdifDatetime t ts).map (·.1)

/-- `format_adif_location`. -/
def formatAdifLocation (latitude : Bool) (value : Float64) : Option String :=
  if value.isFinite then t.location value latitude else none

/-- `format_adif_altitude`, of a finite altitude. -/
def formatAdifAltitude (meters : Float64) : Option String :=
  if meters.isFinite then some (t.altitude meters) else none

end Values

/-! ### Fields -/

/-- `push_field`, if there is a value. -/
def pushField (key : String) (value : Option String) : List AdifField :=
  (value.map fun v => (key, v)).toList

/-- A number is written in decimal. -/
def pushNumber (key : String) (value : Option ℕ) : List AdifField := pushField key (value.map toString)

/-- A text that is left out when it is empty. -/
def pushNonEmpty (key : String) (value : Option String) : List AdifField :=
  pushField key (value.filter fun v => !v.isEmpty)

/-- `QSO_DATE` and `TIME_ON`, or the pair for the end. -/
def pushDatetime (dateKey timeKey : String) (value : Option (String × String)) : List AdifField :=
  pushField dateKey (value.map (·.1)) ++ pushField timeKey (value.map (·.2))

/-- The text of a confirmation. -/
def confirmationToAdif (value : Bool) : String := if value then "Y" else "N"

/-- `push_confirmation_field`. -/
def pushConfirmationField (key : String) (value : Option Bool) : List AdifField :=
  pushField key (value.map confirmationToAdif)

/-- `push_lotw_status_field`. -/
def pushLotwStatusField (key : String) (status : ℤ) (compatibilityValue : Option Bool) :
    List AdifField :=
  match qslStatusToAdif ((QslStatus.tryFrom status).getD .unspecified) with
  | some value => pushField key (some value)
  | none => pushConfirmationField key compatibilityValue

section Overridden

variable (t : AdifText) (qso : QsoRecord) (stationSnapshot : Option StationSnapshot)

/-- The names `field_is_overridden` knows, and when each is. -/
def overriddenFields : List (String × Bool) :=
  let mine {α : Type} (f : StationSnapshot → Option α) : Bool := (stationSnapshot.bind f).isSome
  [("LOTW_QSL_SENT", qso.lotwSentStatus != QslStatus.unspecified.toI32 || qso.lotwSent.isSome),
   ("LOTW_QSL_RCVD",
     qso.lotwReceivedStatus != QslStatus.unspecified.toI32 || qso.lotwReceived.isSome),
   ("LOTW_QSLSDATE", qso.lotwSentDate.isSome),
   ("LOTW_QSLRDATE", qso.lotwReceivedDate.isSome),
   ("EQSL_QSL_SENT", qso.eqslSent.isSome),
   ("EQSL_QSL_RCVD", qso.eqslReceived.isSome),
   ("STATION_CALLSIGN",
     match stationSnapshot with
     | none => !qso.stationCallsign.isEmpty
     | some snapshot => !snapshot.stationCallsign.isEmpty),
   ("OPERATOR", mine (·.operatorCallsign)),
   ("CONTACTED_OP", qso.workedOperatorCallsign.isSome),
   ("ARRL_SECT", qso.workedArrlSection.isSome),
   ("SKCC", qso.skcc.isSome),
   ("MY_NAME", mine (·.operatorName)),
   ("MY_GRIDSQUARE", mine (·.grid)),
   ("MY_CNTY", mine (·.county)),
   ("MY_STATE", mine (·.state)),
   ("MY_COUNTRY", mine (·.country)),
   ("MY_DXCC", mine (·.dxcc)),
   ("MY_CQ_ZONE", mine (·.cqZone)),
   ("MY_ITU_ZONE", mine (·.ituZone)),
   ("MY_LAT", mine (·.latitude)),
   ("MY_LON", mine (·.longitude)),
   ("MY_ARRL_SECT", mine (·.arrlSection)),
   ("QSLSDATE", (qso.qslSentDate.bind (formatAdifDate t)).isSome),
   ("QSLRDATE", (qso.qslReceivedDate.bind (formatAdifDate t)).isSome),
   ("QSO_DATE_OFF", qso.utcEndTimestamp.isSome),
   ("TIME_OFF", qso.utcEndTimestamp.isSome),
   ("APP_QRZLOG_LOGID", qso.qrzLogid.isSome),
   ("APP_QRZ_LOGID", qso.qrzLogid.isSome),
   ("APP_QRZLOG_QSO_ID", qso.qrzBookid.isSome),
   ("APP_QRZ_BOOKID", qso.qrzBookid.isSome),
   ("BAND_RX", (Band.tryFrom qso.bandRx).getD .unspecified != .unspecified),
   ("FREQ_RX", qso.frequencyRxHz.isSome || qso.frequencyRxKhz.isSome),
   ("LAT", qso.workedLatitude.isSome),
   ("LON", qso.workedLongitude.isSome),
   ("ALTITUDE", qso.workedAltitudeMeters.isSome),
   ("GRIDSQUARE_EXT", qso.workedGridsquareExt.isSome),
   ("OWNER_CALLSIGN", qso.ownerCallsign.isSome),
   ("QSO_COMPLETE", (QsoCompletion.tryFrom qso.qsoComplete).getD .unspecified != .unspecified),
   ("APP_QSORIPPER_RX_WPM", qso.cwDecodeRxWpm.isSome),
   ("APP_QSORIPPER_CW_TRANSCRIPT", qso.cwDecodeTranscript.isSome),
   ("MY_ALTITUDE", mine (·.altitudeMeters)),
   ("MY_GRIDSQUARE_EXT", mine (·.gridsquareExt))]

/-- `field_is_overridden`. -/
def fieldIsOverridden (key : String) : Bool :=
  ((overriddenFields t qso stationSnapshot).find? fun field =>
    Text.eqIgnoreAsciiCase key field.1).elim false (·.2)

end Overridden

/-- The fields of the snapshot that follow those of the worked station. -/
def snapshotFields (t : AdifText) (snapshot : StationSnapshot) : List AdifField :=
  pushField "MY_NAME" snapshot.operatorName
    ++ pushField "MY_GRIDSQUARE" snapshot.grid
    ++ pushField "MY_CNTY" snapshot.county
    ++ pushField "MY_STATE" snapshot.state
    ++ pushField "MY_COUNTRY" snapshot.country
    ++ pushNumber "MY_DXCC" snapshot.dxcc
    ++ pushNumber "MY_CQ_ZONE" snapshot.cqZone
    ++ pushNumber "MY_ITU_ZONE" snapshot.ituZone
    ++ pushField "MY_LAT" (snapshot.latitude.bind (formatAdifLocation t true))
    ++ pushField "MY_LON" (snapshot.longitude.bind (formatAdifLocation t false))
    ++ pushField "MY_ALTITUDE" (snapshot.altitudeMeters.bind (formatAdifAltitude t))
    ++ pushField "MY_GRIDSQUARE_EXT" snapshot.gridsquareExt
    ++ pushField "MY_ARRL_SECT" snapshot.arrlSection

/-- `qso_to_adif_fields`. -/
def qsoToAdifFields (t : AdifText) (qso : QsoRecord) : List AdifField :=
  let stationSnapshot := effectiveStationSnapshot qso
  -- Core
  pushField "STATION_CALLSIGN"
      (((stationSnapshot.map (·.stationCallsign)).filter fun value => !value.isEmpty).or
        (if qso.stationCallsign.isEmpty then none else some qso.stationCallsign))
    ++ pushNonEmpty "CALL" (some qso.workedCallsign)
    ++ pushField "OPERATOR" (stationSnapshot.bind (·.operatorCallsign))
    ++ pushDatetime "QSO_DATE" "TIME_ON" (qso.utcTimestamp.bind (formatAdifDatetime t))
    ++ pushDatetime "QSO_DATE_OFF" "TIME_OFF" (qso.utcEndTimestamp.bind (formatAdifDatetime t))
    ++ pushField "BAND" (bandToAdif ((Band.tryFrom qso.band).getD .unspecified))
    ++ pushField "MODE" (modeToAdif ((Mode.tryFrom qso.mode).getD .unspecified))
    ++ pushField "SUBMODE" qso.submode
    ++ pushField "FREQ" (hzToMhzStr qso.frequencyHz qso.frequencyKhz)
    ++ pushField "FREQ_RX" (hzToMhzStr qso.frequencyRxHz qso.frequencyRxKhz)
    ++ pushField "BAND_RX" (bandToAdif ((Band.tryFrom qso.bandRx).getD .unspecified))
    -- Signal reports
    ++ pushField "RST_SENT" (qso.rstSent.map (·.raw))
    ++ pushField "RST_RCVD" (qso.rstReceived.map (·.raw))
    ++ pushField "TX_PWR" qso.txPower
    -- Geographic
    ++ pushField "CONTACTED_OP" qso.workedOperatorCallsign
    ++ pushField "NAME" qso.workedOperatorName
    ++ pushField "GRIDSQUARE" qso.workedGrid
    ++ pushField "GRIDSQUARE_EXT" qso.workedGridsquareExt
    ++ pushField "LAT" (qso.workedLatitude.bind (formatAdifLocation t true))
    ++ pushField "LON" (qso.workedLongitude.bind (formatAdifLocation t false))
    ++ pushField "ALTITUDE" (qso.workedAltitudeMeters.bind (formatAdifAltitude t))
    ++ pushField "OWNER_CALLSIGN" qso.ownerCallsign
    ++ pushField "QSO_COMPLETE"
      (qsoCompletionToAdif ((QsoCompletion.tryFrom qso.qsoComplete).getD .unspecified))
    ++ pushNumber "APP_QSORIPPER_RX_WPM" qso.cwDecodeRxWpm
    ++ pushNonEmpty "APP_QSORIPPER_CW_TRANSCRIPT"
      (qso.cwDecodeTranscript.map sanitizeCwTranscriptForAdif)
    ++ pushField "COUNTRY" qso.workedCountry
    ++ pushNumber "DXCC" qso.workedDxcc
    ++ pushField "STATE" qso.workedState
    ++ pushField "CNTY" qso.workedCounty
    ++ pushField "CONT" qso.workedContinent
    ++ pushNumber "CQZ" qso.workedCqZone
    ++ pushNumber "ITUZ" qso.workedItuZone
    ++ pushField "IOTA" qso.workedIota
    ++ pushField "ARRL_SECT" qso.workedArrlSection
    ++ pushField "SKCC" qso.skcc
    ++ stationSnapshot.elim [] (snapshotFields t)
    -- QSL
    ++ pushField "QSL_SENT" (qslStatusToAdif ((QslStatus.tryFrom qso.qslSentStatus).getD .unspecified))
    ++ pushField "QSL_RCVD"
      (qslStatusToAdif ((QslStatus.tryFrom qso.qslReceivedStatus).getD .unspecified))
    ++ pushField "QSLSDATE" (qso.qslSentDate.bind (formatAdifDate t))
    ++ pushField "QSLRDATE" (qso.qslReceivedDate.bind (formatAdifDate t))
    ++ pushLotwStatusField "LOTW_QSL_SENT" qso.lotwSentStatus qso.lotwSent
    ++ pushLotwStatusField "LOTW_QSL_RCVD" qso.lotwReceivedStatus qso.lotwReceived
    ++ pushField "LOTW_QSLSDATE" (qso.lotwSentDate.bind (formatAdifDate t))
    ++ pushField "LOTW_QSLRDATE" (qso.lotwReceivedDate.bind (formatAdifDate t))
    ++ pushConfirmationField "EQSL_QSL_SENT" qso.eqslSent
    ++ pushConfirmationField "EQSL_QSL_RCVD" qso.eqslReceived
    -- Contest
    ++ pushField "CONTEST_ID" qso.contestId
    ++ pushField "STX" qso.serialSent
    ++ pushField "SRX" qso.serialReceived
    ++ pushField "STX_STRING" qso.exchangeSent
    ++ pushField "SRX_STRING" qso.exchangeReceived
    -- Propagation
    ++ pushField "PROP_MODE" qso.propMode
    ++ pushField "SAT_NAME" qso.satName
    ++ pushField "SAT_MODE" qso.satMode
    -- Notes
    ++ pushField "COMMENT" qso.comment
    ++ pushField "NOTES" qso.notes
    -- QRZ application fields
    ++ pushNonEmpty "APP_QRZLOG_LOGID" qso.qrzLogid
    ++ pushNonEmpty "APP_QRZLOG_QSO_ID" qso.qrzBookid
    -- Extra fields
    ++ (t.entries qso.extraFields).filter fun field => !fieldIsOverridden t qso stationSnapshot field.1

/-! ### Texts -/

/-- A field as `fields_to_adi` writes it. -/
def fieldToAdi (field : AdifField) : String :=
  "<" ++ field.1 ++ ":" ++ toString field.2.utf8ByteSize ++ ">" ++ field.2 ++ "\n"

/-- `fields_to_adi`. -/
def fieldsToAdi (fields : List AdifField) : String :=
  String.join (fields.map fieldToAdi) ++ "<eor>\n"

/-- `qso_to_adi`. -/
def qsoToAdi (t : AdifText) (qso : QsoRecord) : String := fieldsToAdi (qsoToAdifFields t qso)

/-- `env!("CARGO_PKG_VERSION")`. -/
def cargoPkgVersion : String := "0.1.0"

/-- `adif_header`. -/
def adifHeader : String :=
  "Generated by QsoRipper\n"
    ++ String.join
      ([("ADIF_VER", "3.1.7"), ("PROGRAMID", "QsoRipper"), ("PROGRAMVERSION", cargoPkgVersion)].map
        fieldToAdi)
    ++ "<EOH>\n"

/-- `serialize_adi_qsos`. -/
def serializeAdiQsos (t : AdifText) (qsos : List QsoRecord) (includeHeader : Bool) : List UInt8 :=
  Utf8.encode
    ((if includeHeader then adifHeader else "") ++ String.join (qsos.map (qsoToAdi t))).toList

end QsoRipper.Adif
