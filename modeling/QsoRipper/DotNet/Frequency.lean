/-
QsoRipper/DotNet/Frequency.lean

`TryConvertMhzToHz`, the managed reader of frequencies, beside `mhz_str_to_hz`.  Both cut the
text at its first point, read the part before it and six digits behind it, and round by the
seventh.

The parsers under them differ: `str::parse` takes a plus sign and no empty text, and
`ulong.TryParse` takes no sign and null characters at the end.  The managed reader fills the
digits with zeroes before it parses them, rounds up for whatever stands above `5`, and
calculates without checks.
-/
import QsoRipper.Adif.Frequency
import QsoRipper.Lib.NetText

namespace QsoRipper.DotNet

open Text (AllDigits decimalValue)
open Adif (mhzStrToHz)

/-! ### The reader -/

/-- `ulong.TryParse` with `NumberStyles.None`: digits, and null characters behind them. -/
def tryParseULong (s : List Char) : Option ℕ :=
  let digits := s.takeWhile Char.isDigit
  if digits.isEmpty || !(s.dropWhile Char.isDigit).all (· == '\x00') then none
  else if decimalValue digits < 2 ^ 64 then some (decimalValue digits) else none

/-- `TryConvertMhzToHz`.  The code counts UTF-16 units; half of a character is no digit. -/
def tryConvertMhzToHz (mhzStr : String) : Option ℕ :=
  let trimmed := (Text.trim mhzStr).toList
  if trimmed.isEmpty || trimmed.head? == some '-' then none
  else
    let (intPart, fracPart) :=
      match trimmed.findIdx? (· == '.') with
      | some dotIndex => (trimmed.take dotIndex, trimmed.drop (dotIndex + 1))
      | none => (trimmed, [])
    match tryParseULong intPart with
    | none => none
    | some wholeMhz =>
        let fracLen := min fracPart.length 6
        let fracBuf := fracPart.take fracLen ++ List.replicate (6 - fracLen) '0'
        match tryParseULong fracBuf with
        | none => none
        | some fracHz =>
            let fracHz :=
              if 6 < fracPart.length ∧ (fracPart[6]?.any fun c => decide ('5' ≤ c)) = true then
                fracHz + 1
              else fracHz
            some ((wholeMhz * 1000000 + fracHz) % 2 ^ 64)

/-! ### Numbers -/

/-- Digits of a number that `u64` holds. -/
structure IsNumber (cs : List Char) : Prop where
  nonempty : cs ≠ []
  digits : AllDigits cs
  lt : decimalValue cs < 2 ^ 64

/-- A number behind a plus sign. -/
def IsSigned (cs : List Char) : Prop := ∃ ds, cs = '+' :: ds ∧ IsNumber ds

/-- A number before null characters. -/
def IsPadded (cs : List Char) : Prop :=
  ∃ ds k, cs = ds ++ List.replicate (k + 1) '\x00' ∧ IsNumber ds

theorem IsNumber.not_signed {cs : List Char} (h : IsNumber cs) : ¬ IsSigned cs := by
  rintro ⟨ds, rfl, -⟩
  exact absurd (h.digits '+' List.mem_cons_self) (by decide)

theorem IsNumber.not_padded {cs : List Char} (h : IsNumber cs) : ¬ IsPadded cs := by
  rintro ⟨ds, k, rfl, -⟩
  have hmem : '\x00' ∈ ds ++ List.replicate (k + 1) '\x00' := by simp
  exact absurd (h.digits _ hmem) (by decide)

theorem IsSigned.not_padded {cs : List Char} (h : IsSigned cs) : ¬ IsPadded cs := by
  obtain ⟨ds, rfl, -⟩ := h
  rintro ⟨es, k, heq, hnumber⟩
  obtain ⟨e, es, rfl⟩ := List.exists_cons_of_ne_nil hnumber.nonempty
  rw [List.cons_append, List.cons.injEq] at heq
  exact absurd (hnumber.digits e List.mem_cons_self) (by rw [← heq.1]; decide)

/-- What `str::parse` reads. -/
theorem parse_eq_some_iff {cs : List Char} {n : ℕ} :
    Text.parseUnsigned (2 ^ 64) (String.ofList cs) = some n
      ↔ (IsNumber cs ∧ n = decimalValue cs) ∨ ∃ ds, cs = '+' :: ds ∧ IsNumber ds
        ∧ n = decimalValue ds := by
  rw [Text.parseUnsigned_eq_some_iff, String.toList_ofList]
  constructor
  · rintro ⟨digits, rfl | rfl, hne, hdigits, rfl, hlt⟩
    · exact .inl ⟨⟨hne, hdigits, hlt⟩, rfl⟩
    · exact .inr ⟨digits, rfl, ⟨hne, hdigits, hlt⟩, rfl⟩
  · rintro (⟨h, rfl⟩ | ⟨ds, rfl, h, rfl⟩)
    · exact ⟨cs, .inl rfl, h.nonempty, h.digits, rfl, h.lt⟩
    · exact ⟨ds, .inr rfl, h.nonempty, h.digits, rfl, h.lt⟩

/-- What `ulong.TryParse` reads. -/
theorem tryParseULong_eq_some_iff {cs : List Char} {n : ℕ} :
    tryParseULong cs = some n
      ↔ (IsNumber cs ∧ n = decimalValue cs) ∨ ∃ ds k, cs = ds ++ List.replicate (k + 1) '\x00'
        ∧ IsNumber ds ∧ n = decimalValue ds := by
  have hread (ds : List Char) (k : ℕ) (h : IsNumber ds) :
      tryParseULong (ds ++ List.replicate k '\x00') = some (decimalValue ds) := by
    have htake : (ds ++ List.replicate k '\x00').takeWhile Char.isDigit = ds := by
      rw [List.takeWhile_append_of_pos h.digits]
      rcases k with - | k <;> simp [List.replicate_succ]
    have hdrop : (ds ++ List.replicate k '\x00').dropWhile Char.isDigit
        = List.replicate k '\x00' := by
      rw [List.dropWhile_append_of_pos h.digits]
      rcases k with - | k <;> simp [List.replicate_succ]
    rw [tryParseULong, htake, hdrop]
    simp [h.nonempty]
    exact h.lt
  constructor
  · intro h
    rw [tryParseULong] at h
    split_ifs at h with hform hlt
    cases h
    simp only [Bool.or_eq_true, List.isEmpty_iff, Bool.not_eq_true', List.all_eq_false,
      not_or, not_exists, not_and, not_not, beq_iff_eq] at hform
    have hdigits : AllDigits (cs.takeWhile Char.isDigit) := fun c hc => List.mem_takeWhile_imp hc
    have hnumber : IsNumber (cs.takeWhile Char.isDigit) := ⟨hform.1, hdigits, hlt⟩
    have hrest := List.eq_replicate_of_mem hform.2
    have hsplit := List.takeWhile_append_dropWhile (p := Char.isDigit) (l := cs)
    rcases hlength : (cs.dropWhile Char.isDigit).length with - | k
    · have hnil := List.eq_nil_of_length_eq_zero hlength
      rw [hnil, List.append_nil] at hsplit
      rw [hsplit] at hnumber ⊢
      exact .inl ⟨hnumber, rfl⟩
    · rw [hlength] at hrest
      rw [hrest] at hsplit
      exact .inr ⟨_, k, hsplit.symm, hnumber, rfl⟩
  · rintro (⟨h, rfl⟩ | ⟨ds, k, rfl, h, rfl⟩)
    · have hplain := hread cs 0 h
      rwa [List.replicate_zero, List.append_nil] at hplain
    · exact hread ds (k + 1) h

/-! ### The text around the point -/

/-- The characters before the first point, and those behind it. -/
def parts (s : String) : List Char × List Char :=
  (((Text.trim s).toList.takeWhile (· ≠ '.')), ((Text.trim s).toList.dropWhile (· ≠ '.')).tail)

theorem splitOnce_eq_parts (s : String) :
    (Text.splitOnce '.' (Text.trim s)).getD (Text.trim s, "")
      = (String.ofList (parts s).1, String.ofList (parts s).2) := by
  rw [Text.splitOnce, parts]
  split_ifs with hpoint
  · rfl
  · have hpass : ∀ c ∈ (Text.trim s).toList, decide (c ≠ '.') = true := by
      intro c hc
      exact decide_eq_true fun h => hpoint (h ▸ hc)
    rw [List.takeWhile_eq_self_iff.mpr hpass, List.dropWhile_eq_nil_iff.mpr hpass]
    simp

theorem findIdx?_eq_parts (s : String) :
    (match (Text.trim s).toList.findIdx? (· == '.') with
      | some dotIndex =>
          ((Text.trim s).toList.take dotIndex, (Text.trim s).toList.drop (dotIndex + 1))
      | none => ((Text.trim s).toList, [])) = parts s := by
  rw [parts]
  generalize (Text.trim s).toList = cs
  induction cs with
  | nil => rfl
  | cons c cs ih =>
      rw [List.findIdx?_cons]
      by_cases hpoint : c = '.'
      · simp [hpoint]
      · have hne : (c == '.') = false := by simpa using hpoint
        simp only [hne, List.takeWhile_cons, List.dropWhile_cons, decide_eq_true hpoint]
        rcases hfind : cs.findIdx? (· == '.') with - | dotIndex
        · rw [hfind] at ih
          obtain ⟨hwhole, hfraction⟩ := Prod.mk.inj ih
          simp only [if_true, Option.map_none, Bool.false_eq_true, if_false]
          rw [← hwhole, ← hfraction]
        · rw [hfind] at ih
          obtain ⟨hwhole, hfraction⟩ := Prod.mk.inj ih
          simp only [if_true, Option.map_some, Bool.false_eq_true, if_false]
          rw [← hwhole, ← hfraction, List.take_succ_cons, List.drop_succ_cons]

/-- A text that is refused at once has no number before its point. -/
theorem no_number_of_skip {s : String}
    (h : ((Text.trim s).isEmpty || Text.startsWith (Text.trim s) "-") = true) :
    Text.parseUnsigned (2 ^ 64) (String.ofList (parts s).1) = none := by
  rcases (Bool.or_eq_true _ _).mp h with hempty | hminus
  · rw [String.isEmpty_iff] at hempty
    rw [parts, hempty]
    rfl
  · obtain ⟨rest, hrest⟩ := List.isPrefixOf_iff_prefix.mp hminus
    have hdash : (Text.trim s).toList = '-' :: rest := hrest.symm
    apply Adif.parseUnsigned_minus
    rw [String.toList_ofList, parts, hdash]
    rfl

/-! ### Six bytes and six characters -/

theorem utf8EncodeChar_injective {c d : Char}
    (h : String.utf8EncodeChar c = String.utf8EncodeChar d) : c = d := by
  have hc := Utf8.first?_encode c []
  rw [h, Utf8.first?_encode] at hc
  exact (Option.some.inj hc).symm

/-- The bytes of ASCII characters are cut where the characters are. -/
theorem decode_take_iff {n : ℕ} {cs fraction : List Char} (hascii : ∀ c ∈ cs, c.toNat < 128) :
    Utf8.decode ((Utf8.encode fraction).take n) = some cs ↔ cs = fraction.take n := by
  rw [Utf8.decode_eq_some_iff]
  induction n generalizing cs fraction with
  | zero =>
      rcases cs with - | ⟨c, cs⟩
      · simp
      · have hpos := c.utf8Size_pos
        simp [Utf8.encode_cons, ← List.length_eq_zero_iff]
        omega
  | succ n ih =>
      rcases fraction with - | ⟨c, fraction⟩
      · rcases cs with - | ⟨d, cs⟩
        · simp
        · have hpos := d.utf8Size_pos
          simp [Utf8.encode_cons, ← List.length_eq_zero_iff]
          omega
      · rw [List.take_succ_cons]
        rcases cs with - | ⟨d, cs⟩
        · have hpos := c.utf8Size_pos
          simp [Utf8.encode_cons, ← List.length_eq_zero_iff]
          omega
        obtain ⟨hd, hcs⟩ := List.forall_mem_cons.mp hascii
        have hone : String.utf8EncodeChar d = [UInt8.ofNat d.toNat] := by
          have hsmall : ∀ e ∈ [d], e.toNat < 128 := by simpa using hd
          simpa using Utf8.encode_ascii hsmall
        -- the first byte is that of `d`, and an ASCII byte is a whole character
        have hfirst (h : ∃ rest, Utf8.encode (c :: fraction) = UInt8.ofNat d.toNat :: rest) :
            c = d := by
          obtain ⟨rest, hrest⟩ := h
          obtain ⟨b, bs, hbytes⟩ := List.exists_cons_of_ne_nil
            (List.ne_nil_of_length_pos (String.length_utf8EncodeChar c ▸ c.utf8Size_pos))
          rw [Utf8.encode_cons, hbytes, List.cons_append, List.cons.injEq] at hrest
          apply utf8EncodeChar_injective
          rw [hone, ← hrest.1]
          apply Utf8.encodeChar_of_ascii
          · rw [hrest.1, UInt8.toNat_ofNat']
            omega
          · rw [hbytes]
            exact List.mem_cons_self
        constructor
        · intro h
          rw [Utf8.encode_cons d, hone, List.singleton_append] at h
          obtain ⟨rest, hrest⟩ : ∃ rest, Utf8.encode (c :: fraction)
              = UInt8.ofNat d.toNat :: rest := by
            refine ⟨(Utf8.encode (c :: fraction)).tail, ?_⟩
            rcases hbytes : Utf8.encode (c :: fraction) with - | ⟨b, bs⟩
            · rw [hbytes] at h
              cases h
            · rw [hbytes, List.take_succ_cons, List.cons.injEq] at h
              rw [h.1]
              rfl
          obtain rfl := hfirst ⟨rest, hrest⟩
          rw [Utf8.encode_cons, hone, List.singleton_append, List.take_succ_cons,
            List.cons.injEq] at h
          rw [(ih hcs).mp h.2]
        · intro h
          obtain ⟨rfl, hrest⟩ := List.cons.inj h
          rw [Utf8.encode_cons, Utf8.encode_cons, hone, List.singleton_append,
            List.singleton_append, List.take_succ_cons, (ih hcs).mpr hrest]

theorem five_le_iff {c : Char} : '5' ≤ c ↔ 53 ≤ c.toNat := Iff.rfl

/-- The seventh character is a digit that rounds up. -/
def RoundsUp (fraction : List Char) : Prop :=
  ∃ c ∈ fraction[6]?, c.isDigit = true ∧ '5' ≤ c

/-- The byte behind six ASCII characters decides as the character there. -/
theorem roundsUp_iff {fraction : List Char} (hascii : ∀ c ∈ fraction.take 6, c.toNat < 128) :
    (6 < (Utf8.encode fraction).length ∧ Adif.roundsUp (Utf8.encode fraction)[6]? = true)
      ↔ RoundsUp fraction := by
  have hbytes : Utf8.encode fraction
      = Utf8.encode (fraction.take 6) ++ Utf8.encode (fraction.drop 6) := by
    rw [← Utf8.encode_append, List.take_append_drop]
  have hlength : (Utf8.encode (fraction.take 6)).length = (fraction.take 6).length := by
    rw [Utf8.encode_ascii hascii, List.length_map]
  rcases hdrop : fraction.drop 6 with - | ⟨c, rest⟩
  · have hshort : fraction.length ≤ 6 := by simpa using hdrop
    have hnone : fraction[6]? = none := by simpa using hshort
    refine iff_of_false ?_ ?_
    · rintro ⟨hlong, -⟩
      rw [hbytes, hdrop, List.length_append, hlength, List.length_take] at hlong
      simp only [Utf8.encode_nil, List.length_nil] at hlong
      omega
    · rintro ⟨c, hc, -⟩
      rw [hnone] at hc
      cases hc
  · have hlong : 6 < fraction.length := by
      have := congrArg List.length hdrop
      rw [List.length_drop, List.length_cons] at this
      omega
    have hsix : (Utf8.encode (fraction.take 6)).length = 6 := by
      rw [hlength, List.length_take]
      omega
    have hseventh : fraction[6]? = some c := by
      rw [← List.head?_drop, hdrop]
      rfl
    obtain ⟨b, bs, hchar⟩ := List.exists_cons_of_ne_nil
      (List.ne_nil_of_length_pos (String.length_utf8EncodeChar c ▸ c.utf8Size_pos))
    have hnext : (Utf8.encode fraction)[6]? = some b := by
      rw [hbytes, hdrop, List.getElem?_append_right hsix.le, hsix, Utf8.encode_cons, hchar]
      rfl
    have hmore : 6 < (Utf8.encode fraction).length := by
      rw [hbytes, hdrop, List.length_append, hsix, Utf8.encode_cons, hchar]
      simp
    rw [hnext, RoundsUp, hseventh]
    simp only [hmore, true_and, Option.mem_some_iff, exists_eq_left']
    have hbyte : c.toNat < 128 → b = UInt8.ofNat c.toNat := by
      intro hsmall
      have hone : Utf8.encode [c] = [UInt8.ofNat c.toNat] := by
        have hall : ∀ e ∈ [c], e.toNat < 128 := by simpa using hsmall
        exact Utf8.encode_ascii hall
      rw [Utf8.encode_cons, hchar] at hone
      exact (List.cons.inj hone).1
    simp only [Adif.roundsUp, Option.any_some, Bool.and_eq_true, decide_eq_true_eq,
      Char.isDigit_iff_toNat, five_le_iff]
    have hzero : '0'.toNat = 48 := rfl
    have hnine : '9'.toNat = 57 := rfl
    constructor
    · intro hup
      have hsingle : String.utf8EncodeChar c = [b] :=
        Utf8.encodeChar_of_ascii (by omega) (by rw [hchar]; exact List.mem_cons_self)
      have hsize : c.utf8Size = 1 := by
        rw [← String.length_utf8EncodeChar, hsingle]
        rfl
      have hsmall : c.toNat < 128 := by
        have hle : c.val ≤ 127 := Char.utf8Size_eq_one_iff.mp hsize
        exact Nat.lt_succ_of_le hle
      rw [hbyte hsmall, UInt8.toNat_ofNat'] at hup
      omega
    · rintro hup
      rw [hbyte (by omega), UInt8.toNat_ofNat']
      omega

/-! ### What the readers read -/

instance (fraction : List Char) : Decidable (RoundsUp fraction) :=
  inferInstanceAs (Decidable (∃ c ∈ fraction[6]?, c.isDigit = true ∧ '5' ≤ c))

/-- A number that `str::parse` reads, and what it stands for. -/
def Parses (cs : List Char) (n : ℕ) : Prop :=
  Text.parseUnsigned (2 ^ 64) (String.ofList cs) = some n

theorem Parses.ascii {cs : List Char} {n : ℕ} (h : Parses cs n) : ∀ c ∈ cs, c.toNat < 128 := by
  have hdigit (ds : List Char) (hds : AllDigits ds) : ∀ c ∈ ds, c.toNat < 128 := by
    intro c hc
    have hbounds : 48 ≤ c.toNat ∧ c.toNat ≤ 57 := Char.isDigit_iff_toNat.mp (hds c hc)
    omega
  rcases parse_eq_some_iff.mp h with ⟨hnumber, -⟩ | ⟨ds, rfl, hnumber, -⟩
  · exact hdigit cs hnumber.digits
  · intro c hc
    rcases List.mem_cons.mp hc with rfl | hc
    · decide
    · exact hdigit ds hnumber.digits c hc

theorem Parses.lt {cs : List Char} {n k : ℕ} (h : Parses cs n) (hlength : cs.length ≤ k) :
    n < 10 ^ k := by
  rcases parse_eq_some_iff.mp h with ⟨hnumber, rfl⟩ | ⟨ds, rfl, hnumber, rfl⟩
  · exact hnumber.digits.value_lt.trans_le (Nat.pow_le_pow_right (by decide) hlength)
  · rw [List.length_cons] at hlength
    exact hnumber.digits.value_lt.trans_le (Nat.pow_le_pow_right (by decide) (by omega))

/-- **What `mhz_str_to_hz` reads.** -/
theorem mhzStrToHz_eq_some_iff {s : String} {hz : ℕ} :
    mhzStrToHz s = .ok (some hz)
      ↔ ∃ wholeMhz fracHz, Parses (parts s).1 wholeMhz ∧ Parses ((parts s).2.take 6) fracHz
        ∧ hz = wholeMhz * 1000000
          + (fracHz * 10 ^ (6 - ((parts s).2.take 6).length)
            + if RoundsUp (parts s).2 then 1 else 0)
        ∧ hz < 2 ^ 64 := by
  unfold mhzStrToHz
  dsimp only
  by_cases hskip : ((Text.trim s).isEmpty || Text.startsWith (Text.trim s) "-") = true
  · rw [if_pos hskip]
    refine iff_of_false (by rintro ⟨⟩) ?_
    rintro ⟨wholeMhz, fracHz, hwhole, -⟩
    rw [Parses, no_number_of_skip hskip] at hwhole
    cases hwhole
  rw [if_neg hskip, splitOnce_eq_parts]
  dsimp only
  generalize (parts s).1 = whole
  generalize (parts s).2 = fraction
  rcases hwhole : Text.parseUnsigned (2 ^ 64) (String.ofList whole) with - | wholeMhz
  · refine iff_of_false (by rintro ⟨⟩) ?_
    rintro ⟨wholeMhz, fracHz, hparses, -⟩
    rw [Parses, hwhole] at hparses
    cases hparses
  have htake : (Utf8.encode (String.ofList fraction).toList).take
        (min (Utf8.encode (String.ofList fraction).toList).length 6)
      = (Utf8.encode fraction).take 6 := by
    rw [String.toList_ofList, List.take_eq_take_iff]
    omega
  dsimp only
  rw [Adif.sliceTo, htake, String.toList_ofList]
  by_cases hfraction : ∃ fracHz, Parses (fraction.take 6) fracHz
  · obtain ⟨fracHz, hfrac⟩ := hfraction
    have hascii := hfrac.ascii
    have hlength : (fraction.take 6).length ≤ 6 := by simp
    have hlt := hfrac.lt hlength
    have hcut : min (Utf8.encode fraction).length 6 = (fraction.take 6).length := by
      have hbytes := congrArg List.length
        (Utf8.encode_append (fraction.take 6) (fraction.drop 6))
      rw [List.take_append_drop, List.length_append, Utf8.encode_ascii hascii,
        List.length_map] at hbytes
      by_cases hshort : fraction.length ≤ 6
      · rw [List.drop_eq_nil_of_le hshort, Utf8.encode_nil, List.length_nil] at hbytes
        omega
      · rw [List.length_take] at hbytes ⊢
        omega
    rw [(decode_take_iff hascii).mpr rfl, hcut]
    have hscaled : fracHz * 10 ^ (6 - (fraction.take 6).length) < 10 ^ 12 := by
      have hpow : 10 ^ (6 - (fraction.take 6).length) ≤ 10 ^ 6 :=
        Nat.pow_le_pow_right (by decide) (Nat.sub_le _ _)
      have hproduct : fracHz * 10 ^ (6 - (fraction.take 6).length) < 10 ^ 6 * 10 ^ 6 :=
        Nat.mul_lt_mul_of_lt_of_le hlt hpow (by positivity)
      exact hproduct.trans_eq (by norm_num)
    generalize hfracHz : fracHz * 10 ^ (6 - (fraction.take 6).length) = scaled at hscaled ⊢
    have hparse : Text.parseUnsigned (2 ^ 64) (String.ofList (fraction.take 6)) = some fracHz :=
      hfrac
    rw [Adif.ok_bind, hparse]
    dsimp only
    rw [Adif.scaleUp_eq (by omega), hfracHz]
    show (if _ then _ else _) = _ ↔ _
    have hreads : ((do
          let wholeHz ← Adif.checkedU64 (wholeMhz * 1000000)
          let hz ← Adif.checkedU64 (wholeHz + (scaled + if RoundsUp fraction then 1 else 0))
          return some hz : Except Adif.Panic (Option ℕ)) = .ok (some hz))
        ↔ ∃ wholeMhz fracHz, Parses whole wholeMhz ∧ Parses (fraction.take 6) fracHz
          ∧ hz = wholeMhz * 1000000
            + (fracHz * 10 ^ (6 - (fraction.take 6).length)
              + if RoundsUp fraction then 1 else 0)
          ∧ hz < 2 ^ 64 := by
      rw [Adif.sumHz]
      constructor
      · intro h
        by_cases hfits : wholeMhz * 1000000 + (scaled + if RoundsUp fraction then 1 else 0) < 2 ^ 64
        · rw [if_pos hfits] at h
          have hvalue := Option.some.inj (Except.ok.inj h)
          rw [hvalue] at hfits
          refine ⟨wholeMhz, fracHz, hwhole, hfrac, ?_, hfits⟩
          rw [hfracHz]
          exact hvalue.symm
        · rw [if_neg hfits] at h
          cases h
      · rintro ⟨wholeMhz', fracHz', hwhole', hfrac', hvalue, hfits⟩
        have hwhole'' := hwhole.symm.trans hwhole'
        have hfrac'' := hparse.symm.trans hfrac'
        rw [← Option.some.inj hwhole'', ← Option.some.inj hfrac'', hfracHz] at hvalue
        rw [hvalue] at hfits ⊢
        rw [if_pos hfits]
    by_cases hup : RoundsUp fraction
    · rw [if_pos ((roundsUp_iff hascii).mpr hup), Adif.checkedU64_of_lt (by omega), Adif.ok_bind]
      simp only [if_pos hup] at hreads ⊢
      exact hreads
    · rw [if_neg fun h => hup ((roundsUp_iff hascii).mp h), pure_bind]
      simp only [if_neg hup, Nat.add_zero] at hreads ⊢
      exact hreads
  · refine iff_of_false ?_ ?_
    · rcases hdecode : Utf8.decode ((Utf8.encode fraction).take 6) with - | cs
      · rintro ⟨⟩
      · rcases hparse : Text.parseUnsigned (2 ^ 64) (String.ofList cs) with - | fracHz
        · rw [Adif.ok_bind, hparse]
          rintro ⟨⟩
        · have hcs : Parses cs fracHz := hparse
          rw [(decode_take_iff hcs.ascii).mp hdecode] at hcs
          exact absurd ⟨fracHz, hcs⟩ hfraction
    · rintro ⟨wholeMhz, fracHz, -, hfrac, -⟩
      exact hfraction ⟨fracHz, hfrac⟩

/-- The character behind six does for the managed reader. -/
def RoundsUpAbove (fraction : List Char) : Prop := ∃ c ∈ fraction[6]?, '5' ≤ c

instance (fraction : List Char) : Decidable (RoundsUpAbove fraction) :=
  inferInstanceAs (Decidable (∃ c ∈ fraction[6]?, '5' ≤ c))

/-- **What `TryConvertMhzToHz` reads.** -/
theorem tryConvertMhzToHz_eq_some_iff {s : String} {hz : ℕ} :
    tryConvertMhzToHz s = some hz
      ↔ ∃ wholeMhz fracHz, tryParseULong (parts s).1 = some wholeMhz
        ∧ tryParseULong ((parts s).2.take 6
          ++ List.replicate (6 - ((parts s).2.take 6).length) '0') = some fracHz
        ∧ hz = (wholeMhz * 1000000
          + (fracHz + if RoundsUpAbove (parts s).2 then 1 else 0)) % 2 ^ 64 := by
  unfold tryConvertMhzToHz
  dsimp only
  have hskip : ((Text.trim s).toList.isEmpty || (Text.trim s).toList.head? == some '-') = true →
      tryParseULong (parts s).1 = none := by
    intro hskip
    rw [parts]
    rcases htext : (Text.trim s).toList with - | ⟨c, cs⟩
    · rfl
    · rw [htext] at hskip
      have hdash : c = '-' := by simpa using hskip
      rw [hdash]
      rfl
  by_cases hrefused : ((Text.trim s).toList.isEmpty
      || (Text.trim s).toList.head? == some '-') = true
  · rw [if_pos hrefused]
    refine iff_of_false nofun ?_
    rintro ⟨wholeMhz, fracHz, hwhole, -⟩
    rw [hskip hrefused] at hwhole
    cases hwhole
  rw [if_neg hrefused, findIdx?_eq_parts]
  generalize (parts s).1 = whole
  generalize hfraction : (parts s).2 = fraction
  rcases hwhole : tryParseULong whole with - | wholeMhz
  · simp
  have htake : fraction.take (min fraction.length 6) = fraction.take 6 := by
    rw [List.take_eq_take_iff]
    omega
  have hlength : (fraction.take 6).length = min fraction.length 6 := by
    rw [List.length_take, Nat.min_comm]
  dsimp only
  rw [htake, hlength]
  generalize fraction.take 6 ++ List.replicate (6 - min fraction.length 6) '0' = fracBuf
  have habove : (6 < fraction.length ∧ (fraction[6]?.any fun c => decide ('5' ≤ c)) = true)
      ↔ RoundsUpAbove fraction := by
    rw [RoundsUpAbove]
    rcases hnext : fraction[6]? with - | c
    · simp
    · have hlong := (List.getElem?_eq_some_iff.mp hnext).1
      simp [hlong]
  rcases hfrac : tryParseULong fracBuf with - | fracHz
  · simp
  by_cases hup : RoundsUpAbove fraction
  · simp only [if_pos (habove.mpr hup), if_pos hup, Option.some.injEq]
    constructor
    · intro h
      exact ⟨wholeMhz, fracHz, rfl, rfl, h.symm⟩
    · rintro ⟨_, _, rfl, rfl, h⟩
      exact h.symm
  · simp only [if_neg fun h => hup (habove.mp h), if_neg hup, Option.some.injEq]
    constructor
    · intro h
      exact ⟨wholeMhz, fracHz, rfl, rfl, h.symm⟩
    · rintro ⟨_, _, rfl, rfl, h⟩
      exact h.symm

/-- Six digits are a number when the digits before the zeroes that fill them up are. -/
theorem tryParseULong_filled {digits : List Char} {n : ℕ} (hlength : digits.length ≤ 6) :
    tryParseULong (digits ++ List.replicate (6 - digits.length) '0') = some n
      ↔ (AllDigits digits ∧ n = decimalValue digits * 10 ^ (6 - digits.length))
        ∨ (IsPadded digits ∧ digits.length = 6 ∧ tryParseULong digits = some n) := by
  have hvalue : decimalValue (digits ++ List.replicate (6 - digits.length) '0')
      = decimalValue digits * 10 ^ (6 - digits.length) := by
    rw [Text.decimalValue_append, List.length_replicate, Text.decimalValue_replicate_zero,
      Nat.add_zero]
  constructor
  · intro h
    rcases tryParseULong_eq_some_iff.mp h with ⟨hnumber, rfl⟩ | ⟨ds, k, heq, hnumber, rfl⟩
    · exact .inl ⟨fun c hc => hnumber.digits c (List.mem_append_left _ hc), hvalue⟩
    · -- no zero is a null character, so that nothing has been filled up
      rcases hfill : 6 - digits.length with - | fill
      · rw [hfill, List.replicate_zero, List.append_nil] at heq h
        exact .inr ⟨⟨ds, k, heq, hnumber⟩, by omega, h⟩
      · have hlast := congrArg List.getLast? heq
        rw [hfill, List.replicate_succ', List.replicate_succ', ← List.append_assoc,
          ← List.append_assoc, List.getLast?_concat, List.getLast?_concat] at hlast
        exact absurd (Option.some.inj hlast) (by decide)
  · rintro (⟨hdigits, rfl⟩ | ⟨-, hsix, h⟩)
    · have hall : AllDigits (digits ++ List.replicate (6 - digits.length) '0') := by
        intro c hc
        rcases List.mem_append.mp hc with hc | hc
        · exact hdigits c hc
        · rw [List.eq_of_mem_replicate hc]
          decide
      have hsix : (digits ++ List.replicate (6 - digits.length) '0').length = 6 := by
        rw [List.length_append, List.length_replicate]
        omega
      have hlt := hall.value_lt
      rw [hsix] at hlt
      refine tryParseULong_eq_some_iff.mpr (.inl ⟨⟨?_, hall, by omega⟩, hvalue.symm⟩)
      exact List.ne_nil_of_length_pos (by omega)
    · rw [hsix, Nat.sub_self, List.replicate_zero, List.append_nil]
      exact h

/-! ### Where the readers part -/

/-- The digits behind a plus sign, if there is one. -/
def unsigned : List Char → List Char
  | '+' :: digits => digits
  | digits => digits

/-- The frequency that `mhz_str_to_hz` calculates. -/
def hertz (whole fraction : List Char) : ℕ :=
  decimalValue (unsigned whole) * 1000000
    + (decimalValue (unsigned (fraction.take 6)) * 10 ^ (6 - (fraction.take 6).length)
      + if RoundsUp fraction then 1 else 0)

/-- One engine reads a text as a frequency that the other does not. -/
inductive ReadApart (whole fraction : List Char) : Prop where
  /-- Whole megahertz, with or without a point. -/
  | noFraction (hwhole : IsNumber whole ∨ IsPadded whole) (hfraction : fraction = [])
  /-- A plus sign before the number or behind the point. -/
  | sign (hwhole : IsNumber whole ∨ IsSigned whole)
      (hfraction : IsNumber (fraction.take 6) ∨ IsSigned (fraction.take 6))
      (hsigned : IsSigned whole ∨ IsSigned (fraction.take 6))
      (hfits : hertz whole fraction < 2 ^ 64)
  /-- Null characters before the point, or among six characters behind it. -/
  | nulls (hwhole : IsNumber whole ∨ IsPadded whole)
      (hfraction : IsNumber (fraction.take 6)
        ∨ IsPadded (fraction.take 6) ∧ (fraction.take 6).length = 6)
      (hpadded : IsPadded whole ∨ IsPadded (fraction.take 6))
  /-- Six digits, and behind them a character above the digits. -/
  | rounding (hwhole : IsNumber whole) (hfraction : IsNumber (fraction.take 6))
      (hnext : ∃ c ∈ fraction[6]?, '9' < c)
  /-- A frequency that 64 bits do not hold. -/
  | overflow (hwhole : IsNumber whole) (hfraction : IsNumber (fraction.take 6))
      (hlarge : 2 ^ 64 ≤ hertz whole fraction)

theorem IsNumber.unsigned_eq {cs : List Char} (h : IsNumber cs) : unsigned cs = cs := by
  unfold unsigned
  split
  · exact absurd (h.digits '+' List.mem_cons_self) (by decide)
  · rfl

theorem parses_iff {cs : List Char} {n : ℕ} :
    Parses cs n ↔ (IsNumber cs ∨ IsSigned cs) ∧ n = decimalValue (unsigned cs) := by
  rw [Parses, parse_eq_some_iff]
  constructor
  · rintro (⟨hnumber, rfl⟩ | ⟨ds, rfl, hnumber, rfl⟩)
    · exact ⟨.inl hnumber, by rw [hnumber.unsigned_eq]⟩
    · exact ⟨.inr ⟨ds, rfl, hnumber⟩, rfl⟩
  · rintro ⟨hnumber | ⟨ds, rfl, hnumber⟩, rfl⟩
    · exact .inl ⟨hnumber, by rw [hnumber.unsigned_eq]⟩
    · exact .inr ⟨ds, rfl, hnumber, rfl⟩

/-- The Rust reader reads numbers, with a plus sign or without. -/
theorem mhzStrToHz_reads_iff {s : String} {hz : ℕ} :
    mhzStrToHz s = .ok (some hz)
      ↔ (IsNumber (parts s).1 ∨ IsSigned (parts s).1)
        ∧ (IsNumber ((parts s).2.take 6) ∨ IsSigned ((parts s).2.take 6))
        ∧ hz = hertz (parts s).1 (parts s).2 ∧ hz < 2 ^ 64 := by
  simp only [mhzStrToHz_eq_some_iff, parses_iff]
  constructor
  · rintro ⟨wholeMhz, fracHz, ⟨hwhole, rfl⟩, ⟨hfraction, rfl⟩, hvalue, hfits⟩
    exact ⟨hwhole, hfraction, hvalue, hfits⟩
  · rintro ⟨hwhole, hfraction, hvalue, hfits⟩
    exact ⟨_, _, ⟨hwhole, rfl⟩, ⟨hfraction, rfl⟩, hvalue, hfits⟩

/-- The managed reader reads numbers, with null characters behind them or without. -/
theorem tryConvertMhzToHz_isSome_iff {s : String} :
    (∃ hz, tryConvertMhzToHz s = some hz)
      ↔ (IsNumber (parts s).1 ∨ IsPadded (parts s).1)
        ∧ ((parts s).2 = [] ∨ IsNumber ((parts s).2.take 6)
          ∨ IsPadded ((parts s).2.take 6) ∧ ((parts s).2.take 6).length = 6) := by
  have hlength : ((parts s).2.take 6).length ≤ 6 := by simp
  have hread (cs : List Char) :
      (∃ n, tryParseULong cs = some n) ↔ IsNumber cs ∨ IsPadded cs := by
    simp only [tryParseULong_eq_some_iff]
    constructor
    · rintro ⟨n, ⟨hnumber, -⟩ | ⟨ds, k, heq, hnumber, -⟩⟩
      · exact .inl hnumber
      · exact .inr ⟨ds, k, heq, hnumber⟩
    · rintro (hnumber | ⟨ds, k, heq, hnumber⟩)
      · exact ⟨_, .inl ⟨hnumber, rfl⟩⟩
      · exact ⟨_, .inr ⟨ds, k, heq, hnumber, rfl⟩⟩
  have hnumber : AllDigits ((parts s).2.take 6)
      ↔ (parts s).2 = [] ∨ IsNumber ((parts s).2.take 6) := by
    constructor
    · intro hdigits
      by_cases hnil : (parts s).2 = []
      · exact .inl hnil
      · have hlt := hdigits.value_lt.trans_le (Nat.pow_le_pow_right (by decide) hlength)
        exact .inr ⟨by simpa using hnil, hdigits, by omega⟩
    · rintro (hnil | hnumber)
      · rw [hnil]
        nofun
      · exact hnumber.digits
  simp only [tryConvertMhzToHz_eq_some_iff, tryParseULong_filled hlength]
  constructor
  · rintro ⟨hz, wholeMhz, fracHz, hwhole, hfrac, -⟩
    refine ⟨(hread _).mp ⟨wholeMhz, hwhole⟩, ?_⟩
    rw [← or_assoc, ← hnumber]
    rcases hfrac with ⟨hdigits, -⟩ | ⟨hpadded, hsix, -⟩
    · exact .inl hdigits
    · exact .inr ⟨hpadded, hsix⟩
  · rintro ⟨hwhole, hfraction⟩
    obtain ⟨wholeMhz, hwhole⟩ := (hread _).mpr hwhole
    rw [← or_assoc, ← hnumber] at hfraction
    rcases hfraction with hdigits | ⟨hpadded, hsix⟩
    · exact ⟨_, wholeMhz, _, hwhole, .inl ⟨hdigits, rfl⟩, rfl⟩
    · obtain ⟨fracHz, hfrac⟩ := (hread _).mpr (.inr hpadded)
      exact ⟨_, wholeMhz, fracHz, hwhole, .inr ⟨hpadded, hsix, hfrac⟩, rfl⟩

/-- Of plain digits both readers calculate the same, but for the rounding and the overflow. -/
theorem tryConvertMhzToHz_of_numbers {s : String} (hwhole : IsNumber (parts s).1)
    (hfraction : IsNumber ((parts s).2.take 6)) :
    tryConvertMhzToHz s
      = some ((decimalValue (parts s).1 * 1000000
        + (decimalValue ((parts s).2.take 6) * 10 ^ (6 - ((parts s).2.take 6).length)
          + if RoundsUpAbove (parts s).2 then 1 else 0)) % 2 ^ 64) := by
  have hlength : ((parts s).2.take 6).length ≤ 6 := by simp
  rw [tryConvertMhzToHz_eq_some_iff]
  exact ⟨_, _, tryParseULong_eq_some_iff.mpr (.inl ⟨hwhole, rfl⟩),
    (tryParseULong_filled hlength).mpr (.inl ⟨hfraction.digits, rfl⟩), rfl⟩

theorem hertz_of_numbers {whole fraction : List Char} (hwhole : IsNumber whole)
    (hfraction : IsNumber (fraction.take 6)) :
    hertz whole fraction
      = decimalValue whole * 1000000
        + (decimalValue (fraction.take 6) * 10 ^ (6 - (fraction.take 6).length)
          + if RoundsUp fraction then 1 else 0) := by
  rw [hertz, hwhole.unsigned_eq, hfraction.unsigned_eq]

/-- The roundings agree unless a character above the digits decides. -/
theorem roundsUpAbove_iff (fraction : List Char) :
    RoundsUpAbove fraction ↔ RoundsUp fraction ∨ ∃ c ∈ fraction[6]?, '9' < c := by
  rw [RoundsUpAbove, RoundsUp]
  constructor
  · rintro ⟨c, hc, hfive⟩
    by_cases hnine : '9' < c
    · exact .inr ⟨c, hc, hnine⟩
    · refine .inl ⟨c, hc, Char.isDigit_iff_toNat.mpr ⟨?_, ?_⟩, hfive⟩
      · exact le_trans (by decide) (five_le_iff.mp hfive)
      · exact not_lt.mp hnine
  · rintro (⟨c, hc, -, hfive⟩ | ⟨c, hc, hnine⟩)
    · exact ⟨c, hc, hfive⟩
    · exact ⟨c, hc, le_trans (by decide) hnine.le⟩

/-- **The engines read a text alike exactly if it is none of those.** -/
theorem reads_alike_iff (s : String) :
    (∀ hz, mhzStrToHz s = .ok (some hz) ↔ tryConvertMhzToHz s = some hz)
      ↔ ¬ ReadApart (parts s).1 (parts s).2 := by
  constructor
  · rintro halike (⟨hwhole, hfraction⟩ | ⟨hwhole, hfraction, hsigned, hfits⟩
      | ⟨hwhole, hfraction, hpadded⟩ | ⟨hwhole, hfraction, hnext⟩ | ⟨hwhole, hfraction, hlarge⟩)
    · obtain ⟨hz, hmanaged⟩ := tryConvertMhzToHz_isSome_iff.mpr ⟨hwhole, .inl hfraction⟩
      obtain ⟨-, hsix, -⟩ := mhzStrToHz_reads_iff.mp ((halike hz).mpr hmanaged)
      rw [hfraction] at hsix
      rcases hsix with hnumber | ⟨ds, heq, -⟩
      · exact hnumber.nonempty rfl
      · cases heq
    · have hrust := mhzStrToHz_reads_iff.mpr ⟨hwhole, hfraction, rfl, hfits⟩
      obtain ⟨hwhole', hfraction'⟩ :=
        tryConvertMhzToHz_isSome_iff.mp ⟨_, (halike _).mp hrust⟩
      rcases hsigned with hsigned | hsigned
      · rcases hwhole' with hnumber | hpadded
        · exact hnumber.not_signed hsigned
        · exact hsigned.not_padded hpadded
      · rcases hfraction' with hnil | hnumber | ⟨hpadded, -⟩
        · obtain ⟨ds, heq, -⟩ := hsigned
          rw [hnil] at heq
          cases heq
        · exact hnumber.not_signed hsigned
        · exact hsigned.not_padded hpadded
    · obtain ⟨hz, hmanaged⟩ := tryConvertMhzToHz_isSome_iff.mpr ⟨hwhole, .inr hfraction⟩
      obtain ⟨hwhole', hfraction', -⟩ := mhzStrToHz_reads_iff.mp ((halike hz).mpr hmanaged)
      rcases hpadded with hpadded | hpadded
      · rcases hwhole' with hnumber | hsigned
        · exact hnumber.not_padded hpadded
        · exact hsigned.not_padded hpadded
      · rcases hfraction' with hnumber | hsigned
        · exact hnumber.not_padded hpadded
        · exact hsigned.not_padded hpadded
    · have hmanaged := tryConvertMhzToHz_of_numbers hwhole hfraction
      obtain ⟨-, -, hvalue, hfits⟩ := mhzStrToHz_reads_iff.mp ((halike _).mpr hmanaged)
      have hup : RoundsUpAbove (parts s).2 := (roundsUpAbove_iff _).mpr (.inr hnext)
      have hdown : ¬ RoundsUp (parts s).2 := by
        rintro ⟨d, hd, hdigit, -⟩
        obtain ⟨c, hc, hnine⟩ := hnext
        rw [Option.mem_def] at hc hd
        rw [hc] at hd
        cases hd
        exact absurd (Char.isDigit_iff_toNat.mp hdigit).2 (not_le.mpr hnine)
      rw [hertz_of_numbers hwhole hfraction, if_pos hup, if_neg hdown] at hvalue
      rw [if_pos hup] at hfits
      omega
    · have hmanaged := tryConvertMhzToHz_of_numbers hwhole hfraction
      obtain ⟨-, -, hvalue, hfits⟩ := mhzStrToHz_reads_iff.mp ((halike _).mpr hmanaged)
      rw [hvalue] at hfits
      omega
  · intro hapart hz
    -- whoever reads it, there are plain digits on both sides
    have hboth (hnumbers : IsNumber (parts s).1 ∧ IsNumber ((parts s).2.take 6)) :
        mhzStrToHz s = .ok (some hz) ↔ tryConvertMhzToHz s = some hz := by
      obtain ⟨hwhole, hfraction⟩ := hnumbers
      have hfits : hertz (parts s).1 (parts s).2 < 2 ^ 64 := by
        by_contra hlarge
        exact hapart (.overflow hwhole hfraction (not_lt.mp hlarge))
      have hround : RoundsUpAbove (parts s).2 ↔ RoundsUp (parts s).2 := by
        rw [roundsUpAbove_iff, or_iff_left fun hnext => hapart (.rounding hwhole hfraction hnext)]
      rw [mhzStrToHz_reads_iff, tryConvertMhzToHz_of_numbers hwhole hfraction]
      simp only [hround]
      rw [← hertz_of_numbers hwhole hfraction, Nat.mod_eq_of_lt hfits, Option.some.injEq]
      constructor
      · rintro ⟨-, -, hvalue, -⟩
        exact hvalue.symm
      · intro hvalue
        exact ⟨.inl hwhole, .inl hfraction, hvalue.symm, hvalue ▸ hfits⟩
    constructor
    · intro hrust
      obtain ⟨hwhole, hfraction, hvalue, hfits⟩ := mhzStrToHz_reads_iff.mp hrust
      by_cases hsigned : IsSigned (parts s).1 ∨ IsSigned ((parts s).2.take 6)
      · exact absurd (.sign hwhole hfraction hsigned (hvalue ▸ hfits)) hapart
      · rw [not_or] at hsigned
        exact (hboth ⟨hwhole.resolve_right hsigned.1, hfraction.resolve_right hsigned.2⟩).mp hrust
    · intro hmanaged
      obtain ⟨hwhole, hfraction⟩ := tryConvertMhzToHz_isSome_iff.mp ⟨hz, hmanaged⟩
      rcases hfraction with hnil | hfraction
      · exact absurd (.noFraction hwhole hnil) hapart
      by_cases hpadded : IsPadded (parts s).1 ∨ IsPadded ((parts s).2.take 6)
      · exact absurd (.nulls hwhole hfraction hpadded) hapart
      · rw [not_or] at hpadded
        have hnumber := hfraction.resolve_right fun h => hpadded.2 h.1
        exact (hboth ⟨hwhole.resolve_right hpadded.1, hnumber⟩).mpr hmanaged

/-- Whole megahertz: one engine reads them, and the other does not. -/
theorem reads_whole_megahertz_apart :
    mhzStrToHz "14" = .ok none ∧ tryConvertMhzToHz "14" = some 14000000 := by
  decide +kernel

end QsoRipper.DotNet
