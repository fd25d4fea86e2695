/-
QsoRipper/Adif/Frequency.lean

Frequencies in the ADIF adapter: `mhz_str_to_hz` reads a text in MHz, and
`format_hz_as_mhz` writes one.  The reader cuts the fraction to six bytes and
calculates in `u64`; a cut inside a character and an overflow are panics (a
release build wraps around instead of the latter).
-/
import QsoRipper.Adif.Mapper
import QsoRipper.Lib.Decimal
import QsoRipper.Lib.Lines

namespace QsoRipper.Adif

/-! ### Reading -/

/-- What the reader can panic with. -/
inductive Panic where
  | notCharBoundary
  | overflow
  deriving DecidableEq

/-- `&s[..n]`, of a text with `n` bytes or more. -/
def sliceTo (n : ℕ) (s : String) : Except Panic String :=
  match Utf8.decode ((Utf8.encode s.toList).take n) with
  | some cs => .ok (String.ofList cs)
  | none => .error .notCharBoundary

/-- The result of an operation on `u64`s. -/
def checkedU64 (n : ℕ) : Except Panic ℕ := if n < 2 ^ 64 then .ok n else .error .overflow

/-- The loop that multiplies by ten. -/
def scaleUp : ℕ → ℕ → Except Panic ℕ
  | 0, n => .ok n
  | k + 1, n => do
      let n ← checkedU64 (n * 10)
      scaleUp k n

/-- Is the byte a digit of five or more? -/
def roundsUp (next : Option UInt8) : Bool :=
  next.any fun b => decide (48 ≤ b.toNat ∧ b.toNat ≤ 57) && decide (5 ≤ b.toNat - 48)

/-- `mhz_str_to_hz`. -/
def mhzStrToHz (s : String) : Except Panic (Option ℕ) :=
  let trimmed := Text.trim s
  if trimmed.isEmpty || Text.startsWith trimmed "-" then return none
  else
    let (integerPart, fractionalPart) := (Text.splitOnce '.' trimmed).getD (trimmed, "")
    match Text.parseUnsigned (2 ^ 64) integerPart with
    | none => return none
    | some wholeMhz => do
        let bytes := Utf8.encode fractionalPart.toList
        let fracLen := min bytes.length 6
        let fracDigits ← sliceTo fracLen fractionalPart
        match Text.parseUnsigned (2 ^ 64) fracDigits with
        | none => return none
        | some fracHz => do
            let fracHz ← scaleUp (6 - fracLen) fracHz
            let fracHz ←
              if 6 < bytes.length ∧ roundsUp bytes[6]? = true then checkedU64 (fracHz + 1)
              else pure fracHz
            let wholeHz ← checkedU64 (wholeMhz * 1000000)
            let hz ← checkedU64 (wholeHz + fracHz)
            return some hz

/-- The frequency in Hz and in kHz. -/
def withKhz (hz : ℕ) : Except Panic (Option (ℕ × ℕ)) := do
  let rounded ← checkedU64 (hz + 500)
  return some (hz, rounded / 1000)

/-- What the `FREQ` and `FREQ_RX` arms store, if they store a frequency. -/
def readFrequency (value : String) : Except Panic (Option (ℕ × ℕ)) := do
  match ← mhzStrToHz value with
  | none => return none
  | some hz => withKhz hz

/-! ### Reading a numeral -/

open Text (AllDigits IsNumeral roundedAt decimalValue)

section Numeral

variable {s : String} {whole fraction : List Char}

theorem checkedU64_of_lt {n : ℕ} (h : n < 2 ^ 64) : checkedU64 n = .ok n := if_pos h

theorem scaleUp_eq {k n : ℕ} (h : n * 10 ^ k < 2 ^ 64) : scaleUp k n = .ok (n * 10 ^ k) := by
  induction k generalizing n with
  | zero => rw [scaleUp, pow_zero, Nat.mul_one]
  | succ k ih =>
      have hnext : n * 10 * 10 ^ k = n * 10 ^ (k + 1) := by rw [pow_succ]; ring
      have hle : n * 10 ≤ n * 10 * 10 ^ k := Nat.le_mul_of_pos_right _ (by positivity)
      rw [scaleUp, checkedU64_of_lt (by omega)]
      show scaleUp k (n * 10) = _
      rw [ih (by omega), hnext]

/-- Digits are one byte each. -/
theorem encode_digits {cs : List Char} (h : AllDigits cs) :
    Utf8.encode cs = cs.map fun c => UInt8.ofNat c.toNat := by
  refine Utf8.encode_ascii fun c hc => ?_
  have hdigit : 48 ≤ c.toNat ∧ c.toNat ≤ 57 := Char.isDigit_iff_toNat.mp (h c hc)
  omega

theorem sliceTo_digits {cs : List Char} (h : AllDigits cs) (n : ℕ) :
    sliceTo n (String.ofList cs) = .ok (String.ofList (cs.take n)) := by
  have htake : AllDigits (cs.take n) := fun c hc => h c (List.mem_of_mem_take hc)
  have hbytes : (Utf8.encode (String.ofList cs).toList).take n = Utf8.encode (cs.take n) := by
    rw [String.toList_ofList, encode_digits h, encode_digits htake, List.map_take]
  rw [sliceTo, hbytes, Utf8.decode_eq_some_iff.mpr rfl]

/-- The byte behind the cut decides as its digit does. -/
theorem roundsUp_digit {c : Char} (h : c.isDigit = true) :
    roundsUp (some (UInt8.ofNat c.toNat)) = decide (5 ≤ c.toNat - '0'.toNat) := by
  have hdigit : 48 ≤ c.toNat ∧ c.toNat ≤ 57 := Char.isDigit_iff_toNat.mp h
  have hbyte : (UInt8.ofNat c.toNat).toNat = c.toNat := by
    rw [UInt8.toNat_ofNat']
    omega
  rw [roundsUp, Option.any_some, hbyte, decide_eq_true hdigit, Bool.true_and]
  rfl

theorem parse_digits {cs : List Char} (h : AllDigits cs) :
    Text.parseUnsigned (2 ^ 64) (String.ofList cs)
      = if cs ≠ [] ∧ decimalValue cs < 2 ^ 64 then some (decimalValue cs) else none := by
  split
  · rename_i hfits
    exact Text.parseUnsigned_digits hfits.1 h hfits.2
  · rename_i hfits
    rcases hparse : Text.parseUnsigned (2 ^ 64) (String.ofList cs) with - | value
    · rfl
    · obtain ⟨digits, htext, hne, hdigits, rfl, hlt⟩ := Text.parseUnsigned_eq_some_iff.mp hparse
      rw [String.toList_ofList] at htext
      rcases htext with rfl | rfl
      · exact absurd ⟨hne, hlt⟩ hfits
      · exact absurd (h '+' List.mem_cons_self) (by decide)

/-- The digits of a numeral are not white space, a sign or a point. -/
theorem IsNumeral.chars (h : IsNumeral s whole fraction) :
    ∀ c ∈ s.toList, c.isDigit = true ∨ c = '.' := by
  intro c hc
  rcases h.text with htext | ⟨-, htext⟩
  · rw [htext, List.mem_append, List.mem_cons] at hc
    rcases hc with hc | rfl | hc
    · exact .inl (h.whole_digits c hc)
    · exact .inr rfl
    · exact .inl (h.fraction_digits c hc)
  · rw [htext] at hc
    exact .inl (h.whole_digits c hc)

theorem IsNumeral.trim (h : IsNumeral s whole fraction) : Text.trim s = s := by
  refine Text.trim_eq_self fun c hc => ?_
  rcases IsNumeral.chars h c hc with hdigit | rfl
  · exact Text.isWhitespace_of_isDigit hdigit
  · decide

/-- A numeral is neither empty nor negative. -/
theorem IsNumeral.unsigned (h : IsNumeral s whole fraction) :
    (s.isEmpty || Text.startsWith s "-") = false := by
  obtain ⟨c, cs, hwhole⟩ := List.exists_cons_of_ne_nil h.nonempty
  have hdigit : c.isDigit = true := h.whole_digits c (hwhole ▸ List.mem_cons_self)
  have hdash : c ≠ '-' := by
    rintro rfl
    exact absurd hdigit (by decide)
  obtain ⟨ds, htext⟩ : ∃ ds, s.toList = c :: ds := by
    rcases h.text with htext | ⟨-, htext⟩
    · exact ⟨cs ++ '.' :: fraction, by rw [htext, hwhole, List.cons_append]⟩
    · exact ⟨cs, by rw [htext, hwhole]⟩
  have hempty : s.isEmpty = false := by
    rw [Bool.eq_false_iff, Ne, String.isEmpty_iff]
    rintro rfl
    exact absurd htext (by simp)
  have hminus : "-".toList = ['-'] := rfl
  rw [hempty, Text.startsWith, htext, hminus, Bool.false_or]
  simp [List.isPrefixOf, hdash.symm]

theorem AllDigits.no_point {cs : List Char} (h : AllDigits cs) : '.' ∉ cs :=
  fun hmem => absurd (h '.' hmem) (by decide)

/-- A numeral comes apart at its point. -/
theorem IsNumeral.split (h : IsNumeral s whole fraction) :
    (Text.splitOnce '.' s).getD (s, "") = (String.ofList whole, String.ofList fraction) := by
  have hpoint := AllDigits.no_point h.whole_digits
  rcases h.text with htext | ⟨rfl, htext⟩
  · have hs : s = String.ofList whole ++ String.singleton '.' ++ String.ofList fraction := by
      rw [← String.toList_inj, htext]
      simp
    rw [hs, Text.splitOnce_append]
    · rfl
    · rw [String.toList_ofList]
      exact hpoint
  · have hs : s = String.ofList whole := by rw [← htext, String.ofList_toList]
    rw [Text.splitOnce, htext, if_neg hpoint, hs]
    rfl

/-- Spelled out, so that nothing is calculated to see it. -/
theorem ok_bind {α β : Type} (a : α) (f : α → Except Panic β) : (Except.ok a >>= f) = f a := rfl

/-- The sum of megahertz and hertz. -/
theorem sumHz (wholeMhz fracHz : ℕ) :
    (do
      let wholeHz ← checkedU64 (wholeMhz * 1000000)
      let hz ← checkedU64 (wholeHz + fracHz)
      return some hz : Except Panic (Option ℕ))
      = if wholeMhz * 1000000 + fracHz < 2 ^ 64 then .ok (some (wholeMhz * 1000000 + fracHz))
        else .error .overflow := by
  by_cases hwhole : wholeMhz * 1000000 < 2 ^ 64
  · rw [checkedU64_of_lt hwhole, ok_bind]
    by_cases hsum : wholeMhz * 1000000 + fracHz < 2 ^ 64
    · rw [if_pos hsum, checkedU64_of_lt hsum]
      rfl
    · rw [if_neg hsum, checkedU64, if_neg hsum]
      rfl
  · have hsum : ¬ wholeMhz * 1000000 + fracHz < 2 ^ 64 := fun hsum =>
      hwhole (Nat.lt_of_le_of_lt (Nat.le_add_right _ _) hsum)
    rw [checkedU64, if_neg hwhole, if_neg hsum]
    rfl

/-- **What a numeral is read as.**  One without digits behind the point is not read at all. -/
theorem mhzStrToHz_numeral (h : IsNumeral s whole fraction) :
    mhzStrToHz s
      = if fraction = [] ∨ 2 ^ 64 ≤ decimalValue whole then .ok none
        else if roundedAt 6 whole fraction < 2 ^ 64 then .ok (some (roundedAt 6 whole fraction))
        else .error .overflow := by
  have hdigits := h.fraction_digits
  unfold mhzStrToHz
  dsimp only
  rw [IsNumeral.trim h, IsNumeral.unsigned h, IsNumeral.split h]
  dsimp only
  rw [if_neg Bool.false_ne_true, parse_digits h.whole_digits]
  by_cases hwhole : decimalValue whole < 2 ^ 64
  case neg =>
    rw [if_neg fun hfits => hwhole hfits.2, if_pos (.inr (Nat.le_of_not_lt hwhole))]
    rfl
  rw [if_pos ⟨h.nonempty, hwhole⟩]
  dsimp only
  rw [String.toList_ofList, encode_digits hdigits, sliceTo_digits hdigits, List.length_map]
  show (match Text.parseUnsigned (2 ^ 64)
      (String.ofList (fraction.take (min fraction.length 6))) with
    | none => _
    | some fracHz => _) = _
  have htake : AllDigits (fraction.take (min fraction.length 6)) :=
    fun c hc => hdigits c (List.mem_of_mem_take hc)
  rw [parse_digits htake]
  by_cases hempty : fraction = []
  · have hskip : fraction = [] ∨ 2 ^ 64 ≤ decimalValue whole := .inl hempty
    rw [if_pos hskip, if_neg]
    · rfl
    · simp [hempty]
  have hnone : ¬ (fraction = [] ∨ 2 ^ 64 ≤ decimalValue whole) := by
    rw [not_or]
    exact ⟨hempty, Nat.not_le_of_lt hwhole⟩
  have hpos : 0 < fraction.length := List.length_pos_of_ne_nil hempty
  have hvalue : decimalValue (fraction.take (min fraction.length 6)) < 10 ^ 6 := by
    refine htake.value_lt.trans_le (Nat.pow_le_pow_right (by decide) ?_)
    rw [List.length_take]
    omega
  have hread : fraction.take (min fraction.length 6) ≠ []
      ∧ decimalValue (fraction.take (min fraction.length 6)) < 2 ^ 64 := by
    refine ⟨fun hnil => ?_, by omega⟩
    have hlength := congrArg List.length hnil
    rw [List.length_take, List.length_nil] at hlength
    omega
  rw [if_pos hread, if_neg hnone]
  dsimp only
  by_cases hlong : 6 < fraction.length
  · -- the fraction is cut behind six digits
    obtain ⟨d, rest, hdrop⟩ : ∃ d rest, fraction.drop 6 = d :: rest := by
      refine List.exists_cons_of_ne_nil fun hnil => ?_
      rw [List.drop_eq_nil_iff] at hnil
      omega
    have hsplit : fraction = fraction.take 6 ++ d :: rest := by
      rw [← hdrop, List.take_append_drop]
    have hmem {c : Char} (hc : c ∈ d :: rest) : c.isDigit = true :=
      hdigits c (List.mem_of_mem_drop (hdrop ▸ hc))
    have hkept : (fraction.take 6).length = 6 := by
      rw [List.length_take]
      omega
    have hnext : (fraction.map fun c => UInt8.ofNat c.toNat)[6]? = some (UInt8.ofNat d.toNat) := by
      rw [List.getElem?_map, hsplit, List.getElem?_append_right hkept.le, hkept]
      rfl
    have hrest : AllDigits rest := fun c hc => hmem (List.mem_cons_of_mem _ hc)
    have hrounded : roundedAt 6 whole (fraction.take 6 ++ d :: rest)
        = decimalValue whole * 10 ^ 6 + decimalValue (fraction.take 6)
          + if 5 ≤ d.toNat - '0'.toNat then 1 else 0 :=
      Text.roundedAt_of_cut hkept (hmem List.mem_cons_self) hrest
    rw [← hsplit] at hrounded
    rw [Nat.min_eq_right hlong.le] at hvalue ⊢
    rw [Nat.sub_self, scaleUp, hnext, roundsUp_digit (hmem List.mem_cons_self), hrounded]
    show (if _ then _ else _) = _
    by_cases hup : 5 ≤ d.toNat - '0'.toNat
    · rw [if_pos ⟨hlong, decide_eq_true hup⟩, if_pos hup, checkedU64_of_lt (by omega),
        Nat.add_assoc, ok_bind]
      exact sumHz _ _
    · rw [if_neg fun hcut => hup (of_decide_eq_true hcut.2), if_neg hup, Nat.add_zero,
        pure_bind]
      exact sumHz _ _
  · have hshort : fraction.length ≤ 6 := Nat.le_of_not_lt hlong
    rw [Nat.min_eq_left hshort, List.take_length] at hvalue ⊢
    have hscaled : decimalValue fraction * 10 ^ (6 - fraction.length) < 2 ^ 64 := by
      have hpow : 10 ^ (6 - fraction.length) ≤ 10 ^ 6 :=
        Nat.pow_le_pow_right (by decide) (Nat.sub_le _ _)
      have hproduct := Nat.mul_lt_mul_of_lt_of_le hvalue hpow (by positivity)
      omega
    rw [scaleUp_eq hscaled, Text.roundedAt_of_le hshort]
    show (if _ then _ else _) = _
    rw [if_neg fun hcut => hlong hcut.1, pure_bind]
    exact sumHz _ _

/-- A text is one numeral at most. -/
theorem IsNumeral.unique {whole' fraction' : List Char} (h : IsNumeral s whole fraction)
    (h' : IsNumeral s whole' fraction') : whole' = whole ∧ fraction' = fraction := by
  have hsplit := (IsNumeral.split h').symm.trans (IsNumeral.split h)
  obtain ⟨hwhole, hfraction⟩ := Prod.mk.inj hsplit
  exact ⟨String.ofList_injective hwhole, String.ofList_injective hfraction⟩

end Numeral

/-! ### Reading any text -/

/-- The text has a point, a number before it, and six bytes behind it that are a number too, or
that end inside a character. -/
def TakenForNumber (s : String) : Prop :=
  ∃ parts ∈ Text.splitOnce '.' (Text.trim s),
    (Text.parseUnsigned (2 ^ 64) parts.1).isSome = true
      ∧ ∀ cs ∈ Utf8.decode ((Utf8.encode parts.2.toList).take 6),
        (Text.parseUnsigned (2 ^ 64) (String.ofList cs)).isSome = true

theorem not_ok_none {α : Type} {r : Except Panic α} {f : α → Except Panic (Option ℕ)}
    (hf : ∀ a, f a ≠ .ok none) : (r >>= f) ≠ .ok none := by
  rcases r with ex | a
  · nofun
  · exact hf a

/-- A number begins with a digit or a plus sign. -/
theorem parseUnsigned_minus {bound : ℕ} {s : String} (h : s.toList.head? = some '-') :
    Text.parseUnsigned bound s = none := by
  rcases hparse : Text.parseUnsigned bound s with - | value
  · rfl
  · obtain ⟨digits, htext, hne, hdigits, -⟩ := Text.parseUnsigned_eq_some_iff.mp hparse
    rcases htext with htext | htext
    · rw [htext] at h
      exact absurd (hdigits '-' (List.mem_of_mem_head? h)) (by decide)
    · rw [htext] at h
      cases h

/-- **What is not read**: everything else is read, or panics. -/
theorem mhzStrToHz_eq_none_iff (s : String) : mhzStrToHz s = .ok none ↔ ¬ TakenForNumber s := by
  unfold mhzStrToHz TakenForNumber
  generalize Text.trim s = trimmed
  dsimp only
  by_cases hskip : (trimmed.isEmpty || Text.startsWith trimmed "-") = true
  · rw [if_pos hskip]
    refine iff_of_true rfl ?_
    rintro ⟨⟨integerPart, fractionalPart⟩, hparts, hwhole, -⟩
    rw [Option.mem_def, Text.splitOnce] at hparts
    split at hparts
    · rename_i hpoint
      cases hparts
      rcases (Bool.or_eq_true _ _).mp hskip with hempty | hminus
      · rw [String.isEmpty_iff] at hempty
        subst hempty
        exact absurd hpoint List.not_mem_nil
      · -- the part before the point begins with the sign
        obtain ⟨rest, hrest⟩ := List.isPrefixOf_iff_prefix.mp hminus
        have hdash : trimmed.toList = '-' :: rest := hrest.symm
        have hhead :
            (String.ofList (trimmed.toList.takeWhile fun c => decide (c ≠ '.'))).toList.head?
              = some '-' := by
          rw [String.toList_ofList, hdash]
          rfl
        rw [parseUnsigned_minus hhead] at hwhole
        cases hwhole
    · cases hparts
  rw [if_neg hskip]
  rcases hsplit : Text.splitOnce '.' trimmed with - | ⟨integerPart, fractionalPart⟩
  · refine iff_of_true ?_ (by simp)
    rw [Option.getD_none]
    dsimp only
    rcases Text.parseUnsigned (2 ^ 64) trimmed with - | wholeMhz
    · rfl
    · have hslice : sliceTo (min (Utf8.encode "".toList).length 6) "" = .ok "" := by decide +kernel
      dsimp only
      rw [hslice]
      rfl
  · simp only [Option.getD_some, Option.mem_def, Option.some.injEq, exists_eq_left']
    rcases Text.parseUnsigned (2 ^ 64) integerPart with - | wholeMhz
    · exact iff_of_true rfl (by simp)
    have htake : (Utf8.encode fractionalPart.toList).take
          (min (Utf8.encode fractionalPart.toList).length 6)
        = (Utf8.encode fractionalPart.toList).take 6 := by
      rw [List.take_eq_take_iff]
      omega
    dsimp only
    rw [sliceTo, htake]
    rcases Utf8.decode ((Utf8.encode fractionalPart.toList).take 6) with - | cs
    · refine iff_of_false (by rintro ⟨⟩) ?_
      simp
    · simp only [Option.isSome_some, Option.some.injEq, forall_eq', true_and, Bool.not_eq_true,
        Option.isSome_eq_false_iff, Option.isNone_iff_eq_none]
      rcases hfrac : Text.parseUnsigned (2 ^ 64) (String.ofList cs) with - | fracHz
      · refine iff_of_true ?_ rfl
        rw [ok_bind, hfrac]
        rfl
      · refine iff_of_false ?_ (by rintro ⟨⟩)
        rw [ok_bind, hfrac]
        have hsum (fracHz : ℕ) : (do
            let wholeHz ← checkedU64 (wholeMhz * 1000000)
            let hz ← checkedU64 (wholeHz + fracHz)
            return some hz : Except Panic (Option ℕ)) ≠ .ok none := by
          rw [sumHz]
          split
          · rintro ⟨⟩
          · rintro ⟨⟩
        refine not_ok_none fun scaled => ?_
        split
        · exact not_ok_none fun fracHz => hsum fracHz
        · rw [pure_bind]
          exact hsum scaled

/-! ### Total and exact -/

/-- The text is read without a panic: a numeral as its value in Hz, rounded half up, if that is a
`u64`, and any other text not at all. -/
def ReadExactly (s : String) : Prop :=
  ∃ r, readFrequency s = .ok r
    ∧ (∀ whole fraction, IsNumeral s whole fraction → roundedAt 6 whole fraction < 2 ^ 64 →
      r.map (·.1) = some (roundedAt 6 whole fraction))
    ∧ ((∀ whole fraction, IsNumeral s whole fraction → 2 ^ 64 ≤ roundedAt 6 whole fraction) →
      r = none)

/-- A numeral that can be read: with digits behind the point, unless it is too large, and not
within 500 Hz of the end of `u64`. -/
def Readable (whole fraction : List Char) : Prop :=
  if fraction = [] then 2 ^ 64 ≤ roundedAt 6 whole fraction
  else 2 ^ 64 ≤ decimalValue whole ∨ roundedAt 6 whole fraction + 500 < 2 ^ 64

theorem readFrequency_none {s : String} (h : mhzStrToHz s = .ok none) :
    readFrequency s = .ok none := by
  rw [readFrequency, h]
  rfl

theorem withKhz_eq (hz : ℕ) :
    withKhz hz
      = if hz + 500 < 2 ^ 64 then .ok (some (hz, (hz + 500) / 1000)) else .error .overflow := by
  unfold withKhz checkedU64
  generalize hz + 500 = rounded
  by_cases hrounds : rounded < 2 ^ 64
  · rw [if_pos hrounds, if_pos hrounds]
    rfl
  · rw [if_neg hrounds, if_neg hrounds]
    rfl

theorem readFrequency_some {s : String} {hz : ℕ} (h : mhzStrToHz s = .ok (some hz)) :
    readFrequency s
      = if hz + 500 < 2 ^ 64 then .ok (some (hz, (hz + 500) / 1000)) else .error .overflow := by
  have hstore : readFrequency s = withKhz hz := by
    unfold readFrequency
    rw [h]
    exact pure_bind (some hz) _
  exact hstore.trans (withKhz_eq hz)

theorem readFrequency_eq_none_iff (s : String) :
    readFrequency s = .ok none ↔ mhzStrToHz s = .ok none := by
  refine ⟨fun h => ?_, readFrequency_none⟩
  rcases hread : mhzStrToHz s with ex | (- | hz)
  · rw [readFrequency, hread] at h
    cases h
  · rfl
  · rw [readFrequency_some hread] at h
    by_cases hrounds : hz + 500 < 2 ^ 64
    · rw [if_pos hrounds] at h
      cases h
    · rw [if_neg hrounds] at h
      cases h

theorem readExactly_numeral {s : String} {whole fraction : List Char}
    (h : IsNumeral s whole fraction) : ReadExactly s ↔ Readable whole fraction := by
  have hread := mhzStrToHz_numeral h
  -- the numeral is the only one that the text is
  have hexact (r : Option (ℕ × ℕ)) :
      ((∀ w f, IsNumeral s w f → roundedAt 6 w f < 2 ^ 64 → r.map (·.1) = some (roundedAt 6 w f))
        ∧ ((∀ w f, IsNumeral s w f → 2 ^ 64 ≤ roundedAt 6 w f) → r = none))
      ↔ (roundedAt 6 whole fraction < 2 ^ 64 → r.map (·.1) = some (roundedAt 6 whole fraction))
        ∧ (2 ^ 64 ≤ roundedAt 6 whole fraction → r = none) := by
    constructor
    · rintro ⟨hsome, hnone⟩
      refine ⟨hsome whole fraction h, fun hlarge => hnone fun w f hwf => ?_⟩
      obtain ⟨rfl, rfl⟩ := IsNumeral.unique h hwf
      exact hlarge
    · rintro ⟨hsome, hnone⟩
      refine ⟨fun w f hwf => ?_, fun hall => hnone (hall whole fraction h)⟩
      obtain ⟨rfl, rfl⟩ := IsNumeral.unique h hwf
      exact hsome
  have hlarge := Text.le_roundedAt 6 whole fraction
  simp only [ReadExactly, hexact]
  rw [Readable]
  generalize roundedAt 6 whole fraction = value at hread hlarge ⊢
  by_cases hskip : fraction = [] ∨ 2 ^ 64 ≤ decimalValue whole
  · rw [if_pos hskip] at hread
    rw [readFrequency_none hread]
    simp only [Except.ok.injEq, exists_eq_left', Option.map_none, reduceCtorEq, imp_false,
      Nat.not_lt, implies_true, and_true]
    rcases hskip with hempty | hwhole
    · rw [if_pos hempty]
    · split
      · rfl
      · exact iff_of_true (by omega) (.inl hwhole)
  · rw [if_neg hskip] at hread
    obtain ⟨hdigits, hwhole⟩ := not_or.mp hskip
    rw [if_neg hdigits]
    by_cases hfits : value < 2 ^ 64
    · rw [if_pos hfits] at hread
      rw [readFrequency_some hread]
      by_cases hrounds : value + 500 < 2 ^ 64
      · rw [if_pos hrounds]
        refine iff_of_true ⟨_, rfl, fun _ => rfl, fun hle => ?_⟩ (.inr hrounds)
        omega
      · rw [if_neg hrounds]
        refine iff_of_false ?_ ?_
        · rintro ⟨r, hr, -⟩
          cases hr
        · rintro (hwhole' | hrounds')
          · exact hwhole hwhole'
          · exact hrounds hrounds'
    · rw [if_neg hfits] at hread
      refine iff_of_false ?_ ?_
      · rintro ⟨r, hr, -⟩
        rw [readFrequency, hread] at hr
        cases hr
      · rintro (hwhole' | hrounds)
        · exact hwhole hwhole'
        · omega

/-- **When a text is read as it should be**: a numeral, if it can be read; any other text, if it
is not taken for a number. -/
theorem readExactly_iff (s : String) :
    ReadExactly s ↔ (∀ whole fraction, IsNumeral s whole fraction → Readable whole fraction)
      ∧ ((∀ whole fraction, ¬ IsNumeral s whole fraction) → ¬ TakenForNumber s) := by
  by_cases hnumeral : ∃ whole fraction, IsNumeral s whole fraction
  · obtain ⟨whole, fraction, h⟩ := hnumeral
    rw [readExactly_numeral h]
    constructor
    · refine fun hreadable => ⟨fun w f hwf => ?_, fun hnone => absurd h (hnone whole fraction)⟩
      obtain ⟨rfl, rfl⟩ := IsNumeral.unique h hwf
      exact hreadable
    · exact fun hall => hall.1 whole fraction h
  · have hnone (whole fraction : List Char) : ¬ IsNumeral s whole fraction :=
      fun h => hnumeral ⟨whole, fraction, h⟩
    rw [← mhzStrToHz_eq_none_iff, ← readFrequency_eq_none_iff]
    constructor
    · rintro ⟨r, hr, -, hother⟩
      refine ⟨fun whole fraction h => absurd h (hnone whole fraction), fun _ => ?_⟩
      rw [hr, hother fun whole fraction h => absurd h (hnone whole fraction)]
    · rintro ⟨-, hother⟩
      exact ⟨none, hother hnone, fun whole fraction h => absurd h (hnone whole fraction),
        fun _ => rfl⟩

/-- A letter across the end of the sixth byte is a panic. -/
theorem not_readExactly_letter : ¬ ∀ s, ReadExactly s := by
  intro h
  obtain ⟨r, hr, -⟩ := h "14.07400µ"
  have hpanic : readFrequency "14.07400µ" = .error .notCharBoundary := by decide +kernel
  rw [hpanic] at hr
  cases hr

/-! ### Writing -/

theorem toDigits_digits (n : ℕ) : AllDigits (Nat.toDigits 10 n) :=
  fun _ hc => Nat.isDigit_of_mem_toDigits (by decide) (by decide) hc

theorem toString_toList (n : ℕ) : (toString n).toList = Nat.toDigits 10 n := by
  rw [Nat.toString_eq_ofList_toDigits, String.toList_ofList]

/-- Six digits, of a number that has no more. -/
theorem sixDigits_toList {n : ℕ} (h : n < 1000000) :
    AllDigits (sixDigits n).toList ∧ (sixDigits n).toList.length = 6
      ∧ decimalValue (sixDigits n).toList = n := by
  have htext : (sixDigits n).toList
      = List.replicate (6 - (Nat.toDigits 10 n).length) '0' ++ Nat.toDigits 10 n := by
    have hlength : (toString n).length = (Nat.toDigits 10 n).length := by
      rw [← toString_toList, String.length_toList]
    rw [sixDigits, hlength, String.toList_append, String.toList_ofList, toString_toList]
  have hshort : (Nat.toDigits 10 n).length ≤ 6 :=
    (Nat.length_toDigits_le_iff (by decide) (by decide)).mpr h
  rw [htext]
  refine ⟨fun c hc => ?_, ?_, Text.decimalValue_padded _ n⟩
  · rcases List.mem_append.mp hc with hc | hc
    · rw [List.eq_of_mem_replicate hc]
      decide
    · exact toDigits_digits n c hc
  · rw [List.length_append, List.length_replicate]
    omega

/-- What is trimmed from a text of digits are zeroes. -/
theorem drop_rdropWhile {cs : List Char} {n : ℕ}
    (h : (cs.rdropWhile (· == '0')).length ≤ n) :
    cs.drop n = List.replicate (cs.length - n) '0' := by
  have hsplit := List.rdropWhile_append_rtakeWhile (p := (· == '0')) (l := cs)
  refine List.eq_replicate_iff.mpr ⟨List.length_drop, fun c hc => ?_⟩
  rw [← hsplit, List.drop_append, List.mem_append] at hc
  rcases hc with hc | hc
  · rw [List.drop_eq_nil_of_le h] at hc
    cases hc
  · have hzero := List.mem_rtakeWhile_imp (List.mem_of_mem_drop hc)
    exact beq_iff_eq.mp hzero

/-- What a frequency is written as: the whole megahertz, and the six digits of the rest without
some of the zeroes they end with. -/
theorem formatHzAsMhz_toList (hz : ℕ) :
    ∃ fraction zeroes, (sixDigits (hz % 1000000)).toList = fraction ++ List.replicate zeroes '0'
      ∧ 3 ≤ fraction.length ∧ fraction.length ≤ 6
      ∧ (formatHzAsMhz hz).toList = Nat.toDigits 10 (hz / 1000000) ++ '.' :: fraction := by
  obtain ⟨-, hsix, -⟩ := sixDigits_toList (Nat.mod_lt hz (by decide : 0 < 1000000))
  have hfull : (toString (hz / 1000000) ++ "." ++ sixDigits (hz % 1000000)).toList
      = Nat.toDigits 10 (hz / 1000000) ++ '.' :: (sixDigits (hz % 1000000)).toList := by
    rw [String.toList_append, String.toList_append, toString_toList, List.append_assoc]
    rfl
  have hlength : (toString (hz / 1000000)).length = (Nat.toDigits 10 (hz / 1000000)).length := by
    rw [← toString_toList, String.length_toList]
  rw [formatHzAsMhz, String.toList_ofList, hfull, hlength]
  generalize (sixDigits (hz % 1000000)).toList = digits at hsix
  generalize Nat.toDigits 10 (hz / 1000000) = whole
  have htrimmed : ((whole ++ '.' :: digits).rdropWhile (· == '0')).length
      ≤ (whole ++ '.' :: digits).length := (List.rdropWhile_prefix _ _).length_le
  rw [List.length_append, List.length_cons, hsix] at htrimmed
  generalize hend : max ((whole ++ '.' :: digits).rdropWhile (· == '0')).length
    (whole.length + 1 + 3) = last
  -- at least three digits stay, and all that goes are zeroes
  have hlow : whole.length + 4 ≤ last := by omega
  have hhigh : last ≤ whole.length + 7 := by omega
  have hzeroes : (whole ++ '.' :: digits).drop last
      = List.replicate ((whole ++ '.' :: digits).length - last) '0' :=
    drop_rdropWhile (by omega)
  obtain ⟨m, rfl⟩ : ∃ m, last = whole.length + (m + 1) := ⟨last - whole.length - 1, by omega⟩
  rw [List.drop_length_add_append, List.drop_succ_cons] at hzeroes
  have hsplit := (List.take_append_drop m digits).symm
  rw [hzeroes] at hsplit
  refine ⟨digits.take m, _, hsplit, ?_, ?_, ?_⟩
  · rw [List.length_take]
    omega
  · rw [List.length_take]
    omega
  · rw [List.take_length_add_append, List.take_succ_cons]

/-- A written frequency is a numeral with three to six digits behind the point. -/
theorem formatHzAsMhz_numeral (hz : ℕ) :
    ∃ whole fraction, IsNumeral (formatHzAsMhz hz) whole fraction
      ∧ (formatHzAsMhz hz).toList = whole ++ '.' :: fraction
      ∧ 3 ≤ fraction.length ∧ fraction.length ≤ 6
      ∧ decimalValue whole ≤ hz ∧ roundedAt 6 whole fraction = hz := by
  obtain ⟨fraction, zeroes, hsix, hlow, hhigh, htext⟩ := formatHzAsMhz_toList hz
  obtain ⟨hdigits, hlength, hvalue⟩ :=
    sixDigits_toList (Nat.mod_lt hz (by decide : 0 < 1000000))
  rw [hsix] at hdigits hlength hvalue
  have hfraction : AllDigits fraction := fun c hc => hdigits c (List.mem_append_left _ hc)
  have hwhole : decimalValue (Nat.toDigits 10 (hz / 1000000)) = hz / 1000000 :=
    Text.decimalValue_padded 0 _
  rw [List.length_append, List.length_replicate] at hlength
  rw [Text.decimalValue_append, List.length_replicate, Text.decimalValue_replicate_zero,
    Nat.add_zero] at hvalue
  refine ⟨_, fraction, ⟨Nat.toDigits_ne_nil, toDigits_digits _, hfraction, .inl htext⟩, htext, hlow,
    hhigh, ?_, ?_⟩
  · rw [hwhole]
    exact Nat.div_le_self _ _
  · have hzeroes : 6 - fraction.length = zeroes := by omega
    rw [Text.roundedAt_of_le hhigh, hwhole, hzeroes, hvalue]
    exact Nat.div_add_mod' hz 1000000

/-- **Written and read**: every frequency comes back, from a text with three to six digits behind
the point. -/
theorem mhzStrToHz_formatHzAsMhz {hz : ℕ} (h : hz < 2 ^ 64) :
    mhzStrToHz (formatHzAsMhz hz) = .ok (some hz)
      ∧ ∃ whole fraction, (formatHzAsMhz hz).toList = whole ++ '.' :: fraction
        ∧ AllDigits whole ∧ AllDigits fraction ∧ 3 ≤ fraction.length ∧ fraction.length ≤ 6 := by
  obtain ⟨whole, fraction, hnumeral, htext, hlow, hhigh, hwhole, hvalue⟩ :=
    formatHzAsMhz_numeral hz
  constructor
  · have hread := mhzStrToHz_numeral hnumeral
    have hkept : ¬ (fraction = [] ∨ 2 ^ 64 ≤ decimalValue whole) := by
      rintro (rfl | hlarge)
      · exact absurd hlow (by decide)
      · omega
    rw [hvalue, if_neg hkept, if_pos h] at hread
    exact hread
  · exact ⟨whole, fraction, htext, hnumeral.whole_digits, hnumeral.fraction_digits, hlow, hhigh⟩

theorem mhzStrToHz_formatHzAsMhz_ft8 :
    mhzStrToHz (formatHzAsMhz 14074000) = .ok (some 14074000)
      ∧ ∃ whole fraction, (formatHzAsMhz 14074000).toList = whole ++ '.' :: fraction
        ∧ AllDigits whole ∧ AllDigits fraction ∧ 3 ≤ fraction.length ∧ fraction.length ≤ 6 :=
  mhzStrToHz_formatHzAsMhz (by decide)

end QsoRipper.Adif
