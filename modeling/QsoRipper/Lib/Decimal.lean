/-
QsoRipper/Lib/Decimal.lean

Decimal numerals with a fraction: their value, and what it is when it is rounded
half up to a number of places.  A fraction that is too short is filled with
zeroes, one that is too long is cut, and the first digit that is cut decides.
-/
import QsoRipper.Lib.Number

namespace Text

/-! ### Numerals -/

/-- A text of digits. -/
def AllDigits (cs : List Char) : Prop := ∀ c ∈ cs, c.isDigit = true

instance (cs : List Char) : Decidable (AllDigits cs) :=
  inferInstanceAs (Decidable (∀ c ∈ cs, c.isDigit = true))

/-- The text is these digits, or these digits, a point and the digits of a
fraction, which may be empty. -/
structure IsNumeral (s : String) (whole fraction : List Char) : Prop where
  nonempty : whole ≠ []
  whole_digits : AllDigits whole
  fraction_digits : AllDigits fraction
  text : s.toList = whole ++ '.' :: fraction ∨ fraction = [] ∧ s.toList = whole

/-- The value of a numeral. -/
def numeralValue (whole fraction : List Char) : ℚ :=
  decimalValue (whole ++ fraction) / 10 ^ fraction.length

/-- The value in units of `10 ^ (-places)`, rounded half up. -/
def roundedAt (places : ℕ) (whole fraction : List Char) : ℕ :=
  ⌊numeralValue whole fraction * 10 ^ places + 1 / 2⌋₊

/-! ### Values of digits -/

theorem decimalValue_append (cs ds : List Char) :
    decimalValue (cs ++ ds) = decimalValue cs * 10 ^ ds.length + decimalValue ds := by
  induction ds using List.reverseRecOn with
  | nil => simp [decimalValue]
  | append_singleton ds d ih =>
      have hstep (es : List Char) :
          decimalValue (es ++ [d]) = decimalValue es * 10 + (d.toNat - '0'.toNat) := by
        simp [decimalValue, List.foldl_append]
      rw [← List.append_assoc, hstep, ih, hstep, List.length_append, List.length_singleton,
        pow_succ]
      ring

theorem digit_lt {c : Char} (h : c.isDigit = true) : c.toNat - '0'.toNat < 10 := by
  have hdigit : 48 ≤ c.toNat ∧ c.toNat ≤ 57 := Char.isDigit_iff_toNat.mp h
  have hzero : '0'.toNat = 48 := rfl
  omega

theorem AllDigits.value_lt {cs : List Char} (h : AllDigits cs) :
    decimalValue cs < 10 ^ cs.length := by
  induction cs using List.reverseRecOn with
  | nil => simp [decimalValue]
  | append_singleton cs c ih =>
      have hcs : AllDigits cs := fun d hd => h d (List.mem_append_left _ hd)
      have hc := digit_lt (h c (List.mem_append_right _ List.mem_cons_self))
      have hlt := ih hcs
      have hone : decimalValue [c] = c.toNat - '0'.toNat := by simp [decimalValue]
      rw [decimalValue_append, hone, List.length_append, List.length_singleton, pow_one, pow_succ]
      omega

theorem decimalValue_replicate_zero (n : ℕ) : decimalValue (List.replicate n '0') = 0 := by
  rw [decimalValue_eq, Nat.ofDigitChars_replicate_zero, Nat.mul_zero]

/-! ### Rounding -/

/-- Rounding, in natural numbers. -/
theorem roundedAt_eq (places : ℕ) (whole fraction : List Char) :
    roundedAt places whole fraction
      = (2 * (decimalValue (whole ++ fraction) * 10 ^ places) + 10 ^ fraction.length)
        / (2 * 10 ^ fraction.length) := by
  rw [roundedAt, numeralValue]
  have hpos : (10 : ℚ) ^ fraction.length ≠ 0 := by positivity
  have hratio : (decimalValue (whole ++ fraction) : ℚ) / 10 ^ fraction.length * 10 ^ places + 1 / 2
      = ((2 * (decimalValue (whole ++ fraction) * 10 ^ places) + 10 ^ fraction.length : ℕ) : ℚ)
        / ((2 * 10 ^ fraction.length : ℕ) : ℚ) := by
    push_cast
    field_simp
  rw [hratio]
  exact Nat.floor_div_eq_div _ _

/-- Rounding takes nothing from the digits before the point. -/
theorem le_roundedAt (places : ℕ) (whole fraction : List Char) :
    decimalValue whole * 10 ^ places ≤ roundedAt places whole fraction := by
  have hpos : 0 < 2 * 10 ^ fraction.length := by positivity
  rw [roundedAt_eq, Nat.le_div_iff_mul_le hpos, decimalValue_append]
  calc decimalValue whole * 10 ^ places * (2 * 10 ^ fraction.length)
      = 2 * (decimalValue whole * 10 ^ fraction.length * 10 ^ places) := by ring
    _ ≤ 2 * ((decimalValue whole * 10 ^ fraction.length + decimalValue fraction)
          * 10 ^ places) := by
        gcongr
        exact Nat.le_add_right _ _
    _ ≤ _ := Nat.le_add_right _ _

/-- A fraction that is not too long is filled. -/
theorem roundedAt_of_le {places : ℕ} {whole fraction : List Char}
    (h : fraction.length ≤ places) :
    roundedAt places whole fraction
      = decimalValue whole * 10 ^ places
        + decimalValue fraction * 10 ^ (places - fraction.length) := by
  have hsplit : 10 ^ places = 10 ^ (places - fraction.length) * 10 ^ fraction.length := by
    rw [← pow_add, Nat.sub_add_cancel h]
  rw [roundedAt_eq, decimalValue_append]
  have hnumerator : 2 * ((decimalValue whole * 10 ^ fraction.length + decimalValue fraction)
        * 10 ^ places) + 10 ^ fraction.length
      = (2 * (decimalValue whole * 10 ^ places
          + decimalValue fraction * 10 ^ (places - fraction.length)) + 1)
        * 10 ^ fraction.length := by
    rw [hsplit]
    ring
  have hpos : 0 < 10 ^ fraction.length := by positivity
  rw [hnumerator, Nat.mul_div_mul_right _ _ hpos]
  omega

/-- A fraction that is too long is cut, and the first digit behind decides. -/
theorem roundedAt_of_cut {places : ℕ} {whole kept rest : List Char} {d : Char}
    (hkept : kept.length = places) (hd : d.isDigit = true) (hrest : AllDigits rest) :
    roundedAt places whole (kept ++ d :: rest)
      = decimalValue whole * 10 ^ places + decimalValue kept
        + if 5 ≤ d.toNat - '0'.toNat then 1 else 0 := by
  have hdigit := digit_lt hd
  have htail := hrest.value_lt
  have hone : decimalValue (d :: rest)
      = (d.toNat - '0'.toNat) * 10 ^ rest.length + decimalValue rest := by
    have hcons := decimalValue_append [d] rest
    rw [List.singleton_append] at hcons
    rw [hcons]
    simp [decimalValue]
  generalize d.toNat - '0'.toNat = n at hdigit hone ⊢
  generalize htailValue : decimalValue rest = r at htail hone
  -- the value, in units of the last place that is cut
  have hvalue : decimalValue (whole ++ (kept ++ d :: rest))
      = (decimalValue whole * 10 ^ places + decimalValue kept) * 10 ^ (rest.length + 1)
        + (n * 10 ^ rest.length + r) := by
    rw [← List.append_assoc, decimalValue_append, hone, List.length_cons, decimalValue_append,
      hkept]
  have hlength : (kept ++ d :: rest).length = places + (rest.length + 1) := by
    rw [List.length_append, List.length_cons, hkept]
  rw [roundedAt_eq, hvalue, hlength]
  generalize decimalValue whole * 10 ^ places + decimalValue kept = m
  have hnumerator : 2 * ((m * 10 ^ (rest.length + 1) + (n * 10 ^ rest.length + r)) * 10 ^ places)
        + 10 ^ (places + (rest.length + 1))
      = 10 ^ places * (2 * 10 ^ (rest.length + 1) * m
        + (2 * (n * 10 ^ rest.length + r) + 10 * 10 ^ rest.length)) := by
    rw [pow_add, pow_succ]
    ring
  have hdenominator : 2 * 10 ^ (places + (rest.length + 1))
      = 10 ^ places * (2 * 10 ^ (rest.length + 1)) := by
    rw [pow_add]
    ring
  have hpos : 0 < 10 ^ places := by positivity
  have hunit : 0 < 2 * 10 ^ (rest.length + 1) := by positivity
  rw [hnumerator, hdenominator, Nat.mul_div_mul_left _ _ hpos, Nat.mul_add_div hunit]
  congr 1
  rw [pow_succ]
  generalize 10 ^ rest.length = p at htail
  split
  · rename_i hup
    refine Nat.div_eq_of_lt_le ?_ ?_
    · nlinarith
    · nlinarith
  · rename_i hdown
    refine Nat.div_eq_of_lt ?_
    have hle : n ≤ 4 := by omega
    nlinarith

end Text
