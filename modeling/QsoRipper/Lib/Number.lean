/-
QsoRipper/Lib/Number.lean

Integers read from text the way Rust's `FromStr` does.
-/
import Mathlib

namespace Text

/-- The value of decimal digits. -/
def decimalValue (digits : List Char) : ℕ :=
  digits.foldl (fun value c => value * 10 + (c.toNat - '0'.toNat)) 0

/-- `str::parse` for an unsigned type with `bound` values: an optional plus sign
and then digits only. -/
def parseUnsigned (bound : ℕ) (s : String) : Option ℕ :=
  let digits :=
    match s.toList with
    | '+' :: cs => cs
    | cs => cs
  if digits.isEmpty || !digits.all Char.isDigit then none
  else if decimalValue digits < bound then some (decimalValue digits) else none

theorem parseUnsigned_lt {bound value : ℕ} {s : String} (h : parseUnsigned bound s = some value) :
    value < bound := by
  unfold parseUnsigned at h
  dsimp only at h
  split_ifs at h with _ hlt
  cases h
  exact hlt

/-- Digits, possibly behind a plus sign, are what is read. -/
theorem parseUnsigned_eq_some_iff {bound value : ℕ} {s : String} :
    parseUnsigned bound s = some value ↔ ∃ digits, (s.toList = digits ∨ s.toList = '+' :: digits)
      ∧ digits ≠ [] ∧ (∀ c ∈ digits, c.isDigit = true) ∧ decimalValue digits = value
      ∧ value < bound := by
  have hread (digits : List Char) :
      (if (digits.isEmpty || !digits.all Char.isDigit) = true then none
        else if decimalValue digits < bound then some (decimalValue digits) else none) = some value
      ↔ digits ≠ [] ∧ (∀ c ∈ digits, c.isDigit = true) ∧ decimalValue digits = value
        ∧ value < bound := by
    by_cases hdigits : (digits.isEmpty || !digits.all Char.isDigit) = true
    · rw [if_pos hdigits]
      constructor
      · nofun
      · rintro ⟨hne, hall, -⟩
        simp [hne, List.all_eq_true.mpr hall] at hdigits
    · rw [if_neg hdigits]
      simp only [Bool.or_eq_true, List.isEmpty_iff, Bool.not_eq_true', List.all_eq_false,
        not_or, not_exists, not_and, not_not] at hdigits
      constructor
      · intro h
        split_ifs at h with hlt
        cases h
        exact ⟨hdigits.1, hdigits.2, rfl, hlt⟩
      · rintro ⟨-, -, rfl, hlt⟩
        rw [if_pos hlt]
  unfold parseUnsigned
  dsimp only
  rw [hread]
  constructor
  · intro h
    split at h
    · rename_i digits htext
      exact ⟨digits, .inr htext, h⟩
    · exact ⟨_, .inl rfl, h⟩
  · rintro ⟨digits, htext, h⟩
    split
    · rename_i cs hplus
      rcases htext with htext | htext
      · -- a plus sign is no digit
        rw [← htext, hplus] at h
        exact absurd (h.2.1 '+' List.mem_cons_self) (by decide)
      · rw [hplus] at htext
        cases htext
        exact h
    · rename_i hplain
      rcases htext with htext | htext
      · rw [htext]
        exact h
      · exact absurd htext (hplain digits)

/-! ### Reading what is written -/

theorem decimalValue_eq (digits : List Char) :
    decimalValue digits = Nat.ofDigitChars 10 digits 0 := by
  rw [Nat.ofDigitChars_eq_foldl, decimalValue]
  congr 1
  funext value c
  rw [Nat.mul_comm]

theorem parseUnsigned_digits {bound : ℕ} {digits : List Char} (hne : digits ≠ [])
    (hdigits : ∀ c ∈ digits, c.isDigit = true) (hlt : decimalValue digits < bound) :
    parseUnsigned bound (String.ofList digits) = some (decimalValue digits) := by
  have hall : (digits.isEmpty || !digits.all Char.isDigit) = false := by
    simp [hne, List.all_eq_true.mpr hdigits]
  unfold parseUnsigned
  simp only [String.toList_ofList]
  split
  case h_1 cs => exact absurd (hdigits '+' List.mem_cons_self) (by decide)
  case h_2 =>
    rw [hall]
    simp [hlt]

/-- Zeroes in front do not change a number. -/
theorem decimalValue_padded (zeroes n : ℕ) :
    decimalValue (List.replicate zeroes '0' ++ Nat.toDigits 10 n) = n := by
  rw [decimalValue_eq, Nat.ofDigitChars_append, Nat.ofDigitChars_replicate_zero, Nat.mul_zero,
    Nat.ofDigitChars_ten_toDigits]

theorem parseUnsigned_padded {bound n : ℕ} (zeroes : ℕ) (hlt : n < bound) :
    parseUnsigned bound (String.ofList (List.replicate zeroes '0' ++ Nat.toDigits 10 n))
      = some n := by
  have hdigits : ∀ c ∈ List.replicate zeroes '0' ++ Nat.toDigits 10 n, c.isDigit = true := by
    intro c hc
    rcases List.mem_append.mp hc with hc | hc
    · rw [List.eq_of_mem_replicate hc]
      decide
    · exact Nat.isDigit_of_mem_toDigits (by decide) (by decide) hc
  have hne : List.replicate zeroes '0' ++ Nat.toDigits 10 n ≠ [] :=
    List.append_ne_nil_of_right_ne_nil _ Nat.toDigits_ne_nil
  have hparse := @parseUnsigned_digits bound _ hne hdigits
  rw [decimalValue_padded] at hparse
  exact hparse hlt

theorem parseUnsigned_toString {bound n : ℕ} (hlt : n < bound) :
    parseUnsigned bound (toString n) = some n := by
  rw [Nat.toString_eq_ofList_toDigits]
  exact parseUnsigned_padded 0 hlt

end Text
