/-
QsoRipper/Lib/FloatText.lean

Doubles in text, and doubles within a bound.  How a double is read from text and
written to it is the language's; what relies on it takes both as a parameter.
-/
import QsoRipper.Lib.Float64

namespace Float64

/-- The value without its sign. -/
def magnitude (x : Float64) : ℕ := (x.bits.extractLsb' 0 63).toNat

/-- `!(value < -bound || value > bound)`, on finite doubles: those of one sign are
ordered as their bits are. -/
def within (bound x : Float64) : Bool := decide (x.magnitude ≤ bound.magnitude)

/-- `90.0`. -/
def ninety : Float64 := ⟨0x4056800000000000⟩

/-- `180.0`. -/
def oneHundredEighty : Float64 := ⟨0x4066800000000000⟩

/-- The bits of a positive integer, rounded to nearest with ties to even. -/
def bitsOfNat (n : ℕ) : ℕ :=
  let e := Nat.log2 n
  -- the leading one is not stored; a carry out of the fraction raises the exponent
  let fraction :=
    if e ≤ 52 then n * 2 ^ (52 - e)
    else
      let unit := 2 ^ (e - 52)
      let rest := n % unit
      let down := n / unit
      if rest * 2 > unit ∨ rest * 2 = unit ∧ down % 2 = 1 then down + 1 else down
  (1023 + e) * 2 ^ 52 + (fraction - 2 ^ 52)

/-- `as f64`, of an integer. -/
def ofInt (n : ℤ) : Float64 :=
  if n = 0 then ⟨0⟩
  else if 0 < n then ⟨BitVec.ofNat 64 (bitsOfNat n.natAbs)⟩
  else ⟨BitVec.ofNat 64 (2 ^ 63 + bitsOfNat n.natAbs)⟩

example : ofInt 90 = ninety := by decide

example : ofInt (-180) = ⟨0xC066800000000000⟩ := by decide

end Float64

/-- `str::parse::<f64>` and `f64::to_string`. -/
structure FloatText where
  parse : String → Option Float64
  display : Float64 → String

/-- What is written reads back. -/
def FloatText.RoundTrips (text : FloatText) : Prop :=
  ∀ x : Float64, x.isFinite = true → text.parse (text.display x) = some x
