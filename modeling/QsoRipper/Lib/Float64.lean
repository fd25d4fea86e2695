/-
QsoRipper/Lib/Float64.lean

IEEE 754 double precision values, as far as records use them: they are
copied, tested for finiteness and compared.  A value is its bit pattern, and
`==` is the floating point comparison (NaN differs from everything, the two
zeros are equal), so a structure that derives `BEq` compares the way Rust's
derived `PartialEq` does.
-/
import Mathlib

/-- A double, by its bits. -/
structure Float64 where
  bits : BitVec 64
  deriving DecidableEq, Inhabited

namespace Float64

/-- The biased exponent. -/
def exponent (x : Float64) : BitVec 11 := x.bits.extractLsb' 52 11

/-- The fraction bits. -/
def mantissa (x : Float64) : BitVec 52 := x.bits.extractLsb' 0 52

/-- `f64::is_finite`. -/
def isFinite (x : Float64) : Bool := x.exponent != BitVec.allOnes 11

/-- `f64::is_nan`. -/
def isNan (x : Float64) : Bool := x.exponent == BitVec.allOnes 11 && x.mantissa != 0

/-- Positive or negative zero. -/
def isZero (x : Float64) : Bool := x.bits.extractLsb' 0 63 == 0

instance : BEq Float64 where
  beq a b := !a.isNan && !b.isNan && (a.bits == b.bits || (a.isZero && b.isZero))

theorem beq_def (a b : Float64) :
    (a == b) = (!a.isNan && !b.isNan && (a.bits == b.bits || (a.isZero && b.isZero))) := rfl

/-- A value equals itself unless it is NaN. -/
theorem beq_self (a : Float64) : (a == a) = !a.isNan := by
  simp [beq_def]

instance : PartialEquivBEq Float64 where
  symm {a b} h := by
    simp only [beq_def, Bool.and_eq_true, Bool.or_eq_true, beq_iff_eq] at h ⊢
    tauto
  trans {a b c} h₁ h₂ := by
    simp only [beq_def, Bool.and_eq_true, Bool.or_eq_true, beq_iff_eq] at h₁ h₂ ⊢
    obtain ⟨⟨ha, -⟩, hab⟩ := h₁
    obtain ⟨⟨-, hc⟩, hbc⟩ := h₂
    refine ⟨⟨ha, hc⟩, ?_⟩
    simp only [isZero] at hab hbc ⊢
    rcases hab with hab | hab <;> rcases hbc with hbc | hbc
    · exact .inl (hab.trans hbc)
    · exact .inr (by rw [hab]; exact hbc)
    · exact .inr (by rw [← hbc]; exact hab)
    · exact .inr ⟨hab.1, hbc.2⟩

/-! ### Containers of doubles -/

variable {α : Type} [BEq α] [PartialEquivBEq α]

instance : PartialEquivBEq (Option α) where
  symm {a b} h := by
    cases a <;> cases b <;> simp_all
    exact PartialEquivBEq.symm h
  trans {a b c} h₁ h₂ := by
    cases a <;> cases b <;> cases c <;> simp_all
    exact PartialEquivBEq.trans h₁ h₂

instance : PartialEquivBEq (List α) where
  symm {a b} h := by
    induction a generalizing b with
    | nil => cases b <;> simp_all
    | cons x a ih =>
        cases b with
        | nil => simp at h
        | cons y b =>
            rw [List.cons_beq_cons, Bool.and_eq_true] at h ⊢
            exact ⟨PartialEquivBEq.symm h.1, ih h.2⟩
  trans {a b c} h₁ h₂ := by
    induction a generalizing b c with
    | nil => cases b <;> cases c <;> simp_all
    | cons x a ih =>
        cases b with
        | nil => simp at h₁
        | cons y b =>
            cases c with
            | nil => simp at h₂
            | cons z c =>
                rw [List.cons_beq_cons, Bool.and_eq_true] at h₁ h₂ ⊢
                exact ⟨PartialEquivBEq.trans h₁.1 h₂.1, ih h₁.2 h₂.2⟩

end Float64
