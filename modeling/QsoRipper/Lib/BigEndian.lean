/-
QsoRipper/Lib/BigEndian.lean

Numbers as bytes, the most significant first.  Bytes of a given number stand for one
number, and every list of bytes is what its number is written as.
-/
import Mathlib

namespace BigEndian

/-- The number that bytes stand for. -/
def decode (bytes : List UInt8) : ℕ := bytes.foldl (fun n byte => n * 256 + byte.toNat) 0

/-- The last `width` bytes of a number. -/
def encode : ℕ → ℕ → List UInt8
  | 0, _ => []
  | width + 1, n => encode width (n / 256) ++ [UInt8.ofNat n]

@[simp] theorem decode_nil : decode [] = 0 := rfl

@[simp] theorem decode_concat (bytes : List UInt8) (byte : UInt8) :
    decode (bytes ++ [byte]) = decode bytes * 256 + byte.toNat := by
  simp [decode]

@[simp] theorem length_encode (width n : ℕ) : (encode width n).length = width := by
  induction width generalizing n with
  | zero => rfl
  | succ width ih => simp [encode, ih]

theorem decode_encode {width n : ℕ} (h : n < 256 ^ width) : decode (encode width n) = n := by
  induction width generalizing n with
  | zero =>
      rw [pow_zero] at h
      simp [encode]
      omega
  | succ width ih =>
      have hquot : n / 256 < 256 ^ width := by
        rw [Nat.div_lt_iff_lt_mul (by norm_num), ← pow_succ]
        exact h
      rw [encode, decode_concat, ih hquot, UInt8.toNat_ofNat']
      omega

theorem decode_lt (bytes : List UInt8) : decode bytes < 256 ^ bytes.length := by
  induction bytes using List.reverseRecOn with
  | nil => simp
  | append_singleton bytes byte ih =>
      have hbyte := byte.toNat_lt
      rw [decode_concat, List.length_append, List.length_singleton, pow_succ]
      omega

theorem encode_decode (bytes : List UInt8) : encode bytes.length (decode bytes) = bytes := by
  induction bytes using List.reverseRecOn with
  | nil => rfl
  | append_singleton bytes byte ih =>
      have hbyte := byte.toNat_lt
      have hquot : (decode bytes * 256 + byte.toNat) / 256 = decode bytes := by omega
      have hlast : UInt8.ofNat (decode bytes * 256 + byte.toNat) = byte := by
        apply UInt8.toNat_inj.mp
        rw [UInt8.toNat_ofNat']
        omega
      rw [decode_concat, List.length_append, List.length_singleton, encode, hquot, ih, hlast]

/-- **Bytes stand for a number exactly if it is written so.** -/
theorem decode_eq_iff {width n : ℕ} (hn : n < 256 ^ width) {bytes : List UInt8}
    (hbytes : bytes.length = width) : decode bytes = n ↔ bytes = encode width n := by
  constructor
  · rintro rfl
    rw [← hbytes, encode_decode]
  · rintro rfl
    exact decode_encode hn

end BigEndian
