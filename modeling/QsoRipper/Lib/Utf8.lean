/-
QsoRipper/Lib/Utf8.lean

UTF-8 on lists of bytes: what a list of characters is encoded as, which lists of
bytes are well formed, and how one steps over characters without looking at what
comes behind them.

The encoding is a prefix code, and an ASCII byte occurs in it only as the
encoding of its character.
-/
import Mathlib

namespace Utf8

/-- The encoding of a list of characters. -/
def encode (cs : List Char) : List UInt8 := cs.flatMap String.utf8EncodeChar

@[simp] theorem encode_nil : encode [] = [] := rfl

@[simp] theorem encode_cons (c : Char) (cs : List Char) :
    encode (c :: cs) = String.utf8EncodeChar c ++ encode cs := rfl

@[simp] theorem encode_append (cs ds : List Char) : encode (cs ++ ds) = encode cs ++ encode ds :=
  List.flatMap_append

theorem length_le_encode (cs : List Char) : cs.length ≤ (encode cs).length := by
  induction cs with
  | nil => exact Nat.le_refl _
  | cons c cs ih =>
      have hpos := c.utf8Size_pos
      rw [encode_cons, List.length_append, List.length_cons, String.length_utf8EncodeChar]
      omega

/-- These bytes encode characters. -/
def Valid (bytes : List UInt8) : Prop := ∃ cs, bytes = encode cs

/-- The character that the bytes begin with. -/
def first? (bytes : List UInt8) : Option Char := bytes.toByteArray.utf8DecodeChar? 0

@[simp] theorem first?_encode (c : Char) (rest : List UInt8) :
    first? (String.utf8EncodeChar c ++ rest) = some c := by
  rw [first?, List.toByteArray_append]
  exact ByteArray.utf8DecodeChar?_utf8EncodeChar_append

theorem eq_append_of_first? {bytes : List UInt8} {c : Char} (h : first? bytes = some c) :
    bytes = String.utf8EncodeChar c ++ bytes.drop c.utf8Size := by
  have hbytes := congrArg (fun b : ByteArray => b.data.toList)
    (ByteArray.eq_of_utf8DecodeChar?_eq_some h)
  have hsplit : bytes = String.utf8EncodeChar c
      ++ (bytes.toByteArray.extract c.utf8Size bytes.toByteArray.size).data.toList := by
    simpa using hbytes
  have hdrop : bytes.drop c.utf8Size
      = (bytes.toByteArray.extract c.utf8Size bytes.toByteArray.size).data.toList := by
    conv_lhs => rw [hsplit]
    exact List.drop_left' (String.length_utf8EncodeChar c)
  rw [hdrop]
  exact hsplit

/-! ### Decoding -/

/-- The characters of at most `fuel` steps. -/
def decodeFuel : ℕ → List UInt8 → Option (List Char)
  | _, [] => some []
  | 0, _ :: _ => none
  | fuel + 1, bytes =>
      match first? bytes with
      | none => none
      | some c => (decodeFuel fuel (bytes.drop c.utf8Size)).map (c :: ·)

/-- The characters that the bytes encode, if they are well formed. -/
def decode (bytes : List UInt8) : Option (List Char) := decodeFuel bytes.length bytes

theorem encode_of_decodeFuel {fuel : ℕ} {bytes : List UInt8} {cs : List Char}
    (h : decodeFuel fuel bytes = some cs) : bytes = encode cs := by
  induction fuel generalizing bytes cs with
  | zero =>
      rcases bytes with - | ⟨b, bytes⟩
      · cases h
        rfl
      · cases h
  | succ fuel ih =>
      rcases bytes with - | ⟨b, bytes⟩
      · cases h
        rfl
      rw [decodeFuel] at h
      rcases hfirst : first? (b :: bytes) with - | c
      · rw [hfirst] at h
        cases h
      · rw [hfirst] at h
        obtain ⟨ds, hds, rfl⟩ := Option.map_eq_some_iff.mp h
        rw [encode_cons, ← ih hds]
        exact eq_append_of_first? hfirst
      · simp

theorem decodeFuel_encode {fuel : ℕ} (cs : List Char) (hfuel : (encode cs).length ≤ fuel) :
    decodeFuel fuel (encode cs) = some cs := by
  induction cs generalizing fuel with
  | nil => rcases fuel with - | fuel <;> rfl
  | cons c cs ih =>
      have hpos := c.utf8Size_pos
      rw [encode_cons, List.length_append, String.length_utf8EncodeChar] at hfuel
      obtain ⟨fuel, rfl⟩ : ∃ n, fuel = n + 1 := ⟨fuel - 1, by omega⟩
      have hne : encode (c :: cs) ≠ [] := by
        intro hnil
        have hlen := congrArg List.length hnil
        rw [encode_cons, List.length_append, String.length_utf8EncodeChar] at hlen
        simp at hlen
        omega
      rw [decodeFuel]
      · rw [encode_cons, first?_encode]
        have hdrop : (String.utf8EncodeChar c ++ encode cs).drop c.utf8Size = encode cs :=
          List.drop_left' (String.length_utf8EncodeChar c)
        have hrest : decodeFuel fuel (encode cs) = some cs := ih (by omega)
        simp only [hdrop, hrest, Option.map_some]
      · exact hne

theorem decode_eq_some_iff {bytes : List UInt8} {cs : List Char} :
    decode bytes = some cs ↔ bytes = encode cs := by
  constructor
  · exact encode_of_decodeFuel
  · rintro rfl
    exact decodeFuel_encode cs le_rfl

theorem valid_iff {bytes : List UInt8} : Valid bytes ↔ (decode bytes).isSome = true := by
  simp [Valid, Option.isSome_iff_exists, decode_eq_some_iff]

instance (bytes : List UInt8) : Decidable (Valid bytes) :=
  decidable_of_iff _ valid_iff.symm

/-! ### Stepping over characters -/

/-- How many bytes the first `n` characters take. -/
def skip : ℕ → List UInt8 → Option ℕ
  | 0, _ => some 0
  | n + 1, bytes =>
      match first? bytes with
      | none => none
      | some c => (skip n (bytes.drop c.utf8Size)).map (c.utf8Size + ·)

theorem skip_encode (n : ℕ) (cs : List Char) :
    skip n (encode cs)
      = if n ≤ cs.length then some (encode (cs.take n)).length else none := by
  induction n generalizing cs with
  | zero => simp [skip]
  | succ n ih =>
      rcases cs with - | ⟨c, cs⟩
      · have hnone : first? [] = none := by decide +kernel
        simp [skip, hnone]
      · have hdrop : (String.utf8EncodeChar c ++ encode cs).drop c.utf8Size = encode cs :=
          List.drop_left' (String.length_utf8EncodeChar c)
        rw [skip, encode_cons, first?_encode]
        simp only [hdrop, ih]
        by_cases hn : n ≤ cs.length
        · simp [hn]
        · simp [hn]

/-- Stepping looks at nothing behind the characters. -/
theorem skip_append {n k : ℕ} {bytes : List UInt8} (more : List UInt8)
    (h : skip n bytes = some k) : skip n (bytes ++ more) = some k := by
  induction n generalizing bytes k with
  | zero => exact h
  | succ n ih =>
      rw [skip] at h
      rcases hfirst : first? bytes with - | c
      · rw [hfirst] at h
        cases h
      rw [hfirst] at h
      obtain ⟨j, hj, rfl⟩ := Option.map_eq_some_iff.mp h
      have hbytes := eq_append_of_first? hfirst
      have hmore : first? (bytes ++ more) = some c := by
        rw [hbytes, List.append_assoc]
        exact first?_encode c _
      have hdrop : (bytes ++ more).drop c.utf8Size = bytes.drop c.utf8Size ++ more := by
        have hlen : c.utf8Size ≤ bytes.length := by
          have := congrArg List.length hbytes
          rw [List.length_append, String.length_utf8EncodeChar] at this
          omega
        exact List.drop_append_of_le_length hlen
      rw [skip, hmore]
      simp only [hdrop, ih hj, Option.map_some]

theorem skip_le {n k : ℕ} {bytes : List UInt8} (h : skip n bytes = some k) : k ≤ bytes.length := by
  induction n generalizing bytes k with
  | zero =>
      cases h
      exact Nat.zero_le _
  | succ n ih =>
      rw [skip] at h
      rcases hfirst : first? bytes with - | c
      · rw [hfirst] at h
        cases h
      rw [hfirst] at h
      obtain ⟨j, hj, rfl⟩ := Option.map_eq_some_iff.mp h
      have hlen := congrArg List.length (eq_append_of_first? hfirst)
      rw [List.length_append, String.length_utf8EncodeChar] at hlen
      have := ih hj
      omega

/-! ### ASCII bytes -/

theorem toNat_ofNat_ge {m k : ℕ} (hk : 128 ≤ k) (hm : m + k < 256) :
    128 ≤ (UInt8.ofNat (m + k)).toNat := by
  rw [UInt8.toNat_ofNat']
  omega

/-- An ASCII byte is the whole of its character. -/
theorem encodeChar_of_ascii {c : Char} {b : UInt8} (hb : b.toNat < 128)
    (h : b ∈ String.utf8EncodeChar c) : String.utf8EncodeChar c = [b] := by
  simp only [String.utf8EncodeChar] at h ⊢
  generalize c.val.toNat = v at h ⊢
  by_cases h₁ : v ≤ 127
  · simp only [h₁, if_true, List.mem_singleton] at h ⊢
    rw [h]
  · exfalso
    simp only [h₁, if_false] at h
    have hlead : ∀ m k, 128 ≤ k → m + k < 256 → b ≠ UInt8.ofNat (m + k) := by
      rintro m k hk hm rfl
      exact absurd (toNat_ofNat_ge hk hm) (by omega)
    split at h
    · simp only [List.mem_cons, List.not_mem_nil, or_false] at h
      rcases h with h | h
      · exact hlead _ _ (by omega) (by omega) h
      · exact hlead _ _ (by omega) (by omega) h
    split at h
    · simp only [List.mem_cons, List.not_mem_nil, or_false] at h
      rcases h with h | h | h
      · exact hlead _ _ (by omega) (by omega) h
      · exact hlead _ _ (by omega) (by omega) h
      · exact hlead _ _ (by omega) (by omega) h
    · simp only [List.mem_cons, List.not_mem_nil, or_false] at h
      rcases h with h | h | h | h
      · exact hlead _ _ (by omega) (by omega) h
      · exact hlead _ _ (by omega) (by omega) h
      · exact hlead _ _ (by omega) (by omega) h
      · exact hlead _ _ (by omega) (by omega) h

/-- The encoding of ASCII characters. -/
theorem encode_ascii {cs : List Char} (h : ∀ c ∈ cs, c.toNat < 128) :
    encode cs = cs.map fun c => UInt8.ofNat c.toNat := by
  induction cs with
  | nil => rfl
  | cons c cs ih =>
      obtain ⟨hc, hcs⟩ := List.forall_mem_cons.mp h
      have hval : c.val.toNat ≤ 127 := Nat.le_of_lt_succ hc
      have hone : String.utf8EncodeChar c = [UInt8.ofNat c.toNat] := by
        simp only [String.utf8EncodeChar]
        rw [if_pos hval]
        rfl
      rw [encode_cons, hone, ih hcs, List.map_cons, List.singleton_append]

/-- Well-formed bytes can be cut at an ASCII byte. -/
theorem encode_cut {cs : List Char} {before after : List UInt8} {b : UInt8} (hb : b.toNat < 128)
    (h : before ++ b :: after = encode cs) : Valid before ∧ Valid after := by
  induction cs generalizing before with
  | nil => simp at h
  | cons c cs ih =>
      rw [encode_cons, List.append_eq_append_iff] at h
      rcases h with ⟨bytes, hchar, hrest⟩ | ⟨bytes, rfl, hrest⟩
      · rcases bytes with - | ⟨b', bytes⟩
        · -- the character ends where the byte stands
          rw [List.append_nil] at hchar
          have hvalid : Valid ([] : List UInt8) ∧ Valid after := ih hrest
          exact ⟨⟨[c], by rw [← hchar, encode_cons, encode_nil, List.append_nil]⟩, hvalid.2⟩
        · rw [List.cons_append, List.cons.injEq] at hrest
          obtain ⟨rfl, rfl⟩ := hrest
          have hsingle := encodeChar_of_ascii hb (by rw [hchar]; simp)
          rw [hsingle] at hchar
          rcases before with - | ⟨b', before⟩
          · simp only [List.nil_append, List.cons.injEq, true_and] at hchar
            exact ⟨⟨[], rfl⟩, ⟨cs, by rw [← hchar, List.nil_append]⟩⟩
          · have hlen := congrArg List.length hchar
            simp at hlen
      · obtain ⟨⟨ds, rfl⟩, hafter⟩ := ih hrest.symm
        exact ⟨⟨c :: ds, by rw [encode_cons]⟩, hafter⟩

theorem Valid.cut {before after : List UInt8} {b : UInt8} (hb : b.toNat < 128)
    (h : Valid (before ++ b :: after)) : Valid before ∧ Valid after := by
  obtain ⟨cs, hcs⟩ := h
  exact encode_cut hb hcs

/-- What follows the first characters of well-formed bytes is well formed. -/
theorem Valid.drop_skip {n k : ℕ} {bytes : List UInt8} (h : Valid bytes)
    (hskip : skip n bytes = some k) : Valid (bytes.drop k) := by
  obtain ⟨cs, rfl⟩ := h
  rw [skip_encode] at hskip
  split at hskip
  · cases hskip
    refine ⟨cs.drop n, ?_⟩
    have hsplit : encode cs = encode (cs.take n) ++ encode (cs.drop n) := by
      rw [← encode_append, List.take_append_drop]
    rw [hsplit]
    exact List.drop_left' rfl
  · cases hskip

end Utf8
