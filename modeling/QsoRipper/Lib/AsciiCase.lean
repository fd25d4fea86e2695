/-
QsoRipper/Lib/AsciiCase.lean

Texts that differ in nothing but the case of ASCII letters.  What does not look
at the case of a letter does not tell them apart: their lengths, their white
space, the decimal numbers in them.
-/
import QsoRipper.Lib.Lines
import QsoRipper.Lib.Number
import QsoRipper.Lib.Replace
import QsoRipper.Lib.Utf8

namespace Text

/-- A character, or its capital. -/
def CaseOf (c d : Char) : Prop := c = d ∨ c = asciiUpperChar d

theorem CaseOf.refl (c : Char) : CaseOf c c := .inl rfl

/-- A capital is the letter's, between `A` and `Z`. -/
theorem CaseOf.cases {c d : Char} (h : CaseOf c d) :
    c = d ∨ (97 ≤ d.toNat ∧ d.toNat ≤ 122 ∧ c.toNat = d.toNat - 32) := by
  rcases h with rfl | rfl
  · exact .inl rfl
  · rcases asciiUpperChar_cases d with hsame | ⟨hletter, hupper⟩
    · exact .inl hsame
    · exact .inr ⟨hletter.1, hletter.2, hupper⟩

theorem CaseOf.asciiUpper {c d : Char} (h : CaseOf c d) : asciiUpperChar c = asciiUpperChar d := by
  rcases h with rfl | rfl
  · rfl
  · exact asciiUpperChar_idem d

theorem utf8Size_of_ascii {c : Char} (h : c.toNat < 128) : c.utf8Size = 1 := by
  have hval : c.val ≤ UInt32.ofNatLT 127 (by decide) := by
    rw [UInt32.le_iff_toNat_le]
    exact Nat.le_of_lt_succ h
  exact if_pos hval

theorem CaseOf.utf8Size {c d : Char} (h : CaseOf c d) : c.utf8Size = d.utf8Size := by
  rcases h.cases with rfl | ⟨hlow, hhigh, hc⟩
  · rfl
  · rw [utf8Size_of_ascii (c := c) (by omega), utf8Size_of_ascii (c := d) (by omega)]

theorem CaseOf.ascii {c d : Char} (h : CaseOf c d) : c.toNat < 128 ↔ d.toNat < 128 := by
  rcases h.cases with rfl | ⟨hlow, hhigh, hc⟩
  · rfl
  · omega

theorem CaseOf.isWhitespace {c d : Char} (h : CaseOf c d) :
    Text.isWhitespace c = Text.isWhitespace d := by
  rcases h with rfl | rfl
  · rfl
  · exact isWhitespace_asciiUpperChar d

/-- Only a letter has a capital of its own. -/
theorem CaseOf.eq_of_not_letter {c d : Char} (h : CaseOf c d)
    (hc : ¬ (65 ≤ c.toNat ∧ c.toNat ≤ 90) ∨ ¬ (97 ≤ d.toNat ∧ d.toNat ≤ 122)) : c = d := by
  rcases h.cases with heq | ⟨hlow, hhigh, hval⟩
  · exact heq
  · omega

theorem CaseOf.isDigit {c d : Char} (h : CaseOf c d) : c.isDigit = d.isDigit := by
  rw [Bool.eq_iff_iff, Char.isDigit_iff_toNat, Char.isDigit_iff_toNat]
  rcases h.cases with rfl | ⟨hlow, hhigh, hc⟩
  · rfl
  · have h0 : '0'.toNat = 48 := rfl
    have h9 : '9'.toNat = 57 := rfl
    omega

theorem CaseOf.eq_of_isDigit {c d : Char} (h : CaseOf c d) (hd : d.isDigit = true) : c = d := by
  rw [Char.isDigit_iff_toNat] at hd
  have h9 : '9'.toNat = 57 := rfl
  exact h.eq_of_not_letter (.inr (by omega))

/-! ### Texts -/

/-- The same text up to the case of its letters. -/
abbrev SameText (cs ds : List Char) : Prop := List.Forall₂ CaseOf cs ds

namespace SameText

variable {cs ds : List Char}

theorem refl (cs : List Char) : SameText cs cs := by
  induction cs with
  | nil => exact .nil
  | cons c cs ih => exact .cons (.refl c) ih

theorem map_eq {β : Type*} {f : Char → β} (h : SameText cs ds)
    (hf : ∀ c d, CaseOf c d → f c = f d) : cs.map f = ds.map f := by
  induction h with
  | nil => rfl
  | cons hcd _ ih => rw [List.map_cons, List.map_cons, hf _ _ hcd, ih]

theorem all_eq {p : Char → Bool} (h : SameText cs ds) (hp : ∀ c d, CaseOf c d → p c = p d) :
    cs.all p = ds.all p := by
  have hmap := congrArg (List.all · id) (h.map_eq hp)
  simpa [List.all_map] using hmap

theorem asciiUpper (h : SameText cs ds) : cs.map asciiUpperChar = ds.map asciiUpperChar :=
  h.map_eq fun _ _ => CaseOf.asciiUpper

theorem length_encode (h : SameText cs ds) :
    (Utf8.encode cs).length = (Utf8.encode ds).length := by
  induction h with
  | nil => rfl
  | cons hcd _ ih =>
      simp only [Utf8.encode_cons, List.length_append, String.length_utf8EncodeChar, hcd.utf8Size,
        ih]

theorem blank_iff (h : SameText cs ds) :
    (∀ c ∈ cs, isWhitespace c = true) ↔ ∀ d ∈ ds, isWhitespace d = true := by
  have hall := h.all_eq (p := isWhitespace) fun _ _ => CaseOf.isWhitespace
  rw [← List.all_eq_true, ← List.all_eq_true, hall]

theorem ascii_eq (h : SameText cs ds) :
    (cs.all fun c => decide (c.toNat < 128)) = ds.all fun d => decide (d.toNat < 128) :=
  h.all_eq fun _ _ hcd => decide_eq_decide.mpr hcd.ascii

theorem isDigit_eq (h : SameText cs ds) : cs.all Char.isDigit = ds.all Char.isDigit :=
  h.all_eq fun _ _ => CaseOf.isDigit

theorem eq_of_digits (h : SameText cs ds) (hd : ds.all Char.isDigit = true) : cs = ds := by
  induction h with
  | nil => rfl
  | cons hcd _ ih =>
      rw [List.all_cons, Bool.and_eq_true] at hd
      rw [hcd.eq_of_isDigit hd.1, ih hd.2]

/-- The text behind a leading sign. -/
theorem sign (h : SameText cs ds) {sign : Char}
    (hsign : ¬ (65 ≤ sign.toNat ∧ sign.toNat ≤ 122)) :
    (∃ cs' ds', cs = sign :: cs' ∧ ds = sign :: ds' ∧ SameText cs' ds')
      ∨ (∀ cs', cs ≠ sign :: cs') ∧ ∀ ds', ds ≠ sign :: ds' := by
  cases h with
  | nil => exact .inr ⟨nofun, nofun⟩
  | @cons c d cs ds hcd hrest =>
      by_cases hc : c = sign
      · subst hc
        have hd : c = d := hcd.eq_of_not_letter (.inl (by omega))
        subst hd
        exact .inl ⟨cs, ds, rfl, rfl, hrest⟩
      · refine .inr ⟨fun _ heq => hc (List.cons.inj heq).1, fun _ heq => hc ?_⟩
        have hd := (List.cons.inj heq).1
        rw [← hd]
        exact hcd.eq_of_not_letter (.inr (by rw [hd]; omega))

/-- A number does not depend on the case of letters: it has none. -/
theorem parseUnsigned_eq (h : SameText cs ds) (bound : ℕ) :
    parseUnsigned bound (String.ofList cs) = parseUnsigned bound (String.ofList ds) := by
  by_cases heq : cs = ds
  · rw [heq]
  · have hplus : ¬ (65 ≤ '+'.toNat ∧ '+'.toNat ≤ 122) := by decide
    have hcs : ∀ value, parseUnsigned bound (String.ofList cs) ≠ some value := by
      intro value hread
      obtain ⟨digits, htext, -, hdigits, -⟩ := parseUnsigned_eq_some_iff.mp hread
      rw [String.toList_ofList] at htext
      rw [← List.all_eq_true] at hdigits
      rcases htext with rfl | rfl
      · rw [h.isDigit_eq] at hdigits
        exact heq (h.eq_of_digits hdigits)
      · rcases h.sign hplus with ⟨cs', ds', hcs', rfl, hrest⟩ | ⟨hcs', -⟩
        · cases hcs'
          rw [hrest.isDigit_eq] at hdigits
          exact heq (by rw [hrest.eq_of_digits hdigits])
        · exact hcs' _ rfl
    have hds : ∀ value, parseUnsigned bound (String.ofList ds) ≠ some value := by
      intro value hread
      obtain ⟨digits, htext, -, hdigits, -⟩ := parseUnsigned_eq_some_iff.mp hread
      rw [String.toList_ofList] at htext
      rw [← List.all_eq_true] at hdigits
      rcases htext with rfl | rfl
      · exact heq (h.eq_of_digits hdigits)
      · rcases h.sign hplus with ⟨cs', ds', rfl, hds', hrest⟩ | ⟨-, hds'⟩
        · cases hds'
          exact heq (by rw [hrest.eq_of_digits hdigits])
        · exact hds' _ rfl
    rw [Option.eq_none_iff_forall_ne_some.mpr hcs, Option.eq_none_iff_forall_ne_some.mpr hds]

theorem trans {es : List Char} (h : SameText cs ds) (h' : SameText ds es) : SameText cs es := by
  induction h generalizing es with
  | nil => exact h'
  | cons hcd _ ih =>
      cases h' with
      | cons hde hrest =>
          refine .cons ?_ (ih hrest)
          rcases hcd with rfl | rfl
          · exact hde
          · exact .inr hde.asciiUpper

/-- Writing occurrences of a text in another case. -/
theorem replaceAll {pat rep : List Char} (h : SameText rep pat) (hne : pat ≠ []) (xs : List Char) :
    SameText (replaceAll pat rep xs) xs := by
  induction hlen : xs.length using Nat.strong_induction_on generalizing xs with
  | _ n ih =>
      cases xs with
      | nil => exact .nil
      | cons c cs =>
          by_cases hpre : pat <+: c :: cs
          · obtain ⟨rest, hrest⟩ := hpre
            have hpos := List.length_pos_iff.mpr hne
            have hshort : rest.length < n := by
              rw [← hlen, ← hrest, List.length_append]
              omega
            rw [← hrest, replaceAll_pattern hne]
            exact List.rel_append h (ih rest.length hshort rest rfl)
          · rw [replaceAll_cons hpre]
            exact .cons (.refl c) (ih cs.length (by simp [← hlen]) cs rfl)

end SameText

end Text
