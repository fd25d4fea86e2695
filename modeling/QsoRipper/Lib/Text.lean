/-
QsoRipper/Lib/Text.lean

The part of Rust's `str` API that text normalisation is written with: `trim`,
`to_uppercase`, `to_ascii_uppercase`, `eq_ignore_ascii_case`.

A string is handled as its list of characters.  The laws at the end say how
the operations compose: each is idempotent, and trimming commutes with
uppercasing because white space neither arises nor disappears under the
Unicode mapping.
-/
import QsoRipper.Lib.Unicode

namespace Text

/-! ### Operations -/

/-- `char::is_whitespace`. -/
def isWhitespace (c : Char) : Bool := Unicode.isSpaceCode c.toNat

/-- `str::trim`. -/
def trim (s : String) : String :=
  String.ofList ((s.toList.dropWhile isWhitespace).rdropWhile isWhitespace)

/-- `char::to_uppercase`. -/
def upperChar (c : Char) : List Char := (Unicode.upperCode c.toNat).map Char.ofNat

/-- `str::to_uppercase`. -/
def toUppercase (s : String) : String := String.ofList (s.toList.flatMap upperChar)

/-- `char::to_ascii_uppercase`. -/
def asciiUpperChar (c : Char) : Char :=
  if 97 ≤ c.toNat ∧ c.toNat ≤ 122 then Char.ofNat (c.toNat - 32) else c

/-- `str::to_ascii_uppercase`. -/
def toAsciiUppercase (s : String) : String := String.ofList (s.toList.map asciiUpperChar)

/-- `char::to_ascii_lowercase`. -/
def asciiLowerChar (c : Char) : Char :=
  if 65 ≤ c.toNat ∧ c.toNat ≤ 90 then Char.ofNat (c.toNat + 32) else c

/-- `str::to_ascii_lowercase`. -/
def toAsciiLowercase (s : String) : String := String.ofList (s.toList.map asciiLowerChar)

/-- `str::eq_ignore_ascii_case`. -/
def eqIgnoreAsciiCase (s t : String) : Bool := toAsciiUppercase s == toAsciiUppercase t

/-- `str::contains` with a string pattern. -/
def contains (s t : String) : Bool := s.toList.tails.any t.toList.isPrefixOf

/-- `str::starts_with` with a string pattern. -/
def startsWith (s t : String) : Bool := t.toList.isPrefixOf s.toList

/-- `strip_suffix('\r')`, when there is one. -/
def dropCarriageReturn (line : List Char) : List Char :=
  if line.getLast? = some '\r' then line.dropLast else line

/-- `str::lines`: a line that is ended loses its line break, the last one is
kept as it is unless it is empty. -/
def lines (s : String) : List String :=
  let parts := s.toList.splitOn '\n'
  (parts.dropLast.map dropCarriageReturn ++ (parts.getLast?.filter fun line => !line.isEmpty).toList).map
    String.ofList

/-! ### Trimming -/

variable {α : Type} {p : α → Bool}

theorem dropWhile_idem (l : List α) : (l.dropWhile p).dropWhile p = l.dropWhile p := by
  induction l with
  | nil => rfl
  | cons a l ih =>
      cases h : p a with
      | true => simpa [h] using ih
      | false => simp [h]

theorem dropWhile_eq_self_of_prefix {l l' : List α} (h : l.dropWhile p = l) (hl : l' <+: l) :
    l'.dropWhile p = l' := by
  cases l' with
  | nil => rfl
  | cons a l' =>
      obtain ⟨r, rfl⟩ := hl
      cases ha : p a with
      | false => simp [ha]
      | true =>
          rw [List.cons_append, List.dropWhile_cons, if_pos ha] at h
          have hlen := congrArg List.length h
          have hle : ((l' ++ r).dropWhile p).length ≤ (l' ++ r).length :=
            (List.dropWhile_sublist p).length_le
          rw [List.length_cons] at hlen
          omega

/-- The list that `trim` keeps. -/
def trimList (p : α → Bool) (l : List α) : List α := (l.dropWhile p).rdropWhile p

theorem trimList_idem (l : List α) : trimList p (trimList p l) = trimList p l := by
  have h : (trimList p l).dropWhile p = trimList p l :=
    dropWhile_eq_self_of_prefix (dropWhile_idem l) (List.rdropWhile_prefix p _)
  conv_lhs => rw [trimList, h, trimList]
  rw [List.rdropWhile_idempotent, ← trimList]

theorem toList_trim (s : String) : (trim s).toList = trimList isWhitespace s.toList :=
  String.toList_ofList

/-- Trimming twice is trimming once. -/
@[simp] theorem trim_trim (s : String) : trim (trim s) = trim s := by
  conv_lhs => rw [trim, ← trimList, toList_trim, trimList_idem]
  rfl

theorem trim_empty : trim "" = "" := by decide

/-! ### Uppercase -/

theorem toNat_ofNat {n : ℕ} (h : n.isValidChar) : (Char.ofNat n).toNat = n := by
  rw [Char.ofNat, dif_pos h]
  rfl

theorem isValidChar_toNat (c : Char) : c.toNat.isValidChar := c.valid

theorem toNat_of_mem_upperChar {c d : Char} (h : d ∈ upperChar c) :
    d.toNat ∈ Unicode.upperCode c.toNat := by
  obtain ⟨n, hn, rfl⟩ := List.mem_map.mp h
  rwa [toNat_ofNat (Unicode.isValidChar_of_mem (isValidChar_toNat c) hn)]

theorem upperChar_idem {c d : Char} (h : d ∈ upperChar c) : upperChar d = [d] := by
  rw [upperChar, Unicode.upperCode_idem (toNat_of_mem_upperChar h), List.map_singleton,
    Char.ofNat_toNat]

theorem isWhitespace_of_mem {c d : Char} (h : d ∈ upperChar c) :
    isWhitespace d = isWhitespace c :=
  Unicode.isSpaceCode_of_mem (toNat_of_mem_upperChar h)

theorem upperChar_ne_nil (c : Char) : upperChar c ≠ [] := by
  rw [upperChar, ne_eq, List.map_eq_nil_iff]
  exact Unicode.upperCode_ne_nil _

theorem flatMap_eq_self {f : α → List α} {l : List α} (h : ∀ a ∈ l, f a = [a]) :
    l.flatMap f = l := by
  induction l with
  | nil => rfl
  | cons a l ih =>
      rw [List.flatMap_cons, h a List.mem_cons_self,
        ih fun b hb => h b (List.mem_cons_of_mem _ hb)]
      rfl

theorem toList_toUppercase (s : String) : (toUppercase s).toList = s.toList.flatMap upperChar :=
  String.toList_ofList

/-- Uppercasing twice is uppercasing once. -/
@[simp] theorem toUppercase_toUppercase (s : String) :
    toUppercase (toUppercase s) = toUppercase s := by
  rw [toUppercase, flatMap_eq_self, String.ofList_toList]
  intro d hd
  rw [toList_toUppercase] at hd
  obtain ⟨c, -, hc⟩ := List.mem_flatMap.mp hd
  exact upperChar_idem hc

/-! ### Trimming against uppercase -/

variable {f : α → List α}

/-- Dropping a property that `f` preserves commutes with substituting by `f`. -/
theorem dropWhile_flatMap (hf : ∀ a, f a ≠ []) (hp : ∀ a, ∀ b ∈ f a, p b = p a) (l : List α) :
    (l.flatMap f).dropWhile p = (l.dropWhile p).flatMap f := by
  induction l with
  | nil => rfl
  | cons a l ih =>
      rw [List.flatMap_cons, List.dropWhile_cons]
      cases ha : p a with
      | true =>
          rw [List.dropWhile_append_of_pos fun b hb => by rw [hp a b hb, ha], ih]
          simp
      | false =>
          obtain ⟨b, bs, hb⟩ := List.exists_cons_of_ne_nil (hf a)
          have hpb : p b = false := by rw [hp a b (hb ▸ List.mem_cons_self), ha]
          simp [hb, hpb]

theorem trimList_flatMap (hf : ∀ a, f a ≠ []) (hp : ∀ a, ∀ b ∈ f a, p b = p a) (l : List α) :
    trimList p (l.flatMap f) = (trimList p l).flatMap f := by
  have hrev : ∀ l : List α, (l.flatMap f).rdropWhile p = (l.rdropWhile p).flatMap f := by
    intro l
    have h := dropWhile_flatMap (p := p) (f := fun a => (f a).reverse)
      (fun a => by simpa using hf a) (fun a b hb => hp a b (by simpa using hb)) l.reverse
    rw [List.rdropWhile, List.rdropWhile, List.reverse_flatMap]
    simp only [Function.comp_def] at h ⊢
    rw [h, List.reverse_flatMap]
    simp [Function.comp_def]
  rw [trimList, dropWhile_flatMap hf hp, hrev, trimList]

/-- **Trimming commutes with uppercasing.** -/
theorem trim_toUppercase (s : String) : trim (toUppercase s) = toUppercase (trim s) := by
  rw [trim, ← trimList, toList_toUppercase,
    trimList_flatMap upperChar_ne_nil (fun c d hd => isWhitespace_of_mem hd),
    ← toList_trim, toUppercase]

/-! ### ASCII case -/

theorem asciiUpperChar_idem (c : Char) : asciiUpperChar (asciiUpperChar c) = asciiUpperChar c := by
  by_cases h : 97 ≤ c.toNat ∧ c.toNat ≤ 122
  · have hv : (c.toNat - 32).isValidChar := by
      rw [Nat.isValidChar]
      omega
    rw [asciiUpperChar, asciiUpperChar, if_pos h, toNat_ofNat hv, if_neg (by omega)]
  · rw [asciiUpperChar, asciiUpperChar, if_neg h, if_neg h]

@[simp] theorem toAsciiUppercase_toAsciiUppercase (s : String) :
    toAsciiUppercase (toAsciiUppercase s) = toAsciiUppercase s := by
  simp [toAsciiUppercase, Function.comp_def, asciiUpperChar_idem]

@[simp] theorem eqIgnoreAsciiCase_self (s : String) : eqIgnoreAsciiCase s s = true :=
  BEq.rfl

theorem eqIgnoreAsciiCase_comm (s t : String) : eqIgnoreAsciiCase s t = eqIgnoreAsciiCase t s :=
  Bool.beq_comm

theorem eqIgnoreAsciiCase_iff {s t : String} :
    eqIgnoreAsciiCase s t = true ↔ toAsciiUppercase s = toAsciiUppercase t :=
  beq_iff_eq

example : toUppercase (trim "  straße\t") = "STRASSE" := by decide

-- Proofs above this module use the laws; unfolding a text operation there only
-- sends the elaborator into the character tables.
attribute [irreducible] trim toUppercase toAsciiUppercase toAsciiLowercase contains lines

end Text
