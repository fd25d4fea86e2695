/-
QsoRipper/Setup/ProfileId.lean

The ids of station profiles: how a requested id is normalised and how one is
generated from a profile.  Normalising an id a second time changes nothing, and a
generated id is a new one.
-/
import QsoRipper.Lib.Text
import QsoRipper.Domain.Station

namespace QsoRipper.Setup

/-! ### Normalising -/

/-- `char::to_lowercase`, up to characters outside ASCII, which no id keeps:
besides the capitals the Kelvin sign and the dotted capital I have a lower case
with an ASCII letter in it. -/
def lowerIdChar (c : Char) : List Char :=
  let n := c.toNat
  if 'A'.toNat ≤ n ∧ n ≤ 'Z'.toNat then [Char.ofNat (n + 32)]
  else if n = 0x212A then ['k']
  else if n = 0x130 then ['i', Char.ofNat 0x307]
  else [c]

/-- `is_ascii_alphanumeric`, on a character in lower case. -/
def isIdChar (c : Char) : Bool :=
  let n := c.toNat
  decide ('a'.toNat ≤ n ∧ n ≤ 'z'.toNat) || decide ('0'.toNat ≤ n ∧ n ≤ '9'.toNat)

/-- The loop of `normalize_profile_id`, with `previous_was_separator`. -/
def separate : Bool → List Char → List Char
  | _, [] => []
  | previousWasSeparator, c :: cs =>
      if isIdChar c then c :: separate false cs
      else if previousWasSeparator then separate true cs
      else '-' :: separate true cs

/-- `trim_matches('-')`. -/
def trimDashes (cs : List Char) : List Char := Text.trimList (· == '-') cs

/-- `normalize_profile_id`. -/
def normalizeProfileId (rawValue : String) : String :=
  String.ofList (trimDashes (separate false (rawValue.toList.flatMap lowerIdChar)))

/-- Letters and digits in groups that single dashes separate, given whether a dash
stands before them. -/
def Grouped : Bool → List Char → Prop
  | _, [] => True
  | afterDash, c :: cs => (isIdChar c = true ∧ Grouped false cs)
      ∨ (c = '-' ∧ afterDash = false ∧ Grouped true cs)

theorem not_isIdChar_dash : isIdChar '-' = false := by decide

theorem separate_grouped (b : Bool) (cs : List Char) : Grouped b (separate b cs) := by
  induction cs generalizing b with
  | nil => trivial
  | cons c cs ih =>
      rw [separate]
      split_ifs with hid hdash
      · exact .inl ⟨hid, ih false⟩
      · rw [hdash]
        exact ih true
      · exact .inr ⟨rfl, Bool.eq_false_iff.mpr hdash, ih true⟩

theorem separate_of_grouped {b : Bool} {cs : List Char} (h : Grouped b cs) :
    separate b cs = cs := by
  induction cs generalizing b with
  | nil => rfl
  | cons c cs ih =>
      rw [separate]
      rcases h with ⟨hid, hrest⟩ | ⟨rfl, rfl, hrest⟩
      · rw [if_pos hid, ih hrest]
      · rw [if_neg (by rw [not_isIdChar_dash]; exact Bool.false_ne_true),
          if_neg Bool.false_ne_true, ih hrest]

/-- Dropping the dash in front, or what stands behind, leaves groups. -/
theorem Grouped.weaken {cs : List Char} (h : Grouped true cs) : Grouped false cs := by
  cases cs with
  | nil => trivial
  | cons c cs =>
      rcases h with ⟨hid, hrest⟩ | ⟨-, hno, -⟩
      · exact .inl ⟨hid, hrest⟩
      · cases hno

theorem Grouped.dropWhile {b : Bool} {cs : List Char} (h : Grouped b cs) :
    Grouped false (cs.dropWhile (· == '-')) := by
  induction cs generalizing b with
  | nil => trivial
  | cons c cs ih =>
      by_cases hc : (c == '-') = true
      · rw [List.dropWhile_cons, if_pos hc]
        rcases h with ⟨-, hrest⟩ | ⟨-, -, hrest⟩ <;> exact ih hrest
      · rw [List.dropWhile_cons, if_neg hc]
        rcases h with h | ⟨rfl, -, -⟩
        · exact .inl h
        · exact absurd rfl hc

theorem Grouped.of_prefix {b : Bool} {cs ds : List Char} (h : Grouped b cs) (hp : ds <+: cs) :
    Grouped b ds := by
  induction ds generalizing b cs with
  | nil => trivial
  | cons d ds ih =>
      obtain ⟨rest, rfl⟩ := hp
      rw [List.cons_append] at h
      rcases h with ⟨hid, hrest⟩ | ⟨rfl, rfl, hrest⟩
      · exact .inl ⟨hid, ih hrest (List.prefix_append ds rest)⟩
      · exact .inr ⟨rfl, rfl, ih hrest (List.prefix_append ds rest)⟩

theorem Grouped.trimDashes {cs : List Char} (h : Grouped false cs) :
    Grouped false (Setup.trimDashes cs) :=
  h.dropWhile.of_prefix (List.rdropWhile_prefix _ _)

/-- The lower case of a character of an id is that character. -/
theorem lowerIdChar_eq {c : Char} (h : isIdChar c = true ∨ c = '-') : lowerIdChar c = [c] := by
  have hbound : c.toNat = 45 ∨ 48 ≤ c.toNat ∧ c.toNat ≤ 57 ∨ 97 ≤ c.toNat ∧ c.toNat ≤ 122 := by
    rcases h with h | rfl
    · simp only [isIdChar, Bool.or_eq_true, decide_eq_true_eq] at h
      rcases h with h | h
      · exact .inr (.inr h)
      · exact .inr (.inl h)
    · exact .inl rfl
  unfold lowerIdChar
  dsimp only
  rw [if_neg, if_neg, if_neg]
  · omega
  · omega
  · show ¬ (65 ≤ c.toNat ∧ c.toNat ≤ 90)
    omega

theorem Grouped.mem {b : Bool} {cs : List Char} (h : Grouped b cs) :
    ∀ c ∈ cs, isIdChar c = true ∨ c = '-' := by
  induction cs generalizing b with
  | nil => exact fun c hc => absurd hc List.not_mem_nil
  | cons d cs ih =>
      intro c hc
      rcases List.mem_cons.mp hc with rfl | hc
      · rcases h with h | h
        · exact .inl h.1
        · exact .inr h.1
      · rcases h with h | h
        · exact ih h.2 c hc
        · exact ih h.2.2 c hc

/-- Normalising an id a second time changes nothing. -/
@[simp] theorem normalizeProfileId_normalizeProfileId (rawValue : String) :
    normalizeProfileId (normalizeProfileId rawValue) = normalizeProfileId rawValue := by
  rw [normalizeProfileId, normalizeProfileId]
  generalize hcs : separate false (rawValue.toList.flatMap lowerIdChar) = cs
  have hgrouped : Grouped false (trimDashes cs) := by
    rw [← hcs]
    exact (separate_grouped false _).trimDashes
  have hlower : (trimDashes cs).flatMap lowerIdChar = trimDashes cs :=
    Text.flatMap_eq_self fun c hc => lowerIdChar_eq (hgrouped.mem c hc)
  rw [String.toList_ofList, hlower, separate_of_grouped hgrouped, trimDashes, trimDashes,
    Text.trimList_idem]

/-! ### Generating -/

/-- `DEFAULT_PROFILE_NAME`. -/
def defaultProfileName : String := "Home"

/-- `format!("{original}-{suffix}")`. -/
def numbered (original : String) (suffix : ℕ) : String := original ++ "-" ++ toString suffix

/-- The loop of `generate_profile_id`; the ids taken bound its rounds. -/
def firstFree (existingIds : List String) (original : String) : ℕ → ℕ → String
  | 0, suffix => numbered original suffix
  | rounds + 1, suffix =>
      if numbered original suffix ∈ existingIds then
        firstFree existingIds original rounds (suffix + 1)
      else numbered original suffix

/-- `filter(|value| !value.is_empty())`. -/
def nonEmpty (value : String) : Option String := if value.isEmpty then none else some value

/-- The id that a profile suggests. -/
def suggestedProfileId (requestedProfileId : Option String) (profile : StationProfile) : String :=
  ((requestedProfileId.bind fun value => nonEmpty (normalizeProfileId value)).or <|
    (profile.profileName.bind fun value => nonEmpty (normalizeProfileId value)).or <|
      nonEmpty (normalizeProfileId profile.stationCallsign)).getD
    (Text.toAsciiLowercase defaultProfileName)

/-- `generate_profile_id`. -/
def generateProfileId (requestedProfileId : Option String) (profile : StationProfile)
    (existingIds : List String) : String :=
  let base := suggestedProfileId requestedProfileId profile
  if base ∈ existingIds then firstFree existingIds base existingIds.length 2 else base

theorem numbered_injective (original : String) : Function.Injective (numbered original) := by
  intro m n h
  have hcat : (original ++ "-").toList ++ (toString m).toList
      = (original ++ "-").toList ++ (toString n).toList := by
    rw [← String.toList_append, ← String.toList_append]
    exact congrArg String.toList h
  exact Nat.repr_injective (String.toList_injective (List.append_cancel_left hcat))

/-- The loop ends with a free id unless every id it tries is taken. -/
theorem firstFree_spec (existingIds : List String) (original : String) (rounds suffix : ℕ) :
    firstFree existingIds original rounds suffix ∉ existingIds
      ∨ ∀ i ≤ rounds, numbered original (suffix + i) ∈ existingIds := by
  induction rounds generalizing suffix with
  | zero =>
      rw [firstFree]
      by_cases h : numbered original suffix ∈ existingIds
      · refine .inr fun i hi => ?_
        rw [Nat.le_zero.mp hi]
        exact h
      · exact .inl h
  | succ rounds ih =>
      rw [firstFree]
      split_ifs with h
      · rcases ih (suffix + 1) with hfree | hall
        · exact .inl hfree
        · refine .inr fun i hi => ?_
          rcases i with - | i
          · exact h
          · rw [show suffix + (i + 1) = suffix + 1 + i by omega]
            exact hall i (Nat.le_of_succ_le_succ hi)
      · exact .inl h

/-- A generated id is a new one. -/
theorem generateProfileId_notMem (requestedProfileId : Option String) (profile : StationProfile)
    (existingIds : List String) :
    generateProfileId requestedProfileId profile existingIds ∉ existingIds := by
  rw [generateProfileId]
  generalize suggestedProfileId requestedProfileId profile = base
  split_ifs with hbase
  · rcases firstFree_spec existingIds base existingIds.length 2 with hfree | hall
    · exact hfree
    · -- more numbers are tried than ids can be taken
      have hsub : (Finset.range (existingIds.length + 1)).image (fun i => numbered base (2 + i))
          ⊆ existingIds.toFinset := by
        intro name hname
        obtain ⟨i, hi, rfl⟩ := Finset.mem_image.mp hname
        exact List.mem_toFinset.mpr (hall i (Nat.lt_succ_iff.mp (Finset.mem_range.mp hi)))
      have hcard := Finset.card_le_card hsub
      rw [Finset.card_image_of_injective, Finset.card_range] at hcard
      · exact absurd (hcard.trans (List.toFinset_card_le existingIds)) (by omega)
      · exact fun m n h => Nat.add_left_cancel (numbered_injective base h)
  · exact hbase

end QsoRipper.Setup
