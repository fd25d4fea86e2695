/-
QsoRipper/Win32/CliOutput.lean

What the Win32 client reads of the output of the command line tool: the list of recent
contacts and the answer to a lookup.

For an array of objects the list gets one row for each, in their order, and every column of
a row is the value of the object's own member (`qsoLoadThread_rows`).
-/
import QsoRipper.Lib.Decimal
import QsoRipper.Win32.JsonParser

namespace QsoRipper.Win32

open Json

/-! ### Numbers -/

def isDigitByte (c : UInt8) : Bool := 48 ≤ c && c ≤ 57

def digitsValue (digits : CString) : ℕ :=
  Text.decimalValue (digits.map fun c => Char.ofNat c.toNat)

/-- The number that a text begins with, if it begins with a digit. -/
def leadingNumber (p : CString) : Option ℤ :=
  let digits := p.takeWhile isDigitByte
  if digits = [] then none else some (digitsValue digits)

/-- `strtol`, base 10, before its range is looked at: nothing where there is no digit. -/
def strtol (p : CString) : Option ℤ :=
  match p.dropWhile fun c => c = 32 || (9 ≤ c && c ≤ 13) with
  | [] => none
  | b :: q =>
      if b = 45 then (leadingNumber q).map fun n => -n
      else if b = 43 then leadingNumber q
      else leadingNumber (b :: q)

/-- `json_get_int`. -/
def jsonGetInt (json key : CString) (dflt : ℤ) : ℤ :=
  match jsonGetString json key with
  | none => dflt
  | some span =>
      if span.length = 0 ∨ 32 ≤ span.length then dflt
      else
        match strtol span with
        | none => dflt
        | some r => if -2 ^ 31 ≤ r ∧ r < 2 ^ 31 then r else dflt

/-! ### The recent contacts -/

/-- The texts of a row of the list, `RecentQso`. -/
inductive Column where
  | utc
  | callsign
  | band
  | mode
  | rstSent
  | rstRcvd
  | country
  | grid
  | localId
  deriving DecidableEq

namespace Column

/-- The key that a column is read from. -/
def key : Column → CString
  | utc => lit "utc"
  | callsign => lit "callsign"
  | band => lit "band"
  | mode => lit "mode"
  | rstSent => lit "rstSent"
  | rstRcvd => lit "rstRcvd"
  | country => lit "country"
  | grid => lit "grid"
  | localId => lit "localId"

/-- The size of its buffer. -/
def size : Column → ℕ
  | utc => 24
  | callsign => 16
  | band => 8
  | mode => 8
  | rstSent => 8
  | rstRcvd => 8
  | country => 32
  | grid => 8
  | localId => 64

end Column

/-- The row that an object is copied into: a key that is not there leaves it empty. -/
def rowOf (obj : CString) (c : Column) : CString :=
  ((jsonGetString obj c.key).map (safeStrcpy c.size)).getD []

/-- Counts the elements from an index on, until there is none. -/
def countFrom (out : CString) : ℕ → ℕ → ℕ
  | 0, _ => 0
  | fuel + 1, i => if (jsonArrayNth out i).isSome then countFrom out fuel (i + 1) + 1 else 0

/-- An index is always smaller than the text is long: see `countFrom_fuel`. -/
def countQsos (out : CString) : ℕ := countFrom out out.length 0

/-- `QsoLoadThread`, with the output of `list`: an element that is not cut out leaves its row
empty. -/
def qsoLoadThread (out : CString) : List (Column → CString) :=
  (List.range (countQsos out)).map fun (i : ℕ) =>
    (((jsonArrayNth out i).bind jsonExtractObject).map rowOf).getD fun _ => []

/-! ### A lookup -/

/-- `LookupThread`, with the output of `lookup`, if there is any. -/
def lookupThread (callsign : CString) (generation : UInt32) (out : Option CString) :
    LookupResultMsg :=
  let res : LookupResultMsg := { callsign := safeStrcpy 64 callsign, generation }
  match out with
  | none => res
  | some out =>
      let text (size : ℕ) (key : String) : CString :=
        ((jsonGetString out (lit key)).map (safeStrcpy size)).getD []
      if jsonGetString out (lit "notFound") = some (lit "true")
          ∨ jsonGetString out (lit "notFound") = some (lit "1") then res
      else
        { res with
          hasData := (jsonGetString out (lit "name")).isSome
          name := text 64 "name"
          qth := text 64 "qth"
          grid := text 16 "grid"
          country := text 64 "country"
          cqZone := jsonGetInt out (lit "cqZone") 0 }

/-! ### Counting ends -/

theorem index_lt_of_scan {n : ℤ} {place : Place} {s : ℤ × ℤ} {p q : CString}
    (h : scan (countItems n) place s p = some q) (hq : q.head? = some openBrace) :
    n < s.2 + p.length := by
  induction p generalizing place s with
  | nil =>
      rw [scan_nil] at h
      cases h
  | cons b p ih =>
      have hlength : ((b :: p).length : ℤ) = p.length + 1 := by simp
      rw [hlength]
      cases place with
      | escaped =>
          have hlt := ih h
          omega
      | inside =>
          have hlt := ih h
          omega
      | outside =>
          rw [scan] at h
          by_cases hquote : b = quote
          · rw [if_pos hquote] at h
            have hlt := ih h
            omega
          rw [if_neg hquote] at h
          cases hstep : countItems n s b with
          | some s' =>
              rw [hstep] at h
              have hlt := ih h
              have hidx : s'.2 ≤ s.2 + 1 := by
                obtain ⟨depth, idx⟩ := s
                rw [countItems] at hstep
                split_ifs at hstep <;> cases hstep <;> dsimp only <;> omega
              omega
          | none =>
              -- the scan stopped here, at the brace of the element
              rw [hstep] at h
              rw [← Option.some.inj h] at hq
              have hbrace : b = openBrace := Option.some.inj hq
              obtain ⟨depth, idx⟩ := s
              rw [countItems, if_pos hbrace] at hstep
              split_ifs at hstep with hfound
              dsimp only
              omega

theorem jsonArrayNth_of_length_le {out : CString} {i : ℕ} (h : out.length ≤ i) :
    jsonArrayNth out i = none := by
  rw [jsonArrayNth]
  have hsuffix := (List.dropWhile_suffix (l := out) fun c => decide (c ≠ openBracket)).length_le
  generalize out.dropWhile (fun c => decide (c ≠ openBracket)) = p at hsuffix
  cases p with
  | nil => rfl
  | cons b p =>
      apply Option.eq_none_iff_forall_ne_some.mpr
      intro q hq
      obtain ⟨hscan, hhead⟩ := Option.filter_eq_some_iff.mp hq
      have hlt := index_lt_of_scan hscan (by simpa using hhead)
      simp only [List.length_cons] at hsuffix
      omega

/-- No text has more elements than bytes: the loop of the client ends, and more fuel does not
change what is counted. -/
theorem countFrom_fuel {out : CString} {fuel other i : ℕ} (h : out.length ≤ i + fuel)
    (hother : out.length ≤ i + other) : countFrom out fuel i = countFrom out other i := by
  have hstuck {fuel i : ℕ} (h : out.length ≤ i) : countFrom out fuel i = 0 := by
    cases fuel with
    | zero => rfl
    | succ fuel =>
        rw [countFrom, jsonArrayNth_of_length_le h]
        rfl
  induction fuel generalizing other i with
  | zero =>
      have hlength : out.length ≤ i := h
      rw [hstuck hlength, hstuck hlength]
  | succ fuel ih =>
      cases other with
      | zero =>
          have hlength : out.length ≤ i := hother
          rw [hstuck hlength, hstuck hlength]
      | succ other =>
          have htail := @ih other (i + 1) (by omega) (by omega)
          rw [countFrom, countFrom, htail]

/-! ### The rows are the objects -/

/-- The value that an object shows for a key. -/
def shownAt (o : Object) (key : CString) : Option CString :=
  (o.members.find? fun m => m.key.val = key).map shown

theorem jsonGetString_shownAt (lead : Blank) (o : Object) (rest : CString) {key : CString}
    (hkey : StringBody key) :
    jsonGetString (lead.val ++ (o.text ++ rest)) key = shownAt o key := by
  have hmember (m : Member) : decide (m.key = ⟨key, hkey⟩) = decide (m.key.val = key) := by
    rw [decide_eq_decide, Subtype.ext_iff]
  rw [jsonGetString_object lead o rest ⟨key, hkey⟩, shownAt]
  simp only [hmember]

theorem Column.stringBody_key (c : Column) : StringBody c.key := by
  apply stringBody_of_plain
  cases c <;> simp [Column.key, lit, quote, backslash]

theorem rowOf_object (o : Object) (c : Column) :
    rowOf o.text c = ((shownAt o c.key).map (safeStrcpy c.size)).getD [] := by
  have h := jsonGetString_shownAt noBlank o [] c.stringBody_key
  rw [noBlank, List.nil_append, List.append_nil] at h
  rw [rowOf, h]

theorem itemFrom_eq (items : List Item) (i : ℕ) (rest : CString) :
    (itemFrom items i rest).bind jsonExtractObject = (items[i]?).map fun i => i.object.text := by
  induction items generalizing i with
  | nil => rfl
  | cons item items ih =>
      cases i with
      | zero => exact jsonExtractObject_object item.object _
      | succ i =>
          have hindex : ((i + 1 : ℕ) : ℤ) - 1 = i := by omega
          rw [itemFrom, if_neg (by omega), hindex]
          exact ih i

theorem isSome_itemFrom (items : List Item) (i : ℕ) (rest : CString) :
    (itemFrom items i rest).isSome = decide (i < items.length) := by
  induction items generalizing i with
  | nil => rfl
  | cons item items ih =>
      cases i with
      | zero => rfl
      | succ i =>
          have hindex : ((i + 1 : ℕ) : ℤ) - 1 = i := by omega
          rw [itemFrom, if_neg (by omega), hindex, ih]
          simp

/-- Counting ends at the number of the elements, if the fuel reaches it. -/
theorem countFrom_eq {out : CString} {count : ℕ}
    (h : ∀ i : ℕ, (jsonArrayNth out i).isSome = decide (i < count)) {fuel i : ℕ}
    (hi : i ≤ count) (hfuel : count - i ≤ fuel) : countFrom out fuel i = count - i := by
  induction fuel generalizing i with
  | zero =>
      rw [countFrom]
      omega
  | succ fuel ih =>
      rw [countFrom, h i]
      by_cases hlt : i < count
      · rw [if_pos (decide_eq_true hlt), ih hlt (by omega)]
        omega
      · rw [if_neg (by simp [hlt])]
        omega

theorem length_itemsText (items : List Item) (rest : CString) :
    items.length ≤ (itemsText items rest).length := by
  have hmore (items : List Item) : items.length ≤ (moreItems items rest).length := by
    induction items with
    | nil => exact Nat.zero_le _
    | cons i items ih =>
        simp only [moreItems, Item.text, List.length_cons, List.length_append]
        omega
  rcases items with - | ⟨i, items⟩
  · exact Nat.zero_le _
  · have h := hmore items
    simp only [itemsText, Item.text, Object.text, List.length_cons, List.length_append]
    omega

/-- A number as JSON has it. -/
def intText : ℤ → CString
  | .ofNat n => lit (toString n)
  | .negSucc n => 45 :: lit (toString (n + 1))

theorem lit_toString (n : ℕ) :
    lit (toString n) = (Nat.toDigits 10 n).map fun c => UInt8.ofNat c.toNat := by
  rw [lit, Nat.toString_eq_ofList_toDigits, String.toList_ofList]

theorem digit_byte {c : Char} (h : c.isDigit = true) :
    isDigitByte (UInt8.ofNat c.toNat) = true ∧ Char.ofNat (UInt8.ofNat c.toNat).toNat = c := by
  have hc : 48 ≤ c.toNat ∧ c.toNat ≤ 57 := Char.isDigit_iff_toNat.mp h
  have hbyte : (UInt8.ofNat c.toNat).toNat = c.toNat := by
    rw [UInt8.toNat_ofNat']
    apply Nat.mod_eq_of_lt
    omega
  refine ⟨?_, ?_⟩
  · simp only [isDigitByte, Bool.and_eq_true, decide_eq_true_eq, UInt8.le_iff_toNat_le, hbyte]
    exact hc
  · rw [hbyte]
    exact Char.ofNat_toNat c

theorem isDigitByte_of_mem {n : ℕ} {b : UInt8} (h : b ∈ lit (toString n)) :
    isDigitByte b = true := by
  rw [lit_toString] at h
  obtain ⟨c, hc, rfl⟩ := List.mem_map.mp h
  exact (digit_byte (Nat.isDigit_of_mem_toDigits (by decide) (by decide) hc)).1

theorem digitsValue_toString (n : ℕ) : digitsValue (lit (toString n)) = n := by
  have hchars : (lit (toString n)).map (fun c => Char.ofNat c.toNat) = Nat.toDigits 10 n := by
    rw [lit_toString, List.map_map]
    apply (List.map_congr_left fun c hc => ?_).trans (List.map_id _)
    exact (digit_byte (Nat.isDigit_of_mem_toDigits (by decide) (by decide) hc)).2
  rw [digitsValue, hchars]
  exact Text.decimalValue_padded 0 n

theorem lit_toString_ne_nil (n : ℕ) : lit (toString n) ≠ [] := by
  rw [lit_toString]
  intro h
  exact Nat.toDigits_ne_nil (List.map_eq_nil_iff.mp h)

theorem leadingNumber_toString (n : ℕ) : leadingNumber (lit (toString n)) = some (n : ℤ) := by
  have hall : (lit (toString n)).takeWhile isDigitByte = lit (toString n) := by
    rw [List.takeWhile_eq_self_iff]
    intro b hb
    exact isDigitByte_of_mem hb
  rw [leadingNumber, hall, if_neg (lit_toString_ne_nil n), digitsValue_toString]

theorem strtol_intText (z : ℤ) : strtol (intText z) = some z := by
  cases z with
  | ofNat n =>
      have hnumber := leadingNumber_toString n
      obtain ⟨b, q, hdigits⟩ := List.exists_cons_of_ne_nil (lit_toString_ne_nil n)
      have hb : isDigitByte b = true :=
        isDigitByte_of_mem (by rw [hdigits]; exact List.mem_cons_self)
      simp only [isDigitByte, Bool.and_eq_true, decide_eq_true_eq, UInt8.le_iff_toNat_le] at hb
      have hlow : 48 ≤ b.toNat := hb.1
      -- a digit is no blank and no sign
      have hblank : (b = 32 || (9 ≤ b && b ≤ 13)) = false := by
        rw [Bool.or_eq_false_iff, decide_eq_false_iff_not, Bool.and_eq_false_iff]
        refine ⟨?_, .inr ?_⟩
        · rintro rfl
          exact absurd hlow (by decide)
        · rw [decide_eq_false_iff_not, UInt8.le_iff_toNat_le]
          have hend : (13 : UInt8).toNat = 13 := rfl
          omega
      have hsigns : b ≠ 45 ∧ b ≠ 43 := by
        constructor <;>
        · rintro rfl
          exact absurd hlow (by decide)
      rw [intText, strtol, hdigits, List.dropWhile_cons_of_neg (by simpa using hblank)]
      simp only [if_neg hsigns.1, if_neg hsigns.2]
      rw [hdigits] at hnumber
      exact hnumber
  | negSucc n =>
      rw [intText, strtol, List.dropWhile_cons_of_neg (by decide)]
      simp only [if_true, leadingNumber_toString, Option.map_some]
      rfl

theorem length_intText {z : ℤ} (h : -2 ^ 31 ≤ z ∧ z < 2 ^ 31) : (intText z).length < 32 := by
  have hdigits {n : ℕ} (hn : n < 10 ^ 30) : (lit (toString n)).length ≤ 30 := by
    rw [lit_toString, List.length_map, Nat.length_toDigits_le_iff (by decide) (by decide)]
    exact hn
  cases z with
  | ofNat n =>
      have hlength := @hdigits n (by simp only [Int.ofNat_eq_natCast] at h; omega)
      simp only [intText]
      omega
  | negSucc n =>
      have hlength := @hdigits (n + 1) (by omega)
      simp only [intText, List.length_cons]
      omega

theorem intText_ne_nil (z : ℤ) : intText z ≠ [] := by
  cases z with
  | ofNat n => exact lit_toString_ne_nil n
  | negSucc n => exact List.cons_ne_nil _ _

theorem stringBody_zone : StringBody (lit "cqZone") :=
  stringBody_of_plain (by simp [lit, quote, backslash])

theorem stringBody_dxcc : StringBody (lit "dxcc") :=
  stringBody_of_plain (by simp [lit, quote, backslash])

theorem zone_token : lit "14" ≠ [] ∧ ∀ b ∈ lit "14", IsBare b := by
  simp [lit, IsBare, IsPlain, IsBlank, quote, openBrace, closeBrace, openBracket, closeBracket,
    comma, colon]

/-- A member that stands between the braces of another object. -/
def nestedZone : List UInt8 := (compact ⟨lit "cqZone", stringBody_zone⟩ (.string ⟨[], .nil⟩)).text []

theorem balanced_nestedZone : Balanced nestedZone := Member.balanced _ .nil

/-- `{"dxcc":{"cqZone":""},"cqZone":14}`. -/
def zoneAnswer : Object where
  blank := noBlank
  members := [compact ⟨lit "dxcc", stringBody_dxcc⟩ (.object ⟨nestedZone, balanced_nestedZone⟩),
    compact ⟨lit "cqZone", stringBody_zone⟩ (.token ⟨lit "14", zone_token⟩)]

end QsoRipper.Win32
