/-
QsoRipper/Lib/JsonText.lean

JSON as bytes: the texts of strings, bare tokens and bracketed values, objects as lists of
members with the blanks between them, arrays of objects; and scans that step over strings.

A scan looks at the bytes outside of strings only.  One that nests (what an opening bracket
does to its state the closing one undoes) passes a balanced text as if it was not there:
`scan_balanced`.  Everything between the brackets of an object or an array is balanced.
-/
import Mathlib

namespace Json

/-! ### Bytes -/

def quote : UInt8 := 34
def backslash : UInt8 := 92
def comma : UInt8 := 44
def colon : UInt8 := 58
def openBrace : UInt8 := 123
def closeBrace : UInt8 := 125
def openBracket : UInt8 := 91
def closeBracket : UInt8 := 93

/-- White space between the parts of a text. -/
def IsBlank (b : UInt8) : Prop := b = 32 ∨ b = 9 ∨ b = 13 ∨ b = 10

/-- A byte that neither opens nor closes a string, an object or an array. -/
def IsPlain (b : UInt8) : Prop :=
  b ≠ quote ∧ b ≠ openBrace ∧ b ≠ closeBrace ∧ b ≠ openBracket ∧ b ≠ closeBracket

/-- A byte of a bare value: a number, `true`, `false` or `null`. -/
def IsBare (b : UInt8) : Prop := IsPlain b ∧ ¬ IsBlank b ∧ b ≠ comma ∧ b ≠ colon

instance (b : UInt8) : Decidable (IsBlank b) := inferInstanceAs (Decidable (_ ∨ _))

instance (b : UInt8) : Decidable (IsPlain b) := inferInstanceAs (Decidable (_ ∧ _))

instance (b : UInt8) : Decidable (IsBare b) := inferInstanceAs (Decidable (_ ∧ _))

theorem IsBlank.isPlain {b : UInt8} (h : IsBlank b) : IsPlain b := by
  rcases h with rfl | rfl | rfl | rfl <;> decide

/-! ### Texts -/

/-- What stands between the quotes of a string: a backslash takes the byte behind it along. -/
inductive StringBody : List UInt8 → Prop
  | nil : StringBody []
  | plain {b rest} : b ≠ quote → b ≠ backslash → StringBody rest → StringBody (b :: rest)
  | escaped {b rest} : StringBody rest → StringBody (backslash :: b :: rest)

/-- A text whose strings are closed and whose brackets match. -/
inductive Balanced : List UInt8 → Prop
  | nil : Balanced []
  | plain {b rest} : IsPlain b → Balanced rest → Balanced (b :: rest)
  | string {body rest} :
      StringBody body → Balanced rest → Balanced (quote :: (body ++ quote :: rest))
  | object {inner rest} :
      Balanced inner → Balanced rest → Balanced (openBrace :: (inner ++ closeBrace :: rest))
  | array {inner rest} :
      Balanced inner → Balanced rest → Balanced (openBracket :: (inner ++ closeBracket :: rest))

abbrev Blank := { bytes : List UInt8 // ∀ b ∈ bytes, IsBlank b }

theorem blank_nil : ∀ b ∈ ([] : List UInt8), IsBlank b := fun _ h => absurd h List.not_mem_nil

/-- No blank at all. -/
def noBlank : Blank := ⟨[], blank_nil⟩

abbrev Body := { bytes : List UInt8 // StringBody bytes }

abbrev Token := { bytes : List UInt8 // bytes ≠ [] ∧ ∀ b ∈ bytes, IsBare b }

abbrev Inner := { bytes : List UInt8 // Balanced bytes }

/-- A value: a bare token, a string, or what stands between the brackets of an object or of
an array. -/
inductive Value where
  | token (bytes : Token)
  | string (body : Body)
  | object (inner : Inner)
  | array (inner : Inner)

def Value.text : Value → List UInt8
  | .token bytes => bytes
  | .string body => quote :: (body.val ++ [quote])
  | .object inner => openBrace :: (inner.val ++ [closeBrace])
  | .array inner => openBracket :: (inner.val ++ [closeBracket])

/-- A member of an object, with the blanks around its parts. -/
structure Member where
  beforeKey : Blank
  key : Body
  beforeColon : Blank
  afterColon : Blank
  value : Value
  afterValue : Blank

/-- A member without blanks. -/
def compact (key : Body) (value : Value) : Member where
  beforeKey := noBlank
  key
  beforeColon := noBlank
  afterColon := noBlank
  value
  afterValue := noBlank

/-- A member from its colon on. -/
def Member.tail (m : Member) (rest : List UInt8) : List UInt8 :=
  m.beforeColon.val ++ colon :: (m.afterColon.val ++ (m.value.text ++ (m.afterValue.val ++ rest)))

def Member.text (m : Member) (rest : List UInt8) : List UInt8 :=
  m.beforeKey.val ++ quote :: (m.key.val ++ quote :: m.tail rest)

/-- Members behind the first, and what is behind them. -/
def moreMembers : List Member → List UInt8 → List UInt8
  | [], rest => rest
  | m :: members, rest => comma :: m.text (moreMembers members rest)

/-- The members of an object, and what is behind them. -/
def membersText : List Member → List UInt8 → List UInt8
  | [], rest => rest
  | m :: members, rest => m.text (moreMembers members rest)

/-- An object: a blank, its members, its closing brace. -/
structure Object where
  blank : Blank
  members : List Member

def Object.inner (o : Object) : List UInt8 := o.blank.val ++ membersText o.members []

def Object.text (o : Object) : List UInt8 := openBrace :: (o.inner ++ [closeBrace])

/-- An element of an array of objects, with the blanks around it. -/
structure Item where
  before : Blank
  object : Object
  after : Blank

def Item.text (i : Item) (rest : List UInt8) : List UInt8 :=
  i.before.val ++ (i.object.text ++ (i.after.val ++ rest))

/-- Elements behind the first, and what is behind them. -/
def moreItems : List Item → List UInt8 → List UInt8
  | [], rest => rest
  | i :: items, rest => comma :: i.text (moreItems items rest)

/-- The elements of an array, and what is behind them. -/
def itemsText : List Item → List UInt8 → List UInt8
  | [], rest => rest
  | i :: items, rest => i.text (moreItems items rest)

/-- An array of objects: a blank, its elements, its closing bracket. -/
structure ObjectArray where
  blank : Blank
  items : List Item

def ObjectArray.text (a : ObjectArray) (rest : List UInt8) : List UInt8 :=
  openBracket :: (a.blank.val ++ itemsText a.items (closeBracket :: rest))

theorem moreMembers_append (members : List Member) (left right : List UInt8) :
    moreMembers members (left ++ right) = moreMembers members left ++ right := by
  induction members with
  | nil => rfl
  | cons m members ih => simp [moreMembers, Member.text, Member.tail, ih]

theorem membersText_append (members : List Member) (left right : List UInt8) :
    membersText members (left ++ right) = membersText members left ++ right := by
  rcases members with - | ⟨m, members⟩
  · rfl
  · simp [membersText, Member.text, Member.tail, moreMembers_append]

theorem Object.text_append (o : Object) (rest : List UInt8) :
    o.text ++ rest
      = openBrace :: (o.blank.val ++ membersText o.members (closeBrace :: rest)) := by
  have h := membersText_append o.members [] (closeBrace :: rest)
  rw [List.nil_append] at h
  simp [Object.text, Object.inner, h]

/-- The body of a string and what is behind its quote are found in one way only. -/
theorem StringBody.unique {body other rest otherRest : List UInt8} (h : StringBody body)
    (hother : StringBody other) (heq : body ++ quote :: rest = other ++ quote :: otherRest) :
    body = other ∧ rest = otherRest := by
  induction h generalizing other with
  | nil =>
      cases hother with
      | nil => exact ⟨rfl, (List.cons.inj heq).2⟩
      | plain hquote _ _ => exact absurd (List.cons.inj heq).1.symm hquote
      | escaped _ => exact absurd (List.cons.inj heq).1 (by decide)
  | plain hquote hbackslash _ ih =>
      cases hother with
      | nil => exact absurd (List.cons.inj heq).1 hquote
      | plain _ _ hbody =>
          obtain ⟨hb, htail⟩ := List.cons.inj heq
          obtain ⟨hrest, hbehind⟩ := ih hbody htail
          exact ⟨congrArg₂ List.cons hb hrest, hbehind⟩
      | escaped _ => exact absurd (List.cons.inj heq).1 hbackslash
  | escaped _ ih =>
      cases hother with
      | nil => exact absurd (List.cons.inj heq).1 (by decide)
      | plain _ hbackslash _ => exact absurd (List.cons.inj heq).1.symm hbackslash
      | escaped hbody =>
          obtain ⟨hb, htail⟩ := List.cons.inj (List.cons.inj heq).2
          obtain ⟨hrest, hbehind⟩ := ih hbody htail
          rw [hb, hrest]
          exact ⟨rfl, hbehind⟩

theorem stringBody_of_plain {bytes : List UInt8}
    (h : ∀ b ∈ bytes, b ≠ quote ∧ b ≠ backslash) : StringBody bytes := by
  induction bytes with
  | nil => exact .nil
  | cons b bytes ih =>
      obtain ⟨hquote, hbackslash⟩ := h b List.mem_cons_self
      exact .plain hquote hbackslash (ih fun b' hb' => h b' (List.mem_cons_of_mem b hb'))

/-! ### What is balanced -/

theorem Balanced.append {left right : List UInt8} (h : Balanced left) (hright : Balanced right) :
    Balanced (left ++ right) := by
  induction h with
  | nil => exact hright
  | plain hb _ ih => exact .plain hb ih
  | string hbody _ ih => simpa using Balanced.string hbody ih
  | object hinner _ _ ih => simpa using Balanced.object hinner ih
  | array hinner _ _ ih => simpa using Balanced.array hinner ih

theorem balanced_of_plain {bytes : List UInt8} (h : ∀ b ∈ bytes, IsPlain b) : Balanced bytes := by
  induction bytes with
  | nil => exact .nil
  | cons b bytes ih =>
      apply Balanced.plain (h b List.mem_cons_self)
      exact ih fun b' hb' => h b' (List.mem_cons_of_mem b hb')

theorem Blank.balanced (blank : Blank) : Balanced blank.val :=
  balanced_of_plain fun b hb => (blank.property b hb).isPlain

theorem Value.balanced (value : Value) : Balanced value.text := by
  cases value with
  | token bytes => exact balanced_of_plain fun b hb => (bytes.property.2 b hb).1
  | string body => exact .string body.property .nil
  | object inner => exact .object inner.property .nil
  | array inner => exact .array inner.property .nil

theorem Member.balanced (m : Member) {rest : List UInt8} (h : Balanced rest) :
    Balanced (m.text rest) := by
  have hcolon : IsPlain colon := by decide
  have hvalue := m.value.balanced.append (m.afterValue.balanced.append h)
  have htail := m.beforeColon.balanced.append (.plain hcolon (m.afterColon.balanced.append hvalue))
  exact m.beforeKey.balanced.append (.string m.key.property htail)

theorem balanced_moreMembers (members : List Member) : Balanced (moreMembers members []) := by
  induction members with
  | nil => exact .nil
  | cons m members ih => exact .plain (by decide) (m.balanced ih)

theorem Object.balanced_inner (o : Object) : Balanced o.inner := by
  apply o.blank.balanced.append
  rcases o.members with - | ⟨m, members⟩
  · exact .nil
  · exact m.balanced (balanced_moreMembers members)

/-- An object is a value: it can stand in another one. -/
def Object.toValue (o : Object) : Value := .object ⟨o.inner, o.balanced_inner⟩

theorem Object.text_toValue (o : Object) : o.toValue.text = o.text := rfl

/-- A value begins with a byte that is neither a blank nor a colon. -/
theorem Value.text_cons (value : Value) :
    ∃ b q, value.text = b :: q ∧ ¬ IsBlank b ∧ b ≠ colon := by
  cases value with
  | token bytes =>
      obtain ⟨b, q, hbytes⟩ := List.exists_cons_of_ne_nil bytes.property.1
      have hb := bytes.property.2 b (by rw [hbytes]; exact List.mem_cons_self)
      exact ⟨b, q, hbytes, hb.2.1, hb.2.2.2⟩
  | string body => exact ⟨_, _, rfl, by decide, by decide⟩
  | object inner => exact ⟨_, _, rfl, by decide, by decide⟩
  | array inner => exact ⟨_, _, rfl, by decide, by decide⟩

/-! ### Scans -/

/-- Where a scan is: outside of strings, in one, or behind a backslash in one. -/
inductive Place where
  | outside
  | inside
  | escaped
  deriving DecidableEq

variable {σ : Type*}

/-- Goes over the bytes outside of strings, until `step` stops at one: what begins there. -/
def scan (step : σ → UInt8 → Option σ) : Place → σ → List UInt8 → Option (List UInt8)
  | _, _, [] => none
  | .escaped, s, _ :: p => scan step .inside s p
  | .inside, s, b :: p =>
      scan step (if b = backslash then .escaped else if b = quote then .outside else .inside) s p
  | .outside, s, b :: p =>
      if b = quote then scan step .inside s p
      else
        match step s b with
        | none => some (b :: p)
        | some s => scan step .outside s p

variable {step : σ → UInt8 → Option σ} {s : σ}

@[simp] theorem scan_nil (place : Place) : scan step place s [] = none := by
  cases place <;> rfl

theorem scan_next {b : UInt8} {s' : σ} (hb : b ≠ quote) (h : step s b = some s')
    (p : List UInt8) : scan step .outside s (b :: p) = scan step .outside s' p := by
  rw [scan, if_neg hb, h]

theorem scan_stop {b : UInt8} (hb : b ≠ quote) (h : step s b = none) (p : List UInt8) :
    scan step .outside s (b :: p) = some (b :: p) := by
  rw [scan, if_neg hb, h]

/-- A string is stepped over. -/
theorem scan_body {body : List UInt8} (h : StringBody body) (p : List UInt8) :
    scan step .inside s (body ++ quote :: p) = scan step .outside s p := by
  induction h with
  | nil => rfl
  | plain hquote hbackslash _ ih =>
      rw [List.cons_append, scan, if_neg hbackslash, if_neg hquote]
      exact ih
  | escaped _ ih =>
      rw [List.cons_append, scan, if_pos rfl, List.cons_append, scan]
      exact ih

theorem scan_string {body : List UInt8} (h : StringBody body) (p : List UInt8) :
    scan step .outside s (quote :: (body ++ quote :: p)) = scan step .outside s p := by
  rw [scan, if_pos rfl, scan_body h]

/-- From these states a scan does not stop within brackets, and a closing bracket brings it
back to where it was before the opening one. -/
structure Nests (step : σ → UInt8 → Option σ) (Calm : σ → Prop) : Prop where
  plain : ∀ {s b}, Calm s → IsPlain b → step s b = some s
  brace : ∀ {s}, Calm s → ∃ s', Calm s' ∧ step s openBrace = some s' ∧ step s' closeBrace = some s
  bracket : ∀ {s}, Calm s →
    ∃ s', Calm s' ∧ step s openBracket = some s' ∧ step s' closeBracket = some s

/-- A scan that nests passes a balanced text. -/
theorem scan_balanced {Calm : σ → Prop} (hstep : Nests step Calm) {text : List UInt8}
    (h : Balanced text) : ∀ {s}, Calm s → ∀ p,
      scan step .outside s (text ++ p) = scan step .outside s p := by
  induction h with
  | nil => exact fun _ p => rfl
  | plain hb _ ih =>
      intro s hs p
      rw [List.cons_append, scan_next hb.1 (hstep.plain hs hb)]
      exact ih hs p
  | string hbody _ ih =>
      intro s hs p
      rw [List.cons_append, List.append_assoc, List.cons_append, scan_string hbody]
      exact ih hs p
  | object hinner _ ihinner ih =>
      intro s hs p
      obtain ⟨s', hs', hopen, hclose⟩ := hstep.brace hs
      rw [List.cons_append, List.append_assoc, List.cons_append,
        scan_next (by decide) hopen, ihinner hs', scan_next (by decide) hclose]
      exact ih hs p
  | array hinner _ ihinner ih =>
      intro s hs p
      obtain ⟨s', hs', hopen, hclose⟩ := hstep.bracket hs
      rw [List.cons_append, List.append_assoc, List.cons_append,
        scan_next (by decide) hopen, ihinner hs', scan_next (by decide) hclose]
      exact ih hs p

/-- A scan that lets blanks pass passes a text of them. -/
theorem scan_blank (h : ∀ b, IsBlank b → step s b = some s) (blank : Blank) (p : List UInt8) :
    scan step .outside s (blank.val ++ p) = scan step .outside s p := by
  obtain ⟨bytes, hbytes⟩ := blank
  induction bytes with
  | nil => rfl
  | cons b bytes ih =>
      have hb := hbytes b List.mem_cons_self
      rw [List.cons_append, scan_next hb.isPlain.1 (h b hb)]
      exact ih fun b' hb' => hbytes b' (List.mem_cons_of_mem b hb')

end Json
