/-
QsoRipper/Win32/JsonParser.lean

`json_parser.c`: how the Win32 client takes single values, and the elements of an array,
out of a JSON text without parsing it.

A pointer into a text is what is left of the text there, up to its null byte.  The parser
finds what stands in the text: `jsonGetString_object`, `jsonArrayNth_array`,
`jsonExtractObject_object`.
-/
import QsoRipper.Lib.JsonText
import QsoRipper.Win32.Form

namespace QsoRipper.Win32

open Json

/-! ### Skipping -/

/-- `is_json_ws`. -/
def isJsonWs (c : UInt8) : Bool := c = 32 || c = 9 || c = 13 || c = 10

def skipWs (p : CString) : CString := p.dropWhile isJsonWs

/-- Up to the quote that closes a string: `\\` takes the byte behind it along. -/
def closingQuote : CString → CString
  | [] => []
  | b :: p =>
      if b = quote then b :: p
      else if b = backslash then
        match p with
        | [] => []
        | _ :: p => closingQuote p
      else closingQuote p

/-- `skip_string`. -/
def skipString : CString → CString
  | [] => []
  | b :: p => if b = quote then (closingQuote p).drop 1 else b :: p

/-- What a byte outside of strings does to `depth`: nothing is left when the loop breaks. -/
def countDepth (opener closer : UInt8) (depth : ℤ) (b : UInt8) : Option ℤ :=
  if b = opener then some (depth + 1)
  else if b = closer then if depth - 1 = 0 then none else some (depth - 1)
  else some depth

/-- `skip_container`. -/
def skipContainer : CString → CString
  | [] => []
  | b :: p =>
      if b = openBrace ∨ b = openBracket then
        ((scan (countDepth b (if b = openBrace then closeBrace else closeBracket)) .outside 0
          (b :: p)).map (·.drop 1)).getD []
      else b :: p

/-- The bytes that end a bare value. -/
def endsScalar (c : UInt8) : Bool := c = comma || c = closeBrace || c = closeBracket

/-- `skip_scalar`. -/
def skipScalar (p : CString) : CString := p.dropWhile fun c => !endsScalar c

/-! ### The value of a key -/

/-- The value, where the text goes on with the pattern and a colon. -/
def valueBehind (pattern p : CString) : Option CString :=
  if pattern.isPrefixOf p then
    match skipWs (p.drop pattern.length) with
    | [] => none
    | b :: after => if b = colon then some (skipWs after) else none
  else none

def skipColon : CString → CString
  | [] => []
  | b :: p => if b = colon then p else b :: p

/-- A value of any kind. -/
def skipValue : CString → CString
  | [] => []
  | b :: p =>
      if b = quote then skipString (b :: p)
      else if b = openBrace ∨ b = openBracket then skipContainer (b :: p)
      else skipScalar (b :: p)

/-- A key, its colon and its value. -/
def skipMember (p : CString) : CString := skipValue (skipWs (skipColon (skipWs (skipString p))))

theorem length_skipWs_le (p : CString) : (skipWs p).length ≤ p.length :=
  (List.dropWhile_suffix _).length_le

theorem length_closingQuote_le (p : CString) : (closingQuote p).length ≤ p.length := by
  fun_induction closingQuote p with
  | case1 => exact Nat.le_refl _
  | case2 => exact Nat.le_refl _
  | case3 => exact Nat.zero_le _
  | case4 _ _ _ ih =>
      simp only [List.length_cons]
      omega
  | case5 _ _ _ _ ih =>
      simp only [List.length_cons]
      omega

theorem length_skipString_le (p : CString) : (skipString p).length ≤ p.length := by
  rcases p with - | ⟨b, p⟩
  · exact Nat.le_refl _
  · rw [skipString]
    split
    · have h := length_closingQuote_le p
      simp only [List.length_drop, List.length_cons]
      omega
    · exact Nat.le_refl _

theorem length_skipString_lt {b : UInt8} (hb : b = quote) (p : CString) :
    (skipString (b :: p)).length < (b :: p).length := by
  have h := length_closingQuote_le p
  rw [skipString, if_pos hb]
  simp only [List.length_drop, List.length_cons]
  omega

theorem length_scan_le {σ : Type*} {step : σ → UInt8 → Option σ} {place : Place} {s : σ}
    {p q : CString} (h : scan step place s p = some q) : q.length ≤ p.length := by
  induction p generalizing place s with
  | nil => rw [scan_nil] at h; cases h
  | cons b p ih =>
      cases place with
      | outside =>
          rw [scan] at h
          split at h
          · exact (ih h).trans (Nat.le_succ _)
          · split at h
            · exact (congrArg List.length (Option.some.inj h)).ge
            · exact (ih h).trans (Nat.le_succ _)
      | inside => exact (ih h).trans (Nat.le_succ _)
      | escaped => exact (ih h).trans (Nat.le_succ _)

theorem length_skipContainer_le (p : CString) : (skipContainer p).length ≤ p.length := by
  rcases p with - | ⟨b, p⟩
  · exact Nat.le_refl _
  rw [skipContainer]
  split
  · cases h : scan (countDepth b (if b = openBrace then closeBrace else closeBracket)) .outside 0
      (b :: p) with
    | none => exact Nat.zero_le _
    | some q =>
        have hq := length_scan_le h
        simp only [Option.map_some, Option.getD_some, List.length_drop]
        omega
  · exact Nat.le_refl _

theorem length_skipValue_le (p : CString) : (skipValue p).length ≤ p.length := by
  rcases p with - | ⟨b, p⟩
  · exact Nat.le_refl _
  rw [skipValue]
  split
  · exact length_skipString_le _
  · split
    · exact length_skipContainer_le _
    · exact (List.dropWhile_suffix _).length_le

theorem length_skipColon_le (p : CString) : (skipColon p).length ≤ p.length := by
  rcases p with - | ⟨b, p⟩
  · exact Nat.le_refl _
  rw [skipColon]
  split
  · exact Nat.le_succ _
  · exact Nat.le_refl _

/-- A member takes at least its quote, so the loop over the members ends. -/
theorem length_skipMember_lt {b : UInt8} (hb : b = quote) (p : CString) :
    (skipMember (b :: p)).length < (b :: p).length := by
  have hkey := length_skipString_lt hb p
  have hcolon := length_skipColon_le (skipWs (skipString (b :: p)))
  have hbefore := length_skipWs_le (skipString (b :: p))
  have hafter := length_skipWs_le (skipColon (skipWs (skipString (b :: p))))
  have hvalue := length_skipValue_le (skipWs (skipColon (skipWs (skipString (b :: p)))))
  rw [skipMember]
  omega

/-- The loop of `find_value_start`. -/
def findMember (pattern p : CString) : Option CString :=
  match _h : skipWs p with
  | [] => none
  | b :: q =>
      if b = closeBrace then none
      else if _hquote : b = quote then
        (valueBehind pattern (b :: q)).or (findMember pattern (skipMember (b :: q)))
      else -- a comma, or a byte that no member begins with
        findMember pattern q
termination_by p.length
decreasing_by
  · have hle := length_skipWs_le p
    rw [_h] at hle
    exact (length_skipMember_lt _hquote q).trans_le hle
  · have hle := length_skipWs_le p
    rw [_h] at hle
    exact hle

/-- `find_value_start`. -/
def findValueStart (json key : CString) : Option CString :=
  match skipWs json with
  | [] => none
  | b :: p => if b = openBrace then findMember (quote :: (key ++ [quote])) p else none

/-- A bare value: what stands before the byte that ends it, without blanks at its end. -/
def bareValue (p : CString) : CString :=
  (p.takeWhile fun c => !(endsScalar c || c = 10)).rdropWhile fun c => c = 32 || c = 13

/-- The text of a value. -/
def valueText : CString → CString
  | [] => []
  | b :: p => if b = quote then p.take (p.length - (closingQuote p).length) else bareValue (b :: p)

/-- `json_get_string`. -/
def jsonGetString (json key : CString) : Option CString := (findValueStart json key).map valueText

/-! ### Elements of an array -/

/-- What a byte outside of strings does to `depth` and `idx`. -/
def countItems (n : ℤ) : ℤ × ℤ → UInt8 → Option (ℤ × ℤ)
  | (depth, idx), b =>
      if b = openBrace then if depth = 0 ∧ idx = n then none else some (depth + 1, idx)
      else if b = closeBrace then some (depth - 1, idx)
      else if b = comma ∧ depth = 0 then some (depth, idx + 1)
      else if b = closeBracket ∧ depth = 0 then none
      else some (depth, idx)

/-- `json_array_nth`. -/
def jsonArrayNth (json : CString) (n : ℤ) : Option CString :=
  match json.dropWhile fun c => c ≠ openBracket with
  | [] => none
  | _ :: p => (scan (countItems n) .outside (0, 0) p).filter fun q => q.head? = some openBrace

/-- `json_extract_object`: the depth is zero where the loop breaks and nowhere else. -/
def jsonExtractObject : CString → Option CString
  | [] => none
  | b :: p =>
      if b = openBrace then
        (scan (countDepth openBrace closeBrace) .outside 0 (b :: p)).map fun q =>
          (b :: p).take ((b :: p).length - q.length + 1)
      else none

/-! ### Skipping what stands in a text -/

theorem isJsonWs_iff {c : UInt8} : isJsonWs c = true ↔ IsBlank c := by
  simp [isJsonWs, IsBlank, or_assoc]

theorem skipWs_blank (blank : Blank) (p : CString) : skipWs (blank.val ++ p) = skipWs p := by
  apply List.dropWhile_append_of_pos
  intro b hb
  exact isJsonWs_iff.mpr (blank.property b hb)

theorem skipWs_cons {b : UInt8} (hb : ¬ IsBlank b) (p : CString) : skipWs (b :: p) = b :: p := by
  apply List.dropWhile_cons_of_neg
  rw [isJsonWs_iff]
  exact hb

theorem closingQuote_body {body : CString} (h : StringBody body) (p : CString) :
    closingQuote (body ++ quote :: p) = quote :: p := by
  induction h with
  | nil => rw [List.nil_append, closingQuote.eq_def]; rfl
  | plain hquote hbackslash _ ih =>
      rw [List.cons_append, closingQuote.eq_def]
      simp only [if_neg hquote, if_neg hbackslash]
      exact ih
  | escaped _ ih =>
      rw [List.cons_append, List.cons_append, closingQuote.eq_def]
      exact ih

theorem skipString_body {body : CString} (h : StringBody body) (p : CString) :
    skipString (quote :: (body ++ quote :: p)) = p := by
  rw [skipString, if_pos rfl, closingQuote_body h]
  rfl

theorem nests_braces : Nests (countDepth openBrace closeBrace) (1 ≤ ·) where
  plain _ hb := by rw [countDepth, if_neg hb.2.1, if_neg hb.2.2.1]
  brace {depth} hdepth := by
    refine ⟨depth + 1, by omega, rfl, ?_⟩
    rw [countDepth, if_neg (by decide), if_pos rfl, if_neg (by omega)]
    simp
  bracket {depth} hdepth := ⟨depth, hdepth, rfl, rfl⟩

theorem nests_brackets : Nests (countDepth openBracket closeBracket) (1 ≤ ·) where
  plain _ hb := by rw [countDepth, if_neg hb.2.2.2.1, if_neg hb.2.2.2.2]
  brace {depth} hdepth := ⟨depth, hdepth, rfl, rfl⟩
  bracket {depth} hdepth := by
    refine ⟨depth + 1, by omega, rfl, ?_⟩
    rw [countDepth, if_neg (by decide), if_pos rfl, if_neg (by omega)]
    simp

/-- The loop that counts one kind of bracket breaks at the one that closes the first. -/
theorem scan_container {opener closer : UInt8} (hnests : Nests (countDepth opener closer) (1 ≤ ·))
    (hopener : opener ≠ quote) (hcloser : closer ≠ quote) (hne : closer ≠ opener) (inner : Inner)
    (p : CString) :
    scan (countDepth opener closer) .outside 0 (opener :: (inner.val ++ closer :: p))
      = some (closer :: p) := by
  have hopen : countDepth opener closer 0 opener = some 1 := by
    rw [countDepth, if_pos rfl]
    rfl
  have hclose : countDepth opener closer 1 closer = none := by
    rw [countDepth, if_neg hne, if_pos rfl]
    rfl
  rw [scan_next hopener hopen, scan_balanced hnests inner.property (le_refl 1),
    scan_stop hcloser hclose]

theorem skipContainer_object (inner : Inner) (p : CString) :
    skipContainer (openBrace :: (inner.val ++ closeBrace :: p)) = p := by
  have h := scan_container nests_braces (by decide) (by decide) (by decide) inner p
  rw [skipContainer, if_pos (.inl rfl), if_pos rfl, h]
  rfl

theorem skipContainer_array (inner : Inner) (p : CString) :
    skipContainer (openBracket :: (inner.val ++ closeBracket :: p)) = p := by
  have h := scan_container nests_brackets (by decide) (by decide) (by decide) inner p
  rw [skipContainer, if_pos (.inr rfl), if_neg (by decide), h]
  rfl

/-- What stands behind a member: the comma before the next one, or the brace of the object. -/
def Ends (p : CString) : Prop := ∃ b q, p = b :: q ∧ (b = comma ∨ b = closeBrace)

theorem ends_moreMembers (members : List Member) (rest : CString) :
    Ends (moreMembers members (closeBrace :: rest)) := by
  cases members with
  | nil => exact ⟨_, _, rfl, .inr rfl⟩
  | cons m members => exact ⟨_, _, rfl, .inl rfl⟩

theorem not_endsScalar_of_bare {b : UInt8} (h : IsBare b) : endsScalar b = false := by
  simp [endsScalar, h.2.2.1, h.1.2.2.1, h.1.2.2.2.2]

theorem not_endsScalar_of_blank {b : UInt8} (h : IsBlank b) : endsScalar b = false := by
  rcases h with rfl | rfl | rfl | rfl <;> rfl

theorem skipScalar_token (bytes : Token) (after : Blank) {rest : CString} (h : Ends rest) :
    skipScalar (bytes.val ++ (after.val ++ rest)) = rest := by
  have hpass : ∀ b ∈ bytes.val ++ after.val, (!endsScalar b) = true := by
    intro b hb
    rcases List.mem_append.mp hb with hbare | hblank
    · rw [not_endsScalar_of_bare (bytes.property.2 b hbare)]
      rfl
    · rw [not_endsScalar_of_blank (after.property b hblank)]
      rfl
  obtain ⟨b, q, rfl, hb⟩ := h
  rw [skipScalar, ← List.append_assoc, List.dropWhile_append_of_pos hpass,
    List.dropWhile_cons_of_neg]
  rcases hb with rfl | rfl <;> decide

/-- A value is skipped, with the blanks behind it or without them. -/
theorem skipWs_skipValue (value : Value) (after : Blank) {rest : CString} (h : Ends rest) :
    skipWs (skipValue (value.text ++ (after.val ++ rest))) = skipWs rest := by
  cases value with
  | token bytes =>
      obtain ⟨b, q, hbytes⟩ := List.exists_cons_of_ne_nil bytes.property.1
      have hb := bytes.property.2 b (by rw [hbytes]; exact List.mem_cons_self)
      have hskip := skipScalar_token bytes after h
      rw [hbytes, List.cons_append] at hskip
      show skipWs (skipValue (bytes.val ++ _)) = _
      rw [hbytes, List.cons_append, skipValue, if_neg hb.1.1, if_neg, hskip]
      rintro (hno | hno)
      · exact hb.1.2.1 hno
      · exact hb.1.2.2.2.1 hno
  | string body =>
      have hskip := skipString_body body.property (after.val ++ rest)
      show skipWs (skipValue (quote :: (body.val ++ [quote]) ++ _)) = _
      rw [List.cons_append, List.append_assoc, skipValue, if_pos rfl]
      exact (congrArg skipWs hskip).trans (skipWs_blank after rest)
  | object inner =>
      have hskip := skipContainer_object inner (after.val ++ rest)
      show skipWs (skipValue (openBrace :: (inner.val ++ [closeBrace]) ++ _)) = _
      rw [List.cons_append, List.append_assoc, skipValue, if_neg (by decide), if_pos (.inl rfl)]
      exact (congrArg skipWs hskip).trans (skipWs_blank after rest)
  | array inner =>
      have hskip := skipContainer_array inner (after.val ++ rest)
      show skipWs (skipValue (openBracket :: (inner.val ++ [closeBracket]) ++ _)) = _
      rw [List.cons_append, List.append_assoc, skipValue, if_neg (by decide), if_pos (.inr rfl)]
      exact (congrArg skipWs hskip).trans (skipWs_blank after rest)

/-- The value of a member, behind the blanks and the colon that lead to it. -/
theorem skipWs_value (m : Member) (rest : CString) :
    skipWs (m.afterColon.val ++ (m.value.text ++ (m.afterValue.val ++ rest)))
      = m.value.text ++ (m.afterValue.val ++ rest) := by
  obtain ⟨b, q, htext, hb, -⟩ := m.value.text_cons
  rw [skipWs_blank, htext, List.cons_append, skipWs_cons hb]

theorem skipMember_text (m : Member) {rest : CString} (h : Ends rest) :
    skipWs (skipMember (quote :: (m.key.val ++ quote :: m.tail rest))) = skipWs rest := by
  have hcolon : skipColon (skipWs (m.tail rest))
      = m.afterColon.val ++ (m.value.text ++ (m.afterValue.val ++ rest)) := by
    rw [Member.tail, skipWs_blank, skipWs_cons (by decide), skipColon, if_pos rfl]
  rw [skipMember, skipString_body m.key.property, hcolon, skipWs_value, skipWs_skipValue _ _ h]

/-! ### The value of a key is found -/

section FindMember

variable {pattern p q : CString}

theorem findMember_stop (h : skipWs p = closeBrace :: q) : findMember pattern p = none := by
  rw [findMember]
  split
  · rfl
  · rename_i b q' heq
    rw [h] at heq
    rw [if_pos (List.cons.inj heq).1.symm]

theorem findMember_quote (h : skipWs p = quote :: q) :
    findMember pattern p
      = (valueBehind pattern (quote :: q)).or (findMember pattern (skipMember (quote :: q))) := by
  rw [findMember]
  split
  · rename_i heq
    rw [h] at heq
    cases heq
  · rename_i b q' heq
    rw [h] at heq
    obtain ⟨rfl, rfl⟩ := List.cons.inj heq
    rw [if_neg (by decide), dif_pos rfl]

theorem findMember_other {b : UInt8} (h : skipWs p = b :: q) (hbrace : b ≠ closeBrace)
    (hquote : b ≠ quote) : findMember pattern p = findMember pattern q := by
  rw [findMember]
  split
  · rename_i heq
    rw [h] at heq
    cases heq
  · rename_i b' q' heq
    rw [h] at heq
    obtain ⟨rfl, rfl⟩ := List.cons.inj heq
    rw [if_neg hbrace, dif_neg hquote]

theorem findMember_congr (h : skipWs p = skipWs q) : findMember pattern p = findMember pattern q := by
  cases hq : skipWs q with
  | nil =>
      rw [findMember, findMember]
      split
      · split
        · rfl
        · rename_i heq
          rw [hq] at heq
          cases heq
      · rename_i heq
        rw [h, hq] at heq
        cases heq
  | cons b rest =>
      have hp : skipWs p = b :: rest := h.trans hq
      by_cases hbrace : b = closeBrace
      · subst hbrace
        rw [findMember_stop hp, findMember_stop hq]
      · by_cases hquote : b = quote
        · subst hquote
          rw [findMember_quote hp, findMember_quote hq]
        · rw [findMember_other hp hbrace hquote, findMember_other hq hbrace hquote]

end FindMember

theorem valueBehind_key (m : Member) (rest : CString) :
    valueBehind (quote :: (m.key.val ++ [quote])) (quote :: (m.key.val ++ quote :: m.tail rest))
      = some (m.value.text ++ (m.afterValue.val ++ rest)) := by
  have hsplit : quote :: (m.key.val ++ quote :: m.tail rest)
      = (quote :: (m.key.val ++ [quote])) ++ m.tail rest := by simp
  have hcolon : skipWs (m.tail rest)
      = colon :: (m.afterColon.val ++ (m.value.text ++ (m.afterValue.val ++ rest))) := by
    rw [Member.tail, skipWs_blank, skipWs_cons (by decide)]
  rw [valueBehind, hsplit, if_pos (List.isPrefixOf_iff_prefix.mpr (List.prefix_append _ _)),
    List.drop_left, hcolon]
  simp only [if_true, skipWs_value]

theorem valueBehind_other {m : Member} {key : Body} (h : m.key ≠ key) (rest : CString) :
    valueBehind (quote :: (key.val ++ [quote])) (quote :: (m.key.val ++ quote :: m.tail rest))
      = none := by
  rw [valueBehind, if_neg]
  intro hprefix
  obtain ⟨behind, hbehind⟩ := List.isPrefixOf_iff_prefix.mp hprefix
  have heq : key.val ++ quote :: behind = m.key.val ++ quote :: m.tail rest := by
    simpa using hbehind
  exact h (Subtype.ext (key.property.unique m.key.property heq).1.symm)

/-- The value of the first of the members that has the key, with what stands behind it. -/
def valueIn (key : Body) : List Member → CString → Option CString
  | [], _ => none
  | m :: members, rest =>
      if m.key = key then
        some (m.value.text ++ (m.afterValue.val ++ moreMembers members (closeBrace :: rest)))
      else valueIn key members rest

theorem findMember_member (key : Body) (m : Member) {rest : CString} (h : Ends rest) :
    findMember (quote :: (key.val ++ [quote])) (m.text rest)
      = if m.key = key then some (m.value.text ++ (m.afterValue.val ++ rest))
        else findMember (quote :: (key.val ++ [quote])) rest := by
  have hquote : skipWs (m.text rest) = quote :: (m.key.val ++ quote :: m.tail rest) := by
    rw [Member.text, skipWs_blank, skipWs_cons (by decide)]
  rw [findMember_quote hquote]
  split
  · rename_i hkey
    rw [← hkey, valueBehind_key, Option.some_or]
  · rename_i hkey
    rw [valueBehind_other hkey, Option.none_or]
    exact findMember_congr (skipMember_text m h)

theorem findMember_more (key : Body) (members : List Member) (rest : CString) :
    findMember (quote :: (key.val ++ [quote])) (moreMembers members (closeBrace :: rest))
      = valueIn key members rest := by
  induction members with
  | nil => exact findMember_stop (skipWs_cons (by decide) rest)
  | cons m members ih =>
      have hcomma : skipWs (moreMembers (m :: members) (closeBrace :: rest))
          = comma :: m.text (moreMembers members (closeBrace :: rest)) :=
        skipWs_cons (by decide) _
      rw [findMember_other hcomma (by decide) (by decide),
        findMember_member key m (ends_moreMembers members rest), ih]
      rfl

/-- The value of a key is looked for among the members of the object and nowhere else. -/
theorem findValueStart_object (lead : Blank) (o : Object) (rest : CString) (key : Body) :
    findValueStart (lead.val ++ (o.text ++ rest)) key.val = valueIn key o.members rest := by
  rw [o.text_append, findValueStart, skipWs_blank, skipWs_cons (by decide)]
  simp only [if_true]
  rw [findMember_congr (skipWs_blank o.blank _)]
  rcases o.members with - | ⟨m, members⟩
  · exact findMember_stop (skipWs_cons (by decide) rest)
  · exact findMember_member key m (ends_moreMembers members rest) |>.trans
      (by rw [findMember_more]; rfl)

/-! ### Its text -/

/-- What a bare value keeps of the blanks behind it: they end at a line feed, and spaces and
carriage returns at their end are dropped. -/
def trailing (blank : CString) : CString :=
  (blank.takeWhile fun c => c ≠ 10).rdropWhile fun c => c = 32 || c = 13

/-- What is read of a member's value. -/
def shown (m : Member) : CString :=
  match m.value with
  | .string body => body.val
  | .token bytes => bytes.val ++ trailing m.afterValue.val
  | .object inner => bareValue (openBrace :: (inner.val ++ [closeBrace]))
  | .array inner => bareValue (openBracket :: (inner.val ++ [closeBracket]))

/-- The text of a bare value is the value, unless a tab stands behind it in its line. -/
theorem trailing_eq_nil_iff (blank : Blank) :
    trailing blank.val = [] ↔ 9 ∉ blank.val.takeWhile fun c => c ≠ 10 := by
  rw [trailing, List.rdropWhile_eq_nil_iff]
  constructor
  · intro h htab
    exact absurd (h 9 htab) (by decide)
  · intro h c hc
    have hne : c ≠ 10 := by simpa using List.mem_takeWhile_imp hc
    rcases blank.property c (List.takeWhile_subset _ hc) with rfl | rfl | rfl | rfl
    · rfl
    · exact absurd hc h
    · rfl
    · exact absurd rfl hne

theorem rdropWhile_append_last {p : UInt8 → Bool} (xs : CString) {b : UInt8} (hb : p b = false)
    (ys : CString) : (xs ++ [b] ++ ys).rdropWhile p = xs ++ [b] ++ ys.rdropWhile p := by
  have hlast : (b :: xs.reverse).dropWhile p = b :: xs.reverse :=
    List.dropWhile_cons_of_neg (by simp [hb])
  rw [List.rdropWhile, List.rdropWhile, List.reverse_append, List.reverse_append,
    List.reverse_singleton, List.singleton_append, List.dropWhile_append]
  split
  · rename_i hempty
    rw [List.isEmpty_iff.mp hempty, hlast]
    simp
  · simp

theorem takeWhile_blank (after : Blank) {rest : CString} (h : Ends rest) :
    (after.val ++ rest).takeWhile (fun c => !(endsScalar c || c = 10))
      = after.val.takeWhile fun c => c ≠ 10 := by
  obtain ⟨bytes, hbytes⟩ := after
  induction bytes with
  | nil =>
      obtain ⟨b, q, rfl, rfl | rfl⟩ := h
      · rfl
      · rfl
  | cons b bytes ih =>
      have hends := not_endsScalar_of_blank (hbytes b List.mem_cons_self)
      have htail := ih fun b' hb' => hbytes b' (List.mem_cons_of_mem b hb')
      show (b :: (bytes ++ rest)).takeWhile _ = (b :: bytes).takeWhile _
      rw [List.takeWhile_cons, List.takeWhile_cons, htail, hends]
      simp

theorem bareValue_token (bytes : Token) (after : Blank) {rest : CString} (h : Ends rest) :
    bareValue (bytes.val ++ (after.val ++ rest)) = bytes.val ++ trailing after.val := by
  have hpass : ∀ b ∈ bytes.val, (!(endsScalar b || b = 10)) = true := by
    intro b hb
    have hbare := bytes.property.2 b hb
    rw [not_endsScalar_of_bare hbare, Bool.false_or, Bool.not_eq_true', decide_eq_false_iff_not]
    rintro rfl
    exact hbare.2.1 (.inr (.inr (.inr rfl)))
  rw [bareValue, List.takeWhile_append_of_pos hpass, takeWhile_blank after h]
  -- the last byte of the token is no blank, so nothing of the token is dropped
  have hlast := bytes.property.2 _ (List.getLast_mem bytes.property.1)
  have hkept : (bytes.val.getLast bytes.property.1 = 32
      || bytes.val.getLast bytes.property.1 = 13) = false := by
    rw [Bool.or_eq_false_iff, decide_eq_false_iff_not, decide_eq_false_iff_not]
    exact ⟨fun hno => hlast.2.1 (.inl hno), fun hno => hlast.2.1 (.inr (.inr (.inl hno)))⟩
  have hdrop := rdropWhile_append_last (p := fun c => c = 32 || c = 13) bytes.val.dropLast hkept
    (after.val.takeWhile fun c => c ≠ 10)
  rw [List.dropLast_append_getLast] at hdrop
  exact hdrop

/-- A text that has a byte at which a bare value ends is cut there, whatever comes behind. -/
theorem bareValue_append {text : CString} {b : UInt8} (hmem : b ∈ text) (hb : endsScalar b = true)
    (rest : CString) : bareValue (text ++ rest) = bareValue text := by
  have hcut : (text ++ rest).takeWhile (fun c => !(endsScalar c || c = 10))
      = text.takeWhile fun c => !(endsScalar c || c = 10) := by
    rw [List.takeWhile_append, if_neg]
    intro hall
    have heq := (List.takeWhile_prefix fun c => !(endsScalar c || c = 10)).eq_of_length hall
    have hno := List.takeWhile_eq_self_iff.mp heq b hmem
    rw [hb] at hno
    cases hno
  rw [bareValue, bareValue, hcut]

/-- The text that is read of a value is the one that stands there. -/
theorem valueText_member (m : Member) {rest : CString} (h : Ends rest) :
    valueText (m.value.text ++ (m.afterValue.val ++ rest)) = shown m := by
  rw [shown]
  cases m.value with
  | token bytes =>
      obtain ⟨b, q, hbytes⟩ := List.exists_cons_of_ne_nil bytes.property.1
      have hb := bytes.property.2 b (by rw [hbytes]; exact List.mem_cons_self)
      have hread := bareValue_token bytes m.afterValue h
      show valueText (bytes.val ++ _) = bytes.val ++ _
      rw [hbytes, List.cons_append] at hread ⊢
      rw [valueText, if_neg hb.1.1]
      exact hread
  | string body =>
      show valueText (quote :: (body.val ++ [quote]) ++ _) = body.val
      rw [List.cons_append, List.append_assoc, valueText, if_pos rfl]
      show List.take (List.length (body.val ++ quote :: _)
        - (closingQuote (body.val ++ quote :: _)).length) _ = _
      rw [closingQuote_body body.property, List.length_append, Nat.add_sub_cancel,
        List.take_left]
  | object inner =>
      have hmem : closeBrace ∈ openBrace :: (inner.val ++ [closeBrace]) := by simp
      have hcut := bareValue_append hmem rfl (m.afterValue.val ++ rest)
      show valueText (openBrace :: (inner.val ++ [closeBrace]) ++ _) = _
      rw [List.cons_append, valueText, if_neg (by decide)]
      exact hcut
  | array inner =>
      have hmem : closeBracket ∈ openBracket :: (inner.val ++ [closeBracket]) := by simp
      have hcut := bareValue_append hmem rfl (m.afterValue.val ++ rest)
      show valueText (openBracket :: (inner.val ++ [closeBracket]) ++ _) = _
      rw [List.cons_append, valueText, if_neg (by decide)]
      exact hcut

theorem valueText_valueIn (key : Body) (members : List Member) (rest : CString) :
    (valueIn key members rest).map valueText
      = (members.find? fun m => m.key = key).map shown := by
  induction members with
  | nil => rfl
  | cons m members ih =>
      rw [valueIn, List.find?_cons]
      by_cases hkey : m.key = key
      · rw [if_pos hkey, decide_eq_true hkey, Option.map_some,
          valueText_member m (ends_moreMembers members rest)]
        rfl
      · rw [if_neg hkey, decide_eq_false hkey]
        exact ih

/-- What is read for a key is the value of the first member of the object that has it: no
key of a nested object, no element of an array and no text of a string stands in for it, and
nothing is read where no member has the key. -/
theorem jsonGetString_object (lead : Blank) (o : Object) (rest : CString) (key : Body) :
    jsonGetString (lead.val ++ (o.text ++ rest)) key.val
      = (o.members.find? fun m => m.key = key).map shown := by
  rw [jsonGetString, findValueStart_object, valueText_valueIn]

/-! ### The elements of an array are found -/

theorem nests_items (n : ℤ) : Nests (countItems n) (fun s => 1 ≤ s.1) where
  plain {s b} hs hb := by
    have hdepth : s.1 ≠ 0 := by omega
    rw [countItems, if_neg hb.2.1, if_neg hb.2.2.1, if_neg (fun hno => hdepth hno.2),
      if_neg (fun hno => hdepth hno.2)]
  brace {s} hs := by
    have hdepth : s.1 ≠ 0 := by omega
    refine ⟨(s.1 + 1, s.2), ?_, ?_, ?_⟩
    · dsimp only
      omega
    · rw [countItems, if_pos rfl, if_neg (fun hno => hdepth hno.1)]
    · rw [countItems, if_neg (by decide), if_pos rfl, add_sub_cancel_right]
  bracket {s} hs := by
    have hdepth : s.1 ≠ 0 := by omega
    refine ⟨s, hs, rfl, ?_⟩
    rw [countItems, if_neg (by decide), if_neg (by decide), if_neg (fun hno => hdepth hno.2),
      if_neg (fun hno => hdepth hno.2)]

theorem countItems_blank (n : ℤ) (s : ℤ × ℤ) {b : UInt8} (h : IsBlank b) :
    countItems n s b = some s := by
  rcases h with rfl | rfl | rfl | rfl <;> rfl

/-- The element with an index, with what stands behind it. -/
def itemFrom : List Item → ℤ → CString → Option CString
  | [], _, _ => none
  | i :: items, n, rest =>
      if n = 0 then
        some (i.object.text ++ (i.after.val ++ moreItems items (closeBracket :: rest)))
      else itemFrom items (n - 1) rest

/-- One element: it is the one that is looked for, or it is passed. -/
theorem scan_item (n idx : ℤ) (i : Item) (p : CString) :
    scan (countItems n) .outside (0, idx) (i.text p)
      = if n = idx then some (i.object.text ++ (i.after.val ++ p))
        else scan (countItems n) .outside (0, idx) p := by
  have hblank {b : UInt8} (s : ℤ × ℤ) (hb : IsBlank b) := countItems_blank n s hb
  rw [Item.text, scan_blank (fun _ hb => hblank _ hb), Object.text, List.cons_append]
  by_cases hn : n = idx
  · have hstop : countItems n (0, idx) openBrace = none := by
      rw [countItems, if_pos rfl, if_pos ⟨rfl, hn.symm⟩]
    rw [if_pos hn, scan_stop (by decide) hstop]
  · have hopen : countItems n (0, idx) openBrace = some (1, idx) := by
      rw [countItems, if_pos rfl, if_neg (fun hno => hn hno.2.symm)]
      rfl
    have hclose : countItems n (1, idx) closeBrace = some (0, idx) := rfl
    rw [if_neg hn, scan_next (by decide) hopen, List.append_assoc,
      scan_balanced (nests_items n) i.object.balanced_inner (le_refl 1), List.singleton_append,
      scan_next (by decide) hclose, scan_blank (fun _ hb => hblank _ hb)]

theorem scan_end (n idx : ℤ) (rest : CString) :
    scan (countItems n) .outside (0, idx) (closeBracket :: rest)
      = some (closeBracket :: rest) :=
  scan_stop (by decide) rfl rest

theorem scan_items (items : List Item) (n idx : ℤ) (rest : CString) :
    (scan (countItems n) .outside (0, idx) (moreItems items (closeBracket :: rest))).filter
        (fun q => q.head? = some openBrace)
      = itemFrom items (n - idx - 1) rest := by
  induction items generalizing idx with
  | nil =>
      rw [moreItems, scan_end]
      rfl
  | cons i items ih =>
      have hcomma : countItems n (0, idx) comma = some (0, idx + 1) := rfl
      rw [moreItems, scan_next (by decide) hcomma, scan_item, itemFrom]
      by_cases hn : n = idx + 1
      · rw [if_pos hn, if_pos (by omega)]
        rfl
      · rw [if_neg hn, if_neg (by omega), ih]
        congr 1
        omega

/-- `json_array_nth` finds the element with the index, and nothing where the array has none. -/
theorem jsonArrayNth_array (lead : Blank) (a : ObjectArray) (rest : CString) (n : ℤ) :
    jsonArrayNth (lead.val ++ a.text rest) n = itemFrom a.items n rest := by
  have hlead : (lead.val ++ a.text rest).dropWhile (fun c => c ≠ openBracket) = a.text rest := by
    rw [List.dropWhile_append_of_pos]
    · exact List.dropWhile_cons_of_neg (by simp)
    · intro b hb
      have hplain := (lead.property b hb).isPlain
      simpa using hplain.2.2.2.1
  have hblank (s : ℤ × ℤ) (b : UInt8) (hb : IsBlank b) := countItems_blank n s hb
  rw [jsonArrayNth, hlead, ObjectArray.text]
  simp only [scan_blank (hblank _)]
  rcases a.items with - | ⟨i, items⟩
  · rw [itemsText, scan_end]
    rfl
  · rw [itemsText, scan_item, itemFrom]
    by_cases hn : n = 0
    · rw [if_pos hn, if_pos hn]
      rfl
    · rw [if_neg hn, if_neg hn, scan_items, sub_zero]

/-- `json_extract_object` cuts an object out as it stands there. -/
theorem jsonExtractObject_object (o : Object) (rest : CString) :
    jsonExtractObject (o.text ++ rest) = some o.text := by
  have hscan := scan_container nests_braces (by decide) (by decide) (by decide)
    ⟨o.inner, o.balanced_inner⟩ rest
  have htext : o.text ++ rest = openBrace :: (o.inner ++ closeBrace :: rest) := by
    simp [Object.text]
  have hlength : (openBrace :: (o.inner ++ closeBrace :: rest)).length
      - (closeBrace :: rest).length + 1 = o.text.length := by
    simp only [Object.text, List.length_cons, List.length_append, List.length_nil]
    omega
  rw [htext, jsonExtractObject, if_pos rfl, hscan, Option.map_some, hlength, ← htext,
    List.take_left]

end QsoRipper.Win32
