/-
QsoRipper/Wsjtx/Tail.lean

The tail of a WSJT-X log: successive calls of `ingest_wsjtx_adif_tail` read a
growing file, hand what is complete of the part behind their cursor to the
importer, and move the cursor on.

What is handed over does not depend on how the file grew as long as the longest
text that was read is well formed from its first value on.  A byte that is not
UTF-8 anywhere behind the first value hides all records from a call, and records
that an earlier call has handed over by then are what the two ways of reading
differ in.
-/
import QsoRipper.Application.Import
import QsoRipper.Wsjtx.Splitter

namespace QsoRipper.Wsjtx

open Interaction

/-! ### The call -/

/-- What a call asks for. -/
inductive TailCmd where
  | readFile (path : String)
  | ingestAdifPayload (payload : List UInt8)

/-- What it is answered. -/
abbrev TailCmd.Answer : TailCmd → Type
  | readFile _ => Except String (List UInt8)
  | ingestAdifPayload _ => Except String AdifImportSummary

/-- Ask once. -/
def tailAsk (c : TailCmd) : Prog TailCmd TailCmd.Answer c.Answer := Prog.call c

/-- `ingest_wsjtx_adif_tail`: the summary, and the new cursor. -/
def ingestWsjtxAdifTail (path : String) (cursor : ℕ) :
    Prog TailCmd TailCmd.Answer (Except String AdifImportSummary × ℕ) := do
  match ← tailAsk (.readFile path) with
  | .error error => return (.error ("failed to read " ++ path ++ ": " ++ error), cursor)
  | .ok bytes =>
      let start := if bytes.length < cursor then 0 else cursor
      if start = bytes.length then return (.ok {}, start)
      match completeAdifPrefixLen (bytes.drop start) with
      | none => return (.ok {}, start)
      | some completeLen =>
          match ← tailAsk (.ingestAdifPayload ((bytes.drop start).take completeLen)) with
          | .error error => return (.error error, start)
          | .ok summary => return (.ok summary, start + completeLen)

/-- The file reads as `file`, and every import succeeds; what is handed over is
kept. -/
def serveTail (importer : List UInt8 → AdifImportSummary) (file : List UInt8) :
    (c : TailCmd) → List (List UInt8) → c.Answer × List (List UInt8)
  | .readFile _, handed => (.ok file, handed)
  | .ingestAdifPayload payload, handed => (.ok (importer payload), handed ++ [payload])

/-- Successive calls, each of which finds the file as it is by then. -/
def tailCalls (importer : List UInt8 → AdifImportSummary) (path : String) :
    List (List UInt8) → ℕ × List (List UInt8) → ℕ × List (List UInt8)
  | [], s => s
  | file :: files, (cursor, handed) =>
      let o := (ingestWsjtxAdifTail path cursor).run (serveTail importer file) handed
      tailCalls importer path files (o.1.2, o.2)

/-- The bytes that calls from the beginning of the file hand to the importer. -/
def handedOver (importer : List UInt8 → AdifImportSummary) (path : String)
    (files : List (List UInt8)) : List UInt8 :=
  (tailCalls importer path files (0, [])).2.flatten

/-! ### Well-formed text -/

/-- The text is UTF-8 from its first value on. -/
def WellFormed (bytes : List UInt8) : Prop :=
  ∀ c, firstValue bytes = some c → Utf8.Valid (bytes.drop c)

/-- The text is UTF-8 from its first value on, and a record is complete behind
that value. -/
def Completes (bytes : List UInt8) : Prop :=
  ∃ c, firstValue bytes = some c ∧ Utf8.Valid (bytes.drop c) ∧ c < recordsEnd Utf8.skip bytes

/-- Behind a tag of well-formed text the text is well formed. -/
theorem valid_behind_tag {bytes : List UInt8} {size : ℕ} {kind : TagKind}
    (h : Utf8.Valid bytes) (htag : firstTag bytes = some (size, kind)) :
    Utf8.Valid (bytes.drop size) := by
  obtain ⟨before, body, after, rfl, rfl, -⟩ := firstTag_cases htag
  have hbody := (h.cut (by decide)).2
  have hdrop : (before ++ lessThan :: (body ++ greaterThan :: after)).drop
      (before.length + body.length + 2) = after := by
    have hsplit : before ++ lessThan :: (body ++ greaterThan :: after)
        = (before ++ lessThan :: (body ++ [greaterThan])) ++ after := by simp
    rw [hsplit]
    exact List.drop_left' (by simp; omega)
  rw [hdrop]
  exact (hbody.cut (by decide)).2

/-- On well-formed text the code steps over values as it should. -/
theorem recordsEnd_of_valid {bytes : List UInt8} (h : Utf8.Valid bytes) :
    recordsEnd stepDecoded bytes = recordsEnd Utf8.skip bytes := by
  induction bytes using tags_induction with
  | none bytes htag => rw [recordsEnd_none htag, recordsEnd_none htag]
  | endOfRecord bytes size htag ih =>
      rw [recordsEnd_endOfRecord htag, recordsEnd_endOfRecord htag, ih (valid_behind_tag h htag)]
  | other bytes size htag ih =>
      rw [recordsEnd_other htag, recordsEnd_other htag, ih (valid_behind_tag h htag)]
  | field bytes size fieldLen htag ih =>
      have hafter := valid_behind_tag h htag
      have hstep := stepDecoded_of_valid hafter fieldLen
      rcases hvalue : Utf8.skip fieldLen (bytes.drop size) with - | value
      · rw [recordsEnd_stuck htag hvalue, recordsEnd_stuck htag (hstep.trans hvalue)]
      · have hrest := hafter.drop_skip hvalue
        rw [List.drop_drop] at hrest
        rw [recordsEnd_field htag hvalue, recordsEnd_field htag (hstep.trans hvalue),
          ih value hrest]

theorem wellFormed_of_valid {bytes : List UInt8} (h : Utf8.Valid bytes) : WellFormed bytes := by
  induction bytes using tags_induction with
  | none bytes htag =>
      intro c hc
      rw [firstValue_none htag] at hc
      cases hc
  | endOfRecord bytes size htag ih =>
      intro c hc
      rw [firstValue_endOfRecord htag] at hc
      obtain ⟨d, hd, rfl⟩ := Option.map_eq_some_iff.mp hc
      rw [← List.drop_drop]
      exact ih (valid_behind_tag h htag) d hd
  | other bytes size htag ih =>
      intro c hc
      rw [firstValue_other htag] at hc
      obtain ⟨d, hd, rfl⟩ := Option.map_eq_some_iff.mp hc
      rw [← List.drop_drop]
      exact ih (valid_behind_tag h htag) d hd
  | field bytes size fieldLen htag ih =>
      intro c hc
      rw [firstValue_field htag] at hc
      cases hc
      exact valid_behind_tag h htag

/-- Behind a tag that is no field, nothing changes. -/
theorem wellFormed_drop {bytes : List UInt8} {size : ℕ}
    (hvalue : firstValue bytes = (firstValue (bytes.drop size)).map (size + ·)) :
    WellFormed (bytes.drop size) ↔ WellFormed bytes := by
  constructor
  · intro h c hc
    rw [hvalue] at hc
    obtain ⟨d, hd, rfl⟩ := Option.map_eq_some_iff.mp hc
    rw [← List.drop_drop]
    exact h d hd
  · intro h c hc
    rw [List.drop_drop]
    exact h (size + c) (by rw [hvalue, hc]; rfl)

theorem recordsEnd_of_wellFormed {bytes : List UInt8} (h : WellFormed bytes) :
    recordsEnd stepDecoded bytes = recordsEnd Utf8.skip bytes := by
  induction bytes using tags_induction with
  | none bytes htag => rw [recordsEnd_none htag, recordsEnd_none htag]
  | endOfRecord bytes size htag ih =>
      rw [recordsEnd_endOfRecord htag, recordsEnd_endOfRecord htag,
        ih ((wellFormed_drop (firstValue_endOfRecord htag)).mpr h)]
  | other bytes size htag ih =>
      rw [recordsEnd_other htag, recordsEnd_other htag,
        ih ((wellFormed_drop (firstValue_other htag)).mpr h)]
  | field bytes size fieldLen htag _ =>
      have hafter := h size (firstValue_field htag)
      have hstep := stepDecoded_of_valid hafter fieldLen
      rcases hvalue : Utf8.skip fieldLen (bytes.drop size) with - | value
      · rw [recordsEnd_stuck htag hvalue, recordsEnd_stuck htag (hstep.trans hvalue)]
      · have hrest := hafter.drop_skip hvalue
        rw [List.drop_drop] at hrest
        rw [recordsEnd_field htag hvalue, recordsEnd_field htag (hstep.trans hvalue),
          recordsEnd_of_valid hrest]

/-- On other text the code stops at the first value. -/
theorem recordsEnd_of_not_wellFormed {bytes : List UInt8} (h : ¬ WellFormed bytes) :
    recordsEnd stepDecoded bytes = leadEnd bytes := by
  rw [leadEnd]
  induction bytes using tags_induction with
  | none bytes htag => rw [recordsEnd_none htag, recordsEnd_none htag]
  | endOfRecord bytes size htag ih =>
      rw [recordsEnd_endOfRecord htag, recordsEnd_endOfRecord htag,
        ih fun hrest => h ((wellFormed_drop (firstValue_endOfRecord htag)).mp hrest)]
  | other bytes size htag ih =>
      rw [recordsEnd_other htag, recordsEnd_other htag,
        ih fun hrest => h ((wellFormed_drop (firstValue_other htag)).mp hrest)]
  | field bytes size fieldLen htag _ =>
      have hafter : ¬ Utf8.Valid (bytes.drop size) := by
        intro hvalid
        refine h fun c hc => ?_
        rw [firstValue_field htag] at hc
        cases hc
        exact hvalid
      rw [recordsEnd_stuck htag (stepDecoded_of_not_valid hafter fieldLen),
        recordsEnd_stuck htag rfl]

/-! ### What a call finds -/

/-- How much of a text a call hands over. -/
def completeEnd (bytes : List UInt8) : ℕ := recordsEnd stepDecoded bytes

theorem completeEnd_le_length (bytes : List UInt8) : completeEnd bytes ≤ bytes.length :=
  recordsEnd_le (fun h => Utf8.skip_le (skip_of_stepDecoded h)) bytes

theorem leadEnd_le_completeEnd (bytes : List UInt8) : leadEnd bytes ≤ completeEnd bytes :=
  leadEnd_le_recordsEnd bytes

/-- Records that end before the first value are leading records. -/
theorem recordsEnd_eq_leadEnd {step : ℕ → List UInt8 → Option ℕ} {bytes : List UInt8} {c : ℕ}
    (hvalue : firstValue bytes = some c) (hle : recordsEnd step bytes ≤ c) :
    recordsEnd step bytes = leadEnd bytes := by
  rw [leadEnd]
  induction bytes using tags_induction generalizing c with
  | none bytes htag => rw [recordsEnd_none htag, recordsEnd_none htag]
  | endOfRecord bytes size htag ih =>
      rw [firstValue_endOfRecord htag] at hvalue
      obtain ⟨d, hd, rfl⟩ := Option.map_eq_some_iff.mp hvalue
      rw [recordsEnd_endOfRecord htag] at hle
      rw [recordsEnd_endOfRecord htag, recordsEnd_endOfRecord htag, ih hd (by omega)]
  | other bytes size htag ih =>
      rw [firstValue_other htag] at hvalue
      obtain ⟨d, hd, rfl⟩ := Option.map_eq_some_iff.mp hvalue
      rw [recordsEnd_other htag] at hle
      have hrest : recordsEnd step (bytes.drop size) ≤ d := by
        rcases Nat.eq_zero_or_pos (recordsEnd step (bytes.drop size)) with hzero | hpos
        · omega
        · rw [beyond_of_pos hpos] at hle
          omega
      rw [recordsEnd_other htag, recordsEnd_other htag, ih hd hrest]
  | field bytes size fieldLen htag _ =>
      rw [firstValue_field htag] at hvalue
      cases hvalue
      have hlead : recordsEnd (fun _ _ => none) bytes = 0 := recordsEnd_stuck htag rfl
      rw [hlead]
      rcases hstep : step fieldLen (bytes.drop size) with - | value
      · exact recordsEnd_stuck htag hstep
      rw [recordsEnd_field htag hstep] at hle ⊢
      rcases Nat.eq_zero_or_pos (recordsEnd step (bytes.drop (size + value))) with hzero | hpos
      · rw [hzero]
        rfl
      · rw [beyond_of_pos hpos] at hle
        omega

/-- A text that completes no record behind its first value. -/
theorem completeEnd_of_not_completes {bytes : List UInt8} (h : ¬ Completes bytes) :
    completeEnd bytes = leadEnd bytes := by
  rcases hvalue : firstValue bytes with - | c
  · exact recordsEnd_of_firstValue_none hvalue
  by_cases hvalid : Utf8.Valid (bytes.drop c)
  · have hwell : WellFormed bytes := by
      intro d hd
      rw [hvalue] at hd
      cases hd
      exact hvalid
    have hle : recordsEnd Utf8.skip bytes ≤ c := by
      by_contra hlt
      exact h ⟨c, hvalue, hvalid, by omega⟩
    rw [completeEnd, recordsEnd_of_wellFormed hwell]
    exact recordsEnd_eq_leadEnd hvalue hle
  · exact recordsEnd_of_not_wellFormed fun hwell => hvalid (hwell c hvalue)

theorem Completes.wellFormed {bytes : List UInt8} (h : Completes bytes) : WellFormed bytes := by
  obtain ⟨c, hvalue, hvalid, -⟩ := h
  intro d hd
  rw [hvalue] at hd
  cases hd
  exact hvalid

/-- Behind the records of well-formed text the text is well formed. -/
theorem valid_behind_records {a b : List UInt8} (h : Utf8.Valid (a ++ b)) :
    Utf8.Valid ((a ++ b).drop (recordsEnd Utf8.skip a)) := by
  induction a using tags_induction with
  | none a htag => rw [recordsEnd_none htag]; exact h
  | endOfRecord a size htag ih =>
      have hbehind := valid_behind_tag h (firstTag_append b htag)
      rw [drop_size_append htag] at hbehind
      rw [recordsEnd_endOfRecord htag, ← List.drop_drop, drop_size_append htag]
      exact ih hbehind
  | other a size htag ih =>
      have hbehind := valid_behind_tag h (firstTag_append b htag)
      rw [drop_size_append htag] at hbehind
      rw [recordsEnd_other htag]
      rcases Nat.eq_zero_or_pos (recordsEnd Utf8.skip (a.drop size)) with hzero | hpos
      · rw [hzero]
        exact h
      · rw [beyond_of_pos hpos, ← List.drop_drop, drop_size_append htag]
        exact ih hbehind
  | field a size fieldLen htag ih =>
      rcases hvalue : Utf8.skip fieldLen (a.drop size) with - | value
      · rw [recordsEnd_stuck htag hvalue]
        exact h
      have hbehind := valid_behind_tag h (firstTag_append b htag)
      rw [drop_size_append htag] at hbehind
      have hrest := hbehind.drop_skip (Utf8.skip_append b hvalue)
      have hle := Utf8.skip_le hvalue
      have hdrop : (a.drop size ++ b).drop value = a.drop (size + value) ++ b := by
        rw [List.drop_append_of_le_length hle, List.drop_drop]
      rw [hdrop] at hrest
      rw [recordsEnd_field htag hvalue]
      rcases Nat.eq_zero_or_pos (recordsEnd Utf8.skip (a.drop (size + value))) with hzero | hpos
      · rw [hzero]
        exact h
      · rw [beyond_of_pos hpos, drop_value_append htag hle]
        exact ih value hrest

/-- Behind records that end behind the first value, all is well formed. -/
theorem valid_behind_completed {a b : List UInt8} {c : ℕ} (h : WellFormed (a ++ b))
    (hvalue : firstValue a = some c) (hlt : c < recordsEnd Utf8.skip a) :
    Utf8.Valid ((a ++ b).drop (recordsEnd Utf8.skip a)) := by
  induction a using tags_induction generalizing c with
  | none a htag =>
      rw [firstValue_none htag] at hvalue
      cases hvalue
  | endOfRecord a size htag ih =>
      rw [firstValue_endOfRecord htag] at hvalue
      obtain ⟨d, hd, rfl⟩ := Option.map_eq_some_iff.mp hvalue
      rw [← wellFormed_drop (firstValue_endOfRecord (firstTag_append b htag)),
        drop_size_append htag] at h
      rw [recordsEnd_endOfRecord htag] at hlt ⊢
      rw [← List.drop_drop, drop_size_append htag]
      exact ih h hd (by omega)
  | other a size htag ih =>
      rw [firstValue_other htag] at hvalue
      obtain ⟨d, hd, rfl⟩ := Option.map_eq_some_iff.mp hvalue
      rw [← wellFormed_drop (firstValue_other (firstTag_append b htag)),
        drop_size_append htag] at h
      rw [recordsEnd_other htag] at hlt ⊢
      rcases Nat.eq_zero_or_pos (recordsEnd Utf8.skip (a.drop size)) with hzero | hpos
      · rw [hzero, beyond_zero] at hlt
        omega
      · rw [beyond_of_pos hpos] at hlt ⊢
        rw [← List.drop_drop, drop_size_append htag]
        exact ih h hd (by omega)
  | field a size fieldLen htag _ =>
      rw [firstValue_field htag] at hvalue
      cases hvalue
      have hbehind := h size (firstValue_field (firstTag_append b htag))
      rw [drop_size_append htag] at hbehind
      rcases hstep : Utf8.skip fieldLen (a.drop size) with - | value
      · rw [recordsEnd_stuck htag hstep] at hlt
        omega
      have hrest := hbehind.drop_skip (Utf8.skip_append b hstep)
      have hdrop : (a.drop size ++ b).drop value = a.drop (size + value) ++ b := by
        rw [List.drop_append_of_le_length (Utf8.skip_le hstep), List.drop_drop]
      rw [hdrop] at hrest
      rw [recordsEnd_field htag hstep] at hlt ⊢
      rcases Nat.eq_zero_or_pos (recordsEnd Utf8.skip (a.drop (size + value))) with hzero | hpos
      · rw [hzero, beyond_zero] at hlt
        omega
      · rw [beyond_of_pos hpos, drop_value_append htag (Utf8.skip_le hstep)]
        exact valid_behind_records hrest

/-- **A text that is well formed from its first value on can be read piece by
piece.** -/
theorem completeEnd_resumes : Tail.Resumes completeEnd WellFormed := by
  have hkeeps : ∀ a b, WellFormed (a ++ b) → WellFormed ((a ++ b).drop (completeEnd a)) := by
    intro a b h
    by_cases hcompletes : Completes a
    · obtain ⟨c, hvalue, -, hlt⟩ := id hcompletes
      rw [completeEnd, recordsEnd_of_wellFormed hcompletes.wellFormed]
      exact wellFormed_of_valid (valid_behind_completed h hvalue hlt)
    · rw [completeEnd_of_not_completes hcompletes]
      exact (wellFormed_drop (lead_append stepDecoded a b).2).mpr h
  refine ⟨completeEnd_le_length, fun a b h => ?_, hkeeps⟩
  by_cases hcompletes : Completes a
  · have hrest := hkeeps a b h
    rw [completeEnd, completeEnd, completeEnd] at *
    rw [recordsEnd_of_wellFormed hcompletes.wellFormed] at *
    rw [recordsEnd_of_wellFormed h, recordsEnd_of_wellFormed hrest]
    exact recordsEnd_append local_skip a b
  · rw [completeEnd_of_not_completes hcompletes]
    exact (lead_append stepDecoded a b).1

/-- **When more text does not hide records.** -/
theorem completeEnd_le_iff (a b : List UInt8) :
    completeEnd a ≤ completeEnd (a ++ b) ↔ WellFormed (a ++ b) ∨ ¬ Completes a := by
  constructor
  · intro hle
    by_contra hno
    obtain ⟨hill, hcompletes⟩ := not_or.mp hno
    obtain ⟨c, hvalue, -, hlt⟩ := id (not_not.mp hcompletes)
    have hlead := leadEnd_le_firstValue (firstValue_append b hvalue).1
    have hcode : completeEnd a = recordsEnd Utf8.skip a :=
      recordsEnd_of_wellFormed (not_not.mp hcompletes).wellFormed
    have hmore : completeEnd (a ++ b) = leadEnd (a ++ b) := recordsEnd_of_not_wellFormed hill
    omega
  · rintro (hwell | hno)
    · rw [completeEnd_resumes.resumes a b hwell]
      exact Nat.le_add_right _ _
    · have hsplit := (lead_append stepDecoded a b).1
      rw [completeEnd_of_not_completes hno, completeEnd, hsplit]
      exact Nat.le_add_right _ _

/-! ### Readings that complete nothing -/

/-- The place where the leading records of a beginning of the text end. -/
def LeadAt (bytes : List UInt8) (c : ℕ) : Prop := ∃ a, a <+: bytes ∧ leadEnd a = c

theorem leadAt_zero (bytes : List UInt8) : LeadAt bytes 0 :=
  ⟨[], List.nil_prefix, recordsEnd_none rfl⟩

theorem LeadAt.mono {a b : List UInt8} {c : ℕ} (h : LeadAt a c) (hab : a <+: b) : LeadAt b c := by
  obtain ⟨a', ha', hc⟩ := h
  exact ⟨a', ha'.trans hab, hc⟩

/-- What is behind such a place is as good or bad as the whole. -/
theorem LeadAt.behind {bytes : List UInt8} {c : ℕ} (h : LeadAt bytes c)
    (step : ℕ → List UInt8 → Option ℕ) :
    recordsEnd step bytes = c + recordsEnd step (bytes.drop c)
      ∧ firstValue bytes = (firstValue (bytes.drop c)).map (c + ·) := by
  obtain ⟨a, ⟨b, rfl⟩, rfl⟩ := h
  exact lead_append step a b

theorem LeadAt.completes {bytes : List UInt8} {c : ℕ} (h : LeadAt bytes c) :
    Completes (bytes.drop c) ↔ Completes bytes := by
  obtain ⟨hends, hfirst⟩ := h.behind Utf8.skip
  constructor
  · rintro ⟨d, hd, hvalid, hlt⟩
    rw [List.drop_drop] at hvalid
    exact ⟨c + d, by rw [hfirst, hd]; rfl, hvalid, by omega⟩
  · rintro ⟨e, he, hvalid, hlt⟩
    rw [hfirst] at he
    obtain ⟨d, hd, rfl⟩ := Option.map_eq_some_iff.mp he
    rw [← List.drop_drop] at hvalid
    exact ⟨d, hd, hvalid, by omega⟩

/-- A reading that completes nothing. -/
theorem LeadAt.read {bytes : List UInt8} {c : ℕ} (h : LeadAt bytes c) (hno : ¬ Completes bytes) :
    c + completeEnd (bytes.drop c) = leadEnd bytes := by
  rw [completeEnd_of_not_completes fun hyes => hno (h.completes.mp hyes)]
  exact (h.behind _).1.symm

theorem position_leadAt {files : List (List UInt8)} {z : List UInt8} {c : ℕ}
    (hgrow : (files ++ [z]).IsChain (· <+: ·)) (hno : ∀ file ∈ files, ¬ Completes file)
    (hc : ∀ file ∈ (files ++ [z]).head?, LeadAt file c) :
    LeadAt z (Tail.position completeEnd files c) := by
  induction files generalizing c with
  | nil => exact hc z rfl
  | cons file files ih =>
      rw [List.cons_append] at hgrow
      have hread := (hc file rfl).read (hno file List.mem_cons_self)
      rw [Tail.position, hread]
      refine ih (List.IsChain.of_cons hgrow) (fun f hf => hno f (List.mem_cons_of_mem _ hf))
        fun next hnext => ?_
      exact ⟨file, (List.isChain_cons.mp hgrow).1 next hnext, rfl⟩

/-- **When it does not matter how the text grew.** -/
theorem position_eq_iff {files : List (List UInt8)} {longest : List UInt8}
    (hgrow : (files ++ [longest]).IsChain (· <+: ·)) :
    Tail.position completeEnd (files ++ [longest]) 0 = completeEnd longest
      ↔ ∀ file ∈ files, WellFormed longest ∨ ¬ Completes file := by
  by_cases hwell : WellFormed longest
  · exact ⟨fun _ _ _ => .inl hwell, fun _ => completeEnd_resumes.position_eq hgrow hwell⟩
  have hlead : completeEnd longest = leadEnd longest := recordsEnd_of_not_wellFormed hwell
  constructor
  · intro heq file hfile
    right
    intro hcompletes
    -- the first reading that completes a record behind its first value
    classical
    obtain ⟨first, hfirst⟩ : ∃ first, files.find? (decide <| Completes ·) = some first := by
      rw [← Option.isSome_iff_exists, List.find?_isSome]
      exact ⟨file, hfile, decide_eq_true hcompletes⟩
    obtain ⟨hdone, before, after, rfl, hbefore⟩ := List.find?_eq_some_iff_append.mp hfirst
    have hdone := of_decide_eq_true hdone
    rw [List.append_assoc, List.cons_append] at hgrow heq
    have hat : LeadAt first (Tail.position completeEnd before 0) := by
      refine position_leadAt ?_ (fun f hf => by simpa using hbefore f hf)
        fun f _ => leadAt_zero f
      exact (List.isChain_split.mp hgrow).1
    have hlongest : first <+: longest := by
      have hpair := (List.isChain_iff_pairwise.mp hgrow)
      have hrest := (List.pairwise_append.mp hpair).2.1
      exact (List.pairwise_cons.mp hrest).1 longest (by simp)
    obtain ⟨c, hvalue, hvalid, hlt⟩ := hdone
    obtain ⟨hends, hfirstValue⟩ := hat.behind Utf8.skip
    have hbehind : WellFormed (first.drop (Tail.position completeEnd before 0)) :=
      (hat.completes.mpr ⟨c, hvalue, hvalid, hlt⟩).wellFormed
    have hcode : completeEnd (first.drop (Tail.position completeEnd before 0))
        = recordsEnd Utf8.skip (first.drop (Tail.position completeEnd before 0)) :=
      recordsEnd_of_wellFormed hbehind
    have hfinal := Tail.le_position (f := completeEnd) (after ++ [longest])
      (Tail.position completeEnd before 0
        + completeEnd (first.drop (Tail.position completeEnd before 0)))
    rw [Tail.position_append, Tail.position] at heq
    obtain ⟨rest, hrest⟩ := hlongest
    have hbound := leadEnd_le_firstValue (firstValue_append rest hvalue).1
    rw [hrest] at hbound
    omega
  · intro hno
    have hat : LeadAt longest (Tail.position completeEnd files 0) :=
      position_leadAt hgrow (fun file hfile => (hno file hfile).resolve_left hwell)
        fun f _ => leadAt_zero f
    have hrest : ¬ Completes longest := fun hyes => hwell hyes.wellFormed
    rw [Tail.position_append, hlead]
    exact hat.read hrest

/-! ### Runs of calls -/

variable {importer : List UInt8 → AdifImportSummary} {path : String}

/-- One call. -/
theorem ingestWsjtxAdifTail_run (importer : List UInt8 → AdifImportSummary) (path : String) {file : List UInt8} {cursor : ℕ} (handed : List (List UInt8))
    (hcursor : cursor ≤ file.length) :
    ((ingestWsjtxAdifTail path cursor).run (serveTail importer file) handed).1.2
        = cursor + completeEnd (file.drop cursor)
      ∧ ((ingestWsjtxAdifTail path cursor).run (serveTail importer file) handed).2.flatten
        = handed.flatten ++ (file.drop cursor).take (completeEnd (file.drop cursor)) := by
  have hread : (tailAsk (.readFile path)).run (serveTail importer file) handed
      = (.ok file, handed) := rfl
  have hstart : (if file.length < cursor then 0 else cursor) = cursor := if_neg (by omega)
  rw [ingestWsjtxAdifTail, Prog.run_bind, hread]
  simp only [hstart]
  by_cases hend : cursor = file.length
  · have hnil : file.drop cursor = [] := List.drop_eq_nil_of_le hend.ge
    have hzero : completeEnd [] = 0 := recordsEnd_none rfl
    rw [if_pos hend, hnil, hzero]
    exact ⟨rfl, by simp⟩
  rw [if_neg hend, completeAdifPrefixLen_eq]
  rcases hends : recordsEnd stepDecoded (file.drop cursor) with - | last
  · rw [completeEnd, hends]
    exact ⟨rfl, by simp [endOr]⟩
  · rw [completeEnd, hends]
    simp only [endOr, Nat.zero_add]
    exact ⟨rfl, by simp [tailAsk, serveTail, hstart]⟩

/-- The beginning of a text of which one has a longer beginning. -/
theorem take_append_take {file whole : List UInt8} {cursor n : ℕ} (hpre : file <+: whole)
    (hle : cursor + n ≤ file.length) :
    whole.take cursor ++ (file.drop cursor).take n = whole.take (cursor + n) := by
  obtain ⟨rest, rfl⟩ := hpre
  rw [List.take_append_of_le_length (by omega), List.take_append_of_le_length hle, List.take_add]

/-- Successive calls hand over the text up to where the reader stands. -/
theorem tailCalls_run {files : List (List UInt8)} {whole : List UInt8} {cursor : ℕ}
    {handed : List (List UInt8)} (hgrow : files.IsChain (· <+: ·))
    (hpre : ∀ file ∈ files, file <+: whole) (hcursor : ∀ file ∈ files.head?, cursor ≤ file.length)
    (hhanded : handed.flatten = whole.take cursor) :
    (tailCalls importer path files (cursor, handed)).2.flatten
      = whole.take (Tail.position completeEnd files cursor) := by
  induction files generalizing cursor handed with
  | nil => exact hhanded
  | cons file files ih =>
      have hle := hcursor file rfl
      obtain ⟨hnext, hpayload⟩ := ingestWsjtxAdifTail_run importer path handed hle
      have hbound := completeEnd_le_length (file.drop cursor)
      rw [List.length_drop] at hbound
      rw [tailCalls, Tail.position, hnext]
      refine ih hgrow.of_cons (fun f hf => hpre f (List.mem_cons_of_mem _ hf)) ?_ ?_
      · intro next hnext'
        exact le_trans (by omega) ((List.isChain_cons.mp hgrow).1 next hnext').length_le
      · rw [hpayload, hhanded, take_append_take (hpre file List.mem_cons_self) (by omega)]

theorem handedOver_eq {files : List (List UInt8)} {longest : List UInt8}
    (hgrow : (files ++ [longest]).IsChain (· <+: ·)) :
    handedOver importer path (files ++ [longest])
      = longest.take (Tail.position completeEnd (files ++ [longest]) 0) := by
  refine tailCalls_run hgrow (fun file hfile => ?_) (fun _ _ => Nat.zero_le _) rfl
  rcases List.mem_append.mp hfile with hold | hlast
  · have hpair := List.isChain_iff_pairwise.mp hgrow
    exact (List.pairwise_append.mp hpair).2.2 file hold longest (List.mem_singleton_self _)
  · rw [List.mem_singleton.mp hlast]

/-- **Whether the tail depends on how the file grew**: the payloads of calls on
growing beginnings of a file are those of one call on the longest of them
exactly if this is well formed from its first value on, or no shorter beginning
completes a record behind its first value; and complete records of a text stay
complete when more text follows under the same condition. -/
theorem tail_independent_iff {importer : List UInt8 → AdifImportSummary} {path : String} :
    (∀ (files : List (List UInt8)) (longest : List UInt8),
      (files ++ [longest]).IsChain (· <+: ·) →
        (handedOver importer path (files ++ [longest]) = handedOver importer path [longest]
          ↔ ∀ file ∈ files, WellFormed longest ∨ ¬ Completes file))
    ∧ ∀ a b : List UInt8,
        (∀ n, completeAdifPrefixLen a = some n →
            ∃ m, n ≤ m ∧ completeAdifPrefixLen (a ++ b) = some m)
          ↔ WellFormed (a ++ b) ∨ ¬ Completes a := by
  refine ⟨fun files longest hgrow => ?_, fun a b => ?_⟩
  · have hone : handedOver importer path [longest] = longest.take (completeEnd longest) := by
      have hsingle : handedOver importer path ([] ++ [longest]) = _ :=
        handedOver_eq (List.isChain_singleton longest)
      rw [List.nil_append] at hsingle
      rw [hsingle]
      simp [Tail.position]
    have hle : Tail.position completeEnd (files ++ [longest]) 0 ≤ longest.length :=
      Tail.position_le completeEnd_le_length hgrow fun _ _ => Nat.zero_le _
    rw [handedOver_eq hgrow, hone, ← position_eq_iff hgrow, List.take_eq_take_iff,
      min_eq_left hle, min_eq_left (completeEnd_le_length longest)]
  · rw [← completeEnd_le_iff, completeAdifPrefixLen_eq, completeAdifPrefixLen_eq, completeEnd,
      completeEnd]
    rcases recordsEnd stepDecoded a with - | n
    · simp [endOr]
    · rcases recordsEnd stepDecoded (a ++ b) with - | m <;> simp [endOr]

/-! ### A byte that is not UTF-8 -/

/-- A complete record. -/
def loggedRecord : List UInt8 := Utf8.encode "<CALL:4>W1AW <EOR>\n".toList

/-- The beginning of the next record, with an `é` of Latin-1. -/
def latinRecord : List UInt8 := Utf8.encode "<CALL:5>HB9HI <NAME:5>Ren".toList ++ [0xE9]

/-- **A stray byte behind a record hides it from a later call.** -/
theorem stray_byte_hides_record :
    handedOver (fun _ => {}) "wsjtx_log.adi" [loggedRecord, loggedRecord ++ latinRecord]
      ≠ handedOver (fun _ => {}) "wsjtx_log.adi" [loggedRecord ++ latinRecord] := by
  decide +kernel

/-- The file grows by half a record; nothing is out of order in it. -/
theorem growing_log_read_piecewise :
    handedOver (fun _ => {}) "wsjtx_log.adi"
        [loggedRecord, loggedRecord ++ Utf8.encode "<CALL:5>HB9".toList]
      = handedOver (fun _ => {}) "wsjtx_log.adi"
        [loggedRecord ++ Utf8.encode "<CALL:5>HB9".toList] := by
  refine (tail_independent_iff.1 [loggedRecord] (loggedRecord ++ Utf8.encode "<CALL:5>HB9".toList)
    ?_).mpr fun file _ => .inl ?_
  · exact List.isChain_cons_cons.mpr ⟨List.prefix_append _ _, List.isChain_singleton _⟩
  · refine wellFormed_of_valid ?_
    rw [loggedRecord, ← Utf8.encode_append]
    exact ⟨_, rfl⟩

end QsoRipper.Wsjtx
