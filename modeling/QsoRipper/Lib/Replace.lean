/-
QsoRipper/Lib/Replace.lean

Searching a list for a pattern: where it first occurs, the list with every
occurrence replaced, and the pieces between the occurrences.  Occurrences are
found from the left and do not overlap, as `str::find`, `str::replace` and
`str::split` find them.

Replacing goes through an append where no occurrence lies across the seam.
-/
import Mathlib.Data.List.Infix

namespace Text

/-! ### Seams -/

section

variable {α : Type*} {pat : List α}

/-- No occurrence of the pattern begins on the left of the seam and ends on its
right. -/
def Seam (pat xs ys : List α) : Prop :=
  ∀ s t, s ++ t = pat → s ≠ [] → t ≠ [] → s <:+ xs → ¬ t <+: ys

theorem Seam.of_suffix {xs xs' ys : List α} (h : Seam pat xs ys) (hs : xs' <:+ xs) :
    Seam pat xs' ys :=
  fun s t hst hs0 ht0 hsuf => h s t hst hs0 ht0 (hsuf.trans hs)

/-- Elements that the pattern does not have keep occurrences apart. -/
theorem Seam.of_last {xs ys : List α} {c : α} (hc : c ∉ pat) : Seam pat (xs ++ [c]) ys := by
  intro s t hst hs0 _ hsuf _
  have hmem : c ∈ s := by
    obtain ⟨s', d, rfl⟩ := List.eq_nil_or_concat' s |>.resolve_left hs0
    obtain ⟨front, hfront⟩ := hsuf
    have hlast := congrArg List.getLast? hfront
    simp only [← List.append_assoc, List.getLast?_append, List.getLast?_singleton] at hlast
    simp at hlast
    simp [hlast]
  exact hc (hst ▸ List.mem_append_left _ hmem)

theorem Seam.nil (xs : List α) : Seam pat xs [] := by
  intro s t _ _ ht0 _ hpre
  exact ht0 (List.prefix_nil.mp hpre)

end

variable {α : Type*} [DecidableEq α]

/-! ### Operations -/

/-- Where a pattern first occurs. -/
def find (pat : List α) : List α → Option ℕ
  | [] => if pat = [] then some 0 else none
  | c :: cs => if pat.isPrefixOf (c :: cs) then some 0 else (find pat cs).map (· + 1)

/-- The list without its first elements, with the pattern replaced. -/
def replaceFrom (pat rep : List α) : ℕ → List α → List α
  | _, [] => []
  | skip + 1, _ :: cs => replaceFrom pat rep skip cs
  | 0, c :: cs =>
      if pat.isPrefixOf (c :: cs) then rep ++ replaceFrom pat rep (pat.length - 1) cs
      else c :: replaceFrom pat rep 0 cs

/-- The list with a pattern that is not empty replaced. -/
def replaceAll (pat rep : List α) : List α → List α := replaceFrom pat rep 0

/-- The pieces of the list without its first elements, the first of which has
begun already. -/
def splitFrom (pat : List α) : ℕ → List α → List α → List (List α)
  | _, piece, [] => [piece]
  | skip + 1, piece, _ :: cs => splitFrom pat skip piece cs
  | 0, piece, c :: cs =>
      if pat.isPrefixOf (c :: cs) then piece :: splitFrom pat (pat.length - 1) [] cs
      else splitFrom pat 0 (piece ++ [c]) cs

/-- The pieces between the occurrences of a pattern that is not empty. -/
def splitAll (pat : List α) : List α → List (List α) := splitFrom pat 0 []

variable {pat rep : List α}

/-! ### Finding -/

/-- What begins with an element that is not in front of it is found at once. -/
theorem find_append {c : α} {cs : List α} {front : List α} (h : c ∉ front) (rest : List α) :
    find (c :: cs) (front ++ (c :: cs) ++ rest) = some front.length := by
  induction front with
  | nil => simp [find, List.isPrefixOf_iff_prefix]
  | cons d front ih =>
      simp only [List.mem_cons, not_or] at h
      have hhead : ¬ (c :: cs) <+: d :: (front ++ (c :: cs) ++ rest) :=
        fun hpre => h.1 (List.cons_prefix_cons.mp hpre).1
      show (if _ then _ else _) = _
      rw [if_neg (by simpa [List.isPrefixOf_iff_prefix] using hhead)]
      show (find (c :: cs) (front ++ (c :: cs) ++ rest)).map (· + 1) = _
      rw [ih h.2]
      rfl

/-! ### Replacing -/

@[simp] theorem replaceAll_nil : replaceAll pat rep [] = [] := rfl

theorem replaceFrom_eq (k : ℕ) (xs : List α) :
    replaceFrom pat rep k xs = replaceAll pat rep (xs.drop k) := by
  induction xs generalizing k with
  | nil => cases k <;> rfl
  | cons c cs ih =>
      cases k with
      | zero => rfl
      | succ k => exact ih k

theorem replaceAll_cons {c : α} {cs : List α} (h : ¬ pat <+: c :: cs) :
    replaceAll pat rep (c :: cs) = c :: replaceAll pat rep cs := by
  show (if _ then _ else _) = _
  rw [if_neg (by simpa [List.isPrefixOf_iff_prefix] using h)]
  rfl

theorem replaceAll_pattern (hne : pat ≠ []) (xs : List α) :
    replaceAll pat rep (pat ++ xs) = rep ++ replaceAll pat rep xs := by
  obtain ⟨c, cs, rfl⟩ := List.exists_cons_of_ne_nil hne
  have hpre : (c :: cs).isPrefixOf (c :: (cs ++ xs)) = true :=
    List.isPrefixOf_iff_prefix.mpr (List.prefix_append (c :: cs) xs)
  have hdrop : (cs ++ xs).drop ((c :: cs).length - 1) = xs := by simp
  show (if (c :: cs).isPrefixOf (c :: (cs ++ xs)) = true then
      rep ++ replaceFrom (c :: cs) rep ((c :: cs).length - 1) (cs ++ xs) else _) = _
  rw [if_pos hpre, replaceFrom_eq, hdrop]

/-- Where the pattern does not occur nothing is replaced. -/
theorem replaceAll_eq_self {xs : List α} (h : ¬ pat <:+: xs) : replaceAll pat rep xs = xs := by
  induction xs with
  | nil => rfl
  | cons c cs ih =>
      have hhead : ¬ pat <+: c :: cs := fun hpre => h hpre.isInfix
      rw [replaceAll_cons hhead, ih fun hin => h (hin.trans (List.suffix_cons c cs).isInfix)]

theorem replaceAll_append {xs ys : List α} (h : Seam pat xs ys) (hne : pat ≠ []) :
    replaceAll pat rep (xs ++ ys) = replaceAll pat rep xs ++ replaceAll pat rep ys := by
  induction hlen : xs.length using Nat.strong_induction_on generalizing xs with
  | _ n ih =>
      cases xs with
      | nil => rfl
      | cons c cs =>
          by_cases hwhole : pat <+: c :: cs
          · -- an occurrence on the left
            obtain ⟨rest, hrest⟩ := hwhole
            have hpos := List.length_pos_iff.mpr hne
            have hshort : rest.length < n := by
              rw [← hlen, ← hrest, List.length_append]
              omega
            rw [← hrest, List.append_assoc, replaceAll_pattern hne, replaceAll_pattern hne,
              ih rest.length hshort (h.of_suffix ⟨pat, hrest⟩) rfl, List.append_assoc]
          · have hjoint : ¬ pat <+: c :: cs ++ ys := by
              intro hpre
              rcases List.prefix_or_prefix_of_prefix hpre (List.prefix_append (c :: cs) ys) with
                hle | ⟨t, ht⟩
              · exact hwhole hle
              · -- the pattern would lie across the seam
                have ht0 : t ≠ [] := by
                  rintro rfl
                  rw [List.append_nil] at ht
                  exact hwhole (ht ▸ List.prefix_rfl)
                rw [← ht] at hpre
                exact h _ t ht (List.cons_ne_nil _ _) ht0 List.suffix_rfl
                  ((List.prefix_append_right_inj _).mp hpre)
            rw [List.cons_append] at hjoint
            rw [replaceAll_cons hwhole, List.cons_append, replaceAll_cons hjoint,
              ih cs.length (by simp [← hlen]) (h.of_suffix (List.suffix_cons c cs)) rfl,
              List.cons_append]

/-- What does not have the pattern's first element is passed over. -/
theorem replaceAll_append_of_notMem {c : α} {cs xs : List α} (h : c ∉ xs) (ys : List α) :
    replaceAll (c :: cs) rep (xs ++ ys) = xs ++ replaceAll (c :: cs) rep ys := by
  induction xs with
  | nil => rfl
  | cons d xs ih =>
      simp only [List.mem_cons, not_or] at h
      have hhead : ¬ (c :: cs) <+: d :: (xs ++ ys) :=
        fun hpre => h.1 (List.cons_prefix_cons.mp hpre).1
      rw [List.cons_append, replaceAll_cons hhead, ih h.2, List.cons_append]

/-- Element by element, if each is replaced for itself. -/
theorem replaceAll_flatMap {β : Type*} {f g : β → List α}
    (h : ∀ b rest, replaceAll pat rep (f b ++ rest) = g b ++ replaceAll pat rep rest)
    (bs : List β) : replaceAll pat rep (bs.flatMap f) = bs.flatMap g := by
  induction bs with
  | nil => rfl
  | cons b bs ih => rw [List.flatMap_cons, h, ih, List.flatMap_cons]

end Text
