/-
QsoRipper/Lib/CommandLine.lean

Command lines of Windows: how the C runtime of the started program cuts one into its
arguments, and how arguments are written so that they are found again.

Outside of quotes a blank ends an argument.  Backslashes stand for themselves except before a
quote: there two stand for one, and one that is left over makes the quote a plain byte.
Within quotes two quotes are one.
-/
import Mathlib

namespace CommandLine

def quote : UInt8 := 34
def backslash : UInt8 := 92

/-- What separates arguments: a space or a tab. -/
def IsBlank (b : UInt8) : Prop := b = 32 ∨ b = 9

instance (b : UInt8) : Decidable (IsBlank b) := inferInstanceAs (Decidable (_ ∨ _))

/-! ### Cutting -/

/-- One argument and what is behind it: within quotes or not, behind so many backslashes,
with what has been read of it. -/
def argument (quoted : Bool) (slashes : ℕ) (text : List UInt8) :
    List UInt8 → List UInt8 × List UInt8
  | [] => (text ++ List.replicate slashes backslash, [])
  | b :: p =>
      if b = backslash then argument quoted (slashes + 1) text p
      else if b = quote then
        let text := text ++ List.replicate (slashes / 2) backslash
        if slashes % 2 = 1 then argument quoted 0 (text ++ [quote]) p
        else if quoted then
          match p with
          | [] => (text, [])
          | b' :: q =>
              if b' = quote then argument true 0 (text ++ [quote]) q
              else argument false 0 text (b' :: q)
        else argument true 0 text p
      else
        let text := text ++ List.replicate slashes backslash
        if !quoted ∧ IsBlank b then (text, b :: p) else argument quoted 0 (text ++ [b]) p
termination_by p => p.length

theorem length_argument_le (quoted : Bool) (slashes : ℕ) (text p : List UInt8) :
    (argument quoted slashes text p).2.length ≤ p.length := by
  fun_induction argument quoted slashes text p <;> simp_all <;> omega

/-- An argument takes the byte it begins with. -/
theorem length_argument_lt {b : UInt8} (hb : ¬ IsBlank b) (q : List UInt8) :
    (argument false 0 [] (b :: q)).2.length < (b :: q).length := by
  have hle (quoted : Bool) (slashes : ℕ) (text : List UInt8) :
      (argument quoted slashes text q).2.length < (b :: q).length :=
    Nat.lt_succ_of_le (length_argument_le quoted slashes text q)
  rw [argument.eq_def]
  dsimp only
  split_ifs with hbackslash hquote hodd hend
  · exact hle false 1 _
  · exact hle false 0 _
  · exact hle true 0 _
  · exact absurd hend.2 hb
  · exact hle false 0 _

/-- The arguments of a line, behind the name of the program. -/
def split (p : List UInt8) : List (List UInt8) :=
  match _h : p.dropWhile fun b => IsBlank b with
  | [] => []
  | b :: q => (argument false 0 [] (b :: q)).1 :: split (argument false 0 [] (b :: q)).2
termination_by p.length
decreasing_by
  have hle := (List.dropWhile_suffix (l := p) fun b => decide (IsBlank b)).length_le
  have hb : ¬ IsBlank b := by
    have hne : p.dropWhile (fun b => decide (IsBlank b)) ≠ [] := by simp [_h]
    have hhead := List.head_dropWhile_not (fun b => decide (IsBlank b)) hne
    simpa [_h] using hhead
  rw [_h] at hle
  exact (length_argument_lt hb q).trans_le hle

/-- The name of the program: quotes take blanks along, backslashes are plain. -/
def program (quoted : Bool) (text : List UInt8) : List UInt8 → List UInt8 × List UInt8
  | [] => (text, [])
  | b :: p =>
      if b = quote then program (!quoted) text p
      else if !quoted ∧ IsBlank b then (text, b :: p)
      else program quoted (text ++ [b]) p

/-- A line: the name of the program and its arguments. -/
def arguments (line : List UInt8) : List UInt8 × List (List UInt8) :=
  ((program false [] line).1, split (program false [] line).2)

/-! ### Writing -/

/-- The bytes between the quotes, behind so many backslashes that are not written yet: before
a quote, the one at the end too, they are doubled. -/
def escape (slashes : ℕ) : List UInt8 → List UInt8
  | [] => List.replicate (2 * slashes) backslash
  | b :: p =>
      if b = backslash then escape (slashes + 1) p
      else if b = quote then
        List.replicate (2 * slashes + 1) backslash ++ quote :: escape 0 p
      else List.replicate slashes backslash ++ b :: escape 0 p

/-- A byte that stands for itself wherever it is. -/
def IsPlain (b : UInt8) : Prop := b ≠ quote ∧ b ≠ backslash ∧ ¬ IsBlank b

instance (b : UInt8) : Decidable (IsPlain b) := inferInstanceAs (Decidable (_ ∧ _))

/-- An argument as it is written: a bare word, a text between quotes that has none and does not
end with a backslash, or any text with its quotes escaped. -/
inductive Piece where
  | bare (word : { word : List UInt8 // word ≠ [] ∧ ∀ b ∈ word, IsPlain b })
  | verbatim (value : { value : List UInt8 // quote ∉ value ∧ value.getLast? ≠ some backslash })
  | escaped (value : List UInt8)

namespace Piece

/-- The argument that is meant. -/
def value : Piece → List UInt8
  | bare word => word
  | verbatim value => value
  | escaped value => value

def text : Piece → List UInt8
  | bare word => word
  | verbatim value => quote :: (value.val ++ [quote])
  | escaped value => quote :: (escape 0 value ++ [quote])

end Piece

/-- Arguments in a row, each behind a space. -/
def joined (pieces : List Piece) : List UInt8 := pieces.flatMap fun piece => 32 :: piece.text

/-- Escaping at most doubles a text. -/
theorem length_escape_le (slashes : ℕ) (value : List UInt8) :
    (escape slashes value).length ≤ 2 * (slashes + value.length) := by
  induction value generalizing slashes with
  | nil => simp [escape]
  | cons b value ih =>
      have hzero := ih 0
      have hsucc := ih (slashes + 1)
      rw [escape]
      split_ifs
      · rw [List.length_cons]
        omega
      · simp only [List.length_append, List.length_replicate, List.length_cons]
        omega
      · simp only [List.length_append, List.length_replicate, List.length_cons]
        omega

/-! ### What is written is found -/

variable {quoted : Bool} {slashes : ℕ} {text : List UInt8}

theorem argument_slashes (n : ℕ) (p : List UInt8) :
    argument quoted slashes text (List.replicate n backslash ++ p)
      = argument quoted (slashes + n) text p := by
  induction n generalizing slashes with
  | zero => rfl
  | succ n ih =>
      rw [List.replicate_succ, List.cons_append, argument.eq_def]
      simp only [if_true]
      rw [ih, Nat.add_assoc, Nat.add_comm 1 n]

/-- Behind an odd number of backslashes a quote is a plain byte. -/
theorem argument_quote_odd (h : slashes % 2 = 1) (p : List UInt8) :
    argument quoted slashes text (quote :: p)
      = argument quoted 0 (text ++ List.replicate (slashes / 2) backslash ++ [quote]) p := by
  rw [argument.eq_def]
  simp only [if_neg (show quote ≠ backslash by decide), if_true, if_pos h]

theorem argument_open (p : List UInt8) :
    argument false 0 text (quote :: p) = argument true 0 text p := by
  rw [argument.eq_def]
  simp [show quote ≠ backslash by decide]

/-- Nothing follows that could belong to the argument: the end of the line, or a blank. -/
def Bounded (p : List UInt8) : Prop := ∀ b ∈ p.head?, IsBlank b

theorem argument_close (h : slashes % 2 = 0) {p : List UInt8} (hp : Bounded p) :
    argument true slashes text (quote :: p)
      = (text ++ List.replicate (slashes / 2) backslash, p) := by
  have hodd : ¬ slashes % 2 = 1 := by omega
  rw [argument.eq_def]
  simp only [if_neg (show quote ≠ backslash by decide), if_true, if_neg hodd]
  cases p with
  | nil => rfl
  | cons b p =>
      have hb : IsBlank b := hp b rfl
      have hquote : b ≠ quote := by rcases hb with rfl | rfl <;> decide
      have hbackslash : b ≠ backslash := by rcases hb with rfl | rfl <;> decide
      simp only [if_neg hquote]
      rw [argument.eq_def]
      simp [hquote, hbackslash, hb]

theorem argument_plain {b : UInt8} (hquote : b ≠ quote) (hbackslash : b ≠ backslash)
    (h : quoted = true ∨ ¬ IsBlank b) (p : List UInt8) :
    argument quoted slashes text (b :: p)
      = argument quoted 0 (text ++ List.replicate slashes backslash ++ [b]) p := by
  have hinside : ¬ (!quoted ∧ IsBlank b) := by
    rintro ⟨hno, hblank⟩
    rcases h with rfl | h
    · cases hno
    · exact h hblank
  rw [argument.eq_def]
  simp only [if_neg hquote, if_neg hbackslash, if_neg hinside]

/-- An escaped text is read back up to its closing quote. -/
theorem argument_escape (value : List UInt8) {p : List UInt8} (hp : Bounded p) (n : ℕ) :
    argument true 0 text (escape n value ++ quote :: p)
      = (text ++ List.replicate n backslash ++ value, p) := by
  induction value generalizing n text with
  | nil =>
      rw [escape, argument_slashes, Nat.zero_add, argument_close (by omega) hp,
        Nat.mul_div_cancel_left n (by decide), List.append_nil]
  | cons b value ih =>
      rw [escape]
      split_ifs with hbackslash hquote
      · rw [ih, hbackslash, List.replicate_succ']
        simp
      · have hhalf : (2 * n + 1) / 2 = n := by omega
        rw [List.append_assoc, argument_slashes, Nat.zero_add, List.cons_append,
          argument_quote_odd (by omega), ih, hhalf, hquote]
        simp
      · rw [List.append_assoc, argument_slashes, Nat.zero_add, List.cons_append,
          argument_plain hquote hbackslash (.inl rfl), ih]
        simp

/-- A text without quotes that does not end with a backslash is read back as it is. -/
theorem argument_verbatim {value : List UInt8} (hquote : quote ∉ value)
    (hlast : value.getLast? ≠ some backslash) {p : List UInt8} (hp : Bounded p) (n : ℕ)
    (hn : value = [] → n = 0) :
    argument true n text (value ++ quote :: p)
      = (text ++ List.replicate n backslash ++ value, p) := by
  induction value generalizing n text with
  | nil =>
      rw [hn rfl]
      exact (argument_close rfl hp).trans (by simp)
  | cons b value ih =>
      have hbq : b ≠ quote := fun hno => hquote (hno ▸ List.mem_cons_self)
      have hrest : quote ∉ value := fun hno => hquote (List.mem_cons_of_mem b hno)
      have hlast' : value ≠ [] → value.getLast? ≠ some backslash := by
        intro hne
        rwa [List.getLast?_cons_of_ne_nil hne] at hlast
      by_cases hb : b = backslash
      · have hne : value ≠ [] := by
          rintro rfl
          exact hlast (congrArg some hb)
        rw [List.cons_append, argument.eq_def]
        simp only [if_pos hb]
        rw [ih hrest (hlast' hne) _ fun hno => absurd hno hne, hb, List.replicate_succ']
        simp
      · rw [List.cons_append, argument_plain hbq hb (.inl rfl)]
        rcases value with - | ⟨b', value⟩
        · exact (argument_close rfl hp).trans (by simp)
        · rw [ih hrest (hlast' (List.cons_ne_nil _ _)) 0 fun _ => rfl]
          simp

/-- A bare word is read up to the blank behind it. -/
theorem argument_bare {word : List UInt8} (h : ∀ b ∈ word, IsPlain b) {p : List UInt8}
    (hp : Bounded p) : argument false 0 text (word ++ p) = (text ++ word, p) := by
  induction word generalizing text with
  | nil =>
      cases p with
      | nil =>
          rw [List.nil_append, argument.eq_def]
          simp
      | cons b p =>
          have hb : IsBlank b := hp b rfl
          have hquote : b ≠ quote := by rcases hb with rfl | rfl <;> decide
          have hbackslash : b ≠ backslash := by rcases hb with rfl | rfl <;> decide
          rw [List.nil_append, argument.eq_def]
          simp [hquote, hbackslash, hb]
  | cons b word ih =>
      have hb := h b List.mem_cons_self
      rw [List.cons_append, argument_plain hb.1 hb.2.1 (.inr hb.2.2),
        ih fun b' hb' => h b' (List.mem_cons_of_mem b hb')]
      simp

theorem argument_piece (piece : Piece) {p : List UInt8} (hp : Bounded p) :
    argument false 0 [] (piece.text ++ p) = (piece.value, p) := by
  cases piece with
  | bare word =>
      show argument false 0 [] (word.val ++ p) = _
      rw [argument_bare word.property.2 hp]
      rfl
  | verbatim value =>
      show argument false 0 [] (quote :: (value.val ++ [quote]) ++ p) = _
      rw [List.cons_append, argument_open, List.append_assoc, List.singleton_append,
        argument_verbatim value.property.1 value.property.2 hp 0 fun _ => rfl]
      rfl
  | escaped value =>
      show argument false 0 [] (quote :: (escape 0 value ++ [quote]) ++ p) = _
      rw [List.cons_append, argument_open, List.append_assoc, List.singleton_append,
        argument_escape value hp 0]
      rfl

theorem Piece.text_cons (piece : Piece) : ∃ b q, piece.text = b :: q ∧ ¬ IsBlank b := by
  cases piece with
  | bare word =>
      obtain ⟨b, q, hword⟩ := List.exists_cons_of_ne_nil word.property.1
      have hb := word.property.2 b (by rw [hword]; exact List.mem_cons_self)
      exact ⟨b, q, hword, hb.2.2⟩
  | verbatim value => exact ⟨_, _, rfl, by decide⟩
  | escaped value => exact ⟨_, _, rfl, by decide⟩

theorem bounded_joined_append (pieces : List Piece) {p : List UInt8} (hp : Bounded p) :
    Bounded (joined pieces ++ p) := by
  rcases pieces with - | ⟨piece, pieces⟩
  · exact hp
  · simp [joined, Bounded, IsBlank]

/-- What is written is cut into the arguments that are meant, whatever their bytes are, and what
follows is cut by itself. -/
theorem split_joined_append (pieces : List Piece) {p : List UInt8} (hp : Bounded p) :
    split (joined pieces ++ p) = pieces.map Piece.value ++ split p := by
  induction pieces with
  | nil => rfl
  | cons piece pieces ih =>
      obtain ⟨b, q, htext, hb⟩ := piece.text_cons
      have hpiece := argument_piece piece (bounded_joined_append pieces hp)
      have hskip : (joined (piece :: pieces) ++ p).dropWhile (fun b => IsBlank b)
          = b :: (q ++ (joined pieces ++ p)) := by
        show (32 :: (piece.text ++ joined pieces) ++ p).dropWhile _ = _
        rw [htext, List.cons_append, List.dropWhile_cons_of_pos (by decide), List.append_assoc,
          List.cons_append, List.dropWhile_cons_of_neg (by simpa using hb)]
      rw [htext, List.cons_append] at hpiece
      rw [split]
      split
      · rename_i hno
        rw [hskip] at hno
        cases hno
      · rename_i b' q' heq
        rw [hskip] at heq
        obtain ⟨rfl, rfl⟩ := List.cons.inj heq
        rw [hpiece, ih]
        rfl

/-- A line whose program stands between quotes, up to where its words are known. -/
theorem arguments_joined_append {path : List UInt8} (hpath : quote ∉ path) (pieces : List Piece)
    {p : List UInt8} (hp : Bounded p) :
    arguments (quote :: (path ++ quote :: (joined pieces ++ p)))
      = (path, pieces.map Piece.value ++ split p) := by
  have hinside (text : List UInt8) :
      program true text (path ++ quote :: (joined pieces ++ p))
        = (text ++ path, joined pieces ++ p) := by
    induction path generalizing text with
    | nil =>
        rw [List.nil_append, program, if_pos rfl, List.append_nil]
        have hend := bounded_joined_append pieces hp
        cases hjoined : joined pieces ++ p with
        | nil => rfl
        | cons b p =>
            have hb : IsBlank b := hend b (by rw [hjoined]; rfl)
            have hquote : b ≠ quote := by rcases hb with rfl | rfl <;> decide
            rw [program, if_neg hquote, if_pos ⟨rfl, hb⟩]
    | cons b path ih =>
        have hb : b ≠ quote := fun hno => hpath (hno ▸ List.mem_cons_self)
        have hinside : ¬ (!true ∧ IsBlank b) := by simp
        rw [List.cons_append, program, if_neg hb, if_neg hinside,
          ih fun hno => hpath (List.mem_cons_of_mem b hno)]
        simp
  have hprogram : program false [] (quote :: (path ++ quote :: (joined pieces ++ p)))
      = (path, joined pieces ++ p) := by
    rw [program, if_pos rfl]
    exact hinside []
  rw [arguments, hprogram, split_joined_append pieces hp]

theorem arguments_joined {path : List UInt8} (hpath : quote ∉ path) (pieces : List Piece) :
    arguments (quote :: (path ++ quote :: joined pieces)) = (path, pieces.map Piece.value) := by
  have hempty : split [] = [] := by
    rw [split.eq_def]
    rfl
  have hbounded : Bounded [] := by simp [Bounded]
  have hline := arguments_joined_append hpath pieces hbounded
  rwa [List.append_nil, hempty, List.append_nil] at hline

end CommandLine
