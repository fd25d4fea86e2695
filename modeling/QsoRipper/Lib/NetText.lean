/-
QsoRipper/Lib/NetText.lean

The part of the .NET string API that the managed engine is written with:
`ToUpperInvariant`, the ordinal comparisons, `IsNullOrWhiteSpace`, `Contains`.

`Trim` and `char.IsWhiteSpace` agree with Rust's, so `Text.trim` serves both.
The invariant uppercase mapping is the simple one, character by character: what
the full mapping makes longer stays as it is, and so do the dotless `ı` and the
long `ſ`.  Ordinal comparison goes by UTF-16 code units.
-/
import QsoRipper.Lib.Text

namespace NetText

/-! ### Case -/

/-- `char.ToUpperInvariant`. -/
def upperInvariantChar (c : Char) : Char :=
  let n := c.toNat
  if n = 0x131 ∨ n = 0x17F then c
  -- the full mapping writes these with an iota behind them
  else if n ∈ [0x1FB3, 0x1FC3, 0x1FF3] then Char.ofNat (n + 9)
  else if 0x1F80 ≤ n ∧ n ≤ 0x1FA7 ∧ n % 16 < 8 then Char.ofNat (n + 8)
  else
    match Text.upperChar c with
    | [d] => d
    | _ => c

/-- `string.ToUpperInvariant`. -/
def toUpperInvariant (s : String) : String := String.ofList (s.toList.map upperInvariantChar)

/-- `string.Equals(…, StringComparison.OrdinalIgnoreCase)`. -/
def equalsIgnoreCase (s t : String) : Bool := toUpperInvariant s == toUpperInvariant t

/-- `string.Contains(…, StringComparison.OrdinalIgnoreCase)`. -/
def containsIgnoreCase (s t : String) : Bool :=
  Text.contains (toUpperInvariant s) (toUpperInvariant t)

/-! ### Blank texts -/

/-- `string.IsNullOrWhiteSpace` of a string that is there. -/
def isWhiteSpace (s : String) : Bool := (Text.trim s).isEmpty

/-- `string.IsNullOrWhiteSpace`. -/
def isNullOrWhiteSpace (s : Option String) : Bool := s.all isWhiteSpace

/-- A text that is not blank. -/
def NonBlank := { s : String // isWhiteSpace s = false }

theorem ne_empty_of_nonBlank {s : String} (h : isWhiteSpace s = false) : s ≠ "" := by
  rintro rfl
  simp [isWhiteSpace, Text.trim_empty] at h

/-! ### Ordinal order -/

/-- The UTF-16 code units of a character. -/
def utf16Char (c : Char) : List ℕ :=
  let n := c.toNat
  if n < 0x10000 then [n] else [0xD800 + (n - 0x10000) / 0x400, 0xDC00 + (n - 0x10000) % 0x400]

/-- The UTF-16 code units of a text. -/
def utf16 (s : String) : List ℕ := s.toList.flatMap utf16Char

/-- `StringComparer.Ordinal`. -/
def ordinalLe (s t : String) : Bool := decide (utf16 s ≤ utf16 t)

end NetText
