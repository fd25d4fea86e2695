/-
QsoRipper/Domain/Callsign.lean

Callsigns with slashes: `parse_callsign` splits one into the callsign of the
station and what was put before or behind it.
-/
import QsoRipper.Lib.Text

namespace QsoRipper

/-- `ModifierKind`. -/
inductive ModifierKind where
  | portable
  | mobile
  | maritimeMobile
  | aeronauticalMobile
  | callArea
  | prefixOverride
  | other
  deriving DecidableEq

/-- `proto_modifier_kind`. -/
def ModifierKind.toI32 : ModifierKind → ℤ
  | portable => 1
  | mobile => 2
  | maritimeMobile => 3
  | aeronauticalMobile => 4
  | callArea => 5
  | prefixOverride => 6
  | other => 7

/-- `CallsignAmbiguity`. -/
inductive CallsignAmbiguity where
  | standard
  | ambiguous
  | nonStandard
  deriving DecidableEq

/-- `proto_callsign_ambiguity`. -/
def CallsignAmbiguity.toI32 : CallsignAmbiguity → ℤ
  | standard => 1
  | ambiguous => 2
  | nonStandard => 3

/-- `ParsedCallsign`. -/
structure ParsedCallsign where
  baseCallsign : String
  modifierText : Option String := none
  modifierKind : Option ModifierKind := none
  prefixOverride : Option String := none
  operatingEntityHint : Option String := none
  ambiguity : CallsignAmbiguity := .standard
  deriving DecidableEq

/-- `KNOWN_SUFFIXES`. -/
def knownSuffixes : List (String × ModifierKind) :=
  [("P", .portable), ("M", .mobile), ("MM", .maritimeMobile), ("AM", .aeronauticalMobile)]

/-- `looks_like_prefix`. -/
def looksLikePrefix (segment : String) : Bool :=
  !segment.isEmpty && decide (segment.utf8ByteSize ≤ 4)
    && segment.toList.head?.any (fun c => c.toNat < 128 && c.isAlpha)
    && segment.toList.all fun c => c.toNat < 128 && c.isAlphanum

/-- `looks_like_full_callsign`. -/
def looksLikeFullCallsign (segment : String) : Bool :=
  segment.toList.any Char.isDigit && segment.toList.any fun c => c.toNat < 128 && c.isAlpha

/-- Is the segment one digit? -/
def isCallArea (segment : String) : Bool :=
  match segment.toList with
  | [c] => c.isDigit
  | _ => false

/-- `parse_two_segment`. -/
def parseTwoSegment (left right : String) : ParsedCallsign :=
  match knownSuffixes.find? fun suffix => suffix.1 == right with
  | some (_, kind) =>
      { baseCallsign := left, modifierText := some right, modifierKind := some kind }
  | none =>
      if isCallArea right then
        { baseCallsign := left, modifierText := some right, modifierKind := some .callArea }
      else if looksLikePrefix left && looksLikeFullCallsign right then
        { baseCallsign := right
          modifierText := some left
          modifierKind := some .prefixOverride
          prefixOverride := some left }
      else
        { baseCallsign := left
          modifierText := some right
          modifierKind := some .other
          ambiguity := .nonStandard }

/-- `parse_callsign`. -/
def parseCallsign (normalized : String) : ParsedCallsign :=
  match (normalized.toList.splitOn '/').map String.ofList with
  | [only] => { baseCallsign := only }
  | [left, right] => parseTwoSegment left right
  | [left, middle, _] =>
      { baseCallsign := middle
        modifierText := some left
        modifierKind := some .prefixOverride
        prefixOverride := some left
        ambiguity := .ambiguous }
  | _ => { baseCallsign := normalized, ambiguity := .nonStandard }

/-- The callsign a slash form falls back to. -/
def ParsedCallsign.base (parsed : ParsedCallsign) : Option String :=
  if parsed.modifierKind.isSome then some parsed.baseCallsign else none

example : (parseCallsign "EA8/AE7XI").base = some "AE7XI" := by decide

example : (parseCallsign "AE7XI/5").modifierKind = some .callArea := by decide

end QsoRipper
