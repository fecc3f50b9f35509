/-
This file defines tables of characters whose other case is one character. Such
characters come in ranges, in which the way to the other case is the same.
-/

namespace ExportIndex.Text

/-- Every `step`-th code point of a range, and how far its other case is away. -/
structure CaseRange where
  first : Nat
  last : Nat
  step : Nat
  shift : Int

namespace CaseRange

def contains (range : CaseRange) (code : Nat) : Bool :=
  range.first ≤ code && code ≤ range.last && (code - range.first) % range.step == 0

/-- The other case of a character in one of the ranges. -/
def shifted? (ranges : List CaseRange) (character : Char) : Option Char :=
  (ranges.find? fun range => range.contains character.toNat).map fun range =>
    Char.ofNat ((character.toNat : Int) + range.shift).toNat

end CaseRange

end ExportIndex.Text
