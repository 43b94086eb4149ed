import ReturnForecast.Decimal.Numeral

/-!
# Numbers in table cells

A cell of a table is a number if it is a plain decimal numeral: ASCII digits without separators, a
point, an exponent, blanks around it. The words for infinity stand alone. A cell that says it is no
number is not one, and neither is a numeral beyond the range of doubles.
-/

namespace ReturnForecast.Decimal

/-- Is the text the word for infinity, with or without a sign? -/
def isInfinityWord (s : String) : Bool :=
  let word := String.ofList ((spanSign s.toList).2.map Char.toLower)
  word == "inf" || word == "infinity"

/-- Is the character one that separates digits, or from outside of ASCII? -/
def isForeignToCell (c : Char) : Bool := c == '_' || 0x80 ≤ c.toNat

/-- The number in a cell. -/
def readCell? (s : String) : Option Float :=
  if s.toList.any isForeignToCell then none
  else match readFloat? s with
    | some x => if x.isFinite || isInfinityWord s then some x else none
    | none => none

end ReturnForecast.Decimal
