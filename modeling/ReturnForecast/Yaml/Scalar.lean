import ReturnForecast.Value

/-!
# Types of plain scalars

A scalar that is written without quotes is a truth value, a double, an integer, null or a text, by
its form alone. A double needs a point, and a sign in its exponent; an integer may be binary, octal,
hexadecimal, or have places that count by sixty. Underscores between digits are ignored.
-/

namespace ReturnForecast.Yaml

open ReturnForecast.Decimal (spanSign)

/-! ## Forms -/

/-- The spellings of null. -/
def nullWords : List String := ["", "~", "null", "Null", "NULL"]

/-- The spellings of the two truth values. -/
def truthWords : List (String × Bool) :=
  [("yes", true), ("Yes", true), ("YES", true), ("no", false), ("No", false), ("NO", false),
    ("true", true), ("True", true), ("TRUE", true), ("false", false), ("False", false),
    ("FALSE", false), ("on", true), ("On", true), ("ON", true), ("off", false), ("Off", false),
    ("OFF", false)]

/-- The spellings of infinity, behind a sign or none. -/
def infinityWords : List String := [".inf", ".Inf", ".INF"]

/-- The spellings of NaN. -/
def nanWords : List String := [".nan", ".NaN", ".NAN"]

/-- Is the character a digit or an underscore? -/
def isDigitOrGap (c : Char) : Bool := c.isDigit || c == '_'

/-- A digit and then digits and underscores. -/
def isDigits : List Char → Bool
  | [] => false
  | c :: cs => c.isDigit && cs.all isDigitOrGap

/-- Digits and underscores behind a first digit that is not zero. -/
def isCount (cs : List Char) : Bool := isDigits cs && cs.head? ≠ some '0'

/-- The value of a digit of a base up to sixteen. -/
def hexValue (c : Char) : Nat :=
  if c.isDigit then c.toNat - '0'.toNat
  else if 'a' ≤ c && c ≤ 'f' then c.toNat - 'a'.toNat + 10
  else if 'A' ≤ c && c ≤ 'F' then c.toNat - 'A'.toNat + 10
  else 16

/-- Digits of a base and underscores, one at least. -/
def isNumeralOf (base : Nat) (cs : List Char) : Bool :=
  !cs.isEmpty && cs.all fun c => c == '_' || hexValue c < base

/-- The number that digits of a base stand for. Underscores do not count. -/
def numberOf (base : Nat) (cs : List Char) : Nat :=
  (cs.filter (· ≠ '_')).foldl (fun n c => base * n + hexValue c) 0

/-- An exponent with its sign, or nothing. -/
def isSignedExponent : List Char → Bool
  | [] => true
  | e :: sign :: cs =>
    (e == 'e' || e == 'E') && (sign == '-' || sign == '+') && !cs.isEmpty && cs.all Char.isDigit
  | _ => false

/-- The parts of a text between colons. -/
def partsAtColons : List Char → List (List Char)
  | [] => [[]]
  | c :: cs =>
    if c = ':' then [] :: partsAtColons cs
    else match partsAtColons cs with
      | part :: parts => (c :: part) :: parts
      | [] => [[c]]

/-- A place that counts by sixty: one or two digits. -/
def isSixtieth : List Char → Bool
  | [d] => d.isDigit
  | [t, d] => '0' ≤ t && t ≤ '5' && d.isDigit
  | _ => false

/-! ## Integers -/

/-- Places that count by sixty, as one integer. -/
def sixtiesOf (parts : List (List Char)) : Nat :=
  parts.foldl (fun n part => 60 * n + numberOf 10 part) 0

/-- An integer without its sign. -/
def unsignedInt? (cs : List Char) : Option Nat :=
  match cs with
  | '0' :: 'b' :: digits => if isNumeralOf 2 digits then some (numberOf 2 digits) else none
  | '0' :: 'x' :: digits => if isNumeralOf 16 digits then some (numberOf 16 digits) else none
  | ['0'] => some 0
  | '0' :: digits => if isNumeralOf 8 digits then some (numberOf 8 digits) else none
  | cs =>
    if isCount cs then some (numberOf 10 cs)
    else match partsAtColons cs with
      | first :: second :: rest =>
        if isCount first && (second :: rest).all isSixtieth then
          some (sixtiesOf (first :: second :: rest))
        else none
      | _ => none

/-- The integer that a plain scalar is. -/
def int? (cs : List Char) : Option Int :=
  let (negative, rest) := spanSign cs
  (unsignedInt? rest).map fun n => if negative then -(n : Int) else n

/--
The number of digits of an integer, if these are too many. The digits of a base are not limited, and
of places that count by sixty only the first one can have many.
-/
def excessDigits? (cs : List Char) : Option Nat :=
  let first := (spanSign cs).2.takeWhile isDigitOrGap
  let count := first.countP Char.isDigit
  if isCount first && Decimal.maxDigits < count then some count else none

/-! ## Doubles -/

/-- A double of digits, without underscores. -/
def doubleOf (cs : List Char) : Float :=
  (Decimal.readFloat? (String.ofList (cs.filter (· ≠ '_')))).getD 0

/-- Is this a fraction: digits, a point, digits or none, and an exponent or none? -/
def isFraction (cs : List Char) : Bool :=
  match cs.span (· ≠ '.') with
  | (whole, '.' :: rest) => isDigits whole && isSignedExponent (rest.dropWhile isDigitOrGap)
  | _ => false

/-- Is this a point, digits, and an exponent or none? -/
def isBareFraction (cs : List Char) : Bool :=
  match cs with
  | '.' :: rest =>
    isDigits (rest.takeWhile isDigitOrGap) && isSignedExponent (rest.dropWhile isDigitOrGap)
  | _ => false

/-- Is this a last place that counts by sixty, with a point and digits or none? -/
def isLastSixtieth (cs : List Char) : Bool :=
  match cs.span (· ≠ '.') with
  | (whole, '.' :: rest) => isSixtieth whole && rest.all isDigitOrGap
  | _ => false

/-- Places that count by sixty, as one double, summed from the last place on. -/
def sixtiesFrom (sum unit : Float) : List (List Char) → Float
  | [] => sum
  | part :: parts => sixtiesFrom (sum + doubleOf part * unit) (unit * 60) parts

/-- A double with places that count by sixty. -/
def sixtiesDouble? (cs : List Char) : Option Float :=
  match (partsAtColons cs).reverse with
  | last :: previous :: rest =>
    let places := (previous :: rest).reverse
    if isDigits (places.headD []) && places.tail.all isSixtieth && isLastSixtieth last then
      some (sixtiesFrom 0 1 (last :: previous :: rest))
    else none
  | _ => none

/-- A double without its sign. -/
def unsignedDouble? (cs : List Char) : Option Float :=
  if infinityWords.contains (String.ofList cs) then some (1 / 0)
  else if isFraction cs then some (doubleOf cs)
  else sixtiesDouble? cs

/-- The double that a plain scalar is. -/
def double? (cs : List Char) : Option Float :=
  if nanWords.contains (String.ofList cs) then some (0 / 0)
  else if isBareFraction cs then some (doubleOf cs)
  else
    let (negative, rest) := spanSign cs
    (unsignedDouble? rest).map fun x => if negative then -x else x

/-- The value that a plain scalar stands for. -/
def plainValue (s : String) : Value :=
  if nullWords.contains s then .null
  else match truthWords.lookup s with
    | some b => .bool b
    | none =>
      match double? s.toList with
      | some x => .real x
      | none =>
        match int? s.toList with
        | some n => .int n
        | none => .text s

/-- The number of digits of a plain scalar that is an integer with too many. -/
def plainExcess? (s : String) : Option Nat :=
  match plainValue s with
  | .int _ => excessDigits? s.toList
  | _ => none

end ReturnForecast.Yaml
