import ReturnForecast.Decimal.Rounding
import ReturnForecast.Text.Blank
import ReturnForecast.Text.Digit

/-!
# Numerals

The numerals that a text may hold: integers with a sign, and decimals with a fraction and an
exponent or the words for infinity and NaN. Blanks around a numeral are ignored, digits may be those
of any script, and a single underscore may stand between two digits. Between an integer and its text
there is a limit on the number of digits; a decimal has none.
-/

namespace ReturnForecast.Decimal

open ReturnForecast.Text

/--
Blanks around a numeral: those of ASCII that separate words and lines, and all others beyond it.
-/
def isNumeralBlank (c : Char) : Bool :=
  if c.toNat < 0x80 then c == ' ' || (0x09 ≤ c.toNat && c.toNat ≤ 0x0D) else isBlank c

/-- A digit of any script as the ASCII digit of its value; other characters stay. -/
def plainDigit (c : Char) : Char :=
  match digitValue? c with
  | some d => Char.ofNat (0x30 + d)
  | none => c

/-- The characters of a numeral: without blanks around it, and with ASCII digits. -/
def numeralChars (s : String) : List Char := (trimBy isNumeralBlank s.toList).map plainDigit

/--
Digits with single underscores between them at the start of a text, and the rest. The flag says
whether a digit stands before; an underscore counts only between two digits.
-/
def spanDigits (afterDigit : Bool) : List Char → List Nat × List Char
  | [] => ([], [])
  | c :: cs =>
    match asciiDigitValue? c with
    | some d =>
      let (ds, rest) := spanDigits true cs
      (d :: ds, rest)
    | none =>
      match c, afterDigit, cs with
      | '_', true, next :: after =>
        match asciiDigitValue? next with
        | some d =>
          let (ds, rest) := spanDigits true after
          (d :: ds, rest)
        | none => ([], c :: next :: after)
      | _, _, _ => ([], c :: cs)

/-- The sign at the start of a numeral, and the rest. -/
def spanSign : List Char → Bool × List Char
  | '-' :: cs => (true, cs)
  | '+' :: cs => (false, cs)
  | cs => (false, cs)

/-- The most digits with which an integer is read from a text or written as one. -/
def maxDigits : Nat := 4300

/-- Has the integer, written in decimal, no more digits than that? -/
def fitsDigits (n : Int) : Bool := (Nat.toDigits 10 n.natAbs).length ≤ maxDigits

/--
The number of digits at the start of a numeral, if these are too many. They are counted before what
is behind them is looked at, but for an underscore out of place.
-/
def excessDigits? (s : String) : Option Nat :=
  let (digits, rest) := spanDigits false (spanSign (numeralChars s)).2
  if maxDigits < digits.length && rest.head? != some '_' then some digits.length else none

/-- An integer numeral that has not too many digits. -/
def readInt? (s : String) : Option Int :=
  let (negative, cs) := spanSign (numeralChars s)
  match spanDigits false cs with
  | (d :: ds, []) =>
    if maxDigits < (d :: ds).length then none
    else
      let n := Int.ofNat (ofDigits (d :: ds))
      some (if negative then -n else n)
  | _ => none

/-- The exponent of a decimal numeral: nothing, or `e`, a sign and digits to the end. -/
def readExponent? : List Char → Option Int
  | [] => some 0
  | c :: cs =>
    if c == 'e' || c == 'E' then
      let (negative, rest) := spanSign cs
      match spanDigits false rest with
      | (d :: ds, []) =>
        let n := Int.ofNat (ofDigits (d :: ds))
        some (if negative then -n else n)
      | _ => none
    else none

/-- A decimal numeral without its sign: digits, a point and digits, and an exponent. -/
def readUnsigned? (cs : List Char) : Option Float :=
  let (whole, rest) := spanDigits false cs
  let (fraction, rest) := match rest with
    | '.' :: after => spanDigits false after
    | _ => ([], rest)
  if whole.isEmpty && fraction.isEmpty then none
  else (readExponent? rest).map fun exponent =>
    toFloat (ofDigits (whole ++ fraction)) (exponent - Int.ofNat fraction.length)

/-- A decimal numeral, or a word for infinity or NaN in any case. -/
def readFloat? (s : String) : Option Float :=
  let (negative, cs) := spanSign (numeralChars s)
  let word := String.ofList (cs.map Char.toLower)
  let magnitude :=
    if word == "inf" || word == "infinity" then some (1.0 / 0.0)
    else if word == "nan" then some (0.0 / 0.0)
    else readUnsigned? cs
  magnitude.map fun x => if negative then -x else x

end ReturnForecast.Decimal
