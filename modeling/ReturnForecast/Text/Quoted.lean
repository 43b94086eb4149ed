import ReturnForecast.Text.PrintableTable

/-!
# Quoted texts

A text in a message stands between quotes. Single quotes are used, unless the text holds a single
and no double one. The backslash and the closing quote are escaped, tab and line ends have short
escapes, and what has no visible form is written by its code in hexadecimal digits.
-/

namespace ReturnForecast.Text

/-- A number in lower-case hexadecimal digits, at least `width` of them. -/
def hexPadded (width n : Nat) : List Char :=
  let digits := Nat.toDigits 16 n
  List.replicate (width - digits.length) '0' ++ digits

/-- One character inside quotes. -/
def escapeChar (quote c : Char) : List Char :=
  if c == quote || c == '\\' then ['\\', c]
  else if c == '\t' then ['\\', 't']
  else if c == '\n' then ['\\', 'n']
  else if c == '\r' then ['\\', 'r']
  else if isPrintable c then [c]
  else if c.toNat < 0x100 then '\\' :: 'x' :: hexPadded 2 c.toNat
  else if c.toNat < 0x10000 then '\\' :: 'u' :: hexPadded 4 c.toNat
  else '\\' :: 'U' :: hexPadded 8 c.toNat

/-- The quote that needs the fewest escapes; single where that decides nothing. -/
def chooseQuote (cs : List Char) : Char :=
  if cs.contains '\'' && !cs.contains '"' then '"' else '\''

/-- A text between quotes, with escapes. -/
def quote (s : String) : String :=
  let cs := s.toList
  let q := chooseQuote cs
  String.ofList (q :: cs.flatMap (escapeChar q) ++ [q])

end ReturnForecast.Text
