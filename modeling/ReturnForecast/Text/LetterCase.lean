import ReturnForecast.Text.CaseTable

/-!
# Upper and lower case

Full case mapping of texts. Upper case maps character by character, and some characters give several
(`ß` gives `SS`). Lower case does too, with one rule that looks around: a capital sigma at the end
of a word becomes `ς`, elsewhere `σ`.
-/

namespace ReturnForecast.Text

/-- The character of a code point that a case table names. -/
private def caseChar (n : Nat) : Char := Char.ofNat n

/-- The upper case of one character. -/
def upperChars (c : Char) : List Char :=
  let n := c.toNat
  if n < 0x80 then [c.toUpper]
  else
    match upperExpansions.find? (fun row => row.1 == n) with
    | some (_, image) => image.map caseChar
    | none => [caseChar (shiftCase upperRuns n)]

/-- A text in upper case. -/
def upper (s : String) : String := String.ofList (s.toList.flatMap upperChars)

/-- Does a code point lie in one of the ranges? -/
private def inRanges (ranges : Array (Nat × Nat)) (c : Char) : Bool :=
  ranges.any (fun range => range.1 ≤ c.toNat && c.toNat ≤ range.2)

/-- Is the first character, apart from those that are skipped, a cased one? -/
def meetsCased (cs : List Char) : Bool :=
  match cs.dropWhile (inRanges caseIgnorableRanges) with
  | c :: _ => inRanges casedRanges c
  | [] => false

/-- The capital sigma, whose lower case depends on its place in the word. -/
def capitalSigma : Char := Char.ofNat 0x3A3

/--
The lower case of one character between the characters before it (nearest first) and after it. A
sigma ends a word if a cased character precedes it and none follows.
-/
def lowerChars (before : List Char) (c : Char) (after : List Char) : List Char :=
  let n := c.toNat
  if n < 0x80 then [c.toLower]
  else if c == capitalSigma then
    [caseChar (if meetsCased before && !meetsCased after then 0x3C2 else 0x3C3)]
  else if n == 0x130 then [caseChar 0x69, caseChar 0x307]
  else [caseChar (shiftCase lowerRuns n)]

/-- Lower case of the characters that follow `before` (nearest first). -/
def lowerAfter (before : List Char) : List Char → List Char
  | [] => []
  | c :: after => lowerChars before c after ++ lowerAfter (c :: before) after

/-- A text in lower case. -/
def lower (s : String) : String := String.ofList (lowerAfter [] s.toList)

end ReturnForecast.Text
