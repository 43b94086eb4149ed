import ReturnForecast.Yaml.Folded
import ReturnForecast.Yaml.Scalar

/-!
# Places and scalars

A place in a text is the rest of the text with its line and column. From a place on, the gap before
the next token is skipped, or a scalar is read: plain, in single quotes, or in double quotes. Blanks
are spaces; a tab is one inside of quotes only. An integer with too many digits does not stop the
reading, as a text that is no document comes first, but the place behind it remembers it.
-/

namespace ReturnForecast.Yaml

/-- A place in a text. -/
structure Place where
  rest : List Char
  line : Nat := 0
  column : Nat := 0
  /-- The number of digits of the first integer before this place that has too many. -/
  excess : Option Nat := none

/-- Is this the end of a word: a blank, a tab, a line end, or the end of the text? -/
def isWordEnd : List Char → Bool
  | [] => true
  | c :: _ => c == ' ' || c == '\t' || c == '\n'

/-- The next token behind spaces, line ends and comments. -/
def skipGap (inComment : Bool) (line column : Nat) : List Char → Place
  | [] => { rest := [], line, column }
  | c :: cs =>
    if c = '\n' then skipGap false (line + 1) 0 cs
    else if inComment || c == ' ' then skipGap inComment line (column + 1) cs
    else if c = '#' then skipGap true line (column + 1) cs
    else { rest := c :: cs, line, column }

namespace Place

/-- The place of the next token. -/
def next (p : Place) : Place :=
  { skipGap false p.line p.column p.rest with excess := p.excess }

/-- The place behind a number of characters on the line. -/
def skip (p : Place) (count : Nat) : Place :=
  { p with rest := p.rest.drop count, column := p.column + count }

/-- The place behind the spaces on the line. -/
def skipSpaces (p : Place) : Place := p.skip (p.rest.takeWhile (· == ' ')).length

/-- Is the place at the end of the text? -/
def atEnd (p : Place) : Bool := p.rest.isEmpty

/-- Is there nothing more on the line? -/
def atLineEnd (p : Place) : Bool := p.next.atEnd || p.line < p.next.line

end Place

/-! ## Plain scalars -/

/-- The characters that separate nodes inside of brackets. -/
def flowMarks : List Char := [',', '[', ']', '\x7b', '\x7d']

/-- The characters with which a plain scalar cannot start, unless they are part of a word. -/
def marks : List Char :=
  ['-', '?', ':', '#', '&', '*', '!', '|', '>', '\'', '"', '%', '@', '\x60'] ++ flowMarks

/-- Does a plain scalar start here? -/
def startsPlain (inFlow : Bool) : List Char → Bool
  | [] => false
  | c :: cs =>
    if isWordEnd (c :: cs) then false
    else if marks.contains c then
      (c == '-' || (!inFlow && (c == '?' || c == ':'))) && !isWordEnd cs
    else true

/-- Does a colon end a plain scalar before these characters? -/
def endsKey (inFlow : Bool) (cs : List Char) : Bool :=
  isWordEnd cs || (inFlow && (cs.head?.any flowMarks.contains))

/-- Does a plain scalar go on with this character? -/
def continuesPlain (inFlow : Bool) (least column : Nat) (f : Folded) (c : Char) (cs : List Char) :
    Bool :=
  !(c == '\t')
    && !(f.isPending && c == '#')
    && !(f.breaks.isSome && !inFlow && decide (column < least))
    && !(c == ':' && endsKey inFlow cs)
    && !(inFlow && (c == '?' || flowMarks.contains c))

/--
The words of a plain scalar, and the place behind the last one. Lines that go on with it are
indented.
-/
def readPlain (inFlow : Bool) (least line column : Nat) (f : Folded) (stop : Place) :
    List Char → String × Place
  | [] => (f.words, stop)
  | c :: cs =>
    if c = ' ' then readPlain inFlow least line (column + 1) (f.blank ' ') stop cs
    else if c = '\n' then readPlain inFlow least (line + 1) 0 f.lineEnd stop cs
    else if continuesPlain inFlow least column f c cs then
      let behind : Place := { rest := cs, line, column := column + 1 }
      readPlain inFlow least line (column + 1) (f.add c) behind cs
    else (f.words, stop)

/-! ## Quoted scalars -/

/-- The text up to a single quote; a quote inside is written twice. -/
def readSingle (line column : Nat) (f : Folded) : List Char → Option (String × Place)
  | [] => none
  | '\'' :: '\'' :: cs => readSingle line (column + 2) (f.add '\'') cs
  | '\'' :: cs => some (f.whole, { rest := cs, line, column := column + 1 })
  | '\n' :: cs => readSingle (line + 1) 0 f.lineEnd cs
  | c :: cs =>
    if c = ' ' ∨ c = '\t' then readSingle line (column + 1) (f.blank c) cs
    else readSingle line (column + 1) (f.add c) cs

/-- What a letter behind a backslash stands for. -/
def escapes : List (Char × Nat) :=
  [('0', 0x00), ('a', 0x07), ('b', 0x08), ('t', 0x09), ('\t', 0x09), ('n', 0x0A), ('v', 0x0B),
    ('f', 0x0C), ('r', 0x0D), ('e', 0x1B), (' ', 0x20), ('"', 0x22), ('\\', 0x5C), ('/', 0x2F),
    ('N', 0x85), ('_', 0xA0), ('L', 0x2028), ('P', 0x2029)]

/-- The character with a code point in hexadecimal digits. -/
def charOfHex? (digits : List Char) : Option Char :=
  let n := numberOf 16 digits
  if digits.all (fun c => hexValue c < 16) && n.isValidChar then some (Char.ofNat n) else none

/-- The text up to a double quote, with escapes behind backslashes. -/
def readDouble (line column : Nat) (f : Folded) : List Char → Option (String × Place)
  | [] => none
  | '"' :: cs => some (f.whole, { rest := cs, line, column := column + 1 })
  | '\\' :: '\n' :: cs => readDouble (line + 1) 0 f.join cs
  | '\\' :: 'x' :: a :: b :: cs =>
    match charOfHex? [a, b] with
    | some c => readDouble line (column + 4) (f.add c) cs
    | none => none
  | '\\' :: 'u' :: a :: b :: c :: d :: cs =>
    match charOfHex? [a, b, c, d] with
    | some c => readDouble line (column + 6) (f.add c) cs
    | none => none
  | '\\' :: 'U' :: a :: b :: c :: d :: a' :: b' :: c' :: d' :: cs =>
    match charOfHex? [a, b, c, d, a', b', c', d'] with
    | some c => readDouble line (column + 10) (f.add c) cs
    | none => none
  | '\\' :: e :: cs =>
    match escapes.lookup e with
    | some n => readDouble line (column + 2) (f.add (Char.ofNat n)) cs
    | none => none
  | '\n' :: cs => readDouble (line + 1) 0 f.lineEnd cs
  | c :: cs =>
    if c = ' ' ∨ c = '\t' then readDouble line (column + 1) (f.blank c) cs
    else readDouble line (column + 1) (f.add c) cs

/-- The scalar at a place, and the place behind it. -/
def readScalar (inFlow : Bool) (least : Nat) (p : Place) : Option (Value × Place) :=
  let asText : String × Place → Value × Place := fun (s, q) =>
    (.text s, { q with excess := p.excess })
  match p.rest with
  | '\'' :: cs => (readSingle p.line (p.column + 1) {} cs).map asText
  | '"' :: cs => (readDouble p.line (p.column + 1) {} cs).map asText
  | cs =>
    if startsPlain inFlow cs then
      let (s, q) := readPlain inFlow least p.line p.column {} p cs
      some (plainValue s, { q with excess := p.excess.or (plainExcess? s) })
    else none

end ReturnForecast.Yaml
