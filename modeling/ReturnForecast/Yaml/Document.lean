import ReturnForecast.Yaml.Place

/-!
# Documents

A document is one node: a scalar, a list or a mapping. Inside of brackets, items are separated by
commas and may run over lines freely. Outside, items of a list start with a dash and entries of a
mapping with a key and a colon, and the column of the first one is that of all; what belongs to an
item is indented further. A list may stand as deep as the key that it belongs to. A key is a scalar
on one line.
-/

namespace ReturnForecast.Yaml

/-! ## Inside of brackets -/

mutual

/-- A node inside of brackets. -/
def readFlow : (fuel : Nat) → Place → Option (Value × Place)
  | 0, _ => none
  | fuel + 1, p =>
    match p.rest with
    | '[' :: _ => readItems fuel [] (p.skip 1).next
    | '\x7b' :: _ => readEntries fuel [] (p.skip 1).next
    | _ => readScalar true 0 p

/-- The items of a list up to its bracket, those before it last first. -/
def readItems : (fuel : Nat) → List Value → Place → Option (Value × Place)
  | 0, _, _ => none
  | fuel + 1, before, p =>
    match p.rest with
    | ']' :: _ => some (.list before.reverse, p.skip 1)
    | _ =>
      match readPair fuel p with
      | none => none
      | some ((key, value), q) =>
        let items := (value.elim key fun value => .map [(key, value)]) :: before
        match q.rest with
        | ',' :: _ => readItems fuel items (q.skip 1).next
        | ']' :: _ => some (.list items.reverse, q.skip 1)
        | _ => none

/-- The entries of a mapping up to its brace, those before it last first. -/
def readEntries : (fuel : Nat) → List (Value × Value) → Place → Option (Value × Place)
  | 0, _, _ => none
  | fuel + 1, before, p =>
    match p.rest with
    | '\x7d' :: _ => some (.ofEntries before.reverse, p.skip 1)
    | _ =>
      match readPair fuel p with
      | none => none
      | some ((key, value), q) =>
        if key.isCompound then none
        else
          let entries := (key, value.getD .null) :: before
          match q.rest with
          | ',' :: _ => readEntries fuel entries (q.skip 1).next
          | '\x7d' :: _ => some (.ofEntries entries.reverse, q.skip 1)
          | _ => none

/-- A node with what follows its colon, if it has one, and the place of the token behind. -/
def readPair : (fuel : Nat) → Place → Option ((Value × Option Value) × Place)
  | 0, _ => none
  | fuel + 1, p =>
    match readFlow fuel p with
    | none => none
    | some (key, q) =>
      let mark := q.next
      match mark.rest with
      | ':' :: _ =>
        if mark.line = p.line && !key.isCompound then
          let start := (mark.skip 1).next
          match start.rest with
          | ',' :: _ | ']' :: _ | '\x7d' :: _ => some ((key, some .null), start)
          | _ => (readFlow fuel start).map fun (value, q) => ((key, some value), q.next)
        else none
      | _ => some ((key, none), mark)

end

/-! ## Outside of brackets -/

/-- Does an item of a list start here? -/
def isDash : List Char → Bool
  | '-' :: cs => isWordEnd cs
  | _ => false

/-- A node that does not rely on indentation. -/
def readInline (fuel least : Nat) (p : Place) : Option (Value × Place) :=
  match p.rest with
  | '[' :: _ | '\x7b' :: _ => readFlow fuel p
  | _ => readScalar false least p

/-- The place behind the colon that follows a key. -/
def afterKey? (p : Place) : Option Place :=
  let mark := p.skipSpaces
  match mark.rest with
  | ':' :: cs => if isWordEnd cs then some (mark.skip 1) else none
  | _ => none

/-- A key on one line, and the place behind its colon. -/
def readKey (fuel least : Nat) (p : Place) : Option (Value × Place) := do
  let (key, q) ← readInline fuel least p
  let after ← afterKey? q
  if q.line = p.line && !key.isCompound then some (key, after) else none

mutual

/-- A node; a collection may start here if the node is the first on its line or behind a dash. -/
def readBlock : (fuel : Nat) → (least : Nat) → (first : Bool) → Place → Option (Value × Place)
  | 0, _, _, _ => none
  | fuel + 1, least, first, p =>
    if isDash p.rest then
      if first then readBlockItems fuel p.column [] p else none
    else
      match readInline fuel least p with
      | none => none
      | some (node, q) =>
        match afterKey? q with
        | some after =>
          if first && q.line = p.line && !node.isCompound then
            readBlockEntries fuel p.column [] node after
          else none
        | none => if q.atLineEnd then some (node, q) else none

/-- The items of a list from a dash on, those before it last first. -/
def readBlockItems : (fuel : Nat) → (column : Nat) → List Value → Place → Option (Value × Place)
  | 0, _, _, _ => none
  | fuel + 1, column, before, p =>
    let after := p.skip 1
    let start := after.next
    let item :=
      if !start.atEnd && (start.line = after.line || column < start.column) then
        readBlock fuel (column + 1) true start
      else some (.null, after)
    match item with
    | none => none
    | some (value, q) =>
      let items := value :: before
      let start := q.next
      if start.atEnd || start.column < column then some (.list items.reverse, q)
      else if start.column = column then
        if isDash start.rest then readBlockItems fuel column items start
        else some (.list items.reverse, q)
      else none

/-- The entries of a mapping from behind a key on, those before it last first. -/
def readBlockEntries : (fuel : Nat) → (column : Nat) → List (Value × Value) → (key : Value) →
    Place → Option (Value × Place)
  | 0, _, _, _, _ => none
  | fuel + 1, column, before, key, after =>
    match readBlockValue fuel column after with
    | none => none
    | some (value, q) =>
      let entries := (key, value) :: before
      let start := q.next
      if start.atEnd || start.column < column then some (.ofEntries entries.reverse, q)
      else if start.column = column then
        match readKey fuel (column + 1) start with
        | some (key, after) => readBlockEntries fuel column entries key after
        | none => none
      else none

/-- The value of an entry, from behind its colon on. -/
def readBlockValue : (fuel : Nat) → (column : Nat) → Place → Option (Value × Place)
  | 0, _, _ => none
  | fuel + 1, column, after =>
    let start := after.next
    if start.atEnd then some (.null, after)
    else if start.line = after.line then readBlock fuel (column + 1) false start
    else if column < start.column then readBlock fuel (column + 1) true start
    else if start.column = column && isDash start.rest then readBlockItems fuel column [] start
    else some (.null, after)

end

/-! ## Texts -/

/-- The characters that a text may hold: line ends, tabs, and what can be shown. -/
def isAllowed (c : Char) : Bool :=
  let n := c.toNat
  n = 0x09 || n = 0x0A || n = 0x0D || (0x20 ≤ n && n ≤ 0x7E) || n = 0x85 || (0xA0 ≤ n && n ≤ 0xFFFD)
    || 0x10000 ≤ n

/-- The characters of a text with one sort of line ends. -/
def unifyLineEnds : List Char → List Char
  | '\r' :: '\n' :: cs => '\n' :: unifyLineEnds cs
  | '\r' :: cs => '\n' :: unifyLineEnds cs
  | c :: cs => c :: unifyLineEnds cs
  | [] => []

/-- Enough for the depth of a reading: a step or two before each character that is read. -/
def depthOf (cs : List Char) : Nat := 4 * (cs.length + 2)

/--
The value of a document; an empty one is null. In a document, the first integer with too many digits
is a fault.
-/
def read? (text : String) : Option (Except NumeralFault Value) :=
  let cs := unifyLineEnds text.toList
  if cs.all isAllowed then
    let start := Place.next { rest := cs }
    if start.atEnd then some (.ok .null)
    else match readBlock (depthOf cs) 0 true start with
      | some (value, q) =>
        if q.next.atEnd then
          match q.excess with
          | none => some (.ok value)
          | some count => some (.error (.tooManyDigits count))
        else none
      | none => none
  else none

end ReturnForecast.Yaml
