import ReturnForecast.Decimal.Shortest
import ReturnForecast.Decimal.Numeral
import ReturnForecast.Text.Quoted

/-!
# Untyped values

A configuration arrives as an untyped value: a scalar, a list, or a mapping whose entries keep their
order. This module holds the type, when two keys are one, how a value is shown in a message, and how
it is read as a number. An integer with too many digits is a value, but has no text.

Keys that are equal as numbers are one key, whatever their spelling: `1`, `1.0` and `true`. The
mapping keeps the first spelling and its place, and the last value.
-/

namespace ReturnForecast

/-- An untyped value. -/
inductive Value where
  | null
  | bool (b : Bool)
  | int (n : Int)
  | real (x : Float)
  | text (s : String)
  | list (items : List Value)
  | map (entries : List (Value × Value))
deriving Inhabited

/-- Why a value is not a number. -/
inductive NumeralFault where
  /-- The text is no integer numeral. -/
  | badInteger (text : String)
  /-- The text is no decimal numeral. -/
  | badDecimal (text : String)
  /-- A value of this type has no integer. -/
  | noInteger (typeName : String)
  /-- A value of this type has no decimal. -/
  | noDecimal (typeName : String)
  | nanToInteger
  | infinityToInteger
  | tooLarge
  /-- A text starts with so many digits, more than are read as an integer. -/
  | tooManyDigits (count : Nat)
  /-- An integer has more digits than are written. -/
  | unwritable
deriving DecidableEq, Repr

namespace Value

/-- The name of a value's type, as messages show it. -/
def typeName : Value → String
  | null => "NoneType"
  | bool _ => "bool"
  | int _ => "int"
  | real _ => "float"
  | text _ => "str"
  | list _ => "list"
  | map _ => "dict"

/-- A value counts as given unless it is null, false, zero or empty. -/
def isGiven : Value → Bool
  | null => false
  | bool b => b
  | int n => n != 0
  | real x => !(x == 0)
  | text s => !s.isEmpty
  | list items => !items.isEmpty
  | map entries => !entries.isEmpty

/-! ## Text of a value -/

mutual

/--
A value as it is shown inside a message: texts in quotes, mappings in braces. These are the
characters of a value that can be written; see `isWritable`.
-/
def quoted : Value → String
  | null => "None"
  | bool b => if b then "True" else "False"
  | int n => toString n
  | real x => Decimal.text x
  | text s => Text.quote s
  | list items => "[" ++ String.intercalate ", " (quotedItems items) ++ "]"
  | map entries => "\x7b" ++ String.intercalate ", " (quotedEntries entries) ++ "\x7d"

/-- The items of a list, each as it is shown inside a message. -/
def quotedItems : List Value → List String
  | [] => []
  | item :: items => quoted item :: quotedItems items

/-- The entries of a mapping, each as it is shown inside a message. -/
def quotedEntries : List (Value × Value) → List String
  | [] => []
  | (key, value) :: entries => (quoted key ++ ": " ++ quoted value) :: quotedEntries entries

end

/--
A value as a text of its own: a text as it is, anything else as inside a message. These are the
characters of a value that can be written; `written` tells whether it can.
-/
def toText : Value → String
  | text s => s
  | v => v.quoted

mutual

/-- Can the value be written? It cannot if it is, or holds, an integer with too many digits. -/
def isWritable : Value → Bool
  | int n => Decimal.fitsDigits n
  | list items => itemsWritable items
  | map entries => entriesWritable entries
  | null | bool _ | real _ | text _ => true

/-- Can all items of a list be written? -/
def itemsWritable : List Value → Bool
  | [] => true
  | item :: items => isWritable item && itemsWritable items

/-- Can all entries of a mapping be written, keys and values? -/
def entriesWritable : List (Value × Value) → Bool
  | [] => true
  | (key, value) :: entries => isWritable key && isWritable value && entriesWritable entries

end

/-- A list can be written if all its items can. -/
theorem isWritable_list : ∀ items : List Value, (list items).isWritable = items.all isWritable
  | [] => rfl
  | item :: items => congrArg (isWritable item && ·) (isWritable_list items)

/-- The text of a value that can be written. -/
def written (v : Value) : Except NumeralFault String :=
  if v.isWritable then .ok v.toText else .error .unwritable

@[simp] theorem written_text (s : String) : (text s).written = .ok s := rfl

theorem written_of_not_isWritable {v : Value} (h : v.isWritable = false) :
    v.written = .error .unwritable := if_neg (Bool.eq_false_iff.mp h)

theorem eq_toText_of_written {v : Value} {s : String} (h : v.written = .ok s) : s = v.toText := by
  unfold written at h
  split at h
  · exact (Except.ok.inj h).symm
  · cases h

theorem not_isWritable_of_written {v : Value} {cause : NumeralFault}
    (h : v.written = .error cause) : v.isWritable = false ∧ cause = .unwritable := by
  unfold written at h
  split at h
  · cases h
  · next hwritable => exact ⟨Bool.eq_false_iff.mpr hwritable, (Except.error.inj h).symm⟩

/-! ## Keys -/

/-- A finite number as a fraction. -/
def fraction? : Value → Option (Int × Nat)
  | bool b => some (if b then 1 else 0, 1)
  | int n => some (n, 1)
  | real x => (Decimal.Dyadic.ofFloat? x).map fun d => (d.signedNum, d.den)
  | _ => none

/-- Are the values the same key? Numbers are compared by value. -/
def sameKey (a b : Value) : Bool :=
  match a, b with
  | null, null => true
  | text s, text t => s == t
  | _, _ =>
    match a.fraction?, b.fraction? with
    | some (n, d), some (m, e) => n * e == m * d
    | none, none =>
      match a, b with
      | real x, real y => x == y
      | _, _ => false
    | _, _ => false

/-- Is the value a number? Truth values count as 0 and 1. -/
def isNumber : Value → Bool
  | bool _ | int _ | real _ => true
  | _ => false

/-- Is the value a text? -/
def isText : Value → Bool
  | text _ => true
  | _ => false

/-- Is the first of two numbers below the second? -/
def numberLt (a b : Value) : Bool :=
  match a.fraction?, b.fraction? with
  | some (n, d), some (m, e) => n * e < m * d
  | none, some _ => match a with
    | real x => x < 0
    | _ => false
  | some _, none => match b with
    | real y => 0 < y
    | _ => false
  | none, none => match a, b with
    | real x, real y => x < y
    | _, _ => false

/-- Is the value a list or a mapping, which cannot be a key? -/
def isCompound : Value → Bool
  | list _ | map _ => true
  | _ => false

/-- A text's characters, no character for other values. -/
def asText : Value → String
  | text s => s
  | _ => ""

/--
Keys in ascending order: texts by code point, numbers by value. Keys of different sorts have no
order, and neither have several keys of another sort.
-/
def sortKeys? (keys : List Value) : Option (List Value) :=
  if keys.all isText then some (keys.mergeSort (fun a b => !(b.asText < a.asText)))
  else if keys.all isNumber then some (keys.mergeSort (fun a b => !numberLt b a))
  else if keys.length ≤ 1 then some keys
  else none

/-- An entry added to a mapping: a present key keeps its place and spelling. -/
def putEntry (entries : List (Value × Value)) (key value : Value) : List (Value × Value) :=
  if entries.any (fun entry => sameKey entry.1 key) then
    entries.map (fun entry => if sameKey entry.1 key then (entry.1, value) else entry)
  else entries ++ [(key, value)]

/-- A mapping from entries in writing order. -/
def ofEntries (entries : List (Value × Value)) : Value :=
  map (entries.foldl (fun acc entry => putEntry acc entry.1 entry.2) [])

/-- The value of a text key. -/
def entry? (entries : List (Value × Value)) (key : String) : Option Value :=
  (entries.find? (fun entry => sameKey entry.1 (text key))).map (·.2)

/-- The entries without a text key. -/
def dropEntry (entries : List (Value × Value)) (key : String) : List (Value × Value) :=
  entries.filter (fun entry => !sameKey entry.1 (text key))

/-- The keys that are none of the given names. -/
def unknownKeys (entries : List (Value × Value)) (known : List String) : List Value :=
  (entries.map (·.1)).filter (fun key => !known.any (fun name => sameKey key (text name)))

/-! ## Numbers -/

/-- The double nearest to an integer; there is none beyond the largest double. -/
def floatOfInt (n : Int) : Except NumeralFault Float :=
  let x := Decimal.toFloat n.natAbs 0
  if x.isFinite then .ok (if n < 0 then -x else x) else .error .tooLarge

/-- A value read as a double. -/
def toFloat : Value → Except NumeralFault Float
  | bool b => .ok (if b then 1.0 else 0.0)
  | int n => floatOfInt n
  | real x => .ok x
  | text s => match Decimal.readFloat? s with
    | some x => .ok x
    | none => .error (.badDecimal s)
  | v => .error (.noDecimal v.typeName)

/--
A value read as an integer: a double loses its fraction, a text has to be an integer numeral with
not too many digits.
-/
def toInt : Value → Except NumeralFault Int
  | bool b => .ok (if b then 1 else 0)
  | int n => .ok n
  | real x =>
    if Decimal.isNaN x then .error .nanToInteger
    else if x.isFinite then .ok (Decimal.truncInt x)
    else .error .infinityToInteger
  | text s => match Decimal.excessDigits? s with
    | some count => .error (.tooManyDigits count)
    | none => match Decimal.readInt? s with
      | some n => .ok n
      | none => .error (.badInteger s)
  | v => .error (.noInteger v.typeName)

end Value

end ReturnForecast
