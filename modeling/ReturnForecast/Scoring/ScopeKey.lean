import ReturnForecast.Side

/-!
# Keys of scored scopes

What is scored together has one key: symbol, market, predictor and horizon, joined by double colons.
Reading a key cuts it at the first three separators, so the horizon may hold further ones. Main
statement: joining the parts that were read gives the key back.
-/

namespace ReturnForecast

/-- The kind of market. -/
inductive Market where
  | spot
  | futures
deriving DecidableEq, Repr

namespace Market

/-- The name of a market. -/
def name : Market → String
  | spot => "spot"
  | futures => "futures"

/-- The market with exactly this name. -/
def ofName? : String → Option Market
  | "spot" => some spot
  | "futures" => some futures
  | _ => none

@[simp] theorem ofName?_name (m : Market) : ofName? m.name = some m := by cases m <;> rfl

/-- The market with exactly this name, or a fault that shows the name. -/
def ofName (name : String) : Except Fault Market :=
  match ofName? name with
  | some market => .ok market
  | none => .error (.badChoice "MarketKind" (.text name))

/-- The market that a text names once it is trimmed and in lower case. -/
def read (s : String) : Except Fault Market := ofName (Text.lower (Text.trim s))

end Market

/-- The four parts of a key. -/
structure ScopeParts where
  symbol : String
  market : String
  predictor : String
  horizon : String
deriving DecidableEq, Repr

/-- The key of four parts. -/
def ScopeParts.key (p : ScopeParts) : String :=
  p.symbol ++ keySeparator ++ p.market ++ keySeparator ++ p.predictor ++ keySeparator ++ p.horizon

/-- The key of a scope: symbol in upper case, market, predictor and horizon in lower case. -/
def scopeKey (symbol : String) (market : Market) (predictor horizon : String) : String :=
  ScopeParts.key {
    symbol := Text.upper (Text.trim symbol)
    market := market.name
    predictor := Text.lower (Text.trim predictor)
    horizon := Text.lower (Text.trim horizon) }

/-- The characters before the first double colon and those after it. -/
def cutAtSeparator : List Char → Option (List Char × List Char)
  | ':' :: ':' :: rest => some ([], rest)
  | c :: rest => (cutAtSeparator rest).map fun (before, after) => (c :: before, after)
  | [] => none

/-- The two characters of the separator. -/
def separatorChars : List Char := [':', ':']

/-- What is cut joins up again. -/
theorem eq_of_cutAtSeparator {cs before after : List Char}
    (h : cutAtSeparator cs = some (before, after)) : cs = before ++ separatorChars ++ after := by
  fun_induction cutAtSeparator cs generalizing before after with
  | case1 rest =>
    simp only [Option.some.injEq, Prod.mk.injEq] at h
    obtain ⟨rfl, rfl⟩ := h
    rfl
  | case2 c rest _ ih =>
    simp only [Option.map_eq_some_iff, Prod.exists, Prod.mk.injEq] at h
    obtain ⟨b, a, hb, rfl, rfl⟩ := h
    simp [ih hb]
  | case3 => simp at h

/-- The parts of a key, if it has three separators. -/
def ScopeParts.ofKey? (key : String) : Option ScopeParts := do
  let (symbol, rest) ← cutAtSeparator key.toList
  let (market, rest) ← cutAtSeparator rest
  let (predictor, horizon) ← cutAtSeparator rest
  return {
    symbol := String.ofList symbol
    market := String.ofList market
    predictor := String.ofList predictor
    horizon := String.ofList horizon }

/-- The parts that are read join up to the key. -/
theorem ScopeParts.key_of_ofKey? {s : String} {p : ScopeParts} (h : ofKey? s = some p) :
    p.key = s := by
  simp only [ofKey?, Option.bind_eq_bind, Option.pure_def, Option.bind_eq_some_iff, Prod.exists,
    Option.some.injEq] at h
  obtain ⟨symbol, rest, h₁, market, rest', h₂, predictor, horizon, h₃, rfl⟩ := h
  apply String.toList_inj.1
  rw [eq_of_cutAtSeparator h₁, eq_of_cutAtSeparator h₂, eq_of_cutAtSeparator h₃]
  simp [ScopeParts.key, keySeparator, separatorChars]

end ReturnForecast
