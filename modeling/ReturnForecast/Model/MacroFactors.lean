import ReturnForecast.Price
import ReturnForecast.Smoothing
import ReturnForecast.Text.Blank
import ReturnForecast.Text.LetterCase
import ReturnForecast.Text.Search

/-!
# Macro factors

Equity, gold and oil each have a factor: the average return of whichever instruments carry their
name. A factor remembers one last price, whatever instrument it came from.
-/

namespace ReturnForecast

/-- The three asset classes that have a factor. -/
inductive Asset where
  | equity
  | gold
  | oil
deriving DecidableEq, Repr

namespace Asset

/-- The asset classes in the order in which names are tried. -/
def all : List Asset := [equity, gold, oil]

/-- The place of an asset class in that order. -/
def index : Asset → Nat
  | equity => 0
  | gold => 1
  | oil => 2

/-- The names whose occurrence in a symbol makes an instrument one of the class. -/
def names : Asset → List String
  | equity => ["SPX", "SP500", "US500", "SPY"]
  | gold => ["XAU", "GOLD", "GC"]
  | oil => ["WTI", "BRENT", "CL", "OIL"]

/-- An instrument's symbol in upper case, without marks of futures and spaces. -/
def canonicalSymbol (instrument : String) : String :=
  let symbol := Text.upper (Text.trim instrument)
  Text.remove (Text.remove (Text.remove symbol " (FUT)") "#FUT") " "

/-- The asset class of a canonical symbol; the first class with a matching name wins. -/
def ofSymbol? (symbol : String) : Option Asset :=
  all.find? fun asset => asset.names.any (Text.contains symbol)

/-- The asset class of an instrument. -/
def ofInstrument? (instrument : String) : Option Asset := ofSymbol? (canonicalSymbol instrument)

end Asset

/-- A factor: the last price, and the average return once there has been one. -/
structure Factor (α : Type) where
  lastPrice : Option α := none
  average : Option α := none
deriving DecidableEq, Repr

/-- The factors of the three asset classes. -/
structure MacroFactors (α : Type) where
  equity : Factor α := {}
  gold : Factor α := {}
  oil : Factor α := {}
deriving DecidableEq, Repr

namespace MacroFactors

variable {α : Type}

/-- The factor of an asset class. -/
def get (f : MacroFactors α) : Asset → Factor α
  | .equity => f.equity
  | .gold => f.gold
  | .oil => f.oil

/-- The factors with one of them replaced. -/
def set (f : MacroFactors α) (asset : Asset) (factor : Factor α) : MacroFactors α :=
  match asset with
  | .equity => { f with equity := factor }
  | .gold => { f with gold := factor }
  | .oil => { f with oil := factor }

theorem get_set (f : MacroFactors α) (a b : Asset) (factor : Factor α) :
    (f.set a factor).get b = if a = b then factor else f.get b := by
  cases a <;> cases b <;> rfl

end MacroFactors

/-- A factor after a usable price: the return joins the average, whose first value it may be. -/
def Factor.observe {α : Type} [Scalar α] (share : α) (f : Factor α) (price : α) :
    Except Fault (Factor α) :=
  match f.lastPrice with
  | none => .ok { f with lastPrice := some price }
  | some last => do
    let r ← log? (price / last)
    let average := match f.average with
      | none => r
      | some average => ewma average r share
    return { lastPrice := some price, average := some average }

namespace MacroFactors

variable {α : Type} [Scalar α]

/--
The factors after a price of an instrument. Instruments without a class and unusable prices count
for nothing.
-/
def observe (share : α) (f : MacroFactors α) (instrument : String) (price : α) :
    Except Fault (MacroFactors α) :=
  if isValidPrice price then
    match Asset.ofInstrument? instrument with
    | none => .ok f
    | some asset => ((f.get asset).observe share price).map (f.set asset)
  else .ok f

/-- The average return of an asset class, zero if there has been none. -/
def average (f : MacroFactors α) (asset : Asset) : α := (f.get asset).average.getD 0

/-- A constant, the three averages and how far they lie apart. -/
def features (f : MacroFactors α) : Vector α 5 :=
  let averages := Asset.all.map f.average
  let centre := mean averages
  let dispersion := Scalar.sqrt (mean (averages.map fun x => (x - centre) * (x - centre)))
  #v[1, f.average .equity, f.average .gold, f.average .oil, dispersion]

end MacroFactors

end ReturnForecast
