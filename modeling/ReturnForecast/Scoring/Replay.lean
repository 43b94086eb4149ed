import ReturnForecast.Predictor
import ReturnForecast.Scoring.Book

/-!
# Replay of closes

Closes are fed bar by bar to a set of predictors. At each usable bar, and for each predictor in
turn, the due forecasts are scored, then the price is observed, then a forecast is made for every
horizon. Bars without a finite time or a usable price are skipped.
-/

namespace ReturnForecast

/-- A time in milliseconds and a close. -/
structure Bar (α : Type) where
  time : α
  price : α
deriving DecidableEq, Repr

/-- What is replayed besides the bars: the horizons, and how scopes are named and scaled. -/
structure ReplayPlan where
  symbol : String
  market : Market
  horizons : List (String × Int)
  /-- Are both sides of a pair divided by the sigma of the forecast? -/
  normalise : Bool
deriving DecidableEq, Repr

namespace ReplayPlan

variable {α : Type} [Scalar α]

/-- The key of a predictor's scope for a horizon. -/
def key (plan : ReplayPlan) (id label : String) : String :=
  scopeKey plan.symbol plan.market id label

/-- Scores what is due at a bar, horizon by horizon. -/
def resolve (plan : ReplayPlan) (id : String) (price : α) (nowMs : Int) (book : Book α) :
    List (String × Int) → Except Fault (Book α)
  | [] => .ok book
  | (label, _) :: rest =>
    match book.resolveDue (plan.key id label) price nowMs with
    | (book, .ok _) => plan.resolve id price nowMs book rest
    | (_, .error fault) => .error fault

/-- Schedules the forecast made at a bar, horizon by horizon. -/
def schedule (plan : ReplayPlan) (id : String) (price : α) (nowMs : Int) (e : Estimate α)
    (book : Book α) : List (String × Int) → Book α
  | [] => book
  | (label, horizonMs) :: rest =>
    let scale := if plan.normalise then e.sigma else 1
    let (book, _) := book.schedule (plan.key id label) nowMs horizonMs price e.mu scale
    plan.schedule id price nowMs e book rest

/-- One predictor at one usable bar. -/
def stepModel (plan : ReplayPlan) (price : α) (nowMs : Int) (book : Book α) (id : String)
    (model : Predictor α) : Except Fault (Book α × Predictor α) := do
  let book ← plan.resolve id price nowMs book plan.horizons
  match model.observePrice plan.symbol price with
  | (_, some fault) => .error fault
  | (model, none) =>
    let e ← model.estimateBase plan.symbol { mu := 0, sigma := 0 }
    return (plan.schedule id price nowMs e book plan.horizons, model)

/-- All predictors at one usable bar, in order. -/
def stepModels (plan : ReplayPlan) (price : α) (nowMs : Int) (book : Book α) :
    List (String × Predictor α) → Except Fault (Book α × List (String × Predictor α))
  | [] => .ok (book, [])
  | (id, model) :: rest => do
    let (book, model) ← plan.stepModel price nowMs book id model
    let (book, rest) ← plan.stepModels price nowMs book rest
    return (book, (id, model) :: rest)

/-- Has the bar a finite time and a usable price? -/
def usable (bar : Bar α) : Bool := Scalar.isFinite bar.time && isValidPrice bar.price

/-- All bars in order. -/
def run (plan : ReplayPlan) (book : Book α) (models : List (String × Predictor α)) :
    List (Bar α) → Except Fault (Book α × List (String × Predictor α))
  | [] => .ok (book, models)
  | bar :: rest =>
    if usable bar then do
      let (book, models) ← plan.stepModels bar.price (truncate bar.time) book models
      plan.run book models rest
    else plan.run book models rest

/-- The book after a replay. -/
def replay (plan : ReplayPlan) (book : Book α) (models : List (String × Predictor α))
    (bars : List (Bar α)) : Except Fault (Book α) :=
  (plan.run book models bars).map (·.1)

end ReplayPlan

/-- Closes with their times. -/
def Bar.withTimes {α : Type} (closes times : List α) : List (Bar α) :=
  (closes.zip times).map fun (price, time) => { time, price }

/-- Closes that are evenly spaced from time zero on. -/
def Bar.evenly {α : Type} [Scalar α] (barMs : Int) (closes : List α) :
    Except Fault (List (Bar α)) := do
  let spacing : α ← ofInt? barMs
  return closes.zipIdx.map fun (price, index) => { time := (index : α) * spacing, price }

end ReturnForecast
