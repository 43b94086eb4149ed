import ReturnForecast.Forecaster

/-!
# Level and trend

Holt's linear method on returns: a smoothed level and a smoothed trend, with the average squared
error of the one-step forecast as variance.
-/

namespace ReturnForecast.Holt

/-- The smoothing factors and the sigma floor. -/
structure Settings (α : Type) where
  alphaMean : α
  betaTrend : α
  alphaVar : α
  minSigma : α
deriving DecidableEq, Repr

/-- The level, the trend and the average squared error. -/
structure State (α : Type) where
  level : α
  trend : α
  var : α
deriving DecidableEq, Repr

variable {α : Type} [Scalar α]

/-- The settings used where none are given. -/
def standard : Settings α :=
  { alphaMean := 0.08, betaTrend := 0.08, alphaVar := 0.08, minSigma := 0.001 }

/-- The state after the first return. -/
def seed (r : α) : State α := { level := r, trend := 0, var := 0 }

/-- The state after a further return. -/
def step (c : Settings α) (s : State α) (r : α) : State α :=
  let a := clampUnit c.alphaMean
  let b := clampUnit c.betaTrend
  let predicted := s.level + s.trend
  let level := a * r + (1 - a) * predicted
  let error := r - predicted
  { level
    trend := b * (level - s.level) + (1 - b) * s.trend
    var := ewma s.var (error * error) (clampUnit c.alphaVar) }

/-- Forecasts the level one trend further. -/
def forecaster (c : Settings α) : Forecaster α (State α) where
  seed r _ := .ok (seed r)
  step _ s r _ := .ok (step c s r)
  forecast _ s _ := .ok { mu := s.level + s.trend, sigma := sqrtPos s.var }

end ReturnForecast.Holt
