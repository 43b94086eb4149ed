import ReturnForecast.Forecaster
import ReturnForecast.Model.LeastSquares

/-!
# Regression on the last return and the trend

The next return is regressed on five features of the past: a constant, the last return, the gap
between a fast and a slow average, the volatility, and the sign of the last return. A return is
first used as the target of the stored features; only then are the features renewed.
-/

namespace ReturnForecast.TrendRegression

open LeastSquares

/-- The smoothing factors, the parameters of the regression and the sigma floor. -/
structure Settings (α : Type) where
  alphaFast : α
  alphaSlow : α
  alphaVol : α
  forgetting : α
  ridge : α
  minSigma : α
deriving DecidableEq, Repr

/-- The number of features. -/
abbrev dim : Nat := 5

/-- The averages, the average squared error, the regression and the features of the next return. -/
structure State (α : Type) where
  fast : α
  slow : α
  vol2 : α
  residual2 : α
  filter : Filter α dim
  features : Vector α dim

variable {α : Type} [Scalar α]

/-- The settings used where none are given. -/
def standard : Settings α :=
  { alphaFast := 0.20, alphaSlow := 0.05, alphaVol := 0.10, forgetting := 0.995, ridge := 1e-2,
    minSigma := 0.001 }

/-- The sample count at which forecast and fallback weigh the same. -/
def shrinkCount : α := 30.0

/-- The features after a return, from the averages that have seen it. -/
def features (lastReturn fast slow vol2 : α) : Vector α dim :=
  #v[1, lastReturn, fast - slow, sqrtPos vol2, sign lastReturn]

/-- The state after the first return. -/
def seed (c : Settings α) (r : α) : State α :=
  { fast := r, slow := r, vol2 := r * r, residual2 := r * r
    filter := Filter.fresh dim c.forgetting c.ridge
    features := features r r r (r * r) }

/-- The state after a further return. -/
def step (c : Settings α) (s : State α) (r : α) : State α :=
  let share := clampUnit c.alphaVol
  let error := r - s.filter.predict s.features
  let fast := ewma s.fast r (clampUnit c.alphaFast)
  let slow := ewma s.slow r (clampUnit c.alphaSlow)
  let centered := r - slow
  let vol2 := ewma s.vol2 (centered * centered) share
  { fast, slow, vol2
    residual2 := ewma s.residual2 (error * error) share
    filter := s.filter.observe s.features r
    features := features r fast slow vol2 }

/-- Forecasts by the regression, weighed against the fallback. -/
def forecaster (c : Settings α) : Forecaster α (State α) where
  seed r _ := .ok (seed c r)
  step _ s r _ := .ok (step c s r)
  forecast count s fallback :=
    Estimate.shrunk (s.filter.predict s.features) (larger (sqrtPos s.residual2) c.minSigma) count
      shrinkCount fallback c.minSigma

end ReturnForecast.TrendRegression
