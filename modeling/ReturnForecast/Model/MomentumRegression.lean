import ReturnForecast.Model.TrendRegression
import ReturnForecast.Model.RecentReturns

/-!
# Regression on momentum over several spans

The next return is regressed on a constant and the means of the last 1, 3, 6 and 12 returns.
-/

namespace ReturnForecast.MomentumRegression

open LeastSquares

/-- The number of features. -/
abbrev dim : Nat := 5

/--
The recent returns, the average squared error, the regression and the features of the next return.
-/
structure State (α : Type) where
  recent : RecentReturns α
  residual2 : α
  filter : Filter α dim
  features : Vector α dim

variable {α : Type} [Scalar α]

/-- The sample count at which forecast and fallback weigh the same. -/
def shrinkCount : α := 30.0

/-- A constant and the means over four spans. -/
def features (recent : RecentReturns α) : Vector α dim :=
  #v[1, recent.meanLast 1, recent.meanLast 3, recent.meanLast 6, recent.meanLast 12]

/-- The state after the first return. -/
def seed (c : TrendRegression.Settings α) (r : α) : State α :=
  let recent := RecentReturns.empty.push r
  { recent, residual2 := 0
    filter := Filter.fresh dim c.forgetting c.ridge
    features := features recent }

/-- The state after a further return. The second return gives the first error. -/
def step (c : TrendRegression.Settings α) (count : Nat) (s : State α) (r : α) : State α :=
  let error := r - s.filter.predict s.features
  let recent := s.recent.push r
  { recent
    residual2 :=
      if count ≤ 1 then error * error else ewma s.residual2 (error * error) (clampUnit c.alphaVol)
    filter := s.filter.observe s.features r
    features := features recent }

/-- Forecasts by the regression, weighed against the fallback. -/
def forecaster (c : TrendRegression.Settings α) : Forecaster α (State α) where
  seed r _ := .ok (seed c r)
  step count s r _ := .ok (step c count s r)
  forecast count s fallback :=
    Estimate.shrunk (s.filter.predict s.features) (larger (sqrtPos s.residual2) c.minSigma) count
      shrinkCount fallback c.minSigma

end ReturnForecast.MomentumRegression
