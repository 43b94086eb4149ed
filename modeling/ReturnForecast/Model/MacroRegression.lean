import ReturnForecast.Forecaster
import ReturnForecast.Model.LeastSquares
import ReturnForecast.Model.MacroFactors

/-!
# Regression on macro factors

The next return is regressed on the average returns of equity, gold and oil and their dispersion.
The factors are shared by all instruments; the features of a return are those of the factors at its
time.
-/

namespace ReturnForecast.MacroRegression

open LeastSquares

/-- The smoothing factors, the parameters of the regression, the bound and the sigma floor. -/
structure Settings (α : Type) where
  alphaFactor : α
  alphaResid : α
  forgetting : α
  ridge : α
  predClip : α
  minSigma : α
deriving DecidableEq, Repr

/-- The number of features. -/
abbrev dim : Nat := 5

/-- The average squared error, the regression and the features of the next return. -/
structure State (α : Type) where
  residual2 : α
  filter : Filter α dim
  features : Vector α dim

variable {α : Type} [Scalar α]

/-- The settings used where none are given. -/
def standard : Settings α :=
  { alphaFactor := 0.10, alphaResid := 0.08, forgetting := 0.998, ridge := 0.05, predClip := 2.5,
    minSigma := 0.001 }

/-- The sample count at which forecast and fallback weigh the same. -/
def shrinkCount : α := 100.0

/-- The state after the first return. -/
def seed (c : Settings α) (factors : MacroFactors α) : State α :=
  { residual2 := 0
    filter := Filter.fresh dim c.forgetting c.ridge
    features := factors.features }

/-- The state after a further return. The second return gives the first error. -/
def step (c : Settings α) (factors : MacroFactors α) (count : Nat) (s : State α) (r : α) :
    State α :=
  let error := r - s.filter.predict s.features
  { residual2 :=
      if count ≤ 1 then error * error
      else ewma s.residual2 (error * error) (clampUnit c.alphaResid)
    filter := s.filter.observe s.features r
    features := factors.features }

/-- Forecasts by the regression within its bound, weighed against the fallback. -/
def forecaster (c : Settings α) (factors : MacroFactors α) : Forecaster α (State α) where
  seed _ _ := .ok (seed c factors)
  step count s r _ := .ok (step c factors count s r)
  forecast count s fallback :=
    let sigma := larger (sqrtPos s.residual2) c.minSigma
    let bound := c.predClip * sigma
    Estimate.shrunk (clamp (s.filter.predict s.features) (-bound) bound) sigma count shrinkCount
      fallback c.minSigma

end ReturnForecast.MacroRegression
