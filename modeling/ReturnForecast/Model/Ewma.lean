import ReturnForecast.Forecaster

/-!
# Moving averages of mean and variance

The mean return and the squared residual around it, each an exponentially weighted average. The
residual is taken from the mean that has already seen the return.
-/

namespace ReturnForecast.Ewma

/-- The smoothing factors and the sigma floor. -/
structure Settings (α : Type) where
  alphaMean : α
  alphaVar : α
  minSigma : α
deriving DecidableEq, Repr

/-- The averages of the return and of its squared residual. -/
structure State (α : Type) where
  mu : α
  var : α
deriving DecidableEq, Repr

variable {α : Type} [Scalar α]

/-- The settings used where none are given. -/
def standard : Settings α := { alphaMean := 0.08, alphaVar := 0.08, minSigma := 0.001 }

/-- The averages after the first return. -/
def seed (r : α) : State α := { mu := r, var := (r - r) * (r - r) }

/-- The averages after a further return. -/
def step (c : Settings α) (s : State α) (r : α) : State α :=
  let mu := ewma s.mu r (clampUnit c.alphaMean)
  let residual := r - mu
  { mu, var := ewma s.var (residual * residual) (clampUnit c.alphaVar) }

/-- Forecasts the average return, with the root of the average squared residual. -/
def forecaster (c : Settings α) : Forecaster α (State α) where
  seed r _ := .ok (seed r)
  step _ s r _ := .ok (step c s r)
  forecast _ s _ := .ok { mu := s.mu, sigma := sqrtPos s.var }

end ReturnForecast.Ewma
