import ReturnForecast.Forecaster

/-!
# First-order autoregression

Returns around their average follow the previous return with a coefficient `phi`, the ratio of the
averaged lag-one covariance to the averaged variance. Residuals are taken from the mean before it
sees the return.
-/

namespace ReturnForecast.Autoregression

/-- The smoothing factors, the sigma floor and the bound on the coefficient. -/
structure Settings (α : Type) where
  alphaMean : α
  alphaVar : α
  minSigma : α
  phiClip : α
deriving DecidableEq, Repr

/-- The averages, and the last return. -/
structure State (α : Type) where
  lastReturn : α
  mu : α
  var : α
  lagCov : α
deriving DecidableEq, Repr

variable {α : Type} [Scalar α]

/-- The settings used where none are given. -/
def standard : Settings α :=
  { alphaMean := 0.08, alphaVar := 0.08, minSigma := 0.001, phiClip := 0.98 }

/-- The state after the first return, whose residual is taken from a mean of zero. -/
def seed (r : α) : State α := { lastReturn := r, mu := r, var := (r - 0) * (r - 0), lagCov := 0 }

/-- The state after a further return. The first product of neighbours starts the covariance. -/
def step (c : Settings α) (count : Nat) (s : State α) (r : α) : State α :=
  let share := clampUnit c.alphaVar
  let centered := r - s.mu
  let product := (s.lastReturn - s.mu) * (r - s.mu)
  { lastReturn := r
    mu := ewma s.mu r (clampUnit c.alphaMean)
    var := ewma s.var (centered * centered) share
    lagCov := if count ≤ 1 then product else ewma s.lagCov product share }

/-- The coefficient, moved into its bounds. -/
def phi (c : Settings α) (s : State α) : α :=
  clamp (ratioAbove 1e-12 s.lagCov (larger s.var 0)) (-c.phiClip) c.phiClip

/-- The forecast of a state. -/
def forecast (c : Settings α) (s : State α) : Estimate α :=
  let phi := phi c s
  { mu := s.mu + phi * (s.lastReturn - s.mu)
    sigma := sqrtPos (larger (1 - phi * phi) 0.05 * larger s.var 0) }

/-- Forecasts the mean, moved by the coefficient toward the last return's side. -/
def forecaster (c : Settings α) : Forecaster α (State α) where
  seed r _ := .ok (seed r)
  step count s r _ := .ok (step c count s r)
  forecast _ s _ := .ok (forecast c s)

end ReturnForecast.Autoregression
