import ReturnForecast.Forecaster

/-!
# Regimes by variance ratio

A fast and a slow average of squared returns. Where the fast one is above the slow one the trend is
taken to go on, where it is below the trend is taken to fade.
-/

namespace ReturnForecast.VarianceRatio

/-- The smoothing factors, the strength and the bound of the regime, and the sigma floor. -/
structure Settings (α : Type) where
  alphaFastVar : α
  alphaSlowVar : α
  alphaTrend : α
  kappa : α
  regimeClip : α
  minSigma : α
deriving DecidableEq, Repr

/-- The two averages of the squared return and the average return. -/
structure State (α : Type) where
  fastVar : α
  slowVar : α
  trend : α
deriving DecidableEq, Repr

variable {α : Type} [Scalar α]

/-- The settings used where none are given. -/
def standard : Settings α :=
  { alphaFastVar := 0.15, alphaSlowVar := 0.02, alphaTrend := 0.06, kappa := 0.015,
    regimeClip := 1.0, minSigma := 0.001 }

/-- The sample count at which drift and fallback weigh the same. -/
def shrinkCount : α := 100.0

/-- The state after the first return. -/
def seed (r : α) : State α := { fastVar := r * r, slowVar := r * r, trend := r }

/-- The state after a further return. -/
def step (c : Settings α) (s : State α) (r : α) : State α :=
  { fastVar := ewma s.fastVar (r * r) (clampUnit c.alphaFastVar)
    slowVar := ewma s.slowVar (r * r) (clampUnit c.alphaSlowVar)
    trend := ewma s.trend r (clampUnit c.alphaTrend) }

/-- The sigma of a state. -/
def sigma (c : Settings α) (s : State α) : α := larger (sqrtPos s.slowVar) c.minSigma

/-- The drift of a state whose slow variance is not zero. -/
def drift (c : Settings α) (s : State α) : Except Fault α := do
  let ratio ← div? s.fastVar s.slowVar
  let regime := clamp (ratio - 1) (-c.regimeClip) c.regimeClip
  return c.kappa * regime * sign s.trend * sigma c s

/-- Forecasts the drift, weighed against the fallback, from two returns on. -/
def forecaster (c : Settings α) : Forecaster α (State α) where
  seed r _ := .ok (seed r)
  step _ s r _ := .ok (step c s r)
  forecast count s fallback :=
    if count < 2 then .ok fallback
    else if s.slowVar < 1e-18 then .ok { mu := fallback.mu, sigma := sigma c s }
    else do
      let raw ← drift c s
      let w ← shrinkWeight? (count : α) shrinkCount
      return { mu := blend w raw fallback.mu, sigma := sigma c s }

end ReturnForecast.VarianceRatio
