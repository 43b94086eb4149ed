import ReturnForecast.Forecaster

/-!
# Momentum in units of volatility

The gap between a fast and a slow average of returns, divided by the average absolute return.
-/

namespace ReturnForecast.ScaledMomentum

/-- The smoothing factors, the strength and the bound of the signal, and the sigma floor. -/
structure Settings (α : Type) where
  alphaFast : α
  alphaSlow : α
  alphaVol : α
  kappa : α
  signalClip : α
  minSigma : α
deriving DecidableEq, Repr

/-- The two averages of the return and the average absolute return. -/
structure State (α : Type) where
  fast : α
  slow : α
  vol : α
deriving DecidableEq, Repr

variable {α : Type} [Scalar α]

/-- The settings used where none are given. -/
def standard : Settings α :=
  { alphaFast := 0.10, alphaSlow := 0.02, alphaVol := 0.05, kappa := 0.015, signalClip := 3.0,
    minSigma := 0.001 }

/-- The sample count at which drift and fallback weigh the same. -/
def shrinkCount : α := 100.0

/-- The state after the first return. -/
def seed (r : α) : State α := { fast := r, slow := r, vol := Scalar.abs r }

/-- The state after a further return. -/
def step (c : Settings α) (s : State α) (r : α) : State α :=
  { fast := ewma s.fast r (clampUnit c.alphaFast)
    slow := ewma s.slow r (clampUnit c.alphaSlow)
    vol := ewma s.vol (Scalar.abs r) (clampUnit c.alphaVol) }

/-- The volatility of a state. -/
def volatility (c : Settings α) (s : State α) : α := larger s.vol c.minSigma

/-- The drift that the signal gives; it fails where the volatility is zero. -/
def drift (c : Settings α) (s : State α) : Except Fault α := do
  let signal := clamp (← div? (s.fast - s.slow) (volatility c s)) (-c.signalClip) c.signalClip
  return c.kappa * signal * volatility c s

/--
Forecasts the drift, weighed against the fallback, from two returns on. The mean absolute value of a
normal law is its sigma times `sqrt (2 / π)`, so sigma is 1.25 times the volatility.
-/
def forecaster (c : Settings α) : Forecaster α (State α) where
  seed r _ := .ok (seed r)
  step _ s r _ := .ok (step c s r)
  forecast count s fallback :=
    if count < 2 then .ok fallback
    else do
      let raw ← drift c s
      let w ← shrinkWeight? (count : α) shrinkCount
      return { mu := blend w raw fallback.mu, sigma := volatility c s * 1.25 }

end ReturnForecast.ScaledMomentum
