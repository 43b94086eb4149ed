import ReturnForecast.Forecaster

/-!
# Reversal of the last move

Prices that bounce between bid and ask have a negative covariance of neighbouring returns. Only
while it is negative is a reversal of the last return forecast; otherwise the mean forecast is
exactly zero.
-/

namespace ReturnForecast.BounceReversal

/-- The smoothing factor, the bound on the coefficient and the sigma floor. -/
structure Settings (α : Type) where
  alpha : α
  phiMax : α
  minSigma : α
deriving DecidableEq, Repr

/-- The last return, the average product of neighbours and the average squared return. -/
structure State (α : Type) where
  lastReturn : α
  lagCov : α
  var : α
deriving DecidableEq, Repr

variable {α : Type} [Scalar α]

/-- The settings used where none are given. -/
def standard : Settings α := { alpha := 0.04, phiMax := 0.15, minSigma := 0.001 }

/-- The sample count at which the reversal has half its weight. -/
def shrinkCount : α := 200.0

/-- The number of returns needed for a forecast. -/
def minSamples : Nat := 3

/-- The state after the first return. -/
def seed (r : α) : State α := { lastReturn := r, lagCov := 0, var := r * r }

/-- The state after a further return. -/
def step (c : Settings α) (s : State α) (r : α) : State α :=
  let share := clampUnit c.alpha
  { lastReturn := r
    lagCov := ewma s.lagCov (r * s.lastReturn) share
    var := ewma s.var (r * r) share }

/-- The sigma of a state. -/
def sigma (c : Settings α) (s : State α) : α := larger (sqrtPos s.var) c.minSigma

/-- Forecasts a reversal while the covariance is negative. -/
def forecaster (c : Settings α) : Forecaster α (State α) where
  seed r _ := .ok (seed r)
  step _ s r _ := .ok (step c s r)
  forecast count s fallback :=
    if count < minSamples then .ok fallback
    else if 0 ≤ s.lagCov ∨ s.var < 1e-18 then .ok { mu := 0, sigma := sigma c s }
    else do
      let phi := clamp (← div? s.lagCov s.var) (-c.phiMax) 0
      let w ← shrinkWeight? (count : α) shrinkCount
      return { mu := w * phi * s.lastReturn, sigma := sigma c s }

end ReturnForecast.BounceReversal
