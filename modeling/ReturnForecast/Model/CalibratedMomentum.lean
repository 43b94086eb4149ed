import ReturnForecast.Forecaster

/-!
# Momentum with a learned scale

The gap between a fast and a slow average of returns is a raw forecast. How far it is to be trusted
is learned from what it forecast before: the scale is the ratio of the averaged product of return
and forecast to the averaged squared forecast, moved into the unit interval. A signal that points
the wrong way is switched off.
-/

namespace ReturnForecast.CalibratedMomentum

/-- The smoothing factors and the sigma floor. -/
structure Settings (α : Type) where
  alphaFast : α
  alphaSlow : α
  alphaVar : α
  alphaCalib : α
  minSigma : α
deriving DecidableEq, Repr

/-- The averages, the last raw forecast, and the two averages that give the scale. -/
structure State (α : Type) where
  fast : α
  slow : α
  var : α
  raw : α
  cross : α
  square : α
deriving DecidableEq, Repr

variable {α : Type} [Scalar α]

/-- The settings used where none are given. -/
def standard : Settings α :=
  { alphaFast := 0.12, alphaSlow := 0.03, alphaVar := 0.05, alphaCalib := 0.03, minSigma := 0.001 }

/-- The sample count at which drift and fallback weigh the same. -/
def shrinkCount : α := 200.0

/-- The number of returns needed for a forecast. -/
def minSamples : Nat := 5

/-- The share of the gap between the averages that is forecast. -/
def rawScale : α := 0.1

/-- The raw forecast of two averages and a variance. -/
def rawForecast (c : Settings α) (fast slow var : α) : α :=
  let vol := larger (sqrtPos var) c.minSigma
  ratioAbove 1e-12 (fast - slow) vol * vol * rawScale

/-- The state after the first return. -/
def seed (c : Settings α) (r : α) : State α :=
  { fast := r, slow := r, var := r * r, raw := rawForecast c r r (r * r), cross := 0, square := 0 }

/-- The state after a further return. -/
def step (c : Settings α) (s : State α) (r : α) : State α :=
  let share := clampUnit c.alphaCalib
  let fast := ewma s.fast r (clampUnit c.alphaFast)
  let slow := ewma s.slow r (clampUnit c.alphaSlow)
  let var := ewma s.var (r * r) (clampUnit c.alphaVar)
  { fast, slow, var
    raw := rawForecast c fast slow var
    cross := ewma s.cross (r * s.raw) share
    square := ewma s.square (s.raw * s.raw) share }

/-- The scale of the raw forecast, in the unit interval. -/
def scale (s : State α) : α := clamp (ratioAbove 1e-18 s.cross s.square) 0 1

/-- The sigma of a state. -/
def sigma (c : Settings α) (s : State α) : α := larger (sqrtPos s.var) c.minSigma

/-- Forecasts the scaled raw forecast, weighed against the fallback. -/
def forecaster (c : Settings α) : Forecaster α (State α) where
  seed r _ := .ok (seed c r)
  step _ s r _ := .ok (step c s r)
  forecast count s fallback :=
    if count < minSamples then .ok fallback
    else do
      let w ← shrinkWeight? (count : α) shrinkCount
      return { mu := blend w (scale s * s.raw) fallback.mu, sigma := sigma c s }

end ReturnForecast.CalibratedMomentum
