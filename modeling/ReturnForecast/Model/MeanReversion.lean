import ReturnForecast.Forecaster

/-!
# Pull to a slow price level

The log price is pulled back to its slow average, in proportion to the distance measured in sigmas.
The drift is weighed against the fallback by the number of samples.
-/

namespace ReturnForecast.MeanReversion

/--
The smoothing factors, the strength of the pull, the bound on the distance and the sigma floor.
-/
structure Settings (α : Type) where
  alphaLevel : α
  alphaVar : α
  kappa : α
  zClip : α
  minSigma : α
deriving DecidableEq, Repr

/-- The last log price, its slow average and the average squared return. -/
structure State (α : Type) where
  logPrice : α
  logLevel : α
  var : α
deriving DecidableEq, Repr

variable {α : Type} [Scalar α]

/-- The settings used where none are given. -/
def standard : Settings α :=
  { alphaLevel := 0.002, alphaVar := 0.05, kappa := 0.02, zClip := 3.0, minSigma := 0.001 }

/-- The sample count at which drift and fallback weigh the same. -/
def shrinkCount : α := 100.0

/-- The state after the first return. -/
def seed (r price : α) : Except Fault (State α) := do
  let logPrice ← log? price
  return { logPrice, logLevel := logPrice, var := r * r }

/-- The state after a further return. -/
def step (c : Settings α) (s : State α) (r price : α) : Except Fault (State α) := do
  let logPrice ← log? price
  return {
    logPrice
    logLevel := ewma s.logLevel logPrice (clampUnit c.alphaLevel)
    var := ewma s.var (r * r) (clampUnit c.alphaVar) }

/-- The sigma of a state. -/
def sigma (c : Settings α) (s : State α) : α := larger (sqrtPos s.var) c.minSigma

/-- The distance from the level in sigmas, moved into its bounds; zero where sigma is negligible. -/
def distance (c : Settings α) (s : State α) : α :=
  if 1e-9 < sigma c s then
    clamp (ratioAbove 1e-9 (s.logPrice - s.logLevel) (sigma c s)) (-c.zClip) c.zClip
  else 0

/-- The pull of a state. -/
def drift (c : Settings α) (s : State α) : α := -c.kappa * distance c s * sigma c s

/-- Forecasts the pull, weighed against the fallback. -/
def forecaster (c : Settings α) : Forecaster α (State α) where
  seed := seed
  step _ := step c
  forecast count s fallback := do
    let w ← shrinkWeight? (count : α) shrinkCount
    return { mu := blend w (drift c s) fallback.mu, sigma := sigma c s }

end ReturnForecast.MeanReversion
