import ReturnForecast.Forecaster

/-!
# Local level

A scalar Kalman filter: returns are a slowly moving level plus noise. The state holds the estimated
level and its variance; each return moves the level by the gain.
-/

namespace ReturnForecast.LocalLevel

/-- The variances of the level's moves and of the noise, and the sigma floor. -/
structure Settings (α : Type) where
  processVar : α
  measureVar : α
  minSigma : α
deriving DecidableEq, Repr

/-- The estimated level and its variance. -/
structure State (α : Type) where
  level : α
  variance : α
deriving DecidableEq, Repr

variable {α : Type} [Scalar α]

/-- The settings used where none are given. -/
def standard : Settings α := { processVar := 1e-6, measureVar := 1e-4, minSigma := 0.001 }

/-- The variance of the level's moves, positive. -/
def Settings.moveVar (c : Settings α) : α := larger c.processVar 1e-12

/-- The variance of the noise, positive. -/
def Settings.noiseVar (c : Settings α) : α := larger c.measureVar 1e-12

/-- The state after the first return. -/
def seed (c : Settings α) (r : α) : State α := { level := r, variance := c.noiseVar }

/-- The state after a further return. -/
def step (c : Settings α) (s : State α) (r : α) : Except Fault (State α) := do
  let predicted := s.variance + c.moveVar
  let gain ← div? predicted (predicted + c.noiseVar)
  return { level := s.level + gain * (r - s.level), variance := (1 - gain) * predicted }

/-- Forecasts the level, with the variance of level and noise together. -/
def forecaster (c : Settings α) : Forecaster α (State α) where
  seed r _ := .ok (seed c r)
  step _ s r _ := step c s r
  forecast _ s _ := .ok { mu := s.level, sigma := sqrtPos (s.variance + c.noiseVar) }

end ReturnForecast.LocalLevel
