import ReturnForecast.Scalar
import ReturnForecast.Expectancy.Reader

/-!
# Metrics of predictions

The newest pairs of an actual and a predicted value, up to a window, and three figures of how well
they agree: mean absolute error, share of equal signs, and the share of variance explained. Pairs
that are not finite are dropped.
-/

namespace ReturnForecast

/-- The pairs that are kept, the oldest first, and the parameters. -/
structure Metrics (α : Type) where
  window : Int
  r2MinSamples : Int
  pairs : List (α × α) := []
deriving DecidableEq, Repr

/-- The figures of some metrics; those that cannot be given are missing. -/
structure MetricsSummary (α : Type) where
  samples : Nat
  mae : Option α
  hitRate : Option α
  r2 : Option α
deriving DecidableEq, Repr

/-- The window used where none is given. -/
def standardWindow : Int := 1200

/-- The largest window that a configuration can ask for. -/
def largestWindow : Int := 7200

/-- The number of pairs needed for the share of variance, where none is given. -/
def standardR2MinSamples : Int := 60

namespace Metrics

variable {α : Type}

/-- Metrics without pairs. A window holds two pairs at least. -/
def fresh (window r2MinSamples : Int) : Metrics α := { window := max window 2, r2MinSamples }

/-- The number of pairs kept. -/
def count (m : Metrics α) : Nat := m.pairs.length

variable [Scalar α]

/-- The metrics after a pair. -/
def observe (m : Metrics α) (actual predicted : α) : Metrics α :=
  if Scalar.isFinite actual && Scalar.isFinite predicted then
    { m with pairs := lastItems m.window (m.pairs ++ [(actual, predicted)]) }
  else m

/-- The mean absolute error. -/
def mae (m : Metrics α) : Option α :=
  if m.pairs.isEmpty then none
  else some (mean (m.pairs.map fun (actual, predicted) => Scalar.abs (actual - predicted)))

/-- The share of pairs whose signs are the same; zero has no sign. -/
def hitRate (m : Metrics α) : Option α :=
  if m.pairs.isEmpty then none
  else
    let hits := m.pairs.countP fun (actual, predicted) => 0 < actual * predicted
    some ((hits : α) / (m.count : α))

/-- The square of a number. -/
def square (x : α) : α := x * x

/-- The sum of the squared errors. -/
def squaredErrors (m : Metrics α) : α :=
  total (m.pairs.map fun (actual, predicted) => square (actual - predicted))

/-- The sum of the squared distances of the actual values from their mean. -/
def squaredDeviations (m : Metrics α) : α :=
  let actuals := m.pairs.map (·.1)
  let centre := mean actuals
  total (actuals.map fun actual => square (actual - centre))

/-- The share of variance explained; zero where there is no variance. -/
def r2 (m : Metrics α) : Option α :=
  if m.count = 0 ∨ Int.ofNat m.count < m.r2MinSamples then none
  else if m.squaredDeviations ≤ 1e-18 then some 0
  else some (1 - m.squaredErrors / m.squaredDeviations)

/-- All figures. -/
def summary (m : Metrics α) : MetricsSummary α :=
  { samples := m.count, mae := m.mae, hitRate := m.hitRate, r2 := m.r2 }

/-- A pair that is not finite leaves the metrics as they are. -/
theorem observe_of_not_finite (m : Metrics α) {actual predicted : α}
    (h : (Scalar.isFinite actual && Scalar.isFinite predicted) = false) :
    m.observe actual predicted = m := by
  simp [observe, h]

end Metrics

end ReturnForecast
