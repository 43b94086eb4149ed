import ReturnForecast.Smoothing

/-!
# Estimates

A forecast of the next log return as a normal law, and the ways in which two estimates are combined.
-/

namespace ReturnForecast

/-- A normal approximation of the next log return. -/
structure Estimate (α : Type) where
  mu : α
  sigma : α
deriving DecidableEq, Repr

variable {α : Type} [Scalar α]

/-- The weighted mean `w · a + (1 - w) · b`. -/
def blend (w a b : α) : α := w * a + (1 - w) * b

/-- An estimate whose sigma is raised to its floor. -/
def Estimate.floored (e : Estimate α) (least : α) : Estimate α :=
  { e with sigma := floorSigma e.sigma least }

/-- An estimate pulled toward another one: it has the weight `w` in both parts. -/
def Estimate.pulledTo (e : Estimate α) (w : α) (base : Estimate α) : Estimate α :=
  { mu := blend w e.mu base.mu, sigma := blend w e.sigma base.sigma }

/--
A forecast weighed against the fallback by `count` samples, with equal weights at `k`. The
fallback's sigma is raised to the floor first.
-/
def Estimate.shrunk (mu sigma : α) (count : Nat) (k : α) (fallback : Estimate α) (minSigma : α) :
    Except Fault (Estimate α) := do
  let w ← shrinkWeight? (count : α) k
  return { mu := blend w mu fallback.mu, sigma := blend w sigma (larger fallback.sigma minSigma) }

end ReturnForecast
