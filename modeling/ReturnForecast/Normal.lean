import ReturnForecast.Scalar

/-!
# The normal distribution

The error function by a rational approximation of five terms (absolute error below `1.5e-7`), and
the distribution function of the normal law from it.
-/

namespace ReturnForecast

variable {α : Type} [Scalar α]

/-- The polynomial of the approximation, for an argument of zero or more. -/
def erfTail (ax : α) : α :=
  let t := 1 / (1 + 0.3275911 * ax)
  let poly := ((((1.061405429 * t + -1.453152027) * t + 1.421413741) * t + -0.284496736) * t
    + 0.254829592) * t
  poly * Scalar.exp (-ax * ax)

/-- The error function, odd by construction except at zero. -/
def erfApprox (x : α) : α :=
  let s : α := if x < 0 then -1 else 1
  s * (1 - erfTail (Scalar.abs x))

/-- The distribution function of the standard normal law. -/
def normalCdf (x : α) : α := 0.5 * (1 + erfApprox (x / Scalar.sqrt 2.0))

end ReturnForecast
