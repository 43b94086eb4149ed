import ReturnForecast.Scalar.Checked

/-!
# Smoothing and shrinkage

Exponential smoothing moves an average toward each new value by a fixed share. Shrinkage weighs an
estimate by its sample count, so that few samples count little. The sigma floor replaces what is not
finite.
-/

namespace ReturnForecast

variable {α : Type} [Scalar α]

/-- An exponentially weighted average after a further value. -/
def ewma (previous x share : α) : α := (1 - share) * previous + share * x

/-- The weight `n / (n + k)` of `n` samples. -/
def shrinkWeight? (n k : α) : Except Fault α := div? n (n + k)

/-- A sigma raised to its floor; what is not finite becomes the floor. -/
def floorSigma (sigma least : α) : α :=
  if Scalar.isFinite sigma then larger sigma least else least

end ReturnForecast
