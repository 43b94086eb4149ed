import ReturnForecast.Scalar.Checked

/-!
# Prices and returns

A price is usable if it is finite and above machine epsilon. The return between two usable prices is
the logarithm of their quotient; it fails only where the quotient is so small that it vanishes.
-/

namespace ReturnForecast

variable {α : Type} [Scalar α]

/-- Is the price finite and above machine epsilon? -/
def isValidPrice (price : α) : Bool := Scalar.isFinite price && decide (epsilon < price)

/-- The log return from an earlier price, or nothing if either price is missing or unusable. -/
def logReturn (price : α) (previous : Option α) : Except Fault (Option α) :=
  match previous with
  | none => .ok none
  | some prev =>
    if isValidPrice prev && isValidPrice price then (log? (price / prev)).map some else .ok none

theorem logReturn_none (price : α) : logReturn price none = .ok none := rfl

/-- An unusable price gives no return and no fault. -/
theorem logReturn_of_not_valid {price : α} (h : isValidPrice price = false) (previous : Option α) :
    logReturn price previous = .ok none := by
  cases previous <;> simp [logReturn, h]

end ReturnForecast
