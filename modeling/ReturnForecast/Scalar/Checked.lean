import ReturnForecast.Scalar
import ReturnForecast.Fault

/-!
# Operations that can fail

Division by zero and logarithms outside their domain stop a request. Two common forms cannot fail
and need no check: the root of a number raised to zero at least, and a quotient that is only taken
where the divisor exceeds a positive bound.
-/

namespace ReturnForecast

variable {α : Type} [Scalar α]

/-- The quotient, unless the divisor is zero. -/
def div? (a b : α) : Except Fault α :=
  if IsZero b then .error .divisionByZero else .ok (a / b)

/-- The natural logarithm, unless the number is zero or below. -/
def log? (x : α) : Except Fault α :=
  if x ≤ 0 then .error .mathDomain else .ok (Scalar.log x)

/-- The square root, unless the number is below zero. -/
def sqrt? (x : α) : Except Fault α :=
  if x < 0 then .error .mathDomain else .ok (Scalar.sqrt x)

/-- The root of a number, zero for what lies below zero. -/
def sqrtPos (x : α) : α := Scalar.sqrt (larger x 0)

/-- The root in `sqrtPos` is never taken below zero. -/
theorem sqrt?_larger_zero (irrefl : ¬ (0 : α) < 0) (x : α) :
    sqrt? (larger x 0) = .ok (sqrtPos x) := by
  have h : ¬ larger x 0 < 0 := by
    unfold larger
    split <;> assumption
  simp [sqrt?, sqrtPos, h]

/-- The quotient where the divisor exceeds a bound, zero elsewhere. -/
def ratioAbove (bound a b : α) : α := if bound < b then a / b else 0

/-- A divisor that exceeds a bound of zero or more is not zero, so `ratioAbove` never fails. -/
theorem div?_eq_ratioAbove {bound a b : α} (h : bound < b)
    (positive : ∀ x : α, bound < x → ¬ x ≤ 0) : div? a b = .ok (ratioAbove bound a b) := by
  have hb : ¬ IsZero b := fun hz => positive b h hz.1
  simp [div?, ratioAbove, hb, h]

/-- The floor of a number, unless it is NaN or infinite. -/
def floor? (x : α) : Except Fault Int :=
  if Scalar.isFinite x then .ok (Scalar.floor x)
  else if isUnordered x then .error (.numeral .nanToInteger)
  else .error (.numeral .infinityToInteger)

/-- An integer as a scalar, unless it is too large for one. -/
def ofInt? (n : Int) : Except Fault α :=
  let x : α := n
  if Scalar.isFinite x then .ok x else .error (.numeral .tooLarge)

end ReturnForecast
