import ReturnForecast.Power

/-!
# Scalars

Every rule of the library is written once, over a type with the operations below. Doubles run it;
theorems take real numbers, or numbers with infinities and NaN, for the same rules. Nothing is
assumed of the operations here, so the order of the operands and the side on which a tie falls are
part of each rule.
-/

namespace ReturnForecast

/-- The operations that the rules need of a number type. -/
class Scalar (α : Type) extends Zero α, One α, Add α, Sub α, Mul α, Div α, Neg α, LT α, LE α,
    NatCast α, IntCast α, OfScientific α where
  ltDecidable : DecidableLT α
  leDecidable : DecidableLE α
  /-- Is the number neither infinite nor NaN? -/
  isFinite : α → Bool
  /-- The largest integer that is not above a finite number. -/
  floor : α → Int
  abs : α → α
  sqrt : α → α
  exp : α → α
  /-- The exponential less one, exact near zero. -/
  expm1 : α → α
  log : α → α
  tanh : α → α

instance Scalar.decidableLT {α : Type} [Scalar α] : DecidableLT α := Scalar.ltDecidable

instance Scalar.decidableLE {α : Type} [Scalar α] : DecidableLE α := Scalar.leDecidable

variable {α : Type} [Scalar α]

/-- The larger of two numbers: the second only if it is strictly larger. -/
def larger (a b : α) : α := if a < b then b else a

/-- The smaller of two numbers: the second only if it is strictly smaller. -/
def smaller (a b : α) : α := if b < a then b else a

/-- A number moved into an interval; what is neither below nor above it ends at its upper end. -/
def clamp (x lo hi : α) : α := larger lo (smaller hi x)

/-- A smoothing factor moved into the unit interval. -/
def clampUnit (x : α) : α := clamp x 0 1

/-- The distance from one to the next double above it, `2^(-52)`. -/
def epsilon : α := 1 / ((twoTo 52 : Nat) : α)

/-- One, zero or minus one, by the sign; zero for what has none. -/
def sign (x : α) : α := if 0 < x then 1 else if x < 0 then -1 else 0

/-- Is the number equal to zero? -/
def IsZero (x : α) : Prop := x ≤ 0 ∧ 0 ≤ x

instance (x : α) : Decidable (IsZero x) := inferInstanceAs (Decidable (x ≤ 0 ∧ 0 ≤ x))

/-- Is the number unordered, so that it is not even at most itself? -/
def isUnordered (x : α) : Bool := !decide (x ≤ x)

/-- The integer part of a finite number, toward zero. -/
def truncate (x : α) : Int := if x < 0 then -Scalar.floor (-x) else Scalar.floor x

/-- The sum of a list, from the left. -/
def total (xs : List α) : α := xs.foldl (· + ·) 0

/-- The mean of a list. -/
def mean (xs : List α) : α := total xs / (xs.length : α)

end ReturnForecast
