import ReturnForecast.Estimate
import ReturnForecast.Normal
import ReturnForecast.Scalar.Checked

/-!
# Outlook of a trade under a price move

The price at the end is lognormal: its logarithm moves by a normal law. From this follow the mean
and the spread of the trade's profit, and the chance that the price clears the level at which the
costs are paid. Inputs without a price or a quantity have an outlook of zeros, whatever their side.
-/

namespace ReturnForecast

/-- The direction of a position. -/
inductive Position where
  | long
  | short
deriving DecidableEq, Repr

namespace Position

/-- The name of a direction. -/
def name : Position → String
  | long => "long"
  | short => "short"

/-- The direction with exactly this name. -/
def ofName? : String → Option Position
  | "long" => some long
  | "short" => some short
  | _ => none

@[simp] theorem ofName?_name (p : Position) : ofName? p.name = some p := by cases p <;> rfl

/-- The direction with exactly this name, or a fault that shows the name. -/
def ofName (name : String) : Except Fault Position :=
  match ofName? name with
  | some position => .ok position
  | none => .error (.badChoice "PositionSide" (.text name))

/-- One for a long, minus one for a short position. -/
def sign {α : Type} [Scalar α] : Position → α
  | long => 1
  | short => -1

end Position

/-- The mean and the standard deviation of the profit, and the chance of a profit. -/
structure Outlook (α : Type) where
  ev : α
  evStd : α
  pWin : α
deriving DecidableEq, Repr

/-- A trade of a quantity on a spot market, with its costs. -/
structure SpotTrade (α : Type) where
  price : α
  quantity : α
  side : String
  fee : α
  slippage : α
  borrow : α
deriving DecidableEq, Repr

/-- A trade of a quantity of futures contracts, with its costs. -/
structure FuturesTrade (α : Type) where
  price : α
  quantity : α
  multiplier : α
  side : String
  fee : α
  slippage : α
  funding : α
  liquidationRisk : α
deriving DecidableEq, Repr

variable {α : Type} [Scalar α]

/-- The sum of the costs. -/
def SpotTrade.cost (t : SpotTrade α) : α := t.fee + t.slippage + t.borrow

/-- The sum of the costs. -/
def FuturesTrade.cost (t : FuturesTrade α) : α :=
  t.fee + t.slippage + t.funding + t.liquidationRisk

/-- The largest double. -/
def largestFinite : α := (((twoTo 53 - 1) * twoTo 971 : Nat) : α)

/-- The largest exponent whose exponential is a finite double. -/
def maxExponent : α := Scalar.log largestFinite

/-- What stands for a number beyond the largest one. -/
def infinity : α := 1 / 0

/--
The mean and the variance of the price at the end; beyond the range of doubles both are infinite.
-/
def lognormalMoments (p0 mu sigma : α) : α × α :=
  let sigma2 := sigma * sigma
  let growth := mu + 0.5 * sigma2
  if maxExponent < growth ∨ maxExponent < sigma2 then (infinity, infinity)
  else
    let expected := p0 * Scalar.exp growth
    (expected, expected * expected * larger (Scalar.expm1 sigma2) 0)

/-- The price at which a position of a size pays its cost. -/
def breakeven (p0 scale signed cost : α) : Except Fault α := do
  let offset ← div? cost scale
  return if 0 < signed then p0 + offset else p0 - offset

/--
The chance of a profit of a position of a size, entered at a price. A breakeven price of zero or
below is always cleared from above and never from below. Without a sigma the move is compared with
the breakeven in log space.
-/
def winProbability (mu sigma p0 scale signed cost : α) : Except Fault α :=
  if scale ≤ epsilon ∨ p0 ≤ epsilon then .ok 0
  else do
    let threshold ← breakeven p0 scale signed cost
    if threshold ≤ 0 then .ok (if 0 < signed then 1 else 0)
    else do
      let edge ← log? (threshold / p0)
      if sigma ≤ epsilon then .ok (if 0 < signed then (if edge < mu then 1 else 0)
        else (if mu < edge then 1 else 0))
      else do
        let z ← div? (edge - mu) sigma
        .ok (if 0 < signed then 1 - normalCdf z else normalCdf z)

/-- The absolute value of a finite number, zero for others. -/
def finiteAbs (x : α) : α := if Scalar.isFinite x then Scalar.abs x else 0

/-- A finite positive sigma; zero for others. -/
def usableSigma (sigma : α) : α := if Scalar.isFinite sigma && decide (0 < sigma) then sigma else 0

/-- A finite price, raised to zero; zero for others. -/
def usablePrice (price : α) : α := if Scalar.isFinite price then larger price 0 else 0

namespace Outlook

/-- The outlook of a trade that does not take place. -/
def none : Outlook α := { ev := 0, evStd := 0, pWin := 0 }

/-- The outlook of a position of a size, entered at a price. -/
def ofPosition (e : Estimate α) (p0 scale : α) (position : Position) (cost : α) :
    Except Fault (Outlook α) := do
  let sigma := usableSigma e.sigma
  let (expected, variance) := lognormalMoments p0 e.mu sigma
  let signed : α := position.sign
  let deviation ← sqrt? variance
  let pWin ← winProbability e.mu sigma p0 scale signed cost
  return {
    ev := signed * scale * (expected - p0) - cost
    evStd := Scalar.abs (scale * deviation)
    pWin }

/-- The outlook of a spot trade. -/
def ofSpot (e : Estimate α) (t : SpotTrade α) : Except Fault (Outlook α) :=
  let p0 := usablePrice t.price
  let quantity := finiteAbs t.quantity
  if p0 ≤ epsilon ∨ quantity ≤ epsilon then .ok Outlook.none
  else do
    let position ← Position.ofName t.side
    ofPosition e p0 quantity position t.cost

/-- The outlook of a futures trade. -/
def ofFutures (e : Estimate α) (t : FuturesTrade α) : Except Fault (Outlook α) :=
  let p0 := usablePrice t.price
  let quantity := finiteAbs t.quantity
  let multiplier := finiteAbs t.multiplier
  if p0 ≤ epsilon ∨ quantity ≤ epsilon ∨ multiplier ≤ epsilon then .ok Outlook.none
  else do
    let position ← Position.ofName t.side
    ofPosition e p0 (multiplier * quantity) position t.cost

end Outlook

end ReturnForecast
