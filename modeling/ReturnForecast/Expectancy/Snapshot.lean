import ReturnForecast.Scalar.Binary64

/-!
# Expectancy snapshots

What an estimate of a trade's expectancy consists of, and its rounded form.
-/

namespace ReturnForecast

/-- How much evidence stands behind a probability. -/
inductive Confidence where
  | low
  | medium
  | high
deriving DecidableEq, Repr

namespace Confidence

/-- The name of a level. -/
def name : Confidence → String
  | low => "low"
  | medium => "medium"
  | high => "high"

/-- The level of an effective number of trades. -/
def ofCount {α : Type} [Scalar α] (count : α) : Confidence :=
  if (80.0 : α) ≤ count then high else if (20.0 : α) ≤ count then medium else low

end Confidence

/-- The probabilities of a snapshot, with the evidence behind them. -/
structure Probabilities (α : Type) where
  win : α
  tailLoss : α
  timeoutExit : α
  effectiveCount : α
  confidence : Confidence
  version : String
deriving DecidableEq, Repr

/-- The expectancy of a trade at some time. -/
structure Snapshot (α : Type) where
  expectedReturn : α
  expectedHoldingMs : Int
  worstCaseLoss : α
  feePenalty : α
  probability : Probabilities α
  version : String
  computedAtMs : Int
deriving DecidableEq, Repr

/-- Amounts and probabilities are rounded to this many places. -/
def snapshotPlaces : Nat := 6

/-- The effective number of trades is rounded to this many places. -/
def countPlaces : Nat := 4

/-- The probabilities, rounded. -/
def Probabilities.rounded (p : Probabilities Float) : Probabilities Float :=
  { p with
    win := Decimal.roundTo snapshotPlaces p.win
    tailLoss := Decimal.roundTo snapshotPlaces p.tailLoss
    timeoutExit := Decimal.roundTo snapshotPlaces p.timeoutExit
    effectiveCount := Decimal.roundTo countPlaces p.effectiveCount }

/-- The snapshot as it is handed out, rounded. -/
def Snapshot.rounded (s : Snapshot Float) : Snapshot Float :=
  { s with
    expectedReturn := Decimal.roundTo snapshotPlaces s.expectedReturn
    worstCaseLoss := Decimal.roundTo snapshotPlaces s.worstCaseLoss
    feePenalty := Decimal.roundTo snapshotPlaces s.feePenalty
    probability := s.probability.rounded }

end ReturnForecast
