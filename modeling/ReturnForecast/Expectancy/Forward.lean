import ReturnForecast.Expectancy.Settings
import ReturnForecast.Expectancy.Snapshot

/-!
# Expectancy without a history

For a strategy without past trades the caller supplies the chance of a win. What is risked follows
from the stop, what is gained from the ratio of reward to risk, and the snapshot is marked as one of
low confidence.
-/

namespace ReturnForecast.Expectancy

variable {α : Type} [Scalar α]

/-- A planned trade. -/
structure Plan (α : Type) where
  entryPrice : α
  quantity : α
  stopLossShare : α
  rewardRatio : α
  winChance : α
  maxHoldingMs : Int
deriving DecidableEq, Repr

/-- The snapshot of a planned trade at a time. -/
def forward (c : Settings α) (plan : Plan α) (nowMs : Int) : Snapshot α :=
  let win := clamp plan.winChance 0 1
  let risk :=
    larger plan.entryPrice 0 * larger plan.stopLossShare 0 * Scalar.abs plan.quantity
  let reward := risk * larger plan.rewardRatio 0
  { expectedReturn := win * reward - (1 - win) * risk - c.feePenalty
    expectedHoldingMs := max plan.maxHoldingMs 1
    worstCaseLoss := risk
    feePenalty := c.feePenalty
    probability := {
      win
      tailLoss := 1 - win
      timeoutExit := 0.5
      effectiveCount := 0
      confidence := .low
      version := "forward-static-v1" }
    version := "forward-rr-v1"
    computedAtMs := nowMs }

end ReturnForecast.Expectancy
