import ReturnForecast.Expectancy.Reader
import ReturnForecast.Expectancy.Settings
import ReturnForecast.Expectancy.Snapshot

/-!
# Expectancy from past trades

The chance of a win is a posterior over weighted counts, for the trades on the instrument and for
all trades of the strategy; the first is pulled toward the second, the more the fewer trades it has.
The expected return is what wins and losses give by that chance, less the penalty for tail losses.
-/

namespace ReturnForecast.Expectancy

variable {α : Type} [Scalar α]

/-- The weight of the instrument's own trades. -/
def localWeight (c : Settings α) (count : α) : α := count / (count + larger c.shrinkCount 1e-9)

/-- The chance of a win, from the trades on the instrument and from all trades of the strategy. -/
def winChance (c : Settings α) (own all : TradeWindow α) : α :=
  let ownChance := TradeWindow.winPosterior own c.recencyRate c.priorA c.priorB
  let allChance := TradeWindow.winPosterior all c.recencyRate c.priorA c.priorB
  let w := localWeight c (TradeWindow.effectiveCount own c.recencyRate)
  w * ownChance + (1 - w) * allChance

/-- The snapshot of two windows at a time. -/
def snapshot (c : Settings α) (own all : TradeWindow α) (nowMs : Int) :
    Except Fault (Snapshot α) := do
  let count := TradeWindow.effectiveCount own c.recencyRate
  let win := winChance c own all
  let tailLoss :=
    TradeWindow.tailPosterior own c.recencyRate c.lossThreshold c.tailPriorA c.tailPriorB
  let (averageWin, averageLoss) := TradeWindow.averages own c.recencyRate
  let worstCase ← TradeWindow.lossAtRank own
  let plain := win * averageWin - (1 - win) * averageLoss - c.feePenalty
  let median := TradeWindow.medianHoldingMs own
  return {
    expectedReturn := plain - c.tailPenalty * tailLoss * worstCase
    expectedHoldingMs := if 0 < median then median else max c.timeoutMs 1
    worstCaseLoss := worstCase
    feePenalty := c.feePenalty
    probability := {
      win, tailLoss
      timeoutExit := TradeWindow.timeoutShare own c.timeoutMs
      effectiveCount := count
      confidence := Confidence.ofCount count
      version := c.probabilityVersion }
    version := c.version
    computedAtMs := nowMs }

/-- An estimator: settings, a reader, and how many trades of a scope it looks at. -/
structure Estimator (α : Type) where
  settings : Settings α
  reader : TradeReader α
  lookback : Int

namespace Estimator

/-- The number of trades looked at, one at least. -/
def depth (e : Estimator α) : Int := max e.lookback 1

/-- A loaded window; a fault of the reader is reported with the scope, unless it names its own. -/
def loaded (scope tag : String) (instrument : Option String)
    (window : Except Fault (TradeWindow α)) : Except Fault (TradeWindow α) :=
  match window with
  | .ok w => .ok w
  | .error (.stats fault) => .error (.stats fault)
  | .error fault => .error (.stats { scope, tag, instrument, cause := some fault.category })

/-- The snapshot of a strategy on an instrument at a time. -/
def estimate (e : Estimator α) (tag instrument : String) (nowMs : Int) :
    Except Fault (Snapshot α) := do
  let own ← loaded "local" tag (some instrument) (e.reader.localWindow tag instrument e.depth)
  let all ← loaded "global" tag none (e.reader.globalWindow tag e.depth)
  snapshot e.settings own all nowMs

end Estimator

end ReturnForecast.Expectancy
