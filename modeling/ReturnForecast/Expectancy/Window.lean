import ReturnForecast.Quantile
import ReturnForecast.Value

/-!
# Windows of closed trades

A window is a list of closed trades. Its queries weigh each trade by its age, so that old trades
count less. A trade that breaks even is neither a win nor a loss.
-/

namespace ReturnForecast

/-- A closed trade: its age in days, its profit or loss, and how long it was held. -/
structure TradeSample (α : Type) where
  ageDays : α
  pnl : α
  holdingMs : Int
deriving DecidableEq, Repr

/-- A list of closed trades. -/
abbrev TradeWindow (α : Type) := List (TradeSample α)

variable {α : Type} [Scalar α]

/--
The weight of an age: it falls exponentially at the given rate. Negative ages and rates count as
zero.
-/
def recencyWeight (ageDays rate : α) : α := Scalar.exp (-larger rate 0 * larger ageDays 0)

namespace TradeWindow

/-- The weights of some trades, summed. -/
def weight (w : TradeWindow α) (rate : α) : α := total (w.map fun s => recencyWeight s.ageDays rate)

/-- The amounts of some trades, weighed and summed. -/
def weightedSum (w : TradeWindow α) (rate : α) (amount : TradeSample α → α) : α :=
  total (w.map fun s => amount s * recencyWeight s.ageDays rate)

/-- The trades with a profit. -/
def wins (w : TradeWindow α) : TradeWindow α := w.filter fun s => 0 < s.pnl

/-- The trades with a loss. -/
def losses (w : TradeWindow α) : TradeWindow α := w.filter fun s => s.pnl < 0

/-- The trades that are not known to end without a loss. -/
def notGains (w : TradeWindow α) : TradeWindow α := w.filter fun s => !decide (0 ≤ s.pnl)

/-- Those of them that reach a threshold of loss. -/
def tailLosses (w : TradeWindow α) (threshold : α) : TradeWindow α :=
  w.notGains.filter fun s => s.pnl ≤ -threshold

/-- The effective number of trades. -/
def effectiveCount (w : TradeWindow α) (rate : α) : α := w.weight rate

/-- The weights of wins and of losses. -/
def winLoss (w : TradeWindow α) (rate : α) : α × α := (w.wins.weight rate, w.losses.weight rate)

/-- The weights of the losses at or beyond a threshold, and of all losses. -/
def tailEvents (w : TradeWindow α) (rate threshold : α) : α × α :=
  ((w.tailLosses threshold).weight rate, w.notGains.weight rate)

/-- The weighted mean win and the weighted mean absolute loss, zero where there is none. -/
def averages (w : TradeWindow α) (rate : α) : α × α :=
  (ratioAbove epsilon (w.wins.weightedSum rate (·.pnl)) (w.wins.weight rate),
    ratioAbove epsilon (w.losses.weightedSum rate fun s => Scalar.abs s.pnl) (w.losses.weight rate))

/-- The upper median of the holding times, zero without trades. -/
def medianHoldingMs (w : TradeWindow α) : Int :=
  let ascending := (w.map (·.holdingMs)).mergeSort
  ascending[ascending.length / 2]?.getD 0

/-- The absolute losses in ascending order. -/
def lossSizes (w : TradeWindow α) : List α :=
  (w.losses.map fun s => Scalar.abs s.pnl).mergeSort fun a b => decide (a ≤ b)

/-- The absolute loss at the rank of five per cent, counted from the smallest. -/
def lossAtRank (w : TradeWindow α) : Except Fault α := nearestRank w.lossSizes 0.05

/--
A posterior probability: prior successes and counted ones among all, with a divisor away from zero.
-/
def posterior (a b hits others : α) : α := (a + hits) / larger (a + b + hits + others) 1e-9

/-- The posterior probability of a win. -/
def winPosterior (w : TradeWindow α) (rate a b : α) : α :=
  let (wins, losses) := w.winLoss rate
  posterior a b wins losses

/-- The posterior probability that a loss is a tail loss. -/
def tailPosterior (w : TradeWindow α) (rate threshold a b : α) : α :=
  let (tail, losses) := w.tailEvents rate threshold
  (a + tail) / larger (a + b + losses) 1e-9

/-- The share of trades held longer than a time, each counted once; one half without trades. -/
def timeoutShare (w : TradeWindow α) (thresholdMs : Int) : α :=
  if w.isEmpty then 0.5
  else ((w.countP fun s => thresholdMs < s.holdingMs : Nat) : α) / (w.length : α)

end TradeWindow

/-! ## Windows from records -/

/-- A number that a record holds. -/
def recordField {β : Type} (record : List (Value × Value)) (name : String)
    (read : Value → Except NumeralFault β) : Except Fault β :=
  match Value.entry? record name with
  | none => .error (.missingField name)
  | some value => match read value with
    | .ok x => .ok x
    | .error cause => .error (.numeral cause)

/-- A trade from a record. -/
def TradeSample.ofRecord (record : Value) : Except Fault (TradeSample Float) :=
  match record with
  | .map entries => do
    let ageDays ← recordField entries "age_days" Value.toFloat
    let pnl ← recordField entries "pnl_usdt" Value.toFloat
    let holdingMs ← recordField entries "holding_ms" Value.toInt
    return { ageDays, pnl, holdingMs }
  | _ => .error .wrongType

/-- A window from records; the first one that is not a trade is the fault. -/
def TradeWindow.ofRecords (records : List Value) : Except Fault (TradeWindow Float) :=
  records.mapM TradeSample.ofRecord

end ReturnForecast
