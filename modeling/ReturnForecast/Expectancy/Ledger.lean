import ReturnForecast.Decimal.Cell
import ReturnForecast.Expectancy.Reader
import ReturnForecast.Scalar.Checked
import ReturnForecast.Timestamp

/-!
# Ledgers of closed trades

Closed trades with the time of their closing, the most recent first. The window of a scope is the
start of its list, and the age of a trade is its distance from a fixed point in time. A ledger is
read from a table with columns for tag, instrument, profit or loss, holding time and closing time;
rows that lack one of the last three are dropped.
-/

namespace ReturnForecast

/-- A closed trade, under its tag and instrument as these are compared. -/
structure ClosedTrade (α : Type) where
  tag : String
  instrument : String
  pnl : α
  /-- In milliseconds, with a fraction. -/
  holding : α
  closedAt : Timestamp
deriving DecidableEq, Repr

/-- Closed trades, the most recent first, and the time from which ages are counted. -/
structure TradeLedger (α : Type) where
  trades : List (ClosedTrade α)
  now : Timestamp

namespace TradeLedger

variable {α : Type}

/-- The ledger of some trades, given in any order. -/
def ofTrades (now : Timestamp) (trades : List (ClosedTrade α)) : TradeLedger α :=
  { trades := trades.mergeSort fun a b => decide (b.closedAt.nanos ≤ a.closedAt.nanos), now }

variable [Scalar α]

/-- The time between two points in days. -/
def daysBetween (earlier later : Timestamp) : α :=
  ((later.nanos - earlier.nanos : Int) : α) / 86400000000000.0

/-- A number without its fraction, unless it is not finite. -/
def truncate? (x : α) : Except Fault Int :=
  if Scalar.isFinite x then .ok (truncate x) else .error (.numeral .infinityToInteger)

/-- A trade as a sample, seen from a point in time. -/
def sampleAt (now : Timestamp) (trade : ClosedTrade α) : Except Fault (TradeSample α) :=
  (truncate? trade.holding).map fun holdingMs =>
    { ageDays := daysBetween trade.closedAt now, pnl := trade.pnl, holdingMs }

/-- The first trades of a list as a window. -/
def window (now : Timestamp) (lookback : Int) (trades : List (ClosedTrade α)) :
    Except Fault (TradeWindow α) :=
  (firstItems lookback trades).mapM (sampleAt now)

/-- The trades of a tag on an instrument. -/
def ofScope (l : TradeLedger α) (tag instrument : String) : List (ClosedTrade α) :=
  l.trades.filter fun t => t.tag == normalTag tag && t.instrument == normalInstrument instrument

/-- The trades of a tag. -/
def ofTag (l : TradeLedger α) (tag : String) : List (ClosedTrade α) :=
  l.trades.filter fun t => t.tag == normalTag tag

/-- The ledger as a reader. -/
def reader (l : TradeLedger α) : TradeReader α where
  localWindow tag instrument lookback := window l.now lookback (l.ofScope tag instrument)
  globalWindow tag lookback := window l.now lookback (l.ofTag tag)

end TradeLedger

/-! ## Ledgers from tables -/

/-- A table of trades: the names of its columns, and its rows. -/
structure TradeTable where
  columns : List String
  rows : List (List Value)

namespace TradeTable

/-- The columns that a table of trades needs. -/
inductive Column where
  | tag
  | instrument
  | pnl
  | holding
  | closedAt
deriving DecidableEq, Repr

namespace Column

/-- All columns. -/
def all : List Column := [tag, instrument, pnl, holding, closedAt]

/-- The name of a column. -/
def name : Column → String
  | tag => "source_tag"
  | instrument => "instrument"
  | pnl => "pnl_usdt"
  | holding => "holding_ms"
  | closedAt => "closed_at"

end Column

/-- The names of the columns that a table lacks. -/
def missing (t : TradeTable) : List String :=
  (Column.all.map Column.name).filter fun name => !t.columns.contains name

/-- The cell of a row in a column, null if there is none. -/
def cell (t : TradeTable) (row : List Value) (column : Column) : Value :=
  ((t.columns.findIdx? (· == column.name)).bind (row[·]?)).getD .null

/-- The number in a cell. -/
def numberOf? (cell : Value) : Option Float :=
  match cell with
  | .text s => Decimal.readCell? s
  | .null | .list _ | .map _ => none
  | v => match v.toFloat with
    | .ok x => if Decimal.isNaN x then none else some x
    | .error _ => none

/-- The text of a timestamp, if the cell holds one. -/
def timeText? (cell : Value) : Option String :=
  match cell with
  | .text s => if s.isEmpty then none else some s
  | _ => none

/--
The trade in a row whose closing time has been read; none if the row lacks a number or a time. The
tag and the instrument of a row that is kept have to be written.
-/
def tradeOf (t : TradeTable) (row : List Value) (closedAt : Option Timestamp) :
    Except Fault (Option (ClosedTrade Float)) :=
  match closedAt, numberOf? (t.cell row .pnl), numberOf? (t.cell row .holding) with
  | some closedAt, some pnl, some holding => do
    let tag ← (t.cell row .tag).written.mapError .numeral
    let instrument ← (t.cell row .instrument).written.mapError .numeral
    return some {
      tag := normalTag tag
      instrument := normalInstrument instrument
      pnl, holding, closedAt }
  | _, _, _ => .ok none

/-- The trades of a table, without the rows that lack a number or a time. -/
def trades (t : TradeTable) : Except Fault (List (ClosedTrade Float)) := do
  let times := Timestamp.ofColumn (t.rows.map fun row => timeText? (t.cell row .closedAt))
  let kept ← (t.rows.zip times).mapM fun (row, closedAt) => t.tradeOf row closedAt
  return kept.filterMap id

end TradeTable

/-- The ledger of a table, seen from a point in time. -/
def TradeLedger.ofTable (now : Timestamp) (table : TradeTable) :
    Except Fault (TradeLedger Float) := do
  if table.missing.isEmpty then return .ofTrades now (← table.trades)
  else .error (.missingColumns table.missing)

end ReturnForecast
