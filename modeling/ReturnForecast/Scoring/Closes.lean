import ReturnForecast.Csv
import ReturnForecast.Decimal.Cell
import ReturnForecast.Scoring.Backfill
import ReturnForecast.Scoring.Replay
import ReturnForecast.Timestamp

/-!
# Series of closes

Closes from a table, with their times where the table has a column for them. Rows whose close is not
a number are dropped, so without times the bars after such a row move up. A bar whose time is
missing is never used.
-/

namespace ReturnForecast

/-- A close, with its time if that is known. -/
structure TimedClose (α : Type) where
  close : α
  time : Option Timestamp
deriving DecidableEq, Repr

/-- Closes in order, and whether they come with times. -/
structure CloseSeries (α : Type) where
  items : List (TimedClose α)
  timed : Bool
deriving DecidableEq, Repr

namespace CloseSeries

variable {α : Type}

/-- The times of a table's rows, if it has a column for them. No name means that none is wanted. -/
def timesOf? (table : CsvTable) (column : Option String) : Option (List (Option Timestamp)) :=
  match column with
  | some name => if name.isEmpty then none else (table.column? name).map Timestamp.ofColumn
  | none => none

/-- The closes that are numbers, with their times. -/
def itemsOf (read : String → Option α) (cells : List (Option String))
    (times : List (Option Timestamp)) : List (TimedClose α) :=
  (cells.zip times).filterMap fun (cell, time) => (cell.bind read).map fun close => { close, time }

/-- The series of a table, whose cells are read by a function. -/
def ofTable (read : String → Option α) (table : CsvTable) (column : String)
    (timeColumn : Option String) : Except Fault (CloseSeries α) :=
  match table.column? column with
  | none => .error (.missingColumn column)
  | some cells =>
    match timesOf? table timeColumn with
    | some times => .ok { items := itemsOf read cells times, timed := true }
    | none => .ok { items := itemsOf read cells (cells.map fun _ => none), timed := false }

/-- The series of a text. -/
def ofText (text column : String) (timeColumn : Option String) :
    Except Fault (CloseSeries Float) := do
  ofTable Decimal.readCell? (← CsvTable.ofText text) column timeColumn

/-- The closes alone. -/
def closes (s : CloseSeries α) : List α := s.items.map (·.close)

/-- Every `stride`-th close. -/
def stride (s : CloseSeries α) (stride : Int) : CloseSeries α :=
  { s with items := strideCloses s.items stride }

/--
The spacing of the bars once every `stride`-th is kept, where they have no times of their own.
-/
def spacing (barMs stride : Int) : Int := if 1 < stride then barMs * stride else barMs

/-- The bars of a series: at their times, or evenly spaced if the series has none. -/
def bars [Scalar α] (s : CloseSeries α) (barMs : Int) : Except Fault (List (Bar α)) :=
  if s.timed then
    .ok (s.items.filterMap fun item =>
      item.time.map fun t => { time := (t.millis : α), price := item.close })
  else Bar.evenly barMs s.closes

end CloseSeries

end ReturnForecast
