import ReturnForecast.Decimal.Rounding
import ReturnForecast.Scoring.Book

/-!
# Lines of a report

Figures have six places; one that is missing or not finite is a dash. A row of scores has its
columns under each other as long as ids and labels are short.
-/

namespace ReturnForecast.CommandLine

/-- A text filled up with spaces behind it. -/
def padRight (width : Nat) (s : String) : String :=
  s ++ String.ofList (List.replicate (width - s.length) ' ')

/-- A text filled up with spaces before it. -/
def padLeft (width : Nat) (s : String) : String :=
  String.ofList (List.replicate (width - s.length) ' ') ++ s

/-- The number of places of a figure. -/
def figurePlaces : Nat := 6

/-- A figure as a text. -/
def figure (x : Option Float) : String :=
  match x with
  | some x => if x.isFinite then Decimal.fixed figurePlaces x else "-"
  | none => "-"

/-- The figures of a summary. -/
def figures (s : MetricsSummary Float) : String :=
  "mae=" ++ figure s.mae ++ " hit=" ++ figure s.hitRate ++ " r2=" ++ figure s.r2

/-- A row of scores. -/
def scoreLine (row : SummaryRow Float) : String :=
  padRight 22 row.parts.predictor ++ " " ++ padLeft 4 row.parts.horizon ++ "  n="
    ++ padRight 6 (toString row.summary.samples) ++ " " ++ figures row.summary

/-- The scores of a book, row by row. -/
def scoreLines (rows : List (SummaryRow Float)) : List String :=
  if rows.isEmpty then ["No predictions resolved"] else rows.map scoreLine

/-- The scores of the running average. -/
def baselineLine (s : MetricsSummary Float) : String :=
  "baseline n=" ++ toString s.samples ++ " " ++ figures s

theorem length_padRight (width : Nat) (s : String) :
    (padRight width s).length = max width s.length := by
  simp [padRight]; omega

theorem length_padLeft (width : Nat) (s : String) :
    (padLeft width s).length = max width s.length := by
  simp [padLeft]; omega

end ReturnForecast.CommandLine
