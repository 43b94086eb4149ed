import ReturnForecast.CommandLine.Outcome
import ReturnForecast.CommandLine.Report
import ReturnForecast.Scoring.Closes

/-!
# The baseline command

Scores the running average over the closes of a file.
-/

namespace ReturnForecast.CommandLine

/-- What the baseline command is asked to do. -/
structure Baseline where
  path : String
  column : String
  alphaMean : Float
  alphaVar : Float
  minSigma : Float
  window : Int
  stride : Int
  normalise : Bool
deriving Repr

namespace Baseline

/-- The options of the command. -/
def grammar : Grammar where
  valued := ["--column", "--alpha-mean", "--alpha-var", "--min-sigma", "--window", "--stride",
    "--log-level"]
  switches := ["--volnorm", "--no-volnorm"]

/-- The command of its arguments. -/
def ofArguments (a : Arguments) : Except Misuse Baseline := do
  return {
    path := ← a.single "csv_path"
    column := a.text "--column" "close"
    alphaMean := ← a.double "--alpha-mean" 0.08
    alphaVar := ← a.double "--alpha-var" 0.08
    minSigma := ← a.double "--min-sigma" 0.001
    window := ← a.integer "--window" standardWindow
    stride := ← a.integer "--stride" 1
    normalise := a.isOn "--volnorm" "--no-volnorm" }

/-- The metrics of the running average over closes. -/
def metrics (b : Baseline) (closes : List Float) : Except Fault (Metrics Float) :=
  if b.normalise then Backfill.normalised closes b.alphaMean b.alphaVar b.minSigma b.window
  else Backfill.plain closes b.alphaMean b.window

/-- The lines that the command prints. -/
def lines (files : Files) (b : Baseline) : Except Fault (List String) := do
  let series ← CloseSeries.ofText (← files.read b.path) b.column none
  let metrics ← b.metrics (strideCloses series.closes b.stride)
  return [baselineLine metrics.summary]

/-- How the command ends. -/
def run (files : Files) (b : Baseline) : Outcome := .ofRun (b.lines files)

end Baseline

end ReturnForecast.CommandLine
