import ReturnForecast.CommandLine.Outcome
import ReturnForecast.CommandLine.Report
import ReturnForecast.Configuration
import ReturnForecast.Scoring.Closes

/-!
# The score command

Replays the closes of a file through the predictors of a configuration and prints their scores for
each horizon.
-/

namespace ReturnForecast.CommandLine

/-- What the score command is asked to do. -/
structure Score where
  path : String
  column : String
  timeColumn : String
  configPath : Option String
  /-- The ids of the predictors that are wanted; all if there are none. -/
  wanted : List String
  symbol : String
  futures : Bool
  barMs : Int
  stride : Int
  window : Option Int
  normalise : Bool
deriving DecidableEq, Repr

namespace Score

/-- The options of the command. -/
def grammar : Grammar where
  valued := ["--column", "--timestamp-column", "--config", "--predictor", "--symbol", "--bar-ms",
    "--stride", "--window", "--log-level"]
  switches := ["--futures", "--no-futures", "--volnorm", "--no-volnorm"]

/-- An integer option that may be missing. -/
def optionalInteger (a : Arguments) (name : String) : Except Misuse (Option Int) :=
  a.number (fun s => (Decimal.readInt? s).map some) name none

/-- The command of its arguments. -/
def ofArguments (a : Arguments) : Except Misuse Score := do
  return {
    path := ← a.single "csv_path"
    column := a.text "--column" "close"
    timeColumn := a.text "--timestamp-column" "timestamp"
    configPath := a.value? "--config"
    wanted := a.valuesOf "--predictor"
    symbol := a.text "--symbol" "REPLAY"
    futures := a.isOn "--futures" "--no-futures"
    barMs := ← a.integer "--bar-ms" 60000
    stride := ← a.integer "--stride" 1
    window := ← optionalInteger a "--window"
    normalise := a.isOn "--volnorm" "--no-volnorm" }

/-- The configuration to use; a path has to name a file. -/
def configuration (files : Files) (s : Score) : Except Outcome Configuration :=
  match s.configPath with
  | none => .ok {}
  | some path =>
    match files path with
    | none => .error (.misused (.noFile "--config" path))
    | some text =>
      match Configuration.ofText (some text) with
      | .ok c => .ok c
      | .error (.config fault) => .error (.misused (.badConfiguration fault.message))
      | .error fault => .error (.failed fault)

/-- The specifications that are wanted, in the order of the configuration. -/
def specs (s : Score) (c : Configuration) : Except Outcome (List (String × Spec Float)) :=
  match s.wanted.filter fun id => !c.ids.contains id with
  | [] =>
    if s.wanted.isEmpty then .ok c.predictors
    else .ok (c.predictors.filter fun (id, _) => s.wanted.contains id)
  | unknown => .error (.misused (.unknownPredictors unknown))

/--
The window of the metrics: the one that is asked for unless it is zero, else that of the
configuration.
-/
def windowOf (s : Score) (c : Configuration) : Int :=
  match s.window with
  | some window => if window = 0 then c.metrics.window else window
  | none => c.metrics.window

/-- The market of the scopes. -/
def market (s : Score) : Market := if s.futures then .futures else .spot

/-- The scores of some specifications. -/
def lines (files : Files) (s : Score) (c : Configuration) (specs : List (String × Spec Float)) :
    Except Fault (List String) := do
  let series ← CloseSeries.ofText (← files.read s.path) s.column (some s.timeColumn)
  let models ← Catalogue.build specs
  let bars ← (series.stride s.stride).bars (CloseSeries.spacing s.barMs s.stride)
  let plan : ReplayPlan :=
    { symbol := s.symbol, market := s.market, horizons := c.horizons, normalise := s.normalise }
  let book ← plan.replay (.fresh (s.windowOf c) c.metrics.r2MinSamples) models bars
  return scoreLines book.summary

/-- How the command ends. -/
def run (files : Files) (s : Score) : Outcome :=
  match s.configuration files with
  | .error outcome => outcome
  | .ok c =>
    match s.specs c with
    | .error outcome => outcome
    | .ok specs => .ofRun (s.lines files c specs)

end Score

end ReturnForecast.CommandLine
