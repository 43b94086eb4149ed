import ReturnForecast.Expectancy.Settings
import ReturnForecast.Predictor.Catalogue
import ReturnForecast.Scoring.Metrics
import ReturnForecast.Yaml.Document

/-!
# Configurations

A configuration names the predictors and the horizons to be scored, and holds the settings of the
expectancy estimator and of the metrics. Each section may be missing and then has its standard
content. A configuration is read from an untyped value or from a text, and written back to an
untyped value.
-/

namespace ReturnForecast

/-- The settings of the metrics. -/
structure MetricsSettings where
  window : Int := standardWindow
  r2MinSamples : Int := standardR2MinSamples
deriving DecidableEq, Repr

/-- The number of past trades looked at, where none is given. -/
def standardLookback : Int := 200

/-- A configuration. -/
structure Configuration where
  predictors : List (String × Spec Float) := Catalogue.standardSpecs
  horizons : List (String × Int) := Catalogue.standardHorizons
  expectancy : Expectancy.Settings Float := .standard
  lookback : Int := standardLookback
  metrics : MetricsSettings := {}

/--
An integer from a value; what is no integer is reported, what is infinite is a fault of its own.
-/
def readInteger (toFault : NumeralFault → ConfigFault) (value : Value) : Except Fault Int :=
  match value.toInt with
  | .ok n => .ok n
  | .error cause => .error (Fault.ofNumeral toFault cause)

/-- An integer from an entry of a mapping. -/
def integerEntry (entries : List (Value × Value)) (key : String) (standard : Int)
    (toFault : NumeralFault → ConfigFault) : Except Fault Int :=
  match Value.entry? entries key with
  | none => .ok standard
  | some value => readInteger toFault value

/-! ## Metrics -/

namespace MetricsSettings

/-- The key of the window. -/
def windowKey : String := "window"

/-- The key of the number of pairs that the share of variance needs. -/
def r2Key : String := "r2_min_samples"

/-- Settings in their bounds. -/
def bounded (window r2MinSamples : Int) : MetricsSettings :=
  { window := min (max window 2) largestWindow, r2MinSamples := max r2MinSamples 1 }

/-- The settings of a mapping's entries; further entries are of no effect. -/
def ofEntries (entries : List (Value × Value)) : Except Fault MetricsSettings := do
  let window ← integerEntry entries windowKey standardWindow .badMetrics
  let r2MinSamples ← integerEntry entries r2Key standardR2MinSamples .badMetrics
  return bounded window r2MinSamples

/-- The settings of an untyped value; what is not given means the standard settings. -/
def ofValue (value : Value) : Except Fault MetricsSettings :=
  if !value.isGiven then ofEntries []
  else match value with
    | .map entries => ofEntries entries
    | _ => .error .notMapping

/-- The settings as an untyped value. -/
def toValue (s : MetricsSettings) : Value :=
  .map [(.text windowKey, .int s.window), (.text r2Key, .int s.r2MinSamples)]

end MetricsSettings

namespace Configuration

/-! ## Sections -/

/-- The sections of a configuration. -/
inductive Section where
  | predictors
  | horizons
  | expectancy
  | metrics
deriving DecidableEq, Repr

namespace Section

/-- All sections. -/
def all : List Section := [predictors, horizons, expectancy, metrics]

/-- The key of a section. -/
def key : Section → String
  | predictors => "predictors"
  | horizons => "horizons"
  | expectancy => "ev"
  | metrics => "metrics"

end Section

/-- The value of a section; null if it is missing. -/
def sectionOf (entries : List (Value × Value)) (part : Section) : Value :=
  (Value.entry? entries part.key).getD .null

/-- A predictor from its entry: its id, which is written first, and its row. -/
def readPredictor (entry : Value × Value) : Except Fault (String × Spec Float) := do
  return (← entry.1.written.mapError .numeral, ← Spec.ofValue entry.2)

/-- The predictors of a section, in its order. -/
def readPredictors : Value → Except Fault (List (String × Spec Float))
  | .null => .ok Catalogue.standardSpecs
  | .map entries => entries.mapM readPredictor
  | _ => .error (.config .predictorsNotMapping)

/-- A horizon from its entry: its label, which is written first, and its time. -/
def readHorizon (entry : Value × Value) : Except Fault (String × Int) := do
  return (← entry.1.written.mapError (Fault.ofNumeral .badHorizon),
    ← readInteger .badHorizon entry.2)

/-- The horizons of a section, in its order. All of them are positive. -/
def readHorizons : Value → Except Fault (List (String × Int))
  | .null => .ok Catalogue.standardHorizons
  | .map entries => do
    let horizons ← entries.mapM readHorizon
    if horizons.all fun (_, millis) => 0 < millis then return horizons
    else throw (.config .nonPositiveHorizon)
  | _ => .error (.config .horizonsNotMapping)

/--
The items of a value that is a sequence: those of a list, the characters of a text, the keys of a
mapping.
-/
def sequenceOf? : Value → Option (List Value)
  | .list items => some items
  | .text s => some (s.toList.map fun c => .text (String.singleton c))
  | .map entries => some (entries.map (·.1))
  | _ => none

/-- The entries of a list of pairs, after the ones before a position. -/
def entriesOfPairs (before : List (Value × Value)) (position : Nat) :
    List Value → Except Fault (List (Value × Value))
  | [] => .ok before
  | item :: rest =>
    match sequenceOf? item with
    | none => .error .wrongType
    | some [key, value] =>
      if key.isCompound then .error .wrongType
      else entriesOfPairs (Value.putEntry before key value) (position + 1) rest
    | some items => .error (.notPair position items.length)

/-- The entries of a value: those of a mapping, or a list of pairs. What is not given has none. -/
def entriesOf (value : Value) : Except Fault (List (Value × Value)) :=
  if !value.isGiven then .ok []
  else match value with
    | .map entries => .ok entries
    | other => match sequenceOf? other with
      | some items => entriesOfPairs [] 0 items
      | none => .error .wrongType

/-- The key of the number of past trades looked at. -/
def lookbackKey : String := "lookback"

/-! ## Reading -/

/-- The configuration of a mapping's entries. -/
def ofEntries (entries : List (Value × Value)) : Except Fault Configuration := do
  let unknown := Value.unknownKeys entries (Section.all.map Section.key)
  if unknown.isEmpty then
    let predictors ← readPredictors (sectionOf entries .predictors)
    let horizons ← readHorizons (sectionOf entries .horizons)
    let expectancyEntries ← entriesOf (sectionOf entries .expectancy)
    let lookback ← integerEntry expectancyEntries lookbackKey standardLookback .badLookback
    let expectancy ← Expectancy.Settings.ofEntries (Value.dropEntry expectancyEntries lookbackKey)
    let metrics ← MetricsSettings.ofValue (sectionOf entries .metrics)
    return { predictors, horizons, expectancy, lookback := max lookback 1, metrics }
  else throw (Spec.unknownKeysFault unknown .unknownSections)

/-- The configuration of an untyped value; what is not given means the standard configuration. -/
def ofValue (value : Value) : Except Fault Configuration :=
  if !value.isGiven then ofEntries []
  else match value with
    | .map entries => ofEntries entries
    | _ => .error (.config .rootNotMapping)

/-- The configuration of a text; none stands for a text that cannot be read. -/
def ofText (text : Option String) : Except Fault Configuration :=
  match text with
  | none => .error (.config .unreadable)
  | some text =>
    match Yaml.read? text with
    | some (.ok value) => ofValue value
    | some (.error cause) => .error (.numeral cause)
    | none => .error (.config .invalidYaml)

/-! ## Writing -/

/-- The settings of the expectancy estimator with the lookback, as an untyped value. -/
def expectancyValue (c : Configuration) : Value :=
  match c.expectancy.toValue with
  | .map entries => .map (entries ++ [(.text lookbackKey, .int c.lookback)])
  | other => other

/-- The predictors as an untyped value. -/
def predictorsValue (c : Configuration) : Value :=
  .map (c.predictors.map fun (id, spec) => (.text id, spec.toValue))

/-- The horizons as an untyped value. -/
def horizonsValue (c : Configuration) : Value :=
  .map (c.horizons.map fun (label, millis) => (.text label, .int millis))

/-- The configuration as an untyped value. -/
def toValue (c : Configuration) : Value :=
  .map [
    (.text Section.predictors.key, c.predictorsValue),
    (.text Section.horizons.key, c.horizonsValue),
    (.text Section.expectancy.key, c.expectancyValue),
    (.text Section.metrics.key, c.metrics.toValue)]

/-- The ids of the predictors. -/
def ids (c : Configuration) : List String := c.predictors.map (·.1)

end Configuration

end ReturnForecast
