import ReturnForecast.Predictor.Settings
import ReturnForecast.Scopes
import ReturnForecast.Side

/-!
# Predictors

A predictor observes prices of instruments and prices at signals, and estimates the next return of
either. It has the settings of one kind, the scopes with their tracks, and the macro factors, which
only the macro regression feeds and reads. Within an observation the factors come first, then the
side of a signal is read, then the track learns; what was done before a fault stays done.
-/

namespace ReturnForecast

/-- A predictor of one of the thirteen kinds. -/
structure Predictor (α : Type) where
  settings : Settings α
  scopes : Scopes α settings.State := {}
  factors : MacroFactors α := {}

namespace Predictor

variable {α : Type} [Scalar α]

/-- A predictor that has seen nothing. -/
def fresh (settings : Settings α) : Predictor α := { settings }

/-- A predictor that has seen nothing, from a specification. -/
def ofSpec (s : Spec α) : Predictor α := fresh (.ofSpec s)

/-- The kind of a predictor. -/
def kind (p : Predictor α) : Kind := p.settings.kind

/-- The sigma floor of a predictor. -/
def minSigma (p : Predictor α) : α := p.settings.minSigma

/-- The forecaster of a predictor, at its current factors. -/
def forecaster (p : Predictor α) : Forecaster α p.settings.State :=
  p.settings.forecaster p.factors

/-- The predictor after a price has reached the factors. -/
def observeFactors (p : Predictor α) (instrument : String) (price : α) :
    Except Fault (Predictor α) :=
  match p.settings.factorShare? with
  | none => .ok p
  | some share => (p.factors.observe share instrument price).map fun factors => { p with factors }

/-- The predictor after a price of an instrument, and the fault that stopped it, if any. -/
def observePrice (p : Predictor α) (instrument : String) (price : α) :
    Predictor α × Option Fault :=
  match p.observeFactors instrument price with
  | .error fault => (p, some fault)
  | .ok p =>
    let (scopes, fault) := p.scopes.observePrice p.forecaster instrument price
    ({ p with scopes }, fault)

/-- The predictor after a price at a signal, and the fault that stopped it, if any. -/
def observeSignal (p : Predictor α) (instrument tag side : String) (price : α) :
    Predictor α × Option Fault :=
  match p.observeFactors instrument price with
  | .error fault => (p, some fault)
  | .ok p =>
    match readSignalKey instrument tag side with
    | .error fault => (p, some fault)
    | .ok key =>
      let (scopes, fault) := p.scopes.observeSignal p.forecaster key price
      ({ p with scopes }, fault)

/-- The estimate of an instrument. -/
def estimateBase (p : Predictor α) (instrument : String) (fallback : Estimate α) :
    Except Fault (Estimate α) :=
  p.scopes.estimateBase p.forecaster p.minSigma instrument fallback

/-- The estimate of a signal. -/
def estimateSignal (p : Predictor α) (instrument tag side : String) (fallback : Estimate α) :
    Except Fault (Estimate α) := do
  let base ← p.estimateBase instrument fallback
  let key ← readSignalKey instrument tag side
  p.scopes.estimateSignal p.forecaster p.minSigma key base

/-- The number of returns of an instrument. -/
def sampleCount (p : Predictor α) (instrument : String) : Nat := p.scopes.sampleCount instrument

/-- The number of instruments and signal keys seen so far. -/
def scopeCount (p : Predictor α) : Nat := p.scopes.size

/-- The coefficient of an autoregression at an instrument, once there has been a return. -/
def phi? : Predictor α → String → Except Fault (Option α)
  | { settings := .autoregression c, scopes, .. }, instrument =>
    let track : Track α (Autoregression.State α) := trackOf scopes.base instrument
    .ok (track.fit.map fun fit => Autoregression.phi c fit.state)
  | _, _ => .error .noDiagnostic

/-- The scale of a calibrated momentum at an instrument, once there have been enough returns. -/
def calibration? : Predictor α → String → Except Fault (Option α)
  | { settings := .calibratedMomentum _, scopes, .. }, instrument =>
    let track : Track α (CalibratedMomentum.State α) := trackOf scopes.base instrument
    if track.count < CalibratedMomentum.minSamples then .ok none
    else .ok (track.fit.map fun fit => CalibratedMomentum.scale fit.state)
  | _, _ => .error .noDiagnostic

/-- The factors of a predictor that keeps some. -/
def factors? (p : Predictor α) : Except Fault (MacroFactors α) :=
  if p.settings.factorShare?.isSome then .ok p.factors else .error .noDiagnostic

end Predictor

/-- A predictor as it shows itself: its title and its sigma floor. -/
def Predictor.description (p : Predictor Float) : String :=
  p.kind.title ++ "(min_sigma=" ++ Decimal.text p.minSigma ++ ")"

end ReturnForecast
