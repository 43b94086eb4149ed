import ReturnForecast.Predictor.Spec
import ReturnForecast.Model.Ewma
import ReturnForecast.Model.Autoregression
import ReturnForecast.Model.Holt
import ReturnForecast.Model.LocalLevel
import ReturnForecast.Model.TrendRegression
import ReturnForecast.Model.MomentumRegression
import ReturnForecast.Model.MeanReversion
import ReturnForecast.Model.ScaledMomentum
import ReturnForecast.Model.VarianceRatio
import ReturnForecast.Model.BounceReversal
import ReturnForecast.Model.CalibratedMomentum
import ReturnForecast.Model.Microstructure
import ReturnForecast.Model.MacroRegression

/-!
# Settings of all kinds

The settings of a predictor are those of its kind. They come from a specification, whose numbers
each kind reads in its own way, and they determine the type of a state and the forecaster.
-/

namespace ReturnForecast

/-- The settings of one of the thirteen kinds. -/
inductive Settings (α : Type) where
  | ewma (c : Ewma.Settings α)
  | autoregression (c : Autoregression.Settings α)
  | holt (c : Holt.Settings α)
  | localLevel (c : LocalLevel.Settings α)
  | trendRegression (c : TrendRegression.Settings α)
  | momentumRegression (c : TrendRegression.Settings α)
  | meanReversion (c : MeanReversion.Settings α)
  | scaledMomentum (c : ScaledMomentum.Settings α)
  | varianceRatio (c : VarianceRatio.Settings α)
  | bounceReversal (c : BounceReversal.Settings α)
  | calibratedMomentum (c : CalibratedMomentum.Settings α)
  | microstructure (c : Microstructure.Settings α)
  | macroRegression (c : MacroRegression.Settings α)

namespace Settings

variable {α : Type}

/-- The kind that the settings are of. -/
def kind : Settings α → Kind
  | ewma _ => .ewma
  | autoregression _ => .autoregression
  | holt _ => .holt
  | localLevel _ => .localLevel
  | trendRegression _ => .trendRegression
  | momentumRegression _ => .momentumRegression
  | meanReversion _ => .meanReversion
  | scaledMomentum _ => .scaledMomentum
  | varianceRatio _ => .varianceRatio
  | bounceReversal _ => .bounceReversal
  | calibratedMomentum _ => .calibratedMomentum
  | microstructure _ => .microstructure
  | macroRegression _ => .macroRegression

/-- The sigma floor. -/
def minSigma : Settings α → α
  | ewma c => c.minSigma
  | autoregression c => c.minSigma
  | holt c => c.minSigma
  | localLevel c => c.minSigma
  | trendRegression c => c.minSigma
  | momentumRegression c => c.minSigma
  | meanReversion c => c.minSigma
  | scaledMomentum c => c.minSigma
  | varianceRatio c => c.minSigma
  | bounceReversal c => c.minSigma
  | calibratedMomentum c => c.minSigma
  | microstructure c => c.minSigma
  | macroRegression c => c.minSigma

/-- The numbers of settings, by the names that the kind gives them. -/
def fields : Settings α → List (String × α)
  | ewma c =>
    [("alpha_mean", c.alphaMean), ("alpha_var", c.alphaVar), ("min_sigma", c.minSigma)]
  | autoregression c =>
    [("alpha_mean", c.alphaMean), ("alpha_var", c.alphaVar), ("min_sigma", c.minSigma),
      ("phi_clip", c.phiClip)]
  | holt c =>
    [("alpha_mean", c.alphaMean), ("beta_trend", c.betaTrend), ("alpha_var", c.alphaVar),
      ("min_sigma", c.minSigma)]
  | localLevel c =>
    [("process_var", c.processVar), ("measure_var", c.measureVar), ("min_sigma", c.minSigma)]
  | trendRegression c | momentumRegression c =>
    [("alpha_fast", c.alphaFast), ("alpha_slow", c.alphaSlow), ("alpha_vol", c.alphaVol),
      ("forgetting", c.forgetting), ("ridge", c.ridge), ("min_sigma", c.minSigma)]
  | meanReversion c =>
    [("alpha_level", c.alphaLevel), ("alpha_var", c.alphaVar), ("kappa", c.kappa),
      ("z_clip", c.zClip), ("min_sigma", c.minSigma)]
  | scaledMomentum c =>
    [("alpha_fast", c.alphaFast), ("alpha_slow", c.alphaSlow), ("alpha_vol", c.alphaVol),
      ("kappa", c.kappa), ("signal_clip", c.signalClip), ("min_sigma", c.minSigma)]
  | varianceRatio c =>
    [("alpha_fast_var", c.alphaFastVar), ("alpha_slow_var", c.alphaSlowVar),
      ("alpha_trend", c.alphaTrend), ("kappa", c.kappa), ("regime_clip", c.regimeClip),
      ("min_sigma", c.minSigma)]
  | bounceReversal c =>
    [("alpha", c.alpha), ("phi_max", c.phiMax), ("min_sigma", c.minSigma)]
  | calibratedMomentum c =>
    [("alpha_fast", c.alphaFast), ("alpha_slow", c.alphaSlow), ("alpha_var", c.alphaVar),
      ("alpha_calib", c.alphaCalib), ("min_sigma", c.minSigma)]
  | microstructure c =>
    [("alpha_fast", c.alphaFast), ("alpha_slow", c.alphaSlow), ("alpha_var", c.alphaVar),
      ("forgetting", c.forgetting), ("ridge", c.ridge), ("pred_clip", c.predClip),
      ("min_sigma", c.minSigma)]
  | macroRegression c =>
    [("alpha_factor", c.alphaFactor), ("alpha_resid", c.alphaResid), ("forgetting", c.forgetting),
      ("ridge", c.ridge), ("pred_clip", c.predClip), ("min_sigma", c.minSigma)]

/-- The trend regressions' reading of a specification. -/
def trendOfSpec (s : Spec α) : TrendRegression.Settings α :=
  { alphaFast := s.alphaMean, alphaSlow := s.betaTrend, alphaVol := s.alphaVar
    forgetting := s.phiClip, ridge := s.processVar, minSigma := s.minSigma }

/-- The reading of a specification by its kind. -/
def ofSpec (s : Spec α) : Settings α :=
  match s.kind with
  | .ewma => .ewma { alphaMean := s.alphaMean, alphaVar := s.alphaVar, minSigma := s.minSigma }
  | .autoregression => .autoregression
      { alphaMean := s.alphaMean, alphaVar := s.alphaVar, minSigma := s.minSigma
        phiClip := s.phiClip }
  | .holt => .holt
      { alphaMean := s.alphaMean, betaTrend := s.betaTrend, alphaVar := s.alphaVar
        minSigma := s.minSigma }
  | .localLevel => .localLevel
      { processVar := s.processVar, measureVar := s.measureVar, minSigma := s.minSigma }
  | .trendRegression => .trendRegression (trendOfSpec s)
  | .momentumRegression => .momentumRegression (trendOfSpec s)
  | .meanReversion => .meanReversion
      { alphaLevel := s.alphaMean, alphaVar := s.alphaVar, kappa := s.phiClip
        zClip := s.betaTrend, minSigma := s.minSigma }
  | .scaledMomentum => .scaledMomentum
      { alphaFast := s.alphaMean, alphaSlow := s.processVar, alphaVol := s.alphaVar
        kappa := s.phiClip, signalClip := s.betaTrend, minSigma := s.minSigma }
  | .varianceRatio => .varianceRatio
      { alphaFastVar := s.alphaMean, alphaSlowVar := s.alphaVar, alphaTrend := s.processVar
        kappa := s.phiClip, regimeClip := s.betaTrend, minSigma := s.minSigma }
  | .bounceReversal => .bounceReversal
      { alpha := s.alphaMean, phiMax := s.phiClip, minSigma := s.minSigma }
  | .calibratedMomentum => .calibratedMomentum
      { alphaFast := s.alphaMean, alphaSlow := s.betaTrend, alphaVar := s.alphaVar
        alphaCalib := s.processVar, minSigma := s.minSigma }
  | .microstructure => .microstructure
      { alphaFast := s.alphaMean, alphaSlow := s.betaTrend, alphaVar := s.alphaVar
        forgetting := s.phiClip, ridge := s.processVar, predClip := s.measureVar
        minSigma := s.minSigma }
  | .macroRegression => .macroRegression
      { alphaFactor := s.alphaMean, alphaResid := s.alphaVar, forgetting := s.phiClip
        ridge := s.processVar, predClip := s.measureVar, minSigma := s.minSigma }

@[simp] theorem kind_ofSpec (s : Spec α) : (ofSpec s).kind = s.kind := by
  unfold ofSpec
  split <;> simp_all [kind]

@[simp] theorem minSigma_ofSpec (s : Spec α) : (ofSpec s).minSigma = s.minSigma := by
  unfold ofSpec
  split <;> rfl

/-- The states that a forecaster with these settings goes through. -/
def State : Settings α → Type
  | ewma _ => Ewma.State α
  | autoregression _ => Autoregression.State α
  | holt _ => Holt.State α
  | localLevel _ => LocalLevel.State α
  | trendRegression _ => TrendRegression.State α
  | momentumRegression _ => MomentumRegression.State α
  | meanReversion _ => MeanReversion.State α
  | scaledMomentum _ => ScaledMomentum.State α
  | varianceRatio _ => VarianceRatio.State α
  | bounceReversal _ => BounceReversal.State α
  | calibratedMomentum _ => CalibratedMomentum.State α
  | microstructure _ => Microstructure.State α
  | macroRegression _ => MacroRegression.State α

variable [Scalar α]

/-- The settings of a kind where none are given. -/
def standard : Kind → Settings α
  | .ewma => .ewma Ewma.standard
  | .autoregression => .autoregression Autoregression.standard
  | .holt => .holt Holt.standard
  | .localLevel => .localLevel LocalLevel.standard
  | .trendRegression => .trendRegression TrendRegression.standard
  | .momentumRegression => .momentumRegression TrendRegression.standard
  | .meanReversion => .meanReversion MeanReversion.standard
  | .scaledMomentum => .scaledMomentum ScaledMomentum.standard
  | .varianceRatio => .varianceRatio VarianceRatio.standard
  | .bounceReversal => .bounceReversal BounceReversal.standard
  | .calibratedMomentum => .calibratedMomentum CalibratedMomentum.standard
  | .microstructure => .microstructure Microstructure.standard
  | .macroRegression => .macroRegression MacroRegression.standard

/-- The forecaster with these settings; only the macro regression looks at the factors. -/
def forecaster (factors : MacroFactors α) : (c : Settings α) → Forecaster α c.State
  | ewma c => Ewma.forecaster c
  | autoregression c => Autoregression.forecaster c
  | holt c => Holt.forecaster c
  | localLevel c => LocalLevel.forecaster c
  | trendRegression c => TrendRegression.forecaster c
  | momentumRegression c => MomentumRegression.forecaster c
  | meanReversion c => MeanReversion.forecaster c
  | scaledMomentum c => ScaledMomentum.forecaster c
  | varianceRatio c => VarianceRatio.forecaster c
  | bounceReversal c => BounceReversal.forecaster c
  | calibratedMomentum c => CalibratedMomentum.forecaster c
  | microstructure c => Microstructure.forecaster c
  | macroRegression c => MacroRegression.forecaster c factors

/-- The share of a new return in a factor's average, for the settings that keep factors. -/
def factorShare? : Settings α → Option α
  | macroRegression c => some (clampUnit c.alphaFactor)
  | _ => none

end Settings

end ReturnForecast
