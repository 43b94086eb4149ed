import ReturnForecast.Fault
import ReturnForecast.Text.Blank
import ReturnForecast.Text.LetterCase

/-!
# Kinds of predictors
-/

namespace ReturnForecast

/-- The thirteen kinds of predictors. -/
inductive Kind where
  | ewma
  | autoregression
  | holt
  | localLevel
  | trendRegression
  | momentumRegression
  | meanReversion
  | scaledMomentum
  | varianceRatio
  | bounceReversal
  | calibratedMomentum
  | microstructure
  | macroRegression
deriving DecidableEq, Repr

namespace Kind

/-- All kinds. -/
def all : List Kind :=
  [ewma, autoregression, holt, localLevel, trendRegression, momentumRegression, meanReversion,
    scaledMomentum, varianceRatio, bounceReversal, calibratedMomentum, microstructure,
    macroRegression]

/-- The name of a kind in a configuration. -/
def name : Kind → String
  | ewma => "ewma"
  | autoregression => "ar1"
  | holt => "holt"
  | localLevel => "kalman"
  | trendRegression => "linear_rls"
  | momentumRegression => "tsmom_rls"
  | meanReversion => "mean_rev_ou"
  | scaledMomentum => "vol_scaled_mom"
  | varianceRatio => "var_ratio_adapt"
  | bounceReversal => "micro_rev_ar"
  | calibratedMomentum => "self_calib_mom"
  | microstructure => "feature_rls"
  | macroRegression => "cross_asset_macro_rls"

/-- The name under which a predictor of this kind shows itself. -/
def title : Kind → String
  | ewma => "EwmaPredictor"
  | autoregression => "Ar1Predictor"
  | holt => "HoltPredictor"
  | localLevel => "KalmanPredictor"
  | trendRegression => "LinearRlsPredictor"
  | momentumRegression => "TsmomRlsPredictor"
  | meanReversion => "MeanRevOuPredictor"
  | scaledMomentum => "VolScaledMomPredictor"
  | varianceRatio => "VarRatioAdaptPredictor"
  | bounceReversal => "MicroRevArPredictor"
  | calibratedMomentum => "SelfCalibMomPredictor"
  | microstructure => "FeatureRlsPredictor"
  | macroRegression => "CrossAssetMacroRlsPredictor"

/-- The kind with exactly this name. -/
def ofName? (name : String) : Option Kind := all.find? fun kind => kind.name == name

theorem mem_all (kind : Kind) : kind ∈ all := by cases kind <;> decide

@[simp] theorem ofName?_name (kind : Kind) : ofName? kind.name = some kind := by
  cases kind <;> decide

/-- The kind that a text names once it is trimmed and in lower case. -/
def read (s : String) : Except Fault Kind :=
  let name := Text.lower (Text.trim s)
  match ofName? name with
  | some kind => .ok kind
  | none => .error (.config (.unknownKind name))

end Kind

end ReturnForecast
