import ReturnForecast.Predictor

/-!
# The standard predictors

The table of predictors and horizons that are used where a configuration names none, and the models
of a list of specifications.
-/

namespace ReturnForecast.Catalogue

variable {α : Type} [Scalar α]

/-- What the rows of the smoothing family share. -/
def smoothing (base : Ewma.Settings α) : Spec α :=
  { kind := .ewma, alphaMean := 0.08, alphaVar := 0.08, minSigma := base.minSigma, phiClip := 0.98
    betaTrend := 0.08, processVar := 1e-6, measureVar := 1e-4 }

/-- What the rows of the regression family share. -/
def regression (base : Ewma.Settings α) : Spec α :=
  { kind := .trendRegression, alphaMean := 0.20, alphaVar := 0.10, minSigma := base.minSigma
    phiClip := 0.995, betaTrend := 0.05, processVar := 1e-2, measureVar := 0 }

/-- What the rows of the regime family share. -/
def regime (base : Ewma.Settings α) (kind : Kind) : Spec α :=
  { kind, alphaMean := 0.08, alphaVar := 0.08, minSigma := base.minSigma, phiClip := 0.98
    betaTrend := 0.08, processVar := 0, measureVar := 0 }

/--
The table of specifications by id. The base settings give the baseline's factors and the sigma
floor.
-/
def specs (base : Ewma.Settings α) : List (String × Spec α) :=
  let smooth := smoothing base
  let baseline := { smooth with alphaMean := base.alphaMean, alphaVar := base.alphaVar }
  [("ewma-fast-v1", { smooth with alphaMean := 0.18, alphaVar := 0.18 }),
    ("ewma-v1", baseline),
    ("ewma-slow-v1", { smooth with alphaMean := 0.03, alphaVar := 0.03, betaTrend := 0.04 }),
    ("ar1-v1", { baseline with kind := .autoregression }),
    ("ar1-fast-v1",
      { smooth with kind := .autoregression, alphaMean := 0.18, alphaVar := 0.18 }),
    ("holt-v1", { baseline with kind := .holt }),
    ("holt-fast-v1",
      { smooth with kind := .holt, alphaMean := 0.20, alphaVar := 0.18, betaTrend := 0.15 }),
    ("kalman-v1", { baseline with kind := .localLevel }),
    ("lin-ind-v1", regression base),
    ("tsmom-rls-v1", { regression base with kind := .momentumRegression }),
    ("ou-revert-v1",
      { regime base .meanReversion with
        alphaMean := 0.002, alphaVar := 0.05, phiClip := 0.02, betaTrend := 3.0 }),
    ("ou-revert-fast-v1",
      { regime base .meanReversion with
        alphaMean := 0.008, alphaVar := 0.05, phiClip := 0.035, betaTrend := 3.0 }),
    ("volmom-v1",
      { regime base .scaledMomentum with
        alphaMean := 0.10, alphaVar := 0.05, phiClip := 0.015, betaTrend := 3.0
        processVar := 0.02 }),
    ("volmom-fast-v1",
      { regime base .scaledMomentum with
        alphaMean := 0.20, alphaVar := 0.08, phiClip := 0.025, betaTrend := 3.0
        processVar := 0.04 }),
    ("varratio-v1",
      { regime base .varianceRatio with
        alphaMean := 0.15, alphaVar := 0.02, phiClip := 0.015, betaTrend := 1.0
        processVar := 0.06 }),
    ("varratio-fast-v1",
      { regime base .varianceRatio with
        alphaMean := 0.25, alphaVar := 0.04, phiClip := 0.025, betaTrend := 1.0
        processVar := 0.10 }),
    ("microrev-v1",
      { regime base .bounceReversal with
        alphaMean := 0.04, alphaVar := 0.04, phiClip := 0.15, betaTrend := 0 }),
    ("microrev-fast-v1",
      { regime base .bounceReversal with
        alphaMean := 0.10, alphaVar := 0.10, phiClip := 0.15, betaTrend := 0 }),
    ("selfcalib-v1",
      { regime base .calibratedMomentum with
        alphaMean := 0.12, alphaVar := 0.05, phiClip := 0, betaTrend := 0.03
        processVar := 0.03 }),
    ("selfcalib-fast-v1",
      { regime base .calibratedMomentum with
        alphaMean := 0.20, alphaVar := 0.08, phiClip := 0, betaTrend := 0.05
        processVar := 0.05 }),
    ("feat-rls-v1",
      { regime base .microstructure with
        alphaMean := 0.12, alphaVar := 0.04, phiClip := 0.998, betaTrend := 0.02
        processVar := 0.05, measureVar := 3.0 }),
    ("feat-rls-robust-v1",
      { regime base .microstructure with
        alphaMean := 0.08, alphaVar := 0.03, phiClip := 0.999, betaTrend := 0.015
        processVar := 0.08, measureVar := 2.2 }),
    ("feat-rls-fast-v1",
      { regime base .microstructure with
        alphaMean := 0.20, alphaVar := 0.08, phiClip := 0.996, betaTrend := 0.04
        processVar := 0.05, measureVar := 3.0 }),
    ("xasset-macro-rls-v1",
      { regime base .macroRegression with
        alphaMean := 0.10, alphaVar := 0.08, phiClip := 0.998, betaTrend := 0.02
        processVar := 0.05, measureVar := 2.5 })]

/-- The table with the standard base settings. -/
def standardSpecs : List (String × Spec α) := specs Ewma.standard

/-- The standard horizons: their labels and their lengths in milliseconds. -/
def standardHorizons : List (String × Int) := [("1m", 60000), ("3m", 180000), ("5m", 300000)]

/-- One fresh predictor per specification, where some ids have been taken before. -/
def buildAfter (taken : List String) :
    List (String × Spec α) → Except Fault (List (String × Predictor α))
  | [] => .ok []
  | (id, spec) :: rest =>
    if taken.contains id then .error (.config (.duplicateId id))
    else (buildAfter (id :: taken) rest).map ((id, Predictor.ofSpec spec) :: ·)

/-- One fresh predictor per specification, in their order. An id may occur once only. -/
def build (specs : List (String × Spec α)) : Except Fault (List (String × Predictor α)) :=
  buildAfter [] specs

/--
A fresh predictor of a kind given by its exact name, with the numbers used where none are given.
-/
def buildKind (name : String) : Except Fault (Predictor α) :=
  match Kind.ofName? name with
  | some kind => .ok (Predictor.ofSpec (Spec.standard kind))
  | none => .error (.config (.unsupportedKind name))

end ReturnForecast.Catalogue
