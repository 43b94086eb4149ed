import ReturnForecast.Forecaster
import ReturnForecast.Model.LeastSquares

/-!
# Regression on bounded features of the return process

Seven features, each bounded: a constant, acceleration, skewness, length of the current run, change
of variance, lag-one covariance and size of the last return. The forecast is moved to within some
sigmas of zero.
-/

namespace ReturnForecast.Microstructure

open LeastSquares

/-- The smoothing factors, the parameters of the regression, the bound and the sigma floor. -/
structure Settings (α : Type) where
  alphaFast : α
  alphaSlow : α
  alphaVar : α
  forgetting : α
  ridge : α
  predClip : α
  minSigma : α
deriving DecidableEq, Repr

/-- The number of features. -/
abbrev dim : Nat := 7

/-- What is averaged and counted over the returns. -/
structure Statistics (α : Type) where
  lastReturn : α
  earlierReturn : α
  cube : α
  fastVar : α
  slowVar : α
  lagCov : α
  /-- The length of the current run of returns of one sign, negative for falling ones. -/
  run : Int
deriving DecidableEq, Repr

/--
The statistics, the average squared error, the regression and the features of the next return.
-/
structure State (α : Type) where
  statistics : Statistics α
  residual2 : α
  filter : Filter α dim
  features : Vector α dim

variable {α : Type} [Scalar α]

/-- The settings used where none are given. -/
def standard : Settings α :=
  { alphaFast := 0.12, alphaSlow := 0.02, alphaVar := 0.04, forgetting := 0.998, ridge := 0.05,
    predClip := 3.0, minSigma := 0.001 }

/-- The sample count at which forecast and fallback weigh the same. -/
def shrinkCount : α := 150.0

/-- The number of returns needed for a forecast. -/
def minSamples : Nat := 3

/-- The seven features of some statistics. -/
def features (s : Statistics α) (minSigma : α) : Vector α dim :=
  let sigma := larger (sqrtPos s.slowVar) minSigma
  let sigma2 := larger s.slowVar 1e-18
  let sigma3 := sigma * sigma2
  #v[1,
    clamp (ratioAbove 1e-12 (s.lastReturn - s.earlierReturn) sigma) (-5.0) 5.0,
    clamp (ratioAbove 1e-18 s.cube sigma3) (-5.0) 5.0,
    Scalar.tanh ((s.run : α) / 3.0),
    clamp (ratioAbove 1e-18 (s.fastVar - s.slowVar) s.slowVar) (-3.0) 3.0,
    clamp (ratioAbove 1e-18 s.lagCov sigma2) (-1) 1,
    clamp (ratioAbove 1e-12 (Scalar.abs s.lastReturn) sigma) 0 5.0]

/-- The features of statistics whose run may be too long for a number. -/
def features? (s : Statistics α) (minSigma : α) : Except Fault (Vector α dim) := do
  let _ ← (ofInt? s.run : Except Fault α)
  return features s minSigma

/-- A run after a further return. A return of zero goes on with a rising run. -/
def extendRun (run : Int) (r : α) : Int :=
  if 0 ≤ r then if 0 < run then run + 1 else 1
  else if run < 0 then run - 1 else -1

/-- The third power. -/
def cubed (r : α) : α := r * r * r

/-- The statistics after the first return. -/
def Statistics.first (r : α) : Statistics α :=
  { lastReturn := r, earlierReturn := 0, cube := cubed r, fastVar := r * r, slowVar := r * r
    lagCov := 0, run := extendRun 0 r }

/-- The statistics after a further return. -/
def Statistics.next (c : Settings α) (s : Statistics α) (r : α) : Statistics α :=
  let share := clampUnit c.alphaVar
  { lastReturn := r
    earlierReturn := s.lastReturn
    cube := ewma s.cube (cubed r) share
    fastVar := ewma s.fastVar (r * r) (clampUnit c.alphaFast)
    slowVar := ewma s.slowVar (r * r) (clampUnit c.alphaSlow)
    lagCov := ewma s.lagCov (r * s.lastReturn) share
    run := extendRun s.run r }

/-- The state after the first return. -/
def seed (c : Settings α) (r : α) : State α :=
  let statistics := Statistics.first r
  { statistics, residual2 := r * r
    filter := Filter.fresh dim c.forgetting c.ridge
    features := features statistics c.minSigma }

/-- The state after a further return. -/
def step (c : Settings α) (s : State α) (r : α) : State α :=
  let error := r - s.filter.predict s.features
  let statistics := s.statistics.next c r
  { statistics
    residual2 := ewma s.residual2 (error * error) (clampUnit c.alphaVar)
    filter := s.filter.observe s.features r
    features := features statistics c.minSigma }

/-- Forecasts by the regression within its bound, weighed against the fallback. -/
def forecaster (c : Settings α) : Forecaster α (State α) where
  seed r _ := .ok (seed c r)
  step _ s r _ := .ok (step c s r)
  forecast count s fallback :=
    if count < minSamples then .ok fallback
    else
      let sigma := larger (sqrtPos s.residual2) c.minSigma
      let bound := c.predClip * sigma
      Estimate.shrunk (clamp (s.filter.predict s.features) (-bound) bound) sigma count shrinkCount
        fallback c.minSigma

end ReturnForecast.Microstructure
