import ReturnForecast.Proofs.LeastSquares.Design

/-!
# The regressions do not look ahead

Each of the four regressions has a design: the features that some lessons give. Wherever a predictor
keeps a track, and whatever it has been fed, the regression of that track is the one that the design
makes of the lessons heard there. A return is therefore only ever paired with features of the
lessons before it, and judged by weights that had not seen it.

* `Design.Describes` — a forecaster keeps the regression of a design, step by step
* `Design.Describes.governs` — then the design governs every track of every run
* `regressions_do_not_look_ahead` — the four regressions
-/

namespace ReturnForecast

open LeastSquares

variable {α σ : Type} [Scalar α] {n : Nat}

/-! ## Designs of forecasters -/

namespace LeastSquares.Design

/-- A forecaster that keeps, in a part of its state, what a design makes of its lessons. -/
structure Describes (d : Design α n) (f : MacroFactors α → Forecaster α σ)
    (state : Lesson α → List (Lesson α) → σ) (view : σ → Regression α n) : Prop where
  learns : Forecaster.LearnsAs f state
  view_eq : ∀ first rest, view (state first rest) = d.regression first rest
  forecast_eq : ∀ factors first rest fallback,
    (f factors).forecast (rest.length + 1) (state first rest) fallback =
      d.forecast fallback (first :: rest)

/--
A design governs a predictor if after every run every track keeps the regression that the design
makes of the lessons heard there, with their number, and forecasts what the design forecasts.
-/
def Governs (d : Design α n) (c : Settings α) (view : c.State → Regression α n) : Prop :=
  ∀ (place : Place) (ticks : List (Tick α)),
    let h := Hearing.ofRun c place ticks
    ∃ s : Scopes α c.State,
      (Predictor.fresh c).observeAll ticks =
        { settings := c, scopes := s, factors := h.factors } ∧
      (s.trackAt place).fit.map (Fit.map view) = fitAfter d.regression h.lessons ∧
      ∀ fallback, (s.trackAt place).forecast (c.forecaster h.factors) fallback =
        d.forecast fallback h.lessons

/-- What a forecaster does at each step, a predictor does in every run. -/
theorem Describes.governs {d : Design α n} {c : Settings α}
    {state : Lesson α → List (Lesson α) → c.State} {view : c.State → Regression α n}
    (hd : d.Describes c.forecaster state view) : d.Governs c view := by
  intro place ticks h
  obtain ⟨s, hrun, htrack⟩ := Predictor.heard_observeAll hd.learns place ticks
  refine ⟨s, hrun, ?_, ?_⟩
  · rw [htrack, Hearing.track, map_fitAfter]
    congr 1
    funext first rest
    exact hd.view_eq first rest
  · intro fallback
    rw [htrack]
    show Track.forecast _ (h.track state) fallback = d.forecast fallback h.lessons
    unfold Track.forecast Hearing.track
    cases h.lessons with
    | nil => rfl
    | cons first rest => exact hd.forecast_eq h.factors first rest fallback

end LeastSquares.Design

/-! ## The last return and the trend -/

namespace TrendRegression

/-- The averages of some returns, and the last of them. -/
structure Averages (α : Type) where
  lastReturn : α
  fast : α
  slow : α
  vol2 : α

/-- The averages of one return. -/
def Averages.first (r : α) : Averages α := { lastReturn := r, fast := r, slow := r, vol2 := r * r }

/-- The averages with a further return. -/
def Averages.next (c : Settings α) (a : Averages α) (r : α) : Averages α :=
  let slow := ewma a.slow r (clampUnit c.alphaSlow)
  { lastReturn := r
    fast := ewma a.fast r (clampUnit c.alphaFast)
    slow
    vol2 := ewma a.vol2 ((r - slow) * (r - slow)) (clampUnit c.alphaVol) }

/-- The averages over some lessons. -/
def averages (c : Settings α) (first : Lesson α) (rest : List (Lesson α)) : Averages α :=
  rest.foldl (fun a next => a.next c next.ret) (.first first.ret)

theorem averages_concat (c : Settings α) (first : Lesson α) (rest : List (Lesson α))
    (next : Lesson α) :
    averages c first (rest ++ [next]) = (averages c first rest).next c next.ret :=
  List.foldl_append

/-- The design of the regression on the last return and the trend. -/
def design (c : Settings α) : Design α dim where
  features first rest :=
    let a := averages c first rest
    features a.lastReturn a.fast a.slow a.vol2
  forgetting := c.forgetting
  ridge := c.ridge
  errorShare := clampUnit c.alphaVol
  countsFirst := true
  shrinkCount := shrinkCount
  minSigma := c.minSigma

/-- The regression in a state. -/
def State.regression (s : State α) : Regression α dim where
  residual2 := s.residual2
  filter := s.filter
  features := s.features

/-- The state that lessons leave. -/
def stateOf (c : Settings α) (first : Lesson α) (rest : List (Lesson α)) : State α where
  fast := (averages c first rest).fast
  slow := (averages c first rest).slow
  vol2 := (averages c first rest).vol2
  residual2 := (design c).residual2 first rest
  filter := (design c).filter first rest
  features := (design c).features first rest

theorem step_stateOf (c : Settings α) (first : Lesson α) (rest : List (Lesson α))
    (next : Lesson α) :
    step c (stateOf c first rest) next.ret = stateOf c first (rest ++ [next]) := by
  have haverages := averages_concat c first rest next
  have hresidual := (design c).residual2_concat_of_counts first rest next rfl
  simp only [step, stateOf, State.mk.injEq, haverages]
  refine ⟨rfl, rfl, rfl, hresidual.symm, ?_, ?_⟩
  · exact ((design c).filter_concat first rest next).symm
  · simp only [design, haverages, Averages.next]

theorem design_describes (c : Settings α) :
    (design c).Describes (fun _ => forecaster c) (stateOf c) State.regression where
  learns :=
    { seed := fun _ _ => rfl
      step := fun first rest next _ => congrArg Except.ok (step_stateOf c first rest next) }
  view_eq _ _ := rfl
  forecast_eq _ _ _ _ := rfl

end TrendRegression

/-! ## Momentum over several spans -/

namespace MomentumRegression

/-- The recent returns among some lessons. -/
def recentOf (first : Lesson α) (rest : List (Lesson α)) : RecentReturns α :=
  rest.foldl (fun ring next => ring.push next.ret) (RecentReturns.empty.push first.ret)

theorem recentOf_concat (first : Lesson α) (rest : List (Lesson α)) (next : Lesson α) :
    recentOf first (rest ++ [next]) = (recentOf first rest).push next.ret :=
  List.foldl_append

/-- The design of the regression on momentum. -/
def design (c : TrendRegression.Settings α) : Design α dim where
  features first rest := features (recentOf first rest)
  forgetting := c.forgetting
  ridge := c.ridge
  errorShare := clampUnit c.alphaVol
  countsFirst := false
  shrinkCount := shrinkCount
  minSigma := c.minSigma

/-- The regression in a state. -/
def State.regression (s : State α) : Regression α dim where
  residual2 := s.residual2
  filter := s.filter
  features := s.features

/-- The state that lessons leave. -/
def stateOf (c : TrendRegression.Settings α) (first : Lesson α) (rest : List (Lesson α)) :
    State α where
  recent := recentOf first rest
  residual2 := (design c).residual2 first rest
  filter := (design c).filter first rest
  features := (design c).features first rest

theorem step_stateOf (c : TrendRegression.Settings α) (first : Lesson α)
    (rest : List (Lesson α)) (next : Lesson α) :
    step c (rest.length + 1) (stateOf c first rest) next.ret =
      stateOf c first (rest ++ [next]) := by
  have hrecent := recentOf_concat first rest next
  have hresidual := (design c).residual2_concat_of_not_counts first rest next rfl
  simp only [step, stateOf, State.mk.injEq]
  refine ⟨hrecent.symm, hresidual.symm, ?_, ?_⟩
  · exact ((design c).filter_concat first rest next).symm
  · exact congrArg features hrecent.symm

theorem design_describes (c : TrendRegression.Settings α) :
    (design c).Describes (fun _ => forecaster c) (stateOf c) State.regression where
  learns :=
    { seed := fun _ _ => rfl
      step := fun first rest next _ => congrArg Except.ok (step_stateOf c first rest next) }
  view_eq _ _ := rfl
  forecast_eq _ _ _ _ := rfl

end MomentumRegression

/-! ## Bounded features of the return process -/

namespace Microstructure

/-- The statistics of some lessons. -/
def statisticsOf (c : Settings α) (first : Lesson α) (rest : List (Lesson α)) : Statistics α :=
  rest.foldl (fun s next => s.next c next.ret) (.first first.ret)

theorem statisticsOf_concat (c : Settings α) (first : Lesson α) (rest : List (Lesson α))
    (next : Lesson α) :
    statisticsOf c first (rest ++ [next]) = (statisticsOf c first rest).next c next.ret :=
  List.foldl_append

/-- The design of the regression on bounded features. -/
def design (c : Settings α) : Design α dim where
  features first rest := features (statisticsOf c first rest) c.minSigma
  forgetting := c.forgetting
  ridge := c.ridge
  errorShare := clampUnit c.alphaVar
  countsFirst := true
  minSamples := minSamples
  clip := some c.predClip
  shrinkCount := shrinkCount
  minSigma := c.minSigma

/-- The regression in a state. -/
def State.regression (s : State α) : Regression α dim where
  residual2 := s.residual2
  filter := s.filter
  features := s.features

/-- The state that lessons leave. -/
def stateOf (c : Settings α) (first : Lesson α) (rest : List (Lesson α)) : State α where
  statistics := statisticsOf c first rest
  residual2 := (design c).residual2 first rest
  filter := (design c).filter first rest
  features := (design c).features first rest

theorem step_stateOf (c : Settings α) (first : Lesson α) (rest : List (Lesson α))
    (next : Lesson α) :
    step c (stateOf c first rest) next.ret = stateOf c first (rest ++ [next]) := by
  have hstatistics := statisticsOf_concat c first rest next
  have hresidual := (design c).residual2_concat_of_counts first rest next rfl
  simp only [step, stateOf, State.mk.injEq]
  refine ⟨hstatistics.symm, hresidual.symm, ?_, ?_⟩
  · exact ((design c).filter_concat first rest next).symm
  · exact congrArg (features · c.minSigma) hstatistics.symm

theorem design_describes (c : Settings α) :
    (design c).Describes (fun _ => forecaster c) (stateOf c) State.regression where
  learns :=
    { seed := fun _ _ => rfl
      step := fun first rest next _ => congrArg Except.ok (step_stateOf c first rest next) }
  view_eq _ _ := rfl
  forecast_eq _ _ _ _ := rfl

end Microstructure

/-! ## Macro factors -/

namespace MacroRegression

/-- The design of the regression on the factors, as they were at the last lesson. -/
def design (c : Settings α) : Design α dim where
  features first rest := (rest.getLastD first).factors.features
  forgetting := c.forgetting
  ridge := c.ridge
  errorShare := clampUnit c.alphaResid
  countsFirst := false
  clip := some c.predClip
  shrinkCount := shrinkCount
  minSigma := c.minSigma

/-- The regression in a state. -/
def State.regression (s : State α) : Regression α dim where
  residual2 := s.residual2
  filter := s.filter
  features := s.features

/-- The state that lessons leave. -/
def stateOf (c : Settings α) (first : Lesson α) (rest : List (Lesson α)) : State α where
  residual2 := (design c).residual2 first rest
  filter := (design c).filter first rest
  features := (design c).features first rest

theorem step_stateOf (c : Settings α) (first : Lesson α) (rest : List (Lesson α))
    (next : Lesson α) :
    step c next.factors (rest.length + 1) (stateOf c first rest) next.ret =
      stateOf c first (rest ++ [next]) := by
  have hresidual := (design c).residual2_concat_of_not_counts first rest next rfl
  simp only [step, stateOf, State.mk.injEq]
  refine ⟨hresidual.symm, ?_, ?_⟩
  · exact ((design c).filter_concat first rest next).symm
  · simp only [design, List.getLastD_concat]

theorem design_describes (c : Settings α) :
    (design c).Describes (forecaster c) (stateOf c) State.regression where
  learns :=
    { seed := fun _ _ => rfl
      step := fun first rest next _ => congrArg Except.ok (step_stateOf c first rest next) }
  view_eq _ _ := rfl
  forecast_eq _ _ _ _ := rfl

end MacroRegression

/-! ## All four -/

/--
**The regressions do not look ahead.** Each design pairs a return with the features of the lessons
before it, and averages the squared errors of weights that had not seen their return; in all
settings and after every run it governs every track of its kind.
-/
theorem regressions_do_not_look_ahead :
    (∀ c : TrendRegression.Settings α, (TrendRegression.design c).Governs (.trendRegression c)
      TrendRegression.State.regression) ∧
    (∀ c : TrendRegression.Settings α, (MomentumRegression.design c).Governs
      (.momentumRegression c) MomentumRegression.State.regression) ∧
    (∀ c : Microstructure.Settings α, (Microstructure.design c).Governs (.microstructure c)
      Microstructure.State.regression) ∧
    ∀ c : MacroRegression.Settings α, (MacroRegression.design c).Governs (.macroRegression c)
      MacroRegression.State.regression := by
  refine ⟨fun c => ?_, fun c => ?_, fun c => ?_, fun c => ?_⟩
  · exact (TrendRegression.design_describes c).governs
  · exact (MomentumRegression.design_describes c).governs
  · exact (Microstructure.design_describes c).governs
  · exact (MacroRegression.design_describes c).governs

end ReturnForecast
