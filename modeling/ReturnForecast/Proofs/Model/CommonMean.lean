import ReturnForecast.Proofs.Predictor.ReturnHistory

/-!
# Three averages with one mean

Moving averages, Holt's method without a trend and an autoregression whose coefficient is held at
zero have the same forecast: the exponentially weighted mean of the returns. Their variances average
the squares of different residuals. Moving averages measure a return from the mean that has seen it,
the other two from the mean before it, that is from its own forecast; and the first return counts
for nothing, except in the autoregression, which measures it from zero. Over exact reals the mean
moves by a fixed share of its error, so each variance follows from the others.

* `errorVariance` — the average squared error of the mean as a forecast
* `Ewma.stateAfter_eq` / `Holt.stateAfter_eq` / `Autoregression.stateAfter_eq` — the three states
* `common_mean` — the states and the estimates of the three after every run
-/

namespace ReturnForecast

/-! ## The mean and its errors -/

section Mean

variable (share varShare : ℝ) (r : ℕ → ℝ) (n : ℕ)

/-- The exponentially weighted mean of a first return and `n` further ones. -/
noncomputable def meanAfter : ℝ := smoothed share (firstReturns r n)

theorem meanAfter_succ :
    meanAfter share r (n + 1) = ewma (meanAfter share r n) (r (n + 1)) share := by
  have hlength : (firstReturns r n).length ≠ 0 := by simp [firstReturns]
  rw [meanAfter, firstReturns_succ, smoothed_concat, if_neg hlength]
  rfl

/-- The error of the mean as a forecast of the next return. -/
noncomputable def meanError : ℝ := r (n + 1) - meanAfter share r n

/-- Once it has seen a return, the mean is closer to it, by the share that it moves. -/
theorem sub_meanAfter_succ :
    r (n + 1) - meanAfter share r (n + 1) = (1 - share) * meanError share r n := by
  rw [meanAfter_succ]
  unfold meanError ewma
  ring

/-- The average squared error of the mean as a forecast. It starts at zero. -/
noncomputable def errorVariance : ℝ :=
  averaged varShare (fun t => meanError share r t * meanError share r t) n

theorem errorVariance_succ : errorVariance share varShare r (n + 1) =
    ewma (errorVariance share varShare r n) (meanError share r n * meanError share r n)
      varShare := rfl

variable {varShare} in
theorem errorVariance_nonneg (h : varShare ∈ Set.Icc 0 1) : 0 ≤ errorVariance share varShare r n :=
  averaged_nonneg h fun _ _ => mul_self_nonneg _

end Mean

open Predictor

section Kinds

variable {place : Place} {ticks : List (Tick ℝ)} {r : ℕ → ℝ} {n : ℕ}

/-! ## Moving averages -/

namespace Ewma

variable (c : Settings ℝ)

theorem learnsReturns : (forecaster c).LearnsReturns seed (step c) fun _ => True :=
  .of_total (fun _ _ => rfl) fun _ _ _ _ => rfl

/-- The residual is what is left of the error once the mean has moved. -/
theorem stateAfter_eq (r : ℕ → ℝ) (n : ℕ) : statesAfter seed (step c) r n =
    { mu := meanAfter (clampUnit c.alphaMean) r n
      var := (1 - clampUnit c.alphaMean) ^ 2 *
        errorVariance (clampUnit c.alphaMean) (clampUnit c.alphaVar) r n } := by
  rw [errorVariance, ← averaged_const_mul]
  induction n with
  | zero =>
    show ({ mu := r 0, var := (r 0 - r 0) * (r 0 - r 0) } : State ℝ) = _
    rw [sub_self, mul_zero]
    rfl
  | succ n ih =>
    have hresidual := sub_meanAfter_succ (clampUnit c.alphaMean) r n
    rw [meanAfter_succ] at hresidual
    show step c (statesAfter seed (step c) r n) (r (n + 1)) = _
    rw [ih, meanAfter_succ, averaged]
    simp only [step, hresidual, State.mk.injEq, true_and]
    congr 1
    ring

theorem hasFit_mean (hr : place.returns ticks = firstReturns r n) :
    ((fresh (.ewma c)).observeAll ticks).HasFit (.ewma c) place
      { count := n + 1
        state := ({ mu := meanAfter (clampUnit c.alphaMean) r n
                    var := (1 - clampUnit c.alphaMean) ^ 2 *
                      errorVariance (clampUnit c.alphaMean) (clampUnit c.alphaVar) r n } :
          State ℝ) } := by
  rw [← stateAfter_eq]
  exact hasFit_of_returns (fun _ => learnsReturns c) rfl hr

end Ewma

/-! ## Level without a trend -/

namespace Holt

variable {c : Settings ℝ}

theorem learnsReturns (c : Settings ℝ) :
    (forecaster c).LearnsReturns seed (step c) fun _ => True :=
  .of_total (fun _ _ => rfl) fun _ _ _ _ => rfl

/-- Without a trend the level is the mean, and the error that of the mean. -/
theorem stateAfter_eq (htrend : c.betaTrend = 0) (r : ℕ → ℝ) (n : ℕ) :
    statesAfter seed (step c) r n =
      { level := meanAfter (clampUnit c.alphaMean) r n
        trend := 0
        var := errorVariance (clampUnit c.alphaMean) (clampUnit c.alphaVar) r n } := by
  have hzero : clampUnit (0 : ℝ) = 0 := by norm_num [clampUnit, clamp_eq]
  induction n with
  | zero => rfl
  | succ n ih =>
    show step c (statesAfter seed (step c) r n) (r (n + 1)) = _
    rw [ih, meanAfter_succ]
    simp only [step, htrend, hzero, add_zero, zero_mul, mul_zero, State.mk.injEq, true_and]
    exact ⟨add_comm _ _, rfl⟩

theorem hasFit_mean (htrend : c.betaTrend = 0) (hr : place.returns ticks = firstReturns r n) :
    ((fresh (.holt c)).observeAll ticks).HasFit (.holt c) place
      { count := n + 1
        state := ({ level := meanAfter (clampUnit c.alphaMean) r n
                    trend := 0
                    var := errorVariance (clampUnit c.alphaMean) (clampUnit c.alphaVar) r n } :
          State ℝ) } := by
  rw [← stateAfter_eq htrend]
  exact hasFit_of_returns (fun _ => learnsReturns c) rfl hr

end Holt

/-! ## Autoregression without a coefficient -/

namespace Autoregression

variable (c : Settings ℝ)

theorem learnsCounted : (forecaster c).LearnsCounted seed (step c) :=
  ⟨fun _ _ => rfl, fun _ _ _ _ => rfl⟩

/-- The variance: the first residual is measured from zero, and fades. -/
noncomputable def varianceAfter (r : ℕ → ℝ) (n : ℕ) : ℝ :=
  errorVariance (clampUnit c.alphaMean) (clampUnit c.alphaVar) r n +
    (1 - clampUnit c.alphaVar) ^ n * r 0 ^ 2

theorem varianceAfter_nonneg (r : ℕ → ℝ) (n : ℕ) : 0 ≤ varianceAfter c r n := by
  have hshare := clampUnit_mem c.alphaVar
  exact add_nonneg (errorVariance_nonneg _ r n hshare)
    (mul_nonneg (pow_nonneg (sub_nonneg.mpr hshare.2) n) (sq_nonneg (r 0)))

theorem varianceAfter_succ (r : ℕ → ℝ) (n : ℕ) : varianceAfter c r (n + 1) =
    ewma (varianceAfter c r n)
      (meanError (clampUnit c.alphaMean) r n * meanError (clampUnit c.alphaMean) r n)
      (clampUnit c.alphaVar) := by
  rw [varianceAfter, errorVariance_succ, pow_succ]
  unfold varianceAfter ewma
  ring

theorem stateAfter_eq (r : ℕ → ℝ) (n : ℕ) : ∃ lagCov, countedStates seed (step c) r n =
    { lastReturn := r n
      mu := meanAfter (clampUnit c.alphaMean) r n
      var := varianceAfter c r n
      lagCov } := by
  induction n with
  | zero =>
    have hfirst : (r 0 - 0) * (r 0 - 0) = varianceAfter c r 0 := by
      unfold varianceAfter errorVariance averaged
      ring
    refine ⟨0, ?_⟩
    show ({ lastReturn := r 0, mu := r 0, var := (r 0 - 0) * (r 0 - 0), lagCov := 0 } : State ℝ) = _
    rw [hfirst]
    rfl
  | succ n ih =>
    obtain ⟨lagCov, hstate⟩ := ih
    show ∃ lagCov, step c (n + 1) (countedStates seed (step c) r n) (r (n + 1)) = _
    rw [hstate, meanAfter_succ, varianceAfter_succ]
    exact ⟨_, rfl⟩

theorem hasFit_mean (hr : place.returns ticks = firstReturns r n) :
    ∃ lagCov, ((fresh (.autoregression c)).observeAll ticks).HasFit (.autoregression c) place
      { count := n + 1
        state := ({ lastReturn := r n
                    mu := meanAfter (clampUnit c.alphaMean) r n
                    var := varianceAfter c r n
                    lagCov } : State ℝ) } := by
  obtain ⟨lagCov, hstate⟩ := stateAfter_eq c r n
  refine ⟨lagCov, ?_⟩
  rw [← hstate]
  exact hasFit_of_counted (fun _ => learnsCounted c) rfl hr

variable {c}

/-- A coefficient held at zero leaves the mean and the whole variance. -/
theorem forecast_of_clip_zero (hclip : c.phiClip = 0) {s : State ℝ} (hvar : 0 ≤ s.var) :
    forecast c s = { mu := s.mu, sigma := √s.var } := by
  have hphi : phi c s = 0 := by
    unfold phi
    rw [hclip, clamp_eq, neg_zero]
    exact max_eq_left (min_le_left 0 _)
  have hwhole : larger (1 - 0 : ℝ) 0.05 = 1 := by
    rw [larger_eq_max]
    norm_num
  have hlarger : larger s.var 0 = s.var := by rw [larger_eq_max, max_eq_left hvar]
  unfold forecast
  simp only [hphi, zero_mul, add_zero, hwhole, one_mul, hlarger, sqrtPos_eq_sqrt]

end Autoregression

/-! ## All three -/

/--
**Three averages have one mean,** after every run at every place: the exponentially weighted mean of
the returns. Before its floor the variance of the moving averages is that of Holt's method, scaled
down by the share that the mean keeps; that of the autoregression is larger by the square of the
first return, which fades as returns follow.
-/
theorem common_mean (alphaMean alphaVar leastMoving leastHolt leastAuto : ℝ)
    (hr : place.returns ticks = firstReturns r n) :
    let moving : Settings ℝ := .ewma { alphaMean, alphaVar, minSigma := leastMoving }
    let holt : Settings ℝ := .holt { alphaMean, betaTrend := 0, alphaVar, minSigma := leastHolt }
    let auto : Settings ℝ :=
      .autoregression { alphaMean, alphaVar, minSigma := leastAuto, phiClip := 0 }
    let a := clampUnit alphaMean
    let v := clampUnit alphaVar
    let mu := smoothed a (firstReturns r n)
    ∃ varMoving varHolt varAuto lagCov : ℝ, 0 ≤ varHolt ∧
      varMoving = (1 - a) ^ 2 * varHolt ∧ varAuto = varHolt + (1 - v) ^ n * r 0 ^ 2 ∧
      ((fresh moving).observeAll ticks).HasFit moving place
        { count := n + 1, state := ({ mu, var := varMoving } : Ewma.State ℝ) } ∧
      ((fresh holt).observeAll ticks).HasFit holt place
        { count := n + 1, state := ({ level := mu, trend := 0, var := varHolt } : Holt.State ℝ) } ∧
      ((fresh auto).observeAll ticks).HasFit auto place
        { count := n + 1
          state := ({ lastReturn := r n, mu, var := varAuto, lagCov } :
            Autoregression.State ℝ) } ∧
      ∀ fallback,
        ((fresh moving).observeAll ticks).estimateAt place fallback =
          .ok { mu, sigma := max √varMoving leastMoving } ∧
        ((fresh holt).observeAll ticks).estimateAt place fallback =
          .ok { mu, sigma := max √varHolt leastHolt } ∧
        ((fresh auto).observeAll ticks).estimateAt place fallback =
          .ok { mu, sigma := max √varAuto leastAuto } := by
  intro moving holt auto a v mu
  let c : Autoregression.Settings ℝ :=
    { alphaMean, alphaVar, minSigma := leastAuto, phiClip := 0 }
  have hmoving := Ewma.hasFit_mean { alphaMean, alphaVar, minSigma := leastMoving } hr
  have hholt := Holt.hasFit_mean
    (c := { alphaMean, betaTrend := 0, alphaVar, minSigma := leastHolt }) rfl hr
  obtain ⟨lagCov, hauto⟩ := Autoregression.hasFit_mean c hr
  refine ⟨_, errorVariance a v r n, Autoregression.varianceAfter c r n, lagCov,
    errorVariance_nonneg a r n (clampUnit_mem alphaVar), rfl, rfl, hmoving, hholt, hauto,
    fun fallback => ⟨?_, ?_, ?_⟩⟩
  · rw [← sqrtPos_eq_sqrt]
    exact hmoving.estimateAt_of_forecast rfl
  · rw [← sqrtPos_eq_sqrt, ← add_zero mu]
    exact hholt.estimateAt_of_forecast rfl
  · exact hauto.estimateAt_of_forecast
      (congrArg Except.ok (Autoregression.forecast_of_clip_zero rfl
        (Autoregression.varianceAfter_nonneg c r n)))

end Kinds

/-- Two returns: one mean, half the sigma, and three quarters of the first square on top. -/
theorem common_mean_two_returns :
    let moving : Settings ℝ := .ewma { alphaMean := 1 / 2, alphaVar := 1 / 4, minSigma := 0 }
    let holt : Settings ℝ :=
      .holt { alphaMean := 1 / 2, betaTrend := 0, alphaVar := 1 / 4, minSigma := 0 }
    let auto : Settings ℝ :=
      .autoregression { alphaMean := 1 / 2, alphaVar := 1 / 4, minSigma := 0, phiClip := 0 }
    let estimate (c : Settings ℝ) :=
      ((fresh c).feed "BTC" [100, 101, 103]).estimateBase "BTC" { mu := 0, sigma := 0 }
    ∃ e e' e'', estimate moving = .ok e ∧ estimate holt = .ok e' ∧ estimate auto = .ok e'' ∧
      e.mu = e'.mu ∧ e''.mu = e'.mu ∧ e.sigma = 1 / 2 * e'.sigma ∧
      e''.sigma ^ 2 = e'.sigma ^ 2 + 3 / 4 * Real.log (101 / 100) ^ 2 := by
  intro moving holt auto estimate
  have hvalid := Place.valid_of_cent_le
    (by norm_num : ∀ x ∈ ([100, 101, 103] : List ℝ), 1 / 100 ≤ x)
  have hr := (Place.returns_map_price "BTC" hvalid).trans (eq_firstReturns (n := 1) rfl 0)
  obtain ⟨_, v, _, -, hv, rfl, rfl, -, -, -, hestimates⟩ :=
    common_mean (1 / 2) (1 / 4) 0 0 0 hr
  obtain ⟨hmoving, hholt, hauto⟩ := hestimates { mu := 0, sigma := 0 }
  rw [estimateAt_base] at hmoving hholt hauto
  have hhalf : (1 - clampUnit (1 / 2) : ℝ) = 1 / 2 := by norm_num [clampUnit, clamp_eq]
  have hquarter : (1 - clampUnit (1 / 4) : ℝ) = 3 / 4 := by norm_num [clampUnit, clamp_eq]
  refine ⟨_, _, _, hmoving, hholt, hauto, rfl, rfl, ?_, ?_⟩
  · simp only [hhalf, max_eq_left (Real.sqrt_nonneg _)]
    rw [Real.sqrt_mul (by norm_num), Real.sqrt_sq (by norm_num)]
  · simp only [hquarter, max_eq_left (Real.sqrt_nonneg _), Real.sq_sqrt hv]
    rw [Real.sq_sqrt (by positivity), pow_one]
    rfl

end ReturnForecast
