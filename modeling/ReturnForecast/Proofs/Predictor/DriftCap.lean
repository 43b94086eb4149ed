import ReturnForecast.Proofs.Predictor.SigmaFloor

/-!
# Drift within sigma

Five kinds clip the signal of their drift, in units of a sigma that they keep. What a predictor
reports has been weighed against a fallback, and its sigma is another one: rescaled, mixed with that
of the fallback, and raised to the floor. Over exact reals the mean is still at most the fallback's,
and as many of the reported sigmas as the clip allows; in every state, so after every run.

* `Forecaster.CapsDrift` — what has to be shown of a kind
* `Estimate.exists_weighed_cappedBy` / `exists_shrunk_cappedBy` — the two ways to weigh a drift
* `Settings.DriftCap` — the five kinds, each with its clip and the cap that follows
* `drift_within_sigma` — the estimates of an instrument after every run
-/

namespace ReturnForecast

/-! ## Estimates -/

/-- The mean is at most that of the fallback, and so many sigmas. -/
def Estimate.CappedBy (e fallback : Estimate ℝ) (cap : ℝ) : Prop :=
  |e.mu| ≤ |fallback.mu| + cap * e.sigma

theorem le_larger_right (a b : ℝ) : b ≤ larger a b := by
  rw [larger_eq_max]
  exact le_max_right a b

theorem larger_sqrtPos_nonneg (x least : ℝ) : 0 ≤ larger (sqrtPos x) least := by
  rw [larger_eq_max, sqrtPos_eq_sqrt]
  exact le_max_of_le_left (Real.sqrt_nonneg x)

theorem abs_blend_le {w own bound : ℝ} (hw : w ∈ Set.Icc 0 1) (hown : |own| ≤ bound) (base : ℝ) :
    |blend w own base| ≤ |base| + w * bound := by
  have hrest : 0 ≤ 1 - w := sub_nonneg.mpr hw.2
  calc |w * own + (1 - w) * base| ≤ |w * own| + |(1 - w) * base| := abs_add_le _ _
    _ = w * |own| + (1 - w) * |base| := by
      rw [abs_mul, abs_mul, abs_of_nonneg hw.1, abs_of_nonneg hrest]
    _ ≤ w * bound + 1 * |base| := by
      gcongr
      · exact hw.1
      · linarith [hw.1]
    _ = |base| + w * bound := by ring

namespace Estimate

variable {fallback : Estimate ℝ} {cap least : ℝ}

/-- A larger sigma keeps an estimate within its cap. -/
theorem cappedBy_floored (hcap : 0 ≤ cap) {e : Estimate ℝ} (h : e.CappedBy fallback cap) :
    (e.floored least).CappedBy fallback cap := by
  have hraise : e.sigma ≤ (e.floored least).sigma := by
    show e.sigma ≤ floorSigma e.sigma least
    rw [floorSigma_eq_max]
    exact le_max_left _ _
  exact h.trans (add_le_add_right (mul_le_mul_of_nonneg_left hraise hcap) _)

/-- The mean of the fallback is within every cap, with any sigma. -/
theorem cappedBy_of_mu_eq (hcap : 0 ≤ cap) (hleast : 0 ≤ least) {e : Estimate ℝ}
    (h : e.mu = fallback.mu) : (e.floored least).CappedBy fallback cap := by
  have hsigma : 0 ≤ (e.floored least).sigma := by
    show 0 ≤ floorSigma e.sigma least
    rw [floorSigma_eq_max]
    exact le_max_of_le_right hleast
  show |e.mu| ≤ |fallback.mu| + cap * (e.floored least).sigma
  rw [h]
  exact le_add_of_nonneg_right (mul_nonneg hcap hsigma)

/-- A drift of so many sigmas, weighed against the fallback. -/
theorem exists_weighed_cappedBy {drift sigma k : ℝ} (hdrift : |drift| ≤ cap * sigma) (hk : 0 < k)
    (count : ℕ) (fallback : Estimate ℝ) :
    ∃ e, (do
        let w ← shrinkWeight? (count : ℝ) k
        return { mu := blend w drift fallback.mu, sigma } : Except Fault (Estimate ℝ)) = .ok e ∧
      e.CappedBy fallback cap := by
  have hw := sampleShare_mem count hk
  have hwhole : (count : ℝ) / (count + k) * (cap * sigma) ≤ cap * sigma :=
    mul_le_of_le_one_left ((abs_nonneg drift).trans hdrift) hw.2
  rw [shrinkWeight?_of_pos count hk]
  exact ⟨_, rfl, (abs_blend_le hw hdrift fallback.mu).trans (add_le_add_right hwhole _)⟩

/--
A prediction moved to within so many sigmas, weighed against the fallback together with its sigma.
The other part of the sigma that results is not negative, since it has been raised to the floor.
-/
theorem exists_shrunk_cappedBy {sigma k : ℝ} (hcap : 0 ≤ cap) (hsigma : 0 ≤ sigma) (hk : 0 < k)
    (hleast : 0 ≤ least) (predicted : ℝ) (count : ℕ) (fallback : Estimate ℝ) :
    ∃ e, Estimate.shrunk (clamp predicted (-(cap * sigma)) (cap * sigma)) sigma count k fallback
      least = .ok e ∧ e.CappedBy fallback cap := by
  have hw := sampleShare_mem count hk
  have hrest : 0 ≤ (1 - (count : ℝ) / (count + k)) * larger fallback.sigma least :=
    mul_nonneg (sub_nonneg.mpr hw.2) (hleast.trans (le_larger_right fallback.sigma least))
  refine ⟨_, by rw [Estimate.shrunk, shrinkWeight?_of_pos count hk]; rfl, ?_⟩
  refine (abs_blend_le hw (abs_clamp_le (mul_nonneg hcap hsigma) predicted) _).trans
    (add_le_add_right ?_ _)
  calc (count : ℝ) / (count + k) * (cap * sigma) = cap * (count / (count + k) * sigma) := by ring
    _ ≤ cap * blend (count / (count + k)) sigma (larger fallback.sigma least) :=
      mul_le_mul_of_nonneg_left (le_add_of_nonneg_right hrest) hcap

end Estimate

/-! ## Forecasters -/

/-- In every state there is a forecast, and with its sigma raised to the floor it keeps a cap. -/
def Forecaster.CapsDrift {σ : Type} (f : Forecaster ℝ σ) (least cap : ℝ) : Prop :=
  ∀ count s fallback, ∃ e, f.forecast count s fallback = .ok e ∧
    (e.floored least).CappedBy fallback cap

/-- So does a track, whether it has had a return or not. -/
theorem Track.exists_estimate_cappedBy {σ : Type} {f : Forecaster ℝ σ} {least cap : ℝ}
    (hf : f.CapsDrift least cap) (hcap : 0 ≤ cap) (hleast : 0 ≤ least) (t : Track ℝ σ)
    (fallback : Estimate ℝ) :
    ∃ e, t.estimate f least fallback = .ok e ∧ e.CappedBy fallback cap := by
  unfold Track.estimate Track.forecast
  cases t.fit with
  | none => exact ⟨_, rfl, Estimate.cappedBy_of_mu_eq hcap hleast rfl⟩
  | some fit =>
    obtain ⟨e, he, hcapped⟩ := hf fit.count fit.state fallback
    exact ⟨_, congrArg (Except.map _) he, hcapped⟩

/-- The distance from the level is clipped in sigmas. -/
theorem MeanReversion.capsDrift {c : Settings ℝ} (hclip : 0 ≤ c.zClip) :
    (forecaster c).CapsDrift c.minSigma (|c.kappa| * c.zClip) := by
  intro count s fallback
  have hcap : 0 ≤ |c.kappa| * c.zClip := mul_nonneg (abs_nonneg _) hclip
  have hsigma : 0 ≤ sigma c s := larger_sqrtPos_nonneg _ _
  have hdistance : |distance c s| ≤ c.zClip := by
    unfold distance
    split
    · exact abs_clamp_le hclip _
    · rw [abs_zero]
      exact hclip
  have hdrift : |drift c s| ≤ |c.kappa| * c.zClip * sigma c s := by
    unfold drift
    rw [abs_mul, abs_mul, abs_neg, abs_of_nonneg hsigma]
    gcongr
  obtain ⟨e, he, hcapped⟩ := Estimate.exists_weighed_cappedBy hdrift
    (by norm_num [shrinkCount] : (0 : ℝ) < shrinkCount) count fallback
  exact ⟨e, he, Estimate.cappedBy_floored hcap hcapped⟩

/-- The signal is clipped in units of the volatility, which is less than sigma by a fixed ratio. -/
theorem ScaledMomentum.capsDrift {c : Settings ℝ} (hclip : 0 ≤ c.signalClip)
    (hleast : 0 < c.minSigma) :
    (forecaster c).CapsDrift c.minSigma (|c.kappa| * c.signalClip / 1.25) := by
  intro count s fallback
  have hcap : 0 ≤ |c.kappa| * c.signalClip / 1.25 :=
    div_nonneg (mul_nonneg (abs_nonneg _) hclip) (by norm_num)
  have hvol : 0 < volatility c s := hleast.trans_le (le_larger_right s.vol c.minSigma)
  by_cases hfew : count < 2
  · exact ⟨fallback, if_pos hfew, Estimate.cappedBy_of_mu_eq hcap hleast.le rfl⟩
  let signal := clamp ((s.fast - s.slow) / volatility c s) (-c.signalClip) c.signalClip
  have hsignal : |signal| ≤ c.signalClip := abs_clamp_le hclip _
  have hdrift : |c.kappa * signal * volatility c s| ≤
      |c.kappa| * c.signalClip / 1.25 * (volatility c s * 1.25) := by
    rw [abs_mul, abs_mul, abs_of_pos hvol]
    calc |c.kappa| * |signal| * volatility c s ≤ |c.kappa| * c.signalClip * volatility c s := by
          gcongr
      _ = |c.kappa| * c.signalClip / 1.25 * (volatility c s * 1.25) := by ring
  obtain ⟨e, he, hcapped⟩ := Estimate.exists_weighed_cappedBy hdrift
    (by norm_num [shrinkCount] : (0 : ℝ) < shrinkCount) count fallback
  refine ⟨e, (if_neg hfew).trans ?_, Estimate.cappedBy_floored hcap hcapped⟩
  rw [drift, div?_of_pos hvol]
  exact he

/-- The regime is clipped, and the trend counts by its sign alone. -/
theorem VarianceRatio.capsDrift {c : Settings ℝ} (hclip : 0 ≤ c.regimeClip)
    (hleast : 0 < c.minSigma) :
    (forecaster c).CapsDrift c.minSigma (|c.kappa| * c.regimeClip) := by
  intro count s fallback
  have hcap : 0 ≤ |c.kappa| * c.regimeClip := mul_nonneg (abs_nonneg _) hclip
  by_cases hfew : count < 2
  · exact ⟨fallback, if_pos hfew, Estimate.cappedBy_of_mu_eq hcap hleast.le rfl⟩
  by_cases hflat : s.slowVar < 1e-18
  · exact ⟨{ mu := fallback.mu, sigma := sigma c s }, (if_neg hfew).trans (if_pos hflat),
      Estimate.cappedBy_of_mu_eq hcap hleast.le rfl⟩
  have hvar : 0 < s.slowVar := lt_of_lt_of_le (by norm_num) (not_lt.mp hflat)
  have hsigma : 0 ≤ sigma c s := larger_sqrtPos_nonneg _ _
  let regime := clamp (s.fastVar / s.slowVar - 1) (-c.regimeClip) c.regimeClip
  have hregime : |regime| ≤ c.regimeClip := abs_clamp_le hclip _
  have hsign : |sign s.trend| ≤ 1 := abs_sign_le_one s.trend
  have hdrift : |c.kappa * regime * sign s.trend * sigma c s| ≤
      |c.kappa| * c.regimeClip * sigma c s := by
    rw [abs_mul, abs_mul, abs_mul, abs_of_nonneg hsigma]
    calc |c.kappa| * |regime| * |sign s.trend| * sigma c s
        ≤ |c.kappa| * c.regimeClip * 1 * sigma c s := by gcongr
      _ = |c.kappa| * c.regimeClip * sigma c s := by ring
  obtain ⟨e, he, hcapped⟩ := Estimate.exists_weighed_cappedBy hdrift
    (by norm_num [shrinkCount] : (0 : ℝ) < shrinkCount) count fallback
  refine ⟨e, (if_neg hfew).trans ((if_neg hflat).trans ?_),
    Estimate.cappedBy_floored hcap hcapped⟩
  rw [drift, div?_of_pos hvar]
  exact he

theorem Microstructure.capsDrift {c : Settings ℝ} (hclip : 0 ≤ c.predClip)
    (hleast : 0 < c.minSigma) : (forecaster c).CapsDrift c.minSigma c.predClip := by
  intro count s fallback
  by_cases hfew : count < minSamples
  · exact ⟨fallback, if_pos hfew, Estimate.cappedBy_of_mu_eq hclip hleast.le rfl⟩
  · have hshrink : (0 : ℝ) < shrinkCount := by norm_num [shrinkCount]
    obtain ⟨e, he, hcapped⟩ := Estimate.exists_shrunk_cappedBy hclip
      (larger_sqrtPos_nonneg s.residual2 c.minSigma) hshrink hleast.le
      (s.filter.predict s.features) count fallback
    exact ⟨e, (if_neg hfew).trans he, Estimate.cappedBy_floored hclip hcapped⟩

theorem MacroRegression.capsDrift {c : Settings ℝ} (hclip : 0 ≤ c.predClip)
    (hleast : 0 < c.minSigma) (factors : MacroFactors ℝ) :
    (forecaster c factors).CapsDrift c.minSigma c.predClip := by
  intro count s fallback
  have hshrink : (0 : ℝ) < shrinkCount := by norm_num [shrinkCount]
  obtain ⟨e, he, hcapped⟩ := Estimate.exists_shrunk_cappedBy hclip
    (larger_sqrtPos_nonneg s.residual2 c.minSigma) hshrink hleast.le
    (s.filter.predict s.features) count fallback
  exact ⟨e, he, Estimate.cappedBy_floored hclip hcapped⟩

/-! ## Predictors -/

/-- The kinds that clip the signal of their drift, with the clip and the drift per sigma. -/
inductive Settings.DriftCap : Settings ℝ → (clip cap : ℝ) → Prop where
  | meanReversion (c : MeanReversion.Settings ℝ) :
    DriftCap (.meanReversion c) c.zClip (|c.kappa| * c.zClip)
  | scaledMomentum (c : ScaledMomentum.Settings ℝ) :
    DriftCap (.scaledMomentum c) c.signalClip (|c.kappa| * c.signalClip / 1.25)
  | varianceRatio (c : VarianceRatio.Settings ℝ) :
    DriftCap (.varianceRatio c) c.regimeClip (|c.kappa| * c.regimeClip)
  | microstructure (c : Microstructure.Settings ℝ) :
    DriftCap (.microstructure c) c.predClip c.predClip
  | macroRegression (c : MacroRegression.Settings ℝ) :
    DriftCap (.macroRegression c) c.predClip c.predClip

theorem Settings.DriftCap.nonneg {c : Settings ℝ} {clip cap : ℝ} (h : c.DriftCap clip cap)
    (hclip : 0 ≤ clip) : 0 ≤ cap := by
  cases h <;> positivity

theorem Settings.DriftCap.capsDrift {c : Settings ℝ} {clip cap : ℝ} (h : c.DriftCap clip cap)
    (hclip : 0 ≤ clip) (hleast : 0 < c.minSigma) (factors : MacroFactors ℝ) :
    (c.forecaster factors).CapsDrift c.minSigma cap := by
  cases h with
  | meanReversion c => exact MeanReversion.capsDrift hclip
  | scaledMomentum c => exact ScaledMomentum.capsDrift hclip hleast
  | varianceRatio c => exact VarianceRatio.capsDrift hclip hleast
  | microstructure c => exact Microstructure.capsDrift hclip hleast
  | macroRegression c => exact MacroRegression.capsDrift hclip hleast factors

namespace Predictor

/--
**Drift is capped by sigma.** With a clip that is not negative and a positive floor, an instrument
has an estimate after every run of ticks and with every fallback, and its mean is at most that of
the fallback and so many of its own sigmas.
-/
theorem drift_within_sigma {c : Settings ℝ} {clip cap : ℝ} (h : c.DriftCap clip cap)
    (hclip : 0 ≤ clip) (hleast : 0 < c.minSigma) (ticks : List (Tick ℝ)) (instrument : String)
    (fallback : Estimate ℝ) :
    ∃ e, ((fresh c).observeAll ticks).estimateBase instrument fallback = .ok e ∧
      |e.mu| ≤ |fallback.mu| + cap * e.sigma := by
  have hsettings : ((fresh c).observeAll ticks).settings = c := settings_observeAll (fresh c) ticks
  generalize (fresh c).observeAll ticks = p at hsettings ⊢
  subst hsettings
  rw [estimateBase, Scopes.estimateBase_eq]
  exact Track.exists_estimate_cappedBy (h.capsDrift hclip hleast p.factors) (h.nonneg hclip)
    hleast.le _ fallback

/-- A regression on one return, and the momentum of a market that jumps. -/
theorem drift_within_sigma_jump :
    let ticks : List (Tick ℝ) := [.price "BTC" 100, .price "BTC" 100, .price "BTC" 150]
    let fallback : Estimate ℝ := { mu := -1, sigma := 0 }
    (∃ e, ((fresh (.macroRegression MacroRegression.standard)).observeAll ticks).estimateBase "BTC"
      fallback = .ok e ∧ |e.mu| ≤ 1 + 2.5 * e.sigma) ∧
    ∃ e, ((fresh (.scaledMomentum ScaledMomentum.standard)).observeAll ticks).estimateBase "BTC"
      fallback = .ok e ∧ |e.mu| ≤ 1 + 0.036 * e.sigma := by
  intro ticks fallback
  obtain ⟨e, he, hmu⟩ := drift_within_sigma (.macroRegression MacroRegression.standard)
    (by norm_num [MacroRegression.standard]) (by norm_num [Settings.minSigma,
      MacroRegression.standard]) ticks "BTC" fallback
  obtain ⟨e', he', hmu'⟩ := drift_within_sigma (.scaledMomentum ScaledMomentum.standard)
    (by norm_num [ScaledMomentum.standard]) (by norm_num [Settings.minSigma,
      ScaledMomentum.standard]) ticks "BTC" fallback
  have hcap : |(0.015 : ℝ)| * 3.0 / 1.25 = 0.036 := by norm_num
  rw [abs_neg, abs_one] at hmu hmu'
  refine ⟨⟨e, he, hmu⟩, e', he', ?_⟩
  rw [← hcap]
  exact hmu'

end Predictor

end ReturnForecast
