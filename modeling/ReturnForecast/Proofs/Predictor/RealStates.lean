import ReturnForecast.Proofs.LeastSquares.RealFilter
import ReturnForecast.Proofs.Predictor.Counting
import ReturnForecast.Proofs.Predictor.Invariants

/-!
# States within the reals

Every kind divides, takes roots and takes logarithms in its own way, and each has its own guards.
From real settings and real returns every state of every kind is real, so all that was computed on
the way was within its domain. The forecasts are real as well, with one exception: momentum in units
of volatility has no guard where the volatility is zero.

* `Forecaster.StaysReal` — what has to be shown of a kind
* `Settings.StateIsReal` — the states of real numbers
* `Settings.Stalled` — the exception
* `Settings.staysReal` — every kind stays within the reals
-/

namespace ReturnForecast

open Extended

/-! ## Forecasters -/

/-- An estimate of real numbers. -/
structure Estimate.IsReal (e : Estimate Extended) : Prop where
  mu : e.mu.IsReal
  sigma : e.sigma.IsReal

/--
From real returns and usable prices a state is always learned, it satisfies an invariant, and unless
it is stalled it has a forecast, which is real if the fallback is.
-/
structure Forecaster.StaysReal {σ : Type} (f : Forecaster Extended σ) (I : σ → Prop)
    (stalled : Fit σ → Prop) : Prop where
  seed : ∀ {r price}, r.IsReal → isValidPrice price = true → ∃ s, f.seed r price = .ok s ∧ I s
  step : ∀ {count s r price}, I s → r.IsReal → isValidPrice price = true →
    ∃ s', f.step count s r price = .ok s' ∧ I s'
  forecast : ∀ {fit : Fit σ} {fallback}, I fit.state → ¬ stalled fit → fallback.IsReal →
    ∃ e, f.forecast fit.count fit.state fallback = .ok e ∧ e.IsReal

/-- All numbers of the settings are real. -/
def Settings.IsReal (c : Settings Extended) : Prop := ∀ field ∈ c.fields, field.2.IsReal

/-- The settings of a specification of real numbers are real. -/
theorem Settings.isReal_ofSpec {s : Spec Extended} (h : ∀ field, (s.get field).IsReal) :
    (ofSpec s).IsReal := by
  have hmean := h .alphaMean
  have hvar := h .alphaVar
  have hleast := h .minSigma
  have hclip := h .phiClip
  have htrend := h .betaTrend
  have hprocess := h .processVar
  have hmeasure := h .measureVar
  simp only [Spec.get] at hmean hvar hleast hclip htrend hprocess hmeasure
  unfold IsReal ofSpec
  split <;> simp [fields, trendOfSpec, *]

/-- A forecast weighed against a real fallback. -/
theorem Estimate.isReal_shrunk {mu sigma minSigma : Extended} (hmu : mu.IsReal)
    (hsigma : sigma.IsReal) (count : Nat) {k : ℝ} (hk : 0 < k) {fallback : Estimate Extended}
    (hfallback : fallback.IsReal) (hleast : minSigma.IsReal) :
    ∃ e, Estimate.shrunk mu sigma count (finite k) fallback minSigma = .ok e ∧ e.IsReal := by
  refine exists_ok_bind (shrinkWeight?_isReal count hk) fun w hw => ?_
  exact ⟨_, rfl, hw.blend hmu hfallback.mu, hw.blend hsigma (hfallback.sigma.larger hleast)⟩

/-! ## Averages -/

/-- A state of real numbers. -/
structure Ewma.State.IsReal (s : State Extended) : Prop where
  mu : s.mu.IsReal
  var : s.var.IsReal

theorem Ewma.staysReal {c : Settings Extended} (hc : (Settings.ewma c).IsReal) :
    (forecaster c).StaysReal State.IsReal fun _ => False := by
  obtain ⟨hmean, hvar, hleast⟩ := by
    simpa [ReturnForecast.Settings.IsReal, ReturnForecast.Settings.fields] using hc
  refine ⟨?seed, ?step, ?forecast⟩
  case seed =>
    intro r price hr _
    exact ⟨_, rfl, hr, (hr.sub hr).mul (hr.sub hr)⟩
  case step =>
    intro count s r price hs hr _
    have hmu := hs.mu.ewma hr hmean.clampUnit
    have hresidual := hr.sub hmu
    exact ⟨_, rfl, hmu, hs.var.ewma (hresidual.mul hresidual) hvar.clampUnit⟩
  case forecast =>
    intro fit fallback hs _ _
    exact ⟨_, rfl, hs.mu, hs.var.sqrtPos⟩

structure Autoregression.State.IsReal (s : State Extended) : Prop where
  lastReturn : s.lastReturn.IsReal
  mu : s.mu.IsReal
  var : s.var.IsReal
  lagCov : s.lagCov.IsReal

theorem Autoregression.staysReal {c : Settings Extended} (hc : (Settings.autoregression c).IsReal) :
    (forecaster c).StaysReal State.IsReal fun _ => False := by
  obtain ⟨hmean, hvar, hleast, hclip⟩ := by
    simpa [ReturnForecast.Settings.IsReal, ReturnForecast.Settings.fields] using hc
  refine ⟨?seed, ?step, ?forecast⟩
  case seed =>
    intro r price hr _
    have hresidual := hr.sub isReal_zero
    exact ⟨_, rfl, hr, hr, hresidual.mul hresidual, isReal_zero⟩
  case step =>
    intro count s r price hs hr _
    have hcentered := hr.sub hs.mu
    have hproduct := (hs.lastReturn.sub hs.mu).mul hcentered
    refine ⟨_, rfl, hr, hs.mu.ewma hr hmean.clampUnit,
      hs.var.ewma (hcentered.mul hcentered) hvar.clampUnit, ?_⟩
    show (if count ≤ 1 then _ else _ : Extended).IsReal
    split
    · exact hproduct
    · exact hs.lagCov.ewma hproduct hvar.clampUnit
  case forecast =>
    intro fit fallback hs _ _
    have hlarger := hs.var.larger isReal_zero
    have hphi := (hs.lagCov.ratioAbove (zero_le_ofScientific 1 true 12) hlarger).clamp hclip.neg
      hclip
    refine ⟨_, rfl, hs.mu.add (hphi.mul (hs.lastReturn.sub hs.mu)), ?_⟩
    exact (((isReal_one.sub (hphi.mul hphi)).larger (isReal_ofScientific ..)).mul hlarger).sqrtPos

structure Holt.State.IsReal (s : State Extended) : Prop where
  level : s.level.IsReal
  trend : s.trend.IsReal
  var : s.var.IsReal

theorem Holt.staysReal {c : Settings Extended} (hc : (Settings.holt c).IsReal) :
    (forecaster c).StaysReal State.IsReal fun _ => False := by
  obtain ⟨hmean, htrend, hvar, hleast⟩ := by
    simpa [ReturnForecast.Settings.IsReal, ReturnForecast.Settings.fields] using hc
  refine ⟨?seed, ?step, ?forecast⟩
  case seed =>
    intro r price hr _
    exact ⟨_, rfl, hr, isReal_zero, isReal_zero⟩
  case step =>
    intro count s r price hs hr _
    have hpredicted := hs.level.add hs.trend
    have herror := hr.sub hpredicted
    have hlevel := hmean.clampUnit.blend hr hpredicted
    exact ⟨_, rfl, hlevel, htrend.clampUnit.blend (hlevel.sub hs.level) hs.trend,
      hs.var.ewma (herror.mul herror) hvar.clampUnit⟩
  case forecast =>
    intro fit fallback hs _ _
    exact ⟨_, rfl, hs.level.add hs.trend, hs.var.sqrtPos⟩

structure LocalLevel.State.IsReal (s : State Extended) : Prop where
  level : s.level.IsReal
  variance : s.variance.IsReal
  variance_nonneg : ¬ s.variance < 0

theorem LocalLevel.staysReal {c : Settings Extended} (hc : (Settings.localLevel c).IsReal) :
    (forecaster c).StaysReal State.IsReal fun _ => False := by
  obtain ⟨hprocess, hmeasure, hleast⟩ := by
    simpa [ReturnForecast.Settings.IsReal, ReturnForecast.Settings.fields] using hc
  have hmove : c.moveVar.IsReal := hprocess.larger (isReal_ofScientific ..)
  have hnoise : c.noiseVar.IsReal := hmeasure.larger (isReal_ofScientific ..)
  refine ⟨?seed, ?step, ?forecast⟩
  case seed =>
    intro r price hr _
    exact ⟨_, rfl, hr, hnoise, not_lt_zero (not_noiseVar_le_zero c)⟩
  case step =>
    intro count s r price hs hr hprice
    have hpredicted := hs.variance.add hmove
    have hpos := not_add_le_zero hs.variance_nonneg (not_moveVar_le_zero c)
    have htotal := not_add_le_zero (not_lt_zero hpos) (not_noiseVar_le_zero c)
    obtain ⟨gain, hgain, hreal⟩ := div?_isReal hpredicted (hpredicted.add hnoise) fun h =>
      htotal h.1
    -- That the variance stays above zero is known for all extended numbers.
    obtain ⟨s', hstep, hnonneg⟩ := (neverFails c).step count s r price hprice hs.variance_nonneg
    refine ⟨s', hstep, ?_⟩
    simp only [forecaster, step, hgain, bind, Except.bind, pure, Except.pure] at hstep
    cases hstep
    exact ⟨hs.level.add (hreal.mul (hr.sub hs.level)), (isReal_one.sub hreal).mul hpredicted,
      hnonneg⟩
  case forecast =>
    intro fit fallback hs _ _
    exact ⟨_, rfl, hs.level, (hs.variance.add hnoise).sqrtPos⟩

/-! ## Regimes -/

structure MeanReversion.State.IsReal (s : State Extended) : Prop where
  logPrice : s.logPrice.IsReal
  logLevel : s.logLevel.IsReal
  var : s.var.IsReal

theorem MeanReversion.staysReal {c : Settings Extended} (hc : (Settings.meanReversion c).IsReal) :
    (forecaster c).StaysReal State.IsReal fun _ => False := by
  obtain ⟨hlevel, hvar, hkappa, hclip, hleast⟩ := by
    simpa [ReturnForecast.Settings.IsReal, ReturnForecast.Settings.fields] using hc
  have hlog : ∀ {price : Extended}, isValidPrice price = true →
      ∃ l, log? price = .ok l ∧ l.IsReal := by
    intro price hprice
    obtain ⟨x, rfl, hx⟩ := Extended.isValidPrice_pos hprice
    exact ⟨_, log?_finite hx, isReal_finite _⟩
  refine ⟨?seed, ?step, ?forecast⟩
  case seed =>
    intro r price hr hprice
    exact exists_ok_bind (hlog hprice) fun l hl => ⟨_, rfl, hl, hl, hr.mul hr⟩
  case step =>
    intro count s r price hs hr hprice
    exact exists_ok_bind (hlog hprice) fun l hl => ⟨_, rfl, hl,
      hs.logLevel.ewma hl hlevel.clampUnit, hs.var.ewma (hr.mul hr) hvar.clampUnit⟩
  case forecast =>
    intro fit fallback hs _ hfallback
    have hsigma : (sigma c fit.state).IsReal := hs.var.sqrtPos.larger hleast
    have hdistance : (distance c fit.state).IsReal := by
      unfold distance
      split
      · have hgap := hs.logPrice.sub hs.logLevel
        exact (hgap.ratioAbove (zero_le_ofScientific ..) hsigma).clamp hclip.neg hclip
      · exact isReal_zero
    refine exists_ok_bind (shrinkWeight?_isReal fit.count (by norm_num : (0 : ℝ) < 100.0))
      fun w hw => ⟨_, rfl, hw.blend ?_ hfallback.mu, hsigma⟩
    exact (hkappa.neg.mul hdistance).mul hsigma

structure ScaledMomentum.State.IsReal (s : State Extended) : Prop where
  fast : s.fast.IsReal
  slow : s.slow.IsReal
  vol : s.vol.IsReal

/-- From two returns on there is no forecast while the volatility is zero. -/
def ScaledMomentum.Stalled {α : Type} [Scalar α] (c : Settings α) (fit : Fit (State α)) : Prop :=
  2 ≤ fit.count ∧ IsZero (volatility c fit.state)

/-- While it is stalled, a forecast divides by zero. -/
theorem ScaledMomentum.forecast_of_stalled {α : Type} [Scalar α] {c : Settings α}
    {fit : Fit (State α)} (h : Stalled c fit) (fallback : Estimate α) :
    (forecaster c).forecast fit.count fit.state fallback = .error .divisionByZero := by
  obtain ⟨hcount, hzero⟩ := h
  dsimp only [forecaster]
  rw [if_neg (not_lt.mpr hcount), drift, div?, if_pos hzero]
  rfl

theorem ScaledMomentum.staysReal {c : Settings Extended}
    (hc : (Settings.scaledMomentum c).IsReal) :
    (forecaster c).StaysReal State.IsReal (Stalled c) := by
  obtain ⟨hfast, hslow, hvol, hkappa, hclip, hleast⟩ := by
    simpa [ReturnForecast.Settings.IsReal, ReturnForecast.Settings.fields] using hc
  refine ⟨?seed, ?step, ?forecast⟩
  case seed =>
    intro r price hr _
    exact ⟨_, rfl, hr, hr, hr.abs⟩
  case step =>
    intro count s r price hs hr _
    exact ⟨_, rfl, hs.fast.ewma hr hfast.clampUnit, hs.slow.ewma hr hslow.clampUnit,
      hs.vol.ewma hr.abs hvol.clampUnit⟩
  case forecast =>
    intro fit fallback hs hmoves hfallback
    have hvolatility : (volatility c fit.state).IsReal := hs.vol.larger hleast
    dsimp only [forecaster]
    split
    · exact ⟨fallback, rfl, hfallback⟩
    · next hcount =>
      have hzero : ¬ IsZero (volatility c fit.state) := fun h => hmoves ⟨not_lt.mp hcount, h⟩
      refine exists_ok_bind (P := IsReal) (exists_ok_bind
        (div?_isReal (hs.fast.sub hs.slow) hvolatility hzero) fun q hq => ?_) fun raw hraw => ?_
      · exact ⟨_, rfl, (hkappa.mul (hq.clamp hclip.neg hclip)).mul hvolatility⟩
      · refine exists_ok_bind (shrinkWeight?_isReal fit.count (by norm_num : (0 : ℝ) < 100.0))
          fun w hw => ⟨_, rfl, hw.blend hraw hfallback.mu, ?_⟩
        exact hvolatility.mul (isReal_ofScientific ..)

structure VarianceRatio.State.IsReal (s : State Extended) : Prop where
  fastVar : s.fastVar.IsReal
  slowVar : s.slowVar.IsReal
  trend : s.trend.IsReal

theorem VarianceRatio.staysReal {c : Settings Extended} (hc : (Settings.varianceRatio c).IsReal) :
    (forecaster c).StaysReal State.IsReal fun _ => False := by
  obtain ⟨hfast, hslow, htrend, hkappa, hclip, hleast⟩ := by
    simpa [ReturnForecast.Settings.IsReal, ReturnForecast.Settings.fields] using hc
  refine ⟨?seed, ?step, ?forecast⟩
  case seed =>
    intro r price hr _
    exact ⟨_, rfl, hr.mul hr, hr.mul hr, hr⟩
  case step =>
    intro count s r price hs hr _
    have hsquare := hr.mul hr
    exact ⟨_, rfl, hs.fastVar.ewma hsquare hfast.clampUnit, hs.slowVar.ewma hsquare hslow.clampUnit,
      hs.trend.ewma hr htrend.clampUnit⟩
  case forecast =>
    intro fit fallback hs _ hfallback
    have hsigma : (sigma c fit.state).IsReal := hs.slowVar.sqrtPos.larger hleast
    dsimp only [forecaster]
    split
    · exact ⟨fallback, rfl, hfallback⟩
    · split
      · exact ⟨_, rfl, hfallback.mu, hsigma⟩
      · next hslowVar =>
        -- The guard has kept the divisor away from zero.
        have hzero := hs.slowVar.not_isZero_of_not_lt (by norm_num : (0 : ℝ) < 1e-18) hslowVar
        refine exists_ok_bind (P := IsReal) (exists_ok_bind
          (div?_isReal hs.fastVar hs.slowVar hzero) fun q hq => ?_) fun raw hraw => ?_
        · have hregime := (hq.sub isReal_one).clamp hclip.neg hclip
          exact ⟨_, rfl, ((hkappa.mul hregime).mul (.sign _)).mul hsigma⟩
        · exact exists_ok_bind (shrinkWeight?_isReal fit.count (by norm_num : (0 : ℝ) < 100.0))
            fun w hw => ⟨_, rfl, hw.blend hraw hfallback.mu, hsigma⟩

structure BounceReversal.State.IsReal (s : State Extended) : Prop where
  lastReturn : s.lastReturn.IsReal
  lagCov : s.lagCov.IsReal
  var : s.var.IsReal

theorem BounceReversal.staysReal {c : Settings Extended}
    (hc : (Settings.bounceReversal c).IsReal) :
    (forecaster c).StaysReal State.IsReal fun _ => False := by
  obtain ⟨halpha, hmax, hleast⟩ := by
    simpa [ReturnForecast.Settings.IsReal, ReturnForecast.Settings.fields] using hc
  refine ⟨?seed, ?step, ?forecast⟩
  case seed =>
    intro r price hr _
    exact ⟨_, rfl, hr, isReal_zero, hr.mul hr⟩
  case step =>
    intro count s r price hs hr _
    exact ⟨_, rfl, hr, hs.lagCov.ewma (hr.mul hs.lastReturn) halpha.clampUnit,
      hs.var.ewma (hr.mul hr) halpha.clampUnit⟩
  case forecast =>
    intro fit fallback hs _ hfallback
    have hsigma : (sigma c fit.state).IsReal := hs.var.sqrtPos.larger hleast
    dsimp only [forecaster]
    split
    · exact ⟨fallback, rfl, hfallback⟩
    · split
      · exact ⟨_, rfl, isReal_zero, hsigma⟩
      · next hguard =>
        -- The guard lets only a positive variance through.
        have hzero := hs.var.not_isZero_of_not_lt (by norm_num : (0 : ℝ) < 1e-18)
          fun h => hguard (.inr h)
        refine exists_ok_bind (div?_isReal hs.lagCov hs.var hzero) fun q hq => ?_
        refine exists_ok_bind (shrinkWeight?_isReal fit.count (by norm_num : (0 : ℝ) < 200.0))
          fun w hw => ⟨_, rfl, ?_, hsigma⟩
        exact (hw.mul (hq.clamp hmax.neg isReal_zero)).mul hs.lastReturn

structure CalibratedMomentum.State.IsReal (s : State Extended) : Prop where
  fast : s.fast.IsReal
  slow : s.slow.IsReal
  var : s.var.IsReal
  raw : s.raw.IsReal
  cross : s.cross.IsReal
  square : s.square.IsReal

theorem CalibratedMomentum.isReal_rawForecast {c : Settings Extended} {fast slow var : Extended}
    (hleast : c.minSigma.IsReal) (hfast : fast.IsReal) (hslow : slow.IsReal) (hvar : var.IsReal) :
    (rawForecast c fast slow var).IsReal := by
  have hvol := hvar.sqrtPos.larger hleast
  have hratio := (hfast.sub hslow).ratioAbove (zero_le_ofScientific 1 true 12) hvol
  exact (hratio.mul hvol).mul (isReal_ofScientific ..)

theorem CalibratedMomentum.staysReal {c : Settings Extended}
    (hc : (Settings.calibratedMomentum c).IsReal) :
    (forecaster c).StaysReal State.IsReal fun _ => False := by
  obtain ⟨hfast, hslow, hvar, hcalib, hleast⟩ := by
    simpa [ReturnForecast.Settings.IsReal, ReturnForecast.Settings.fields] using hc
  refine ⟨?seed, ?step, ?forecast⟩
  case seed =>
    intro r price hr _
    exact ⟨_, rfl, hr, hr, hr.mul hr, isReal_rawForecast hleast hr hr (hr.mul hr), isReal_zero,
      isReal_zero⟩
  case step =>
    intro count s r price hs hr _
    have hfast := hs.fast.ewma hr hfast.clampUnit
    have hslow := hs.slow.ewma hr hslow.clampUnit
    have hvar := hs.var.ewma (hr.mul hr) hvar.clampUnit
    exact ⟨_, rfl, hfast, hslow, hvar, isReal_rawForecast hleast hfast hslow hvar,
      hs.cross.ewma (hr.mul hs.raw) hcalib.clampUnit,
      hs.square.ewma (hs.raw.mul hs.raw) hcalib.clampUnit⟩
  case forecast =>
    intro fit fallback hs _ hfallback
    have hsigma : (sigma c fit.state).IsReal := hs.var.sqrtPos.larger hleast
    have hscale : (scale fit.state).IsReal :=
      (hs.cross.ratioAbove (zero_le_ofScientific ..) hs.square).clamp isReal_zero isReal_one
    dsimp only [forecaster]
    split
    · exact ⟨fallback, rfl, hfallback⟩
    · exact exists_ok_bind (shrinkWeight?_isReal fit.count (by norm_num : (0 : ℝ) < 200.0))
        fun w hw => ⟨_, rfl, hw.blend (hscale.mul hs.raw) hfallback.mu, hsigma⟩

end ReturnForecast
