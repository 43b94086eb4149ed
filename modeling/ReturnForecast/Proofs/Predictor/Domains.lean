import ReturnForecast.Proofs.Predictor.RealRegressions

/-!
# Predictors within the reals

A predictor with real settings keeps real numbers only, whatever it observes: no division by zero,
no root of a negative number and no logarithm of one that is not positive has been computed on the
way. No observation fails. An estimate fails only for momentum in units of volatility, where the
sigma floor is zero and the volatility is zero as well, as on a flat market.

* `Settings.staysReal` — every kind stays within the reals
* `Predictor.IsReal` / `isReal_observeAll` — and so does every predictor, over every run
* `Predictor.Stalled` — where an estimate divides by zero
* `runs_within_domains` — all requests of a predictor
* `stalled_of_flat` — a flat market stalls momentum without a floor
-/

namespace ReturnForecast

open Extended

/-! ## All kinds -/

namespace Settings

/-- The states of real numbers. -/
def StateIsReal : (c : Settings Extended) → c.State → Prop
  | ewma _ => Ewma.State.IsReal
  | autoregression _ => Autoregression.State.IsReal
  | holt _ => Holt.State.IsReal
  | localLevel _ => LocalLevel.State.IsReal
  | trendRegression _ => TrendRegression.State.IsReal
  | momentumRegression _ => MomentumRegression.State.IsReal
  | meanReversion _ => MeanReversion.State.IsReal
  | scaledMomentum _ => ScaledMomentum.State.IsReal
  | varianceRatio _ => VarianceRatio.State.IsReal
  | bounceReversal _ => BounceReversal.State.IsReal
  | calibratedMomentum _ => CalibratedMomentum.State.IsReal
  | microstructure _ => Microstructure.State.IsReal
  | macroRegression _ => MacroRegression.State.IsReal

/-- Only momentum in units of volatility can stall. -/
def Stalled {α : Type} [Scalar α] : (c : Settings α) → Fit c.State → Prop
  | scaledMomentum c => ScaledMomentum.Stalled c
  | _ => fun _ => False

/-- **Every kind stays within the reals.** -/
theorem staysReal {c : Settings Extended} (hc : c.IsReal) {factors : MacroFactors Extended}
    (hfactors : factors.IsReal) :
    (c.forecaster factors).StaysReal c.StateIsReal c.Stalled := by
  cases c with
  | ewma c => exact Ewma.staysReal hc
  | autoregression c => exact Autoregression.staysReal hc
  | holt c => exact Holt.staysReal hc
  | localLevel c => exact LocalLevel.staysReal hc
  | trendRegression c => exact TrendRegression.staysReal hc
  | momentumRegression c => exact MomentumRegression.staysReal hc
  | meanReversion c => exact MeanReversion.staysReal hc
  | scaledMomentum c => exact ScaledMomentum.staysReal hc
  | varianceRatio c => exact VarianceRatio.staysReal hc
  | bounceReversal c => exact BounceReversal.staysReal hc
  | calibratedMomentum c => exact CalibratedMomentum.staysReal hc
  | microstructure c => exact Microstructure.staysReal hc
  | macroRegression c => exact MacroRegression.staysReal hc hfactors

theorem isReal_minSigma {c : Settings Extended} (hc : c.IsReal) : c.minSigma.IsReal := by
  have hmem : ("min_sigma", c.minSigma) ∈ c.fields := by
    cases c <;> simp [fields, minSigma]
  exact hc _ hmem

/-- A positive floor keeps every kind from stalling. -/
theorem kind_of_stalled {c : Settings Extended} (hc : c.IsReal) {fit : Fit c.State}
    (h : c.Stalled fit) : c.kind = .scaledMomentum ∧ ¬ 0 < c.minSigma := by
  cases c with
  | scaledMomentum c =>
    refine ⟨rfl, fun hpos => ?_⟩
    obtain ⟨least, hleast⟩ := isReal_minSigma hc
    have hzero : larger fit.state.vol c.minSigma ≤ 0 := h.2.1
    change c.minSigma = finite least at hleast
    change 0 < c.minSigma at hpos
    rw [hleast] at hzero hpos
    exact not_larger_le_zero fit.state.vol (finite_lt.mp hpos) hzero
  | _ c => exact h.elim

theorem count_pos_of_stalled {α : Type} [Scalar α] {c : Settings α} {fit : Fit c.State}
    (h : c.Stalled fit) : 0 < fit.count := by
  cases c with
  | scaledMomentum c => exact Nat.zero_lt_of_lt h.1
  | _ c => exact h.elim

/-- While it is stalled, a forecast divides by zero. -/
theorem forecast_of_stalled {α : Type} [Scalar α] {c : Settings α} {fit : Fit c.State}
    (h : c.Stalled fit) (factors : MacroFactors α) (fallback : Estimate α) :
    (c.forecaster factors).forecast fit.count fit.state fallback = .error .divisionByZero := by
  cases c with
  | scaledMomentum c => exact ScaledMomentum.forecast_of_stalled h fallback
  | _ c => exact h.elim

end Settings

/-! ## Tracks -/

theorem Estimate.IsReal.floored {e : Estimate Extended} (he : e.IsReal) {least : Extended}
    (hleast : least.IsReal) : (e.floored least).IsReal := by
  refine ⟨he.mu, ?_⟩
  show (floorSigma e.sigma least).IsReal
  unfold floorSigma
  split
  · exact he.sigma.larger hleast
  · exact hleast

/-- A track remembers a usable price, if any, and has learned a state of real numbers, if any. -/
structure Track.IsReal {σ : Type} (I : σ → Prop) (t : Track Extended σ) : Prop where
  usable : ∀ price, t.lastPrice = some price → isValidPrice price = true
  learned : ∀ fit, t.fit = some fit → I fit.state

namespace Track

variable {σ : Type} {f : Forecaster Extended σ} {I : σ → Prop} {stalled : Fit σ → Prop}
  {t : Track Extended σ}

theorem isReal_empty : ({} : Track Extended σ).IsReal I :=
  ⟨fun _ h => (nomatch h), fun _ h => (nomatch h)⟩

/-- Any return that is learned is real, so it leads to a state of real numbers. -/
theorem IsReal.learn (hf : f.StaysReal I stalled) (ht : t.IsReal I) {r price : Extended}
    (hr : r.IsReal) (hprice : isValidPrice price = true) :
    ∃ fit, f.learn t.fit r price = .ok fit ∧ I fit.state := by
  cases hfit : t.fit with
  | none =>
    obtain ⟨s, hs, hI⟩ := hf.seed hr hprice
    exact ⟨⟨1, s⟩, by simp only [Forecaster.learn, hs, Except.map], hI⟩
  | some fit =>
    obtain ⟨s, hs, hI⟩ : ∃ s, f.step fit.count fit.state r price = .ok s ∧ I s :=
      hf.step (ht.learned fit hfit) hr hprice
    exact ⟨⟨fit.count + 1, s⟩, by simp only [Forecaster.learn, hs, Except.map], hI⟩

/-- No price fails. -/
theorem IsReal.observe (hf : f.StaysReal I stalled) (ht : t.IsReal I) (price : Extended) :
    ∃ next, t.observe f price = .ok next ∧ next.IsReal I := by
  unfold Track.observe
  split
  · next hprice =>
    cases hlast : t.lastPrice with
    | none => exact ⟨_, rfl, fun _ h => Option.some.inj h ▸ hprice, ht.learned⟩
    | some last =>
      have husable := ht.usable last hlast
      obtain ⟨hok, hreal⟩ := log?_div hprice husable
      have hreturn : logReturn price (some last) = .ok (some (Scalar.log (price / last))) := by
        simp only [logReturn, hprice, husable, Bool.and_self, if_true, hok, Except.map]
      obtain ⟨fit, hlearn, hI⟩ := ht.learn hf (isReal_iff.mpr hreal) hprice
      refine ⟨{ lastPrice := some price, fit := some fit }, ?_,
        fun _ h => Option.some.inj h ▸ hprice, fun _ h => Option.some.inj h ▸ hI⟩
      simp only [hreturn, hlearn, bind, Except.bind, pure, Except.pure]
  · exact ⟨t, rfl, ht⟩

theorem IsReal.after (hf : f.StaysReal I stalled) (ht : t.IsReal I) (price : Extended) :
    (t.after f price).IsReal I := by
  obtain ⟨next, hnext, hreal⟩ := ht.observe hf price
  unfold Track.after
  rw [hnext]
  exact hreal

theorem IsReal.estimate (hf : f.StaysReal I stalled) (ht : t.IsReal I)
    (hmoves : ∀ fit, t.fit = some fit → ¬ stalled fit) {fallback : Estimate Extended}
    (hfallback : fallback.IsReal) {least : Extended} (hleast : least.IsReal) :
    ∃ e, t.estimate f least fallback = .ok e ∧ e.IsReal := by
  have hforecast : ∃ raw, t.forecast f fallback = .ok raw ∧ raw.IsReal := by
    unfold Track.forecast
    cases hfit : t.fit with
    | none => exact ⟨fallback, rfl, hfallback⟩
    | some fit => exact hf.forecast (ht.learned fit hfit) (hmoves fit hfit) hfallback
  obtain ⟨raw, hraw, hreal⟩ := hforecast
  exact ⟨raw.floored least, by rw [Track.estimate, hraw]; rfl, hreal.floored hleast⟩

end Track

/-- No price fails at the tracks of many keys. -/
theorem observeAt_fault {σ : Type} {f : Forecaster Extended σ} {I : σ → Prop}
    {stalled : Fit σ → Prop} (hf : f.StaysReal I stalled) {tracks : Keyed (Track Extended σ)}
    {key : String} (ht : (trackOf tracks key).IsReal I) (price : Extended) :
    (observeAt f tracks key price).2 = none := by
  obtain ⟨next, hnext, -⟩ := ht.observe hf price
  unfold observeAt
  simp only [hnext]

/-! ## Predictors -/

namespace Predictor

/-- Settings, factors and tracks of real numbers, and usable prices. -/
structure IsReal (p : Predictor Extended) : Prop where
  settings : p.settings.IsReal
  factors : p.factors.IsReal
  tracks : p.scopes.Every (Track.IsReal p.settings.StateIsReal)

/-- There is no forecast at a place, because its track is stalled. -/
def Stalled {α : Type} [Scalar α] (p : Predictor α) (place : Place) : Prop :=
  ∃ fit, (p.scopes.trackAt place).fit = some fit ∧ p.settings.Stalled fit

theorem isReal_share {c : Settings Extended} (hc : c.IsReal) {share : Extended}
    (h : c.factorShare? = some share) : share.IsReal := by
  cases c with
  | macroRegression c =>
    cases h
    exact (hc ("alpha_factor", c.alphaFactor) List.mem_cons_self).clampUnit
  | _ c => cases h

theorem exists_factorsAfter {c : Settings Extended} (hc : c.IsReal)
    {factors : MacroFactors Extended} (hfactors : factors.IsReal) (tick : Tick Extended) :
    ∃ next, factorsAfter c factors tick = .ok next ∧ next.IsReal := by
  unfold factorsAfter
  cases hshare : c.factorShare? with
  | none => exact ⟨factors, rfl, hfactors⟩
  | some share => exact hfactors.observe (isReal_share hc hshare) tick.instrument tick.quote

theorem invariant_isReal {c : Settings Extended} (hc : c.IsReal) :
    Invariant c (Track.IsReal c.StateIsReal) MacroFactors.IsReal where
  empty := Track.isReal_empty
  silent := fun asset => by cases asset <;> exact Factor.isReal_empty
  hear := by
    intro factors next tick hfactors hnext
    obtain ⟨heard, hheard, hreal⟩ := exists_factorsAfter hc hfactors tick
    rw [hheard] at hnext
    exact Except.ok.inj hnext ▸ hreal
  learn hfactors ht _ := ht.after (Settings.staysReal hc hfactors) _

/-- **After every run of ticks all numbers of a predictor are real.** -/
theorem isReal_observeAll {s : Spec Extended} (hs : ∀ field, (s.get field).IsReal)
    (ticks : List (Tick Extended)) : ((ofSpec s).observeAll ticks).IsReal := by
  have hc := Settings.isReal_ofSpec hs
  have hrun := (invariant_isReal hc).run ticks
  unfold ofSpec
  generalize (fresh (.ofSpec s)).observeAll ticks = p at hrun ⊢
  obtain ⟨htracks, hfactors⟩ := hrun
  exact ⟨hc, hfactors, htracks⟩

namespace IsReal

variable {p : Predictor Extended}

/-- No price fails at the factors. -/
theorem observeFactors (hp : p.IsReal) (instrument : String) (price : Extended) :
    ∃ q, p.observeFactors instrument price = .ok q ∧ q.IsReal := by
  unfold Predictor.observeFactors
  cases hshare : p.settings.factorShare? with
  | none => exact ⟨p, rfl, hp⟩
  | some share =>
    obtain ⟨factors, hfactors, hreal⟩ := hp.factors.observe (isReal_share hp.settings hshare)
      instrument price
    exact ⟨{ p with factors }, by simp only [hfactors, Except.map], hp.settings, hreal, hp.tracks⟩

/-- No price of an instrument fails. -/
theorem observePrice (hp : p.IsReal) (instrument : String) (price : Extended) :
    (p.observePrice instrument price).2 = none := by
  obtain ⟨q, hq, hreal⟩ := hp.observeFactors instrument price
  unfold Predictor.observePrice
  rw [hq]
  exact observeAt_fault (Settings.staysReal hreal.settings hreal.factors)
    (hreal.tracks (.base instrument)) price

/-- No price of a signal with a side fails. -/
theorem observeSignal (hp : p.IsReal) {instrument tag side key : String}
    (hkey : readSignalKey instrument tag side = .ok key) (price : Extended) :
    (p.observeSignal instrument tag side price).2 = none := by
  obtain ⟨q, hq, hreal⟩ := hp.observeFactors instrument price
  unfold Predictor.observeSignal
  rw [hq, hkey]
  exact observeAt_fault (Settings.staysReal hreal.settings hreal.factors)
    (hreal.tracks (.signal key)) price

/-- An instrument has an estimate of real numbers unless its track is stalled. -/
theorem estimateBase (hp : p.IsReal) {fallback : Estimate Extended} (hfallback : fallback.IsReal)
    {instrument : String} (hmoves : ¬ p.Stalled (.base instrument)) :
    ∃ e, p.estimateBase instrument fallback = .ok e ∧ e.IsReal := by
  rw [Predictor.estimateBase, Scopes.estimateBase_eq]
  exact (hp.tracks (.base instrument)).estimate (Settings.staysReal hp.settings hp.factors)
    (fun fit hfit h => hmoves ⟨fit, hfit, h⟩) hfallback (Settings.isReal_minSigma hp.settings)

/-- A signal has an estimate of real numbers unless one of its two tracks is stalled. -/
theorem estimateSignal (hp : p.IsReal) {fallback : Estimate Extended}
    (hfallback : fallback.IsReal) {instrument tag side key : String}
    (hkey : readSignalKey instrument tag side = .ok key)
    (hbase : ¬ p.Stalled (.base instrument)) (hsignal : ¬ p.Stalled (.signal key)) :
    ∃ e, p.estimateSignal instrument tag side fallback = .ok e ∧ e.IsReal := by
  have hleast := Settings.isReal_minSigma hp.settings
  refine exists_ok_bind (hp.estimateBase hfallback hbase) fun base hreal => ?_
  rw [hkey]
  refine exists_ok_bind (P := (· = key)) ⟨key, rfl, rfl⟩ ?_
  rintro _ rfl
  rw [Scopes.estimateSignal_eq]
  split
  · exact ⟨base, rfl, hreal⟩
  · refine exists_ok_bind ((hp.tracks (.signal _)).estimate
      (Settings.staysReal hp.settings hp.factors) (fun fit hfit h => hsignal ⟨fit, hfit, h⟩) hreal
      hleast) fun own hown => ?_
    refine exists_ok_bind (shrinkWeight?_isReal _ (by norm_num : (0 : ℝ) < 20.0)) fun w hw => ?_
    exact ⟨_, rfl, Estimate.IsReal.floored
      ⟨hw.blend hown.mu hreal.mu, hw.blend hown.sigma hreal.sigma⟩ hleast⟩

end IsReal

section Stalled

variable {α : Type} [Scalar α] {p : Predictor α} {fallback : Estimate α}

theorem estimate_of_stalled {place : Place} (h : p.Stalled place) (fallback : Estimate α) :
    (p.scopes.trackAt place).estimate p.forecaster p.minSigma fallback =
      .error .divisionByZero := by
  obtain ⟨fit, hfit, hstalled⟩ := h
  have hforecast := Settings.forecast_of_stalled hstalled p.factors fallback
  rw [Track.estimate, Track.forecast, hfit]
  exact congrArg (Except.map (·.floored p.minSigma)) hforecast

/-- Where its track is stalled, the estimate of an instrument divides by zero. -/
theorem estimateBase_of_stalled {instrument : String} (h : p.Stalled (.base instrument))
    (fallback : Estimate α) :
    p.estimateBase instrument fallback = .error .divisionByZero := by
  rw [estimateBase, Scopes.estimateBase_eq]
  exact estimate_of_stalled h fallback

/-- The estimate of a signal divides by zero where the track under its key is stalled. -/
theorem estimateSignal_of_stalled {instrument tag side key : String}
    (hkey : readSignalKey instrument tag side = .ok key) {base : Estimate α}
    (hbase : p.estimateBase instrument fallback = .ok base) (h : p.Stalled (.signal key)) :
    p.estimateSignal instrument tag side fallback = .error .divisionByZero := by
  have hcount : ¬ (trackOf p.scopes.signals key).count = 0 := by
    obtain ⟨fit, hfit, hstalled⟩ := h
    change (trackOf p.scopes.signals key).fit = some fit at hfit
    rw [Track.count, hfit]
    exact (Settings.count_pos_of_stalled hstalled).ne'
  have hown := estimate_of_stalled h base
  change (trackOf p.scopes.signals key).estimate p.forecaster p.minSigma base = _ at hown
  rw [estimateSignal, hbase, hkey]
  simp only [bind, Except.bind, Scopes.estimateSignal_eq, if_neg hcount, hown]

end Stalled

/--
**Every request stays within the reals.** A predictor from a specification of reals keeps real
numbers over every run of ticks, junk prices included. No observation fails, but for a side without
a meaning. From a real fallback every estimate is real, unless its track is stalled, in which case
it divides by zero. Only momentum in units of volatility stalls, and only without a positive floor.
Bounds could hide what is not real, so the two guarded forms, which stand inside of bounds, are
shown to agree with the checked ones.
-/
theorem runs_within_domains (s : Spec Extended) (hs : ∀ field, (s.get field).IsReal)
    (ticks : List (Tick Extended)) :
    let p := (ofSpec s).observeAll ticks
    p.IsReal ∧
    (∀ instrument price, (p.observePrice instrument price).2 = none) ∧
    (∀ instrument tag side price (d : Side), Text.lower (Text.trim side) = d.name →
      (p.observeSignal instrument tag side price).2 = none) ∧
    (∀ fallback : Estimate Extended, fallback.IsReal →
      (∀ instrument, (∃ e, p.estimateBase instrument fallback = .ok e ∧ e.IsReal) ∨
        p.Stalled (.base instrument) ∧
          p.estimateBase instrument fallback = .error .divisionByZero) ∧
      ∀ instrument tag side (d : Side), Text.lower (Text.trim side) = d.name →
        (∃ e, p.estimateSignal instrument tag side fallback = .ok e ∧ e.IsReal) ∨
        (p.Stalled (.base instrument) ∨ p.Stalled (.signal (signalKey instrument tag d))) ∧
          p.estimateSignal instrument tag side fallback = .error .divisionByZero) ∧
    (∀ place, p.Stalled place → s.kind = .scaledMomentum ∧ ¬ 0 < s.minSigma) ∧
    (∀ bound a b : Extended, 0 ≤ bound → bound < b → div? a b = .ok (ratioAbove bound a b)) ∧
    ∀ x : Extended, sqrt? (larger x 0) = .ok (sqrtPos x) := by
  intro p
  have hp : p.IsReal := isReal_observeAll hs ticks
  have hsettings : p.settings = .ofSpec s := settings_observeAll (ofSpec s) ticks
  refine ⟨hp, hp.observePrice, fun instrument tag side price d hside => ?_,
    fun fallback hfallback => ⟨fun instrument => ?_, fun instrument tag side d hside => ?_⟩,
    fun place hplace => ?_, fun _ a _ hbound h => div?_ratioAbove hbound h a, sqrt?_sqrtPos⟩
  · exact hp.observeSignal (readSignalKey_of_named hside instrument tag) price
  · by_cases hstalled : p.Stalled (.base instrument)
    · exact .inr ⟨hstalled, estimateBase_of_stalled hstalled fallback⟩
    · exact .inl (hp.estimateBase hfallback hstalled)
  · have hkey := readSignalKey_of_named hside instrument tag
    by_cases hbase : p.Stalled (.base instrument)
    · refine .inr ⟨.inl hbase, ?_⟩
      rw [estimateSignal, estimateBase_of_stalled hbase]
      rfl
    · by_cases hsignal : p.Stalled (.signal (signalKey instrument tag d))
      · obtain ⟨base, hok, -⟩ := hp.estimateBase hfallback hbase
        exact .inr ⟨.inr hsignal, estimateSignal_of_stalled hkey hok hsignal⟩
      · exact .inl (hp.estimateSignal hfallback hkey hbase hsignal)
  · obtain ⟨fit, -, hstalled⟩ := hplace
    have hkind := Settings.kind_of_stalled hp.settings hstalled
    rw [hsettings, Settings.kind_ofSpec, Settings.minSigma_ofSpec] at hkind
    exact hkind

/-- Momentum in units of volatility, at its standard floor, forecasts on a flat market. -/
theorem runs_within_domains_momentum :
    let s : Spec Extended := .standard .scaledMomentum
    let p := (ofSpec s).observeAll
      [.price "BTC" 100, .price "BTC" .nan, .price "BTC" 100, .price "BTC" 100]
    (∀ field, (s.get field).IsReal) ∧ p.IsReal ∧
      ∃ e, p.estimateBase "BTC" { mu := 0, sigma := 0 } = .ok e ∧ e.IsReal := by
  intro s p
  have hs : ∀ field, (s.get field).IsReal := fun field => by
    cases field <;> exact isReal_ofScientific ..
  obtain ⟨hp, -, -, hestimates, hstalled, -⟩ := runs_within_domains s hs
    [.price "BTC" 100, .price "BTC" .nan, .price "BTC" 100, .price "BTC" 100]
  refine ⟨hs, hp, ?_⟩
  rcases (hestimates { mu := 0, sigma := 0 } ⟨isReal_zero, isReal_zero⟩).1 "BTC" with
    hreal | ⟨hplace, -⟩
  · exact hreal
  · have hpos : (0 : ℝ) < 0.001 := by norm_num
    exact absurd (finite_lt.mpr hpos) (hstalled _ hplace).2

end Predictor

/-! ## A flat market -/

theorem logReturn_self {price : Extended} (h : isValidPrice price = true) :
    logReturn price (some price) = .ok (some 0) := by
  obtain ⟨x, hx, hpos⟩ := Extended.isValidPrice_pos h
  have hlog : log? (price / price) = .ok 0 := by
    rw [hx, finite_div hpos.ne', div_self hpos.ne', log?_finite one_pos, Real.log_one]
    rfl
  simp only [logReturn, h, Bool.and_self, if_true, hlog, Except.map]

theorem ewma_zero {share : Extended} (h : share.IsReal) : ewma 0 0 share = 0 := by
  obtain ⟨w, rfl⟩ := h
  show finite ((1 + -w) * 0 + w * 0) = finite 0
  rw [mul_zero, mul_zero, add_zero]

/-- A flat return leaves no volatility where there was none. -/
theorem ScaledMomentum.after_flat {c : Settings Extended} (hc : c.alphaVol.IsReal)
    {t : Track Extended (State Extended)} {price : Extended} (hprice : isValidPrice price = true)
    (hlast : t.lastPrice = some price) (hvol : ∀ fit, t.fit = some fit → fit.state.vol = 0) :
    ∃ s, t.after (forecaster c) price =
      { lastPrice := some price, fit := some { count := t.count + 1, state := s } } ∧
      s.vol = 0 := by
  have habs : Scalar.abs (0 : Extended) = 0 := congrArg finite abs_zero
  unfold Track.after Track.observe
  rw [if_pos hprice, hlast, logReturn_self hprice]
  cases hfit : t.fit with
  | none => exact ⟨seed 0, by rw [Track.count, hfit]; rfl, habs⟩
  | some fit =>
    refine ⟨step c fit.state 0, by rw [Track.count, hfit]; rfl, ?_⟩
    show ewma fit.state.vol (Scalar.abs 0) (clampUnit c.alphaVol) = 0
    rw [hvol fit hfit, habs, ewma_zero hc.clampUnit]

/-- After some equal prices, and one more: a return less, and no volatility. -/
theorem ScaledMomentum.afterAll_flat {c : Settings Extended} (hc : c.alphaVol.IsReal)
    {price : Extended} (hprice : isValidPrice price = true) (n : Nat) :
    ∃ s, Track.afterAll (forecaster c) {} (List.replicate (n + 2) price) =
      { lastPrice := some price, fit := some { count := n + 1, state := s } } ∧ s.vol = 0 := by
  induction n with
  | zero =>
    -- The first price gives no return, the second one a flat one.
    have hfirst : Track.after (forecaster c) {} price =
        { lastPrice := some price, fit := none } := by
      unfold Track.after Track.observe
      rw [if_pos hprice]
      rfl
    show ∃ s, (Track.after (forecaster c) {} price).after (forecaster c) price = _ ∧ _
    rw [hfirst]
    exact after_flat hc hprice rfl fun _ h => (nomatch h)
  | succ n ih =>
    obtain ⟨s, hs, hvol⟩ := ih
    have happend : Track.afterAll (forecaster c) {} (List.replicate (n + 1 + 2) price) =
        (Track.afterAll (forecaster c) {} (List.replicate (n + 2) price)).after (forecaster c)
          price := by
      rw [List.replicate_succ', Track.afterAll, List.foldl_append]
      rfl
    rw [happend, hs]
    exact after_flat hc hprice rfl fun _ h => Option.some.inj h ▸ hvol

/-- **A flat market stalls momentum without a floor,** from the third price on. -/
theorem Predictor.stalled_of_flat {c : ScaledMomentum.Settings Extended} (hc : c.alphaVol.IsReal)
    (hleast : c.minSigma = 0) {price : Extended} (hprice : isValidPrice price = true)
    (instrument : String) (n : Nat) :
    ((fresh (.scaledMomentum c)).feed instrument (List.replicate (n + 3) price)).Stalled
      (.base instrument) := by
  obtain ⟨s, hs, hvol⟩ := ScaledMomentum.afterAll_flat hc hprice (n + 1)
  have hvalid : ∀ x ∈ List.replicate (n + 3) price, isValidPrice x = true := fun x hx =>
    (List.eq_of_mem_replicate hx) ▸ hprice
  have htrack := (Scopes.trackOf_observeAll (ScaledMomentum.forecaster c) {}
    ((List.replicate (n + 3) price).map (.price instrument))).1 instrument
  rw [Tick.pricesOf_map_price instrument hvalid] at htrack
  unfold feed fresh
  rw [observeAll_eq rfl]
  refine ⟨{ count := n + 1 + 1, state := s }, congrArg Track.fit (htrack.trans hs), ?_, ?_⟩
  · exact Nat.le_add_left 2 n
  · show IsZero (larger s.vol c.minSigma)
    rw [hvol, hleast, larger, ite_self]
    exact ⟨finite_le.mpr le_rfl, finite_le.mpr le_rfl⟩

/-- Three equal prices, and momentum in units of volatility without a floor. -/
theorem Predictor.flat_market_divides_by_zero :
    let s : Spec Extended := { Spec.standard .scaledMomentum with minSigma := 0 }
    (∀ field, (s.get field).IsReal) ∧ 0 ≤ s.minSigma ∧
      ((ofSpec s).feed "BTC" [100, 100, 100]).estimateBase "BTC" { mu := 0, sigma := 0 } =
        .error .divisionByZero := by
  intro s
  have hs : ∀ field, (s.get field).IsReal := fun field => by
    cases field <;> first | exact isReal_zero | exact isReal_ofScientific ..
  have hprice : isValidPrice (100 : Extended) = true :=
    Extended.isValidPrice_iff.mpr ⟨100, rfl, by norm_num [twoTo]⟩
  exact ⟨hs, finite_le.mpr le_rfl, estimateBase_of_stalled
    (stalled_of_flat (hs .alphaVar) rfl hprice "BTC" 0) { mu := 0, sigma := 0 }⟩

end ReturnForecast
