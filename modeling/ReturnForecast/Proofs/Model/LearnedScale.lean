import ReturnForecast.Proofs.Predictor.ReturnHistory
import ReturnForecast.Proofs.Scalar.Averages

/-!
# The learned scale of a momentum

The raw forecast of a momentum is scaled by what it was worth before. Over exact reals the two
averages behind the scale are weighted sums over the returns, each with the raw forecast made one
return earlier; so the scale is, within the unit interval, the one that would have forecast best.

* `cross_stateAfter` / `square_stateAfter` — the two averages of every state
* `loss` — the weighted squared errors of a scale, and `loss_eq`, a parabola of it
* `isMinOn_loss` — the scale of a state has the least loss
* `scale_minimises_loss` — the scale and the estimates of an instrument after every run
-/

namespace ReturnForecast.CalibratedMomentum

/-! ## States -/

section States

variable (c : Settings ℝ) (r : ℕ → ℝ) (n : ℕ)

theorem learnsReturns : (forecaster c).LearnsReturns (seed c) (step c) fun _ => True :=
  .of_total (fun _ _ => rfl) fun _ _ _ _ => rfl

/-- The state after a first return and `n` further ones. -/
noncomputable def stateAfter : State ℝ := statesAfter (seed c) (step c) r n

theorem cross_stateAfter : (stateAfter c r n).cross =
    averaged (clampUnit c.alphaCalib) (fun t => r (t + 1) * (stateAfter c r t).raw) n := by
  induction n with
  | zero => rfl
  | succ n ih => exact congrArg (ewma · _ _) ih

theorem square_stateAfter : (stateAfter c r n).square =
    averaged (clampUnit c.alphaCalib) (fun t => (stateAfter c r t).raw * (stateAfter c r t).raw)
      n := by
  induction n with
  | zero => rfl
  | succ n ih => exact congrArg (ewma · _ _) ih

end States

/-! ## The scale -/

theorem scale_mem (s : State ℝ) : scale s ∈ Set.Icc 0 1 := clampUnit_mem _

/-- A raw forecast that has pointed the wrong way is switched off. -/
theorem scale_of_cross_nonpos {s : State ℝ} (h : s.cross ≤ 0) : scale s = 0 := by
  have hratio : ratioAbove 1e-18 s.cross s.square ≤ 0 := by
    unfold ratioAbove
    split
    · next hsquare =>
      have hzero : (0 : ℝ) < 1e-18 := by norm_num
      exact div_nonpos_of_nonpos_of_nonneg h (hzero.trans hsquare).le
    · exact le_rfl
  unfold scale
  rw [clamp_eq]
  exact max_eq_left ((min_le_right 1 _).trans hratio)

section Loss

variable (c : Settings ℝ) (r : ℕ → ℝ) (n : ℕ)

/-- The squared errors of the raw forecasts with another scale, the later the more they weigh. -/
noncomputable def loss (scale : ℝ) : ℝ :=
  ∑ t ∈ Finset.range n, clampUnit c.alphaCalib * (1 - clampUnit c.alphaCalib) ^ (n - 1 - t) *
    (r (t + 1) - scale * (stateAfter c r t).raw) ^ 2

/-- The loss is a parabola of the scale, and the averages of the state are its coefficients. -/
theorem loss_eq (scale : ℝ) : loss c r n scale =
    averaged (clampUnit c.alphaCalib) (fun t => r (t + 1) ^ 2) n -
      2 * scale * (stateAfter c r n).cross + scale ^ 2 * (stateAfter c r n).square := by
  rw [cross_stateAfter, square_stateAfter, averaged_eq_sum, averaged_eq_sum, averaged_eq_sum,
    Finset.mul_sum, Finset.mul_sum, ← Finset.sum_sub_distrib, ← Finset.sum_add_distrib]
  refine Finset.sum_congr rfl fun t _ => ?_
  ring

/-- **The scale has the least loss** in the unit interval. -/
theorem isMinOn_loss (h : 1e-18 < (stateAfter c r n).square) :
    IsMinOn (loss c r n) (Set.Icc 0 1) (scale (stateAfter c r n)) := by
  intro x hx
  have hzero : (0 : ℝ) < 1e-18 := by norm_num
  have hsquare : 0 < (stateAfter c r n).square := hzero.trans h
  -- The parabola has its lowest point at the quotient of the averages.
  have hlowest : ∀ y, loss c r n y = loss c r n 0 +
      (stateAfter c r n).square * ((y - (stateAfter c r n).cross / (stateAfter c r n).square) ^ 2 -
        ((stateAfter c r n).cross / (stateAfter c r n).square) ^ 2) := by
    intro y
    rw [loss_eq, loss_eq]
    field_simp
    ring
  have hscale : scale (stateAfter c r n) =
      clampUnit ((stateAfter c r n).cross / (stateAfter c r n).square) := by
    unfold scale ratioAbove
    rw [if_pos h]
    rfl
  have hnearest := mul_le_mul_of_nonneg_left
    (clampUnit_nearest hx ((stateAfter c r n).cross / (stateAfter c r n).square)) hsquare.le
  show loss c r n (scale (stateAfter c r n)) ≤ loss c r n x
  rw [hlowest x, hlowest, hscale]
  linarith

end Loss

/-! ## Predictors -/

open Predictor

theorem calibration?_of_hasFit {p : Predictor ℝ} {c : Settings ℝ} {instrument : String}
    {fit : Fit (State ℝ)} (h : p.HasFit (.calibratedMomentum c) (.base instrument) fit)
    (hcount : minSamples ≤ fit.count) :
    p.calibration? instrument = .ok (some (scale fit.state)) := by
  obtain ⟨s, rfl, hfit⟩ := h
  let track : Track ℝ (State ℝ) := trackOf s.base instrument
  have htrack : track.fit = some fit := hfit
  have hfew : ¬ track.count < minSamples := by
    rw [Track.count, htrack]
    exact not_lt.mpr hcount
  show (if track.count < minSamples then Except.ok none
    else Except.ok (track.fit.map fun fit => scale fit.state)) = _
  rw [if_neg hfew, htrack]
  rfl

theorem forecast_mu (c : Settings ℝ) {count : ℕ} (hcount : minSamples ≤ count) (s : State ℝ)
    (fallback : Estimate ℝ) : ∃ sigma, (forecaster c).forecast count s fallback =
      .ok { mu := blend (count / (count + 200)) (scale s * s.raw) fallback.mu, sigma } := by
  have hshrink : (0 : ℝ) < shrinkCount := by norm_num [shrinkCount]
  have hvalue : (shrinkCount : ℝ) = 200 := by norm_num [shrinkCount]
  refine ⟨sigma c s, ?_⟩
  show (if count < minSamples then _ else _) = _
  rw [if_neg (not_lt.mpr hcount), shrinkWeight?_of_pos count hshrink, hvalue]
  rfl

/--
**The learned scale is optimal.** After every run it lies in the unit interval, and there it
minimises the weighted squared errors of the raw forecasts, each of the return after it. The
estimate weighs the scaled raw forecast against the fallback; it is the fallback's share alone if no
raw forecast has had the sign of its return.
-/
theorem scale_minimises_loss (c : Settings ℝ) {instrument : String} {ticks : List (Tick ℝ)}
    {r : ℕ → ℝ} {n : ℕ} (hr : (Place.base instrument).returns ticks = firstReturns r n)
    (hn : 5 ≤ n + 1) :
    let p := (fresh (.calibratedMomentum c)).observeAll ticks
    let state : ℕ → State ℝ := statesAfter (seed c) (step c) r
    let a := clampUnit c.alphaCalib
    let w : ℝ := (n + 1 : ℕ) / ((n + 1 : ℕ) + 200)
    p.HasFit (.calibratedMomentum c) (.base instrument) { count := n + 1, state := state n } ∧
    ∃ scale ∈ Set.Icc (0 : ℝ) 1, p.calibration? instrument = .ok (some scale) ∧
      (1e-18 < (state n).square →
        IsMinOn (fun k => ∑ t ∈ Finset.range n,
          a * (1 - a) ^ (n - 1 - t) * (r (t + 1) - k * (state t).raw) ^ 2) (Set.Icc 0 1) scale) ∧
      ∀ fallback, ∃ e, p.estimateBase instrument fallback = .ok e ∧
        e.mu = w * (scale * (state n).raw) + (1 - w) * fallback.mu ∧
        ((∀ t < n, r (t + 1) * (state t).raw ≤ 0) → e.mu = (1 - w) * fallback.mu) := by
  intro p state a w
  have hfit : p.HasFit (.calibratedMomentum c) (.base instrument)
      { count := n + 1, state := state n } := hasFit_of_returns (fun _ => learnsReturns c) rfl hr
  refine ⟨hfit, scale (state n), scale_mem (state n), calibration?_of_hasFit hfit hn,
    isMinOn_loss c r n, fun fallback => ?_⟩
  obtain ⟨sigma, hforecast⟩ := forecast_mu c hn (state n) fallback
  have hestimate := hfit.estimateAt_eq fallback
  rw [estimateAt_base] at hestimate
  refine ⟨_, hestimate.trans (congrArg (Except.map _) hforecast), rfl, fun hwrong => ?_⟩
  have hcross : (state n).cross ≤ 0 := by
    show (stateAfter c r n).cross ≤ 0
    rw [cross_stateAfter]
    exact averaged_nonpos (clampUnit_mem c.alphaCalib) hwrong
  show w * (scale (state n) * (state n).raw) + (1 - w) * fallback.mu = (1 - w) * fallback.mu
  rw [scale_of_cross_nonpos hcross, zero_mul, mul_zero, zero_add]

/-- With these settings the raw forecast is a tenth of the last return, if the first one is zero. -/
noncomputable def tenthOfLast : Settings ℝ :=
  { alphaFast := 1, alphaSlow := 0, alphaVar := 0, alphaCalib := 1, minSigma := 1 }

theorem rawForecast_tenthOfLast (x : ℝ) : rawForecast tenthOfLast x 0 0 = x / 10 := by
  norm_num [rawForecast, tenthOfLast, sqrtPos, larger_eq_max, ratioAbove, rawScale, Scalar.sqrt]
  ring

theorem seed_tenthOfLast :
    seed tenthOfLast 0 = { fast := 0, slow := 0, var := 0, raw := 0, cross := 0, square := 0 } := by
  rw [seed, mul_zero, rawForecast_tenthOfLast, zero_div]

theorem step_tenthOfLast (fast raw cross square r : ℝ) :
    step tenthOfLast { fast, slow := 0, var := 0, raw, cross, square } r =
      { fast := r, slow := 0, var := 0, raw := r / 10, cross := r * raw, square := raw * raw } := by
  have hzero : clampUnit (0 : ℝ) = 0 := by norm_num [clampUnit, clamp_eq]
  have hone : clampUnit (1 : ℝ) = 1 := by norm_num [clampUnit, clamp_eq]
  have hraw := rawForecast_tenthOfLast r
  simp only [step, tenthOfLast, hzero, hone, ewma, sub_self, sub_zero, zero_mul, one_mul, zero_add,
    mul_zero, add_zero] at hraw ⊢
  rw [hraw]

/-- A jump and its reversal: the forecast of the reversal has the wrong sign and is switched off. -/
theorem scale_minimises_loss_reversed_jump :
    let p := (fresh (.calibratedMomentum tenthOfLast)).feed "BTC" [1, 1, 1, 1, 2, 1]
    let r : ℕ → ℝ := fun t => [0, 0, 0, Real.log 2, -Real.log 2].getD t 0
    let state : ℕ → State ℝ := statesAfter (seed tenthOfLast) (step tenthOfLast) r
    ∃ scale, p.calibration? "BTC" = .ok (some scale) ∧
      IsMinOn (fun k => ∑ t ∈ Finset.range 4, clampUnit 1 * (1 - clampUnit 1) ^ (4 - 1 - t) *
        (r (t + 1) - k * (state t).raw) ^ 2) (Set.Icc 0 1) scale ∧
      ∃ e, p.estimateBase "BTC" { mu := 1, sigma := 0 } = .ok e ∧ e.mu = 200 / 205 := by
  intro p r state
  have hvalid := Place.valid_of_cent_le
    (by norm_num : ∀ x ∈ ([1, 1, 1, 1, 2, 1] : List ℝ), 1 / 100 ≤ x)
  have hr : (Place.base "BTC").returns (List.map (Tick.price "BTC") [1, 1, 1, 1, 2, 1]) =
      firstReturns r 4 := by
    rw [Place.returns_map_price "BTC" hvalid]
    norm_num [returnsOf, firstReturns, List.range_succ, r]
    rw [one_div, Real.log_inv]
  have h0 : state 0 = { fast := 0, slow := 0, var := 0, raw := 0, cross := 0, square := 0 } :=
    seed_tenthOfLast
  have h1 : state 1 = step tenthOfLast (state 0) 0 := rfl
  have h2 : state 2 = step tenthOfLast (state 1) 0 := rfl
  have h3 : state 3 = step tenthOfLast (state 2) (Real.log 2) := rfl
  have h4 : state 4 = step tenthOfLast (state 3) (-Real.log 2) := rfl
  rw [h0, step_tenthOfLast, zero_div, zero_mul] at h1
  rw [h1, step_tenthOfLast, zero_div, zero_mul] at h2
  rw [h2, step_tenthOfLast, mul_zero, mul_zero] at h3
  rw [h3, step_tenthOfLast] at h4
  have hlog := Real.log_two_gt_d9
  have hsquare : (1e-18 : ℝ) < (state 4).square := by
    rw [h4]
    norm_num
    nlinarith
  have hwrong : ∀ t < 4, r (t + 1) * (state t).raw ≤ 0 := by
    intro t ht
    interval_cases t
    · rw [h0, mul_zero]
    · rw [h1, mul_zero]
    · rw [h2, mul_zero]
    · rw [h3]
      show -Real.log 2 * (Real.log 2 / 10) ≤ 0
      nlinarith
  obtain ⟨-, scale, -, hscale, hleast, hestimates⟩ :=
    scale_minimises_loss tenthOfLast hr (by norm_num)
  obtain ⟨e, he, -, hmu⟩ := hestimates { mu := 1, sigma := 0 }
  refine ⟨scale, hscale, hleast hsquare, e, he, ?_⟩
  rw [hmu hwrong]
  norm_num

end ReturnForecast.CalibratedMomentum
