import ReturnForecast.Proofs.Predictor.ReturnHistory
import ReturnForecast.Proofs.Scalar.Averages

/-!
# Reversals only

A forecast of a bounce has the opposite sign of the last return, whatever the settings: its
coefficient is the clamped quotient of two averages and never positive. Over exact reals it is zero
as long as no return has reversed the one before, because then the average of their products is not
negative; in particular on prices that only rise or only fall.

* `lagCov_stateAfter` — the average product of neighbours in every state
* `forecast_reversal` — what a state forecasts, with a coefficient that is never positive
* `nonneg_of_mem_returnsOf` / `nonpos_of_mem_returnsOf` — returns of monotone prices
* `reversals_only` — the estimates of an instrument after every run
-/

namespace ReturnForecast

/-! ## Returns of monotone prices -/

theorem nonneg_of_mem_returnsOf {prices : List ℝ} (hpos : ∀ p ∈ prices, 0 < p)
    (hrising : prices.Pairwise (· ≤ ·)) : ∀ x ∈ returnsOf prices, 0 ≤ x := by
  intro x hx
  obtain ⟨p, q, hneighbours, rfl⟩ := exists_neighbours_of_mem_returnsOf hx
  have hp : 0 < p := hpos p (hneighbours.subset List.mem_cons_self)
  have hpq : p ≤ q := List.pairwise_pair.mp (hrising.sublist hneighbours.sublist)
  exact Real.log_nonneg ((one_le_div hp).mpr hpq)

theorem nonpos_of_mem_returnsOf {prices : List ℝ} (hpos : ∀ p ∈ prices, 0 < p)
    (hfalling : prices.Pairwise (· ≥ ·)) : ∀ x ∈ returnsOf prices, x ≤ 0 := by
  intro x hx
  obtain ⟨p, q, hneighbours, rfl⟩ := exists_neighbours_of_mem_returnsOf hx
  have hp : 0 < p := hpos p (hneighbours.subset List.mem_cons_self)
  have hq : 0 < q := hpos q (hneighbours.subset (List.mem_cons_of_mem p List.mem_cons_self))
  have hqp : p ≥ q := List.pairwise_pair.mp (hfalling.sublist hneighbours.sublist)
  exact Real.log_nonpos (div_pos hq hp).le ((div_le_one hp).mpr hqp)

/-- On prices that only rise or only fall, no return reverses the one before. -/
theorem products_nonneg_of_monotone {prices : List ℝ} (hpos : ∀ p ∈ prices, 0 < p)
    (hmonotone : prices.Pairwise (· ≤ ·) ∨ prices.Pairwise (· ≥ ·)) {x y : ℝ}
    (hx : x ∈ returnsOf prices) (hy : y ∈ returnsOf prices) : 0 ≤ x * y := by
  rcases hmonotone with hrising | hfalling
  · exact mul_nonneg (nonneg_of_mem_returnsOf hpos hrising x hx)
      (nonneg_of_mem_returnsOf hpos hrising y hy)
  · exact mul_nonneg_of_nonpos_of_nonpos (nonpos_of_mem_returnsOf hpos hfalling x hx)
      (nonpos_of_mem_returnsOf hpos hfalling y hy)

namespace BounceReversal

/-! ## States -/

section States

variable (c : Settings ℝ) (r : ℕ → ℝ) (n : ℕ)

theorem learnsReturns : (forecaster c).LearnsReturns seed (step c) fun _ => True :=
  .of_total (fun _ _ => rfl) fun _ _ _ _ => rfl

/-- The state after a first return and `n` further ones. -/
noncomputable def stateAfter : State ℝ := statesAfter seed (step c) r n

theorem lastReturn_stateAfter : (stateAfter c r n).lastReturn = r n := by
  cases n with
  | zero => rfl
  | succ n => rfl

theorem lagCov_stateAfter : (stateAfter c r n).lagCov =
    averaged (clampUnit c.alpha) (fun t => r (t + 1) * r t) n := by
  induction n with
  | zero => rfl
  | succ n ih =>
    show ewma (stateAfter c r n).lagCov (r (n + 1) * (stateAfter c r n).lastReturn) _ = _
    rw [ih, lastReturn_stateAfter]
    rfl

end States

/-! ## The coefficient -/

/-- The coefficient of a forecast is never positive, and zero while returns do not reverse. -/
theorem forecast_reversal {c : Settings ℝ} (hphi : 0 ≤ c.phiMax) {count : ℕ}
    (hcount : minSamples ≤ count) (s : State ℝ) (fallback : Estimate ℝ) :
    ∃ phi ∈ Set.Icc (-c.phiMax) 0, ∃ sigma, (0 ≤ s.lagCov → phi = 0) ∧
      (forecaster c).forecast count s fallback =
        .ok { mu := count / (count + 200) * phi * s.lastReturn, sigma } := by
  have hshrink : (0 : ℝ) < shrinkCount := by norm_num [shrinkCount]
  have hvalue : (shrinkCount : ℝ) = 200 := by norm_num [shrinkCount]
  by_cases hsilent : 0 ≤ s.lagCov ∨ s.var < 1e-18
  · refine ⟨0, ⟨neg_nonpos.mpr hphi, le_rfl⟩, sigma c s, fun _ => rfl, ?_⟩
    show (if count < minSamples then _ else if 0 ≤ s.lagCov ∨ s.var < 1e-18 then _ else _) = _
    rw [if_neg (not_lt.mpr hcount), if_pos hsilent, mul_zero, zero_mul]
  · have hvar : 0 < s.var := by
      have hbound : (1e-18 : ℝ) ≤ s.var := not_lt.mp fun h => hsilent (.inr h)
      exact lt_of_lt_of_le (by norm_num) hbound
    refine ⟨clamp (s.lagCov / s.var) (-c.phiMax) 0, ?_, sigma c s,
      fun h => absurd (.inl h) hsilent, ?_⟩
    · rw [clamp_eq]
      exact ⟨le_max_left _ _, max_le (neg_nonpos.mpr hphi) (min_le_left 0 _)⟩
    · show (if count < minSamples then _ else if 0 ≤ s.lagCov ∨ s.var < 1e-18 then _ else _) = _
      rw [if_neg (not_lt.mpr hcount), if_neg hsilent, div?_of_pos hvar,
        shrinkWeight?_of_pos count hshrink, hvalue]
      rfl

/-- What a coefficient that is never positive makes of the last return. -/
theorem reversal_bounds {w phi bound : ℝ} (hw : 0 ≤ w) (hphi : phi ∈ Set.Icc (-bound) 0) (x : ℝ) :
    w * phi * x * x ≤ 0 ∧ |w * phi * x| ≤ w * bound * |x| := by
  constructor
  · calc w * phi * x * x = phi * (w * (x * x)) := by ring
      _ ≤ 0 := mul_nonpos_of_nonpos_of_nonneg hphi.2 (mul_nonneg hw (mul_self_nonneg x))
  · rw [abs_mul, abs_mul, abs_of_nonneg hw, abs_of_nonpos hphi.2]
    have hbound : -phi ≤ bound := neg_le.mp hphi.1
    gcongr

/-! ## Predictors -/

open Predictor

/--
**Only reversals are forecast.** After every run with three returns at least, the forecast does not
have the sign of the last return, and is at most the largest coefficient times that return, weighed
by the number of returns. It is exactly zero while no return has reversed the one before, so on
prices that only rise or only fall.
-/
theorem reversals_only {c : Settings ℝ} (hphi : 0 ≤ c.phiMax) {instrument : String}
    {ticks : List (Tick ℝ)} {r : ℕ → ℝ} {n : ℕ}
    (hr : (Place.base instrument).returns ticks = firstReturns r n) (hn : 3 ≤ n + 1)
    (fallback : Estimate ℝ) :
    let prices := (Place.base instrument).prices ticks
    let w : ℝ := (n + 1 : ℕ) / ((n + 1 : ℕ) + 200)
    ∃ e, ((fresh (.bounceReversal c)).observeAll ticks).estimateBase instrument fallback = .ok e ∧
      e.mu * r n ≤ 0 ∧ |e.mu| ≤ w * c.phiMax * |r n| ∧
      ((∀ t < n, 0 ≤ r t * r (t + 1)) → e.mu = 0) ∧
      (prices.Pairwise (· ≤ ·) ∨ prices.Pairwise (· ≥ ·) → e.mu = 0) := by
  intro prices w
  obtain ⟨phi, hphi', sigma, hsilent, hforecast⟩ :=
    forecast_reversal hphi hn (stateAfter c r n) fallback
  have hestimate :=
    estimateAt_of_returns (c := .bounceReversal c) (fun _ => learnsReturns c) rfl hr fallback
  rw [estimateAt_base] at hestimate
  replace hestimate := hestimate.trans (congrArg (Except.map _) hforecast)
  rw [lastReturn_stateAfter] at hestimate
  have hw : 0 ≤ w := (sampleShare_mem (n + 1) (by norm_num)).1
  have hzero : (∀ t < n, 0 ≤ r t * r (t + 1)) → w * phi * r n = 0 := by
    intro hproducts
    have hlag : 0 ≤ (stateAfter c r n).lagCov := by
      rw [lagCov_stateAfter]
      exact averaged_nonneg (clampUnit_mem c.alpha) fun t ht =>
        (hproducts t ht).trans_eq (mul_comm (r t) (r (t + 1)))
    rw [hsilent hlag, mul_zero, zero_mul]
  have hmem : ∀ t ≤ n, r t ∈ returnsOf prices := by
    intro t ht
    show r t ∈ (Place.base instrument).returns ticks
    rw [hr]
    exact List.mem_map_of_mem (List.mem_range.mpr (Nat.lt_succ_of_le ht))
  obtain ⟨hsign, hbound⟩ := reversal_bounds hw hphi' (r n)
  exact ⟨_, hestimate, hsign, hbound, hzero, fun hmonotone => hzero fun t ht =>
    products_nonneg_of_monotone (fun p hp => isValidPrice_pos (Place.valid_of_mem_prices hp))
      hmonotone (hmem t ht.le) (hmem (t + 1) ht)⟩

/-- A market that bounces, and one that only rises. -/
theorem reversals_only_bounce :
    let c : Settings ℝ := standard
    let p := (fresh (.bounceReversal c)).feed "BTC" [100, 101, 100, 101]
    let q := (fresh (.bounceReversal c)).feed "BTC" [100, 101, 102, 103]
    (∃ e, p.estimateBase "BTC" { mu := 1, sigma := 0 } = .ok e ∧
      e.mu * Real.log (101 / 100) ≤ 0) ∧
    ∃ e, q.estimateBase "BTC" { mu := 1, sigma := 0 } = .ok e ∧ e.mu = 0 := by
  intro c p q
  have hphi : 0 ≤ c.phiMax := by norm_num [c, standard]
  have hbounces := Place.valid_of_cent_le
    (by norm_num : ∀ x ∈ ([100, 101, 100, 101] : List ℝ), 1 / 100 ≤ x)
  have hrises := Place.valid_of_cent_le
    (by norm_num : ∀ x ∈ ([100, 101, 102, 103] : List ℝ), 1 / 100 ≤ x)
  have hr := (Place.returns_map_price "BTC" hbounces).trans (eq_firstReturns (n := 2) rfl 0)
  have hr' := (Place.returns_map_price "BTC" hrises).trans (eq_firstReturns (n := 2) rfl 0)
  obtain ⟨e, he, hsign, -⟩ := reversals_only hphi hr le_rfl { mu := 1, sigma := 0 }
  obtain ⟨e', he', -, -, -, hsilent⟩ := reversals_only hphi hr' le_rfl { mu := 1, sigma := 0 }
  refine ⟨⟨e, he, hsign⟩, e', he', hsilent (.inl ?_)⟩
  show (Tick.pricesOf "BTC" _).Pairwise (· ≤ ·)
  rw [Tick.pricesOf_map_price "BTC" hrises]
  norm_num

end BounceReversal

end ReturnForecast
