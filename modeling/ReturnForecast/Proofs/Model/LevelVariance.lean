import ReturnForecast.Proofs.Predictor.ReturnHistory

/-!
# The variance of a local level

Over exact reals the variance of the level does not look at the returns. It starts with that of the
noise and falls with every return, strictly and toward the fixed point of its recursion, which it
never reaches. The gain stays inside the unit interval, so the level is a mixture of returns.

* `nextVariance_lt` / `leastVariance_lt_nextVariance` — what one return does to the variance
* `varianceAfter` — the variance after some returns, and `variance_stateAfter`, that of every state
* `level_mem` — the level stays in the range of the returns
* `variance_and_sigma_fall` — the variance and the estimates of an instrument after every run
-/

namespace ReturnForecast.LocalLevel

/-! ## One return -/

section Step

variable (c : Settings ℝ) {p : ℝ}

theorem moveVar_eq : c.moveVar = max c.processVar 1e-12 := larger_eq_max c.processVar 1e-12

theorem noiseVar_eq : c.noiseVar = max c.measureVar 1e-12 := larger_eq_max c.measureVar 1e-12

theorem moveVar_pos : 0 < c.moveVar := by
  rw [moveVar_eq]
  exact lt_max_of_lt_right (by norm_num)

theorem noiseVar_pos : 0 < c.noiseVar := by
  rw [noiseVar_eq]
  exact lt_max_of_lt_right (by norm_num)

/-- The share of the way to a new return by which the level moves. -/
noncomputable def gain (p : ℝ) : ℝ := (p + c.moveVar) / (p + c.moveVar + c.noiseVar)

/-- The variance after a further return. -/
noncomputable def nextVariance (p : ℝ) : ℝ := (1 - gain c p) * (p + c.moveVar)

/-- The state after a further return. -/
noncomputable def next (s : State ℝ) (r : ℝ) : State ℝ where
  level := s.level + gain c s.variance * (r - s.level)
  variance := nextVariance c s.variance

/-- The new level is a mixture of the return and the old one. -/
theorem level_next (s : State ℝ) (r : ℝ) :
    (next c s r).level = gain c s.variance * r + (1 - gain c s.variance) * s.level := by
  unfold next
  ring

theorem total_pos (hp : 0 < p) : 0 < p + c.moveVar + c.noiseVar :=
  add_pos (add_pos hp (moveVar_pos c)) (noiseVar_pos c)

theorem gain_mem (hp : 0 < p) : gain c p ∈ Set.Icc 0 1 := by
  have hmove := moveVar_pos c
  have hnoise := noiseVar_pos c
  unfold gain
  exact ⟨by positivity, (div_le_one (total_pos c hp)).mpr (by linarith)⟩

theorem nextVariance_eq (hp : 0 < p) :
    nextVariance c p = (p + c.moveVar) * c.noiseVar / (p + c.moveVar + c.noiseVar) := by
  have htotal := (total_pos c hp).ne'
  unfold nextVariance gain
  field_simp
  ring

theorem nextVariance_pos (hp : 0 < p) : 0 < nextVariance c p := by
  rw [nextVariance_eq c hp]
  exact div_pos (mul_pos (add_pos hp (moveVar_pos c)) (noiseVar_pos c)) (total_pos c hp)

/-- No step divides by zero, and positive variances stay positive. -/
theorem learnsReturns : (forecaster c).LearnsReturns (seed c) (next c) (0 < ·.variance) where
  seed_eq _ _ := rfl
  step_eq {s} hs count r price := by
    show step c s r = .ok (next c s r)
    simp only [step, div?_of_pos (total_pos c hs)]
    rfl
  holds_seed _ := noiseVar_pos c
  holds_next hs _ := nextVariance_pos c hs

/-- The fixed point of the variance. -/
noncomputable def leastVariance : ℝ :=
  √((0.5 * c.moveVar) ^ 2 + c.moveVar * c.noiseVar) - 0.5 * c.moveVar

/-- It is the positive solution of a quadratic equation. -/
theorem leastVariance_eq :
    leastVariance c = (-c.moveVar + √(c.moveVar ^ 2 + 4 * c.moveVar * c.noiseVar)) / 2 := by
  have hscaled : c.moveVar ^ 2 + 4 * c.moveVar * c.noiseVar =
      2 ^ 2 * ((0.5 * c.moveVar) ^ 2 + c.moveVar * c.noiseVar) := by ring
  rw [hscaled, Real.sqrt_mul (by norm_num), Real.sqrt_sq (by norm_num)]
  unfold leastVariance
  ring

theorem leastVariance_mul :
    leastVariance c * (leastVariance c + c.moveVar) = c.moveVar * c.noiseVar := by
  have hmove := moveVar_pos c
  have hnoise := noiseVar_pos c
  have hroot := Real.sq_sqrt (x := (0.5 * c.moveVar) ^ 2 + c.moveVar * c.noiseVar) (by positivity)
  unfold leastVariance
  linear_combination hroot

theorem leastVariance_pos : 0 < leastVariance c :=
  sub_pos.mpr (Real.lt_sqrt_of_sq_lt
    (lt_add_of_pos_right _ (mul_pos (moveVar_pos c) (noiseVar_pos c))))

theorem leastVariance_lt_noiseVar : leastVariance c < c.noiseVar := by
  have hmul := leastVariance_mul c
  have hmove := moveVar_pos c
  have hnoise := noiseVar_pos c
  by_contra hge
  have hsquare := mul_le_mul_of_nonneg_left (not_lt.mp hge) (leastVariance_pos c).le
  nlinarith [not_lt.mp hge]

variable {c}

/-- Above its fixed point the variance falls. -/
theorem nextVariance_lt (h : leastVariance c < p) : nextVariance c p < p := by
  have hp : 0 < p := (leastVariance_pos c).trans h
  have hmul := leastVariance_mul c
  have hbelow : leastVariance c * (leastVariance c + c.moveVar) < p * (p + c.moveVar) :=
    mul_lt_mul'' h (by linarith) (leastVariance_pos c).le
      (add_pos (leastVariance_pos c) (moveVar_pos c)).le
  rw [nextVariance_eq c hp, div_lt_iff₀ (total_pos c hp)]
  linarith

/-- It does not fall to its fixed point. -/
theorem leastVariance_lt_nextVariance (h : leastVariance c < p) :
    leastVariance c < nextVariance c p := by
  have hp : 0 < p := (leastVariance_pos c).trans h
  have hmul := leastVariance_mul c
  -- The difference of the two sides is this product, up to the equation of the fixed point.
  have hgap : 0 < (p - leastVariance c) * (c.noiseVar - leastVariance c) :=
    mul_pos (sub_pos.mpr h) (sub_pos.mpr (leastVariance_lt_noiseVar c))
  rw [nextVariance_eq c hp, lt_div_iff₀ (total_pos c hp)]
  linarith

end Step

/-! ## All returns -/

section Run

variable (c : Settings ℝ) (r : ℕ → ℝ) (n : ℕ)

/-- The state after a first return and `n` further ones. -/
noncomputable def stateAfter : State ℝ := statesAfter (seed c) (next c) r n

theorem stateAfter_variance_pos : 0 < (stateAfter c r n).variance := (learnsReturns c).holds r n

/-- The variance after a first return and `n` further ones, whatever they are. -/
noncomputable def varianceAfter : ℕ → ℝ
  | 0 => c.noiseVar
  | n + 1 => nextVariance c (varianceAfter n)

theorem variance_stateAfter : (stateAfter c r n).variance = varianceAfter c n := by
  induction n with
  | zero => rfl
  | succ n ih => exact congrArg (nextVariance c) ih

theorem leastVariance_lt_varianceAfter : leastVariance c < varianceAfter c n := by
  induction n with
  | zero => exact leastVariance_lt_noiseVar c
  | succ n ih => exact leastVariance_lt_nextVariance ih

theorem varianceAfter_strictAnti : StrictAnti (varianceAfter c) :=
  strictAnti_nat_of_succ_lt fun n => nextVariance_lt (leastVariance_lt_varianceAfter c n)

/-- The level is between any two bounds of the returns. -/
theorem level_mem {lo hi : ℝ} (h : ∀ t ≤ n, r t ∈ Set.Icc lo hi) :
    (stateAfter c r n).level ∈ Set.Icc lo hi := by
  induction n with
  | zero => exact h 0 le_rfl
  | succ n ih =>
    have hlevel := ih fun t ht => h t (Nat.le_succ_of_le ht)
    have hgain := gain_mem c (stateAfter_variance_pos c r n)
    have hmixture := mixture_mem hgain (h (n + 1) le_rfl) hlevel
    rw [← level_next] at hmixture
    exact hmixture

/-- The sigma that is reported after a first return and `n` further ones. -/
noncomputable def sigmaAfter : ℝ := max c.minSigma √(varianceAfter c n + c.noiseVar)

theorem sigmaAfter_antitone : Antitone (sigmaAfter c) := fun _ _ h =>
  max_le_max_left c.minSigma
    (Real.sqrt_le_sqrt (add_le_add_left ((varianceAfter_strictAnti c).antitone h) c.noiseVar))

theorem sigmaAfter_mem : sigmaAfter c n ∈ Set.Icc (max c.minSigma √(leastVariance c + c.noiseVar))
    (max c.minSigma √(2 * c.noiseVar)) := by
  have hlower := (leastVariance_lt_varianceAfter c n).le
  have hupper : varianceAfter c n ≤ c.noiseVar :=
    (varianceAfter_strictAnti c).antitone (Nat.zero_le n)
  exact ⟨max_le_max_left _ (Real.sqrt_le_sqrt (by linarith)),
    max_le_max_left _ (Real.sqrt_le_sqrt (by linarith))⟩

end Run

/-! ## Predictors -/

open Predictor

section Predictors

variable (c : Settings ℝ) {place : Place} {ticks : List (Tick ℝ)} {r : ℕ → ℝ} {n : ℕ}

theorem hasFit_stateAfter (hr : place.returns ticks = firstReturns r n) :
    ((fresh (.localLevel c)).observeAll ticks).HasFit (.localLevel c) place
      { count := n + 1, state := stateAfter c r n } :=
  hasFit_of_returns (fun _ => learnsReturns c) rfl hr

theorem estimateAt_stateAfter (hr : place.returns ticks = firstReturns r n)
    (fallback : Estimate ℝ) :
    ((fresh (.localLevel c)).observeAll ticks).estimateAt place fallback =
      .ok { mu := (stateAfter c r n).level, sigma := sigmaAfter c n } := by
  have hsigma : max (sqrtPos ((stateAfter c r n).variance + c.noiseVar)) c.minSigma =
      sigmaAfter c n := by
    rw [sqrtPos_eq_sqrt, variance_stateAfter, max_comm]
    rfl
  rw [← hsigma]
  exact (hasFit_stateAfter c hr).estimateAt_of_forecast rfl

end Predictors

/--
**The variance and sigma of a local level fall** with every return, whatever the returns are: from
the variance of the noise toward the fixed point of the recursion, which is a strict lower bound.
The level is in the range of the returns.
-/
theorem variance_and_sigma_fall (c : Settings ℝ) :
    let Q := max c.processVar 1e-12
    let R := max c.measureVar 1e-12
    let least := (-Q + √(Q ^ 2 + 4 * Q * R)) / 2
    ∃ variance sigma : ℕ → ℝ, variance 0 = R ∧
      (∀ n, least < variance (n + 1) ∧ variance (n + 1) < variance n) ∧
      Antitone sigma ∧
      (∀ n, sigma n ∈ Set.Icc (max c.minSigma √(least + R)) (max c.minSigma √(2 * R))) ∧
      ∀ (instrument : String) (ticks : List (Tick ℝ)) (r : ℕ → ℝ) (n : ℕ),
        (Place.base instrument).returns ticks = firstReturns r n →
        let p := (fresh (.localLevel c)).observeAll ticks
        (∃ level, p.HasFit (.localLevel c) (.base instrument)
          { count := n + 1, state := { level, variance := variance n } }) ∧
        ∀ fallback, ∃ e, p.estimateBase instrument fallback = .ok e ∧
          (∃ i ≤ n, ∃ j ≤ n, e.mu ∈ Set.Icc (r i) (r j)) ∧ e.sigma = sigma n := by
  intro Q R least
  have hQ : c.moveVar = Q := moveVar_eq c
  have hR : c.noiseVar = R := noiseVar_eq c
  have hleast : leastVariance c = least := by rw [leastVariance_eq, hQ, hR]
  refine ⟨varianceAfter c, sigmaAfter c, hR, fun n => ⟨?_, ?_⟩, sigmaAfter_antitone c,
    fun n => ?_, fun instrument ticks r n hr => ⟨?_, fun fallback => ?_⟩⟩
  · exact hleast ▸ leastVariance_lt_varianceAfter c (n + 1)
  · exact varianceAfter_strictAnti c n.lt_succ_self
  · exact hleast ▸ hR ▸ sigmaAfter_mem c n
  · refine ⟨(stateAfter c r n).level, ?_⟩
    rw [← variance_stateAfter c r n]
    exact hasFit_stateAfter c hr
  · have hestimate := estimateAt_stateAfter c hr fallback
    rw [estimateAt_base] at hestimate
    refine ⟨_, hestimate, ?_, rfl⟩
    obtain ⟨i, hi, hmin⟩ := (Finset.range (n + 1)).exists_min_image r ⟨0, by simp⟩
    obtain ⟨j, hj, hmax⟩ := (Finset.range (n + 1)).exists_max_image r ⟨0, by simp⟩
    refine ⟨i, Finset.mem_range_succ_iff.mp hi, j, Finset.mem_range_succ_iff.mp hj, ?_⟩
    exact level_mem c r n fun t ht =>
      ⟨hmin t (Finset.mem_range_succ_iff.mpr ht), hmax t (Finset.mem_range_succ_iff.mpr ht)⟩

/-- The sigma after two returns is not above the one after the first of them. -/
theorem variance_and_sigma_fall_two_returns :
    let fed (prices : List ℝ) := (fresh (.localLevel standard)).feed "BTC" prices
    ∃ e e', (fed [100, 101]).estimateBase "BTC" { mu := 0, sigma := 0 } = .ok e ∧
      (fed [100, 101, 103]).estimateBase "BTC" { mu := 0, sigma := 0 } = .ok e' ∧
      e'.sigma ≤ e.sigma := by
  intro fed
  obtain ⟨variance, sigma, -, -, hfall, -, hruns⟩ :=
    variance_and_sigma_fall (standard : Settings ℝ)
  have hone := Place.valid_of_cent_le (by norm_num : ∀ x ∈ ([100, 101] : List ℝ), 1 / 100 ≤ x)
  have htwo := Place.valid_of_cent_le
    (by norm_num : ∀ x ∈ ([100, 101, 103] : List ℝ), 1 / 100 ≤ x)
  have hr := (Place.returns_map_price "BTC" hone).trans (eq_firstReturns (n := 0) rfl 0)
  have hr' := (Place.returns_map_price "BTC" htwo).trans (eq_firstReturns (n := 1) rfl 0)
  obtain ⟨e, he, -, hsigma⟩ := (hruns "BTC" _ _ 0 hr).2 { mu := 0, sigma := 0 }
  obtain ⟨e', he', -, hsigma'⟩ := (hruns "BTC" _ _ 1 hr').2 { mu := 0, sigma := 0 }
  refine ⟨e, e', he, he', ?_⟩
  rw [hsigma, hsigma']
  exact hfall (Nat.zero_le 1)

end ReturnForecast.LocalLevel
