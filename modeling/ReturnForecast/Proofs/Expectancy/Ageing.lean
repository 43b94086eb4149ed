import ReturnForecast.Proofs.Expectancy.WinShare

/-!
# Windows that age

When every trade of a window is some days older, each weight shrinks by the same factor. Counts of
trades shrink with it, posteriors move toward the means of their priors, averages keep their value
until the weight behind them vanishes, and what counts each trade once does not change.

* `weight_aged` — one factor for all weights
* `posterior_of_less` — a posterior with less evidence of the same kind
* `ageing_weakens` — all queries of a window that ages
-/

namespace ReturnForecast

/-! ## Levels of confidence -/

/-- The levels in ascending order. -/
def Confidence.rank : Confidence → ℕ
  | low => 0
  | medium => 1
  | high => 2

theorem Confidence.rank_ofCount_mono {x y : ℝ} (h : x ≤ y) :
    (Confidence.ofCount x).rank ≤ (Confidence.ofCount y).rank := by
  unfold ofCount
  by_cases hhigh : (80.0 : ℝ) ≤ x
  · rw [if_pos hhigh, if_pos (hhigh.trans h)]
  · rw [if_neg hhigh]
    by_cases hmedium : (20.0 : ℝ) ≤ x
    · rw [if_pos hmedium, if_pos (hmedium.trans h)]
      split
      · decide
      · exact le_rfl
    · rw [if_neg hmedium]
      exact Nat.zero_le _

/-! ## Weights -/

/-- The part of its weight that a trade keeps over some days. -/
noncomputable def keptShare (rate days : ℝ) : ℝ := Real.exp (-max rate 0 * days)

theorem keptShare_pos (rate days : ℝ) : 0 < keptShare rate days := Real.exp_pos _

theorem keptShare_le_one (rate : ℝ) {days : ℝ} (hdays : 0 ≤ days) : keptShare rate days ≤ 1 := by
  rw [keptShare, Real.exp_le_one_iff, neg_mul, neg_nonpos]
  exact mul_nonneg (le_max_right rate 0) hdays

theorem recencyWeight_add {age days : ℝ} (hage : 0 ≤ age) (hdays : 0 ≤ days) (rate : ℝ) :
    recencyWeight (age + days) rate = keptShare rate days * recencyWeight age rate := by
  unfold recencyWeight
  rw [larger_eq_max, larger_eq_max, larger_eq_max, max_eq_left hage,
    max_eq_left (add_nonneg hage hdays), mul_add, add_comm]
  exact Real.exp_add _ _

/-! ## Posteriors -/

namespace TradeWindow

section Posterior

variable {a b hits others share : ℝ} (hab : 1e-9 ≤ a + b) (hhits : 0 ≤ hits)
  (hothers : 0 ≤ others) (hshare : 0 < share)

include hab hhits hothers hshare

/-- With a share of the evidence, the distance from the mean of the prior has one more factor. -/
theorem posterior_of_less_sub : posterior a b (share * hits) (share * others) - a / (a + b) =
    share * (a + b + hits + others) / (a + b + share * hits + share * others) *
      (posterior a b hits others - a / (a + b)) := by
  have hprior : 0 < a + b := lt_of_lt_of_le (by norm_num) hab
  have hall : 0 < a + b + hits + others := by linarith
  have hless : 0 < a + b + share * hits + share * others := by positivity
  rw [posterior_eq hab (by positivity) (by positivity), posterior_eq hab hhits hothers]
  field_simp
  ring

/-- **Less evidence of the same kind leaves a posterior no further from the mean of its prior.** -/
theorem posterior_of_less (hle : share ≤ 1) :
    |posterior a b (share * hits) (share * others) - a / (a + b)| ≤
      |posterior a b hits others - a / (a + b)| := by
  have hprior : 0 < a + b := lt_of_lt_of_le (by norm_num) hab
  have hless : 0 < a + b + share * hits + share * others := by positivity
  have hfactor : 0 ≤ share * (a + b + hits + others) /
      (a + b + share * hits + share * others) := by positivity
  rw [posterior_of_less_sub hab hhits hothers hshare, abs_mul, abs_of_nonneg hfactor]
  refine mul_le_of_le_one_left (abs_nonneg _) ((div_le_one hless).mpr ?_)
  -- The evidence shrinks, but the prior keeps its weight.
  have hkept : share * (a + b) ≤ a + b := mul_le_of_le_one_left hprior.le hle
  linarith

end Posterior

/-- The posterior of a tail loss, by losses that are tail losses and others. -/
theorem tailPosterior_eq (w : TradeWindow ℝ) (rate threshold a b : ℝ) :
    w.tailPosterior rate threshold a b = posterior a b (w.tailEvents rate threshold).1
      ((w.tailEvents rate threshold).2 - (w.tailEvents rate threshold).1) := by
  unfold tailPosterior posterior
  rw [add_assoc (a + b), add_sub_cancel]

end TradeWindow

/-! ## Windows -/

/-- The trade, some days later. -/
def TradeSample.aged (days : ℝ) (s : TradeSample ℝ) : TradeSample ℝ :=
  { s with ageDays := s.ageDays + days }

namespace TradeWindow

/-- The window, some days later. -/
def aged (days : ℝ) (w : TradeWindow ℝ) : TradeWindow ℝ := w.map (·.aged days)

variable {w : TradeWindow ℝ} {days : ℝ}

/-- Which trades a window has does not depend on their ages. -/
theorem filter_aged {keep : TradeSample ℝ → Bool} (h : ∀ s, keep (s.aged days) = keep s) :
    List.filter keep (w.aged days) = aged days (w.filter keep) :=
  filter_map_of_alike fun s _ => h s

theorem wins_aged : (w.aged days).wins = w.wins.aged days := filter_aged fun _ => rfl

theorem losses_aged : (w.aged days).losses = w.losses.aged days := filter_aged fun _ => rfl

theorem notGains_aged : (w.aged days).notGains = w.notGains.aged days := filter_aged fun _ => rfl

theorem tailLosses_aged (threshold : ℝ) :
    (w.aged days).tailLosses threshold = (w.tailLosses threshold).aged days := by
  unfold tailLosses
  rw [notGains_aged]
  exact filter_aged fun _ => rfl

theorem map_pnl_aged : (w.aged days).map (·.pnl) = w.map (·.pnl) := by
  simp [aged, TradeSample.aged]

theorem map_holdingMs_aged : (w.aged days).map (·.holdingMs) = w.map (·.holdingMs) := by
  simp [aged, TradeSample.aged]

section Aged

variable (hages : ∀ s ∈ w, 0 ≤ s.ageDays) (hdays : 0 ≤ days) (rate : ℝ)

include hages

theorem ages_filter (keep : TradeSample ℝ → Bool) : ∀ s ∈ w.filter keep, 0 ≤ s.ageDays :=
  fun s hs => hages s (List.mem_of_mem_filter hs)

include hdays

/-! ### Sums -/

theorem weightedSum_aged {amount : TradeSample ℝ → ℝ} (h : ∀ s, amount (s.aged days) = amount s) :
    (w.aged days).weightedSum rate amount = keptShare rate days * w.weightedSum rate amount := by
  refine weightedSum_map fun s hs => ?_
  rw [h s, mul_left_comm]
  exact congrArg (amount s * ·) (recencyWeight_add (hages s hs) hdays rate)

/-- **All weights shrink by one factor.** -/
theorem weight_aged : (w.aged days).weight rate = keptShare rate days * w.weight rate := by
  rw [weight_eq_weightedSum, weight_eq_weightedSum]
  exact weightedSum_aged hages hdays rate fun _ => rfl

/-- A mean keeps its value as long as there is enough weight behind it. -/
theorem ratioAbove_aged {amount : TradeSample ℝ → ℝ} (h : ∀ s, amount (s.aged days) = amount s) :
    ratioAbove epsilon ((w.aged days).weightedSum rate amount) ((w.aged days).weight rate) =
      if epsilon < (w.aged days).weight rate
      then ratioAbove epsilon (w.weightedSum rate amount) (w.weight rate) else 0 := by
  have hweight := weight_aged hages hdays rate
  unfold ratioAbove
  split
  · next hkept =>
    have hless : (w.aged days).weight rate ≤ w.weight rate := by
      rw [hweight]
      exact mul_le_of_le_one_left (weight_nonneg w rate) (keptShare_le_one rate hdays)
    rw [if_pos (hkept.trans_le hless), hweight, weightedSum_aged hages hdays rate h,
      mul_div_mul_left _ _ (keptShare_pos rate days).ne']
  · rfl

/-! ### Queries -/

theorem winLoss_aged : (w.aged days).winLoss rate =
    (keptShare rate days * (w.winLoss rate).1, keptShare rate days * (w.winLoss rate).2) := by
  have hwins : ∀ s ∈ w.wins, 0 ≤ s.ageDays := ages_filter hages _
  have hlosses : ∀ s ∈ w.losses, 0 ≤ s.ageDays := ages_filter hages _
  unfold winLoss
  rw [wins_aged, losses_aged, weight_aged hwins hdays rate, weight_aged hlosses hdays rate]

theorem tailEvents_aged (threshold : ℝ) : (w.aged days).tailEvents rate threshold =
    (keptShare rate days * (w.tailEvents rate threshold).1,
      keptShare rate days * (w.tailEvents rate threshold).2) := by
  have hlosses : ∀ s ∈ w.notGains, 0 ≤ s.ageDays := ages_filter hages _
  have htail : ∀ s ∈ w.tailLosses threshold, 0 ≤ s.ageDays := ages_filter hlosses _
  unfold tailEvents
  rw [tailLosses_aged, notGains_aged, weight_aged htail hdays rate,
    weight_aged hlosses hdays rate]

theorem averages_aged : (w.aged days).averages rate =
    (if epsilon < ((w.aged days).winLoss rate).1 then (w.averages rate).1 else 0,
      if epsilon < ((w.aged days).winLoss rate).2 then (w.averages rate).2 else 0) := by
  have hwins : ∀ s ∈ w.wins, 0 ≤ s.ageDays := ages_filter hages _
  have hlosses : ∀ s ∈ w.losses, 0 ≤ s.ageDays := ages_filter hages _
  unfold averages winLoss
  rw [wins_aged, losses_aged]
  exact Prod.ext (ratioAbove_aged hwins hdays rate fun _ => rfl)
    (ratioAbove_aged hlosses hdays rate fun _ => rfl)

theorem winPosterior_aged {a b : ℝ} (hab : 1e-9 ≤ a + b) :
    |(w.aged days).winPosterior rate a b - a / (a + b)| ≤
      |w.winPosterior rate a b - a / (a + b)| := by
  unfold winPosterior
  rw [winLoss_aged hages hdays rate]
  exact posterior_of_less hab (weight_nonneg _ _) (weight_nonneg _ _) (keptShare_pos rate days)
    (keptShare_le_one rate hdays)

theorem tailPosterior_aged (threshold : ℝ) {a b : ℝ} (hab : 1e-9 ≤ a + b) :
    |(w.aged days).tailPosterior rate threshold a b - a / (a + b)| ≤
      |w.tailPosterior rate threshold a b - a / (a + b)| := by
  rw [tailPosterior_eq, tailPosterior_eq, tailEvents_aged hages hdays rate, ← mul_sub]
  exact posterior_of_less hab (weight_nonneg _ _) (sub_nonneg.mpr (weight_filter_le _ _ _))
    (keptShare_pos rate days) (keptShare_le_one rate hdays)

end Aged

/-! ## What ageing does -/

/-- What the queries of a window say some days later. -/
structure WeakerAfter (days rate : ℝ) (w : TradeWindow ℝ) : Prop where
  effectiveCount : (w.aged days).effectiveCount rate =
    Real.exp (-max rate 0 * days) * w.effectiveCount rate
  wins : ((w.aged days).winLoss rate).1 = Real.exp (-max rate 0 * days) * (w.winLoss rate).1
  losses : ((w.aged days).winLoss rate).2 = Real.exp (-max rate 0 * days) * (w.winLoss rate).2
  tailLosses (threshold : ℝ) : ((w.aged days).tailEvents rate threshold).1 =
    Real.exp (-max rate 0 * days) * (w.tailEvents rate threshold).1
  allLosses (threshold : ℝ) : ((w.aged days).tailEvents rate threshold).2 =
    Real.exp (-max rate 0 * days) * (w.tailEvents rate threshold).2
  confidence : (Confidence.ofCount ((w.aged days).effectiveCount rate)).rank ≤
    (Confidence.ofCount (w.effectiveCount rate)).rank
  winPosterior (a b : ℝ) : 1e-9 ≤ a + b →
    |(w.aged days).winPosterior rate a b - a / (a + b)| ≤ |w.winPosterior rate a b - a / (a + b)|
  tailPosterior (threshold a b : ℝ) : 1e-9 ≤ a + b →
    |(w.aged days).tailPosterior rate threshold a b - a / (a + b)| ≤
      |w.tailPosterior rate threshold a b - a / (a + b)|
  averageWin : ((w.aged days).averages rate).1 =
    if epsilon < ((w.aged days).winLoss rate).1 then (w.averages rate).1 else 0
  averageLoss : ((w.aged days).averages rate).2 =
    if epsilon < ((w.aged days).winLoss rate).2 then (w.averages rate).2 else 0
  medianHoldingMs : (w.aged days).medianHoldingMs = w.medianHoldingMs
  lossAtRank : (w.aged days).lossAtRank = w.lossAtRank
  timeoutShare (thresholdMs : Int) :
    (w.aged days).timeoutShare thresholdMs = w.timeoutShare thresholdMs

/--
**Ageing only weakens the evidence.** Some days later all weights are smaller by one factor: no
level of confidence is higher, no posterior is further from the mean of its prior, and no average
has changed unless the weight behind it is gone. What counts each trade once stays as it is.
-/
theorem ageing_weakens (hages : ∀ s ∈ w, 0 ≤ s.ageDays) (hdays : 0 ≤ days) (rate : ℝ) :
    WeakerAfter days rate w where
  effectiveCount := weight_aged hages hdays rate
  wins := congrArg Prod.fst (winLoss_aged hages hdays rate)
  losses := congrArg Prod.snd (winLoss_aged hages hdays rate)
  tailLosses threshold := congrArg Prod.fst (tailEvents_aged hages hdays rate threshold)
  allLosses threshold := congrArg Prod.snd (tailEvents_aged hages hdays rate threshold)
  confidence := by
    refine Confidence.rank_ofCount_mono ?_
    unfold TradeWindow.effectiveCount
    rw [weight_aged hages hdays rate]
    exact mul_le_of_le_one_left (weight_nonneg w rate) (keptShare_le_one rate hdays)
  winPosterior _ _ hab := winPosterior_aged hages hdays rate hab
  tailPosterior threshold _ _ hab := tailPosterior_aged hages hdays rate threshold hab
  averageWin := congrArg Prod.fst (averages_aged hages hdays rate)
  averageLoss := congrArg Prod.snd (averages_aged hages hdays rate)
  medianHoldingMs := medianHoldingMs_congr map_holdingMs_aged
  lossAtRank := lossAtRank_congr map_pnl_aged
  timeoutShare := timeoutShare_congr map_holdingMs_aged

/-- A win, two losses and a trade that breaks even, a month later. -/
theorem ageing_weakens_month :
    let w : TradeWindow ℝ := [{ ageDays := 0, pnl := 12, holdingMs := 60000 },
      { ageDays := 3, pnl := -20, holdingMs := 0 }, { ageDays := 1.5, pnl := 0, holdingMs := 1 },
      { ageDays := 40, pnl := -5, holdingMs := 7200000 }]
    (∀ s ∈ w, 0 ≤ s.ageDays) ∧ (0 : ℝ) ≤ 30 ∧ (1e-9 : ℝ) ≤ 3 + 7 ∧
      WeakerAfter 30 0.08 w ∧
      |(w.aged 30).tailPosterior 0.08 15 3 7 - 3 / (3 + 7)| ≤
        |w.tailPosterior 0.08 15 3 7 - 3 / (3 + 7)| := by
  intro w
  have hages : ∀ s ∈ w, 0 ≤ s.ageDays := by
    simp only [w, List.forall_mem_cons]
    norm_num
  have hprior : (1e-9 : ℝ) ≤ 3 + 7 := by norm_num
  have hweaker : WeakerAfter 30 0.08 w := ageing_weakens hages (by norm_num) 0.08
  exact ⟨hages, by norm_num, hprior, hweaker, hweaker.tailPosterior 15 3 7 hprior⟩

end TradeWindow

end ReturnForecast
