import ReturnForecast.Proofs.Expectancy.Readers

/-!
# Expectancy in another currency unit

Of an amount, a window asks its sign and whether it reaches the threshold, and it averages and sorts
amounts. With every amount multiplied by one positive number, the threshold and the fee included,
the same trades are wins, losses and tail losses, and every figure in money is multiplied too.

* `tailLosses_inUnit`, `averages_inUnit`, `lossAtRank_inUnit` — the queries that look at amounts
* `snapshot_inUnit` — the snapshot of two windows
* `estimate_in_other_unit` — the same for an estimator
-/

namespace ReturnForecast

/-! ## Quantiles of multiples -/

theorem itemAt?_map {β γ : Type} (f : β → γ) (xs : List β) (index : Int) :
    itemAt? (xs.map f) index = (itemAt? xs index).map f := by
  unfold itemAt?
  rw [List.length_map]
  split
  · exact List.getElem?_map
  · simp only
    split
    · exact List.getElem?_map
    · rfl

/-- A quantile of multiples is the multiple of the quantile. -/
theorem nearestRank_map_mul (k : ℝ) (ascending : List ℝ) (q : ℝ) :
    nearestRank (ascending.map (k * ·)) q = (nearestRank ascending q).map (k * ·) := by
  unfold nearestRank
  rw [List.isEmpty_map, List.length_map]
  split
  · exact congrArg Except.ok (mul_zero k).symm
  · cases floor? ((ascending.length : ℝ) * q) with
    | error fault => rfl
    | ok rank =>
      simp only [bind, Except.bind, itemAt?_map]
      cases itemAt? ascending (min rank (Int.ofNat ascending.length - 1)) with
      | none => rfl
      | some x => rfl

/-! ## Windows -/

/-- The trade with its amount in another unit, of which `unit` make up one of the old. -/
def TradeSample.inUnit (unit : ℝ) (s : TradeSample ℝ) : TradeSample ℝ :=
  { s with pnl := unit * s.pnl }

namespace TradeWindow

/-- The window with its amounts in another unit. -/
def inUnit (unit : ℝ) (w : TradeWindow ℝ) : TradeWindow ℝ := w.map (·.inUnit unit)

section InUnit

variable (unit : ℝ) (w : TradeWindow ℝ) (rate : ℝ)

/-! ### What does not look at amounts -/

theorem weight_inUnit : (w.inUnit unit).weight rate = w.weight rate :=
  weight_congr (by simp [inUnit, TradeSample.inUnit])

theorem medianHoldingMs_inUnit : (w.inUnit unit).medianHoldingMs = w.medianHoldingMs :=
  medianHoldingMs_congr (by simp [inUnit, TradeSample.inUnit])

theorem timeoutShare_inUnit (thresholdMs : Int) :
    (w.inUnit unit).timeoutShare thresholdMs = w.timeoutShare thresholdMs :=
  timeoutShare_congr (by simp [inUnit, TradeSample.inUnit]) thresholdMs

theorem weightedSum_inUnit {amount : TradeSample ℝ → ℝ}
    (h : ∀ s ∈ w, amount (s.inUnit unit) = unit * amount s) :
    (w.inUnit unit).weightedSum rate amount = unit * w.weightedSum rate amount := by
  refine weightedSum_map fun s hs => ?_
  rw [h s hs, mul_assoc]
  rfl

/-! ### What does -/

variable {unit} (hunit : 0 < unit)

include hunit

theorem wins_inUnit : (w.inUnit unit).wins = w.wins.inUnit unit := by
  refine filter_map_of_alike fun s _ => ?_
  rw [decide_eq_decide]
  exact mul_pos_iff_of_pos_left hunit

theorem losses_inUnit : (w.inUnit unit).losses = w.losses.inUnit unit := by
  refine filter_map_of_alike fun s _ => ?_
  rw [decide_eq_decide]
  have hneg := mul_lt_mul_iff_right₀ (b := s.pnl) (c := 0) hunit
  rwa [mul_zero] at hneg

theorem notGains_inUnit : (w.inUnit unit).notGains = w.notGains.inUnit unit := by
  refine filter_map_of_alike fun s _ => ?_
  rw [Bool.not_inj_iff, decide_eq_decide]
  exact mul_nonneg_iff_of_pos_left hunit

theorem tailLosses_inUnit (threshold : ℝ) :
    (w.inUnit unit).tailLosses (unit * threshold) = (w.tailLosses threshold).inUnit unit := by
  unfold tailLosses
  rw [notGains_inUnit w hunit]
  refine filter_map_of_alike fun s _ => ?_
  rw [decide_eq_decide, ← mul_neg]
  exact mul_le_mul_iff_right₀ hunit

theorem winPosterior_inUnit (a b : ℝ) :
    (w.inUnit unit).winPosterior rate a b = w.winPosterior rate a b := by
  unfold winPosterior winLoss
  rw [wins_inUnit w hunit, losses_inUnit w hunit, weight_inUnit, weight_inUnit]

theorem tailPosterior_inUnit (threshold a b : ℝ) :
    (w.inUnit unit).tailPosterior rate (unit * threshold) a b =
      w.tailPosterior rate threshold a b := by
  unfold tailPosterior tailEvents
  rw [tailLosses_inUnit w hunit, notGains_inUnit w hunit, weight_inUnit, weight_inUnit]

/-- The guards of the averages are on weights, which have no unit. -/
theorem averages_inUnit : (w.inUnit unit).averages rate =
    (unit * (w.averages rate).1, unit * (w.averages rate).2) := by
  have hmul (x y : ℝ) : ratioAbove epsilon (unit * x) y = unit * ratioAbove epsilon x y := by
    unfold ratioAbove
    split
    · exact mul_div_assoc unit x y
    · exact (mul_zero unit).symm
  have hwins : (w.wins.inUnit unit).weightedSum rate (·.pnl) =
      unit * w.wins.weightedSum rate (·.pnl) :=
    weightedSum_inUnit unit w.wins rate fun _ _ => rfl
  have hlosses : (w.losses.inUnit unit).weightedSum rate (fun s => |s.pnl|) =
      unit * w.losses.weightedSum rate fun s => |s.pnl| :=
    weightedSum_inUnit unit w.losses rate fun s _ => by
      rw [TradeSample.inUnit, abs_mul, abs_of_pos hunit]
  unfold averages
  rw [wins_inUnit w hunit, losses_inUnit w hunit, weight_inUnit, weight_inUnit, hwins, hmul]
  exact congrArg (Prod.mk _) ((congrArg (ratioAbove epsilon · _) hlosses).trans (hmul _ _))

theorem lossSizes_inUnit : (w.inUnit unit).lossSizes = w.lossSizes.map (unit * ·) := by
  have hsizes : (w.losses.inUnit unit).map (fun s => |s.pnl|) =
      (w.losses.map fun s => |s.pnl|).map (unit * ·) := by
    simp [inUnit, TradeSample.inUnit, abs_mul, abs_of_pos hunit]
  have hsort := List.map_mergeSort (r := fun a b : ℝ => decide (a ≤ b))
    (s := fun a b : ℝ => decide (a ≤ b)) (f := (unit * ·)) (l := w.losses.map fun s => |s.pnl|)
    fun a _ b _ => decide_eq_decide.mpr (mul_le_mul_iff_right₀ hunit).symm
  unfold lossSizes
  rw [losses_inUnit w hunit]
  exact (congrArg (List.mergeSort · _) hsizes).trans hsort.symm

theorem lossAtRank_inUnit : (w.inUnit unit).lossAtRank = w.lossAtRank.map (unit * ·) := by
  unfold lossAtRank
  rw [lossSizes_inUnit w hunit, nearestRank_map_mul]

end InUnit

end TradeWindow

/-! ## Snapshots -/

/-- The snapshot with its amounts in another unit; probabilities and times have none. -/
def Snapshot.inUnit (unit : ℝ) (s : Snapshot ℝ) : Snapshot ℝ :=
  { s with
    expectedReturn := unit * s.expectedReturn
    worstCaseLoss := unit * s.worstCaseLoss
    feePenalty := unit * s.feePenalty }

namespace Expectancy

open TradeWindow

/-- The settings with their amounts in another unit. -/
def Settings.inUnit (unit : ℝ) (c : Settings ℝ) : Settings ℝ :=
  { c with lossThreshold := unit * c.lossThreshold, feePenalty := unit * c.feePenalty }

section InUnit

variable {unit : ℝ} (hunit : 0 < unit) (c : Settings ℝ) (own all : TradeWindow ℝ)

include hunit

theorem winChance_inUnit :
    winChance (c.inUnit unit) (own.inUnit unit) (all.inUnit unit) = winChance c own all := by
  unfold winChance effectiveCount
  simp only [winPosterior_inUnit _ _ hunit, weight_inUnit]
  rfl

/-- **The snapshot in another unit is the snapshot, in that unit.** -/
theorem snapshot_inUnit (nowMs : Int) :
    snapshot (c.inUnit unit) (own.inUnit unit) (all.inUnit unit) nowMs =
      (snapshot c own all nowMs).map (·.inUnit unit) := by
  obtain ⟨worst, hworst, -⟩ := own.exists_lossAtRank
  have htail : tailPosterior (own.inUnit unit) (c.inUnit unit).recencyRate
      (c.inUnit unit).lossThreshold (c.inUnit unit).tailPriorA (c.inUnit unit).tailPriorB =
      own.tailPosterior c.recencyRate c.lossThreshold c.tailPriorA c.tailPriorB :=
    tailPosterior_inUnit own _ hunit _ _ _
  unfold snapshot effectiveCount
  rw [winChance_inUnit hunit, htail, averages_inUnit own _ hunit, lossAtRank_inUnit own hunit,
    hworst, medianHoldingMs_inUnit, timeoutShare_inUnit, weight_inUnit]
  have hreturn (win gain loss fee tail worst : ℝ) :
      win * (unit * gain) - (1 - win) * (unit * loss) - unit * fee - tail * (unit * worst) =
        unit * (win * gain - (1 - win) * loss - fee - tail * worst) := by ring
  refine congrArg Except.ok ?_
  unfold Snapshot.inUnit
  -- Of the figures only the expected return is computed anew.
  congr 1
  exact hreturn _ _ _ _ _ _

end InUnit

/-! ## Estimators -/

/--
**Estimates do not depend on the currency unit.** Where every amount of the windows and of the
settings is multiplied by one positive number, the three amounts of the snapshot are multiplied by
it, and its probabilities, the evidence behind them and its holding time stay as they are.
-/
theorem estimate_in_other_unit {unit : ℝ} (hunit : 0 < unit) (e e' : Estimator ℝ)
    (hsettings : e'.settings = e.settings.inUnit unit) (tag instrument : String) (nowMs : Int)
    {own all : TradeWindow ℝ} (hown : e.reader.localWindow tag instrument e.depth = .ok own)
    (hall : e.reader.globalWindow tag e.depth = .ok all)
    (hown' : e'.reader.localWindow tag instrument e'.depth = .ok (own.inUnit unit))
    (hall' : e'.reader.globalWindow tag e'.depth = .ok (all.inUnit unit)) :
    ∃ s s', e.estimate tag instrument nowMs = .ok s ∧
      e'.estimate tag instrument nowMs = .ok s' ∧
      s'.expectedReturn = unit * s.expectedReturn ∧
      s'.worstCaseLoss = unit * s.worstCaseLoss ∧
      s'.feePenalty = unit * s.feePenalty ∧
      s'.probability = s.probability ∧
      s'.expectedHoldingMs = s.expectedHoldingMs := by
  obtain ⟨s, hs⟩ := exists_snapshot e.settings own all nowMs
  have hs' := snapshot_inUnit hunit e.settings own all nowMs
  rw [hs, ← hsettings] at hs'
  exact ⟨s, s.inUnit unit, (estimate_of_windows hown hall nowMs).trans hs,
    (estimate_of_windows hown' hall' nowMs).trans hs', rfl, rfl, rfl, rfl, rfl⟩

/-- A win, a tail loss, a small loss and a trade that breaks even, in euros and in cents. -/
theorem estimate_in_other_unit_cents :
    let own : TradeWindow ℝ := [{ ageDays := 0, pnl := 12, holdingMs := 60000 },
      { ageDays := 3, pnl := -20, holdingMs := 0 }, { ageDays := -1, pnl := 0, holdingMs := 1 },
      { ageDays := 400, pnl := -0.5, holdingMs := 7200000 }]
    let c : Settings ℝ := { Settings.standard with feePenalty := 0.25 }
    let among (c : Settings ℝ) (own all : TradeWindow ℝ) : Estimator ℝ :=
      { settings := c
        reader := { localWindow := fun _ _ _ => .ok own, globalWindow := fun _ _ => .ok all }
        lookback := 4 }
    (c.inUnit 100).lossThreshold = 1500 ∧ (c.inUnit 100).feePenalty = 25 ∧
    ∃ s s', (among c own []).estimate "breakout" "BTC" 0 = .ok s ∧
      (among (c.inUnit 100) (own.inUnit 100) []).estimate "breakout" "BTC" 0 = .ok s' ∧
      s'.expectedReturn = 100 * s.expectedReturn ∧ s'.worstCaseLoss = 100 * s.worstCaseLoss ∧
      s'.feePenalty = 100 * s.feePenalty ∧ s'.probability = s.probability ∧
      s'.expectedHoldingMs = s.expectedHoldingMs := by
  intro own c among
  refine ⟨?_, ?_, ?_⟩
  · norm_num [c, Settings.inUnit, Settings.standard]
  · norm_num [c, Settings.inUnit]
  · exact estimate_in_other_unit (by norm_num) (among c own [])
      (among (c.inUnit 100) (own.inUnit 100) []) rfl "breakout" "BTC" 0 rfl rfl rfl rfl

end Expectancy

end ReturnForecast
