import ReturnForecast.Proofs.Scalar.Averages
import ReturnForecast.Proofs.Expectancy.Window

/-!
# Bounds of a snapshot

Over exact reals a snapshot keeps its figures in their ranges, whatever the windows hold: the
probabilities in the unit interval, the amounts between the largest win and the largest loss.

* `winChance_mem` — the chance of a win, a mean of two posteriors
* `averageReturn_mem` — what wins and losses give by a probability
* `exists_snapshot_inRange` — a snapshot of two windows always exists, and keeps its ranges
* `estimate_inRange` — so does that of an estimator
-/

namespace ReturnForecast

/-! ## Shares -/

/-- A share of at least as much is in the unit interval, also where little stands below it. -/
theorem div_larger_mem_unit {part whole least : ℝ} (hleast : 0 < least) (hpart : 0 ≤ part)
    (h : part ≤ whole) : part / larger whole least ∈ Set.Icc 0 1 := by
  rw [larger_eq_max]
  have hpos : 0 < max whole least := hleast.trans_le (le_max_right _ _)
  exact ⟨div_nonneg hpart hpos.le, (div_le_one₀ hpos).mpr (h.trans (le_max_left _ _))⟩

theorem mul_mem_of_unit {p x bound : ℝ} (hp : p ∈ Set.Icc 0 1) (hx : x ∈ Set.Icc 0 bound) :
    p * x ∈ Set.Icc 0 bound :=
  ⟨mul_nonneg hp.1 hx.1, (mul_le_of_le_one_left hx.1 hp.2).trans hx.2⟩

/-- The largest of some amounts, zero if there is none above it. -/
noncomputable def largest (xs : List ℝ) : ℝ := xs.foldr max 0

theorem largest_nonneg : ∀ xs : List ℝ, 0 ≤ largest xs
  | [] => le_rfl
  | _ :: xs => le_max_of_le_right (largest_nonneg xs)

theorem le_largest {x : ℝ} : ∀ {xs : List ℝ}, x ∈ xs → x ≤ largest xs
  | _ :: xs, h => by
    rcases List.mem_cons.mp h with rfl | h
    · exact le_max_left _ _
    · exact le_max_of_le_right (le_largest h)

namespace TradeWindow

/-! ## Probabilities -/

section Probabilities

variable (w : TradeWindow ℝ) (rate : ℝ) {a b : ℝ}

theorem winPosterior_mem (ha : 0 ≤ a) (hb : 0 ≤ b) : w.winPosterior rate a b ∈ Set.Icc 0 1 := by
  have hwins : 0 ≤ w.wins.weight rate := weight_nonneg _ _
  have hlosses : 0 ≤ w.losses.weight rate := weight_nonneg _ _
  refine div_larger_mem_unit (by norm_num) (add_nonneg ha hwins) ?_
  show a + w.wins.weight rate ≤ a + b + w.wins.weight rate + w.losses.weight rate
  linarith

theorem tailPosterior_mem (threshold : ℝ) (ha : 0 ≤ a) (hb : 0 ≤ b) :
    w.tailPosterior rate threshold a b ∈ Set.Icc 0 1 := by
  have htail : 0 ≤ (w.tailLosses threshold).weight rate := weight_nonneg _ _
  have hlosses : (w.tailLosses threshold).weight rate ≤ w.notGains.weight rate :=
    weight_filter_le _ _ _
  refine div_larger_mem_unit (by norm_num) (add_nonneg ha htail) ?_
  show a + (w.tailLosses threshold).weight rate ≤ a + b + w.notGains.weight rate
  linarith

theorem timeoutShare_mem (thresholdMs : Int) : w.timeoutShare thresholdMs ∈ Set.Icc (0 : ℝ) 1 := by
  unfold timeoutShare
  split
  · constructor <;> norm_num
  · refine ⟨div_nonneg (Nat.cast_nonneg _) (Nat.cast_nonneg _), ?_⟩
    exact div_le_one_of_le₀ (Nat.cast_le.mpr List.countP_le_length) (Nat.cast_nonneg _)

end Probabilities

/-! ## Amounts -/

variable {w : TradeWindow ℝ}

variable (w) in
/-- The largest win, zero if there is none. -/
noncomputable def largestWin : ℝ := largest (w.wins.map (·.pnl))

variable (w) in
/-- The largest absolute loss, zero if there is none. -/
noncomputable def largestLoss : ℝ := largest (w.losses.map fun s => |s.pnl|)

theorem abs_pnl_le_largestLoss {s : TradeSample ℝ} (hs : s ∈ w) (hneg : s.pnl < 0) :
    |s.pnl| ≤ w.largestLoss :=
  le_largest (List.mem_map.mpr ⟨s, List.mem_filter.mpr ⟨hs, decide_eq_true hneg⟩, rfl⟩)

theorem averages_mem (w : TradeWindow ℝ) (rate : ℝ) :
    (w.averages rate).1 ∈ Set.Icc 0 w.largestWin ∧
      (w.averages rate).2 ∈ Set.Icc 0 w.largestLoss := by
  constructor
  · refine ratioAbove_weightedSum_mem (largest_nonneg _) fun s hs => ?_
    have hpos : 0 < s.pnl := of_decide_eq_true (List.mem_filter.mp hs).2
    exact ⟨hpos.le, le_largest (List.mem_map.mpr ⟨s, hs, rfl⟩)⟩
  · refine ratioAbove_weightedSum_mem (largest_nonneg _) fun s hs => ?_
    exact ⟨abs_nonneg s.pnl, le_largest (List.mem_map.mpr ⟨s, hs, rfl⟩)⟩

/-- The loss at the rank exists, and no loss of the window is larger than the largest. -/
theorem exists_lossAtRank_mem (w : TradeWindow ℝ) :
    ∃ x ∈ Set.Icc 0 w.largestLoss, w.lossAtRank = .ok x := by
  obtain ⟨x, hx, ⟨s, hs, hneg, rfl⟩ | rfl⟩ := w.exists_lossAtRank
  · exact ⟨|s.pnl|, ⟨abs_nonneg s.pnl, abs_pnl_le_largestLoss hs hneg⟩, hx⟩
  · exact ⟨0, ⟨le_rfl, largest_nonneg _⟩, hx⟩

end TradeWindow

namespace Expectancy

variable {c : Settings ℝ} {own all : TradeWindow ℝ}

/-! ## Snapshots -/

/-- Priors and the penalty for tail losses are not negative. -/
structure Settings.NonNegative (c : Settings ℝ) : Prop where
  priorA : 0 ≤ c.priorA
  priorB : 0 ≤ c.priorB
  tailPriorA : 0 ≤ c.tailPriorA
  tailPriorB : 0 ≤ c.tailPriorB
  tailPenalty : 0 ≤ c.tailPenalty

theorem localWeight_mem (c : Settings ℝ) {count : ℝ} (h : 0 ≤ count) :
    localWeight c count ∈ Set.Icc 0 1 := by
  have hleast : 0 < larger c.shrinkCount 1e-9 := by
    rw [larger_eq_max]
    exact lt_max_of_lt_right (by norm_num)
  have hpos : 0 < count + larger c.shrinkCount 1e-9 := add_pos_of_nonneg_of_pos h hleast
  exact ⟨div_nonneg h hpos.le, (div_le_one₀ hpos).mpr (le_add_of_nonneg_right hleast.le)⟩

theorem winChance_mem (hc : c.NonNegative) (own all : TradeWindow ℝ) :
    winChance c own all ∈ Set.Icc 0 1 :=
  mixture_mem (localWeight_mem c (TradeWindow.weight_nonneg own c.recencyRate))
    (TradeWindow.winPosterior_mem own c.recencyRate hc.priorA hc.priorB)
    (TradeWindow.winPosterior_mem all c.recencyRate hc.priorA hc.priorB)

/-- The mean return that a chance of winning gives, less the cost of a tail loss. -/
theorem averageReturn_mem {win tail worst gain loss gains losses penalty fee : ℝ}
    (hwin : win ∈ Set.Icc 0 1) (htail : tail ∈ Set.Icc 0 1) (hworst : worst ∈ Set.Icc 0 losses)
    (hgain : gain ∈ Set.Icc 0 gains) (hloss : loss ∈ Set.Icc 0 losses) (hpenalty : 0 ≤ penalty) :
    win * gain - (1 - win) * loss - fee - penalty * tail * worst ∈
      Set.Icc (-(1 + penalty) * losses - fee) (gains - fee) := by
  have hwon : win * gain ∈ Set.Icc 0 gains := mul_mem_of_unit hwin hgain
  have hlost : (1 - win) * loss ∈ Set.Icc 0 losses :=
    mul_mem_of_unit ⟨sub_nonneg.mpr hwin.2, sub_le_self 1 hwin.1⟩ hloss
  have htailed : tail * worst ∈ Set.Icc 0 losses := mul_mem_of_unit htail hworst
  have hlow : 0 ≤ penalty * (tail * worst) := mul_nonneg hpenalty htailed.1
  have hhigh : penalty * (tail * worst) ≤ penalty * losses :=
    mul_le_mul_of_nonneg_left htailed.2 hpenalty
  rw [mul_assoc penalty]
  constructor
  · linarith [hwon.1, hlost.2]
  · linarith [hwon.2, hlost.1]

theorem one_le_expectedHolding (median timeout : Int) :
    1 ≤ if 0 < median then median else max timeout 1 := by
  split
  · assumption
  · exact le_max_right _ _

/-- A snapshot with its figures in their ranges. -/
structure InRange (c : Settings ℝ) (own : TradeWindow ℝ) (s : Snapshot ℝ) : Prop where
  win : s.probability.win ∈ Set.Icc 0 1
  tailLoss : s.probability.tailLoss ∈ Set.Icc 0 1
  timeoutExit : s.probability.timeoutExit ∈ Set.Icc 0 1
  expectedHolding : 1 ≤ s.expectedHoldingMs
  worstCase : s.worstCaseLoss ∈ Set.Icc 0 own.largestLoss
  expectedReturn : s.expectedReturn ∈
    Set.Icc (-(1 + c.tailPenalty) * own.largestLoss - c.feePenalty) (own.largestWin - c.feePenalty)

theorem exists_snapshot_inRange (hc : c.NonNegative) (own all : TradeWindow ℝ) (nowMs : Int) :
    ∃ s, snapshot c own all nowMs = .ok s ∧ InRange c own s := by
  obtain ⟨worst, hworst, hrank⟩ := own.exists_lossAtRank_mem
  have hwin := winChance_mem hc own all
  have htail := own.tailPosterior_mem c.recencyRate c.lossThreshold hc.tailPriorA hc.tailPriorB
  have haverages := own.averages_mem c.recencyRate
  unfold snapshot
  rw [hrank]
  refine ⟨_, rfl, ?_⟩
  exact {
    win := hwin
    tailLoss := htail
    timeoutExit := own.timeoutShare_mem c.timeoutMs
    expectedHolding := one_le_expectedHolding _ _
    worstCase := hworst
    expectedReturn :=
      averageReturn_mem hwin htail hworst haverages.1 haverages.2 hc.tailPenalty }

/--
**The snapshot of an estimator exists and keeps its ranges:** probabilities in the unit interval, a
holding time of one at least, and amounts between the largest win and the largest loss.
-/
theorem estimate_inRange (e : Estimator ℝ) (hc : e.settings.NonNegative) (tag instrument : String)
    (nowMs : Int) {own all : TradeWindow ℝ}
    (hown : e.reader.localWindow tag instrument e.depth = .ok own)
    (hall : e.reader.globalWindow tag e.depth = .ok all) :
    ∃ s, e.estimate tag instrument nowMs = .ok s ∧ InRange e.settings own s := by
  rw [estimate_of_windows hown hall]
  exact exists_snapshot_inRange hc own all nowMs

/-- A win, two losses, one of them old, a trade that breaks even, and no trades elsewhere. -/
theorem estimate_inRange_mixed_trades :
    let own : TradeWindow ℝ := [{ ageDays := 0, pnl := 12, holdingMs := 60000 },
      { ageDays := 1.5, pnl := -20, holdingMs := 0 }, { ageDays := -3, pnl := 0, holdingMs := 1 },
      { ageDays := 400, pnl := -5, holdingMs := 7200000 }]
    let e : Estimator ℝ :=
      { settings := .standard
        reader := { localWindow := fun _ _ _ => .ok own, globalWindow := fun _ _ => .ok [] }
        lookback := 0 }
    e.settings.NonNegative ∧ own.largestWin = 12 ∧ own.largestLoss = 20 ∧
      ∃ s, e.estimate "breakout" "BTC" 0 = .ok s ∧ InRange e.settings own s := by
  intro own e
  have hc : e.settings.NonNegative := by
    constructor <;> norm_num [e, Settings.standard]
  refine ⟨hc, ?_, ?_, estimate_inRange e hc "breakout" "BTC" 0 rfl rfl⟩
  · norm_num [own, TradeWindow.largestWin, TradeWindow.wins, largest]
  · norm_num [own, TradeWindow.largestLoss, TradeWindow.losses, largest]

end Expectancy

end ReturnForecast
