import ReturnForecast.Proofs.Scalar.Real
import ReturnForecast.Expectancy.Estimator

/-!
# Windows of trades over exact reals

What a window says does not depend on the order of its trades, and its weighted means and ranks stay
between the amounts that they are taken of.

* `ratioAbove_weightedSum_mem` — a weighted mean lies between zero and any bound of the amounts
* `exists_lossAtRank` — the loss at a rank always exists, and is one of the losses or zero
* `weight_perm`, `averages_perm`, … — every query gives the same for a window in another order
* `estimate_of_windows` — an estimator takes the snapshot of two windows
-/

namespace ReturnForecast

/-! ## Quantiles -/

theorem exists_itemAt? {β : Type} {xs : List β} {index : Int} (hpos : 0 ≤ index)
    (hlt : index < xs.length) : ∃ x ∈ xs, itemAt? xs index = some x := by
  have hget : index.toNat < xs.length := by omega
  refine ⟨xs[index.toNat], List.getElem_mem hget, ?_⟩
  rw [itemAt?, if_pos hpos]
  exact List.getElem?_eq_getElem hget

/-- A quantile of some values is one of them, and that of none is zero. -/
theorem exists_nearestRank (ascending : List ℝ) {q : ℝ} (hq : 0 ≤ q) :
    ∃ x, nearestRank ascending q = .ok x ∧ (x ∈ ascending ∨ x = 0) := by
  unfold nearestRank
  split
  · exact ⟨0, rfl, .inr rfl⟩
  · next hne =>
    have hlength : 0 < ascending.length := List.length_pos_iff.mpr (by simpa using hne)
    have hrank : 0 ≤ ⌊(ascending.length : ℝ) * q⌋ := Int.floor_nonneg.mpr (by positivity)
    have hindex : 0 ≤ min ⌊(ascending.length : ℝ) * q⌋ (Int.ofNat ascending.length - 1) ∧
        min ⌊(ascending.length : ℝ) * q⌋ (Int.ofNat ascending.length - 1) < ascending.length := by
      simp only [Int.ofNat_eq_natCast]
      omega
    obtain ⟨x, hx, hitem⟩ := exists_itemAt? hindex.1 hindex.2
    have hfloor : floor? ((ascending.length : ℝ) * q) = .ok ⌊(ascending.length : ℝ) * q⌋ := rfl
    refine ⟨x, ?_, .inl hx⟩
    simp only [hfloor, bind, Except.bind, hitem]

/-- Values that are sorted by a total order come out the same from any order. -/
theorem mergeSort_eq_of_perm {β : Type} [LinearOrder β] {xs ys : List β} (h : xs.Perm ys) :
    xs.mergeSort (· ≤ ·) = ys.mergeSort (· ≤ ·) :=
  ((List.mergeSort_perm xs _).trans (h.trans (List.mergeSort_perm ys _).symm)).eq_of_pairwise'
    (List.pairwise_mergeSort' (· ≤ ·) xs) (List.pairwise_mergeSort' (· ≤ ·) ys)

/-! ## Weights -/

theorem recencyWeight_pos (ageDays rate : ℝ) : 0 < recencyWeight ageDays rate := Real.exp_pos _

namespace TradeWindow

variable {w v : TradeWindow ℝ} {rate : ℝ}

theorem weight_eq_sum (w : TradeWindow ℝ) (rate : ℝ) :
    w.weight rate = (w.map fun s => recencyWeight s.ageDays rate).sum := total_eq_sum _

theorem weightedSum_eq_sum (w : TradeWindow ℝ) (rate : ℝ) (amount : TradeSample ℝ → ℝ) :
    w.weightedSum rate amount = (w.map fun s => amount s * recencyWeight s.ageDays rate).sum :=
  total_eq_sum _

/-- A weight is the sum of ones. -/
theorem weight_eq_weightedSum (w : TradeWindow ℝ) (rate : ℝ) :
    w.weight rate = w.weightedSum rate fun _ => 1 := by
  rw [weight_eq_sum, weightedSum_eq_sum]
  simp only [one_mul]

theorem weight_nonneg (w : TradeWindow ℝ) (rate : ℝ) : 0 ≤ w.weight rate := by
  rw [weight_eq_sum]
  refine List.sum_nonneg fun x hx => ?_
  obtain ⟨s, -, rfl⟩ := List.mem_map.mp hx
  exact (recencyWeight_pos s.ageDays rate).le

/-- A part of a window weighs no more than the window. -/
theorem weight_filter_le (w : TradeWindow ℝ) (rate : ℝ) (keep : TradeSample ℝ → Bool) :
    weight (w.filter keep) rate ≤ w.weight rate := by
  rw [weight_eq_sum, weight_eq_sum]
  refine (List.filter_sublist.map _).sum_le_sum fun x hx => ?_
  obtain ⟨s, -, rfl⟩ := List.mem_map.mp hx
  exact (recencyWeight_pos s.ageDays rate).le

theorem weightedSum_nonneg {amount : TradeSample ℝ → ℝ} (h : ∀ s ∈ w, 0 ≤ amount s) :
    0 ≤ w.weightedSum rate amount := by
  rw [weightedSum_eq_sum]
  refine List.sum_nonneg fun x hx => ?_
  obtain ⟨s, hs, rfl⟩ := List.mem_map.mp hx
  exact mul_nonneg (h s hs) (recencyWeight_pos s.ageDays rate).le

theorem weightedSum_le {amount : TradeSample ℝ → ℝ} {bound : ℝ} (h : ∀ s ∈ w, amount s ≤ bound) :
    w.weightedSum rate amount ≤ bound * w.weight rate := by
  rw [weightedSum_eq_sum, weight_eq_sum, ← List.sum_map_mul_left]
  refine List.sum_le_sum fun s hs => ?_
  exact mul_le_mul_of_nonneg_right (h s hs) (recencyWeight_pos s.ageDays rate).le

theorem weightedSum_nonpos {amount : TradeSample ℝ → ℝ} (h : ∀ s ∈ w, amount s ≤ 0) :
    w.weightedSum rate amount ≤ 0 :=
  (weightedSum_le h).trans (zero_mul _).le

/-- A weighted mean of amounts between zero and a bound lies between them too. -/
theorem ratioAbove_weightedSum_mem {amount : TradeSample ℝ → ℝ} {bound : ℝ} (hbound : 0 ≤ bound)
    (h : ∀ s ∈ w, 0 ≤ amount s ∧ amount s ≤ bound) :
    ratioAbove epsilon (w.weightedSum rate amount) (w.weight rate) ∈ Set.Icc 0 bound := by
  unfold ratioAbove
  split
  · next hweight =>
    have hpos : 0 < w.weight rate := epsilon_pos.trans hweight
    refine ⟨div_nonneg (weightedSum_nonneg fun s hs => (h s hs).1) hpos.le, ?_⟩
    exact (div_le_iff₀ hpos).mpr (weightedSum_le fun s hs => (h s hs).2)
  · exact ⟨le_rfl, hbound⟩

/-! ## Losses -/

theorem mem_lossSizes {x : ℝ} : x ∈ w.lossSizes ↔ ∃ s ∈ w, s.pnl < 0 ∧ |s.pnl| = x := by
  unfold lossSizes losses
  rw [(List.mergeSort_perm _ _).mem_iff, List.mem_map]
  constructor
  · rintro ⟨s, hs, hx⟩
    obtain ⟨hmem, hneg⟩ := List.mem_filter.mp hs
    exact ⟨s, hmem, of_decide_eq_true hneg, hx⟩
  · rintro ⟨s, hs, hneg, hx⟩
    exact ⟨s, List.mem_filter.mpr ⟨hs, decide_eq_true hneg⟩, hx⟩

/-- The loss at a rank always exists. -/
theorem exists_lossAtRank (w : TradeWindow ℝ) :
    ∃ x, w.lossAtRank = .ok x ∧ ((∃ s ∈ w, s.pnl < 0 ∧ |s.pnl| = x) ∨ x = 0) := by
  obtain ⟨x, hx, hmem⟩ := exists_nearestRank w.lossSizes (q := (0.05 : ℝ)) (by norm_num)
  exact ⟨x, hx, hmem.imp_left mem_lossSizes.mp⟩

/-! ## What a query looks at -/

theorem weight_congr (h : w.map (·.ageDays) = v.map (·.ageDays)) :
    w.weight rate = v.weight rate := by
  have hweights := congrArg (List.map (recencyWeight · rate)) h
  rw [List.map_map, List.map_map] at hweights
  exact congrArg total hweights

theorem medianHoldingMs_congr (h : w.map (·.holdingMs) = v.map (·.holdingMs)) :
    w.medianHoldingMs = v.medianHoldingMs := by
  unfold medianHoldingMs
  rw [h]

theorem timeoutShare_congr (h : w.map (·.holdingMs) = v.map (·.holdingMs)) (thresholdMs : Int) :
    w.timeoutShare thresholdMs = v.timeoutShare thresholdMs := by
  have hlength : w.length = v.length := by simpa using congrArg List.length h
  have hempty : w.isEmpty = v.isEmpty := by simpa using congrArg List.isEmpty h
  have hcount := congrArg (List.countP fun ms => decide (thresholdMs < ms)) h
  rw [List.countP_map, List.countP_map] at hcount
  unfold timeoutShare
  rw [hempty, hlength]
  exact congrArg (fun n : ℕ => if v.isEmpty then (0.5 : ℝ) else n / v.length) hcount

/-- The sizes of the losses, from the profits and losses alone. -/
theorem lossSizes_eq (w : TradeWindow ℝ) :
    w.lossSizes = (((w.map (·.pnl)).filter (· < 0)).map (|·|)).mergeSort (· ≤ ·) := by
  rw [List.filter_map, List.map_map]
  rfl

theorem lossAtRank_congr (h : w.map (·.pnl) = v.map (·.pnl)) : w.lossAtRank = v.lossAtRank := by
  unfold lossAtRank
  rw [lossSizes_eq, lossSizes_eq, h]

/-! ## Windows with every trade changed -/

section Changed

variable {change : TradeSample ℝ → TradeSample ℝ}

theorem filter_map_of_alike {keep keep' : TradeSample ℝ → Bool}
    (h : ∀ s ∈ w, keep' (change s) = keep s) :
    List.filter keep' (w.map change) = (w.filter keep).map change := by
  rw [List.filter_map]
  exact congrArg (List.map change) (List.filter_congr h)

theorem weightedSum_map {amount : TradeSample ℝ → ℝ} {factor : ℝ}
    (h : ∀ s ∈ w, amount (change s) * recencyWeight (change s).ageDays rate =
      factor * (amount s * recencyWeight s.ageDays rate)) :
    weightedSum (w.map change) rate amount = factor * w.weightedSum rate amount := by
  rw [weightedSum_eq_sum, weightedSum_eq_sum, List.map_map, ← List.sum_map_mul_left]
  exact congrArg List.sum (List.map_congr_left h)

end Changed

/-! ## Other orders -/

section Order

variable (h : w.Perm v)

include h

theorem weight_perm : w.weight rate = v.weight rate := by
  rw [weight_eq_sum, weight_eq_sum, (h.map _).sum_eq]

theorem weightedSum_perm (amount : TradeSample ℝ → ℝ) :
    w.weightedSum rate amount = v.weightedSum rate amount := by
  rw [weightedSum_eq_sum, weightedSum_eq_sum, (h.map _).sum_eq]

theorem winPosterior_perm (a b : ℝ) : w.winPosterior rate a b = v.winPosterior rate a b := by
  unfold winPosterior winLoss wins losses
  rw [weight_perm (h.filter _), weight_perm (h.filter _)]

theorem tailPosterior_perm (threshold a b : ℝ) :
    w.tailPosterior rate threshold a b = v.tailPosterior rate threshold a b := by
  unfold tailPosterior tailEvents tailLosses notGains
  rw [weight_perm (h.filter _), weight_perm ((h.filter _).filter _)]

theorem averages_perm : w.averages rate = v.averages rate := by
  unfold averages wins losses
  rw [weight_perm (h.filter _), weight_perm (h.filter _), weightedSum_perm (h.filter _),
    weightedSum_perm (h.filter _)]

theorem medianHoldingMs_perm : w.medianHoldingMs = v.medianHoldingMs := by
  unfold medianHoldingMs
  rw [mergeSort_eq_of_perm (h.map _)]

theorem lossAtRank_perm : w.lossAtRank = v.lossAtRank := by
  have hsizes : w.lossSizes = v.lossSizes := mergeSort_eq_of_perm ((h.filter _).map _)
  unfold lossAtRank
  rw [hsizes]

theorem timeoutShare_perm (thresholdMs : Int) :
    w.timeoutShare thresholdMs = v.timeoutShare thresholdMs := by
  unfold timeoutShare
  rw [h.isEmpty_eq, h.countP_eq, h.length_eq]

end Order

end TradeWindow

/-! ## Estimators -/

/-- An estimator takes the snapshot of the windows that its reader hands out. -/
theorem Expectancy.estimate_of_windows {e : Estimator ℝ} {tag instrument : String}
    {own all : TradeWindow ℝ} (hown : e.reader.localWindow tag instrument e.depth = .ok own)
    (hall : e.reader.globalWindow tag e.depth = .ok all) (nowMs : Int) :
    e.estimate tag instrument nowMs = snapshot e.settings own all nowMs := by
  unfold Estimator.estimate
  rw [hown, hall]
  rfl

end ReturnForecast
