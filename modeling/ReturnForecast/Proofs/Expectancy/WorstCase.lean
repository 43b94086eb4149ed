import ReturnForecast.Proofs.Expectancy.WinShare

/-!
# The worst case and the average loss

The worst case of a snapshot is the absolute loss at the rank of five per cent, counted from the
smallest one: nearly all losses are at least as large. So it need not reach the average loss. It
does where what the larger losses exceed it by weighs no more than what the few smaller ones fall
short of it, and among fewer than twenty losses only where all of them are equally large.

* `AtRank` — a value by how many are smaller and how many are not larger
* `exists_lossAtRank_atRank` — the loss at the rank of five per cent
* `averageLoss_le_iff` — when a number reaches the average loss
* `worstCase_by_rank` — the worst case of an estimate
* `worstCase_below_average` — a window where it does not reach the average loss
-/

namespace ReturnForecast

/-! ## Ranks -/

/-- The value at a rank: at most so many values are smaller, and more of them are not larger. -/
structure AtRank (xs : List ℝ) (rank : ℕ) (x : ℝ) : Prop where
  smaller : xs.countP (· < x) ≤ rank
  notLarger : rank < xs.countP (· ≤ x)

namespace AtRank

variable {xs ys : List ℝ} {rank : ℕ} {x y : ℝ}

theorem perm (h : AtRank xs rank x) (hperm : xs.Perm ys) : AtRank ys rank x :=
  ⟨hperm.countP_eq _ ▸ h.smaller, hperm.countP_eq _ ▸ h.notLarger⟩

/-- There is only one value at a rank. -/
theorem eq (hx : AtRank xs rank x) (hy : AtRank xs rank y) : x = y := by
  have hle : ∀ {x y : ℝ}, AtRank xs rank x → AtRank xs rank y → y ≤ x := by
    intro x y hx hy
    by_contra hlt
    -- All that is not larger than the smaller value is smaller than the other one.
    have hcount : xs.countP (· ≤ x) ≤ xs.countP (· < y) := by
      refine List.countP_mono_left fun z _ hz => ?_
      rw [decide_eq_true_eq] at hz ⊢
      exact hz.trans_lt (not_le.mp hlt)
    have hsmaller := hy.smaller
    have hnotLarger := hx.notLarger
    omega
  exact le_antisymm (hle hy hx) (hle hx hy)

/-- The value at rank zero is the smallest. -/
theorem le_of_mem (h : AtRank xs 0 x) (hy : y ∈ xs) : x ≤ y := by
  have hnone := List.countP_eq_zero.mp (Nat.le_zero.mp h.smaller) y hy
  simpa using hnone

end AtRank

/-- Of ascending values, the one with an index is at that rank. -/
theorem atRank_getElem {xs : List ℝ} (h : xs.Pairwise (· ≤ ·)) {k : ℕ} (hk : k < xs.length) :
    AtRank xs k xs[k] := by
  have hsplit (p : ℝ → Bool) (i : ℕ) :
      xs.countP p = (xs.take i).countP p + (xs.drop i).countP p := by
    rw [← List.countP_append, List.take_append_drop]
  constructor
  -- What is smaller stands before the index, and all that stands up to it is not larger.
  · have hlater : (xs.drop k).countP (· < xs[k]) = 0 := by
      refine List.countP_eq_zero.mpr fun x hx => ?_
      obtain ⟨i, hi, rfl⟩ := List.mem_drop_iff_getElem.mp hx
      simpa using h.sortedLE.getElem_le_getElem_of_le (Nat.le_add_right k i)
    rw [hsplit _ k, hlater]
    exact List.countP_le_length.trans (List.length_take_le k xs)
  · have hearlier : (xs.take (k + 1)).countP (· ≤ xs[k]) = (xs.take (k + 1)).length := by
      refine List.countP_eq_length.mpr fun x hx => ?_
      obtain ⟨i, hi, rfl⟩ := List.mem_take_iff_getElem.mp hx
      have hle : i ≤ k := by omega
      simpa using h.sortedLE.getElem_le_getElem_of_le hle
    rw [hsplit _ (k + 1), hearlier, List.length_take]
    omega

/-! ## The rank of five per cent -/

theorem floor_twentieth (n : ℕ) : ⌊(n : ℝ) * 0.05⌋ = (n / 20 : ℕ) := by
  have hdiv : (n : ℝ) * 0.05 = n / (20 : ℕ) := by norm_num [div_eq_mul_inv]
  rw [hdiv, ← Int.natCast_floor_eq_floor (by positivity), Nat.floor_div_eq_div]

/-- Of ascending values, the quantile of five per cent is at the rank of a twentieth of them. -/
theorem exists_nearestRank_twentieth {ascending : List ℝ} (h : ascending.Pairwise (· ≤ ·))
    (hne : ascending ≠ []) : ∃ x, nearestRank ascending 0.05 = .ok x ∧
      AtRank ascending (ascending.length / 20) x := by
  have hlength : 0 < ascending.length := List.length_pos_iff.mpr hne
  have hk : ascending.length / 20 < ascending.length := by omega
  have hrank : floor? ((ascending.length : ℝ) * 0.05) = .ok ⌊(ascending.length : ℝ) * 0.05⌋ := rfl
  have hindex : min ((ascending.length / 20 : ℕ) : Int) (Int.ofNat ascending.length - 1) =
      (ascending.length / 20 : ℕ) := by
    simp only [Int.ofNat_eq_natCast]
    omega
  have hitem : itemAt? ascending ((ascending.length / 20 : ℕ) : Int) =
      some ascending[ascending.length / 20] := by
    rw [itemAt?, if_pos (Int.natCast_nonneg _)]
    exact List.getElem?_eq_getElem hk
  refine ⟨_, ?_, atRank_getElem h hk⟩
  unfold nearestRank
  rw [if_neg (by simpa using hne), hrank, floor_twentieth]
  simp only [bind, Except.bind, hindex, hitem]

namespace TradeWindow

/-- The absolute losses of a window. -/
noncomputable def lossAmounts (w : TradeWindow ℝ) : List ℝ := w.losses.map fun s => |s.pnl|

variable {w : TradeWindow ℝ}

theorem lossAtRank_of_no_losses (h : w.losses = []) : w.lossAtRank = .ok 0 := by
  unfold lossAtRank lossSizes
  rw [h, List.map_nil, List.mergeSort_nil]
  rfl

/-- **The loss at the rank of five per cent, counted from the smallest one.** -/
theorem exists_lossAtRank_atRank (h : w.losses ≠ []) : ∃ x, w.lossAtRank = .ok x ∧
    AtRank w.lossAmounts (w.losses.length / 20) x := by
  have hperm : w.lossSizes.Perm w.lossAmounts := List.mergeSort_perm _ _
  have hsorted : w.lossSizes.Pairwise (· ≤ ·) := List.pairwise_mergeSort' (· ≤ ·) _
  have hne : w.lossSizes ≠ [] := by
    intro hnil
    rw [hnil] at hperm
    exact h (List.map_eq_nil_iff.mp hperm.nil_eq.symm)
  obtain ⟨x, hx, hrank⟩ := exists_nearestRank_twentieth hsorted hne
  rw [hperm.length_eq, lossAmounts, List.length_map] at hrank
  exact ⟨x, hx, hrank.perm hperm⟩

/-! ## The average loss -/

/-- What the losses exceed an amount by, weighed. -/
noncomputable def excess (w : TradeWindow ℝ) (rate x : ℝ) : ℝ :=
  w.losses.weightedSum rate fun s => max (|s.pnl| - x) 0

/-- What the losses fall short of an amount by, weighed. -/
noncomputable def shortfall (w : TradeWindow ℝ) (rate x : ℝ) : ℝ :=
  w.losses.weightedSum rate fun s => max (x - |s.pnl|) 0

/-- The weighed losses differ from those of one size by excess and shortfall. -/
theorem weightedSum_add_shortfall (w : TradeWindow ℝ) (rate x : ℝ) :
    w.losses.weightedSum rate (fun s => |s.pnl|) + w.shortfall rate x =
      x * w.losses.weight rate + w.excess rate x := by
  have hsplit (y : ℝ) : y + max (x - y) 0 = x + max (y - x) 0 := by
    rcases le_total x y with h | h
    · rw [max_eq_right (sub_nonpos.mpr h), max_eq_left (sub_nonneg.mpr h)]
      ring
    · rw [max_eq_left (sub_nonneg.mpr h), max_eq_right (sub_nonpos.mpr h)]
      ring
  unfold shortfall excess
  rw [weightedSum_eq_sum, weightedSum_eq_sum, weightedSum_eq_sum, weight_eq_sum,
    ← List.sum_map_mul_left, ← List.sum_map_add, ← List.sum_map_add]
  simp only [← add_mul, hsplit]

/-- **A number reaches the average loss exactly if the excess over it is no more than the
shortfall,** or if the losses weigh next to nothing. -/
theorem averageLoss_le_iff {x : ℝ} (hx : 0 ≤ x) (rate : ℝ) : (w.averages rate).2 ≤ x ↔
    (w.winLoss rate).2 ≤ epsilon ∨ w.excess rate x ≤ w.shortfall rate x := by
  have hsum := w.weightedSum_add_shortfall rate x
  show ratioAbove epsilon (w.losses.weightedSum rate fun s => |s.pnl|) (w.losses.weight rate) ≤ x ↔
    w.losses.weight rate ≤ epsilon ∨ _
  unfold ratioAbove
  rcases le_or_gt (w.losses.weight rate) epsilon with hweight | hweight
  · rw [if_neg (not_lt.mpr hweight)]
    exact iff_of_true hx (.inl hweight)
  · rw [if_pos hweight, div_le_iff₀ (epsilon_pos.trans hweight)]
    constructor
    · intro hle
      exact .inr (by linarith)
    · rintro (hless | hle)
      · exact absurd hweight (not_lt.mpr hless)
      · linarith

/-- What is not negative and weighs nothing together is nothing. -/
theorem amount_eq_zero_of_weightedSum_nonpos {rate : ℝ} {amount : TradeSample ℝ → ℝ}
    (h : ∀ s ∈ w, 0 ≤ amount s) (hsum : w.weightedSum rate amount ≤ 0) :
    ∀ s ∈ w, amount s = 0 := by
  intro s hs
  have hpos := recencyWeight_pos s.ageDays rate
  rw [weightedSum_eq_sum] at hsum
  have hterm : amount s * recencyWeight s.ageDays rate ≤ 0 := by
    refine (List.single_le_sum ?_ _ (List.mem_map_of_mem hs)).trans hsum
    intro x hx
    obtain ⟨t, ht, rfl⟩ := List.mem_map.mp hx
    exact mul_nonneg (h t ht) (recencyWeight_pos t.ageDays rate).le
  exact le_antisymm (nonpos_of_mul_nonpos_left hterm hpos) (h s hs)

/-- The smallest loss reaches the average loss only if all losses are equally large. -/
theorem averageLoss_le_smallest_iff {x : ℝ} (hx : 0 ≤ x) (h : ∀ s ∈ w.losses, x ≤ |s.pnl|)
    (rate : ℝ) : (w.averages rate).2 ≤ x ↔
      (w.winLoss rate).2 ≤ epsilon ∨ ∀ s ∈ w.losses, |s.pnl| = x := by
  have hshortfall : w.shortfall rate x = 0 := by
    refine le_antisymm ?_ (weightedSum_nonneg fun s _ => le_max_right _ 0)
    refine weightedSum_nonpos fun s hs => ?_
    exact max_le (sub_nonpos.mpr (h s hs)) le_rfl
  rw [averageLoss_le_iff hx rate, hshortfall]
  refine or_congr_right ⟨fun hexcess s hs => ?_, fun hequal => ?_⟩
  · have hzero := amount_eq_zero_of_weightedSum_nonpos (fun s _ => le_max_right _ 0) hexcess s hs
    exact le_antisymm (sub_nonpos.mp (max_eq_right_iff.mp hzero)) (h s hs)
  · refine weightedSum_nonpos fun s hs => ?_
    rw [hequal s hs, sub_self, max_self]

/-! ## The worst case -/

/-- What the worst case of a window is, and when it reaches the average loss. -/
structure IsWorstCase (w : TradeWindow ℝ) (worst : ℝ) : Prop where
  of_no_losses : w.losses = [] → worst = 0
  atRank : w.losses ≠ [] → AtRank w.lossAmounts (w.losses.length / 20) worst
  reaches_average (rate : ℝ) : (w.averages rate).2 ≤ worst ↔
    (w.winLoss rate).2 ≤ epsilon ∨ w.excess rate worst ≤ w.shortfall rate worst
  /-- Among fewer than twenty losses the worst case is the smallest one. -/
  reaches_average_of_few (rate : ℝ) : w.losses.length < 20 →
    ((w.averages rate).2 ≤ worst ↔
      (w.winLoss rate).2 ≤ epsilon ∨ ∀ s ∈ w.losses, |s.pnl| = worst)

theorem exists_isWorstCase (w : TradeWindow ℝ) : ∃ x, w.lossAtRank = .ok x ∧ w.IsWorstCase x := by
  by_cases hnone : w.losses = []
  · refine ⟨0, lossAtRank_of_no_losses hnone, fun _ => rfl, fun h => absurd hnone h,
      averageLoss_le_iff le_rfl, fun rate _ => ?_⟩
    refine averageLoss_le_smallest_iff le_rfl (fun s hs => ?_) rate
    exact abs_nonneg s.pnl
  · obtain ⟨x, hx, hrank⟩ := exists_lossAtRank_atRank hnone
    have hnonneg : 0 ≤ x := by
      obtain ⟨y, hy, hyx⟩ := List.countP_pos_iff.mp (Nat.zero_lt_of_lt hrank.notLarger)
      obtain ⟨s, -, rfl⟩ := List.mem_map.mp hy
      exact (abs_nonneg s.pnl).trans (of_decide_eq_true hyx)
    refine ⟨x, hx, fun h => absurd h hnone, fun _ => hrank, averageLoss_le_iff hnonneg,
      fun rate hfew => averageLoss_le_smallest_iff hnonneg (fun s hs => ?_) rate⟩
    rw [Nat.div_eq_of_lt hfew] at hrank
    exact hrank.le_of_mem (List.mem_map_of_mem hs)

end TradeWindow

/-! ## Estimates -/

namespace Expectancy

open TradeWindow

variable {c : Settings ℝ} {own all : TradeWindow ℝ}

/-- The worst case of a snapshot is the loss at the rank, and the penalty is taken of it. -/
theorem worstCase_of_snapshot {nowMs : Int} {s : Snapshot ℝ}
    (h : snapshot c own all nowMs = .ok s) : own.lossAtRank = .ok s.worstCaseLoss ∧
      s.expectedReturn = s.probability.win * (own.averages c.recencyRate).1 -
        (1 - s.probability.win) * (own.averages c.recencyRate).2 - c.feePenalty -
        c.tailPenalty * s.probability.tailLoss * s.worstCaseLoss := by
  obtain ⟨worst, hworst, -⟩ := own.exists_lossAtRank
  unfold snapshot at h
  rw [hworst] at h
  obtain rfl := Except.ok.inj h
  exact ⟨hworst, rfl⟩

/--
**The worst case of an estimate is the loss at the rank of five per cent,** counted from the
smallest one, also in the penalty for tail losses. It reaches the average loss exactly where the
excess of the larger losses over it weighs no more than the shortfall of the smaller ones.
-/
theorem worstCase_by_rank (e : Estimator ℝ) (tag instrument : String) (nowMs : Int)
    (hown : e.reader.localWindow tag instrument e.depth = .ok own)
    (hall : e.reader.globalWindow tag e.depth = .ok all) :
    ∃ s, e.estimate tag instrument nowMs = .ok s ∧ own.lossAtRank = .ok s.worstCaseLoss ∧
      own.IsWorstCase s.worstCaseLoss ∧
      s.expectedReturn = s.probability.win * (own.averages e.settings.recencyRate).1 -
        (1 - s.probability.win) * (own.averages e.settings.recencyRate).2 -
        e.settings.feePenalty -
        e.settings.tailPenalty * s.probability.tailLoss * s.worstCaseLoss := by
  obtain ⟨s, hs⟩ := exists_snapshot e.settings own all nowMs
  obtain ⟨hrank, hreturn⟩ := worstCase_of_snapshot hs
  obtain ⟨worst, hworst, hcase⟩ := own.exists_isWorstCase
  obtain rfl := Except.ok.inj (hrank.symm.trans hworst)
  exact ⟨s, (estimate_of_windows hown hall nowMs).trans hs, hrank, hcase, hreturn⟩

/-- Twenty losses of which one is small: the worst case is the size of the others. -/
theorem worstCase_by_rank_twenty_losses :
    let own : TradeWindow ℝ := { ageDays := 2, pnl := -1, holdingMs := 0 } ::
      List.replicate 19 { ageDays := 0, pnl := -5, holdingMs := 60000 }
    let e : Estimator ℝ :=
      { settings := .standard
        reader := { localWindow := fun _ _ _ => .ok own, globalWindow := fun _ _ => .ok own }
        lookback := 20 }
    ∃ s, e.estimate "breakout" "BTC" 0 = .ok s ∧ s.worstCaseLoss = 5 ∧
      own.IsWorstCase s.worstCaseLoss := by
  intro own e
  obtain ⟨s, hs, -, hcase, -⟩ := worstCase_by_rank e "breakout" "BTC" 0 rfl rfl
  have hlosses : own.losses = own := by norm_num [own, losses]
  have hamounts : own.lossAmounts = 1 :: List.replicate 19 5 := by
    rw [lossAmounts, hlosses]
    norm_num [own]
  have hrank : AtRank own.lossAmounts (own.losses.length / 20) 5 := by
    rw [hamounts, hlosses]
    constructor
    · norm_num [own, List.countP_replicate]
    · norm_num [own, List.countP_replicate]
  have hsome : own.losses ≠ [] := by
    rw [hlosses]
    exact List.cons_ne_nil _ _
  have hworst : s.worstCaseLoss = 5 := (hcase.atRank hsome).eq hrank
  exact ⟨s, hs, hworst, hcase⟩

/-- Losses of 10 and 30: the worst case is the smaller one, below their average. -/
theorem worstCase_below_average :
    let own : TradeWindow ℝ := [{ ageDays := 0, pnl := 20, holdingMs := 60000 },
      { ageDays := 0, pnl := 20, holdingMs := 60000 },
      { ageDays := 0, pnl := -10, holdingMs := 60000 },
      { ageDays := 0, pnl := -30, holdingMs := 60000 }]
    let e : Estimator ℝ :=
      { settings := { Settings.standard with recencyRate := 0, feePenalty := 0.5 }
        reader := { localWindow := fun _ _ _ => .ok own, globalWindow := fun _ _ => .ok own }
        lookback := 50 }
    ∃ s, e.estimate "breakout" "BTCUSDT" 0 = .ok s ∧ s.worstCaseLoss = 10 ∧
      (own.averages e.settings.recencyRate).2 = 20 ∧
      ¬ (own.averages e.settings.recencyRate).2 ≤ s.worstCaseLoss := by
  intro own e
  obtain ⟨s, hs⟩ := exists_snapshot e.settings own own 0
  obtain ⟨worst, hworst, hcase⟩ := own.exists_isWorstCase
  obtain rfl := Except.ok.inj ((worstCase_of_snapshot hs).1.symm.trans hworst)
  have hlosses : own.losses = [{ ageDays := 0, pnl := -10, holdingMs := 60000 },
      { ageDays := 0, pnl := -30, holdingMs := 60000 }] := by norm_num [own, losses]
  have hrank : AtRank own.lossAmounts (own.losses.length / 20) 10 := by
    rw [lossAmounts, hlosses]
    constructor
    · norm_num
    · norm_num
  have hten : s.worstCaseLoss = 10 := (hcase.atRank (by simp [hlosses])).eq hrank
  have haverage : (own.averages e.settings.recencyRate).2 = 20 := by
    have htwo : epsilon < (2 : ℝ) := epsilon_lt_of_cent_le (by norm_num)
    have habs (x : ℝ) : Scalar.abs x = |x| := rfl
    unfold averages
    rw [weightedSum_of_no_decay le_rfl own.losses, weight_of_no_decay le_rfl own.losses, hlosses]
    norm_num [ratioAbove, htwo, habs]
  refine ⟨s, (estimate_of_windows rfl rfl 0).trans hs, hten, haverage, ?_⟩
  rw [haverage, hten]
  norm_num

end Expectancy

end ReturnForecast
