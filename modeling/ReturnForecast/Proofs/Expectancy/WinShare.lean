import ReturnForecast.Proofs.Expectancy.Bounds
import ReturnForecast.Proofs.Expectancy.Readers

/-!
# The chance of a win and the share of wins

The chance of a win mixes three shares: what the prior expects, what the trades of the instrument
show, and what all trades of the strategy show. So it is no further from the share of wins among
the trades of the instrument than the weights of the other two allow, and with more and more trades
of the same kind it tends to that share.

* `posterior_eq_mixture` — a posterior mixes the mean of the prior with the share of hits
* `posterior_near_share` / `winChance_near_share` — how far they are from that share
* `tendsto_winChance` — many copies of the same trades
* `win_near_share` — the same for the snapshots of an estimator
-/

namespace ReturnForecast

/-! ## Posteriors -/

/-- A mixture is as near to a number as its parts, the second one being no further off than one. -/
theorem mixture_near {p x y z near : ℝ} (hp : p ∈ Set.Icc 0 1) (hx : |x - z| ≤ near)
    (hy : |y - z| ≤ 1) : |p * x + (1 - p) * y - z| ≤ 1 - p + near := by
  obtain ⟨hnonneg, hle⟩ := hp
  have hrest : 0 ≤ 1 - p := sub_nonneg.mpr hle
  calc |p * x + (1 - p) * y - z| = |p * (x - z) + (1 - p) * (y - z)| := by ring_nf
    _ ≤ |p * (x - z)| + |(1 - p) * (y - z)| := abs_add_le _ _
    _ = p * |x - z| + (1 - p) * |y - z| := by
      rw [abs_mul, abs_mul, abs_of_nonneg hnonneg, abs_of_nonneg hrest]
    _ ≤ |x - z| + (1 - p) :=
      add_le_add (mul_le_of_le_one_left (abs_nonneg _) hle) (mul_le_of_le_one_right hrest hy)
    _ ≤ 1 - p + near := by linarith

/-- A part of two amounts is a share of them. -/
theorem div_add_mem_unit {x y : ℝ} (hx : 0 ≤ x) (hy : 0 ≤ y) : x / (x + y) ∈ Set.Icc (0 : ℝ) 1 := by
  have hall : 0 ≤ x + y := add_nonneg hx hy
  exact ⟨div_nonneg hx hall, div_le_one_of_le₀ (le_add_of_nonneg_right hy) hall⟩

namespace TradeWindow

section Posterior

variable {a b hits others : ℝ}

/-- A prior of some weight keeps the divisor away from zero by itself. -/
theorem posterior_eq (hab : 1e-9 ≤ a + b) (hhits : 0 ≤ hits) (hothers : 0 ≤ others) :
    posterior a b hits others = (a + hits) / (a + b + hits + others) := by
  have hleast : 1e-9 ≤ a + b + hits + others := by linarith
  rw [posterior, larger_eq_max, max_eq_left hleast]

/-- **A posterior mixes the mean of the prior with the share of hits.** -/
theorem posterior_eq_mixture (hab : 1e-9 ≤ a + b) (hhits : 0 ≤ hits) (hothers : 0 ≤ others)
    (hsome : 0 < hits + others) :
    posterior a b hits others =
      (a + b) / (a + b + hits + others) * (a / (a + b)) +
        (1 - (a + b) / (a + b + hits + others)) * (hits / (hits + others)) := by
  have hprior : (0 : ℝ) < a + b := lt_of_lt_of_le (by norm_num) hab
  have hall : a + b + hits + others ≠ 0 := by linarith
  rw [posterior_eq hab hhits hothers]
  field_simp
  ring

/-- The share of the prior is all that keeps a posterior from the share of hits. -/
theorem posterior_near_share (ha : 0 ≤ a) (hb : 0 ≤ b) (hab : 1e-9 ≤ a + b) (hhits : 0 ≤ hits)
    (hothers : 0 ≤ others) (hsome : 0 < hits + others) :
    |posterior a b hits others - hits / (hits + others)| ≤ (a + b) / (a + b + hits + others) := by
  have hprior : 0 ≤ (a + b) / (a + b + hits + others) := by positivity
  have hmean : |a / (a + b) - hits / (hits + others)| ≤ 1 :=
    Real.dist_le_of_mem_Icc_01 (div_add_mem_unit ha hb) (div_add_mem_unit hhits hothers)
  calc |posterior a b hits others - hits / (hits + others)|
      = |(a + b) / (a + b + hits + others) * (a / (a + b) - hits / (hits + others))| := by
        rw [posterior_eq_mixture hab hhits hothers hsome]
        ring_nf
    _ = (a + b) / (a + b + hits + others) * |a / (a + b) - hits / (hits + others)| := by
        rw [abs_mul, abs_of_nonneg hprior]
    _ ≤ (a + b) / (a + b + hits + others) := mul_le_of_le_one_right hprior hmean

end Posterior

/-! ## Copies of a window -/

section Copies

variable {rate : ℝ} (hrate : rate ≤ 0) (w : TradeWindow ℝ)

include hrate in
/-- Without decay every trade counts as one. -/
theorem recencyWeight_of_no_decay (ageDays : ℝ) : recencyWeight ageDays rate = 1 := by
  show Real.exp (-larger rate 0 * larger ageDays 0) = 1
  rw [larger_eq_max rate, max_eq_right hrate, neg_zero, zero_mul, Real.exp_zero]

include hrate in
theorem weight_of_no_decay : w.weight rate = w.length := by
  rw [weight_eq_sum]
  simp [recencyWeight_of_no_decay hrate]

include hrate in
theorem weightedSum_of_no_decay (amount : TradeSample ℝ → ℝ) :
    w.weightedSum rate amount = (w.map amount).sum := by
  rw [weightedSum_eq_sum]
  simp [recencyWeight_of_no_decay hrate]

/-- The window that holds the trades of another one several times. -/
def copies (m : ℕ) (w : TradeWindow ℝ) : TradeWindow ℝ := (List.replicate m w).flatten

theorem filter_copies (keep : TradeSample ℝ → Bool) (m : ℕ) :
    (copies m w).filter keep = copies m (w.filter keep) := by
  rw [copies, List.filter_flatten, List.map_replicate, copies]

include hrate in
theorem weight_copies (m : ℕ) : (copies m w).weight rate = m * w.length := by
  rw [weight_of_no_decay hrate, copies]
  simp

end Copies

end TradeWindow

/-! ## Chances -/

namespace Expectancy

open TradeWindow Filter Topology

/-- The settings have priors that are not negative and not all but absent. -/
structure Settings.HasPrior (c : Settings ℝ) : Prop where
  priorA : 0 ≤ c.priorA
  priorB : 0 ≤ c.priorB
  weight : 1e-9 ≤ c.priorA + c.priorB

/-- The number of trades that the trades elsewhere count for. -/
noncomputable def Settings.pull (c : Settings ℝ) : ℝ := max c.shrinkCount 1e-9

theorem Settings.pull_pos (c : Settings ℝ) : 0 < c.pull := lt_max_of_lt_right (by norm_num)

theorem one_sub_localWeight (c : Settings ℝ) {count : ℝ} (h : 0 ≤ count) :
    1 - localWeight c count = c.pull / (count + c.pull) := by
  have hpos : count + c.pull ≠ 0 := (add_pos_of_nonneg_of_pos h c.pull_pos).ne'
  rw [localWeight, larger_eq_max]
  show 1 - count / (count + c.pull) = _
  field_simp
  ring

/-- The posterior of a win in a window. -/
noncomputable def Settings.winShare (c : Settings ℝ) (w : TradeWindow ℝ) : ℝ :=
  w.winPosterior c.recencyRate c.priorA c.priorB

/-- The weight of the trades of the instrument. -/
noncomputable def Settings.ownWeight (c : Settings ℝ) (own : TradeWindow ℝ) : ℝ :=
  localWeight c (own.effectiveCount c.recencyRate)

section Chance

variable {c : Settings ℝ} (own all : TradeWindow ℝ)

theorem winChance_eq : winChance c own all =
    c.ownWeight own * c.winShare own + (1 - c.ownWeight own) * c.winShare all := rfl

theorem Settings.ownWeight_mem (c : Settings ℝ) : c.ownWeight own ∈ Set.Icc 0 1 :=
  localWeight_mem c (weight_nonneg own c.recencyRate)

/-- The most that the chance of a win is away from the share of wins. -/
noncomputable def Settings.slack (c : Settings ℝ) (own : TradeWindow ℝ) : ℝ :=
  c.pull / (own.effectiveCount c.recencyRate + c.pull) +
    (c.priorA + c.priorB) / (c.priorA + c.priorB + (own.winLoss c.recencyRate).1 +
      (own.winLoss c.recencyRate).2)

/-- **The chance of a win is as near to the share of wins as the other two weights allow.** -/
theorem winChance_near_share (hc : c.HasPrior)
    (hsome : 0 < (own.winLoss c.recencyRate).1 + (own.winLoss c.recencyRate).2) :
    |winChance c own all - (own.winLoss c.recencyRate).1 /
      ((own.winLoss c.recencyRate).1 + (own.winLoss c.recencyRate).2)| ≤ c.slack own := by
  have hwins : 0 ≤ (own.winLoss c.recencyRate).1 := weight_nonneg _ _
  have hlosses : 0 ≤ (own.winLoss c.recencyRate).2 := weight_nonneg _ _
  have hcount : 0 ≤ own.effectiveCount c.recencyRate := weight_nonneg _ _
  have hown := posterior_near_share hc.priorA hc.priorB hc.weight hwins hlosses hsome
  -- Of the trades elsewhere nothing is known, but their posterior is a share as well.
  have hall := Real.dist_le_of_mem_Icc_01
    (winPosterior_mem all c.recencyRate hc.priorA hc.priorB) (div_add_mem_unit hwins hlosses)
  rw [Settings.slack, ← one_sub_localWeight c hcount]
  exact mixture_near (c.ownWeight_mem own) hown hall

end Chance

/-! ## More and more trades -/

section Limit

variable {c : Settings ℝ} (hrate : c.recencyRate ≤ 0) {mix own : TradeWindow ℝ} {m : ℕ}

include hrate in
theorem effectiveCount_of_copies (hperm : own.Perm (copies m mix)) :
    own.effectiveCount c.recencyRate = m * mix.length :=
  (weight_perm hperm).trans (weight_copies hrate mix m)

include hrate in
theorem winLoss_of_copies (hperm : own.Perm (copies m mix)) :
    own.winLoss c.recencyRate = ((m : ℝ) * mix.wins.length, (m : ℝ) * mix.losses.length) := by
  unfold winLoss wins losses
  rw [weight_perm (hperm.filter _), weight_perm (hperm.filter _), filter_copies, filter_copies,
    weight_copies hrate, weight_copies hrate]

include hrate in
theorem slack_of_copies (hperm : own.Perm (copies m mix)) :
    c.slack own = c.pull / (m * mix.length + c.pull) + (c.priorA + c.priorB) /
      (m * (mix.wins.length + mix.losses.length) + (c.priorA + c.priorB)) := by
  rw [Settings.slack, effectiveCount_of_copies hrate hperm, winLoss_of_copies hrate hperm]
  ring_nf

/-- What weighs something against more and more counts for less and less. -/
theorem tendsto_div_copies (x : ℝ) {y : ℝ} (hy : 0 < y) :
    Tendsto (fun m : ℕ => x / (m * y + x)) atTop (𝓝 0) := by
  have hmany : Tendsto (fun m : ℕ => (m : ℝ) * y + x) atTop atTop :=
    tendsto_atTop_add_const_right _ _ (tendsto_natCast_atTop_atTop.atTop_mul_const hy)
  exact tendsto_const_nhds.div_atTop hmany

variable {windows : ℕ → TradeWindow ℝ} (hperm : ∀ m, (windows m).Perm (copies m mix))
  (hsome : 0 < mix.wins.length + mix.losses.length)

include hrate hperm hsome

theorem tendsto_slack : Tendsto (fun m => c.slack (windows m)) atTop (𝓝 0) := by
  have hcounted : (0 : ℝ) < mix.wins.length + mix.losses.length := by exact_mod_cast hsome
  have hwins : mix.wins.length ≤ mix.length := List.length_filter_le _ _
  have hlosses : mix.losses.length ≤ mix.length := List.length_filter_le _ _
  have hlength : (0 : ℝ) < mix.length := by
    rw [Nat.cast_pos]
    omega
  have hsum := (tendsto_div_copies c.pull hlength).add
    (tendsto_div_copies (c.priorA + c.priorB) hcounted)
  rw [add_zero] at hsum
  exact hsum.congr fun m => (slack_of_copies hrate (hperm m)).symm

/-- **With more and more copies of some trades the chance tends to their share of wins.** -/
theorem tendsto_winChance (hc : c.HasPrior) (elsewhere : ℕ → TradeWindow ℝ) :
    Tendsto (fun m => winChance c (windows m) (elsewhere m)) atTop
      (𝓝 (mix.wins.length / (mix.wins.length + mix.losses.length))) := by
  have hcounted : (0 : ℝ) < mix.wins.length + mix.losses.length := by exact_mod_cast hsome
  rw [tendsto_iff_dist_tendsto_zero]
  refine squeeze_zero' (.of_forall fun _ => dist_nonneg) ?_ (tendsto_slack hrate hperm hsome)
  -- The empty window has no share of wins to be near to.
  filter_upwards [eventually_gt_atTop 0] with m hm
  have hmany : (0 : ℝ) < m := Nat.cast_pos.mpr hm
  have hwinLoss := winLoss_of_copies hrate (hperm m)
  have hnear := winChance_near_share (windows m) (elsewhere m) hc (by
    rw [hwinLoss, ← mul_add]
    exact mul_pos hmany hcounted)
  rw [hwinLoss, ← mul_add, mul_div_mul_left _ _ hmany.ne'] at hnear
  exact hnear

end Limit

/-! ## Snapshots -/

theorem win_of_snapshot {c : Settings ℝ} {own all : TradeWindow ℝ} {nowMs : Int} {s : Snapshot ℝ}
    (h : snapshot c own all nowMs = .ok s) : s.probability.win = winChance c own all := by
  obtain ⟨worst, hworst, -⟩ := own.exists_lossAtRank
  unfold snapshot at h
  rw [hworst] at h
  obtain rfl := Except.ok.inj h
  rfl

theorem exists_estimate_win (e : Estimator ℝ) (tag instrument : String) (nowMs : Int)
    {own all : TradeWindow ℝ} (hown : e.reader.localWindow tag instrument e.depth = .ok own)
    (hall : e.reader.globalWindow tag e.depth = .ok all) :
    ∃ s, e.estimate tag instrument nowMs = .ok s ∧
      s.probability.win = winChance e.settings own all := by
  obtain ⟨s, hs⟩ := exists_snapshot e.settings own all nowMs
  exact ⟨s, (estimate_of_windows hown hall nowMs).trans hs, win_of_snapshot hs⟩

/--
**The chance of a win is near to the share of wins.** It is away from it by no more than the weights
of the trades elsewhere and of the prior. Where ages do not count, it tends to that share for more
and more copies of the same trades, whatever the trades elsewhere are.
-/
theorem win_near_share :
    (∀ (e : Estimator ℝ) (tag instrument : String) (nowMs : Int) (own all : TradeWindow ℝ)
        (wins losses : ℝ),
      e.reader.localWindow tag instrument e.depth = .ok own →
      e.reader.globalWindow tag e.depth = .ok all →
      0 ≤ e.settings.priorA → 0 ≤ e.settings.priorB →
      1e-9 ≤ e.settings.priorA + e.settings.priorB →
      own.winLoss e.settings.recencyRate = (wins, losses) → 0 < wins + losses →
      ∃ s, e.estimate tag instrument nowMs = .ok s ∧
        |s.probability.win - wins / (wins + losses)| ≤
          max e.settings.shrinkCount 1e-9 / (own.effectiveCount e.settings.recencyRate +
            max e.settings.shrinkCount 1e-9) +
          (e.settings.priorA + e.settings.priorB) /
            (e.settings.priorA + e.settings.priorB + wins + losses)) ∧
    ∀ (c : Settings ℝ) (mix : TradeWindow ℝ) (e : ℕ → Estimator ℝ) (tag instrument : String)
        (nowMs : Int) (own all : ℕ → TradeWindow ℝ),
      0 ≤ c.priorA → 0 ≤ c.priorB → 1e-9 ≤ c.priorA + c.priorB → c.recencyRate = 0 →
      0 < mix.wins.length + mix.losses.length →
      (∀ m, (e m).settings = c ∧ (own m).Perm (copies m mix) ∧
        (e m).reader.localWindow tag instrument (e m).depth = .ok (own m) ∧
        (e m).reader.globalWindow tag (e m).depth = .ok (all m)) →
      ∃ s : ℕ → Snapshot ℝ, (∀ m, (e m).estimate tag instrument nowMs = .ok (s m)) ∧
        Tendsto (fun m => (s m).probability.win) atTop
          (𝓝 (mix.wins.length / (mix.wins.length + mix.losses.length))) := by
  refine ⟨fun e tag instrument nowMs own all wins losses hown hall hA hB hAB hwinLoss hsome => ?_,
    fun c mix e tag instrument nowMs own all hA hB hAB hrate hsome h => ?_⟩
  · obtain ⟨s, hs, hwin⟩ := exists_estimate_win e tag instrument nowMs hown hall
    have hnear := winChance_near_share own all ⟨hA, hB, hAB⟩ (by rwa [hwinLoss])
    rw [Settings.slack, hwinLoss, ← hwin] at hnear
    exact ⟨s, hs, hnear⟩
  · have hex : ∀ m, ∃ s, (e m).estimate tag instrument nowMs = .ok s ∧
        s.probability.win = winChance c (own m) (all m) := by
      intro m
      obtain ⟨hsettings, -, hown, hall⟩ := h m
      have hs := exists_estimate_win (e m) tag instrument nowMs hown hall
      rwa [hsettings] at hs
    choose s hs hwin using hex
    refine ⟨s, hs, ?_⟩
    have hlimit := tendsto_winChance hrate.le (fun m => (h m).2.1) hsome ⟨hA, hB, hAB⟩ all
    exact hlimit.congr fun m => (hwin m).symm

/-- A win, two losses and a trade that breaks even, once and then over and over. -/
theorem win_near_share_mixed_trades :
    let mix : TradeWindow ℝ := [{ ageDays := 0, pnl := 12, holdingMs := 60000 },
      { ageDays := 3, pnl := -20, holdingMs := 0 }, { ageDays := 1, pnl := 0, holdingMs := 1 },
      { ageDays := 400, pnl := -5, holdingMs := 7200000 }]
    let c : Settings ℝ :=
      { Settings.standard with priorA := 1, priorB := 1, shrinkCount := 1, recencyRate := 0 }
    let e : ℕ → Estimator ℝ := fun m =>
      { settings := c
        reader := { localWindow := fun _ _ _ => .ok (copies m mix)
                    globalWindow := fun _ _ => .ok [] }
        lookback := 0 }
    mix.winLoss c.recencyRate = (1, 2) ∧ mix.effectiveCount c.recencyRate = 4 ∧
    (∃ s, (e 1).estimate "breakout" "BTC" 0 = .ok s ∧
      |s.probability.win - 1 / 3| ≤ 1 / (4 + 1) + 2 / (2 + 1 + 2)) ∧
    ∃ s : ℕ → Snapshot ℝ, (∀ m, (e m).estimate "breakout" "BTC" 0 = .ok (s m)) ∧
      Tendsto (fun m => (s m).probability.win) atTop (𝓝 (1 / 3)) := by
  intro mix c e
  have hwins : mix.wins.length = 1 := by norm_num [mix, wins]
  have hlosses : mix.losses.length = 2 := by norm_num [mix, losses]
  have hwinLoss : mix.winLoss c.recencyRate = (1, 2) := by
    rw [winLoss, weight_of_no_decay le_rfl, weight_of_no_decay le_rfl, hwins, hlosses]
    norm_num
  have hcount : mix.effectiveCount c.recencyRate = 4 := by
    rw [effectiveCount, weight_of_no_decay le_rfl]
    norm_num [mix]
  have hA : 0 ≤ c.priorA := by norm_num [c]
  have hB : 0 ≤ c.priorB := by norm_num [c]
  have hAB : 1e-9 ≤ c.priorA + c.priorB := by norm_num [c]
  have honce : copies 1 mix = mix := by simp [copies]
  refine ⟨hwinLoss, hcount, ?_, ?_⟩
  · obtain ⟨s, hs, hnear⟩ := win_near_share.1 (e 1) "breakout" "BTC" 0 mix [] 1 2
      (congrArg Except.ok honce) rfl hA hB hAB hwinLoss (by norm_num)
    refine ⟨s, hs, ?_⟩
    have hmax : max c.shrinkCount 1e-9 = 1 := by norm_num [c]
    have hprior : c.priorA + c.priorB = 2 := by norm_num [c]
    show |s.probability.win - 1 / 3| ≤ _
    calc |s.probability.win - 1 / 3| = |s.probability.win - 1 / (1 + 2)| := by norm_num
      _ ≤ _ := hnear
      _ = 1 / (4 + 1) + 2 / (2 + 1 + 2) := by
        show max c.shrinkCount 1e-9 / (mix.effectiveCount c.recencyRate + max c.shrinkCount 1e-9) +
          (c.priorA + c.priorB) / (c.priorA + c.priorB + 1 + 2) = _
        rw [hmax, hcount, hprior]
  · obtain ⟨s, hs, hlimit⟩ := win_near_share.2 c mix e "breakout" "BTC" 0 (copies · mix)
      (fun _ => []) hA hB hAB rfl (by omega) fun m => ⟨rfl, .refl _, rfl, rfl⟩
    refine ⟨s, hs, ?_⟩
    rw [hwins, hlosses] at hlimit
    norm_num at hlimit ⊢
    exact hlimit

end Expectancy

end ReturnForecast
