import ReturnForecast.Proofs.PriceMove.RealTrades

/-!
# A move without a spread

An estimate whose sigma is not positive, or no number, moves the price by its mean for certain. The
profit is then one number, and the chance of a profit is one exactly if that number is positive: the
comparison with the breakeven price in log space agrees with the profit at the end.

* `Position.gain` — the profit of a position at a price at the end
* `Position.chance_zero_sigma` — the comparison in log space by the sign of the profit
* `lognormalMoments_zero_sigma` — the price at the end, without a variance
* `Outlook.ofPosition_zero_sigma` — the outlook of a position
* `Outlook.chance_agrees_with_profit` — spot and futures trades
-/

namespace ReturnForecast

open Extended

/-! ## The profit at a price -/

namespace Position

/-- The profit of a position of a size, entered at a price and left at another one. -/
noncomputable def gain (position : Position) (p0 scale cost final : ℝ) : ℝ :=
  position.sign * scale * (final - p0) - cost

/-- The profit of a real position is real. -/
theorem gain_finite (position : Position) (p0 scale cost final : ℝ) :
    position.sign * finite scale * (finite final - finite p0) - finite cost =
      finite (position.gain p0 scale cost final) := by
  cases position <;> rfl

section Chance

variable {p0 scale : ℝ}

/-- The profit is made between the breakeven price and the price at the end. -/
theorem gain_eq (hscale : 0 < scale) (position : Position) (cost final : ℝ) :
    position.gain p0 scale cost final =
      scale * (position.sign * (final - position.threshold p0 scale cost)) := by
  cases position with
  | long =>
    show 1 * scale * (final - p0) - cost = scale * (1 * (final - (p0 + cost / scale)))
    field_simp
    ring
  | short =>
    show -1 * scale * (final - p0) - cost = scale * (-1 * (final - (p0 - cost / scale)))
    field_simp
    ring

/-- A long position wins above its breakeven price, a short one below. -/
theorem gain_pos_iff (hscale : 0 < scale) (position : Position) (cost final : ℝ) :
    0 < position.gain p0 scale cost final ↔
      match position with
      | long => long.threshold p0 scale cost < final
      | short => final < short.threshold p0 scale cost := by
  rw [gain_eq hscale, mul_pos_iff_of_pos_left hscale]
  cases position with
  | long =>
    show 0 < 1 * (final - long.threshold p0 scale cost) ↔ _
    rw [one_mul, sub_pos]
  | short =>
    show 0 < -1 * (final - short.threshold p0 scale cost) ↔ _
    rw [neg_one_mul, neg_sub, sub_pos]

/-- The edge in log space is below the mean exactly if the price ends above the threshold. -/
theorem edge_neg_iff {threshold : ℝ} (hprice : 0 < p0) (hthreshold : 0 < threshold) (mu : ℝ) :
    Real.log (threshold / p0) - mu < 0 ↔ threshold < p0 * Real.exp mu := by
  rw [sub_neg, Real.log_lt_iff_lt_exp (div_pos hthreshold hprice), div_lt_iff₀' hprice]

theorem edge_pos_iff {threshold : ℝ} (hprice : 0 < p0) (hthreshold : 0 < threshold) (mu : ℝ) :
    0 < Real.log (threshold / p0) - mu ↔ p0 * Real.exp mu < threshold := by
  rw [sub_pos, Real.lt_log_iff_exp_lt (div_pos hthreshold hprice), lt_div_iff₀' hprice]

/-- Without a sigma the chance is one or zero, by the sign of the profit. -/
theorem chance_zero_sigma (hprice : 0 < p0) (hscale : 0 < scale) (position : Position)
    (mu cost : ℝ) : position.chance p0 scale mu 0 cost =
      if 0 < position.gain p0 scale cost (p0 * Real.exp mu) then 1 else 0 := by
  have hfinal : 0 < p0 * Real.exp mu := mul_pos hprice (Real.exp_pos mu)
  have hsigma : (0 : ℝ) ≤ epsilon := epsilon_pos.le
  cases position with
  | long =>
    simp only [chance, chanceAbove, if_pos hsigma, gain_pos_iff hscale]
    by_cases hthreshold : long.threshold p0 scale cost ≤ 0
    · -- The price at the end is positive, so it lies above the threshold.
      rw [if_pos hthreshold, if_pos (hthreshold.trans_lt hfinal)]
    · rw [if_neg hthreshold]
      exact if_congr (edge_neg_iff hprice (not_le.mp hthreshold) mu) rfl rfl
  | short =>
    simp only [chance, chanceBelow, if_pos hsigma, gain_pos_iff hscale]
    by_cases hthreshold : short.threshold p0 scale cost ≤ 0
    · rw [if_pos hthreshold, if_neg (not_lt.mpr (hthreshold.trans hfinal.le))]
    · rw [if_neg hthreshold]
      exact if_congr (edge_pos_iff hprice (not_le.mp hthreshold) mu) rfl rfl

end Chance

end Position

/-! ## The chance and the moments -/

/-- A sigma that is not positive, or no number, stands for none. -/
theorem usableSigma_eq_zero {sigma : Extended}
    (h : sigma ≤ 0 ∨ Scalar.isFinite sigma = false) : usableSigma sigma = 0 := by
  refine if_neg ?_
  rw [Bool.and_eq_true, decide_eq_true_eq]
  rintro ⟨hfinite, hpos⟩
  obtain ⟨x, rfl⟩ := isFinite_iff.mp hfinite
  rcases h with h | h
  · exact not_lt.mpr (finite_le.mp h) (finite_lt.mp hpos)
  · exact Bool.noConfusion h

/-- The chance of a profit without a sigma is that over the reals. -/
theorem Position.extendedChance_zero_sigma (position : Position) (p0 scale mu cost : ℝ) :
    position.extendedChance p0 scale cost (finite mu) 0 =
      finite (position.chance p0 scale mu 0 cost) := by
  have hsigma : (0 : Extended) ≤ epsilon := finite_le_epsilon.mpr epsilon_pos.le
  cases position with
  | long =>
    simp only [extendedChance, chance, chanceAbove, if_pos hsigma, if_pos epsilon_pos.le, sub_neg,
      finite_lt, apply_ite finite]
    rfl
  | short =>
    simp only [extendedChance, chance, chanceBelow, if_pos hsigma, if_pos epsilon_pos.le, sub_pos,
      finite_lt, apply_ite finite]
    rfl

theorem one_le_largestFinite : (1 : ℝ) ≤ largestFinite := by
  have htwo : 0 < twoTo 53 - 1 := by decide
  exact Nat.one_le_cast.mpr (Nat.mul_pos htwo (twoTo_pos 971))

theorem maxExponent_eq : (maxExponent : Extended) = finite maxExponent := by
  have hpos : (0 : ℝ) < largestFinite := one_pos.trans_le one_le_largestFinite
  show log (finite largestFinite) = _
  rw [log, if_neg (not_lt.mpr hpos.le), if_neg hpos.ne']
  rfl

theorem maxExponent_nonneg : (0 : ℝ) ≤ maxExponent := Real.log_nonneg one_le_largestFinite

/-- Without a sigma the price moves by the mean and has no variance. -/
theorem lognormalMoments_zero_sigma (p0 : ℝ) {mu : ℝ} (hmu : mu ≤ maxExponent) :
    lognormalMoments (finite p0) (finite mu) 0 = (finite (p0 * Real.exp mu), 0) := by
  have hsquare : (0 : Extended) * 0 = 0 := congrArg finite (mul_zero 0)
  have hgrowth : finite mu + 0.5 * 0 = finite mu :=
    congrArg finite (by ring : mu + 0.5 * 0 = mu)
  have hbound : ¬ ((maxExponent : Extended) < finite mu ∨ (maxExponent : Extended) < 0) := by
    rw [maxExponent_eq, zero_eq, finite_lt, finite_lt]
    exact not_or.mpr ⟨not_lt.mpr hmu, not_lt.mpr maxExponent_nonneg⟩
  have hspread : larger (Scalar.expm1 (0 : Extended)) 0 = 0 := by
    have hexp : Scalar.expm1 (0 : Extended) = 0 :=
      congrArg finite (by rw [Real.exp_zero, sub_self])
    rw [hexp]
    exact ite_self 0
  have hfinal : finite p0 * Scalar.exp (finite mu) = finite (p0 * Real.exp mu) := rfl
  have hvariance (x : ℝ) : finite x * finite x * 0 = 0 := congrArg finite (mul_zero (x * x))
  unfold lognormalMoments
  simp only [hsquare, hgrowth, hspread, hfinal, hvariance]
  exact if_neg hbound

/-! ## The outlook -/

namespace Outlook

/-- A profit that is certain. -/
noncomputable def certain (gain : ℝ) : Outlook Extended where
  ev := finite gain
  evStd := 0
  pWin := if 0 < gain then 1 else 0

/-- The outlook knows whether there is a profit, and its chance and its mean say the same. -/
structure IsCertain (o : Outlook Extended) : Prop where
  evStd : o.evStd = 0
  pWin : o.pWin = 0 ∨ o.pWin = 1
  win_iff : o.pWin = 1 ↔ 0 < o.ev

theorem isCertain_certain (gain : ℝ) : (certain gain).IsCertain := by
  have hne : (0 : Extended) ≠ 1 := fun h => zero_ne_one (finite.inj h)
  by_cases hgain : 0 < gain
  · have hwin : (certain gain).pWin = 1 := if_pos hgain
    exact ⟨rfl, .inr hwin, iff_of_true hwin (finite_lt.mpr hgain)⟩
  · have hwin : (certain gain).pWin = 0 := if_neg hgain
    exact ⟨rfl, .inl hwin, iff_of_false (hwin ▸ hne) (mt finite_lt.mp hgain)⟩

/-- Without a sigma a position has its profit at the price at the end for certain. -/
theorem ofPosition_zero_sigma {p0 scale mu : ℝ} {sigma : Extended} (hprice : epsilon < p0)
    (hscale : epsilon < scale) (hmu : mu ≤ maxExponent)
    (hsigma : sigma ≤ 0 ∨ Scalar.isFinite sigma = false) (position : Position) (cost : ℝ) :
    ofPosition { mu := finite mu, sigma } (finite p0) (finite scale) position (finite cost) =
      .ok (certain (position.gain p0 scale cost (p0 * Real.exp mu))) := by
  have hmoments : lognormalMoments (finite p0) (finite mu) (usableSigma sigma) =
      (finite (p0 * Real.exp mu), 0) := by
    rw [usableSigma_eq_zero hsigma, lognormalMoments_zero_sigma p0 hmu]
  have hwin : position.extendedChance p0 scale cost (finite mu) (usableSigma sigma) =
      (certain (position.gain p0 scale cost (p0 * Real.exp mu))).pWin := by
    rw [usableSigma_eq_zero hsigma, position.extendedChance_zero_sigma,
      Position.chance_zero_sigma (epsilon_pos.trans hprice) (epsilon_pos.trans hscale),
      apply_ite finite]
    rfl
  have hroot : Scalar.sqrt (0 : Extended) = 0 :=
    (if_neg (lt_irrefl (0 : ℝ))).trans (congrArg finite Real.sqrt_zero)
  have hstd : Scalar.abs (finite scale * 0) = 0 := congrArg finite (by rw [mul_zero, abs_zero])
  rw [ofPosition_eq (e := { mu := finite mu, sigma })
    (winProbability_finite hprice hscale (finite mu) (usableSigma sigma) position cost), hmoments,
    Position.gain_finite, hroot, hstd, hwin]
  rfl

/--
**Profit and chance agree.** Where the estimate has no usable sigma, the profit of a spot or futures
trade is certain, whatever it costs: it does not spread, and it has the chance one exactly if it is
positive.
-/
theorem chance_agrees_with_profit {mu : ℝ} {sigma : Extended} (hmu : mu ≤ maxExponent)
    (hsigma : sigma ≤ 0 ∨ Scalar.isFinite sigma = false) (position : Position) :
    (∀ t : SpotTrade ℝ, t.side = position.name → epsilon < t.price → epsilon < |t.quantity| →
      ∃ o, ofSpot { mu := finite mu, sigma } t.extended = .ok o ∧ o.IsCertain ∧
        o.ev = finite (position.gain t.price |t.quantity| t.cost (t.price * Real.exp mu))) ∧
    (∀ t : FuturesTrade ℝ, t.side = position.name → epsilon < t.price → epsilon < |t.quantity| →
      epsilon < |t.multiplier| → epsilon < |t.multiplier * t.quantity| →
      ∃ o, ofFutures { mu := finite mu, sigma } t.extended = .ok o ∧ o.IsCertain ∧
        o.ev = finite (position.gain t.price |t.multiplier * t.quantity| t.cost
          (t.price * Real.exp mu))) := by
  constructor
  · intro t hside hprice hquantity
    refine ⟨_, ?_, isCertain_certain _, rfl⟩
    rw [ofSpot_extended hside hprice hquantity]
    exact ofPosition_zero_sigma hprice hquantity hmu hsigma position t.cost
  · intro t hside hprice hquantity hmultiplier hsize
    refine ⟨_, ?_, isCertain_certain _, rfl⟩
    rw [ofFutures_extended hside hprice hquantity hmultiplier]
    exact ofPosition_zero_sigma hprice hsize hmu hsigma position t.cost

/-- A long position paid more than its price to hold wins; a short one that costs more cannot. -/
theorem chance_agrees_with_profit_beyond_price :
    ∃ o p : Outlook Extended,
      ofSpot { mu := 0, sigma := nan } (SpotTrade.extended
        { price := 100, quantity := 2, side := "long", fee := 0, slippage := 0, borrow := -250 })
        = .ok o ∧ o.ev = finite 250 ∧ o.pWin = 1 ∧
      ofFutures { mu := 0, sigma := nan } (FuturesTrade.extended
        { price := 100, quantity := 3, multiplier := -2, side := "short", fee := 700,
          slippage := 0, funding := 0, liquidationRisk := 0 })
        = .ok p ∧ p.ev = finite (-700) ∧ p.pWin = 0 := by
  have hone {x : ℝ} (h : 1 ≤ x) : epsilon < x := epsilon_lt_of_cent_le (le_trans (by norm_num) h)
  have hnan : nan ≤ 0 ∨ Scalar.isFinite nan = false := .inr rfl
  have hlaw := chance_agrees_with_profit maxExponent_nonneg hnan
  obtain ⟨o, ho, hcertain, hev⟩ := (hlaw .long).1
    { price := 100, quantity := 2, side := "long", fee := 0, slippage := 0, borrow := -250 }
    rfl (hone (by norm_num)) (hone (by norm_num))
  obtain ⟨p, hp, pcertain, pev⟩ := (hlaw .short).2
    { price := 100, quantity := 3, multiplier := -2, side := "short", fee := 700, slippage := 0,
      funding := 0, liquidationRisk := 0 }
    rfl (hone (by norm_num)) (hone (by norm_num)) (hone (by norm_num)) (hone (by norm_num))
  have hgain : o.ev = finite 250 := by
    rw [hev]
    norm_num [Position.gain, SpotTrade.cost]
  have hloss : p.ev = finite (-700) := by
    rw [pev]
    norm_num [Position.gain, FuturesTrade.cost]
  refine ⟨o, p, ho, hgain, ?_, hp, hloss, ?_⟩
  · rw [hcertain.win_iff, hgain]
    exact finite_lt.mpr (by norm_num)
  · refine pcertain.pWin.resolve_right fun hwin => ?_
    have hpos := pcertain.win_iff.mp hwin
    rw [hloss] at hpos
    exact absurd (finite_lt.mp hpos) (by norm_num)

end Outlook

end ReturnForecast
