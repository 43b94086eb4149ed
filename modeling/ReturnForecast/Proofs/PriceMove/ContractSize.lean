import ReturnForecast.Proofs.PriceMove.CertainMove

/-!
# Contracts as a quantity

A number of futures contracts stands for a position of their number times their multiplier. A spot
trade of that quantity, at the same price and the same cost in total, has the same outlook if the
quantity exceeds `epsilon`. Below that a spot trade does not take place, while a futures trade,
whose two factors are checked one by one, keeps its cost and loses only its chance.

* `FuturesTrade.SameAs` — the spot trade that a futures trade stands for
* `Outlook.contracts_as_quantity` — both outlooks, for sizes on either side of `epsilon`
-/

namespace ReturnForecast

open Extended

/--
The same position on a spot market: as many units as the contracts stand for, at the same price,
with the same cost in total, however it splits.
-/
structure FuturesTrade.SameAs (future : FuturesTrade ℝ) (spot : SpotTrade ℝ) : Prop where
  price : spot.price = future.price
  quantity : spot.quantity = future.multiplier * future.quantity
  side : spot.side = future.side
  cost : spot.cost = future.cost

/-! ## Both markets -/

namespace Outlook

/--
**Contracts as a quantity.** Both trades always have an outlook, with the same chance. If the
quantity of the contracts exceeds `epsilon`, the whole outlooks are the same. If it does not, there
is no spot trade, while the futures trade has its profit and its deviation without a chance.
-/
theorem contracts_as_quantity (e : Estimate Extended) {position : Position}
    {future : FuturesTrade ℝ} {spot : SpotTrade ℝ} (hsame : future.SameAs spot)
    (hside : future.side = position.name) (hprice : epsilon < future.price)
    (hquantity : epsilon < |future.quantity|) (hmultiplier : epsilon < |future.multiplier|) :
    ∃ f s, ofFutures e future.extended = .ok f ∧ ofSpot e spot.extended = .ok s ∧
      f.pWin = s.pWin ∧
      (epsilon < |spot.quantity| → f = s) ∧
      (|spot.quantity| ≤ epsilon → s = none ∧
        f.ev = position.sign * finite |spot.quantity| *
          ((lognormalMoments (finite future.price) e.mu (usableSigma e.sigma)).1 -
            finite future.price) - finite future.cost ∧
        f.evStd = Scalar.abs (finite |spot.quantity| *
          Scalar.sqrt (lognormalMoments (finite future.price) e.mu (usableSigma e.sigma)).2)) := by
  have hfuture := ofFutures_extended (e := e) hside hprice hquantity hmultiplier
  rw [← hsame.quantity] at hfuture
  rcases le_or_gt |spot.quantity| epsilon with hsize | hsize
  · have hposition := ofPosition_eq (e := e) (winProbability_of_le e.mu (usableSigma e.sigma)
      (finite future.price) position.sign (finite future.cost) hsize)
    exact ⟨_, _, hfuture.trans hposition, ofSpot_extended_of_le hsize, rfl,
      fun h => absurd hsize (not_le.mpr h), fun _ => ⟨rfl, rfl, rfl⟩⟩
  · have hspot := ofSpot_extended (e := e) (hsame.side.trans hside) (hsame.price ▸ hprice) hsize
    rw [hsame.price, hsame.cost] at hspot
    have hposition := ofPosition_eq (e := e)
      (winProbability_finite hprice hsize _ _ position future.cost)
    exact ⟨_, _, hfuture.trans hposition, hspot.trans hposition, rfl, fun _ => rfl,
      fun h => absurd h (not_le.mpr hsize)⟩

/-- Two contracts of ten units, and twenty units at the same cost. -/
theorem contracts_as_quantity_tens :
    ∃ o : Outlook Extended,
      ofFutures { mu := finite 0.002, sigma := finite 0.015 } (FuturesTrade.extended
        { price := 50, quantity := 2, multiplier := 10, side := "long", fee := 1, slippage := 0,
          funding := 0.5, liquidationRisk := 0 }) = .ok o ∧
      ofSpot { mu := finite 0.002, sigma := finite 0.015 } (SpotTrade.extended
        { price := 50, quantity := 20, side := "long", fee := 1.5, slippage := 0, borrow := 0 })
        = .ok o := by
  have hsame : FuturesTrade.SameAs
      { price := 50, quantity := 2, multiplier := 10, side := "long", fee := 1, slippage := 0,
        funding := 0.5, liquidationRisk := 0 }
      { price := 50, quantity := 20, side := "long", fee := 1.5, slippage := 0, borrow := 0 } :=
    ⟨rfl, by norm_num, rfl, by norm_num [SpotTrade.cost, FuturesTrade.cost]⟩
  obtain ⟨f, s, hf, hs, -, hequal, -⟩ :=
    contracts_as_quantity { mu := finite 0.002, sigma := finite 0.015 } hsame
      (rfl : _ = Position.long.name) (epsilon_lt_of_cent_le (by norm_num))
      (epsilon_lt_of_cent_le (by norm_num)) (epsilon_lt_of_cent_le (by norm_num))
  obtain rfl := hequal (epsilon_lt_of_cent_le (by norm_num))
  exact ⟨f, hf, hs⟩

/--
A contract whose number and multiplier exceed `epsilon` one by one, but not as a product, loses its
fee for certain, while the same quantity on a spot market is no trade.
-/
theorem contracts_below_epsilon :
    epsilon < |(1e-10 : ℝ)| ∧
    (∃ f : Outlook Extended,
      ofFutures { mu := finite 0, sigma := finite 0 } (FuturesTrade.extended
        { price := 100, quantity := 1e-10, multiplier := 1e-10, side := "long", fee := 1,
          slippage := 0, funding := 0, liquidationRisk := 0 }) = .ok f ∧
      f.ev = finite (-1) ∧ f.pWin = 0 ∧ f ≠ none) ∧
    ofSpot { mu := finite 0, sigma := finite 0 } (SpotTrade.extended
      { price := 100, quantity := 1e-10 * 1e-10, side := "long", fee := 1, slippage := 0,
        borrow := 0 }) = .ok none := by
  have hprice : epsilon < (100 : ℝ) := epsilon_lt_of_cent_le (by norm_num)
  have hfactor : epsilon < |(1e-10 : ℝ)| := by norm_num [epsilon, twoTo]
  have hproduct : |(1e-10 * 1e-10 : ℝ)| ≤ epsilon := by norm_num [epsilon, twoTo]
  let future : FuturesTrade ℝ :=
    { price := 100, quantity := 1e-10, multiplier := 1e-10, side := "long", fee := 1,
      slippage := 0, funding := 0, liquidationRisk := 0 }
  have hmoments : lognormalMoments (finite 100) (finite 0) (usableSigma (finite 0)) =
      (finite (100 * Real.exp 0), 0) := by
    rw [usableSigma_eq_zero (.inl (finite_le.mpr le_rfl))]
    exact lognormalMoments_zero_sigma 100 maxExponent_nonneg
  have hside : future.side = Position.long.name := rfl
  have hfuture : ofFutures { mu := finite 0, sigma := finite 0 } future.extended = .ok _ :=
    (ofFutures_extended hside hprice hfactor hfactor).trans
      (ofPosition_eq (winProbability_of_le _ _ _ _ _ hproduct))
  have hev : Position.long.sign * finite |1e-10 * 1e-10| *
      ((lognormalMoments (finite 100) (finite 0) (usableSigma (finite 0))).1 - finite 100) -
        finite future.cost = finite (-1) := by
    rw [hmoments, Position.gain_finite]
    norm_num [Position.gain, FuturesTrade.cost, future]
  refine ⟨hfactor, ⟨_, hfuture, hev, rfl, fun hnone => ?_⟩, ofSpot_extended_of_le hproduct⟩
  have hzero : finite (-1) = finite 0 := hev.symm.trans (congrArg Outlook.ev hnone)
  exact absurd (finite.inj hzero) (by norm_num)

end Outlook

end ReturnForecast
