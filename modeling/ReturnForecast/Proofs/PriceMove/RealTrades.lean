import ReturnForecast.Proofs.Scalar.RealValued
import ReturnForecast.Proofs.PriceMove.WinChance

/-!
# Trades at real numbers

An estimate may have a sigma that is no number, and the price at the end may be beyond all numbers,
while a trade itself is made of real numbers. Such a trade is read among the numbers with infinities
and NaN; its size and its breakeven price stay real, and what comes out of it always exists.

* `SpotTrade.extended`, `FuturesTrade.extended` — a trade of real numbers
* `Outlook.ofSpot_extended`, `Outlook.ofFutures_extended` — the position that a trade stands for
* `sqrt?_variance`, `Outlook.ofPosition_eq` — the deviation exists, and with it the outlook
* `breakeven_finite`, `winProbability_finite` — the breakeven price and the chance
-/

namespace ReturnForecast

open Extended

/-! ## Trades -/

/-- A trade of real numbers, among the numbers with infinities and NaN. -/
def SpotTrade.extended (t : SpotTrade ℝ) : SpotTrade Extended where
  price := finite t.price
  quantity := finite t.quantity
  side := t.side
  fee := finite t.fee
  slippage := finite t.slippage
  borrow := finite t.borrow

/-- A trade of real numbers, among the numbers with infinities and NaN. -/
def FuturesTrade.extended (t : FuturesTrade ℝ) : FuturesTrade Extended where
  price := finite t.price
  quantity := finite t.quantity
  multiplier := finite t.multiplier
  side := t.side
  fee := finite t.fee
  slippage := finite t.slippage
  funding := finite t.funding
  liquidationRisk := finite t.liquidationRisk

@[simp] theorem SpotTrade.cost_extended (t : SpotTrade ℝ) : t.extended.cost = finite t.cost := rfl

@[simp] theorem FuturesTrade.cost_extended (t : FuturesTrade ℝ) :
    t.extended.cost = finite t.cost := rfl

/-! ## Guards -/

theorem usablePrice_finite {p0 : ℝ} (h : 0 < p0) : usablePrice (finite p0) = finite p0 :=
  if_neg (show ¬ finite p0 < finite 0 from not_lt.mpr h.le)

theorem finiteAbs_finite (x : ℝ) : finiteAbs (finite x) = finite |x| := rfl

theorem Position.ofName_name (position : Position) : ofName position.name = .ok position := by
  simp [ofName]

namespace Outlook

variable {e : Estimate Extended} {position : Position}

section Spot

variable {t : SpotTrade ℝ}

/-- A spot trade is a position of the size of its quantity. -/
theorem ofSpot_extended (hside : t.side = position.name) (hprice : epsilon < t.price)
    (hquantity : epsilon < |t.quantity|) : ofSpot e t.extended =
      ofPosition e (finite t.price) (finite |t.quantity|) position (finite t.cost) := by
  have husable : usablePrice t.extended.price = finite t.price :=
    usablePrice_finite (epsilon_pos.trans hprice)
  have hsize : finiteAbs t.extended.quantity = finite |t.quantity| := finiteAbs_finite t.quantity
  have hname : t.extended.side = position.name := hside
  simp only [ofSpot, husable, hsize, hname, Position.ofName_name]
  exact if_neg (not_or.mpr ⟨not_finite_le_epsilon hprice, not_finite_le_epsilon hquantity⟩)

/-- A quantity within `epsilon` of zero is no trade, whatever its side. -/
theorem ofSpot_extended_of_le (hquantity : |t.quantity| ≤ epsilon) :
    ofSpot e t.extended = .ok none :=
  if_pos (.inr (finite_le_epsilon.mpr hquantity))

end Spot

/-- A futures trade is a position of the size of its quantity times its multiplier. -/
theorem ofFutures_extended {t : FuturesTrade ℝ} (hside : t.side = position.name)
    (hprice : epsilon < t.price) (hquantity : epsilon < |t.quantity|)
    (hmultiplier : epsilon < |t.multiplier|) : ofFutures e t.extended =
      ofPosition e (finite t.price) (finite |t.multiplier * t.quantity|) position
        (finite t.cost) := by
  have husable : usablePrice t.extended.price = finite t.price :=
    usablePrice_finite (epsilon_pos.trans hprice)
  have hcount : finiteAbs t.extended.quantity = finite |t.quantity| := finiteAbs_finite t.quantity
  have hunits : finiteAbs t.extended.multiplier = finite |t.multiplier| :=
    finiteAbs_finite t.multiplier
  have hname : t.extended.side = position.name := hside
  simp only [ofFutures, husable, hcount, hunits, hname, Position.ofName_name, abs_mul]
  exact if_neg (not_or.mpr ⟨not_finite_le_epsilon hprice,
    not_or.mpr ⟨not_finite_le_epsilon hquantity, not_finite_le_epsilon hmultiplier⟩⟩)

end Outlook

/-! ## The deviation of the price -/

theorem infinity_eq : (infinity : Extended) = infinite false := by
  have hsign : decide ((1 : ℝ) < 0) = false := decide_eq_false (not_lt.mpr zero_le_one)
  calc (infinity : Extended)
      = if (1 : ℝ) = 0 then nan else infinite (decide ((1 : ℝ) < 0)) := if_pos rfl
    _ = infinite false := by rw [if_neg one_ne_zero, hsign]

/-- The variance of the price is never negative, also where it is infinite or NaN. -/
theorem sqrt?_variance (p0 mu sigma : Extended) :
    sqrt? (lognormalMoments p0 mu sigma).2 =
      .ok (Scalar.sqrt (lognormalMoments p0 mu sigma).2) := by
  refine if_neg ?_
  unfold lognormalMoments
  simp only
  split
  · rw [infinity_eq]
    exact Bool.false_ne_true
  · exact not_mul_lt_zero (not_mul_self_lt_zero _) (not_larger_zero_lt_zero _)

/-- A position has the outlook of its parts if it has a chance. -/
theorem Outlook.ofPosition_eq {e : Estimate Extended} {position : Position}
    {p0 scale cost pWin : Extended}
    (hwin : winProbability e.mu (usableSigma e.sigma) p0 scale position.sign cost = .ok pWin) :
    ofPosition e p0 scale position cost = .ok {
      ev := position.sign * scale * ((lognormalMoments p0 e.mu (usableSigma e.sigma)).1 - p0) - cost
      evStd := Scalar.abs (scale *
        Scalar.sqrt (lognormalMoments p0 e.mu (usableSigma e.sigma)).2)
      pWin } := by
  simp only [ofPosition, sqrt?_variance, hwin]
  rfl

/-! ## The breakeven price -/

/-- The sign of a position tells the two directions apart. -/
theorem Position.ite_sign {β : Type} (position : Position) (a b : β) :
    (if (0 : Extended) < position.sign then a else b) =
      match position with
      | long => a
      | short => b := by
  cases position with
  | long => exact if_pos (finite_lt.mpr one_pos)
  | short => exact if_neg (mt finite_lt.mp (not_lt.mpr (neg_nonpos.mpr zero_le_one)))

/-- The breakeven price of a position is real, as it is over the reals. -/
theorem breakeven_finite (position : Position) (p0 : ℝ) {scale : ℝ} (hscale : epsilon < scale)
    (cost : ℝ) : breakeven (finite p0) (finite scale) position.sign (finite cost) =
      .ok (finite (position.threshold p0 scale cost)) := by
  have hpos : 0 < scale := epsilon_pos.trans hscale
  have hzero : ¬ IsZero (finite scale) := fun h => not_le.mpr hpos (finite_le.mp h.1)
  unfold breakeven div?
  rw [if_neg hzero, finite_div hpos.ne']
  refine (congrArg Except.ok (position.ite_sign _ _)).trans ?_
  cases position <;> rfl

/-! ## The chance of a profit -/

/-- The chance of a profit of a real position, for an estimate that may be infinite or NaN. -/
noncomputable def Position.extendedChance (position : Position) (p0 scale cost : ℝ)
    (mu sigma : Extended) : Extended :=
  if position.threshold p0 scale cost ≤ 0 then
    match position with
    | long => 1
    | short => 0
  else
    let edge := finite (Real.log (position.threshold p0 scale cost / p0))
    if sigma ≤ epsilon then
      match position with
      | long => if edge < mu then 1 else 0
      | short => if mu < edge then 1 else 0
    else
      match position with
      | long => 1 - normalCdf ((edge - mu) / sigma)
      | short => normalCdf ((edge - mu) / sigma)

/-- A real position of a size has a chance, whatever the estimate. -/
theorem winProbability_finite {p0 scale : ℝ} (hprice : epsilon < p0) (hscale : epsilon < scale)
    (mu sigma : Extended) (position : Position) (cost : ℝ) :
    winProbability mu sigma (finite p0) (finite scale) position.sign (finite cost) =
      .ok (position.extendedChance p0 scale cost mu sigma) := by
  have hp0 : 0 < p0 := epsilon_pos.trans hprice
  unfold winProbability Position.extendedChance
  rw [if_neg (not_or.mpr ⟨not_finite_le_epsilon hscale, not_finite_le_epsilon hprice⟩),
    breakeven_finite position p0 hscale]
  show (if finite (position.threshold p0 scale cost) ≤ finite 0 then _ else _) = _
  by_cases hthreshold : position.threshold p0 scale cost ≤ 0
  · rw [if_pos (finite_le.mpr hthreshold), if_pos hthreshold, position.ite_sign]
  · rw [if_neg (mt finite_le.mp hthreshold), if_neg hthreshold, finite_div hp0.ne',
      log?_finite (div_pos (not_le.mp hthreshold) hp0)]
    show (if sigma ≤ epsilon then _ else _) = _
    split
    · rw [position.ite_sign]
    · next hsigma =>
      have hzero : ¬ IsZero sigma := fun h =>
        hsigma (isZero_iff.mp h ▸ finite_le_epsilon.mpr epsilon_pos.le)
      rw [div?, if_neg hzero]
      exact congrArg Except.ok (position.ite_sign _ _)

/-- A size within `epsilon` of zero has no chance. -/
theorem winProbability_of_le (mu sigma p0 signed cost : Extended) {scale : ℝ}
    (h : scale ≤ epsilon) : winProbability mu sigma p0 (finite scale) signed cost = .ok 0 :=
  if_pos (.inl (finite_le_epsilon.mpr h))

end ReturnForecast
