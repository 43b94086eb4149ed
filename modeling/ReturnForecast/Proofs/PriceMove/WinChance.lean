import ReturnForecast.Proofs.PriceMove.NormalLaw
import ReturnForecast.PriceMove

/-!
# The chance of a profit over exact reals

A long position wins if the price ends above its breakeven, a short one if it ends below. Both
chances are those of a move in log space against an edge, except where the breakeven price is not
positive.

* `chanceAbove`, `chanceBelow` — the chance of a move beyond an edge; opposite and monotone
* `winProbability_eq` — the chance of a profit by the breakeven price of the position
* `chance_long_monotone`, `chance_short_antitone` — its dependence on the mean
* `chance_antitone_cost` — its dependence on the cost
* `winProbability_laws` — all laws of one trade
-/

namespace ReturnForecast

/-! ## Moves against an edge -/

/-- The chance that a move without mean ends above an edge. Without a sigma it does not move. -/
noncomputable def chanceAbove (sigma edge : ℝ) : ℝ :=
  if sigma ≤ epsilon then (if edge < 0 then 1 else 0) else 1 - normalCdf (edge / sigma)

/-- The chance that it ends below an edge. -/
noncomputable def chanceBelow (sigma edge : ℝ) : ℝ :=
  if sigma ≤ epsilon then (if 0 < edge then 1 else 0) else normalCdf (edge / sigma)

section Edge

variable {sigma : ℝ}

theorem chanceAbove_of_sigma (h : epsilon < sigma) (edge : ℝ) :
    chanceAbove sigma edge = 1 - normalCdf (edge / sigma) := if_neg (not_le.mpr h)

theorem chanceBelow_of_sigma (h : epsilon < sigma) (edge : ℝ) :
    chanceBelow sigma edge = normalCdf (edge / sigma) := if_neg (not_le.mpr h)

theorem chanceAbove_add_chanceBelow (h : epsilon < sigma) (edge : ℝ) :
    chanceAbove sigma edge + chanceBelow sigma edge = 1 := by
  rw [chanceAbove_of_sigma h, chanceBelow_of_sigma h]
  ring

theorem chanceBelow_strictMono (h : epsilon < sigma) : StrictMono (chanceBelow sigma) := by
  intro x y hxy
  rw [chanceBelow_of_sigma h, chanceBelow_of_sigma h]
  exact normalCdf_strictMono (div_lt_div_of_pos_right hxy (epsilon_pos.trans h))

theorem chanceAbove_strictAnti (h : epsilon < sigma) : StrictAnti (chanceAbove sigma) := by
  intro x y hxy
  have hx := chanceAbove_add_chanceBelow h x
  have hy := chanceAbove_add_chanceBelow h y
  have hbelow := chanceBelow_strictMono h hxy
  linarith

/-- Without a sigma the chances are steps, zero where the edge is just met. -/
theorem chanceBelow_monotone (sigma : ℝ) : Monotone (chanceBelow sigma) := by
  rcases le_or_gt sigma epsilon with h | h
  · intro x y hxy
    simp only [chanceBelow, if_pos h]
    split
    · next hx => rw [if_pos (lt_of_lt_of_le hx hxy)]
    · split <;> norm_num
  · exact (chanceBelow_strictMono h).monotone

theorem chanceAbove_antitone (sigma : ℝ) : Antitone (chanceAbove sigma) := by
  rcases le_or_gt sigma epsilon with h | h
  · intro x y hxy
    simp only [chanceAbove, if_pos h]
    split
    · next hy => rw [if_pos (lt_of_le_of_lt hxy hy)]
    · split <;> norm_num
  · exact (chanceAbove_strictAnti h).antitone

theorem chanceAbove_mem (sigma edge : ℝ) : chanceAbove sigma edge ∈ Set.Icc 0 1 := by
  rcases le_or_gt sigma epsilon with h | h
  · simp only [chanceAbove, if_pos h]
    split <;> norm_num
  · have hcdf := normalCdf_mem (edge / sigma)
    rw [chanceAbove_of_sigma h]
    exact ⟨by linarith [hcdf.2], by linarith [hcdf.1]⟩

theorem chanceBelow_mem (sigma edge : ℝ) : chanceBelow sigma edge ∈ Set.Icc 0 1 := by
  rcases le_or_gt sigma epsilon with h | h
  · simp only [chanceBelow, if_pos h]
    split <;> norm_num
  · rw [chanceBelow_of_sigma h]
    exact Set.Ioo_subset_Icc_self (normalCdf_mem (edge / sigma))

/-- A move cannot end both above an edge and below a lower one. -/
theorem chanceAbove_add_chanceBelow_le {low high : ℝ} (hle : low ≤ high) :
    chanceAbove sigma high + chanceBelow sigma low ≤ 1 := by
  rcases le_or_gt sigma epsilon with h | h
  · simp only [chanceAbove, chanceBelow, if_pos h]
    split
    · next hhigh => rw [if_neg (not_lt.mpr (hle.trans hhigh.le))]; norm_num
    · split <;> norm_num
  · have hsum := chanceAbove_add_chanceBelow h high
    have hbelow := chanceBelow_monotone sigma hle
    linarith

end Edge

namespace Position

/-! ## Positions -/

/-- The direction that a sign stands for. -/
noncomputable def ofSign (signed : ℝ) : Position := if 0 < signed then long else short

/-- The price at which a position pays its cost. -/
noncomputable def threshold (position : Position) (p0 scale cost : ℝ) : ℝ :=
  match position with
  | long => p0 + cost / scale
  | short => p0 - cost / scale

/-- The chance of a profit. A price that is not positive is always cleared from above. -/
noncomputable def chance (position : Position) (p0 scale mu sigma cost : ℝ) : ℝ :=
  match position with
  | long =>
    if long.threshold p0 scale cost ≤ 0 then 1
    else chanceAbove sigma (Real.log (long.threshold p0 scale cost / p0) - mu)
  | short =>
    if short.threshold p0 scale cost ≤ 0 then 0
    else chanceBelow sigma (Real.log (short.threshold p0 scale cost / p0) - mu)

end Position

section Trade

variable {p0 scale : ℝ}

theorem breakeven_eq (hscale : epsilon < scale) (signed cost : ℝ) : breakeven p0 scale signed cost =
    .ok ((Position.ofSign signed).threshold p0 scale cost) := by
  have hzero : ¬ IsZero scale := fun h => not_le.mpr (epsilon_pos.trans hscale) h.1
  unfold breakeven div? Position.ofSign
  rw [if_neg hzero]
  by_cases h : 0 < signed
  · rw [if_pos h]
    exact congrArg Except.ok (if_pos h)
  · rw [if_neg h]
    exact congrArg Except.ok (if_neg h)

/-- The chance of a profit is that of clearing the breakeven price of the position. -/
theorem winProbability_eq (hprice : epsilon < p0) (hscale : epsilon < scale)
    (mu sigma signed cost : ℝ) : winProbability mu sigma p0 scale signed cost =
      .ok ((Position.ofSign signed).chance p0 scale mu sigma cost) := by
  unfold winProbability
  rw [if_neg (not_or.mpr ⟨not_le.mpr hscale, not_le.mpr hprice⟩), breakeven_eq hscale]
  show (if (Position.ofSign signed).threshold p0 scale cost ≤ 0 then _ else _) = _
  have hratio {threshold : ℝ} (h : ¬ threshold ≤ 0) : 0 < threshold / p0 :=
    div_pos (not_le.mp h) (epsilon_pos.trans hprice)
  by_cases hsign : 0 < signed
  · simp only [Position.ofSign, if_pos hsign, Position.chance]
    split
    · rfl
    · next hthreshold =>
      rw [log?_of_pos (hratio hthreshold)]
      show (if sigma ≤ epsilon then _ else _) = _
      unfold chanceAbove
      split
      · exact congrArg Except.ok (if_congr sub_neg.symm rfl rfl)
      · next hsigma =>
        rw [div?_of_pos (epsilon_pos.trans (not_le.mp hsigma))]
        rfl
  · simp only [Position.ofSign, if_neg hsign, Position.chance]
    split
    · rfl
    · next hthreshold =>
      rw [log?_of_pos (hratio hthreshold)]
      show (if sigma ≤ epsilon then _ else _) = _
      unfold chanceBelow
      split
      · exact congrArg Except.ok (if_congr sub_pos.symm rfl rfl)
      · next hsigma =>
        rw [div?_of_pos (epsilon_pos.trans (not_le.mp hsigma))]
        rfl

end Trade

namespace Position

/-! ## Laws of the chance -/

variable {p0 scale : ℝ}

theorem chance_mem (position : Position) (p0 scale mu sigma cost : ℝ) :
    position.chance p0 scale mu sigma cost ∈ Set.Icc 0 1 := by
  cases position with
  | long =>
    unfold chance
    simp only
    split
    · norm_num
    · exact chanceAbove_mem _ _
  | short =>
    unfold chance
    simp only
    split
    · norm_num
    · exact chanceBelow_mem _ _

theorem chance_long_monotone (p0 scale sigma cost : ℝ) :
    Monotone fun mu => long.chance p0 scale mu sigma cost := by
  intro mu nu h
  unfold chance
  simp only
  split
  · exact le_rfl
  · exact chanceAbove_antitone sigma (sub_le_sub_left h _)

theorem chance_short_antitone (p0 scale sigma cost : ℝ) :
    Antitone fun mu => short.chance p0 scale mu sigma cost := by
  intro mu nu h
  unfold chance
  simp only
  split
  · exact le_rfl
  · exact chanceBelow_monotone sigma (sub_le_sub_left h _)

theorem chance_long_strictMono {sigma cost : ℝ} (hsigma : epsilon < sigma)
    (h : 0 < long.threshold p0 scale cost) :
    StrictMono fun mu => long.chance p0 scale mu sigma cost := by
  intro mu nu hlt
  unfold chance
  simp only [if_neg (not_le.mpr h)]
  exact chanceAbove_strictAnti hsigma (sub_lt_sub_left hlt _)

theorem chance_short_strictAnti {sigma cost : ℝ} (hsigma : epsilon < sigma)
    (h : 0 < short.threshold p0 scale cost) :
    StrictAnti fun mu => short.chance p0 scale mu sigma cost := by
  intro mu nu hlt
  unfold chance
  simp only [if_neg (not_le.mpr h)]
  exact chanceBelow_strictMono hsigma (sub_lt_sub_left hlt _)

/-! ### Dependence on the cost -/

theorem threshold_long_monotone (hscale : 0 < scale) (p0 : ℝ) :
    Monotone (long.threshold p0 scale) := fun _ _ h =>
  add_le_add_right (div_le_div_of_nonneg_right h hscale.le) p0

theorem threshold_short_antitone (hscale : 0 < scale) (p0 : ℝ) :
    Antitone (short.threshold p0 scale) := fun _ _ h =>
  sub_le_sub_left (div_le_div_of_nonneg_right h hscale.le) p0

/-- A higher breakeven price is a higher edge. -/
theorem edge_le {low high : ℝ} (hprice : 0 < p0) (hlow : ¬ low ≤ 0) (h : low ≤ high) (mu : ℝ) :
    Real.log (low / p0) - mu ≤ Real.log (high / p0) - mu :=
  sub_le_sub_right (Real.log_le_log (div_pos (not_le.mp hlow) hprice)
    (div_le_div_of_nonneg_right h hprice.le)) mu

/-- A cost lowers the chance, also where it brings the breakeven price across zero. -/
theorem chance_antitone_cost (hprice : 0 < p0) (hscale : 0 < scale) (position : Position)
    (mu sigma : ℝ) : Antitone fun cost => position.chance p0 scale mu sigma cost := by
  intro low high h
  cases position with
  | long =>
    have hthreshold := threshold_long_monotone hscale p0 h
    -- The lower threshold decides: where it is cleared for certain, the chance cannot rise.
    by_cases hlow : long.threshold p0 scale low ≤ 0
    · simp only [chance, if_pos hlow]
      exact (chance_mem long p0 scale mu sigma high).2
    · have hhigh : ¬ long.threshold p0 scale high ≤ 0 := fun hle => hlow (hthreshold.trans hle)
      simp only [chance, if_neg hlow, if_neg hhigh]
      exact chanceAbove_antitone sigma (edge_le hprice hlow hthreshold mu)
  | short =>
    have hthreshold := threshold_short_antitone hscale p0 h
    -- Here the higher cost gives the lower threshold, and with it the chance that is zero first.
    by_cases hhigh : short.threshold p0 scale high ≤ 0
    · simp only [chance, if_pos hhigh]
      exact (chance_mem short p0 scale mu sigma low).1
    · have hlow : ¬ short.threshold p0 scale low ≤ 0 := fun hle => hhigh (hthreshold.trans hle)
      simp only [chance, if_neg hlow, if_neg hhigh]
      exact chanceBelow_monotone sigma (edge_le hprice hhigh hthreshold mu)

/-! ### Both sides of a trade -/

/-- With a cost the long side pays it above the price at which the short side does. -/
theorem threshold_short_le_long (hscale : 0 < scale) (p0 : ℝ) {cost : ℝ} (hcost : 0 ≤ cost) :
    short.threshold p0 scale cost ≤ long.threshold p0 scale cost := by
  have hoffset : 0 ≤ cost / scale := div_nonneg hcost hscale.le
  show p0 - cost / scale ≤ p0 + cost / scale
  linarith

theorem chance_long_add_short_le (hprice : 0 < p0) (hscale : 0 < scale) (mu sigma : ℝ) {cost : ℝ}
    (hcost : 0 ≤ cost) :
    long.chance p0 scale mu sigma cost + short.chance p0 scale mu sigma cost ≤ 1 := by
  have hthreshold := threshold_short_le_long hscale p0 hcost
  by_cases hshort : short.threshold p0 scale cost ≤ 0
  · have hzero : short.chance p0 scale mu sigma cost = 0 := if_pos hshort
    rw [hzero, add_zero]
    exact (chance_mem long p0 scale mu sigma cost).2
  · have hlong : ¬ long.threshold p0 scale cost ≤ 0 := fun hle => hshort (hthreshold.trans hle)
    simp only [chance, if_neg hshort, if_neg hlong]
    exact chanceAbove_add_chanceBelow_le (edge_le hprice hshort hthreshold mu)

/-- Without a cost both sides have the price itself as their breakeven. -/
theorem chance_long_add_short (hprice : 0 < p0) (scale mu : ℝ) {sigma : ℝ}
    (hsigma : epsilon < sigma) :
    long.chance p0 scale mu sigma 0 + short.chance p0 scale mu sigma 0 = 1 := by
  have hlong : long.threshold p0 scale 0 = p0 := by simp [threshold]
  have hshort : short.threshold p0 scale 0 = p0 := by simp [threshold]
  simp only [chance, hlong, hshort, if_neg (not_le.mpr hprice)]
  exact chanceAbove_add_chanceBelow hsigma _

end Position

section Laws

open Position

/--
**The chance of a profit** is a probability; it rises with the mean for a long position and falls
for a short one, falls with the cost for both, and leaves no room for both sides to win.
-/
theorem winProbability_laws {p0 scale : ℝ} (hprice : epsilon < p0) (hscale : epsilon < scale) :
    (∀ signed cost,
      breakeven p0 scale signed cost = .ok ((ofSign signed).threshold p0 scale cost)) ∧
    (∀ mu sigma signed cost, winProbability mu sigma p0 scale signed cost =
      .ok ((ofSign signed).chance p0 scale mu sigma cost)) ∧
    (∀ position mu sigma cost, chance position p0 scale mu sigma cost ∈ Set.Icc 0 1) ∧
    (∀ sigma cost, Monotone fun mu => long.chance p0 scale mu sigma cost) ∧
    (∀ sigma cost, Antitone fun mu => short.chance p0 scale mu sigma cost) ∧
    (∀ sigma cost, epsilon < sigma → 0 < long.threshold p0 scale cost →
      StrictMono fun mu => long.chance p0 scale mu sigma cost) ∧
    (∀ sigma cost, epsilon < sigma → 0 < short.threshold p0 scale cost →
      StrictAnti fun mu => short.chance p0 scale mu sigma cost) ∧
    (∀ position mu sigma, Antitone fun cost => chance position p0 scale mu sigma cost) ∧
    (∀ mu sigma cost, 0 ≤ cost →
      long.chance p0 scale mu sigma cost + short.chance p0 scale mu sigma cost ≤ 1) ∧
    ∀ mu sigma, epsilon < sigma →
      long.chance p0 scale mu sigma 0 + short.chance p0 scale mu sigma 0 = 1 := by
  have hp : 0 < p0 := epsilon_pos.trans hprice
  have hs : 0 < scale := epsilon_pos.trans hscale
  refine ⟨breakeven_eq hscale, winProbability_eq hprice hscale,
    fun position => chance_mem position p0 scale, chance_long_monotone p0 scale,
    chance_short_antitone p0 scale, fun sigma cost => chance_long_strictMono,
    fun sigma cost => chance_short_strictAnti, chance_antitone_cost hp hs,
    fun mu sigma cost => chance_long_add_short_le hp hs mu sigma,
    fun mu sigma => chance_long_add_short hp scale mu⟩

/-- A price and a size of one, and the step from a cost that is paid back to one that is not. -/
theorem winProbability_laws_unit :
    epsilon < (1 : ℝ) ∧ epsilon < (2 : ℝ) ∧
      winProbability (0 : ℝ) 1 1 2 1 (-4) = .ok 1 ∧
      (StrictMono fun mu => Position.long.chance 1 2 mu 1 4) ∧
      Position.long.chance 1 2 0 1 0 + Position.short.chance 1 2 0 1 0 = 1 := by
  have hone : epsilon < (1 : ℝ) := by
    have htwo : (1 : ℝ) < (twoTo 52 : Nat) := Nat.one_lt_cast.mpr (by decide)
    exact (div_lt_one (one_pos.trans htwo)).mpr htwo
  have htwo : epsilon < (2 : ℝ) := hone.trans (by norm_num)
  obtain ⟨-, hchance, -, -, -, hstrict, -, -, -, hsum⟩ := winProbability_laws hone htwo
  refine ⟨hone, htwo, ?_, ?_, hsum 0 1 hone⟩
  · rw [hchance, Position.ofSign, if_pos one_pos]
    have hthreshold : Position.long.threshold 1 2 (-4) ≤ 0 := by norm_num [Position.threshold]
    exact congrArg Except.ok (if_pos hthreshold)
  · exact hstrict 1 4 hone (by norm_num [Position.threshold])

end Laws

end ReturnForecast
