import ReturnForecast.Proofs.Model.LevelVariance

/-!
# The optimal path of levels

A path of levels explains some returns the better, the closer it is to them and the less it moves,
both in units of their variances. Over exact reals the filter computes the best one on the way: the
least cost of a path that ends at a given level is a parabola around the level it keeps, and the
variance it keeps is the width of this parabola.

* `pathCost` — the cost of a path, and `pathCost_snoc`, that of a path with one level more
* `move_add_move` / `move_add_return` — completing the squares
* `pathCost_snoc_sub_leastCost` — what a path costs too much, one level further
* `leastCost_le_pathCost` / `pathCost_bestPath` — the least cost is a bound, and reached
* `level_ends_optimal_path` — the state of every track ends the one optimal path of its returns
-/

namespace ReturnForecast.LocalLevel

/-! ## Costs -/

/-- How far a path of levels is from the returns, and how far it moves. -/
noncomputable def pathCost (moveVar noiseVar : ℝ) (r : ℕ → ℝ) {n : ℕ}
    (path : Fin (n + 1) → ℝ) : ℝ :=
  ∑ t : Fin (n + 1), (r t - path t) ^ 2 / noiseVar +
    ∑ t : Fin n, (path t.succ - path t.castSucc) ^ 2 / moveVar

/-- One more level is paid for by its distance from the level before and from its own return. -/
theorem pathCost_snoc (moveVar noiseVar : ℝ) (r : ℕ → ℝ) {n : ℕ} (path : Fin (n + 1) → ℝ) (a : ℝ) :
    pathCost moveVar noiseVar r (Fin.snoc path a : Fin (n + 2) → ℝ) =
      pathCost moveVar noiseVar r path + (a - path (Fin.last n)) ^ 2 / moveVar +
        (r (n + 1) - a) ^ 2 / noiseVar := by
  have hreturns : ∑ t : Fin (n + 2), (r t - (Fin.snoc path a : Fin (n + 2) → ℝ) t) ^ 2 / noiseVar =
      ∑ t : Fin (n + 1), (r t - path t) ^ 2 / noiseVar + (r (n + 1) - a) ^ 2 / noiseVar := by
    rw [Fin.sum_univ_castSucc]
    simp only [Fin.snoc_castSucc, Fin.snoc_last, Fin.val_castSucc, Fin.val_last]
  have hmoves : ∑ t : Fin (n + 1), ((Fin.snoc path a : Fin (n + 2) → ℝ) t.succ -
        (Fin.snoc path a : Fin (n + 2) → ℝ) t.castSucc) ^ 2 / moveVar =
      ∑ t : Fin n, (path t.succ - path t.castSucc) ^ 2 / moveVar +
        (a - path (Fin.last n)) ^ 2 / moveVar := by
    rw [Fin.sum_univ_castSucc]
    simp only [Fin.succ_castSucc, Fin.succ_last, Fin.snoc_castSucc, Fin.snoc_last]
  unfold pathCost
  rw [hreturns, hmoves]
  ring

/-! ## Completing the squares -/

section Squares

variable {p Q R : ℝ}

/-- The level between two others that divides their distance in the ratio of two variances. -/
noncomputable def between (Q p x a : ℝ) : ℝ := (Q * x + p * a) / (p + Q)

/-- Two moves in a row cost what one move with both variances does, if the turn is well placed. -/
theorem move_add_move (hp : 0 < p) (hQ : 0 < Q) (x b a : ℝ) :
    (b - x) ^ 2 / p + (a - b) ^ 2 / Q =
      (a - x) ^ 2 / (p + Q) + (b - between Q p x a) ^ 2 * ((p + Q) / (p * Q)) := by
  unfold between
  field_simp
  ring

/-- A move and a distance from a return make one parabola, around the level that is between. -/
theorem move_add_return (hp : 0 < p) (hR : 0 < R) (x a z : ℝ) :
    (a - x) ^ 2 / p + (z - a) ^ 2 / R =
      (a - (x + p / (p + R) * (z - x))) ^ 2 / ((1 - p / (p + R)) * p) +
        (z - x) ^ 2 / (p + R) := by
  have hrest : (1 - p / (p + R)) * p = p * R / (p + R) := by
    field_simp
    ring
  rw [hrest]
  field_simp
  ring

end Squares

/-! ## The least cost -/

section Least

variable (c : Settings ℝ) (r : ℕ → ℝ)

/-- What every path costs: the squared errors of the level, in units of their variances. -/
noncomputable def unavoidableCost : ℕ → ℝ
  | 0 => 0
  | n + 1 => unavoidableCost n + (r (n + 1) - (stateAfter c r n).level) ^ 2 /
      ((stateAfter c r n).variance + c.moveVar + c.noiseVar)

/-- The least cost of a path that ends at a level. -/
noncomputable def leastCost (n : ℕ) (a : ℝ) : ℝ :=
  (a - (stateAfter c r n).level) ^ 2 / (stateAfter c r n).variance + unavoidableCost c r n

/-- The best level before one at `a`, after a first return and `n` further ones. -/
noncomputable def bestBefore (n : ℕ) (a : ℝ) : ℝ :=
  between c.moveVar (stateAfter c r n).variance (stateAfter c r n).level a

/-- The best path that ends at a level. -/
noncomputable def bestPath : (n : ℕ) → ℝ → Fin (n + 1) → ℝ
  | 0, a => fun _ => a
  | n + 1, a => Fin.snoc (bestPath n (bestBefore c r n a)) a

theorem bestPath_last (n : ℕ) (a : ℝ) : bestPath c r n a (Fin.last n) = a := by
  cases n with
  | zero => rfl
  | succ n => exact Fin.snoc_last (α := fun _ => ℝ) a (bestPath c r n (bestBefore c r n a))

theorem leastCost_zero (path : Fin 1 → ℝ) :
    leastCost c r 0 (path (Fin.last 0)) = pathCost c.moveVar c.noiseVar r path := by
  show (path 0 - r 0) ^ 2 / c.noiseVar + 0 =
    ∑ t : Fin 1, (r t - path t) ^ 2 / c.noiseVar + ∑ t : Fin 0, _
  rw [Fin.sum_univ_one, Fin.sum_univ_zero, sub_sq_comm]
  rfl

/-- What the squared distance of a level from the best one costs. -/
noncomputable def turnWeight (n : ℕ) : ℝ :=
  ((stateAfter c r n).variance + c.moveVar) / ((stateAfter c r n).variance * c.moveVar)

theorem turnWeight_pos (n : ℕ) : 0 < turnWeight c r n :=
  div_pos (add_pos (stateAfter_variance_pos c r n) (moveVar_pos c))
    (mul_pos (stateAfter_variance_pos c r n) (moveVar_pos c))

/--
What a path with one level more costs too much: what it did before, and what the level before is
away from the best one.
-/
theorem pathCost_snoc_sub_leastCost {n : ℕ} (path : Fin (n + 1) → ℝ) (a : ℝ) :
    pathCost c.moveVar c.noiseVar r (Fin.snoc path a : Fin (n + 2) → ℝ) - leastCost c r (n + 1) a =
      pathCost c.moveVar c.noiseVar r path - leastCost c r n (path (Fin.last n)) +
        (path (Fin.last n) - bestBefore c r n a) ^ 2 * turnWeight c r n := by
  have hp := stateAfter_variance_pos c r n
  have hmove := move_add_move hp (moveVar_pos c) (stateAfter c r n).level (path (Fin.last n)) a
  have hreturn := move_add_return (add_pos hp (moveVar_pos c)) (noiseVar_pos c)
    (stateAfter c r n).level a (r (n + 1))
  have hleast : leastCost c r (n + 1) a =
      (a - (stateAfter c r n).level) ^ 2 / ((stateAfter c r n).variance + c.moveVar) +
        (r (n + 1) - a) ^ 2 / c.noiseVar + unavoidableCost c r n := by
    rw [hreturn, add_assoc, add_comm (_ / _) (unavoidableCost c r n)]
    rfl
  rw [pathCost_snoc, hleast, leastCost, bestBefore, turnWeight]
  linarith

/-- The same of a path that is taken apart at its last level. -/
theorem pathCost_sub_leastCost {n : ℕ} (path : Fin (n + 2) → ℝ) :
    pathCost c.moveVar c.noiseVar r path - leastCost c r (n + 1) (path (Fin.last (n + 1))) =
      pathCost c.moveVar c.noiseVar r (Fin.init path) -
        leastCost c r n (Fin.init path (Fin.last n)) +
          (Fin.init path (Fin.last n) - bestBefore c r n (path (Fin.last (n + 1)))) ^ 2 *
            turnWeight c r n := by
  rw [← pathCost_snoc_sub_leastCost, Fin.snoc_init_self]

theorem turn_nonneg (n : ℕ) (b a : ℝ) :
    0 ≤ (b - bestBefore c r n a) ^ 2 * turnWeight c r n :=
  mul_nonneg (sq_nonneg _) (turnWeight_pos c r n).le

/-- No path costs less, -/
theorem leastCost_le_pathCost : ∀ {n : ℕ} (path : Fin (n + 1) → ℝ),
    leastCost c r n (path (Fin.last n)) ≤ pathCost c.moveVar c.noiseVar r path
  | 0, path => (leastCost_zero c r path).le
  | n + 1, path => by
    have hbefore := leastCost_le_pathCost (Fin.init path)
    have hexcess := pathCost_sub_leastCost c r path
    have hturn := turn_nonneg c r n (Fin.init path (Fin.last n)) (path (Fin.last (n + 1)))
    linarith

/-- the best path costs no more, -/
theorem pathCost_bestPath (n : ℕ) (a : ℝ) :
    pathCost c.moveVar c.noiseVar r (bestPath c r n a) = leastCost c r n a := by
  induction n generalizing a with
  | zero => exact (leastCost_zero c r (bestPath c r 0 a)).symm
  | succ n ih =>
    have hexcess := pathCost_snoc_sub_leastCost c r (bestPath c r n (bestBefore c r n a)) a
    rw [bestPath_last, ih, sub_self, sub_self, zero_pow two_ne_zero, zero_mul, add_zero] at hexcess
    exact sub_eq_zero.mp hexcess

/-- and every other path does. -/
theorem eq_bestPath : ∀ {n : ℕ} (path : Fin (n + 1) → ℝ),
    pathCost c.moveVar c.noiseVar r path = leastCost c r n (path (Fin.last n)) →
      path = bestPath c r n (path (Fin.last n))
  | 0, path, _ => funext fun t => congrArg path (Fin.fin_one_eq_zero t)
  | n + 1, path, h => by
    have hbefore := leastCost_le_pathCost c r (Fin.init path)
    have hexcess := pathCost_sub_leastCost c r path
    have hturn := turn_nonneg c r n (Fin.init path (Fin.last n)) (path (Fin.last (n + 1)))
    rw [h, sub_self] at hexcess
    -- Both parts of the excess vanish: the path was the best one before, and its turn is.
    have hcost : pathCost c.moveVar c.noiseVar r (Fin.init path) =
        leastCost c r n (Fin.init path (Fin.last n)) := by
      linarith
    have hlast : Fin.init path (Fin.last n) = bestBefore c r n (path (Fin.last (n + 1))) := by
      rw [hcost, sub_self, zero_add, eq_comm, mul_eq_zero, or_iff_left (turnWeight_pos c r n).ne',
        sq_eq_zero_iff, sub_eq_zero] at hexcess
      exact hexcess
    have hinit := eq_bestPath (Fin.init path) hcost
    rw [hlast] at hinit
    calc path = Fin.snoc (Fin.init path) (path (Fin.last (n + 1))) := (Fin.snoc_init_self path).symm
      _ = bestPath c r (n + 1) (path (Fin.last (n + 1))) := by
        rw [hinit]
        rfl

/-- The one path of least cost ends at the level of the state. -/
theorem pathCost_bestPath_lt {n : ℕ} {path : Fin (n + 1) → ℝ}
    (h : path ≠ bestPath c r n (stateAfter c r n).level) :
    pathCost c.moveVar c.noiseVar r (bestPath c r n (stateAfter c r n).level) <
      pathCost c.moveVar c.noiseVar r path := by
  have hleast : leastCost c r n (stateAfter c r n).level = unavoidableCost c r n := by
    rw [leastCost, sub_self, zero_pow two_ne_zero, zero_div, zero_add]
  have hlower := leastCost_le_pathCost c r path
  rw [pathCost_bestPath, hleast]
  by_cases hlast : path (Fin.last n) = (stateAfter c r n).level
  · refine lt_of_le_of_ne (hleast ▸ hlast ▸ hlower) fun heq => h ?_
    have hpath := eq_bestPath c r path (by rw [hlast, hleast, heq])
    rwa [hlast] at hpath
  · have hparabola : 0 < (path (Fin.last n) - (stateAfter c r n).level) ^ 2 /
        (stateAfter c r n).variance :=
      div_pos (sq_pos_of_ne_zero (sub_ne_zero.mpr hlast)) (stateAfter_variance_pos c r n)
    unfold leastCost at hlower
    linarith

end Least

/-! ## Predictors -/

open Predictor

/--
**A local level ends the optimal path of its returns.** At every place of every run, the least cost
of a path that ends at a level is a parabola of that level, around the one that the state keeps and
with the variance that it keeps; so there is one optimal path, and the estimate is where it ends.
-/
theorem level_ends_optimal_path (c : Settings ℝ) {place : Place} {ticks : List (Tick ℝ)}
    {r : ℕ → ℝ} {n : ℕ} (hr : place.returns ticks = firstReturns r n) :
    let Q := max c.processVar 1e-12
    let R := max c.measureVar 1e-12
    let p := (fresh (.localLevel c)).observeAll ticks
    let cost : (Fin (n + 1) → ℝ) → ℝ := fun path =>
      ∑ t : Fin (n + 1), (r t - path t) ^ 2 / R +
        ∑ t : Fin n, (path t.succ - path t.castSucc) ^ 2 / Q
    ∃ s : State ℝ, p.HasFit (.localLevel c) place { count := n + 1, state := s } ∧
      0 < s.variance ∧
      (∃ least, ∀ a, IsLeast (cost '' {path | path (Fin.last n) = a})
        ((a - s.level) ^ 2 / s.variance + least)) ∧
      (∃ best, best (Fin.last n) = s.level ∧ ∀ path ≠ best, cost best < cost path) ∧
      ∀ fallback, ∃ e, p.estimateAt place fallback = .ok e ∧ e.mu = s.level := by
  intro Q R p cost
  have hcost : cost = pathCost c.moveVar c.noiseVar r := by
    funext path
    rw [moveVar_eq, noiseVar_eq]
    rfl
  rw [hcost]
  refine ⟨stateAfter c r n, hasFit_stateAfter c hr, stateAfter_variance_pos c r n,
    ⟨unavoidableCost c r n, fun a => ⟨?_, ?_⟩⟩, ?_, fun fallback => ?_⟩
  · exact ⟨bestPath c r n a, bestPath_last c r n a, pathCost_bestPath c r n a⟩
  · rintro _ ⟨path, rfl, rfl⟩
    exact leastCost_le_pathCost c r path
  · exact ⟨bestPath c r n (stateAfter c r n).level, bestPath_last c r n _,
      fun path hpath => pathCost_bestPath_lt c r hpath⟩
  · exact ⟨_, estimateAt_stateAfter c hr fallback, rfl⟩

/-- Two returns: the one best pair of levels ends at the estimate. -/
theorem level_ends_optimal_path_two_returns :
    let c : Settings ℝ := standard
    let p := (fresh (.localLevel c)).feed "BTC" [100, 101, 103]
    let r : ℕ → ℝ := ([Real.log (101 / 100), Real.log (103 / 101)].getD · 0)
    let cost : (Fin 2 → ℝ) → ℝ := fun path =>
      ∑ t : Fin 2, (r t - path t) ^ 2 / max c.measureVar 1e-12 +
        ∑ t : Fin 1, (path t.succ - path t.castSucc) ^ 2 / max c.processVar 1e-12
    ∃ e best, p.estimateBase "BTC" { mu := 0, sigma := 0 } = .ok e ∧ best (Fin.last 1) = e.mu ∧
      ∀ path ≠ best, cost best < cost path := by
  intro c p r cost
  have hvalid := Place.valid_of_cent_le
    (by norm_num : ∀ x ∈ ([100, 101, 103] : List ℝ), 1 / 100 ≤ x)
  have hr : (Place.base "BTC").returns ([100, 101, 103].map (Tick.price "BTC")) =
      firstReturns r 1 := (Place.returns_map_price "BTC" hvalid).trans (eq_firstReturns rfl 0)
  obtain ⟨s, -, -, -, ⟨best, hlast, hbest⟩, hestimates⟩ := level_ends_optimal_path c hr
  obtain ⟨e, he, hmu⟩ := hestimates { mu := 0, sigma := 0 }
  rw [estimateAt_base] at he
  exact ⟨e, best, he, hlast.trans hmu.symm, hbest⟩

end ReturnForecast.LocalLevel
