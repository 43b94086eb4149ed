import ReturnForecast.Proofs.Scalar.RealValued
import ReturnForecast.Model.LeastSquares

/-!
# The regression stays within the reals

The regression divides by the scale of an update, by its forgetting factor and by its ridge. The
first is checked, the second is moved into positive bounds, the third is raised to a positive floor.
So a regression on real features and returns never leaves the reals.

* `Filter.IsReal` — real weights and covariances, and a positive forgetting factor
* `Filter.IsReal.observe` — an observation keeps them so, accepted or not
-/

namespace ReturnForecast.LeastSquares

open Extended

variable {n : Nat}

/-- A column of reals. -/
def AllReal (x : Vector Extended n) : Prop := ∀ i : Fin n, (x.get i).IsReal

/-- Real weights and covariances, a real ridge, and a positive forgetting factor. -/
structure Filter.IsReal (f : Filter Extended n) : Prop where
  forgetting : f.forgetting.IsReal
  forgetting_pos : ¬ f.forgetting ≤ 0
  ridge : f.ridge.IsReal
  weights : AllReal f.weights
  covariance : ∀ i : Fin n, AllReal (f.covariance.get i)

/-! ## Products -/

theorem allReal_ofFn {g : Fin n → Extended} (h : ∀ i, (g i).IsReal) : AllReal (Vector.ofFn g) := by
  intro i
  rw [Vector.get_ofFn]
  exact h i

variable {x y : Vector Extended n} {m : Vector (Vector Extended n) n}

theorem isReal_dot (hx : AllReal x) (hy : AllReal y) : (dot x y).IsReal := by
  refine IsReal.sum fun z hz => ?_
  obtain ⟨i, rfl⟩ := List.mem_ofFn.mp hz
  exact (hx i).mul (hy i)

theorem allReal_mulVec (hm : ∀ i : Fin n, AllReal (m.get i)) (hx : AllReal x) :
    AllReal (mulVec m x) :=
  allReal_ofFn fun i => isReal_dot (hm i) hx

theorem allReal_vecMul (hm : ∀ i : Fin n, AllReal (m.get i)) (hx : AllReal x) :
    AllReal (vecMul x m) := by
  refine allReal_ofFn fun j => IsReal.sum fun z hz => ?_
  obtain ⟨i, rfl⟩ := List.mem_ofFn.mp hz
  exact (hx i).mul (hm i j)

/-! ## The start -/

theorem allReal_startCovariance {ridge : Extended} (h : ridge.IsReal) (i : Fin n) :
    AllReal ((startCovariance ridge : Vector (Vector Extended n) n).get i) := by
  rw [startCovariance, Vector.get_ofFn]
  refine allReal_ofFn fun j => ?_
  split
  · refine isReal_one.div (h.larger (isReal_ofScientific 1 true 9)) fun hzero => ?_
    exact not_larger_le_zero ridge (by norm_num : (0 : ℝ) < 1e-9) hzero.1
  · exact isReal_zero

theorem Filter.isReal_fresh {forgetting ridge : Extended} (hf : forgetting.IsReal)
    (hr : ridge.IsReal) : (Filter.fresh n forgetting ridge).IsReal where
  forgetting := hf.clamp (isReal_ofScientific ..) (isReal_ofScientific ..)
  forgetting_pos := not_clamp_le_zero forgetting (by norm_num : (0 : ℝ) < 0.90) _
  ridge := hr
  weights := allReal_ofFn fun _ => isReal_zero
  covariance := allReal_startCovariance hr

/-! ## Observations -/

namespace Filter.IsReal

variable {f : Filter Extended n}

theorem predict (hf : f.IsReal) (hx : AllReal x) : (f.predict x).IsReal :=
  isReal_dot hf.weights hx

theorem scale (hf : f.IsReal) (hx : AllReal x) : (f.scale x).IsReal :=
  hf.forgetting.add (isReal_dot hx (allReal_mulVec hf.covariance hx))

theorem revive (hf : f.IsReal) : f.revive.IsReal := by
  unfold Filter.revive
  split
  · exact { hf with covariance := allReal_startCovariance hf.ridge }
  · exact hf

/-- A scale that is accepted is not zero. -/
theorem scale_ne_zero (hf : f.IsReal) (hx : AllReal x)
    (h : f.accepts x = true) : ¬ IsZero (f.scale x) := by
  intro hzero
  obtain ⟨z, hz⟩ := hf.scale hx
  rw [accepts, hz, Bool.and_eq_true, Bool.not_eq_true', decide_eq_false_iff_not] at h
  rw [hz] at hzero
  -- A scale of zero is below the floor, and so refused.
  have hnone : z = 0 := le_antisymm (finite_le.mp hzero.1) (finite_le.mp hzero.2)
  refine h.2 (finite_le.mpr ?_)
  rw [hnone, abs_zero]
  norm_num

theorem absorb (hf : f.IsReal) (hx : AllReal x) {y : Extended} (hy : y.IsReal)
    (h : f.accepts x = true) : (f.absorb x y).IsReal := by
  have hpx := allReal_mulVec hf.covariance hx
  have hgain := allReal_ofFn fun i => (hpx i).div (hf.scale hx) (hf.scale_ne_zero hx h)
  have herror := hy.sub (hf.predict hx)
  have hrow := allReal_vecMul hf.covariance hx
  refine ⟨hf.forgetting, hf.forgetting_pos, hf.ridge, allReal_ofFn fun i => ?_, fun i => ?_⟩
  · exact (hf.weights i).add (IsReal.mul (hgain i) herror)
  · rw [Filter.absorb, Vector.get_ofFn]
    refine allReal_ofFn fun j => ?_
    refine ((hf.covariance i j).sub ((hgain i).mul (hrow j))).div hf.forgetting fun hzero => ?_
    exact hf.forgetting_pos hzero.1

theorem observe (hf : f.IsReal) (hx : AllReal x) {y : Extended} (hy : y.IsReal) :
    (f.observe x y).IsReal := by
  unfold Filter.observe update
  simp only
  split
  · next h => exact hf.revive.absorb hx hy h
  · exact hf.revive

end Filter.IsReal

end ReturnForecast.LeastSquares
