import ReturnForecast.Proofs.Scalar.Real
import ReturnForecast.Model.LeastSquares

/-!
# Recursive and batch least squares

Over exact reals the recursion computes a batch regression: exponentially weighted squares with a
ridge that fades as fast as the oldest observation, pulled to the weights at the last reset.

* `RegularEquations` says that the covariance inverts a positive definite matrix `A` and that the
  weights solve `A β = b`
* `RegularEquations.absorb` is one update, a rank-one change of `A` (Sherman and Morrison)
* `regularEquations_run` carries it over every sequence of updates and resets
-/

namespace ReturnForecast.LeastSquares

open Matrix

variable {n : Nat}

/-! ## Vectors as columns and matrices -/

/-- A vector as a column. -/
def column (x : Vector ℝ n) : Fin n → ℝ := x.get

/-- A vector of rows as a matrix. -/
def matrixOf (m : Vector (Vector ℝ n) n) : Matrix (Fin n) (Fin n) ℝ :=
  Matrix.of fun i j => (m.get i).get j

theorem column_apply (x : Vector ℝ n) (i : Fin n) : column x i = getElem x i.val i.isLt := rfl

theorem matrixOf_apply (m : Vector (Vector ℝ n) n) (i j : Fin n) :
    matrixOf m i j = getElem (getElem m i.val i.isLt) j.val j.isLt := rfl

theorem dot_eq (x y : Vector ℝ n) : dot x y = column x ⬝ᵥ column y := by
  unfold dot
  rw [List.sum_ofFn]
  rfl

theorem column_mulVec (m : Vector (Vector ℝ n) n) (x : Vector ℝ n) :
    column (mulVec m x) = matrixOf m *ᵥ column x := by
  funext i
  simp only [column_apply, mulVec, Fin.getElem_fin, Vector.getElem_ofFn]
  rw [dot_eq]
  rfl

theorem column_vecMul (x : Vector ℝ n) (m : Vector (Vector ℝ n) n) :
    column (vecMul x m) = column x ᵥ* matrixOf m := by
  funext j
  simp only [column_apply, vecMul, Fin.getElem_fin, Vector.getElem_ofFn]
  rw [List.sum_ofFn]
  rfl

theorem matrixOf_startCovariance (ridge : ℝ) :
    matrixOf (startCovariance (n := n) ridge) = (max ridge 1e-9)⁻¹ • 1 := by
  ext i j
  simp only [matrixOf_apply, startCovariance, Vector.getElem_ofFn, larger_eq_max,
    Matrix.smul_apply, Matrix.one_apply, smul_eq_mul, mul_ite, mul_one, mul_zero, one_div]

/-! ## One update -/

namespace Filter

variable (f : Filter ℝ n) (x : Vector ℝ n) (y : ℝ)

theorem scale_eq :
    f.scale x = f.forgetting + column x ⬝ᵥ matrixOf f.covariance *ᵥ column x := by
  unfold scale
  rw [dot_eq, column_mulVec]

theorem column_weights_absorb : column (f.absorb x y).weights = column f.weights
    + ((y - f.predict x) / f.scale x) • (matrixOf f.covariance *ᵥ column x) := by
  rw [← column_mulVec]
  funext i
  simp only [column_apply, absorb, Fin.getElem_fin, Vector.getElem_ofFn, Pi.add_apply,
    Pi.smul_apply, smul_eq_mul]
  ring

theorem matrixOf_covariance_absorb : matrixOf (f.absorb x y).covariance = f.forgetting⁻¹ •
    (matrixOf f.covariance - (f.scale x)⁻¹ •
      vecMulVec (matrixOf f.covariance *ᵥ column x) (column x ᵥ* matrixOf f.covariance)) := by
  rw [← column_mulVec, ← column_vecMul]
  ext i j
  simp only [matrixOf_apply, column_apply, absorb, Fin.getElem_fin, Vector.getElem_ofFn,
    Matrix.smul_apply, Matrix.sub_apply, vecMulVec_apply, smul_eq_mul]
  ring

end Filter

/-! ## The equations of the batch regression -/

/-- The covariance inverts a positive definite matrix, and the weights solve its equations. -/
structure RegularEquations (f : Filter ℝ n) (A : Matrix (Fin n) (Fin n) ℝ) (b : Fin n → ℝ) :
    Prop where
  posDef : A.PosDef
  inverse : matrixOf f.covariance * A = 1
  solution : A *ᵥ column f.weights = b

namespace RegularEquations

variable {f : Filter ℝ n} {A : Matrix (Fin n) (Fin n) ℝ} {b : Fin n → ℝ}

theorem inverse' (h : RegularEquations f A b) : A * matrixOf f.covariance = 1 :=
  mul_eq_one_comm.mp h.inverse

/-- The covariance is positive definite, as the inverse of such a matrix. -/
theorem covariance_posDef (h : RegularEquations f A b) : (matrixOf f.covariance).PosDef := by
  rw [← Matrix.inv_eq_left_inv h.inverse]
  exact h.posDef.inv

/-- The scale of an update is no smaller than the forgetting factor. -/
theorem forgetting_le_scale (h : RegularEquations f A b) (x : Vector ℝ n) :
    f.forgetting ≤ f.scale x := by
  have hP := h.covariance_posDef.posSemidef.dotProduct_mulVec_nonneg (column x)
  rw [star_trivial] at hP
  rw [f.scale_eq]
  linarith

/-- The start: the ridge alone, and the weights solve the equations that they set. -/
theorem reset (f : Filter ℝ n) :
    RegularEquations f.reset ((max f.ridge 1e-9) • 1) ((max f.ridge 1e-9) • column f.weights) where
  posDef := Matrix.PosDef.one.smul (lt_max_of_lt_right (by norm_num))
  inverse := by
    have hpos : (0 : ℝ) < max f.ridge 1e-9 := lt_max_of_lt_right (by norm_num)
    show matrixOf (startCovariance f.ridge) * _ = 1
    rw [matrixOf_startCovariance, smul_mul_smul_comm, inv_mul_cancel₀ hpos.ne', one_smul, one_mul]
  solution := by rw [smul_mulVec, one_mulVec]; rfl

/-- The new covariance inverts the discounted matrix with the outer square of the features. -/
theorem inverse_absorb (h : RegularEquations f A b) (hf : 0 < f.forgetting) (x : Vector ℝ n)
    (y : ℝ) : matrixOf (f.absorb x y).covariance *
      (f.forgetting • A + vecMulVec (column x) (column x)) = 1 := by
  have hs : f.scale x ≠ 0 := (hf.trans_le (h.forgetting_le_scale x)).ne'
  have hrow : column x ᵥ* matrixOf f.covariance ᵥ* A = column x := by
    rw [vecMul_vecMul, h.inverse, vecMul_one]
  have hscale : column x ᵥ* matrixOf f.covariance ⬝ᵥ column x = f.scale x - f.forgetting := by
    rw [f.scale_eq, dotProduct_mulVec]
    ring
  rw [f.matrixOf_covariance_absorb, smul_mul_assoc, mul_add, sub_mul, sub_mul, mul_smul_comm,
    h.inverse, smul_mul_assoc, mul_smul_comm, vecMulVec_mul, hrow, mul_vecMulVec, smul_mul_assoc,
    vecMulVec_mul_vecMulVec, hscale]
  rw [vecMulVec_smul]
  match_scalars
  · field_simp
  · field_simp
    ring

/-- The new weights solve the equations with the observation added to both sides. -/
theorem solution_absorb (h : RegularEquations f A b) (hf : 0 < f.forgetting) (x : Vector ℝ n)
    (y : ℝ) :
    (f.forgetting • A + vecMulVec (column x) (column x)) *ᵥ column (f.absorb x y).weights =
      f.forgetting • b + y • column x := by
  have hs : f.scale x ≠ 0 := (hf.trans_le (h.forgetting_le_scale x)).ne'
  have hgain : A *ᵥ (matrixOf f.covariance *ᵥ column x) = column x := by
    rw [mulVec_mulVec, h.inverse', one_mulVec]
  have hscale : column x ⬝ᵥ matrixOf f.covariance *ᵥ column x = f.scale x - f.forgetting := by
    rw [f.scale_eq]
    ring
  have hpredict : column x ⬝ᵥ column f.weights = f.predict x := by
    rw [Filter.predict, dot_eq, dotProduct_comm]
  rw [f.column_weights_absorb, add_mulVec, smul_mulVec, mulVec_add, mulVec_smul, h.solution, hgain,
    vecMulVec_mulVec, dotProduct_add, dotProduct_smul, hscale, hpredict]
  rw [op_smul_eq_smul, smul_eq_mul]
  match_scalars
  · ring
  · field_simp
    ring

/-- The discounted matrix with an outer square added stays positive definite. -/
theorem absorb (h : RegularEquations f A b) (hf : 0 < f.forgetting) (x : Vector ℝ n) (y : ℝ) :
    RegularEquations (f.absorb x y) (f.forgetting • A + vecMulVec (column x) (column x))
      (f.forgetting • b + y • column x) where
  posDef := by
    have hsquare := posSemidef_vecMulVec_self_star (column x)
    rw [star_trivial] at hsquare
    exact (h.posDef.smul hf).add_posSemidef hsquare
  inverse := h.inverse_absorb hf x y
  solution := h.solution_absorb hf x y

/-- An update is accepted: its scale is a number no smaller than the forgetting factor. -/
theorem accepts (h : RegularEquations f A b) (hf : 0.9 ≤ f.forgetting) (x : Vector ℝ n) :
    f.accepts x = true := by
  have hs : (0.9 : ℝ) ≤ f.scale x := hf.trans (h.forgetting_le_scale x)
  have hfloor : ¬ |f.scale x| ≤ 1e-12 := by
    rw [abs_of_pos (by linarith)]
    norm_num
    linarith
  unfold Filter.accepts
  rw [Bool.and_eq_true, Bool.not_eq_true', decide_eq_false_iff_not]
  exact ⟨rfl, hfloor⟩

end RegularEquations

/-! ## Runs of updates and resets -/

/-- What a caller does to a regression. -/
inductive Call (α : Type) (n : Nat) where
  | update (x : Vector α n) (y : α)
  | reset

/--
A regression with the history of its covariance: the weights when the covariance was last reset, and
the observations since.
-/
structure Traced (α : Type) (n : Nat) where
  filter : Filter α n
  start : Vector α n
  seen : List (Vector α n × α)

namespace Traced

variable {α : Type} [Scalar α]

/-- A new regression; its construction counts as a reset. -/
def fresh (n : Nat) (forgetting ridge : α) : Traced α n :=
  let filter := Filter.fresh n forgetting ridge
  { filter, start := filter.weights, seen := [] }

/-- The history after a call. An update of a vanished covariance is the first one after a reset. -/
def serve (t : Traced α n) : Call α n → Traced α n
  | .update x y =>
    let filter := t.filter.observe x y
    if t.filter.vanished then { filter, start := t.filter.weights, seen := [(x, y)] }
    else { filter, start := t.start, seen := t.seen ++ [(x, y)] }
  | .reset => { filter := t.filter.reset, start := t.filter.weights, seen := [] }

/-- The history after a list of calls. -/
def run (t : Traced α n) (calls : List (Call α n)) : Traced α n := calls.foldl serve t

end Traced

/-- A sum over observations in which each one counts `lam` times less than the next. -/
def discounted {β M : Type} [AddCommMonoid M] [Module ℝ M] (lam : ℝ) (term : β → M)
    (seen : List β) : M :=
  ∑ i : Fin seen.length, lam ^ (seen.length - (i + 1)) • term seen[i]

theorem discounted_nil {β M : Type} [AddCommMonoid M] [Module ℝ M] (lam : ℝ) (term : β → M) :
    discounted lam term [] = 0 := rfl

theorem discounted_append {β M : Type} [AddCommMonoid M] [Module ℝ M] (lam : ℝ) (term : β → M)
    (seen : List β) (last : β) :
    discounted lam term (seen ++ [last]) = lam • discounted lam term seen + term last := by
  have hlen : (seen ++ [last]).length = seen.length + 1 := by simp
  unfold discounted
  rw [← (finCongr hlen.symm).sum_comp, Fin.sum_univ_castSucc, Finset.smul_sum]
  congr 1
  · refine Finset.sum_congr rfl fun i _ => ?_
    have hexp : seen.length + 1 - ((i : Nat) + 1) = seen.length - ((i : Nat) + 1) + 1 := by omega
    simp [hexp, pow_succ', mul_smul]
  · simp

/-- The matrix of the batch regression: the faded ridge and the discounted outer squares. -/
def gram (lam d : ℝ) (seen : List (Vector ℝ n × ℝ)) : Matrix (Fin n) (Fin n) ℝ :=
  (lam ^ seen.length * d) • 1 + discounted lam (fun o => vecMulVec (column o.1) (column o.1)) seen

/-- The right side of the batch regression: the faded start and the discounted targets. -/
def moment (lam d : ℝ) (start : Vector ℝ n) (seen : List (Vector ℝ n × ℝ)) : Fin n → ℝ :=
  (lam ^ seen.length * d) • column start + discounted lam (fun o => o.2 • column o.1) seen

theorem gram_nil (lam d : ℝ) : gram (n := n) lam d [] = d • 1 := by
  simp [gram, discounted_nil]

theorem moment_nil (lam d : ℝ) (start : Vector ℝ n) : moment lam d start [] = d • column start := by
  simp [moment, discounted_nil]

theorem gram_append (lam d : ℝ) (seen : List (Vector ℝ n × ℝ)) (x : Vector ℝ n) (y : ℝ) :
    gram lam d (seen ++ [(x, y)]) = lam • gram lam d seen + vecMulVec (column x) (column x) := by
  unfold gram
  rw [discounted_append, smul_add, smul_smul, List.length_append, List.length_singleton, pow_succ',
    mul_assoc, add_assoc]

theorem moment_append (lam d : ℝ) (start : Vector ℝ n) (seen : List (Vector ℝ n × ℝ))
    (x : Vector ℝ n) (y : ℝ) :
    moment lam d start (seen ++ [(x, y)]) = lam • moment lam d start seen + y • column x := by
  unfold moment
  rw [discounted_append, smul_add, smul_smul, List.length_append, List.length_singleton, pow_succ',
    mul_assoc, add_assoc]

/-! ## The invariant of a run -/

/-- The settings are those of the start, and the equations are those of the observations seen. -/
structure Traced.Regular (t : Traced ℝ n) (lam ridge : ℝ) : Prop where
  forgetting_eq : t.filter.forgetting = lam
  ridge_eq : t.filter.ridge = ridge
  equations : RegularEquations t.filter (gram lam (max ridge 1e-9) t.seen)
    (moment lam (max ridge 1e-9) t.start t.seen)

namespace Traced.Regular

variable {t : Traced ℝ n} {lam ridge : ℝ}

theorem fresh (n : Nat) (forgetting ridge : ℝ) :
    (Traced.fresh n forgetting ridge).Regular (max 0.9 (min 0.9999 forgetting)) ridge where
  forgetting_eq := by
    show clamp forgetting 0.90 0.9999 = _
    rw [clamp_eq, show (0.90 : ℝ) = 0.9 by norm_num]
  ridge_eq := rfl
  equations := by
    show RegularEquations _ (gram _ _ []) (moment _ _ _ [])
    rw [gram_nil, moment_nil]
    exact RegularEquations.reset (Filter.fresh n forgetting ridge)

theorem reset (h : t.Regular lam ridge) : (t.serve .reset).Regular lam ridge where
  forgetting_eq := h.forgetting_eq
  ridge_eq := h.ridge_eq
  equations := by
    show RegularEquations _ (gram _ _ []) (moment _ _ _ [])
    rw [gram_nil, moment_nil, ← h.ridge_eq]
    exact RegularEquations.reset t.filter

/-- The revived regression has the equations of the history that the next observation joins. -/
theorem revive (h : t.Regular lam ridge) :
    ∃ start seen, RegularEquations t.filter.revive (gram lam (max ridge 1e-9) seen)
        (moment lam (max ridge 1e-9) start seen) ∧
      ∀ x y, t.serve (.update x y) =
        { filter := t.filter.observe x y, start, seen := seen ++ [(x, y)] } := by
  by_cases hv : t.filter.vanished = true
  · refine ⟨t.filter.weights, [], ?_, fun x y => by simp [serve, hv]⟩
    rw [Filter.revive, if_pos hv]
    exact h.reset.equations
  · refine ⟨t.start, t.seen, ?_, fun x y => by simp [serve, hv]⟩
    rw [Filter.revive, if_neg hv]
    exact h.equations

theorem forgetting_revive (h : t.Regular lam ridge) : t.filter.revive.forgetting = lam := by
  unfold Filter.revive
  split <;> exact h.forgetting_eq

/-- An update is accepted, whatever the observation. -/
theorem update_fst (h : t.Regular lam ridge) (hlam : 0.9 ≤ lam) (x : Vector ℝ n) (y : ℝ) :
    t.filter.update x y = (true, t.filter.revive.absorb x y) := by
  obtain ⟨start, seen, heq, -⟩ := h.revive
  have hacc := heq.accepts (by rw [h.forgetting_revive]; exact hlam) x
  simp only [Filter.update, hacc, if_true]

theorem update (h : t.Regular lam ridge) (hlam : 0.9 ≤ lam) (x : Vector ℝ n) (y : ℝ) :
    (t.serve (.update x y)).Regular lam ridge := by
  obtain ⟨start, seen, heq, hserve⟩ := h.revive
  have hpos : 0 < t.filter.revive.forgetting := by rw [h.forgetting_revive]; linarith
  have habsorb := heq.absorb hpos x y
  rw [h.forgetting_revive, ← gram_append, ← moment_append] at habsorb
  have hobserve : t.filter.observe x y = t.filter.revive.absorb x y := by
    rw [Filter.observe, h.update_fst hlam]
  rw [hserve, hobserve]
  refine ⟨h.forgetting_revive, ?_, habsorb⟩
  show t.filter.revive.ridge = ridge
  unfold Filter.revive
  split <;> exact h.ridge_eq

theorem serve (h : t.Regular lam ridge) (hlam : 0.9 ≤ lam) (call : Call ℝ n) :
    (t.serve call).Regular lam ridge := by
  cases call with
  | update x y => exact h.update hlam x y
  | reset => exact h.reset

theorem run (h : t.Regular lam ridge) (hlam : 0.9 ≤ lam) (calls : List (Call ℝ n)) :
    (t.run calls).Regular lam ridge := by
  induction calls generalizing t with
  | nil => exact h
  | cons call rest ih => exact ih (h.serve hlam call)

end Traced.Regular

/--
**The recursion computes the batch regression.** After every run of updates and resets the next
update is accepted, and the covariance and the weights are those of the observations since the last
reset.
-/
theorem regularEquations_run (n : Nat) (forgetting ridge : ℝ) (calls : List (Call ℝ n)) :
    let t := (Traced.fresh n forgetting ridge).run calls
    let lam := max 0.9 (min 0.9999 forgetting)
    let d := max ridge 1e-9
    (∀ x y, (t.filter.update x y).1 = true) ∧
      (matrixOf t.filter.covariance).IsSymm ∧ (matrixOf t.filter.covariance).PosDef ∧
      matrixOf t.filter.covariance * gram lam d t.seen = 1 ∧
      gram lam d t.seen * matrixOf t.filter.covariance = 1 ∧
      gram lam d t.seen *ᵥ column t.filter.weights = moment lam d t.start t.seen := by
  intro t lam d
  have hlam : (0.9 : ℝ) ≤ lam := le_max_left _ _
  have h : t.Regular lam ridge := (Traced.Regular.fresh n forgetting ridge).run hlam calls
  have hP := h.equations.covariance_posDef
  refine ⟨fun x y => ?_, ?_, hP, h.equations.inverse, h.equations.inverse', h.equations.solution⟩
  · rw [h.update_fst hlam]
  · have hsymm := hP.isHermitian
    rwa [Matrix.IsHermitian, Matrix.conjTranspose_eq_transpose_of_trivial] at hsymm

end ReturnForecast.LeastSquares
