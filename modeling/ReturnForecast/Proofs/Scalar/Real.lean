import Mathlib
import ReturnForecast.Price

/-!
# Exact reals as scalars

Real numbers are all finite and never rounded. Over them the comparisons of the library are the
usual maximum and minimum, clamping ends inside its interval, and sums may be taken in any order.
-/

namespace ReturnForecast

noncomputable instance : Scalar ℝ where
  ltDecidable := inferInstance
  leDecidable := inferInstance
  isFinite _ := true
  floor := Int.floor
  abs := abs
  sqrt := Real.sqrt
  exp := Real.exp
  expm1 x := Real.exp x - 1
  log := Real.log
  tanh := Real.tanh

/-! ## Comparisons -/

theorem larger_eq_max (a b : ℝ) : larger a b = max a b := by
  unfold larger
  split
  · next h => exact (max_eq_right h.le).symm
  · next h => exact (max_eq_left (not_lt.mp h)).symm

theorem smaller_eq_min (a b : ℝ) : smaller a b = min a b := by
  unfold smaller
  split
  · next h => exact (min_eq_right h.le).symm
  · next h => exact (min_eq_left (not_lt.mp h)).symm

theorem clamp_eq (x lo hi : ℝ) : clamp x lo hi = max lo (min hi x) := by
  unfold clamp
  rw [larger_eq_max, smaller_eq_min]

theorem clamp_mem {lo hi : ℝ} (h : lo ≤ hi) (x : ℝ) : clamp x lo hi ∈ Set.Icc lo hi := by
  rw [clamp_eq]
  exact ⟨le_max_left lo _, max_le h (min_le_left hi x)⟩

theorem clamp_neg {bound : ℝ} (h : 0 ≤ bound) (x : ℝ) :
    clamp (-x) (-bound) bound = -clamp x (-bound) bound := by
  have hbounds : -bound ≤ bound := neg_le_self h
  rw [clamp_eq, clamp_eq, max_min_distrib_left, max_eq_right hbounds, ← min_neg_neg, neg_neg,
    ← max_neg_neg]

/-- What is moved to within a bound of zero is at most that bound in size. -/
theorem abs_clamp_le {bound : ℝ} (h : 0 ≤ bound) (x : ℝ) : |clamp x (-bound) bound| ≤ bound :=
  abs_le.mpr (clamp_mem (neg_le_self h) x)

theorem abs_sign_le_one (x : ℝ) : |sign x| ≤ 1 := by
  unfold sign
  split
  · simp
  · split <;> simp

theorem sign_neg (x : ℝ) : sign (-x) = -sign x := by
  unfold sign
  rcases lt_trichotomy x 0 with h | rfl | h
  · rw [if_pos (neg_pos.mpr h), if_neg h.not_gt, if_pos h, neg_neg]
  · rw [neg_zero, if_neg (lt_irrefl 0), if_neg (lt_irrefl 0), neg_zero]
  · rw [if_neg (neg_lt_zero.mpr h).not_gt, if_pos (neg_lt_zero.mpr h), if_pos h]

theorem epsilon_pos : (0 : ℝ) < epsilon := by
  have htwo : (0 : ℝ) < (twoTo 52 : Nat) := Nat.cast_pos.mpr (twoTo_pos 52)
  exact div_pos one_pos htwo

/-! ## Checked operations -/

theorem log?_of_pos {x : ℝ} (h : 0 < x) : log? x = .ok (Real.log x) := if_neg (not_le.mpr h)

theorem div?_of_pos {x y : ℝ} (h : 0 < y) : div? x y = .ok (x / y) :=
  if_neg fun hzero => not_le.mpr h hzero.1

theorem div?_neg_left (x y : ℝ) : div? (-x) y = (div? x y).map (-·) := by
  unfold div?
  split
  · rfl
  · exact congrArg Except.ok (neg_div y x)

/-- The root of a real number is zero below zero already. -/
theorem sqrtPos_eq_sqrt (x : ℝ) : sqrtPos x = √x := by
  unfold sqrtPos
  rw [larger_eq_max]
  rcases le_total 0 x with h | h
  · rw [max_eq_left h]
    rfl
  · rw [max_eq_right h, Real.sqrt_eq_zero_of_nonpos h]
    exact Real.sqrt_zero

theorem ratioAbove_neg (bound x y : ℝ) : ratioAbove bound (-x) y = -ratioAbove bound x y := by
  unfold ratioAbove
  split
  · exact neg_div y x
  · exact neg_zero.symm

/-! ## Prices -/

theorem isValidPrice_iff {p : ℝ} : isValidPrice p = true ↔ epsilon < p := by
  unfold isValidPrice
  rw [Bool.and_eq_true, decide_eq_true_eq]
  exact and_iff_right rfl

theorem isValidPrice_pos {p : ℝ} (h : isValidPrice p = true) : 0 < p :=
  epsilon_pos.trans (isValidPrice_iff.mp h)

theorem epsilon_lt_of_cent_le {x : ℝ} (h : 1 / 100 ≤ x) : epsilon < x := by
  have hepsilon : (epsilon : ℝ) < 1 / 100 := by norm_num [epsilon, twoTo]
  exact hepsilon.trans_le h

theorem isValidPrice_of_cent_le {p : ℝ} (h : 1 / 100 ≤ p) : isValidPrice p = true :=
  isValidPrice_iff.mpr (epsilon_lt_of_cent_le h)

/-! ## Sums -/

theorem total_eq_sum (xs : List ℝ) : total xs = xs.sum := List.sum_eq_foldl.symm

end ReturnForecast
