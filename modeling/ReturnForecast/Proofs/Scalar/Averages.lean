import ReturnForecast.Proofs.Scalar.Real
import ReturnForecast.Smoothing

/-!
# Averages of a list

An exponentially weighted average is fed one value after another and starts with the first. Over
exact reals each step is a mixture, so the average never leaves the range of its values. An average
that starts at zero is a weighted sum.

* `smoothed` — the average of a list, and `smoothed_concat`, what one more value does to it
* `smoothed_mem` — it lies between two values of the list
* `averaged` — the average of a sequence that starts at zero, and `averaged_eq_sum`, its weights
-/

namespace ReturnForecast

/-! ## The average -/

/-- The exponentially weighted average of a list; it starts with the first value. -/
def smoothed {α : Type} [Scalar α] (share : α) : List α → α
  | [] => 0
  | x :: later => later.foldl (ewma · · share) x

theorem smoothed_concat {α : Type} [Scalar α] (share : α) (xs : List α) (x : α) :
    smoothed share (xs ++ [x]) = if xs.length = 0 then x else ewma (smoothed share xs) x share := by
  cases xs with
  | nil => rfl
  | cons first later => exact List.foldl_append

/-! ## Mixtures of reals -/

/-- A mixture of two numbers of an interval is in it. -/
theorem mixture_mem {p x y lo hi : ℝ} (hp : p ∈ Set.Icc 0 1) (hx : x ∈ Set.Icc lo hi)
    (hy : y ∈ Set.Icc lo hi) : p * x + (1 - p) * y ∈ Set.Icc lo hi :=
  convex_Icc lo hi hx hy hp.1 (sub_nonneg.mpr hp.2) (add_sub_cancel p 1)

/-- Of the unit interval, the number moved into it is the nearest. -/
theorem clampUnit_nearest {x : ℝ} (hx : x ∈ Set.Icc 0 1) (y : ℝ) :
    (clampUnit y - y) ^ 2 ≤ (x - y) ^ 2 := by
  unfold clampUnit
  rw [clamp_eq, sq_le_sq]
  rcases le_total y 0 with hlow | hlow
  · rw [min_eq_right (hlow.trans zero_le_one), max_eq_left hlow, zero_sub, abs_neg,
      abs_of_nonpos hlow]
    exact le_abs.mpr (.inl (by linarith [hx.1]))
  · rcases le_total y 1 with hhigh | hhigh
    · rw [min_eq_right hhigh, max_eq_right hlow, sub_self, abs_zero]
      exact abs_nonneg _
    · rw [min_eq_left hhigh, max_eq_right zero_le_one, abs_of_nonpos (sub_nonpos.mpr hhigh)]
      exact le_abs.mpr (.inr (by linarith [hx.2]))

theorem clampUnit_mem (x : ℝ) : clampUnit x ∈ Set.Icc 0 1 := clamp_mem zero_le_one x

theorem ewma_mem {share previous x lo hi : ℝ} (hshare : share ∈ Set.Icc 0 1)
    (hprevious : previous ∈ Set.Icc lo hi) (hx : x ∈ Set.Icc lo hi) :
    ewma previous x share ∈ Set.Icc lo hi := by
  unfold ewma
  rw [add_comm]
  exact mixture_mem hshare hx hprevious

/-- **The average lies between two values of the list.** -/
theorem smoothed_mem {share : ℝ} (hshare : share ∈ Set.Icc 0 1) {xs : List ℝ} (hxs : xs ≠ []) :
    ∃ lo ∈ xs, ∃ hi ∈ xs, smoothed share xs ∈ Set.Icc lo hi := by
  induction xs using List.reverseRecOn with
  | nil => exact absurd rfl hxs
  | append_singleton xs x ih =>
    rw [smoothed_concat]
    by_cases hnil : xs.length = 0
    · rw [if_pos hnil]
      exact ⟨x, List.mem_concat_self, x, List.mem_concat_self, le_rfl, le_rfl⟩
    · rw [if_neg hnil]
      obtain ⟨lo, hlo, hi, hhi, hmem⟩ := ih fun h => hnil (List.length_eq_zero_iff.mpr h)
      -- The new value may widen the range on either side.
      have hmin : min lo x ∈ xs ++ [x] := by
        rcases min_choice lo x with h | h
        · rw [h]
          exact List.mem_append_left [x] hlo
        · rw [h]
          exact List.mem_concat_self
      have hmax : max hi x ∈ xs ++ [x] := by
        rcases max_choice hi x with h | h
        · rw [h]
          exact List.mem_append_left [x] hhi
        · rw [h]
          exact List.mem_concat_self
      refine ⟨min lo x, hmin, max hi x, hmax, ewma_mem hshare ?_ ?_⟩
      · exact ⟨(min_le_left lo x).trans hmem.1, hmem.2.trans (le_max_left hi x)⟩
      · exact ⟨min_le_right lo x, le_max_right hi x⟩

/-! ## Averages that start at zero -/

/-- The exponentially weighted average of the first values of a sequence; it starts at zero. -/
def averaged {α : Type} [Scalar α] (share : α) (x : ℕ → α) : ℕ → α
  | 0 => 0
  | n + 1 => ewma (averaged share x n) (x n) share

/-- The later a value, the more it weighs. -/
theorem averaged_eq_sum (share : ℝ) (x : ℕ → ℝ) (n : ℕ) :
    averaged share x n = ∑ t ∈ Finset.range n, share * (1 - share) ^ (n - 1 - t) * x t := by
  induction n with
  | zero => rfl
  | succ n ih =>
    have hearlier : ∀ t ∈ Finset.range n, share * (1 - share) ^ (n + 1 - 1 - t) * x t =
        (1 - share) * (share * (1 - share) ^ (n - 1 - t) * x t) := by
      intro t ht
      have hpow : n + 1 - 1 - t = (n - 1 - t) + 1 := by
        have := Finset.mem_range.mp ht
        omega
      rw [hpow, pow_succ]
      ring
    rw [Finset.sum_range_succ, Finset.sum_congr rfl hearlier, ← Finset.mul_sum, ← ih,
      Nat.add_sub_cancel, Nat.sub_self, pow_zero, mul_one]
    rfl

theorem averaged_const_mul (share k : ℝ) (x : ℕ → ℝ) (n : ℕ) :
    averaged share (fun t => k * x t) n = k * averaged share x n := by
  rw [averaged_eq_sum, averaged_eq_sum, Finset.mul_sum]
  exact Finset.sum_congr rfl fun t _ => mul_left_comm _ k (x t)

section Sign

variable {share : ℝ} {x : ℕ → ℝ} {n : ℕ}

theorem decay_nonneg (hshare : share ∈ Set.Icc 0 1) (k : ℕ) : 0 ≤ share * (1 - share) ^ k :=
  mul_nonneg hshare.1 (pow_nonneg (sub_nonneg.mpr hshare.2) k)

theorem averaged_nonneg (hshare : share ∈ Set.Icc 0 1) (hx : ∀ t < n, 0 ≤ x t) :
    0 ≤ averaged share x n := by
  rw [averaged_eq_sum]
  exact Finset.sum_nonneg fun t ht =>
    mul_nonneg (decay_nonneg hshare _) (hx t (Finset.mem_range.mp ht))

theorem averaged_nonpos (hshare : share ∈ Set.Icc 0 1) (hx : ∀ t < n, x t ≤ 0) :
    averaged share x n ≤ 0 := by
  rw [averaged_eq_sum]
  exact Finset.sum_nonpos fun t ht =>
    mul_nonpos_of_nonneg_of_nonpos (decay_nonneg hshare _) (hx t (Finset.mem_range.mp ht))

end Sign

/-! ## Weights of samples -/

theorem shrinkWeight?_of_pos (n : ℕ) {k : ℝ} (hk : 0 < k) :
    shrinkWeight? (n : ℝ) k = .ok (n / (n + k)) :=
  div?_of_pos (add_pos_of_nonneg_of_pos n.cast_nonneg hk)

theorem sampleShare_mem (n : ℕ) {k : ℝ} (hk : 0 < k) : (n : ℝ) / (n + k) ∈ Set.Icc 0 1 := by
  have hpos : 0 < (n : ℝ) + k := add_pos_of_nonneg_of_pos n.cast_nonneg hk
  exact ⟨div_nonneg n.cast_nonneg hpos.le,
    (div_le_one hpos).mpr (le_add_of_nonneg_right hk.le)⟩

end ReturnForecast
