import ReturnForecast.Proofs.Scalar.Real
import ReturnForecast.Normal

/-!
# The normal law over exact reals

The rational approximation of the error function is strictly increasing on the whole line and stays
between minus one and one, although its coefficients leave a jump at zero.

* `tailPoly_strictMono` — the polynomial of the approximation, by its derivative
* `erfTail_strictAntiOn` — what is left of one falls on the positive side
* `erfApprox_strictMono` — both sides and the jump between them
* `normalCdf_strictMono`, `normalCdf_mem` — the distribution function
-/

namespace ReturnForecast

/-! ## The polynomial -/

/-- The polynomial of the approximation. -/
noncomputable def tailPoly (t : ℝ) : ℝ :=
  ((((1.061405429 * t + -1.453152027) * t + 1.421413741) * t + -0.284496736) * t
    + 0.254829592) * t

/-- The slope of the polynomial. -/
noncomputable def tailSlope (t : ℝ) : ℝ :=
  5 * 1.061405429 * t ^ 4 - 4 * 1.453152027 * t ^ 3 + 3 * 1.421413741 * t ^ 2
    - 2 * 0.284496736 * t + 0.254829592

theorem hasDerivAt_tailPoly (t : ℝ) : HasDerivAt tailPoly (tailSlope t) t := by
  have hid := hasDerivAt_id t
  have hpoly : HasDerivAt tailPoly _ t :=
    ((((((((hid.const_mul 1.061405429).add_const (-1.453152027)).mul hid).add_const
      1.421413741).mul hid).add_const (-0.284496736)).mul hid).add_const 0.254829592).mul hid
  refine hpoly.congr_deriv ?_
  simp only [id, Pi.mul_apply, tailSlope]
  ring

/-- The slope is a sum of squares and a rest, so it does not vanish for any argument. -/
theorem tailSlope_pos (t : ℝ) : 0 < tailSlope t := by
  unfold tailSlope
  nlinarith [sq_nonneg (t * (t - 0.5476)), sq_nonneg (t - 0.13), sq_nonneg (t ^ 2)]

theorem tailPoly_strictMono : StrictMono tailPoly :=
  strictMono_of_deriv_pos fun t => (hasDerivAt_tailPoly t).deriv ▸ tailSlope_pos t

theorem tailPoly_zero : tailPoly 0 = 0 := by
  unfold tailPoly
  ring

/-- The coefficients sum up to a little less than one. -/
theorem tailPoly_one : tailPoly 1 = 0.999999999 := by
  unfold tailPoly
  norm_num

/-! ## The tail of the error function -/

theorem erfTail_eq (x : ℝ) :
    erfTail x = tailPoly (1 / (1 + 0.3275911 * x)) * Real.exp (-x * x) := rfl

/-- The tail is positive and below one. -/
theorem erfTail_mem {x : ℝ} (hx : 0 ≤ x) : erfTail x ∈ Set.Ioo 0 1 := by
  have hden : 1 ≤ 1 + 0.3275911 * x := by linarith
  have ht : 1 / (1 + 0.3275911 * x) ≤ 1 := (div_le_one₀ (by linarith)).mpr hden
  have hpoly : 0 < tailPoly (1 / (1 + 0.3275911 * x)) := by
    rw [← tailPoly_zero]
    exact tailPoly_strictMono (by positivity)
  have hle : tailPoly (1 / (1 + 0.3275911 * x)) ≤ 0.999999999 :=
    tailPoly_one ▸ tailPoly_strictMono.monotone ht
  have hexp : Real.exp (-x * x) ≤ 1 := Real.exp_le_one_iff.mpr (by nlinarith)
  rw [erfTail_eq]
  refine ⟨mul_pos hpoly (Real.exp_pos _), ?_⟩
  calc tailPoly (1 / (1 + 0.3275911 * x)) * Real.exp (-x * x)
      ≤ tailPoly (1 / (1 + 0.3275911 * x)) := mul_le_of_le_one_right hpoly.le hexp
    _ < 1 := hle.trans_lt (by norm_num)

/-- Both factors of the tail fall, the polynomial strictly. -/
theorem erfTail_strictAntiOn : StrictAntiOn (erfTail : ℝ → ℝ) (Set.Ici 0) := by
  intro x hx y hy hxy
  have hx' : 0 ≤ x := hx
  have hden : 0 < 1 + 0.3275911 * x := by linarith
  have ht : 1 / (1 + 0.3275911 * y) < 1 / (1 + 0.3275911 * x) :=
    one_div_lt_one_div_of_lt hden (by linarith)
  have hpos : 0 < 1 / (1 + 0.3275911 * y) := one_div_pos.mpr (by linarith)
  rw [erfTail_eq, erfTail_eq]
  refine mul_lt_mul (tailPoly_strictMono ht) (Real.exp_le_exp.mpr (by nlinarith))
    (Real.exp_pos _) ?_
  rw [← tailPoly_zero]
  exact (tailPoly_strictMono (hpos.trans ht)).le

/-! ## The error function -/

theorem erfApprox_of_neg {x : ℝ} (h : x < 0) : erfApprox x = erfTail (-x) - 1 := by
  show (if x < 0 then (-1 : ℝ) else 1) * (1 - erfTail |x|) = _
  rw [if_pos h, abs_of_neg h]
  ring

theorem erfApprox_of_nonneg {x : ℝ} (h : 0 ≤ x) : erfApprox x = 1 - erfTail x := by
  show (if x < 0 then (-1 : ℝ) else 1) * (1 - erfTail |x|) = _
  rw [if_neg (not_lt.mpr h), abs_of_nonneg h, one_mul]

theorem erfApprox_neg_of_neg {x : ℝ} (h : x < 0) : erfApprox x ∈ Set.Ioo (-1) 0 := by
  have htail := erfTail_mem (x := -x) (by linarith)
  rw [erfApprox_of_neg h]
  exact ⟨by linarith [htail.1], by linarith [htail.2]⟩

theorem erfApprox_pos_of_nonneg {x : ℝ} (h : 0 ≤ x) : erfApprox x ∈ Set.Ioo 0 1 := by
  have htail := erfTail_mem h
  rw [erfApprox_of_nonneg h]
  exact ⟨by linarith [htail.2], by linarith [htail.1]⟩

/-- The error function rises on both sides of zero, and where it jumps at zero it jumps up. -/
theorem erfApprox_strictMono : StrictMono (erfApprox : ℝ → ℝ) := by
  intro x y hxy
  rcases lt_or_ge x 0 with hx | hx
  · rcases lt_or_ge y 0 with hy | hy
    · rw [erfApprox_of_neg hx, erfApprox_of_neg hy]
      have htail := erfTail_strictAntiOn (a := -y) (b := -x) (neg_pos.mpr hy).le
        (neg_pos.mpr hx).le (neg_lt_neg hxy)
      linarith
    · -- Across zero the two sides do not meet, as the coefficients do not sum up to one.
      exact (erfApprox_neg_of_neg hx).2.trans (erfApprox_pos_of_nonneg hy).1
  · have hy : 0 ≤ y := hx.trans hxy.le
    rw [erfApprox_of_nonneg hx, erfApprox_of_nonneg hy]
    have htail := erfTail_strictAntiOn hx hy hxy
    linarith

/-! ## The distribution function -/

theorem normalCdf_eq (x : ℝ) : normalCdf x = 0.5 * (1 + erfApprox (x / √2.0)) := rfl

theorem normalCdf_mem (x : ℝ) : normalCdf x ∈ Set.Ioo (0 : ℝ) 1 := by
  rw [normalCdf_eq]
  rcases lt_or_ge (x / √2.0) 0 with h | h
  · have herf := erfApprox_neg_of_neg h
    constructor <;> linarith [herf.1, herf.2]
  · have herf := erfApprox_pos_of_nonneg h
    constructor <;> linarith [herf.1, herf.2]

theorem normalCdf_strictMono : StrictMono (normalCdf : ℝ → ℝ) := by
  intro x y hxy
  have hroot : (0 : ℝ) < √2.0 := Real.sqrt_pos.mpr (by norm_num)
  have herf := erfApprox_strictMono (div_lt_div_of_pos_right hxy hroot)
  rw [normalCdf_eq, normalCdf_eq]
  linarith

end ReturnForecast
