import ReturnForecast.Proofs.Scalar.RealValued
import ReturnForecast.Proofs.Scoring.Window

/-!
# What the figures of metrics say

Metrics hold the newest finite pairs, whatever else they were shown, and their figures are those of
the pairs that they hold. Over exact numbers the mean absolute error is zero only for exact
predictions, the share of hits counts equal signs, and the share of variance explained is one only
for exact predictions of values that vary.

* `Figures` — what a summary of some pairs should say
* `figures_summary` — what the summary of metrics says
* `summary_extended` — pairs of finite numbers among those with infinities and NaN
* `figures_of_window` — metrics after any pairs
-/

namespace ReturnForecast

/-! ## Sums over pairs -/

namespace Metrics

/-- The sum of the absolute errors. -/
noncomputable def totalError (pairs : List (ℝ × ℝ)) : ℝ := (pairs.map fun p => |p.1 - p.2|).sum

/-- The sum of the squared errors. -/
noncomputable def totalSquaredError (pairs : List (ℝ × ℝ)) : ℝ :=
  (pairs.map fun p => (p.1 - p.2) ^ 2).sum

/-- The mean of the actual values. -/
noncomputable def meanActual (pairs : List (ℝ × ℝ)) : ℝ := (pairs.map Prod.fst).sum / pairs.length

/-- The sum of the squared distances of the actual values from their mean. -/
noncomputable def variation (pairs : List (ℝ × ℝ)) : ℝ :=
  (pairs.map fun p => (p.1 - meanActual pairs) ^ 2).sum

/-- Are both sides of a pair positive, or both negative? -/
def SameSign (p : ℝ × ℝ) : Prop := 0 < p.1 ∧ 0 < p.2 ∨ p.1 < 0 ∧ p.2 < 0

noncomputable instance : DecidablePred SameSign := fun _ => inferInstanceAs (Decidable (_ ∨ _))

/-- A sum of numbers that are not negative is zero only if all of them are. -/
theorem sum_map_eq_zero_iff {β : Type} {f : β → ℝ} (hf : ∀ x, 0 ≤ f x) (xs : List β) :
    (xs.map f).sum = 0 ↔ ∀ x ∈ xs, f x = 0 := by
  induction xs with
  | nil => simp
  | cons x xs ih =>
    have hrest : 0 ≤ (xs.map f).sum := List.sum_nonneg (by simpa using fun y _ => hf y)
    rw [List.map_cons, List.sum_cons, add_eq_zero_iff_of_nonneg (hf x) hrest, ih]
    simp

theorem totalError_eq_zero_iff (pairs : List (ℝ × ℝ)) :
    totalError pairs = 0 ↔ ∀ p ∈ pairs, p.1 = p.2 := by
  rw [totalError, sum_map_eq_zero_iff fun p => abs_nonneg _]
  simp only [abs_eq_zero, sub_eq_zero]

theorem totalSquaredError_eq_zero_iff (pairs : List (ℝ × ℝ)) :
    totalSquaredError pairs = 0 ↔ ∀ p ∈ pairs, p.1 = p.2 := by
  rw [totalSquaredError, sum_map_eq_zero_iff fun p => sq_nonneg _]
  simp only [sq_eq_zero_iff, sub_eq_zero]

theorem totalSquaredError_nonneg (pairs : List (ℝ × ℝ)) : 0 ≤ totalSquaredError pairs :=
  List.sum_nonneg (by simpa [List.mem_map] using fun _ _ _ _ h => h ▸ sq_nonneg _)

/-! ## Figures of real pairs -/

/-- What a summary should say of the pairs that are held. -/
structure Figures (r2MinSamples : Int) (pairs : List (ℝ × ℝ)) (s : MetricsSummary ℝ) : Prop where
  samples : s.samples = pairs.length
  mae : s.mae = if pairs = [] then none else some (totalError pairs / pairs.length)
  mae_eq_zero_iff : s.mae = some 0 ↔ pairs ≠ [] ∧ ∀ p ∈ pairs, p.1 = p.2
  hitRate : s.hitRate =
    if pairs = [] then none else some ((pairs.countP SameSign : ℝ) / pairs.length)
  hitRate_mem : ∀ rate, s.hitRate = some rate → rate ∈ Set.Icc 0 1
  r2_eq_none_iff : s.r2 = none ↔ (pairs.length : Int) < max 1 r2MinSamples
  r2_of_constant : max 1 r2MinSamples ≤ pairs.length → variation pairs ≤ 1e-18 → s.r2 = some 0
  r2_of_varied : max 1 r2MinSamples ≤ pairs.length → 1e-18 < variation pairs →
    s.r2 = some (1 - totalSquaredError pairs / variation pairs)
  r2_le_one : ∀ r, s.r2 = some r → r ≤ 1
  r2_eq_one_iff : s.r2 = some 1 ↔
    max 1 r2MinSamples ≤ pairs.length ∧ 1e-18 < variation pairs ∧ s.mae = some 0

theorem mae_eq (m : Metrics ℝ) :
    m.mae = if m.pairs = [] then none else some (totalError m.pairs / m.pairs.length) := by
  unfold mae mean
  rw [total_eq_sum, List.length_map]
  simp only [List.isEmpty_iff]
  rfl

theorem hitRate_eq (m : Metrics ℝ) : m.hitRate =
    if m.pairs = [] then none else some ((m.pairs.countP SameSign : ℝ) / m.pairs.length) := by
  unfold hitRate
  simp only [List.isEmpty_iff, mul_pos_iff]
  rfl

theorem squaredErrors_eq (m : Metrics ℝ) : m.squaredErrors = totalSquaredError m.pairs := by
  unfold squaredErrors totalSquaredError square
  rw [total_eq_sum]
  simp only [← sq]

theorem squaredDeviations_eq (m : Metrics ℝ) : m.squaredDeviations = variation m.pairs := by
  unfold squaredDeviations variation meanActual square mean
  simp only [total_eq_sum, List.map_map, List.length_map, ← sq]
  rfl

theorem r2_eq (m : Metrics ℝ) : m.r2 =
    if (m.pairs.length : Int) < max 1 m.r2MinSamples then none
    else if variation m.pairs ≤ 1e-18 then some 0
    else some (1 - totalSquaredError m.pairs / variation m.pairs) := by
  unfold r2
  rw [squaredDeviations_eq, squaredErrors_eq]
  refine if_congr ?_ rfl rfl
  show m.pairs.length = 0 ∨ (m.pairs.length : Int) < m.r2MinSamples ↔ _
  omega

theorem length_pos {pairs : List (ℝ × ℝ)} (h : pairs ≠ []) : (0 : ℝ) < pairs.length :=
  Nat.cast_pos.mpr (List.length_pos_iff.mpr h)

/-- The mean absolute error is zero only if all predictions are exact. -/
theorem mae_eq_zero_iff (m : Metrics ℝ) :
    m.mae = some 0 ↔ m.pairs ≠ [] ∧ ∀ p ∈ m.pairs, p.1 = p.2 := by
  rw [mae_eq]
  split
  · next h => simp [h]
  · next h =>
    rw [Option.some.injEq, div_eq_zero_iff, or_iff_left (length_pos h).ne', totalError_eq_zero_iff]
    exact (and_iff_right h).symm

theorem hitRate_mem (m : Metrics ℝ) {rate : ℝ} (h : m.hitRate = some rate) :
    rate ∈ Set.Icc 0 1 := by
  rw [hitRate_eq] at h
  split at h
  · cases h
  · next hpairs =>
    rw [← Option.some.inj h]
    have hle : (m.pairs.countP SameSign : ℝ) ≤ m.pairs.length :=
      Nat.cast_le.mpr List.countP_le_length
    exact ⟨by positivity, (div_le_one (length_pos hpairs)).mpr hle⟩

theorem r2_eq_none_iff (m : Metrics ℝ) :
    m.r2 = none ↔ (m.pairs.length : Int) < max 1 m.r2MinSamples := by
  rw [r2_eq]
  split
  · next h => simp [h]
  · next h => split <;> simpa using h

section Varied

variable {pairs : List (ℝ × ℝ)} (hvaried : 1e-18 < variation pairs)
include hvaried

theorem variation_pos : 0 < variation pairs := by
  have hsmall : (0 : ℝ) < 1e-18 := by norm_num
  exact hsmall.trans hvaried

/-- What is explained of values that vary is never more than all of it. -/
theorem explained_le_one : 1 - totalSquaredError pairs / variation pairs ≤ 1 := by
  have hshare : 0 ≤ totalSquaredError pairs / variation pairs :=
    div_nonneg (totalSquaredError_nonneg pairs) (variation_pos hvaried).le
  linarith

/-- All of it is explained only by exact predictions. -/
theorem explained_eq_one_iff :
    1 - totalSquaredError pairs / variation pairs = 1 ↔ ∀ p ∈ pairs, p.1 = p.2 := by
  rw [sub_eq_self, div_eq_zero_iff, or_iff_left (variation_pos hvaried).ne',
    totalSquaredError_eq_zero_iff]

end Varied

theorem r2_le_one (m : Metrics ℝ) {r : ℝ} (h : m.r2 = some r) : r ≤ 1 := by
  rw [r2_eq] at h
  split at h
  · cases h
  · split at h
    · exact Option.some.inj h ▸ zero_le_one
    · next hvaried => exact Option.some.inj h ▸ explained_le_one (not_le.mp hvaried)

theorem r2_eq_one_iff (m : Metrics ℝ) : m.r2 = some 1 ↔
    max 1 m.r2MinSamples ≤ m.pairs.length ∧ 1e-18 < variation m.pairs ∧ m.mae = some 0 := by
  rw [r2_eq]
  split
  · next hfew => simp [hfew.not_ge]
  · next henough =>
    split
    · next hconstant => simp [hconstant.not_gt]
    · next hvaried =>
      have hpairs : m.pairs ≠ [] := by
        intro hnil
        rw [hnil] at henough
        simp at henough
      rw [Option.some.injEq, explained_eq_one_iff (not_le.mp hvaried), mae_eq_zero_iff]
      exact ⟨fun h => ⟨not_lt.mp henough, not_le.mp hvaried, hpairs, h⟩, fun h => h.2.2.2⟩

/-- **The summary of metrics** over exact reals says what it should of the pairs that they hold. -/
theorem figures_summary (m : Metrics ℝ) : Figures m.r2MinSamples m.pairs m.summary where
  samples := rfl
  mae := mae_eq m
  mae_eq_zero_iff := mae_eq_zero_iff m
  hitRate := hitRate_eq m
  hitRate_mem _ := hitRate_mem m
  r2_eq_none_iff := r2_eq_none_iff m
  r2_of_constant henough hconstant := by
    show m.r2 = _
    rw [r2_eq, if_neg henough.not_gt, if_pos hconstant]
  r2_of_varied henough hvaried := by
    show m.r2 = _
    rw [r2_eq, if_neg henough.not_gt, if_neg hvaried.not_ge]
  r2_le_one _ := r2_le_one m
  r2_eq_one_iff := r2_eq_one_iff m

end Metrics

/-! ## Pairs of finite numbers among others -/

/-- A summary with its numbers seen another way. -/
def MetricsSummary.map {α β : Type} (g : α → β) (s : MetricsSummary α) : MetricsSummary β :=
  { samples := s.samples, mae := s.mae.map g, hitRate := s.hitRate.map g, r2 := s.r2.map g }

namespace Metrics

open Extended

/-- A pair of reals as a pair of extended numbers. -/
def extendedPair (p : ℝ × ℝ) : Extended × Extended := (finite p.1, finite p.2)

/-- Metrics of reals as metrics of extended numbers. -/
def extended (m : Metrics ℝ) : Metrics Extended :=
  { window := m.window, r2MinSamples := m.r2MinSamples, pairs := m.pairs.map extendedPair }

@[simp] theorem pairs_extended (m : Metrics ℝ) :
    m.extended.pairs = m.pairs.map extendedPair := rfl

@[simp] theorem r2MinSamples_extended (m : Metrics ℝ) :
    m.extended.r2MinSamples = m.r2MinSamples := rfl

@[simp] theorem count_extended (m : Metrics ℝ) : m.extended.count = m.count := List.length_map _

theorem exists_map_extendedPair {xs : List (Extended × Extended)}
    (h : ∀ x ∈ xs, finitePair x = true) : ∃ pairs : List (ℝ × ℝ), xs = pairs.map extendedPair := by
  induction xs with
  | nil => exact ⟨[], rfl⟩
  | cons x xs ih =>
    obtain ⟨pairs, rfl⟩ := ih fun y hy => h y (List.mem_cons_of_mem x hy)
    obtain ⟨hactual, hpredicted⟩ := Bool.and_eq_true_iff.mp (h x List.mem_cons_self)
    obtain ⟨a, ha⟩ := isFinite_iff.mp hactual
    obtain ⟨p, hp⟩ := isFinite_iff.mp hpredicted
    exact ⟨(a, p) :: pairs, congrArg (· :: _) (Prod.ext ha hp)⟩

theorem mae_extended (m : Metrics ℝ) : m.extended.mae = m.mae.map finite := by
  unfold mae
  by_cases hpairs : m.pairs = []
  · simp [hpairs]
  · have herrors : m.extended.pairs.map (fun p => Scalar.abs (p.1 - p.2)) =
        (m.pairs.map fun p => Scalar.abs (p.1 - p.2)).map finite := by
      rw [pairs_extended, List.map_map, List.map_map]
      rfl
    simp only [herrors]
    rw [mean_map_finite (by simpa using hpairs), if_neg (by simpa using hpairs),
      if_neg (by simpa using hpairs), ← total_eq_sum]
    rfl

theorem hitRate_extended (m : Metrics ℝ) : m.extended.hitRate = m.hitRate.map finite := by
  unfold hitRate
  by_cases hpairs : m.pairs = []
  · simp [hpairs]
  · have hhits : m.extended.pairs.countP (fun p => 0 < p.1 * p.2) =
        m.pairs.countP fun p => 0 < p.1 * p.2 := by
      rw [pairs_extended, List.countP_map]
      exact List.countP_congr fun p _ => Iff.rfl
    rw [if_neg (by simpa using hpairs), if_neg (by simpa using hpairs)]
    simp only [hhits, count_extended]
    exact congrArg some (finite_div (length_pos hpairs).ne')

theorem squaredErrors_extended (m : Metrics ℝ) :
    m.extended.squaredErrors = finite m.squaredErrors := by
  have hsquares : m.extended.pairs.map (fun p => square (p.1 - p.2)) =
      (m.pairs.map fun p => square (p.1 - p.2)).map finite := by
    rw [pairs_extended, List.map_map, List.map_map]
    rfl
  unfold squaredErrors
  rw [total_eq_sum, ← total_map_finite, ← hsquares]

theorem squaredDeviations_extended (m : Metrics ℝ) (h : m.pairs ≠ []) :
    m.extended.squaredDeviations = finite m.squaredDeviations := by
  have hactuals : m.extended.pairs.map (·.1) = (m.pairs.map (·.1)).map finite := by
    rw [pairs_extended, List.map_map, List.map_map]
    rfl
  have hmean : mean ((m.pairs.map (·.1)).map finite) = finite (mean (m.pairs.map (·.1))) := by
    rw [mean_map_finite (by simpa using h), ← total_eq_sum]
    rfl
  have hsquares : ∀ (centre : ℝ) (actuals : List ℝ),
      (actuals.map finite).map (fun a => square (a - finite centre)) =
        (actuals.map fun a => square (a - centre)).map finite := by
    intro centre actuals
    rw [List.map_map, List.map_map]
    rfl
  unfold squaredDeviations
  simp only [hactuals, hmean, hsquares]
  rw [total_eq_sum, ← total_map_finite]

theorem r2_extended (m : Metrics ℝ) : m.extended.r2 = m.r2.map finite := by
  unfold r2
  rw [count_extended, r2MinSamples_extended]
  by_cases hfew : m.count = 0 ∨ Int.ofNat m.count < m.r2MinSamples
  · rw [if_pos hfew, if_pos hfew]
    rfl
  · have hpairs : m.pairs ≠ [] := fun hnil => hfew (.inl (by simp [count, hnil]))
    rw [if_neg hfew, if_neg hfew, squaredDeviations_extended m hpairs, squaredErrors_extended]
    by_cases hconstant : m.squaredDeviations ≤ 1e-18
    · have hle : finite m.squaredDeviations ≤ 1e-18 := finite_le.mpr hconstant
      rw [if_pos hconstant, if_pos hle]
      rfl
    · have hle : ¬ finite m.squaredDeviations ≤ 1e-18 := mt finite_le.mp hconstant
      have hne : m.squaredDeviations ≠ 0 := fun h => hconstant (by rw [h]; norm_num)
      rw [if_neg hconstant, if_neg hle, finite_div hne]
      rfl

theorem summary_extended (m : Metrics ℝ) : m.extended.summary = m.summary.map finite := by
  unfold summary MetricsSummary.map
  rw [mae_extended, hitRate_extended, r2_extended, count_extended]

/--
**Metrics after any pairs** hold the newest finite ones, as many as the window says, two at least.
Over exact numbers with NaN and infinities their summary is that of reals, and says what it should
of these pairs.
-/
theorem figures_of_window (window r2MinSamples : Int) :
    (∀ {α : Type} [Scalar α] (pairs : List (α × α)),
      ((fresh window r2MinSamples).observeAll pairs).pairs =
        (pairs.filter finitePair).rtake (max window 2).toNat) ∧
    ∀ pairs : List (Extended × Extended), ∃ (kept : List (ℝ × ℝ)) (s : MetricsSummary ℝ),
      (pairs.filter finitePair).rtake (max window 2).toNat = kept.map extendedPair ∧
        ((fresh window r2MinSamples).observeAll pairs).summary = s.map finite ∧
        Figures r2MinSamples kept s := by
  constructor
  · intro α _ pairs
    rw [observeAll_fresh, lastItems_of_pos (by omega)]
    rfl
  · intro pairs
    have hwindow : 0 < max window 2 := by omega
    have hfinite : ∀ x ∈ lastItems (max window 2) (pairs.filter finitePair),
        finitePair x = true := by
      intro x hx
      rw [lastItems_of_pos hwindow] at hx
      exact (List.mem_filter.mp (List.mem_of_mem_drop hx)).2
    obtain ⟨kept, hkept⟩ := exists_map_extendedPair hfinite
    let m : Metrics ℝ := { window := max window 2, r2MinSamples, pairs := kept }
    have hm : (fresh window r2MinSamples).observeAll pairs = m.extended := by
      rw [observeAll_fresh, hkept]
      rfl
    refine ⟨kept, m.summary, ?_, ?_, figures_summary m⟩
    · rw [← hkept, lastItems_of_pos hwindow]
      rfl
    · rw [hm, summary_extended]

end Metrics

end ReturnForecast
