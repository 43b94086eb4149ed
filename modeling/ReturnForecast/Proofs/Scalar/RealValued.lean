import ReturnForecast.Proofs.Scalar.Extended
import ReturnForecast.Estimate

/-!
# Operations that stay within the reals

Among the numbers with infinities and NaN, an operation outside its domain shows: a quotient by
zero, the root of a negative number and the logarithm of what is not positive are infinite or NaN.
What is computed from reals and is real again has been computed within the domains.

* `IsReal` — neither infinite nor NaN, with one lemma for every operation of the rules
* `IsReal.div` / `IsReal.ratioAbove` / `IsReal.sqrtPos` — the operations that have a domain
* `div?_isReal` / `shrinkWeight?_isReal` — the quotients that are checked
-/

namespace ReturnForecast.Extended

/-- Neither infinite nor NaN. -/
def IsReal (a : Extended) : Prop := ∃ x : ℝ, a = finite x

theorem isReal_finite (x : ℝ) : (finite x).IsReal := ⟨x, rfl⟩

theorem isReal_iff {a : Extended} : a.IsReal ↔ Scalar.isFinite a = true := isFinite_iff.symm

theorem isReal_zero : (0 : Extended).IsReal := ⟨0, rfl⟩

theorem isReal_one : (1 : Extended).IsReal := ⟨1, rfl⟩

theorem isReal_natCast (n : Nat) : (n : Extended).IsReal := ⟨n, rfl⟩

theorem isReal_intCast (n : Int) : (n : Extended).IsReal := ⟨n, rfl⟩

theorem isReal_ofScientific (m : Nat) (s : Bool) (e : Nat) :
    (OfScientific.ofScientific m s e : Extended).IsReal := ⟨_, rfl⟩

theorem zero_le_ofScientific (m : Nat) (s : Bool) (e : Nat) :
    (0 : Extended) ≤ OfScientific.ofScientific m s e :=
  finite_le.mpr (NNRat.cast_nonneg _)

/-- What exceeds a bound of zero or more is not at most zero. -/
theorem not_le_zero_of_lt {bound b : Extended} (hbound : 0 ≤ bound) (h : bound < b) :
    ¬ b ≤ 0 := by
  cases b with
  | nan => exact id
  | infinite s =>
    cases s with
    | false => exact Bool.false_ne_true
    | true =>
      cases bound with
      | nan => exact h.elim
      | infinite t => exact absurd h.2 (Ne.symm Bool.false_ne_true)
      | finite x => exact absurd h (Ne.symm Bool.false_ne_true)
  | finite y =>
    cases bound with
    | nan => exact h.elim
    | infinite t =>
      have ht : t = false := hbound
      exact absurd (ht.symm.trans h) Bool.false_ne_true
    | finite x => exact not_le.mpr (lt_of_le_of_lt (finite_le.mp hbound) (finite_lt.mp h))

/-- What is moved into an interval of positive numbers is positive. -/
theorem not_clamp_le_zero (x : Extended) {lo : ℝ} (hlo : 0 < lo) (hi : Extended) :
    ¬ clamp x (finite lo) hi ≤ 0 := by
  unfold clamp larger
  split
  · next h => exact not_le_zero_of_lt (finite_le.mpr hlo.le) h
  · exact not_le.mpr hlo

namespace IsReal

variable {a b x : Extended}

/-! ## Sums and products -/

theorem neg (ha : a.IsReal) : (-a).IsReal := by
  obtain ⟨x, rfl⟩ := ha
  exact ⟨-x, rfl⟩

theorem add (ha : a.IsReal) (hb : b.IsReal) : (a + b).IsReal := by
  obtain ⟨x, rfl⟩ := ha
  obtain ⟨y, rfl⟩ := hb
  exact ⟨x + y, rfl⟩

theorem sub (ha : a.IsReal) (hb : b.IsReal) : (a - b).IsReal := ha.add hb.neg

theorem mul (ha : a.IsReal) (hb : b.IsReal) : (a * b).IsReal := by
  obtain ⟨x, rfl⟩ := ha
  obtain ⟨y, rfl⟩ := hb
  exact ⟨x * y, rfl⟩

theorem abs (ha : a.IsReal) : (Scalar.abs a).IsReal := by
  obtain ⟨x, rfl⟩ := ha
  exact ⟨|x|, rfl⟩

theorem tanh (ha : a.IsReal) : (Scalar.tanh a).IsReal := by
  obtain ⟨x, rfl⟩ := ha
  exact ⟨Real.tanh x, rfl⟩

theorem ewma {share : Extended} (ha : a.IsReal) (hx : x.IsReal) (hshare : share.IsReal) :
    (ewma a x share).IsReal :=
  ((isReal_one.sub hshare).mul ha).add (hshare.mul hx)

theorem blend {w : Extended} (hw : w.IsReal) (ha : a.IsReal) (hb : b.IsReal) :
    (blend w a b).IsReal :=
  (hw.mul ha).add ((isReal_one.sub hw).mul hb)

/-! ## Comparisons -/

theorem larger (ha : a.IsReal) (hb : b.IsReal) : (larger a b).IsReal := by
  unfold ReturnForecast.larger
  split
  · exact hb
  · exact ha

theorem smaller (ha : a.IsReal) (hb : b.IsReal) : (smaller a b).IsReal := by
  unfold ReturnForecast.smaller
  split
  · exact hb
  · exact ha

theorem clamp {lo hi : Extended} (hx : x.IsReal) (hlo : lo.IsReal) (hhi : hi.IsReal) :
    (clamp x lo hi).IsReal :=
  hlo.larger (hhi.smaller hx)

/-- The sign of any number is real. -/
theorem sign (x : Extended) : (sign x).IsReal := by
  unfold ReturnForecast.sign
  split
  · exact isReal_one
  · split
    · exact isReal_one.neg
    · exact isReal_zero

theorem clampUnit (hx : x.IsReal) : (clampUnit x).IsReal := hx.clamp isReal_zero isReal_one

/-- What is clamped to the unit interval is real, whatever it was. -/
theorem clampUnit_of_any (x : Extended) : (ReturnForecast.clampUnit x).IsReal := by
  unfold ReturnForecast.clampUnit ReturnForecast.clamp ReturnForecast.smaller
  split
  · next hless =>
    -- Only a real number or the negative infinity is below one, and zero is above the latter.
    cases x with
    | nan => exact hless.elim
    | infinite negative =>
      obtain rfl : negative = true := hless
      exact ⟨0, if_neg Bool.noConfusion⟩
    | finite x => exact isReal_zero.larger (isReal_finite x)
  · exact isReal_zero.larger isReal_one

/-! ## Operations with a domain -/

theorem div (ha : a.IsReal) (hb : b.IsReal) (hzero : ¬ IsZero b) : (a / b).IsReal := by
  obtain ⟨x, rfl⟩ := ha
  obtain ⟨y, rfl⟩ := hb
  have hy : y ≠ 0 := fun h => hzero (isZero_iff.mpr (congrArg finite h))
  exact ⟨x / y, finite_div hy⟩

theorem ratioAbove {bound : Extended} (hbound : 0 ≤ bound) (ha : a.IsReal) (hb : b.IsReal) :
    (ratioAbove bound a b).IsReal := by
  unfold ReturnForecast.ratioAbove
  split
  · next h => exact ha.div hb fun hzero => not_le_zero_of_lt hbound h hzero.1
  · exact isReal_zero

/-- What is not below a positive bound is not zero. -/
theorem not_isZero_of_not_lt {bound : ℝ} (hbound : 0 < bound) (hb : b.IsReal)
    (h : ¬ b < finite bound) : ¬ IsZero b := by
  obtain ⟨y, rfl⟩ := hb
  intro hzero
  exact h (finite_lt.mpr ((finite_le.mp hzero.1).trans_lt hbound))

theorem sqrt (ha : a.IsReal) (h : ¬ a < 0) : (Scalar.sqrt a).IsReal := by
  obtain ⟨x, rfl⟩ := ha
  exact ⟨Real.sqrt x, if_neg h⟩

theorem sqrtPos (ha : a.IsReal) : (sqrtPos a).IsReal :=
  (ha.larger isReal_zero).sqrt (not_larger_zero_lt_zero a)

end IsReal

/-! ## Sums and means -/

theorem IsReal.sum : ∀ {xs : List Extended}, (∀ x ∈ xs, x.IsReal) → xs.sum.IsReal
  | [], _ => isReal_zero
  | x :: xs, h => by
    rw [List.sum_cons]
    exact (h x List.mem_cons_self).add (sum fun y hy => h y (List.mem_cons_of_mem x hy))

theorem total_map_finite (xs : List ℝ) : total (xs.map finite) = finite xs.sum := by
  have hfold : ∀ (xs : List ℝ) (start : ℝ),
      (xs.map finite).foldl (· + ·) (finite start) = finite (start + xs.sum) := by
    intro xs
    induction xs with
    | nil => exact fun start => congrArg finite (add_zero start).symm
    | cons x xs ih =>
      intro start
      rw [List.sum_cons, ← add_assoc]
      exact ih (start + x)
  exact (hfold xs 0).trans (congrArg finite (zero_add xs.sum))

/-- The mean of reals is that of the reals, if there are any. -/
theorem mean_map_finite {xs : List ℝ} (hxs : xs ≠ []) :
    mean (xs.map finite) = finite (xs.sum / xs.length) := by
  have hlength : (xs.length : ℝ) ≠ 0 :=
    Nat.cast_ne_zero.mpr fun h => hxs (List.length_eq_zero_iff.mp h)
  unfold mean
  rw [total_map_finite, List.length_map]
  exact finite_div hlength

/-- A list of reals, as a list of extended numbers. -/
theorem exists_map_finite : ∀ {xs : List Extended}, (∀ x ∈ xs, x.IsReal) →
    ∃ ys : List ℝ, xs = ys.map finite
  | [], _ => ⟨[], rfl⟩
  | x :: xs, h => by
    obtain ⟨y, rfl⟩ := h x List.mem_cons_self
    obtain ⟨ys, rfl⟩ := exists_map_finite fun z hz => h z (List.mem_cons_of_mem _ hz)
    exact ⟨y :: ys, rfl⟩

theorem IsReal.mean {xs : List Extended} (hxs : xs ≠ []) (h : ∀ x ∈ xs, x.IsReal) :
    (mean xs).IsReal := by
  obtain ⟨ys, rfl⟩ := exists_map_finite h
  exact ⟨_, mean_map_finite fun hnil => hxs (congrArg (List.map finite) hnil)⟩

/-- The root of a mean of squares, which is not negative. -/
theorem isReal_spread {xs : List Extended} (hxs : xs ≠ []) (h : ∀ x ∈ xs, x.IsReal)
    {centre : Extended} (hcentre : centre.IsReal) :
    (Scalar.sqrt (mean (xs.map fun x => (x - centre) * (x - centre)))).IsReal := by
  obtain ⟨ys, rfl⟩ := exists_map_finite h
  obtain ⟨c, rfl⟩ := hcentre
  let squares := ys.map fun y => (y - c) * (y - c)
  have hsquares : (ys.map finite).map (fun x => (x - finite c) * (x - finite c)) =
      squares.map finite := by
    rw [List.map_map, List.map_map]
    rfl
  have hne : squares ≠ [] := fun hnil =>
    hxs (congrArg (List.map finite) (List.map_eq_nil_iff.mp hnil))
  have hnonneg : ∀ y ∈ squares, 0 ≤ y := by
    intro y hy
    obtain ⟨z, -, rfl⟩ := List.mem_map.mp hy
    exact mul_self_nonneg (z - c)
  rw [hsquares, mean_map_finite hne]
  exact (isReal_finite _).sqrt (not_lt.mpr (div_nonneg (List.sum_nonneg hnonneg)
    (Nat.cast_nonneg _)))

/-! ## Checked operations -/

/-- A quotient that is only taken above a bound never divides by zero. -/
theorem div?_ratioAbove {bound b : Extended} (hbound : 0 ≤ bound) (h : bound < b) (a : Extended) :
    div? a b = .ok (ratioAbove bound a b) :=
  div?_eq_ratioAbove h fun _ => not_le_zero_of_lt hbound

/-- The root of a number raised to zero at least is always in its domain. -/
theorem sqrt?_sqrtPos (x : Extended) : sqrt? (larger x 0) = .ok (sqrtPos x) :=
  sqrt?_larger_zero (show ¬ finite 0 < finite 0 from lt_irrefl (0 : ℝ)) x

theorem div?_isReal {a b : Extended} (ha : a.IsReal) (hb : b.IsReal) (hzero : ¬ IsZero b) :
    ∃ q, div? a b = .ok q ∧ q.IsReal :=
  ⟨a / b, if_neg hzero, ha.div hb hzero⟩

/-- The weight of any number of samples. -/
theorem shrinkWeight?_isReal (n : Nat) {k : ℝ} (hk : 0 < k) :
    ∃ w, shrinkWeight? (n : Extended) (finite k) = .ok w ∧ w.IsReal := by
  have htotal : (0 : ℝ) < n + k := add_pos_of_nonneg_of_pos n.cast_nonneg hk
  exact div?_isReal (isReal_natCast n) (isReal_finite (n + k)) fun hzero =>
    not_le.mpr htotal (finite_le.mp hzero.1)

end ReturnForecast.Extended
