import ReturnForecast.Proofs.LeastSquares.Design
import ReturnForecast.Proofs.LeastSquares.RealFilter
import ReturnForecast.Scalar.Binary64

/-!
# Features that are not finite

A regression looks at one number before it learns, the scale `forgetting + xᵀ P x`, and not at the
features one by one. That is enough: a feature that is infinite or NaN has a product of its own in
the scale, and no zero, no rounding and no opposite infinity makes a sum with that product finite.

* `FiniteOperands` — finite sums and products have finite operands; doubles are such numbers
* `Filter.finite_of_accepts` — an observation that is accepted is finite, and so is the covariance
* `Filter.observeAll_filter` — over a whole run, observations with a bad feature leave no trace
* `Filter.bad_feature_refused` — what an update with a bad feature comes to
-/

namespace ReturnForecast

/-! ## Sums and products -/

/-- A sum or a product is finite only if both operands are. -/
class FiniteOperands (α : Type) [Scalar α] : Prop where
  of_add {a b : α} (h : Scalar.isFinite (a + b) = true) :
    Scalar.isFinite a = true ∧ Scalar.isFinite b = true
  of_mul {a b : α} (h : Scalar.isFinite (a * b) = true) :
    Scalar.isFinite a = true ∧ Scalar.isFinite b = true

namespace Extended

theorem isFinite_of_add {a b : Extended} (h : isFinite (add a b) = true) :
    isFinite a = true ∧ isFinite b = true := by
  cases a with
  | nan => cases h
  | infinite s =>
    cases b with
    | nan => cases h
    | infinite t => cases s <;> cases t <;> simp [add, isFinite] at h
    | finite y => cases h
  | finite x =>
    cases b with
    | nan => cases h
    | infinite t => cases h
    | finite y => exact ⟨rfl, rfl⟩

theorem isFinite_of_mul {a b : Extended} (h : isFinite (mul a b) = true) :
    isFinite a = true ∧ isFinite b = true := by
  cases a with
  | nan => cases h
  | infinite s =>
    cases b with
    | nan => cases h
    | infinite t => cases h
    | finite y => by_cases hy : y = 0 <;> simp [mul, isFinite, hy] at h
  | finite x =>
    cases b with
    | nan => cases h
    | infinite t => by_cases hx : x = 0 <;> simp [mul, isFinite, hx] at h
    | finite y => exact ⟨rfl, rfl⟩

instance : FiniteOperands Extended := ⟨isFinite_of_add, isFinite_of_mul⟩

end Extended

namespace Double

open Float.Model

/-- An infinity or NaN keeps its nature as a bit pattern. -/
theorem isFinite_of_pack {u : UnpackedFloat} (h : (Float.Model.pack u).unpack.isFinite = true) :
    u.isFinite = true := by
  cases u with
  | notANumber => cases h
  | infinity s => cases s <;> cases h
  | zero s => rfl
  | finite s m e hm => rfl

theorem isFinite_of_unpacked_add {u v : UnpackedFloat}
    (h : (UnpackedFloat.add .binary64 u v).isFinite = true) :
    u.isFinite = true ∧ v.isFinite = true := by
  cases u with
  | notANumber => cases h
  | infinity s =>
    cases v with
    | infinity t => cases s <;> cases t <;> cases h
    | notANumber | zero | finite => cases h
  | zero s =>
    cases v with
    | notANumber | infinity => cases h
    | zero | finite => exact ⟨rfl, rfl⟩
  | finite s m e hm =>
    cases v with
    | notANumber | infinity => cases h
    | zero | finite => exact ⟨rfl, rfl⟩

theorem isFinite_of_unpacked_mul {u v : UnpackedFloat}
    (h : (UnpackedFloat.mul .binary64 u v).isFinite = true) :
    u.isFinite = true ∧ v.isFinite = true := by
  cases u with
  | notANumber => cases h
  | infinity s => cases v <;> cases h
  | zero s =>
    cases v with
    | notANumber | infinity => cases h
    | zero | finite => exact ⟨rfl, rfl⟩
  | finite s m e hm =>
    cases v with
    | notANumber | infinity => cases h
    | zero | finite => exact ⟨rfl, rfl⟩

instance : FiniteOperands Float where
  of_add {a b} h := by
    have hsum : (Float.Model.pack (UnpackedFloat.add .binary64 a.toModel.unpack
      b.toModel.unpack)).unpack.isFinite = true := h
    exact isFinite_of_unpacked_add (isFinite_of_pack hsum)
  of_mul {a b} h := by
    have hproduct : (Float.Model.pack (UnpackedFloat.mul .binary64 a.toModel.unpack
      b.toModel.unpack)).unpack.isFinite = true := h
    exact isFinite_of_unpacked_mul (isFinite_of_pack hproduct)

end Double

/-- A finite sum has finite terms. -/
theorem isFinite_of_sum {α : Type} [Scalar α] [FiniteOperands α] {xs : List α}
    (h : Scalar.isFinite xs.sum = true) {x : α} (hx : x ∈ xs) : Scalar.isFinite x = true := by
  induction xs with
  | nil => cases hx
  | cons a xs ih =>
    rw [List.sum_cons] at h
    obtain ⟨ha, hrest⟩ := FiniteOperands.of_add h
    rcases List.mem_cons.mp hx with rfl | hx
    · exact ha
    · exact ih hrest hx

namespace LeastSquares

variable {α : Type} [Scalar α] {n : Nat} {f : Filter α n} {x : Vector α n}

/-- No feature is infinite or NaN. -/
def AllFinite (x : Vector α n) : Prop := ∀ i : Fin n, Scalar.isFinite (x.get i) = true

instance (x : Vector α n) : Decidable (AllFinite x) :=
  inferInstanceAs (Decidable (∀ i : Fin n, Scalar.isFinite (x.get i) = true))

namespace Filter

/-! ## Revival -/

theorem weights_revive (f : Filter α n) : f.revive.weights = f.weights := by
  unfold revive
  split
  · rfl
  · rfl

/-- A covariance of the start is the same after another revival. -/
theorem revive_revive (f : Filter α n) : f.revive.revive = f.revive := by
  by_cases h : f.vanished = true
  · have hreset : f.revive = f.reset := if_pos h
    rw [hreset]
    unfold revive
    split
    · rfl
    · rfl
  · have hsame : f.revive = f := if_neg h
    rw [hsame, hsame]

/-- An observation begins with a revival, so that one before it makes no difference. -/
theorem observe_revive (f : Filter α n) (x : Vector α n) (y : α) :
    f.revive.observe x y = f.observe x y := by
  unfold observe update
  rw [revive_revive]

theorem revive_observeAll_revive (f : Filter α n) (seen : List (Vector α n × α)) :
    (f.revive.observeAll seen).revive = (f.observeAll seen).revive := by
  cases seen with
  | nil => exact revive_revive f
  | cons o later =>
    show ((f.revive.observe o.1 o.2).observeAll later).revive = _
    rw [observe_revive]
    rfl

/-! ## Updates -/

variable [FiniteOperands α]

omit [FiniteOperands α] in
theorem isFinite_of_accepts (h : f.accepts x = true) : Scalar.isFinite (f.scale x) = true :=
  (Bool.and_eq_true_iff.mp h).1

theorem isFinite_of_dot {v w : Vector α n} (h : Scalar.isFinite (dot v w) = true) (i : Fin n) :
    Scalar.isFinite (v.get i) = true ∧ Scalar.isFinite (w.get i) = true :=
  FiniteOperands.of_mul (isFinite_of_sum h (List.mem_ofFn.mpr ⟨i, rfl⟩))

/-- **Features that are accepted are finite,** and so is every covariance. -/
theorem finite_of_accepts (h : f.accepts x = true) :
    AllFinite x ∧ ∀ i : Fin n, AllFinite (f.covariance.get i) := by
  obtain ⟨-, hdot⟩ := FiniteOperands.of_add (isFinite_of_accepts h)
  refine ⟨fun i => (isFinite_of_dot hdot i).1, fun i j => ?_⟩
  -- The product of a row with the features is what that row's feature is multiplied by.
  have hrow := (isFinite_of_dot hdot i).2
  rw [mulVec, Vector.get_ofFn] at hrow
  exact (isFinite_of_dot hrow j).1

theorem update_of_bad_feature (f : Filter α n) (y : α) (h : ¬ AllFinite x) :
    f.update x y = (false, f.revive) := by
  refine update_of_not_accepts f x y (Bool.eq_false_iff.mpr fun haccepts => ?_)
  exact h (finite_of_accepts haccepts).1

/-- **Observations with a bad feature leave no trace** in what a run learns from the others. -/
theorem observeAll_filter (f : Filter α n) (seen : List (Vector α n × α)) :
    (f.observeAll seen).revive = (f.observeAll (seen.filter fun o => AllFinite o.1)).revive := by
  induction seen generalizing f with
  | nil => rfl
  | cons o later ih =>
    show ((f.observe o.1 o.2).observeAll later).revive = _
    by_cases ho : AllFinite o.1
    · rw [List.filter_cons_of_pos (by simpa using ho), ih]
      rfl
    · have hobserve : f.observe o.1 o.2 = f.revive :=
        congrArg Prod.snd (update_of_bad_feature f o.2 ho)
      rw [List.filter_cons_of_neg (by simpa using ho), hobserve, ih, revive_observeAll_revive]

/-- The weights of a run are those of its observations with finite features. -/
theorem weights_observeAll_filter (f : Filter α n) (seen : List (Vector α n × α)) :
    (f.observeAll seen).weights =
      (f.observeAll (seen.filter fun o => AllFinite o.1)).weights := by
  rw [← weights_revive, observeAll_filter, weights_revive]

/-- The covariance that an update starts from: a new one if the first entry has vanished. -/
def revivedCovariance (f : Filter α n) (hpos : 0 < n) : Vector (Vector α n) n :=
  if Scalar.abs ((f.covariance.get ⟨0, hpos⟩).get ⟨0, hpos⟩) ≤ epsilon then
    startCovariance f.ridge
  else f.covariance

omit [FiniteOperands α] in
theorem revive_eq (f : Filter α n) (hpos : 0 < n) :
    f.revive = { f with covariance := f.revivedCovariance hpos } := by
  unfold revive vanished revivedCovariance
  rw [dif_pos hpos]
  by_cases h : Scalar.abs ((f.covariance.get ⟨0, hpos⟩).get ⟨0, hpos⟩) ≤ epsilon
  · rw [if_pos (decide_eq_true h), if_pos h]
    rfl
  · rw [if_neg (by simpa using h), if_neg h]

theorem update?_of_bad_feature (f : Filter α n) (y : α) {i : Fin n}
    (h : Scalar.isFinite (x.get i) = false) :
    f.update? x y = .ok (false, { f with covariance := f.revivedCovariance i.pos }) := by
  have hbad : ¬ AllFinite x := fun hall => by
    have hi := hall i
    rw [h] at hi
    cases hi
  unfold update?
  rw [if_neg i.pos.ne', update_of_bad_feature f y hbad, revive_eq]

/--
**An update with a bad feature is refused,** whatever the covariance and the other features are:
weights, forgetting factor and ridge stay, and the covariance does unless it had vanished before.
-/
theorem bad_feature_refused :
    (∀ (n : Nat) (f : Filter Float n) (x : Vector Float n) (y : Float) (i : Fin n),
      Scalar.isFinite (x.get i) = false →
      f.update? x y = .ok (false, { f with covariance := f.revivedCovariance i.pos })) ∧
    ∀ (n : Nat) (f : Filter Extended n) (x : Vector Extended n) (y : Extended) (i : Fin n),
      Scalar.isFinite (x.get i) = false →
      f.update? x y = .ok (false, { f with covariance := f.revivedCovariance i.pos }) :=
  ⟨fun _ f _ y _ h => update?_of_bad_feature f y h,
    fun _ f _ y _ h => update?_of_bad_feature f y h⟩

/-- An infinite feature all of whose covariances are zero, and NaN beside an infinity. -/
theorem bad_feature_refused_beside_zeros :
    let f : Filter Float 2 :=
      { forgetting := 0.99, ridge := 0.01, weights := #v[1, 2]
        covariance := #v[#v[1, 0], #v[0, 0]] }
    let g : Filter Extended 2 := .fresh 2 0.99 0.01
    Scalar.isFinite ((#v[0, 1 / 0] : Vector Float 2).get 1) = false ∧
      f.update? #v[0, 1 / 0] 1 = .ok (false, f) ∧
      Scalar.isFinite ((#v[.nan, .infinite true] : Vector Extended 2).get 0) = false ∧
      g.update? #v[.nan, .infinite true] 1 =
        .ok (false, { g with covariance := g.revivedCovariance two_pos }) := by
  intro f g
  have hinfinite : Scalar.isFinite ((#v[0, 1 / 0] : Vector Float 2).get 1) = false := by
    decide +kernel
  have hkept : f.revivedCovariance two_pos = f.covariance := if_neg (by decide +kernel)
  refine ⟨hinfinite, ?_, rfl, bad_feature_refused.2 2 g _ 1 0 rfl⟩
  rw [bad_feature_refused.1 2 f #v[0, 1 / 0] 1 1 hinfinite, hkept]

end Filter

end LeastSquares

end ReturnForecast
