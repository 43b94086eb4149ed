import Mathlib
import ReturnForecast.Price
import ReturnForecast.Scalar.Binary64
import ReturnForecast.Smoothing

/-!
# The order of doubles

Any two finite doubles compare, and the other way round they compare the other way. So a finite
double that is not below another one is at least that one, and a sigma raised to a finite floor is
never below it. NaN compares with nothing, and no quotient of usable prices is NaN.

* `compare_swap` — finite doubles compare both ways
* `not_zero_le_iff` — what the comparison with zero says, NaN included
* `floorSigma_finite_ge` — what the sigma floor gives, whatever it is given
* `not_isNaN_div` — quotients of usable prices
-/

namespace ReturnForecast.Double

open Float.Model UnpackedFloat

/-- Two finite doubles compare, and the other way round they compare the other way. -/
theorem compare_swap {x y : UnpackedFloat} (hx : x.isFinite = true) (hy : y.isFinite = true) :
    ∃ o : Ordering, x.compare y = some o ∧ y.compare x = some o.swap := by
  cases x with
  | notANumber => cases hx
  | infinity s => cases hx
  | zero s =>
    cases y with
    | notANumber => cases hy
    | infinity t => cases hy
    | zero t => exact ⟨.eq, rfl, rfl⟩
    | finite t n f hn => cases t <;> exact ⟨_, rfl, rfl⟩
  | finite s m e hm =>
    cases y with
    | notANumber => cases hy
    | infinity t => cases hy
    | zero t => cases s <;> exact ⟨_, rfl, rfl⟩
    | finite t n f hn =>
      -- Mantissas decide where exponents agree; the order of negative numbers is turned round.
      have hswap : (compare f e).then (compare n m) = ((compare e f).then (compare m n)).swap := by
        rw [Ordering.swap_then, Int.compare_swap, Nat.compare_swap]
      cases s with
      | positive =>
        cases t with
        | positive => exact ⟨_, rfl, congrArg some hswap⟩
        | negative => exact ⟨.gt, rfl, rfl⟩
      | negative =>
        cases t with
        | positive => exact ⟨.lt, rfl, rfl⟩
        | negative => exact ⟨_, rfl, congrArg (fun o : Ordering => some o.swap) hswap⟩

theorem le_iff {a b : Float} : a ≤ b ↔ a.toModel.unpack.le b.toModel.unpack = true :=
  ⟨of_decide_eq_true (p := a.toModel ≤ b.toModel), decide_eq_true (p := a.toModel ≤ b.toModel)⟩

theorem lt_iff {a b : Float} : a < b ↔ a.toModel.unpack.lt b.toModel.unpack = true :=
  ⟨of_decide_eq_true (p := a.toModel < b.toModel), decide_eq_true (p := a.toModel < b.toModel)⟩

theorem le_of_not_lt {a b : Float} (ha : a.isFinite = true) (hb : b.isFinite = true)
    (h : ¬ a < b) : b ≤ a := by
  obtain ⟨o, hab, hba⟩ := compare_swap (x := a.toModel.unpack) (y := b.toModel.unpack) ha hb
  rw [lt_iff, UnpackedFloat.lt, hab] at h
  rw [le_iff, UnpackedFloat.le, hba]
  cases o with
  | lt => exact absurd rfl h
  | eq => rfl
  | gt => rfl

theorem le_refl {a : Float} (ha : a.isFinite = true) : a ≤ a := by
  obtain ⟨o, ho, hswap⟩ := compare_swap (x := a.toModel.unpack) (y := a.toModel.unpack) ha ha
  have heq : o = .eq := Ordering.eq_eq_of_eq_swap (Option.some.inj (ho.symm.trans hswap))
  rw [le_iff, UnpackedFloat.le, ho, heq]
  rfl

/-! ## Signs -/

theorem unpack_zero : (0 : Float).toModel.unpack = .zero .positive := rfl

/-- A double that is not at least zero is negative, or NaN. -/
theorem not_zero_le_iff (x : Float) : ¬ 0 ≤ x ↔ x < 0 ∨ x.isNaN = true := by
  rw [le_iff, lt_iff, unpack_zero]
  show _ ↔ _ ∨ x.toModel.unpack.isNaN = true
  cases x.toModel.unpack with
  | notANumber => decide
  | infinity s => cases s <;> decide
  | zero s => cases s <;> decide
  | finite s m e hm =>
    cases s with
    | positive => exact iff_of_false (fun h => h rfl) (by rintro (h | h) <;> cases h)
    | negative => exact iff_of_true (fun h => Bool.false_ne_true h) (.inl rfl)

theorem unpack_of_isNaN {x : Float} (h : x.isNaN = true) : x.toModel.unpack = .notANumber := by
  have hnan : x.toModel.unpack.isNaN = true := h
  cases hx : x.toModel.unpack with
  | notANumber => rfl
  | infinity s => rw [hx] at hnan; cases hnan
  | zero s => rw [hx] at hnan; cases hnan
  | finite s m e hm => rw [hx] at hnan; cases hnan

/-- NaN is at most nothing. -/
theorem not_le_of_isNaN {x : Float} (h : x.isNaN = true) (y : Float) : ¬ x ≤ y := by
  rw [le_iff, unpack_of_isNaN h]
  exact Bool.false_ne_true

/-- NaN is below nothing. -/
theorem not_lt_of_isNaN {x : Float} (h : x.isNaN = true) (y : Float) : ¬ x < y := by
  rw [lt_iff, unpack_of_isNaN h]
  exact Bool.false_ne_true

theorem lt_zero_iff {x : Float} (h : x.isNaN = false) : x < 0 ↔ ¬ 0 ≤ x := by
  rw [not_zero_le_iff, h]
  exact ⟨.inl, fun hx => hx.resolve_right Bool.false_ne_true⟩

theorem zero_lt_of_not_le {x : Float} (h : x.isNaN = false) (hx : ¬ x ≤ 0) : 0 < x := by
  have hnumber : x.toModel.unpack.isNaN = false := h
  rw [le_iff, unpack_zero] at hx
  rw [lt_iff, unpack_zero]
  cases hunpack : x.toModel.unpack with
  | notANumber =>
    rw [hunpack] at hnumber
    cases hnumber
  | infinity s =>
    rw [hunpack] at hx
    cases s with
    | positive => rfl
    | negative => exact absurd rfl hx
  | zero s =>
    rw [hunpack] at hx
    cases s <;> exact absurd rfl hx
  | finite s m e hm =>
    rw [hunpack] at hx
    cases s with
    | positive => rfl
    | negative => exact absurd rfl hx

/-- **A sigma raised to a finite floor is finite and at least the floor,** whatever it was. -/
theorem floorSigma_finite_ge (sigma : Float) {least : Float} (hleast : least.isFinite = true) :
    (floorSigma sigma least).isFinite = true ∧ least ≤ floorSigma sigma least := by
  unfold floorSigma larger
  split
  · next hsigma =>
    split
    · exact ⟨hleast, le_refl hleast⟩
    · next hless => exact ⟨hsigma, le_of_not_lt hsigma hleast hless⟩
  · exact ⟨hleast, le_refl hleast⟩

/-! ## Quotients of prices -/

theorem not_isNaN_of_exponent {b : BitVec 64} (h : @unpackExponent .binary64 b ≠ -1#11) :
    (UnpackedFloat.unpack .binary64 b).isNaN = false := by
  unfold UnpackedFloat.unpack
  rw [if_neg h]
  split
  · split <;> rfl
  · rfl

/-- Only NaN becomes NaN as a bit pattern. -/
theorem not_isNaN_pack {u : UnpackedFloat} (h : u.isNaN = false) :
    (Float.Model.pack u).unpack.isNaN = false := by
  cases u with
  | notANumber => cases h
  | infinity s => cases s <;> rfl
  | zero s => cases s <;> rfl
  | finite s m e hm =>
    show (unpack .binary64 (UnpackedFloat.pack .binary64 (.finite s m e hm))).isNaN = _
    unfold UnpackedFloat.pack
    simp only
    split
    · cases s <;> rfl
    · next hbelow =>
      refine not_isNaN_of_exponent ?_
      split
      · rw [unpackExponent_packComponents]
        generalize (e + (Format.binary64.exponentBias : Int) +
          (Format.binary64.mantissaBitsWithoutImplicit : Int)).toNat = biased at hbelow ⊢
        have hbelow : ¬ 2 ^ 11 ≤ biased + 1 := hbelow
        intro heq
        have htop : (BitVec.ofNat 11 biased).toNat = 2047 := congrArg BitVec.toNat heq
        rw [BitVec.toNat_ofNat] at htop
        omega
      · rw [unpackExponent_packComponents]
        decide

theorem not_isNaN_unpacked_div {u v : UnpackedFloat} (hu : u.isFinite = true)
    (hv : v.isFinite = true) (hzero : ∀ s, v ≠ .zero s) :
    (UnpackedFloat.div .binary64 u v).isNaN = false := by
  cases v with
  | notANumber => cases hv
  | infinity t => cases hv
  | zero t => exact absurd rfl (hzero t)
  | finite t n f hn =>
    cases u with
    | notANumber => cases hu
    | infinity s => cases hu
    | zero s => rfl
    | finite s m e hm =>
      unfold UnpackedFloat.div roundWithAccuracy
      simp only
      split <;> rfl

theorem not_epsilon_lt_zero (s : Sign) :
    (epsilon : Float).toModel.unpack.lt (.zero s) = false := by
  cases s <;> rfl

/-- **A quotient of usable prices is not NaN,** although it may be infinite or vanish. -/
theorem not_isNaN_div {p q : Float} (hp : isValidPrice p = true) (hq : isValidPrice q = true) :
    (p / q).isNaN = false := by
  obtain ⟨hp, -⟩ := Bool.and_eq_true_iff.mp hp
  obtain ⟨hq, habove⟩ := Bool.and_eq_true_iff.mp hq
  have hzero : ∀ s, q.toModel.unpack ≠ .zero s := by
    intro s hs
    have hless := lt_iff.mp (of_decide_eq_true habove)
    rw [hs, not_epsilon_lt_zero] at hless
    cases hless
  exact not_isNaN_pack (not_isNaN_unpacked_div hp hq hzero)

end ReturnForecast.Double
