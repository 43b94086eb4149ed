import ReturnForecast.Scalar.Binary64
import Mathlib

/-!
# Doubles that need no rounding

Where the exact result of an operation is a double, that double is the result. Two cases of this are
needed: the quotient by one, and products of small integers.

* `Canonical` — the mantissas and exponents of finite doubles
* `round_exact` — what is canonical up to zeros at the end of its mantissa is not rounded
* `div_one` — a double divided by one is that double, whatever it is
* `toFloat_eq`, `toFloat_mul`, `floorInt_toFloat` — small integers: as doubles, multiplied, and back
-/

namespace ReturnForecast.Double

open Float.Model Float.Model.UnpackedFloat

/-! ## Mantissas and exponents -/

/-- A mantissa and an exponent as a finite double has them. -/
structure Canonical (m : Nat) (e : Int) : Prop where
  pos : 0 < m
  lt : m < 2 ^ 53
  least : -1074 ≤ e
  largest : e ≤ 971
  normal : 2 ^ 52 ≤ m ∨ e = -1074

namespace Canonical

variable {m : Nat} {e : Int}

theorem log2_le (h : Canonical m e) : m.log2 ≤ 52 :=
  Nat.le_of_lt_succ ((Nat.log2_lt h.pos.ne').mpr h.lt)

theorem log2_or (h : Canonical m e) : m.log2 = 52 ∨ e = -1074 :=
  h.normal.imp_left fun hm => le_antisymm h.log2_le ((Nat.le_log2 h.pos.ne').mpr hm)

/-- The exponent that a canonical number asks for, however many zeros its mantissa ends in. -/
theorem targetExponent_eq (h : Canonical m e) (k : Nat) :
    Format.binary64.targetExponent (totalExponent (m * 2 ^ k) (e - k)) = e := by
  have hlog : (m * 2 ^ k).log2 = m.log2 + k := by
    rw [Nat.log2_eq_iff (Nat.mul_pos h.pos (Nat.two_pow_pos k)).ne', Nat.pow_add, Nat.pow_add,
      Nat.pow_add, Nat.mul_right_comm]
    exact ⟨Nat.mul_le_mul_right _ (Nat.log2_self_le h.pos.ne'),
      Nat.mul_lt_mul_of_pos_right Nat.lt_log2_self (Nat.two_pow_pos k)⟩
  have hle := h.log2_le
  have hnormal := h.log2_or
  have hleast := h.least
  show max (((m * 2 ^ k).log2 : Int) + 1 + (e - k) - 53) (-1074) = e
  rw [hlog]
  omega

end Canonical

theorem toNat_packComponents (s : Sign) (e : BitVec 11) (m : BitVec 52) :
    (packComponents .binary64 s e m).toNat =
      s.toBitVec.toNat * 2 ^ 63 + e.toNat * 2 ^ 52 + m.toNat := by
  unfold packComponents
  rw [BitVec.toNat_append, BitVec.toNat_append, ← Nat.shiftLeft_add_eq_or_of_lt e.isLt,
    ← Nat.shiftLeft_add_eq_or_of_lt m.isLt, Nat.shiftLeft_eq, Nat.shiftLeft_eq]
  ring

theorem toNat_one_append (m : BitVec 52) : (1#1 ++ m).toNat = 2 ^ 52 + m.toNat := by
  rw [BitVec.toNat_append, ← Nat.shiftLeft_add_eq_or_of_lt m.isLt, Nat.shiftLeft_eq]
  rfl

/-- The mantissa and exponent of a bit pattern are canonical. -/
theorem canonical_of_unpack {b : BitVec 64} {s : Sign} {m : Nat} {e : Int} {hm : 0 < m}
    (h : UnpackedFloat.unpack .binary64 b = .finite s m e hm) : Canonical m e := by
  have hfraction := (@unpackMantissa .binary64 b).isLt
  have hexponent := (@unpackExponent .binary64 b).isLt
  simp only at hfraction hexponent
  unfold UnpackedFloat.unpack at h
  simp only at h
  split at h
  · split at h <;> cases h
  · next hne =>
    have hless : (@unpackExponent .binary64 b).toNat ≠ 2047 :=
      fun heq => hne (BitVec.eq_of_toNat_eq heq)
    split at h
    · next hzero =>
      split at h
      · cases h
      · cases h
        have hleast : ((@unpackExponent .binary64 b).toNat : Int) - (1023 + 52) + 1 =
            -1074 := by
          rw [hzero]
          rfl
        exact ⟨hm, by omega, hleast.ge, hleast.trans_le (by decide), .inr hleast⟩
    · next hzero =>
      have hpos : (@unpackExponent .binary64 b).toNat ≠ 0 :=
        fun heq => hzero (BitVec.eq_of_toNat_eq heq)
      have hmantissa := toNat_one_append (@unpackMantissa .binary64 b)
      cases h
      refine ⟨hm, ?_, ?_, ?_, .inl ?_⟩
      · omega
      · show -1074 ≤ ((@unpackExponent .binary64 b).toNat : Int) - (1023 + 52)
        omega
      · show ((@unpackExponent .binary64 b).toNat : Int) - (1023 + 52) ≤ 971
        omega
      · omega

/-! ## Rounding of what is exact -/

/-- Zeros at the end of a mantissa are shifted out without a rest. -/
theorem shift_exact : ∀ k m : Nat, (⟨m * 2 ^ k, false, false⟩ : ExtendedMantissa) >>> k =
    ⟨m, false, false⟩
  | 0, m => by rw [Nat.pow_zero, Nat.mul_one]; rfl
  | k + 1, m => by
    have hsplit : m * 2 ^ (k + 1) = m * 2 * 2 ^ k := by ring
    show ((⟨m * 2 ^ (k + 1), false, false⟩ : ExtendedMantissa) >>> k).shiftRightOne = _
    rw [hsplit, shift_exact k (m * 2)]
    simp [ExtendedMantissa.shiftRightOne]

/-- A canonical number is rounded to itself. -/
theorem round_exact (s : Sign) {m : Nat} {e : Int} (h : Canonical m e) (k : Nat) :
    roundWithAccuracy .binary64 s (m * 2 ^ k) (e - k) .exact = .finite s m e h.pos := by
  have hshift : ∀ k : Nat, shiftToTargetExponent .binary64 (m * 2 ^ k) (e - k) .exact =
      (⟨m, false, false⟩, e) := by
    intro k
    unfold shiftToTargetExponent shiftToExponent
    simp only [h.targetExponent_eq k, ExtendedMantissa.ofMantissaAndAccuracy]
    rw [show (e - (e - k)).toNat = k by omega, shift_exact]
    congr 1
    omega
  -- A rounded mantissa may have carried, so it is shifted again; this one has not.
  have hagain := hshift 0
  rw [Nat.pow_zero, Nat.mul_one, Nat.cast_zero, sub_zero] at hagain
  have hrounded : (⟨m, false, false⟩ : ExtendedMantissa).roundedMantissa = m := rfl
  unfold roundWithAccuracy
  simp only [hshift k, hrounded, hagain]
  exact dif_neg h.pos.ne'

/-! ## Division by one -/

theorem unpack_one : (1 : Float).toModel.unpack = .finite .positive (2 ^ 52) (-52) (by decide) :=
  rfl

/-- The quotient by one has no rest, and some zeros at the end. -/
theorem divCore_one {m : Nat} {e : Int} (h : Canonical m e) :
    ∃ k : Nat, divCore .binary64 m e (2 ^ 52) (-52) = (m * 2 ^ k, e - k, .exact) := by
  have hle := h.log2_le
  have hleast := h.least
  -- The exponent that the division asks for is one at which no bit of the dividend is lost.
  let target := min (e + 52) (max ((m.log2 : Int) + e - 53) (-1074))
  have htarget : min (e - -52) (Format.binary64.targetExponent
      (totalExponent m e - totalExponent (2 ^ 52) (-52))) = target := by
    have hone : totalExponent (2 ^ 52) (-52) = 1 := by
      unfold totalExponent
      rw [Nat.log2_two_pow]
      rfl
    rw [hone]
    show min (e - -52) (max ((m.log2 : Int) + 1 + e - 1 - 53) (-1074)) = target
    simp only [target]
    omega
  have hshift : (e - -52 - target).toNat = 52 + (e - target).toNat := by
    simp only [target]
    omega
  have hmantissa : m <<< (52 + (e - target).toNat) = m * 2 ^ (e - target).toNat * 2 ^ 52 := by
    rw [Nat.shiftLeft_eq, Nat.pow_add]
    ring
  have hexponent : target = e - (e - target).toNat := by
    simp only [target]
    omega
  refine ⟨(e - target).toNat, ?_⟩
  unfold divCore
  simp only [htarget, hshift, hmantissa, Nat.mul_div_cancel _ (Nat.two_pow_pos 52),
    Nat.mul_mod_left, ← hexponent]
  rfl

theorem unpacked_div_one {x : UnpackedFloat}
    (h : ∀ s m e hm, x = .finite s m e hm → Canonical m e) :
    UnpackedFloat.div .binary64 x (.finite .positive (2 ^ 52) (-52) (by decide)) = x := by
  cases x with
  | notANumber => rfl
  | infinity s => cases s <;> rfl
  | zero s => cases s <;> rfl
  | finite s m e hm =>
    obtain ⟨k, hk⟩ := divCore_one (h s m e hm rfl)
    have hsign : s / .positive = s := by cases s <;> rfl
    unfold UnpackedFloat.div
    simp only [hk, hsign]
    exact round_exact s (h s m e hm rfl) k

/-- **A double divided by one is that double,** be it finite or not. -/
theorem div_one (x : Float) : x / 1 = x := by
  show Float.ofModel (Float.Model.pack (UnpackedFloat.div .binary64 x.toModel.unpack
    (1 : Float).toModel.unpack)) = x
  rw [unpack_one, unpacked_div_one (x := x.toModel.unpack) fun s m e hm h => canonical_of_unpack h]
  refine Float.toBits_inj.mp (UInt64.toBitVec_inj.mp ?_)
  exact pack_unpack_of_valid x.toModel.valid

/-! ## Small integers -/

/-- A number without its leading bit, and the exponent of that bit. -/
theorem pack_normal {s : Sign} {m : Nat} {e : Int} (h : Canonical m e) (hm : 2 ^ 52 ≤ m) :
    UnpackedFloat.pack .binary64 (.finite s m e h.pos) =
      packComponents .binary64 s (BitVec.ofNat 11 (e + 1075).toNat) (BitVec.ofNat 52 m) := by
  have hbiased : e + (Format.binary64.exponentBias : Int) +
      (Format.binary64.mantissaBitsWithoutImplicit : Int) = e + 1075 := by
    show e + 1023 + 52 = e + 1075
    omega
  have hle := h.largest
  have hlog : m.log2 + 1 = Format.binary64.mantissaBits := by
    show m.log2 + 1 = 53
    rw [le_antisymm h.log2_le ((Nat.le_log2 h.pos.ne').mpr hm)]
  unfold UnpackedFloat.pack
  simp only [hbiased]
  rw [if_neg (show ¬ 2 ^ 11 ≤ (e + 1075).toNat + 1 by omega), if_pos hlog]

theorem unpack_pack_normal {s : Sign} {m : Nat} {e : Int} (h : Canonical m e) (hm : 2 ^ 52 ≤ m) :
    (Float.Model.pack (.finite s m e h.pos)).unpack = .finite s m e h.pos := by
  have hlt := h.lt
  have hleast := h.least
  have hlargest := h.largest
  have hexponent : (BitVec.ofNat 11 (e + 1075).toNat).toNat = (e + 1075).toNat := by
    rw [BitVec.toNat_ofNat]
    omega
  have hones : BitVec.ofNat 11 (e + 1075).toNat ≠ -1#11 := by
    intro heq
    have htop : (e + 1075).toNat = 2047 := hexponent.symm.trans (congrArg BitVec.toNat heq)
    omega
  have hzero : BitVec.ofNat 11 (e + 1075).toNat ≠ 0#11 := by
    intro heq
    have hnone : (e + 1075).toNat = 0 := hexponent.symm.trans (congrArg BitVec.toNat heq)
    omega
  have hmantissa : (1#1 ++ BitVec.ofNat 52 m).toNat = m := by
    rw [toNat_one_append, BitVec.toNat_ofNat]
    omega
  show UnpackedFloat.unpack .binary64 (UnpackedFloat.pack .binary64 (.finite s m e h.pos)) = _
  rw [pack_normal h hm]
  unfold UnpackedFloat.unpack
  simp only [unpackExponent_packComponents, unpackMantissa_packComponents,
    unpackSign_packComponents, Sign.ofBitVec_toBitVec]
  rw [if_neg hones, if_neg hzero]
  simp only [UnpackedFloat.finite.injEq]
  refine ⟨trivial, hmantissa, ?_⟩
  show ((BitVec.ofNat 11 (e + 1075).toNat).toNat : Int) - (1023 + 52) = e
  omega

/-- The mantissa of a positive integer, with zeros at its end. -/
def mantissaOf (n : Nat) : Nat := n * 2 ^ (52 - n.log2)

/-- The exponent that goes with it. -/
def exponentOf (n : Nat) : Int := n.log2 - 52

theorem mantissaOf_bounds {n : Nat} (hpos : 0 < n) (hlt : n < 2 ^ 53) :
    2 ^ 52 ≤ mantissaOf n ∧ mantissaOf n < 2 ^ 53 := by
  have hlog := (Nat.log2_lt hpos.ne').mpr hlt
  have hlow : 2 ^ 52 = 2 ^ n.log2 * 2 ^ (52 - n.log2) := by
    rw [← Nat.pow_add]
    congr 1
    omega
  have hhigh : 2 ^ 53 = 2 ^ (n.log2 + 1) * 2 ^ (52 - n.log2) := by
    rw [← Nat.pow_add]
    congr 1
    omega
  rw [hlow, hhigh]
  exact ⟨Nat.mul_le_mul_right _ (Nat.log2_self_le hpos.ne'),
    Nat.mul_lt_mul_of_pos_right Nat.lt_log2_self (Nat.two_pow_pos _)⟩

theorem canonical_of_small {n : Nat} (hpos : 0 < n) (hlt : n < 2 ^ 53) :
    Canonical (mantissaOf n) (exponentOf n) := by
  obtain ⟨hlow, hhigh⟩ := mantissaOf_bounds hpos hlt
  have hlog := (Nat.log2_lt hpos.ne').mpr hlt
  unfold exponentOf
  exact ⟨by omega, hhigh, by omega, by omega, .inl hlow⟩

/-- A small integer without rounding. -/
def small (n : Nat) : UnpackedFloat :=
  if h : 0 < mantissaOf n then .finite .positive (mantissaOf n) (exponentOf n) h
  else .zero .positive

theorem small_of_pos {n : Nat} (hpos : 0 < n) (hlt : n < 2 ^ 53) :
    small n = .finite .positive (mantissaOf n) (exponentOf n) (canonical_of_small hpos hlt).pos :=
  dif_pos (canonical_of_small hpos hlt).pos

theorem unpack_pack_small {n : Nat} (hlt : n < 2 ^ 53) :
    (Float.Model.pack (small n)).unpack = small n := by
  rcases Nat.eq_zero_or_pos n with rfl | hpos
  · rfl
  · rw [small_of_pos hpos hlt]
    exact unpack_pack_normal (canonical_of_small hpos hlt) (mantissaOf_bounds hpos hlt).1

/-- The product of the mantissas is the mantissa of the product, and some zeros at the end. -/
theorem mantissaOf_mul {a b : Nat} (ha : 0 < a) (hb : 0 < b) (hab : a * b < 2 ^ 53) :
    ∃ k : Nat, mantissaOf a * mantissaOf b = mantissaOf (a * b) * 2 ^ k ∧
      exponentOf a + exponentOf b = exponentOf (a * b) - k := by
  have hpos := Nat.mul_pos ha hb
  have hlog : a.log2 + b.log2 ≤ (a * b).log2 := by
    rw [Nat.le_log2 hpos.ne', Nat.pow_add]
    exact Nat.mul_le_mul (Nat.log2_self_le ha.ne') (Nat.log2_self_le hb.ne')
  have hlt := (Nat.log2_lt hpos.ne').mpr hab
  have hzeros : 52 - a.log2 + (52 - b.log2) =
      52 - (a * b).log2 + (52 + (a * b).log2 - a.log2 - b.log2) := by omega
  refine ⟨52 + (a * b).log2 - a.log2 - b.log2, ?_, ?_⟩
  · unfold mantissaOf
    rw [Nat.mul_assoc (a * b), ← Nat.pow_add, ← hzeros, Nat.pow_add]
    ring
  · unfold exponentOf
    omega

theorem mul_small {a b : Nat} (ha : a < 2 ^ 53) (hb : b < 2 ^ 53) (hab : a * b < 2 ^ 53) :
    UnpackedFloat.mul .binary64 (small a) (small b) = small (a * b) := by
  rcases Nat.eq_zero_or_pos a with rfl | hapos
  · rcases Nat.eq_zero_or_pos b with rfl | hbpos
    · rfl
    · rw [Nat.zero_mul, small_of_pos hbpos hb]
      rfl
  · rcases Nat.eq_zero_or_pos b with rfl | hbpos
    · rw [Nat.mul_zero, small_of_pos hapos ha]
      rfl
    · have hpos := Nat.mul_pos hapos hbpos
      obtain ⟨k, hmantissa, hexponent⟩ := mantissaOf_mul hapos hbpos hab
      rw [small_of_pos hapos ha, small_of_pos hbpos hb, small_of_pos hpos hab]
      show roundWithAccuracy .binary64 .positive (mantissaOf a * mantissaOf b)
        (exponentOf a + exponentOf b) .exact = _
      rw [hmantissa, hexponent]
      exact round_exact .positive (canonical_of_small hpos hab) k

theorem ofNat_small {n : Nat} (hlt : n < 2 ^ 53) : UnpackedFloat.ofNat .binary64 n = small n := by
  rcases Nat.eq_zero_or_pos n with rfl | hpos
  · rfl
  · have hlog := (Nat.log2_lt hpos.ne').mpr hlt
    have htarget : Format.binary64.targetExponent (totalExponent n 0) = exponentOf n := by
      show max ((n.log2 : Int) + 1 + 0 - 53) (-1074) = exponentOf n
      unfold exponentOf
      omega
    have hshift : (0 - exponentOf n).toNat = 52 - n.log2 := by
      unfold exponentOf
      omega
    have hexponent : (0 : Int) - (52 - n.log2 : Nat) = exponentOf n := by
      unfold exponentOf
      omega
    have hround := round_exact .positive (canonical_of_small hpos hlt) 0
    rw [Nat.pow_zero, Nat.mul_one, Nat.cast_zero, sub_zero] at hround
    unfold UnpackedFloat.ofNat UnpackedFloat.ofInt UnpackedFloat.normalize UnpackedFloat.round
      decreaseExponent
    rw [Int.compare_eq_gt.mpr (Nat.cast_pos.mpr hpos), small_of_pos hpos hlt]
    simp only [Int.toNat_natCast, htarget, hshift, Nat.shiftLeft_eq, hexponent]
    exact hround

/-- A number with no more than 400 digits is read as it stands. -/
theorem toFloat_eq_ofScientific {n digits : Nat} (hpos : 0 < n) (hdigits : 0 < digits)
    (hle : digits ≤ 400) (hlt : n < 10 ^ digits) :
    Decimal.toFloat n 0 = Float.ofScientific n false 0 := by
  have hlength : (toString n).length ≤ digits := Nat.repr_length n digits hdigits hlt
  unfold Decimal.toFloat
  simp only [Int.ofNat_eq_natCast, add_zero]
  rw [if_neg (by simp; omega), if_neg (by omega)]
  rfl

theorem intToFloat_natCast (n : Nat) : intToFloat n = Decimal.toFloat n 0 := by
  rw [intToFloat, if_neg (by omega), Int.natAbs_natCast]

theorem intCast_eq_ofScientific {n digits : Nat} (hpos : 0 < n) (hdigits : 0 < digits)
    (hle : digits ≤ 400) (hlt : n < 10 ^ digits) :
    ((n : Int) : Float) = Float.ofScientific n false 0 := by
  rw [← toFloat_eq_ofScientific hpos hdigits hle hlt]
  exact intToFloat_natCast n

/-- A small integer is read as the double that it is. -/
theorem toFloat_eq {n : Nat} (hlt : n < 2 ^ 53) :
    Decimal.toFloat n 0 = Float.ofModel (Float.Model.pack (small n)) := by
  rcases Nat.eq_zero_or_pos n with rfl | hpos
  · rfl
  · have hcast : n.toUInt64.toNat = n := by
      show n % 2 ^ 64 = n
      omega
    have hone : UnpackedFloat.mul .binary64 (small n) (small 1) = small n := by
      rw [mul_small hlt (by decide) (by omega), Nat.mul_one]
    rw [toFloat_eq_ofScientific hpos (by decide : 0 < 16) (by decide) (hlt.trans (by decide))]
    unfold Float.ofScientific
    rw [dif_pos ⟨hlt, by decide⟩]
    show Float.ofModel (Float.Model.pack (UnpackedFloat.mul .binary64
      (Float.Model.pack (UnpackedFloat.ofNat .binary64 n.toUInt64.toNat)).unpack
      (Float.ofBits 0x3FF0000000000000).toModel.unpack)) = _
    rw [hcast, ofNat_small hlt, unpack_pack_small hlt]
    exact congrArg (fun x => Float.ofModel (Float.Model.pack x)) hone

theorem toFloat_mul {a b : Nat} (ha : a < 2 ^ 53) (hb : b < 2 ^ 53) (hab : a * b < 2 ^ 53) :
    Decimal.toFloat a 0 * Decimal.toFloat b 0 = Decimal.toFloat (a * b) 0 := by
  rw [toFloat_eq ha, toFloat_eq hb, toFloat_eq hab]
  show Float.ofModel (Float.Model.pack (UnpackedFloat.mul .binary64
    (Float.Model.pack (small a)).unpack (Float.Model.pack (small b)).unpack)) = _
  rw [unpack_pack_small ha, unpack_pack_small hb, mul_small ha hb hab]

theorem isFinite_toFloat {n : Nat} (hlt : n < 2 ^ 53) : (Decimal.toFloat n 0).isFinite = true := by
  rw [toFloat_eq hlt]
  show (Float.Model.pack (small n)).unpack.isFinite = true
  rw [unpack_pack_small hlt]
  unfold small
  split
  · rfl
  · rfl

theorem not_toFloat_lt_zero {n : Nat} (hlt : n < 2 ^ 53) : ¬ Decimal.toFloat n 0 < 0 := by
  intro hneg
  rw [toFloat_eq hlt] at hneg
  have hless : (Float.Model.pack (small n)).unpack.lt (0 : Float).toModel.unpack = true :=
    of_decide_eq_true hneg
  rw [unpack_pack_small hlt] at hless
  unfold small at hless
  split at hless
  · exact Bool.false_ne_true hless
  · exact Bool.false_ne_true hless

/-- The bits of a small integer: the exponent, then the mantissa without its leading bit. -/
theorem toNat_toBits_toFloat {n : Nat} (hpos : 0 < n) (hlt : n < 2 ^ 53) :
    (Decimal.toFloat n 0).toBits.toNat = (n.log2 + 1023) * 2 ^ 52 + (mantissaOf n - 2 ^ 52) := by
  obtain ⟨hlow, hhigh⟩ := mantissaOf_bounds hpos hlt
  have hlog := (Nat.log2_lt hpos.ne').mpr hlt
  have hexponent : (exponentOf n + 1075).toNat = n.log2 + 1023 := by
    unfold exponentOf
    omega
  rw [toFloat_eq hlt, small_of_pos hpos hlt]
  show (UnpackedFloat.pack .binary64 _).toNat = _
  rw [pack_normal (canonical_of_small hpos hlt) hlow, toNat_packComponents, BitVec.toNat_ofNat,
    BitVec.toNat_ofNat, hexponent]
  show 0 * 2 ^ 63 + (n.log2 + 1023) % 2 ^ 11 * 2 ^ 52 + mantissaOf n % 2 ^ 52 = _
  omega

/-- The parts of a small integer. -/
theorem ofFloat?_toFloat {n : Nat} (hpos : 0 < n) (hlt : n < 2 ^ 53) :
    Decimal.Dyadic.ofFloat? (Decimal.toFloat n 0) =
      some ⟨false, mantissaOf n, exponentOf n⟩ := by
  obtain ⟨hlow, hhigh⟩ := mantissaOf_bounds hpos hlt
  have hlog := (Nat.log2_lt hpos.ne').mpr hlt
  have hbits := toNat_toBits_toFloat hpos hlt
  have hnegative : (Decimal.toFloat n 0).toBits.toNat / twoTo 63 = 0 := by
    rw [hbits, show twoTo 63 = 2 ^ 63 from rfl]
    omega
  have hbiased : (Decimal.toFloat n 0).toBits.toNat / twoTo 52 % twoTo 11 = n.log2 + 1023 := by
    rw [hbits, show twoTo 52 = 2 ^ 52 from rfl, show twoTo 11 = 2 ^ 11 from rfl]
    omega
  have hmantissa : twoTo 52 + (Decimal.toFloat n 0).toBits.toNat % twoTo 52 = mantissaOf n := by
    rw [hbits, show twoTo 52 = 2 ^ 52 from rfl]
    omega
  have hexponent : Int.ofNat (n.log2 + 1023) - 1075 = exponentOf n := by
    show ((n.log2 + 1023 : Nat) : Int) - 1075 = n.log2 - 52
    omega
  unfold Decimal.Dyadic.ofFloat?
  simp only [hnegative, hbiased, hmantissa, hexponent]
  -- Neither infinite nor NaN, as the exponent is not the largest, nor subnormal, as it is not zero.
  rw [if_neg (by simp; omega), if_neg (by simp)]
  rfl

theorem floorInt_toFloat {n : Nat} (hlt : n < 2 ^ 53) :
    Decimal.floorInt (Decimal.toFloat n 0) = n := by
  rcases Nat.eq_zero_or_pos n with rfl | hpos
  · rfl
  · have hnone : (exponentOf n).toNat = 0 := by
      have hlog := (Nat.log2_lt hpos.ne').mpr hlt
      unfold exponentOf
      omega
    have hzeros : (-exponentOf n).toNat = 52 - n.log2 := by
      have hlog := (Nat.log2_lt hpos.ne').mpr hlt
      unfold exponentOf
      omega
    unfold Decimal.floorInt
    rw [ofFloat?_toFloat hpos hlt]
    show Int.fdiv (mantissaOf n * twoTo (exponentOf n).toNat : Nat)
      (twoTo (-exponentOf n).toNat : Nat) = n
    rw [hnone, hzeros]
    show Int.fdiv (n * 2 ^ (52 - n.log2) * 1 : Nat) (2 ^ (52 - n.log2) : Nat) = n
    rw [Nat.mul_one, Nat.cast_mul]
    exact Int.mul_fdiv_cancel _ (Nat.cast_ne_zero.mpr (Nat.two_pow_pos _).ne')

end ReturnForecast.Double
