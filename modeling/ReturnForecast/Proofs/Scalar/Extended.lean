import ReturnForecast.Proofs.Scalar.Real
import ReturnForecast.Price

/-!
# Reals with infinities and NaN

Arithmetic as doubles have it, without rounding: an operation on finite numbers is the one on reals,
and where reals have no answer there is an infinity or NaN. There is one zero, and it counts as
positive. Over these numbers prices and settings can be junk while no quotient of prices vanishes.
-/

namespace ReturnForecast

/-- A real number, an infinity of either sign, or NaN. -/
inductive Extended where
  | nan
  | infinite (negative : Bool)
  | finite (x : ℝ)

namespace Extended

/-! ## Operations -/

def neg : Extended → Extended
  | nan => nan
  | infinite s => infinite !s
  | finite x => finite (-x)

/-- Infinities of opposite signs have no sum. -/
def add : Extended → Extended → Extended
  | finite x, finite y => finite (x + y)
  | infinite s, infinite t => if s = t then infinite s else nan
  | infinite s, finite _ => infinite s
  | finite _, infinite s => infinite s
  | _, _ => nan

/-- Zero and an infinity have no product. -/
noncomputable def mul : Extended → Extended → Extended
  | finite x, finite y => finite (x * y)
  | infinite s, infinite t => infinite (s != t)
  | infinite s, finite x => if x = 0 then nan else infinite (s != decide (x < 0))
  | finite x, infinite s => if x = 0 then nan else infinite (s != decide (x < 0))
  | _, _ => nan

/-- Division by zero gives an infinity, unless zero itself is divided. -/
noncomputable def div : Extended → Extended → Extended
  | finite x, finite y =>
    if y = 0 then if x = 0 then nan else infinite (decide (x < 0)) else finite (x / y)
  | finite _, infinite _ => finite 0
  | infinite s, finite y => infinite (s != decide (y < 0))
  | _, _ => nan

/-- NaN is below nothing and above nothing. -/
def Less : Extended → Extended → Prop
  | finite x, finite y => x < y
  | infinite s, infinite t => s = true ∧ t = false
  | infinite s, finite _ => s = true
  | finite _, infinite t => t = false
  | _, _ => False

def AtMost : Extended → Extended → Prop
  | finite x, finite y => x ≤ y
  | infinite s, infinite t => s = true ∨ t = false
  | infinite s, finite _ => s = true
  | finite _, infinite t => t = false
  | _, _ => False

def isFinite : Extended → Bool
  | finite _ => true
  | _ => false

noncomputable def floor : Extended → Int
  | finite x => ⌊x⌋
  | _ => 0

def abs : Extended → Extended
  | nan => nan
  | infinite _ => infinite false
  | finite x => finite |x|

noncomputable def sqrt : Extended → Extended
  | finite x => if x < 0 then nan else finite (Real.sqrt x)
  | infinite false => infinite false
  | _ => nan

noncomputable def exp : Extended → Extended
  | nan => nan
  | infinite s => if s then finite 0 else infinite false
  | finite x => finite (Real.exp x)

noncomputable def expm1 : Extended → Extended
  | nan => nan
  | infinite s => if s then finite (-1) else infinite false
  | finite x => finite (Real.exp x - 1)

noncomputable def log : Extended → Extended
  | finite x => if x < 0 then nan else if x = 0 then infinite true else finite (Real.log x)
  | infinite false => infinite false
  | _ => nan

noncomputable def tanh : Extended → Extended
  | nan => nan
  | infinite s => finite (if s then -1 else 1)
  | finite x => finite (Real.tanh x)

noncomputable instance : Scalar Extended where
  zero := finite 0
  one := finite 1
  add := add
  sub a b := add a (neg b)
  mul := mul
  div := div
  neg := neg
  lt := Less
  le := AtMost
  natCast n := finite n
  intCast n := finite n
  ofScientific m s e := finite (OfScientific.ofScientific m s e)
  ltDecidable _ _ := Classical.propDecidable _
  leDecidable _ _ := Classical.propDecidable _
  isFinite := isFinite
  floor := floor
  abs := abs
  sqrt := sqrt
  exp := exp
  expm1 := expm1
  log := log
  tanh := tanh

/-! ## Finite numbers -/

theorem isFinite_iff {a : Extended} : Scalar.isFinite a = true ↔ ∃ x, a = finite x := by
  cases a with
  | nan => simp [Scalar.isFinite, isFinite]
  | infinite s => simp [Scalar.isFinite, isFinite]
  | finite x => simp [Scalar.isFinite, isFinite]

@[simp] theorem isFinite_finite (x : ℝ) : Scalar.isFinite (finite x) = true := rfl

theorem zero_eq : (0 : Extended) = finite 0 := rfl

theorem finite_lt {x y : ℝ} : finite x < finite y ↔ x < y := Iff.rfl

theorem finite_le {x y : ℝ} : finite x ≤ finite y ↔ x ≤ y := Iff.rfl

theorem finite_div {x y : ℝ} (h : y ≠ 0) : finite x / finite y = finite (x / y) := by
  show div _ _ = _
  simp [div, h]

theorem div_one (a : Extended) : a / 1 = a := by
  cases a with
  | nan => rfl
  | infinite s =>
    show infinite (s != decide ((1 : ℝ) < 0)) = infinite s
    rw [decide_eq_false (not_lt.mpr zero_le_one), Bool.bne_false]
  | finite x =>
    show finite x / finite 1 = finite x
    rw [finite_div one_ne_zero]
    exact congrArg finite (by ring)

/-- A quotient of finite numbers is finite where the divisor is positive. -/
theorem isFinite_div {a b : Extended} (ha : Scalar.isFinite a = true)
    (hb : Scalar.isFinite b = true) (hpos : 0 < b) : Scalar.isFinite (a / b) = true := by
  obtain ⟨x, rfl⟩ := isFinite_iff.mp ha
  obtain ⟨y, rfl⟩ := isFinite_iff.mp hb
  have hy : (0 : ℝ) < y := hpos
  rw [finite_div hy.ne', isFinite_finite]

/-! ## What is not at most zero -/

theorem not_lt_zero {a : Extended} (h : ¬ a ≤ 0) : ¬ a < 0 := by
  cases a with
  | nan => exact id
  | infinite s => exact h
  | finite x => exact fun hx => h (le_of_lt (show x < (0 : ℝ) from hx))

/-- What is not negative and what is more than zero, or NaN, sum up to more than zero, or to NaN. -/
theorem not_add_le_zero {a b : Extended} (ha : ¬ a < 0) (hb : ¬ b ≤ 0) : ¬ a + b ≤ 0 := by
  cases a with
  | nan => exact id
  | infinite s =>
    cases s with
    | true => exact absurd rfl ha
    | false =>
      cases b with
      | nan => exact id
      | infinite t =>
        cases t with
        | true => exact absurd rfl hb
        | false => exact Bool.false_ne_true
      | finite y => exact Bool.false_ne_true
  | finite x =>
    cases b with
    | nan => exact id
    | infinite t =>
      cases t with
      | true => exact absurd rfl hb
      | false => exact Bool.false_ne_true
    | finite y =>
      have hx : (0 : ℝ) ≤ x := not_lt.mp ha
      have hy : (0 : ℝ) < y := not_le.mp hb
      exact not_le.mpr (add_pos_of_nonneg_of_pos hx hy)

/-- A number raised to a positive floor is more than zero, or NaN. -/
theorem not_larger_le_zero (a : Extended) {least : ℝ} (hleast : 0 < least) :
    ¬ larger a (finite least) ≤ 0 := by
  unfold larger
  split
  · exact not_le.mpr hleast
  · next h =>
    cases a with
    | nan => exact id
    | infinite s =>
      cases s with
      | true => exact absurd rfl h
      | false => exact Bool.false_ne_true
    | finite x =>
      have hx : least ≤ x := not_lt.mp h
      exact not_le.mpr (lt_of_lt_of_le hleast hx)

/-! ## Zero and what is not below it -/

theorem isZero_iff {a : Extended} : IsZero a ↔ a = 0 := by
  constructor
  · rintro ⟨hle, hge⟩
    cases a with
    | nan => exact hle.elim
    | infinite s => exact absurd ((show s = true from hle).symm.trans hge) Bool.noConfusion
    | finite x => exact congrArg finite (le_antisymm hle hge)
  · rintro rfl
    exact ⟨finite_le.mpr le_rfl, finite_le.mpr le_rfl⟩

theorem not_larger_zero_lt_zero (a : Extended) : ¬ larger a 0 < 0 := by
  unfold larger
  split
  · exact mt finite_lt.mp (lt_irrefl 0)
  · assumption

theorem eq_false_of_not_lt_zero {s : Bool} (h : ¬ infinite s < 0) : s = false :=
  Bool.eq_false_iff.mpr h

/-- The sign of an infinity times what is not negative. -/
theorem not_infinite_mul_lt_zero {y : ℝ} (hy : 0 ≤ y) :
    ¬ (if y = 0 then nan else infinite (false != decide (y < 0))) < 0 := by
  rw [decide_eq_false (not_lt.mpr hy)]
  split
  · exact id
  · exact Bool.false_ne_true

/-- The product of two numbers that are not negative is not negative either, but it may be NaN. -/
theorem not_mul_lt_zero {a b : Extended} (ha : ¬ a < 0) (hb : ¬ b < 0) : ¬ a * b < 0 := by
  cases a with
  | nan => cases b <;> exact id
  | infinite s =>
    obtain rfl := eq_false_of_not_lt_zero ha
    cases b with
    | nan => exact id
    | infinite t =>
      obtain rfl := eq_false_of_not_lt_zero hb
      exact Bool.false_ne_true
    | finite y => exact not_infinite_mul_lt_zero (not_lt.mp hb)
  | finite x =>
    have hx : (0 : ℝ) ≤ x := not_lt.mp ha
    cases b with
    | nan => exact id
    | infinite t =>
      obtain rfl := eq_false_of_not_lt_zero hb
      exact not_infinite_mul_lt_zero hx
    | finite y => exact not_lt.mpr (mul_nonneg hx (not_lt.mp hb))

theorem not_mul_self_lt_zero (a : Extended) : ¬ a * a < 0 := by
  cases a with
  | nan => exact id
  | infinite s =>
    show ¬ infinite (s != s) < 0
    rw [bne_self_eq_false]
    exact Bool.false_ne_true
  | finite x => exact not_lt.mpr (mul_self_nonneg x)

/-! ## Prices -/

theorem epsilon_eq : (epsilon : Extended) = finite (1 / (twoTo 52 : Nat)) :=
  finite_div (Nat.cast_ne_zero.mpr (twoTo_pos 52).ne')

theorem finite_le_epsilon {x : ℝ} : finite x ≤ epsilon ↔ x ≤ epsilon := by
  rw [epsilon_eq]
  exact Iff.rfl

theorem not_finite_le_epsilon {x : ℝ} (h : epsilon < x) : ¬ finite x ≤ epsilon :=
  mt finite_le_epsilon.mp (not_le.mpr h)

theorem isValidPrice_iff {p : Extended} :
    isValidPrice p = true ↔ ∃ x : ℝ, p = finite x ∧ 1 / (twoTo 52 : Nat) < x := by
  unfold isValidPrice
  rw [Bool.and_eq_true, decide_eq_true_eq, isFinite_iff, epsilon_eq]
  constructor
  · rintro ⟨⟨x, rfl⟩, hx⟩
    exact ⟨x, rfl, hx⟩
  · rintro ⟨x, rfl, hx⟩
    exact ⟨⟨x, rfl⟩, hx⟩

theorem isValidPrice_pos {p : Extended} (h : isValidPrice p = true) :
    ∃ x : ℝ, p = finite x ∧ 0 < x := by
  obtain ⟨x, rfl, hx⟩ := isValidPrice_iff.mp h
  have heps : (0 : ℝ) < 1 / (twoTo 52 : Nat) := by
    have htwo : (0 : ℝ) < (twoTo 52 : Nat) := Nat.cast_pos.mpr (twoTo_pos 52)
    positivity
  exact ⟨x, rfl, heps.trans hx⟩

/-- The logarithm of a positive number. -/
theorem log?_finite {x : ℝ} (h : 0 < x) : log? (finite x) = .ok (finite (Real.log x)) := by
  have hle : ¬ finite x ≤ 0 := by
    rw [zero_eq, finite_le]
    exact not_le.mpr h
  rw [log?, if_neg hle]
  show Except.ok (log (finite x)) = _
  rw [log, if_neg (not_lt.mpr h.le), if_neg h.ne']

/-- The log return between two usable prices exists, and it is finite. -/
theorem log?_div {p q : Extended} (hp : isValidPrice p = true) (hq : isValidPrice q = true) :
    log? (p / q) = .ok (Scalar.log (p / q)) ∧ Scalar.isFinite (Scalar.log (p / q)) = true := by
  obtain ⟨x, rfl, hx⟩ := isValidPrice_pos hp
  obtain ⟨y, rfl, hy⟩ := isValidPrice_pos hq
  have hlog := log?_finite (div_pos hx hy)
  rw [finite_div hy.ne']
  have heq : Scalar.log (finite (x / y)) = finite (Real.log (x / y)) := by
    unfold log? at hlog
    split at hlog
    · cases hlog
    · exact Except.ok.inj hlog
  rw [heq, hlog]
  exact ⟨rfl, rfl⟩

end Extended

end ReturnForecast
