import ReturnForecast.Decimal.Dyadic

/-!
# Rounding to decimal places

A double is written with a fixed number of places, or with a fixed number of places in scientific
form, or rounded to a double again. Each is the nearest decimal of the exact binary value, and a
value half-way goes to the even neighbour. Main statement: the rounded quotient is within half a
unit.
-/

namespace ReturnForecast.Decimal

/-- The integer nearest to `num / den`; a half goes to the even neighbour. -/
def roundHalfEven (num den : Nat) : Nat :=
  let q := num / den
  let r := num % den
  if 2 * r < den then q
  else if den < 2 * r then q + 1
  else if q % 2 = 0 then q else q + 1

theorem roundHalfEven_within_half {num den : Nat} (h : 0 < den) :
    2 * num ≤ (2 * roundHalfEven num den + 1) * den ∧
      2 * (roundHalfEven num den * den) ≤ 2 * num + den := by
  have hdiv : den * (num / den) + num % den = num := Nat.div_add_mod num den
  have hmod : num % den < den := Nat.mod_lt num h
  have hcomm : num / den * den = den * (num / den) := Nat.mul_comm _ _
  have expand (q : Nat) : (2 * q + 1) * den = 2 * (q * den) + den := by
    rw [Nat.add_mul, Nat.mul_assoc, Nat.one_mul]
  have succ : (num / den + 1) * den = num / den * den + den := by rw [Nat.add_mul, Nat.one_mul]
  unfold roundHalfEven
  simp only
  split
  · rw [expand]; omega
  · split
    · rw [expand, succ]; omega
    · split
      · rw [expand]; omega
      · rw [expand, succ]; omega

/-- Zeros before a text up to a length. -/
def padZeros (width : Nat) (s : String) : String :=
  String.ofList (List.replicate (width - s.length) '0') ++ s

/-- `digits · 10^(-places)` in positional form; no point where there are no places. -/
def positional (places digits : Nat) : String :=
  let whole := toString (digits / tenTo places)
  if places = 0 then whole else whole ++ "." ++ padZeros places (toString (digits % tenTo places))

/-- The texts of the doubles that are no numbers. -/
def nonFiniteText (x : Float) : String :=
  if isNaN x then "nan" else if x < 0 then "-inf" else "inf"

/-- A double in positional form with a fixed number of places. A negative value keeps its sign. -/
def fixed (places : Nat) (x : Float) : String :=
  match Dyadic.ofFloat? x with
  | none => nonFiniteText x
  | some d =>
    (if d.negative then "-" else "")
      ++ positional places (roundHalfEven (d.num * tenTo places) d.den)

/-- `num / den · 10^exponent` as a fraction. -/
def scaleByTen (num den : Nat) (exponent : Int) : Nat × Nat :=
  (num * tenTo exponent.toNat, den * tenTo (-exponent).toNat)

/-- The power of ten below a positive fraction: `10^k ≤ num / den < 10^(k+1)`. -/
def decimalExponent (num den : Nat) : Int :=
  let k : Int := Int.ofNat (toString num).length - Int.ofNat (toString den).length
  let (n, d) := scaleByTen num den (-k)
  if d ≤ n then k else k - 1

/-- An exponent with its sign and at least two digits. -/
def exponentText (k : Int) : String :=
  (if k < 0 then "-" else "+") ++ padZeros 2 (toString k.natAbs)

/-- A double in scientific form, with one digit before the point and a fixed number after it. -/
def scientific (places : Nat) (x : Float) : String :=
  match Dyadic.ofFloat? x with
  | none => nonFiniteText x
  | some d =>
    let sign := if d.negative then "-" else ""
    if d.mantissa = 0 then sign ++ positional places 0 ++ "e+00"
    else
      let k := decimalExponent d.num d.den
      let (n, m) := scaleByTen d.num d.den (Int.ofNat places - k)
      let digits := roundHalfEven n m
      if digits < tenTo (places + 1) then sign ++ positional places digits ++ "e" ++ exponentText k
      else sign ++ positional places (digits / 10) ++ "e" ++ exponentText (k + 1)

/--
`digits · 10^exponent` as the nearest double; infinity above the largest, zero below the least.
-/
def toFloat (digits : Nat) (exponent : Int) : Float :=
  let magnitude := Int.ofNat (toString digits).length + exponent
  if digits = 0 || magnitude < -400 then 0.0
  else if magnitude > 400 then 1.0 / 0.0
  else Float.ofScientific digits (exponent < 0) exponent.natAbs

/-- A double rounded to decimal places, as the double nearest to that decimal. -/
def roundTo (places : Nat) (x : Float) : Float :=
  match Dyadic.ofFloat? x with
  | none => x
  | some d =>
    let r := toFloat (roundHalfEven (d.num * tenTo places) d.den) (-Int.ofNat places)
    if d.negative then -r else r

end ReturnForecast.Decimal
