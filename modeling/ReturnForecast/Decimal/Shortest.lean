import ReturnForecast.Decimal.Rounding

/-!
# The shortest decimal that reads back

A double is shown by the decimal with the fewest digits among those that are read back as the same
double, and by the nearest one of these. The decimals that read back lie in an interval around the
value, half-way to its neighbours; the ends belong to it if the mantissa is even. On the grid of
decimals with a given number of digits only the two neighbours of the value need to be tried: if any
point of the grid lies in the interval, one of them does.
-/

namespace ReturnForecast.Decimal

/-- A decimal `digits · 10^exponent`. -/
structure Shortest where
  digits : Nat
  exponent : Int
deriving DecidableEq, Repr

/-- Compares `a · 2^e` with `b · 10^g`: is the first less? -/
def binaryLtDecimal (a : Nat) (e : Int) (b : Nat) (g : Int) : Bool :=
  a * twoTo e.toNat * tenTo (-g).toNat < b * tenTo g.toNat * twoTo (-e).toNat

/-- Compares `b · 10^g` with `a · 2^e`: is the first less? -/
def decimalLtBinary (b : Nat) (g : Int) (a : Nat) (e : Int) : Bool :=
  b * tenTo g.toNat * twoTo (-e).toNat < a * twoTo e.toNat * tenTo (-g).toNat

/--
Is `digits · 10^exponent` read back as the double `d`? Lengths are counted in quarters of the last
place, because below a power of two the neighbour is only half as far away.
-/
def readsBack (d : Dyadic) (digits : Nat) (exponent : Int) : Bool :=
  let below := if d.mantissa = twoTo 52 && d.exponent > -1074 then 1 else 2
  let low := 4 * d.mantissa - below
  let high := 4 * d.mantissa + 2
  let quarter := d.exponent - 2
  if d.mantissa % 2 = 0 then
    !decimalLtBinary digits exponent low quarter && !binaryLtDecimal high quarter digits exponent
  else
    binaryLtDecimal low quarter digits exponent && decimalLtBinary digits exponent high quarter

/-- The decimal with the given exponent that reads back, the nearer one of two. -/
def onGrid? (d : Dyadic) (exponent : Int) : Option Shortest :=
  let (n, m) := scaleByTen d.num d.den (-exponent)
  let below := n / m
  let nearest := roundHalfEven n m
  let other := if nearest = below then below + 1 else below
  if readsBack d nearest exponent then some ⟨nearest, exponent⟩
  else if readsBack d other exponent then some ⟨other, exponent⟩
  else none

/-- Moves trailing zeros of the digits to the exponent. -/
def Shortest.trimZeros (s : Shortest) : Shortest :=
  if h : s.digits ≠ 0 ∧ s.digits % 10 = 0 then
    Shortest.trimZeros ⟨s.digits / 10, s.exponent + 1⟩
  else s
termination_by s.digits
decreasing_by omega

/-- The shortest decimal that reads back as a positive double. Seventeen digits always suffice. -/
def shortest (d : Dyadic) : Shortest :=
  let k := decimalExponent d.num d.den
  let found := (List.range 17).findSome? (fun n => onGrid? d (k - Int.ofNat n))
  (found.getD ⟨0, 0⟩).trimZeros

/-- Exponents from the first to below the second are written in positional form. -/
def positionalExponents : Int × Int := (-4, 16)

/--
The text of a decimal: positional with at least one place after the point for the exponents above,
else scientific, without a point where there is a single digit.
-/
def Shortest.text (s : Shortest) : String :=
  let ds := toString s.digits
  let k := Int.ofNat ds.length - 1 + s.exponent
  if positionalExponents.1 ≤ k && k < positionalExponents.2 then
    if s.exponent < 0 then positional s.exponent.natAbs s.digits
    else toString (s.digits * tenTo s.exponent.toNat) ++ ".0"
  else
    let mantissa := if ds.length = 1 then ds else positional (ds.length - 1) s.digits
    mantissa ++ "e" ++ exponentText k

/-- A double by its shortest decimal. -/
def text (x : Float) : String :=
  match Dyadic.ofFloat? x with
  | none => nonFiniteText x
  | some d =>
    let sign := if d.negative then "-" else ""
    if d.mantissa = 0 then sign ++ "0.0" else sign ++ (shortest d).text

end ReturnForecast.Decimal
