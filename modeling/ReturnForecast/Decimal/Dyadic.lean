import ReturnForecast.Power

/-!
# The exact value of a double

A finite double is `±mantissa · 2^exponent`. Here it is taken apart into these numbers, so that
rounding to decimals, floors and comparisons with integers are done without error on natural
numbers.
-/

namespace ReturnForecast.Decimal

/-- A sign, a mantissa and a power of two: `±mantissa · 2^exponent`. -/
structure Dyadic where
  negative : Bool
  mantissa : Nat
  exponent : Int
deriving DecidableEq, Repr

namespace Dyadic

/-- The parts of a finite double; `none` for infinities and NaN. -/
def ofFloat? (x : Float) : Option Dyadic :=
  let bits := x.toBits.toNat
  let negative := bits / twoTo 63 == 1
  let biased := bits / twoTo 52 % twoTo 11
  let fraction := bits % twoTo 52
  if biased == 2047 then none
  else if biased == 0 then some ⟨negative, fraction, -1074⟩
  else some ⟨negative, twoTo 52 + fraction, Int.ofNat biased - 1075⟩

/-- The numerator of the absolute value. -/
def num (d : Dyadic) : Nat := d.mantissa * twoTo d.exponent.toNat

/-- The denominator of the absolute value, a power of two. -/
def den (d : Dyadic) : Nat := twoTo (-d.exponent).toNat

theorem den_pos (d : Dyadic) : 0 < d.den := twoTo_pos _

/-- The integer that remains when the places after the point are cut off. -/
def truncate (d : Dyadic) : Int :=
  let n := Int.ofNat (d.num / d.den)
  if d.negative then -n else n

/-- The largest integer that is not above the value. -/
def floor (d : Dyadic) : Int :=
  let n := Int.ofNat d.num
  Int.fdiv (if d.negative then -n else n) d.den

/-- The value as a signed fraction. -/
def signedNum (d : Dyadic) : Int :=
  if d.negative then -Int.ofNat d.num else Int.ofNat d.num

end Dyadic

/-- Is the double a NaN? It alone differs from itself. -/
def isNaN (x : Float) : Bool := !(x == x)

/-- The floor of a finite double; zero for infinities and NaN, which have none. -/
def floorInt (x : Float) : Int := ((Dyadic.ofFloat? x).map Dyadic.floor).getD 0

/-- The integer part of a finite double; zero for infinities and NaN, which have none. -/
def truncInt (x : Float) : Int := ((Dyadic.ofFloat? x).map Dyadic.truncate).getD 0

end ReturnForecast.Decimal
