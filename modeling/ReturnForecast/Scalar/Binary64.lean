import ReturnForecast.Scalar
import ReturnForecast.Decimal.Rounding

/-!
# Doubles as scalars

The number type that the rules run on.
-/

namespace ReturnForecast

/--
The exponential of a double less one. Where `exp x` has lost the low digits of `x`, the quotient by
the logarithm puts them back; where it equals one or has run away there is nothing to mend.
-/
def expm1Float (x : Float) : Float :=
  let u := Float.exp x
  if u == 1.0 then x
  else
    let v := u - 1.0
    if v == -1.0 || !u.isFinite then v else v * (x / Float.log u)

/-- The double nearest to an integer. -/
def intToFloat (n : Int) : Float :=
  let x := Decimal.toFloat n.natAbs 0
  if n < 0 then -x else x

instance : Scalar Float where
  natCast n := Decimal.toFloat n 0
  intCast := intToFloat
  ltDecidable := inferInstance
  leDecidable := inferInstance
  isFinite := Float.isFinite
  floor := Decimal.floorInt
  abs := Float.abs
  sqrt := Float.sqrt
  exp := Float.exp
  expm1 := expm1Float
  log := Float.log
  tanh := Float.tanh

end ReturnForecast
