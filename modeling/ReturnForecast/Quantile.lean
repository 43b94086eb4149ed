import ReturnForecast.Scalar.Checked

/-!
# Quantiles by nearest rank

The quantile `q` of `n` ascending values is the value with index `⌊n · q⌋`, the last one at most. An
index below zero counts from the end.
-/

namespace ReturnForecast

variable {α : Type} [Scalar α]

/-- The item with an index; an index below zero counts from the end. -/
def itemAt? {β : Type} (xs : List β) (index : Int) : Option β :=
  if 0 ≤ index then xs[index.toNat]?
  else
    let fromEnd := (-index).toNat
    if fromEnd ≤ xs.length then xs[xs.length - fromEnd]? else none

/-- The nearest-rank quantile of ascending values, zero if there are none. -/
def nearestRank (ascending : List α) (q : α) : Except Fault α :=
  if ascending.isEmpty then .ok 0
  else do
    let rank ← floor? ((ascending.length : α) * q)
    let last := Int.ofNat ascending.length - 1
    match itemAt? ascending (min rank last) with
    | some x => .ok x
    | none => .error .badIndex

end ReturnForecast
