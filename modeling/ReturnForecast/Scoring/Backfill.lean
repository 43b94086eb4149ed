import ReturnForecast.Price
import ReturnForecast.Scoring.Metrics
import ReturnForecast.Smoothing

/-!
# Metrics from a series of closes

The running average of the returns is taken as a forecast of the next return, and scored over a
series of closes: plainly, or with both sides divided by the running sigma. Closes that are not
usable are left out.
-/

namespace ReturnForecast

/-- Every item whose distance from the first is a multiple of the stride. -/
def everyNth {β : Type} (stride : Nat) : Nat → List β → List β
  | _, [] => []
  | 0, x :: rest => x :: everyNth stride (stride - 1) rest
  | skip + 1, _ :: rest => everyNth stride skip rest

/-- Every `stride`-th close from the first on; all of them for a stride of one or below. -/
def strideCloses {β : Type} (closes : List β) (stride : Int) : List β :=
  if stride ≤ 1 then closes else everyNth stride.toNat 0 closes

namespace Backfill

variable {α : Type} [Scalar α]

/-- The returns between neighbouring prices, after an earlier one. -/
def returnsAfter (previous : α) : List α → Except Fault (List α)
  | [] => .ok []
  | price :: rest => do
    let r ← log? (price / previous)
    return r :: (← returnsAfter price rest)

/-- The returns between neighbouring usable closes. -/
def returns (closes : List α) : Except Fault (List α) :=
  match closes.filter isValidPrice with
  | [] => .ok []
  | first :: rest => returnsAfter first rest

/-- The pairs of each return and the average of those before it, which is zero at first. -/
def plainPairs (share : α) (average : Option α) : List α → List (α × α)
  | [] => []
  | r :: rest =>
    let next := match average with
      | none => r
      | some mu => ewma mu r share
    (r, average.getD 0) :: plainPairs share (some next) rest

/-- The averages of the return and of its squared residual. -/
structure Averages (α : Type) where
  mu : α
  var : α
deriving DecidableEq, Repr

/-- The parameters of the scoring in units of sigma. -/
structure Normalised (α : Type) where
  alphaMean : α
  alphaVar : α
  leastSigma : α
deriving DecidableEq, Repr

/-- The averages after a return; the residual is taken from the mean before it. -/
def Averages.next (c : Normalised α) (averages : Option (Averages α)) (r : α) : Averages α :=
  match averages with
  | none => { mu := r, var := r * r }
  | some a =>
    let centered := r - a.mu
    { mu := ewma a.mu r (clampUnit c.alphaMean)
      var := ewma a.var (centered * centered) (clampUnit c.alphaVar) }

/--
The pairs of each return and the average of those before it, both in units of the sigma so far.
-/
def normalisedPairs (c : Normalised α) (averages : Option (Averages α)) :
    List α → Except Fault (List (α × α))
  | [] => .ok []
  | r :: rest => do
    let sigma := match averages with
      | none => c.leastSigma
      | some a => larger (sqrtPos a.var) c.leastSigma
    let predicted := match averages with
      | none => 0
      | some a => a.mu
    let actual ← div? r sigma
    let scaled ← div? predicted sigma
    return (actual, scaled) :: (← normalisedPairs c (some (Averages.next c averages r)) rest)

/-- Metrics that have seen some pairs. -/
def metricsOf (window : Int) (pairs : List (α × α)) : Metrics α :=
  pairs.foldl (fun m (actual, predicted) => m.observe actual predicted)
    (.fresh window standardR2MinSamples)

/-- The metrics of the running average over closes. -/
def plain (closes : List α) (alphaMean : α) (window : Int) : Except Fault (Metrics α) := do
  let returns ← returns closes
  return metricsOf window (plainPairs (clampUnit alphaMean) none returns)

/-- The metrics of the running average over closes, in units of the running sigma. -/
def normalised (closes : List α) (alphaMean alphaVar minSigma : α) (window : Int) :
    Except Fault (Metrics α) := do
  let returns ← returns closes
  let c := { alphaMean, alphaVar, leastSigma := larger minSigma 1e-8 : Normalised α }
  return metricsOf window (← normalisedPairs c none returns)

end Backfill

end ReturnForecast
