import ReturnForecast.Estimate
import ReturnForecast.Price

/-!
# Forecasters and tracks

A forecaster is a rule that learns from one stream of log returns: it says which state the first
return gives, how a further return changes the state, and what a state forecasts. A track is one
stream of prices with what a forecaster has learned from it. Prices that are not usable leave a
track as it is.
-/

namespace ReturnForecast

/-- A rule that learns from log returns. -/
structure Forecaster (α σ : Type) where
  /-- The state after the first return, and the price at its end. -/
  seed : (r price : α) → Except Fault σ
  /-- The state after a further return; `count` returns came before it. -/
  step : (count : Nat) → σ → (r price : α) → Except Fault σ
  /-- What the state forecasts after `count` returns, with an estimate to fall back on. -/
  forecast : (count : Nat) → σ → (fallback : Estimate α) → Except Fault (Estimate α)

/-- A state and the number of returns behind it. -/
structure Fit (σ : Type) where
  count : Nat
  state : σ
deriving DecidableEq, Repr

/-- A stream of prices: the last usable price, and the fit once there has been a return. -/
structure Track (α σ : Type) where
  lastPrice : Option α := none
  fit : Option (Fit σ) := none
deriving DecidableEq, Repr

variable {α σ : Type} [Scalar α]

/-- What is learned from one more return. -/
def Forecaster.learn (f : Forecaster α σ) (fit : Option (Fit σ)) (r price : α) :
    Except Fault (Fit σ) :=
  match fit with
  | none => (f.seed r price).map (Fit.mk 1)
  | some fit => (f.step fit.count fit.state r price).map (Fit.mk (fit.count + 1))

namespace Track

/-- The number of returns that the track has learned from. -/
def count (t : Track α σ) : Nat :=
  match t.fit with
  | none => 0
  | some fit => fit.count

/-- The track after one more price. An unusable price is dropped. -/
def observe (f : Forecaster α σ) (t : Track α σ) (price : α) : Except Fault (Track α σ) :=
  if isValidPrice price then do
    match ← logReturn price t.lastPrice with
    | none => return { t with lastPrice := some price }
    | some r => return { lastPrice := some price, fit := some (← f.learn t.fit r price) }
  else .ok t

/-- The forecast of a track, before the sigma floor; the fallback if there is no return yet. -/
def forecast (f : Forecaster α σ) (t : Track α σ) (fallback : Estimate α) :
    Except Fault (Estimate α) :=
  match t.fit with
  | none => .ok fallback
  | some fit => f.forecast fit.count fit.state fallback

/-- The estimate of a track, its sigma raised to the floor. -/
def estimate (f : Forecaster α σ) (minSigma : α) (t : Track α σ) (fallback : Estimate α) :
    Except Fault (Estimate α) :=
  (t.forecast f fallback).map (·.floored minSigma)

/-- An unusable price leaves the track as it is. -/
theorem observe_of_not_valid (f : Forecaster α σ) (t : Track α σ) {price : α}
    (h : isValidPrice price = false) : t.observe f price = .ok t := by
  simp [observe, h]

end Track

end ReturnForecast
