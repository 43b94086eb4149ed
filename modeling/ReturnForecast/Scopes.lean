import ReturnForecast.Forecaster
import ReturnForecast.Keyed

/-!
# Scopes of a forecaster

A forecaster keeps one track per instrument and one per signal key. The forecast of a signal is
pulled toward the forecast of its instrument, so that a few conditioned samples cannot dominate it.
Estimating changes nothing.

An observation may fail, because a quotient of prices vanishes. It then leaves the tracks it found,
with an empty one for a key that is new, and the fault is handed on beside them.
-/

namespace ReturnForecast

/-- The tracks of all instruments and of all signal keys. -/
structure Scopes (α σ : Type) where
  base : Keyed (Track α σ) := {}
  signals : Keyed (Track α σ) := {}

variable {α σ : Type} [Scalar α]

/-- The track of a key, an empty one if the key is new. -/
def trackOf (tracks : Keyed (Track α σ)) (key : String) : Track α σ := (tracks.get? key).getD {}

/-- The tracks after a price of one of them, and the fault that stopped it, if any. -/
def observeAt (f : Forecaster α σ) (tracks : Keyed (Track α σ)) (key : String) (price : α) :
    Keyed (Track α σ) × Option Fault :=
  let track := trackOf tracks key
  match track.observe f price with
  | .ok next => (tracks.insert key next, none)
  | .error fault => (tracks.insert key track, some fault)

/-- The sample count at which a signal's own forecast has half the weight. -/
def signalShrinkCount : α := 20.0

namespace Scopes

/-- The scopes after a price of an instrument. -/
def observePrice (f : Forecaster α σ) (s : Scopes α σ) (instrument : String) (price : α) :
    Scopes α σ × Option Fault :=
  let (base, fault) := observeAt f s.base instrument price
  ({ s with base }, fault)

/-- The scopes after a price under a signal key. -/
def observeSignal (f : Forecaster α σ) (s : Scopes α σ) (key : String) (price : α) :
    Scopes α σ × Option Fault :=
  let (signals, fault) := observeAt f s.signals key price
  ({ s with signals }, fault)

/-- The estimate of an instrument; the floored fallback if it has never been seen. -/
def estimateBase (f : Forecaster α σ) (minSigma : α) (s : Scopes α σ) (instrument : String)
    (fallback : Estimate α) : Except Fault (Estimate α) :=
  match s.base.get? instrument with
  | none => .ok (fallback.floored minSigma)
  | some track => track.estimate f minSigma fallback

/--
The estimate of a signal, pulled toward the estimate of its instrument; that one if there is no
return.
-/
def estimateSignal (f : Forecaster α σ) (minSigma : α) (s : Scopes α σ) (key : String)
    (base : Estimate α) : Except Fault (Estimate α) :=
  match s.signals.get? key with
  | none => .ok base
  | some track =>
    if track.count = 0 then .ok base
    else do
      let own ← track.estimate f minSigma base
      let w ← shrinkWeight? (track.count : α) signalShrinkCount
      return (own.pulledTo w base).floored minSigma

/-- The number of returns of an instrument. -/
def sampleCount (s : Scopes α σ) (instrument : String) : Nat := (trackOf s.base instrument).count

/-- The number of instruments and signal keys seen so far. -/
def size (s : Scopes α σ) : Nat := s.base.size + s.signals.size

end Scopes

end ReturnForecast
