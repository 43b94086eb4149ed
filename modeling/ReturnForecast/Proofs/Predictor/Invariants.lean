import ReturnForecast.Proofs.Predictor.Lessons
import ReturnForecast.Proofs.Requests

/-!
# Invariants of a run

What holds of an empty track and of factors that have heard nothing, and what every usable price
preserves, holds of all tracks and of the factors after every run of ticks.

* `Track.after_cases` — all that a price can do to a track
* `Predictor.Invariant` — what has to be shown of tracks and factors
* `Predictor.Invariant.run` — what then holds after every run
-/

namespace ReturnForecast

variable {α σ : Type} [Scalar α]

/-! ## Tracks -/

omit [Scalar α] in
theorem Forecaster.count_pos_of_learn {f : Forecaster α σ} {before : Option (Fit σ)} {r price : α}
    {fit : Fit σ} (h : f.learn before r price = .ok fit) : 0 < fit.count := by
  cases before with
  | none =>
    obtain ⟨s, -, rfl⟩ := map_eq_ok h
    exact Nat.one_pos
  | some before =>
    obtain ⟨s, -, rfl⟩ := map_eq_ok h
    exact Nat.succ_pos before.count

namespace Track

variable (f : Forecaster α σ) (t : Track α σ) (price : α)

/-- A price changes nothing, or it is remembered, or it is remembered and its return is learned. -/
theorem after_cases : t.after f price = t ∨ t.after f price = { t with lastPrice := some price } ∨
    ∃ r fit, logReturn price t.lastPrice = .ok (some r) ∧ f.learn t.fit r price = .ok fit ∧
      t.after f price = { lastPrice := some price, fit := some fit } := by
  unfold after observe
  cases isValidPrice price with
  | false => exact .inl rfl
  | true =>
    cases hreturn : logReturn price t.lastPrice with
    | error fault => exact .inl rfl
    | ok r =>
      cases r with
      | none => exact .inr (.inl rfl)
      | some r =>
        cases hlearn : f.learn t.fit r price with
        | error fault =>
          left
          simp only [if_true, bind, Except.bind, hlearn]
        | ok fit =>
          refine .inr (.inr ⟨r, fit, rfl, hlearn, ?_⟩)
          simp only [if_true, bind, Except.bind, hlearn, pure, Except.pure]

end Track

/-! ## Scopes -/

namespace Scopes

/-- Every track has a property, also the empty one of a key that was never seen. -/
def Every (P : Track α σ → Prop) (s : Scopes α σ) : Prop := ∀ place, P (s.trackAt place)

variable {P : Track α σ → Prop} {s : Scopes α σ}

omit [Scalar α] in
theorem every_empty (h : P {}) : ({} : Scopes α σ).Every P := by
  intro place
  cases place with
  | base instrument => exact h
  | signal key => exact h

theorem Every.observe {f : Forecaster α σ} (hs : s.Every P)
    (hstep : ∀ t price, P t → isValidPrice price = true → P (t.after f price)) (tick : Tick α) :
    (s.observe f tick).Every P := by
  intro place
  rw [trackAt_observe]
  cases husable : place.usable? tick with
  | none => exact hs place
  | some price => exact hstep _ price (hs place) (Place.valid_of_usable? husable)

end Scopes

/-! ## Predictors -/

namespace Predictor

/--
A property of tracks and one of factors that are there at the start, and that ticks preserve: a
tick that of the factors, and a usable price that of its track, at such factors.
-/
structure Invariant (c : Settings α) (P : Track α c.State → Prop) (Q : MacroFactors α → Prop) :
    Prop where
  empty : P {}
  silent : Q {}
  hear : ∀ {factors next} (tick : Tick α), Q factors → factorsAfter c factors tick = .ok next →
    Q next
  learn : ∀ {factors t price}, Q factors → P t → isValidPrice price = true →
    P (t.after (c.forecaster factors) price)

/-- A predictor with these settings whose tracks and factors have these properties. -/
inductive Keeps (c : Settings α) (P : Track α c.State → Prop) (Q : MacroFactors α → Prop) :
    Predictor α → Prop where
  | mk {scopes : Scopes α c.State} {factors : MacroFactors α} (tracks : scopes.Every P)
      (heard : Q factors) : Keeps c P Q { settings := c, scopes, factors }

variable {c : Settings α} {P : Track α c.State → Prop} {Q : MacroFactors α → Prop}
  {p : Predictor α}

theorem Invariant.observe (hI : Invariant c P Q) (hp : Keeps c P Q p) (tick : Tick α) :
    Keeps c P Q (p.observe tick) := by
  obtain ⟨hs, hQ⟩ := hp
  rw [observe_eq_factorsAfter]
  split
  · exact ⟨hs, hQ⟩
  · next next hnext =>
    have hheard := hI.hear tick hQ hnext
    exact ⟨hs.observe (fun _ _ => hI.learn hheard) tick, hheard⟩

theorem Invariant.observeAll (hI : Invariant c P Q) (hp : Keeps c P Q p) (ticks : List (Tick α)) :
    Keeps c P Q (p.observeAll ticks) := by
  induction ticks generalizing p with
  | nil => exact hp
  | cons tick rest ih => exact ih (hI.observe hp tick)

/-- **An invariant holds after every run of ticks.** -/
theorem Invariant.run (hI : Invariant c P Q) (ticks : List (Tick α)) :
    Keeps c P Q ((fresh c).observeAll ticks) :=
  hI.observeAll ⟨Scopes.every_empty hI.empty, hI.silent⟩ ticks

end Predictor

end ReturnForecast
