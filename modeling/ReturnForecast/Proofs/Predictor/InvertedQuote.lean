import ReturnForecast.Proofs.Scalar.Real
import ReturnForecast.Proofs.Predictor.Requote

/-!
# Forecasts of an inverted quotation

The inverse of a price is the same market seen from the other side: returns change their sign, and a
forecaster without a preference for one direction forecasts the opposite drift with the same sigma.
Every number in a state either changes its sign with the returns or does not see it.

* `Requote.inverted` — prices of the other side
* `commutes_inverted`, one for each kind — what changes its sign
* `estimates_of_inverted_quote` — estimates of a run
-/

namespace ReturnForecast

/-! ## The other side -/

theorem ewma_neg (a b share : ℝ) : ewma (-a) (-b) share = -ewma a b share := by
  unfold ewma
  ring

theorem blend_neg (w a b : ℝ) : blend w (-a) (-b) = -blend w a b := by
  unfold blend
  ring

/-- Inverse prices; returns and drifts change their sign. -/
noncomputable def Requote.inverted : Requote ℝ where
  price p := 1 / p
  drift r := -r
  log?_div := by
    intro p last hp hlast _ _
    have hquotient : 1 / p / (1 / last) = (p / last)⁻¹ := by
      rw [one_div, one_div, inv_div_inv, inv_div]
    have hpos : 0 < p / last := div_pos (isValidPrice_pos hp) (isValidPrice_pos hlast)
    rw [hquotient, log?_of_pos hpos, log?_of_pos (inv_pos.mpr hpos), Real.log_inv]
    rfl
  drift_ewma := ewma_neg
  drift_blend := blend_neg

/-- The estimate of the other side: the opposite drift. -/
def Estimate.mirrored (e : Estimate ℝ) : Estimate ℝ := { e with mu := -e.mu }

theorem Estimate.requoted_inverted (e : Estimate ℝ) : e.requoted .inverted = e.mirrored := rfl

/-- The log price of the other side. -/
theorem Requote.log?_inverted {p : ℝ} (hp : inverted.Usable p) :
    log? (1 / p) = (log? p).map (-·) := by
  have hpos : 0 < p := isValidPrice_pos hp.before
  rw [one_div, log?_of_pos hpos, log?_of_pos (inv_pos.mpr hpos), Real.log_inv]
  rfl

/-! ## The smoothing family -/

namespace Ewma

/-- The averages of the opposite returns. -/
def State.mirrored (s : State ℝ) : State ℝ := { s with mu := -s.mu }

theorem seed_mirrored (r : ℝ) : seed (-r) = (seed r).mirrored := by
  simp only [seed, State.mirrored, sub_self]

theorem step_mirrored (c : Settings ℝ) (s : State ℝ) (r : ℝ) :
    step c s.mirrored (-r) = (step c s r).mirrored := by
  simp only [step, State.mirrored, ewma_neg, neg_sub_neg, State.mk.injEq, true_and]
  rw [← neg_sub, neg_mul_neg]

theorem commutes_inverted (c : Settings ℝ) :
    (forecaster c).Commutes .inverted State.mirrored (forecaster c) where
  seed r _ _ := congrArg Except.ok (seed_mirrored r)
  step _ s r _ _ := congrArg Except.ok (step_mirrored c s r)
  forecast _ _ _ := rfl

end Ewma

namespace Autoregression

/-- The averages of the opposite returns; products of two returns stay. -/
def State.mirrored (s : State ℝ) : State ℝ := { s with lastReturn := -s.lastReturn, mu := -s.mu }

theorem seed_mirrored (r : ℝ) : seed (-r) = (seed r).mirrored := by
  simp only [seed, State.mirrored, sub_zero, neg_mul_neg]

theorem step_mirrored (c : Settings ℝ) (count : Nat) (s : State ℝ) (r : ℝ) :
    step c count s.mirrored (-r) = (step c count s r).mirrored := by
  have hgap : ∀ x : ℝ, -x - -s.mu = -(x - s.mu) := fun x => by ring
  simp only [step, State.mirrored, ewma_neg, hgap, neg_mul_neg]

theorem forecast_mirrored (c : Settings ℝ) (s : State ℝ) :
    forecast c s.mirrored = (forecast c s).mirrored := by
  have hmu : -s.mu + phi c s * (-s.lastReturn - -s.mu) =
      -(s.mu + phi c s * (s.lastReturn - s.mu)) := by ring
  exact congrArg (fun mu => Estimate.mk mu _) hmu

theorem commutes_inverted (c : Settings ℝ) :
    (forecaster c).Commutes .inverted State.mirrored (forecaster c) where
  seed r _ _ := congrArg Except.ok (seed_mirrored r)
  step count s r _ _ := congrArg Except.ok (step_mirrored c count s r)
  forecast _ s _ := congrArg Except.ok (forecast_mirrored c s)

end Autoregression

namespace Holt

/-- Level and trend of the opposite returns. -/
def State.mirrored (s : State ℝ) : State ℝ := { s with level := -s.level, trend := -s.trend }

theorem seed_mirrored (r : ℝ) : seed (-r) = (seed r).mirrored := by
  simp only [seed, State.mirrored, neg_zero]

theorem step_mirrored (c : Settings ℝ) (s : State ℝ) (r : ℝ) :
    step c s.mirrored (-r) = (step c s r).mirrored := by
  have herror : -r - (-s.level + -s.trend) = -(r - (s.level + s.trend)) := by ring
  simp only [step, State.mirrored, herror, neg_mul_neg, State.mk.injEq, and_true]
  constructor
  · ring
  · ring

theorem commutes_inverted (c : Settings ℝ) :
    (forecaster c).Commutes .inverted State.mirrored (forecaster c) where
  seed r _ _ := congrArg Except.ok (seed_mirrored r)
  step _ s r _ _ := congrArg Except.ok (step_mirrored c s r)
  forecast _ s _ := congrArg (fun mu => Except.ok (Estimate.mk mu _))
    (neg_add s.level s.trend).symm

end Holt

namespace LocalLevel

/-- The level of the opposite returns. -/
def State.mirrored (s : State ℝ) : State ℝ := { s with level := -s.level }

theorem step_mirrored (c : Settings ℝ) (s : State ℝ) (r : ℝ) :
    step c s.mirrored (-r) = (step c s r).map State.mirrored := by
  unfold step State.mirrored
  simp only
  cases div? (s.variance + c.moveVar) (s.variance + c.moveVar + c.noiseVar) with
  | error fault => rfl
  | ok gain =>
    have hlevel : -s.level + gain * (-r - -s.level) = -(s.level + gain * (r - s.level)) := by ring
    exact congrArg (fun level => Except.ok (State.mk level _)) hlevel

theorem commutes_inverted (c : Settings ℝ) :
    (forecaster c).Commutes .inverted State.mirrored (forecaster c) where
  seed _ _ _ := rfl
  step _ s r _ _ := step_mirrored c s r
  forecast _ _ _ := rfl

end LocalLevel

/-! ## The regime family -/

namespace MeanReversion

/-- The log prices of the other side. -/
def State.mirrored (s : State ℝ) : State ℝ :=
  { s with logPrice := -s.logPrice, logLevel := -s.logLevel }

theorem seed_mirrored (r : ℝ) {p : ℝ} (hp : Requote.inverted.Usable p) :
    seed (-r) (1 / p) = (seed r p).map State.mirrored := by
  unfold seed State.mirrored
  rw [Requote.log?_inverted hp, neg_mul_neg]
  cases log? p <;> rfl

theorem step_mirrored (c : Settings ℝ) (s : State ℝ) (r : ℝ) {p : ℝ}
    (hp : Requote.inverted.Usable p) :
    step c s.mirrored (-r) (1 / p) = (step c s r p).map State.mirrored := by
  unfold step State.mirrored
  rw [Requote.log?_inverted hp, neg_mul_neg]
  cases log? p with
  | error fault => rfl
  | ok logPrice =>
    exact congrArg (fun level => Except.ok (State.mk (-logPrice) level _)) (ewma_neg _ _ _)

theorem distance_mirrored {c : Settings ℝ} (hc : 0 ≤ c.zClip) (s : State ℝ) :
    distance c s.mirrored = -distance c s := by
  have hsigma : sigma c s.mirrored = sigma c s := rfl
  have hgap : s.mirrored.logPrice - s.mirrored.logLevel = -(s.logPrice - s.logLevel) := by
    simp only [State.mirrored]
    ring
  unfold distance
  rw [hsigma, hgap, ratioAbove_neg, clamp_neg hc]
  split
  · rfl
  · exact neg_zero.symm

theorem drift_mirrored {c : Settings ℝ} (hc : 0 ≤ c.zClip) (s : State ℝ) :
    drift c s.mirrored = -drift c s := by
  have hsigma : sigma c s.mirrored = sigma c s := rfl
  unfold drift
  rw [distance_mirrored hc, hsigma]
  ring

theorem commutes_inverted {c : Settings ℝ} (hc : 0 ≤ c.zClip) :
    (forecaster c).Commutes .inverted State.mirrored (forecaster c) where
  seed r _ hp := seed_mirrored r hp
  step _ s r _ hp := step_mirrored c s r hp
  forecast count s fallback := by
    simp only [forecaster, drift_mirrored hc]
    cases shrinkWeight? (count : ℝ) shrinkCount with
    | error fault => rfl
    | ok w => exact congrArg (fun mu => Except.ok (Estimate.mk mu _)) (blend_neg w _ _)

end MeanReversion

namespace ScaledMomentum

/-- The averages of the opposite returns; absolute returns stay. -/
def State.mirrored (s : State ℝ) : State ℝ := { s with fast := -s.fast, slow := -s.slow }

theorem seed_mirrored (r : ℝ) : seed (-r) = (seed r).mirrored :=
  congrArg (State.mk (-r) (-r)) (abs_neg r)

theorem step_mirrored (c : Settings ℝ) (s : State ℝ) (r : ℝ) :
    step c s.mirrored (-r) = (step c s r).mirrored := by
  have habs : Scalar.abs (-r) = Scalar.abs r := abs_neg r
  simp only [step, State.mirrored, ewma_neg, habs]

theorem drift_mirrored {c : Settings ℝ} (hc : 0 ≤ c.signalClip) (s : State ℝ) :
    drift c s.mirrored = (drift c s).map (-·) := by
  have hvol : volatility c s.mirrored = volatility c s := rfl
  have hgap : s.mirrored.fast - s.mirrored.slow = -(s.fast - s.slow) := by
    simp only [State.mirrored]
    ring
  unfold drift
  rw [hvol, hgap, div?_neg_left]
  cases div? (s.fast - s.slow) (volatility c s) with
  | error fault => rfl
  | ok signal =>
    show Except.ok (c.kappa * clamp (-signal) _ _ * _) = Except.ok (-(c.kappa * _ * _))
    rw [clamp_neg hc]
    congr 1
    ring

theorem commutes_inverted {c : Settings ℝ} (hc : 0 ≤ c.signalClip) :
    (forecaster c).Commutes .inverted State.mirrored (forecaster c) where
  seed r _ _ := congrArg Except.ok (seed_mirrored r)
  step _ s r _ _ := congrArg Except.ok (step_mirrored c s r)
  forecast count s fallback := by
    simp only [forecaster, drift_mirrored hc]
    split
    · rfl
    · cases drift c s with
      | error fault => rfl
      | ok raw =>
        simp only [Except.map, bind, Except.bind]
        cases shrinkWeight? (count : ℝ) shrinkCount with
        | error fault => rfl
        | ok w => exact congrArg (fun mu => Except.ok (Estimate.mk mu _)) (blend_neg w _ _)

end ScaledMomentum

namespace VarianceRatio

/-- The trend of the opposite returns; squared returns stay. -/
def State.mirrored (s : State ℝ) : State ℝ := { s with trend := -s.trend }

theorem seed_mirrored (r : ℝ) : seed (-r) = (seed r).mirrored := by
  simp only [seed, State.mirrored, neg_mul_neg]

theorem step_mirrored (c : Settings ℝ) (s : State ℝ) (r : ℝ) :
    step c s.mirrored (-r) = (step c s r).mirrored := by
  simp only [step, State.mirrored, ewma_neg, neg_mul_neg]

/-- The regime does not see the direction, and the trend gives the drift its sign. -/
theorem drift_mirrored (c : Settings ℝ) (s : State ℝ) :
    drift c s.mirrored = (drift c s).map (-·) := by
  have hsigma : sigma c s.mirrored = sigma c s := rfl
  unfold drift
  rw [hsigma]
  simp only [State.mirrored, sign_neg]
  cases div? s.fastVar s.slowVar with
  | error fault => rfl
  | ok ratio =>
    simp only [Except.map, bind, Except.bind, pure, Except.pure]
    congr 1
    ring

theorem commutes_inverted (c : Settings ℝ) :
    (forecaster c).Commutes .inverted State.mirrored (forecaster c) where
  seed r _ _ := congrArg Except.ok (seed_mirrored r)
  step _ s r _ _ := congrArg Except.ok (step_mirrored c s r)
  forecast count s fallback := by
    have hvar : s.mirrored.slowVar = s.slowVar := rfl
    simp only [forecaster, drift_mirrored, hvar]
    split
    · rfl
    · split
      · rfl
      · cases drift c s with
        | error fault => rfl
        | ok raw =>
          simp only [Except.map, bind, Except.bind]
          cases shrinkWeight? (count : ℝ) shrinkCount with
          | error fault => rfl
          | ok w => exact congrArg (fun mu => Except.ok (Estimate.mk mu _)) (blend_neg w _ _)

end VarianceRatio

namespace BounceReversal

/-- The last of the opposite returns; products of two returns stay. -/
def State.mirrored (s : State ℝ) : State ℝ := { s with lastReturn := -s.lastReturn }

theorem seed_mirrored (r : ℝ) : seed (-r) = (seed r).mirrored := by
  simp only [seed, State.mirrored, neg_mul_neg]

theorem step_mirrored (c : Settings ℝ) (s : State ℝ) (r : ℝ) :
    step c s.mirrored (-r) = (step c s r).mirrored := by
  simp only [step, State.mirrored, neg_mul_neg]

theorem commutes_inverted (c : Settings ℝ) :
    (forecaster c).Commutes .inverted State.mirrored (forecaster c) where
  seed r _ _ := congrArg Except.ok (seed_mirrored r)
  step _ s r _ _ := congrArg Except.ok (step_mirrored c s r)
  forecast count s fallback := by
    have hsigma : sigma c s.mirrored = sigma c s := rfl
    have hquiet : s.mirrored.lagCov = s.lagCov ∧ s.mirrored.var = s.var := ⟨rfl, rfl⟩
    simp only [forecaster, hsigma, hquiet]
    split
    · rfl
    · split
      · exact congrArg (fun mu : ℝ => Except.ok (Estimate.mk mu _)) neg_zero.symm
      · cases div? s.lagCov s.var with
        | error fault => rfl
        | ok ratio =>
          simp only [bind, Except.bind]
          cases shrinkWeight? (count : ℝ) shrinkCount with
          | error fault => rfl
          | ok w => exact congrArg (fun mu => Except.ok (Estimate.mk mu _)) (mul_neg _ _)

end BounceReversal

namespace CalibratedMomentum

/-- The averages and raw forecasts of the opposite returns; products of the two stay. -/
def State.mirrored (s : State ℝ) : State ℝ :=
  { s with fast := -s.fast, slow := -s.slow, raw := -s.raw }

theorem rawForecast_neg (c : Settings ℝ) (fast slow var : ℝ) :
    rawForecast c (-fast) (-slow) var = -rawForecast c fast slow var := by
  have hgap : -fast - -slow = -(fast - slow) := by ring
  unfold rawForecast
  simp only [hgap, ratioAbove_neg, neg_mul]

theorem seed_mirrored (c : Settings ℝ) (r : ℝ) : seed c (-r) = (seed c r).mirrored := by
  simp only [seed, State.mirrored, neg_mul_neg, rawForecast_neg]

theorem step_mirrored (c : Settings ℝ) (s : State ℝ) (r : ℝ) :
    step c s.mirrored (-r) = (step c s r).mirrored := by
  simp only [step, State.mirrored, neg_mul_neg, ewma_neg, rawForecast_neg]

theorem commutes_inverted (c : Settings ℝ) :
    (forecaster c).Commutes .inverted State.mirrored (forecaster c) where
  seed r _ _ := congrArg Except.ok (seed_mirrored c r)
  step _ s r _ _ := congrArg Except.ok (step_mirrored c s r)
  forecast count s fallback := by
    have hsigma : sigma c s.mirrored = sigma c s := rfl
    have hscale : scale s.mirrored = scale s := rfl
    have hraw : scale s * s.mirrored.raw = -(scale s * s.raw) := mul_neg _ _
    simp only [forecaster, hsigma, hscale, hraw]
    split
    · rfl
    · cases shrinkWeight? (count : ℝ) shrinkCount with
      | error fault => rfl
      | ok w => exact congrArg (fun mu => Except.ok (Estimate.mk mu _)) (blend_neg w _ _)

end CalibratedMomentum

/-! ## Runs -/

namespace Settings

/--
The settings that favour no direction; the regressions, with a constant among their features, are
not among them. Only two kinds move a signed signal into bounds, so only their bounds have to be
ordered.
-/
def EvenHanded : Settings ℝ → Prop
  | ewma _ | autoregression _ | holt _ | localLevel _ => True
  | meanReversion c => 0 ≤ c.zClip
  | scaledMomentum c => 0 ≤ c.signalClip
  | varianceRatio _ | bounceReversal _ | calibratedMomentum _ => True
  | trendRegression _ | momentumRegression _ | microstructure _ | macroRegression _ => False

/-- What inverse prices do to the states of a kind. -/
noncomputable def mirrored : (c : Settings ℝ) → c.State → c.State
  | ewma _, s => Ewma.State.mirrored s
  | autoregression _, s => Autoregression.State.mirrored s
  | holt _, s => Holt.State.mirrored s
  | localLevel _, s => LocalLevel.State.mirrored s
  | meanReversion _, s => MeanReversion.State.mirrored s
  | scaledMomentum _, s => ScaledMomentum.State.mirrored s
  | varianceRatio _, s => VarianceRatio.State.mirrored s
  | bounceReversal _, s => BounceReversal.State.mirrored s
  | calibratedMomentum _, s => CalibratedMomentum.State.mirrored s
  | trendRegression _, s | momentumRegression _, s | microstructure _, s | macroRegression _, s => s

/-- **What favours no direction treats both sides alike.** -/
theorem commutes_inverted {c : Settings ℝ} (hc : c.EvenHanded) (F : MacroFactors ℝ) :
    (c.forecaster F).Commutes .inverted c.mirrored (c.forecaster (F.requoted .inverted)) := by
  cases c with
  | ewma c => exact Ewma.commutes_inverted c
  | autoregression c => exact Autoregression.commutes_inverted c
  | holt c => exact Holt.commutes_inverted c
  | localLevel c => exact LocalLevel.commutes_inverted c
  | meanReversion c => exact MeanReversion.commutes_inverted hc
  | scaledMomentum c => exact ScaledMomentum.commutes_inverted hc
  | varianceRatio c => exact VarianceRatio.commutes_inverted c
  | bounceReversal c => exact BounceReversal.commutes_inverted c
  | calibratedMomentum c => exact CalibratedMomentum.commutes_inverted c
  | _ c => exact hc.elim

end Settings

namespace Predictor

/--
**Inverting the quotation mirrors the forecast.** A run on inverse prices, usable where the prices
were, ends with estimates of the opposite drift and the same sigma, given the opposite fallback. It
fails where the other one fails, and alike.
-/
theorem estimates_of_inverted_quote {c : Settings ℝ} (hc : c.EvenHanded) (ticks : List (Tick ℝ))
    (hvalid : ∀ tick ∈ ticks, isValidPrice (1 / tick.quote) = isValidPrice tick.quote) :
    let p := (fresh c).observeAll ticks
    let p' := (fresh c).observeAll (ticks.map (Tick.mapQuote (1 / ·)))
    (∀ instrument fallback, p'.estimateBase instrument fallback.mirrored =
        (p.estimateBase instrument fallback).map Estimate.mirrored) ∧
      ∀ instrument tag side fallback, p'.estimateSignal instrument tag side fallback.mirrored =
        (p.estimateSignal instrument tag side fallback).map Estimate.mirrored := by
  intro p p'
  have hkind := Settings.commutes_inverted hc
  have h : Requoted .inverted c.mirrored p p' := (Requoted.fresh _).observeAll hkind hvalid
  exact ⟨h.estimateBase hkind, h.estimateSignal hkind⟩

/-- Dollars for a euro and euros for a dollar, with an unusable price and a signal among them. -/
theorem estimates_of_inverted_quote_euro :
    let c : Settings ℝ := .meanReversion MeanReversion.standard
    let ticks : List (Tick ℝ) :=
      [.price "EURUSD" 1, .price "EURUSD" 2, .price "EURUSD" 0, .price "EURUSD" (1 / 4),
        .signal "EURUSD" "fade" "sell" 1, .signal "eurusd" "Fade" "SELL" 2]
    let p := (fresh c).observeAll ticks
    let p' := (fresh c).observeAll (ticks.map (Tick.mapQuote ((1 : ℝ) / ·)))
    c.EvenHanded ∧ (∀ tick ∈ ticks, isValidPrice (1 / tick.quote) = isValidPrice tick.quote) ∧
      ∀ fallback, p'.estimateSignal "EURUSD" "fade" "sell" fallback.mirrored =
        (p.estimateSignal "EURUSD" "fade" "sell" fallback).map Estimate.mirrored := by
  intro c ticks p p'
  have hc : c.EvenHanded := by
    show (0 : ℝ) ≤ 3.0
    norm_num
  have husable : ∀ x : ℝ, 1 / 4 ≤ x → x ≤ 4 → isValidPrice (1 / x) = isValidPrice x := by
    intro x hlow hhigh
    have hx : 0 < x := by linarith
    have hinverse : 1 / 100 ≤ 1 / x := one_div_le_one_div_of_le hx (by linarith)
    rw [isValidPrice_of_cent_le hinverse, isValidPrice_of_cent_le (by linarith)]
  have hvalid : ∀ tick ∈ ticks, isValidPrice (1 / tick.quote) = isValidPrice tick.quote := by
    simp only [ticks, List.forall_mem_cons, Tick.quote]
    exact ⟨husable 1 (by norm_num) (by norm_num), husable 2 (by norm_num) (by norm_num),
      by rw [div_zero], husable (1 / 4) le_rfl (by norm_num),
      husable 1 (by norm_num) (by norm_num), husable 2 (by norm_num) (by norm_num),
      fun _ h => absurd h List.not_mem_nil⟩
  exact ⟨hc, hvalid, (estimates_of_inverted_quote hc ticks hvalid).2 "EURUSD" "fade" "sell"⟩

end Predictor

end ReturnForecast
