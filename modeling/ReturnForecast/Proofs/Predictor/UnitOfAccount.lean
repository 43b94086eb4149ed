import ReturnForecast.Proofs.Scalar.Real
import ReturnForecast.Proofs.Predictor.Requote

/-!
# Forecasts in another unit of account

Multiplying every price by one positive factor changes no return. Twelve kinds see returns only, and
the factors of the macro regression keep returns beside prices of their own. The pull to a price
level keeps log prices, which all shift by the logarithm of the factor.

* `Requote.scaled` — prices in another unit
* `commutes_scaled` — every kind treats two units alike
* `estimates_in_any_unit` — estimates, sample counts and scope counts of a run
-/

namespace ReturnForecast

/-! ## Another unit -/

/-- Prices in another unit; returns and drifts stay as they are. -/
def Requote.scaled (k : ℝ) (hk : 0 < k) : Requote ℝ where
  price p := k * p
  drift := id
  log?_div := by
    intro p last _ _ _ _
    rw [mul_div_mul_left p last hk.ne']
    cases log? (p / last) <;> rfl
  drift_ewma _ _ _ := rfl
  drift_blend _ _ _ := rfl

/-- The log price in another unit. -/
theorem Requote.log?_scaled {k : ℝ} {hk : 0 < k} {p : ℝ} (hp : (scaled k hk).Usable p) :
    log? (k * p) = (log? p).map (· + Real.log k) := by
  have hpos : 0 < p := isValidPrice_pos hp.before
  rw [log?_of_pos hpos, log?_of_pos (mul_pos hk hpos), Real.log_mul hk.ne' hpos.ne', add_comm]
  rfl

section Scaled

variable {k : ℝ} {hk : 0 < k}

@[simp] theorem Estimate.requoted_scaled (e : Estimate ℝ) :
    e.requoted (.scaled k hk) = e := rfl

theorem MacroFactors.features_scaled (F : MacroFactors ℝ) :
    (F.requoted (.scaled k hk)).features = F.features := by
  have haverage : (F.requoted (.scaled k hk)).average = F.average := by
    funext asset
    rw [MacroFactors.average, MacroFactors.get_requoted]
    exact congrArg (Option.getD · 0) Option.map_id_apply
  unfold MacroFactors.features
  rw [haverage]

/-! ## The kinds -/

/-- A rule that looks at returns only does not see the unit. -/
theorem Forecaster.commutes_of_returns {σ : Type} {f : Forecaster ℝ σ}
    (hseed : ∀ r p p', f.seed r p = f.seed r p')
    (hstep : ∀ count s r p p', f.step count s r p = f.step count s r p') :
    f.Commutes (.scaled k hk) id f where
  seed r p _ := by
    show f.seed r (k * p) = _
    rw [hseed r (k * p) p]
    cases f.seed r p <;> rfl
  step count s r p _ := by
    show f.step count s r (k * p) = _
    rw [hstep count s r (k * p) p]
    cases f.step count s r p <;> rfl
  forecast count s fallback := by
    show f.forecast count s fallback = _
    cases f.forecast count s fallback <;> rfl

end Scaled

namespace MeanReversion

/-- A state whose log prices have shifted. -/
def State.shifted (d : ℝ) (s : State ℝ) : State ℝ :=
  { s with logPrice := s.logPrice + d, logLevel := s.logLevel + d }

theorem sigma_shifted (c : Settings ℝ) (d : ℝ) (s : State ℝ) :
    sigma c (s.shifted d) = sigma c s := rfl

/-- The distance from the level does not see the shift, nor does the pull. -/
theorem drift_shifted (c : Settings ℝ) (d : ℝ) (s : State ℝ) :
    drift c (s.shifted d) = drift c s := by
  have hgap : (s.shifted d).logPrice - (s.shifted d).logLevel = s.logPrice - s.logLevel :=
    add_sub_add_right_eq_sub s.logPrice s.logLevel d
  unfold drift distance
  rw [hgap, sigma_shifted]

theorem ewma_add_right (a b d share : ℝ) :
    ewma (a + d) (b + d) share = ewma a b share + d := by
  unfold ewma
  ring

theorem commutes_scaled (c : Settings ℝ) {k : ℝ} (hk : 0 < k) :
    (forecaster c).Commutes (.scaled k hk) (State.shifted (Real.log k)) (forecaster c) where
  seed r p hp := by
    show MeanReversion.seed r (k * p) = (MeanReversion.seed r p).map _
    rw [MeanReversion.seed, Requote.log?_scaled hp, MeanReversion.seed]
    cases log? p <;> rfl
  step count s r p hp := by
    show MeanReversion.step c (s.shifted _) r (k * p) = (MeanReversion.step c s r p).map _
    rw [MeanReversion.step, Requote.log?_scaled hp, MeanReversion.step]
    cases log? p with
    | error fault => rfl
    | ok logPrice =>
      show Except.ok (State.mk _ (ewma (s.logLevel + _) (logPrice + _) _) _) = _
      rw [ewma_add_right]
      rfl
  forecast count s fallback := by
    simp only [forecaster, drift_shifted, sigma_shifted, Estimate.requoted_scaled]
    cases shrinkWeight? (count : ℝ) shrinkCount <;> rfl

end MeanReversion

/-- What a change of unit does to the states of a kind. -/
def Settings.shifted (d : ℝ) : (c : Settings ℝ) → c.State → c.State
  | .meanReversion _, s => MeanReversion.State.shifted d s
  | _, s => s

/-- **Every kind treats two units alike.** -/
theorem Settings.commutes_scaled (c : Settings ℝ) {k : ℝ} (hk : 0 < k) (F : MacroFactors ℝ) :
    (c.forecaster F).Commutes (.scaled k hk) (c.shifted (Real.log k))
      (c.forecaster (F.requoted (.scaled k hk))) := by
  cases c with
  | meanReversion c => exact MeanReversion.commutes_scaled c hk
  | macroRegression c =>
    have hsame : MacroRegression.forecaster c (F.requoted (.scaled k hk)) =
        MacroRegression.forecaster c F := by
      unfold MacroRegression.forecaster MacroRegression.seed MacroRegression.step
      rw [MacroFactors.features_scaled]
    show (MacroRegression.forecaster c F).Commutes _ _ (MacroRegression.forecaster c _)
    rw [hsame]
    exact Forecaster.commutes_of_returns (fun _ _ _ => rfl) fun _ _ _ _ _ => rfl
  | _ c => exact Forecaster.commutes_of_returns (fun _ _ _ => rfl) fun _ _ _ _ _ => rfl

/-! ## Runs -/

namespace Predictor

/--
**Forecasts do not depend on the unit of account.** A run whose prices are all multiplied by one
positive factor, and are usable where they were, ends with the same estimates, the same sample
counts and the same number of scopes.
-/
theorem estimates_in_any_unit (s : Spec ℝ) (ticks : List (Tick ℝ)) {k : ℝ} (hk : 0 < k)
    (hvalid : ∀ tick ∈ ticks, isValidPrice (k * tick.quote) = isValidPrice tick.quote) :
    let p := (ofSpec s).observeAll ticks
    let p' := (ofSpec s).observeAll (ticks.map (Tick.mapQuote (k * ·)))
    (∀ instrument fallback,
        p'.estimateBase instrument fallback = p.estimateBase instrument fallback) ∧
      (∀ instrument tag side fallback,
        p'.estimateSignal instrument tag side fallback =
          p.estimateSignal instrument tag side fallback) ∧
      (∀ instrument, p'.sampleCount instrument = p.sampleCount instrument) ∧
      p'.scopeCount = p.scopeCount := by
  intro p p'
  have hkind := (Settings.ofSpec s).commutes_scaled hk
  have h : Requoted (.scaled k hk) ((Settings.ofSpec s).shifted (Real.log k)) p p' :=
    (Requoted.fresh _).observeAll hkind hvalid
  have hsame : ∀ e : Except Fault (Estimate ℝ), e.map (·.requoted (.scaled k hk)) = e := by
    intro e
    cases e <;> rfl
  refine ⟨fun instrument fallback => ?_, fun instrument tag side fallback => ?_, h.sampleCount,
    h.scopeCount⟩
  · exact (h.estimateBase hkind instrument fallback).trans (hsame _)
  · exact (h.estimateSignal hkind instrument tag side fallback).trans (hsame _)

/-- Prices in cents, with an unusable one and a signal among them. -/
theorem estimates_in_any_unit_cents :
    let s : Spec ℝ := .standard .meanReversion
    let ticks : List (Tick ℝ) :=
      [.price "BTC" 1, .price "BTC" 3, .price "BTC" 0, .signal "btc" "Breakout" "BUY" 2,
        .signal "BTC" "breakout" "buy" 5]
    let p := (ofSpec s).observeAll ticks
    let p' := (ofSpec s).observeAll (ticks.map (Tick.mapQuote ((100 : ℝ) * ·)))
    (0 : ℝ) < 100 ∧
      (∀ tick ∈ ticks, isValidPrice (100 * tick.quote) = isValidPrice tick.quote) ∧
      (∀ fallback, p'.estimateSignal "BTC" "breakout" "buy" fallback =
        p.estimateSignal "BTC" "breakout" "buy" fallback) ∧
      p'.scopeCount = p.scopeCount := by
  intro s ticks p p'
  have hk : (0 : ℝ) < 100 := by norm_num
  have husable : ∀ x : ℝ, 1 ≤ x → isValidPrice (100 * x) = isValidPrice x := fun x hx => by
    rw [isValidPrice_of_cent_le (by linarith), isValidPrice_of_cent_le (by linarith)]
  have hvalid : ∀ tick ∈ ticks, isValidPrice (100 * tick.quote) = isValidPrice tick.quote := by
    simp only [ticks, List.forall_mem_cons, Tick.quote]
    refine ⟨husable 1 le_rfl, husable 3 (by norm_num), by rw [mul_zero], husable 2 (by norm_num),
      husable 5 (by norm_num), fun _ h => absurd h List.not_mem_nil⟩
  obtain ⟨-, hsignal, -, hscopes⟩ := estimates_in_any_unit s ticks hk hvalid
  exact ⟨hk, hvalid, hsignal "BTC" "breakout" "buy", hscopes⟩

end Predictor

end ReturnForecast
