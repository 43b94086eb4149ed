import ReturnForecast.Proofs.Scalar.Real
import ReturnForecast.Proofs.Predictor.Streams

/-!
# Signals without a side

A signal whose side has no meaning is refused. The track that it is meant for is not touched, and no
track is begun for it. But the macro factors come before the side: a price that moves a factor has
moved it by the time the signal is refused. All other refused signals leave no trace.

* `Settings.movesFactors` — the prices that come before the side
* `observeSignal_of_unnamed` — what a refused signal leaves
* `refused_signals_leave_no_trace` — a run does not see them, but for the factors
* `refused_signal_moves_factor` — the factors do
-/

namespace ReturnForecast

/-! ## Sides and keys -/

theorem Side.ofName?_of_unnamed {name : String} (h : ∀ s : Side, name ≠ s.name) :
    ofName? name = none := by
  unfold ofName?
  split
  · exact absurd rfl (h .buy)
  · exact absurd rfl (h .sell)
  · exact absurd rfl (h .hold)
  · rfl

/-- Without a side there is no key. -/
theorem readSignalKey_of_unnamed {side : String}
    (h : ∀ s : Side, Text.lower (Text.trim side) ≠ s.name) (instrument tag : String) :
    readSignalKey instrument tag side =
      .error (.badChoice "Side" (.text (Text.lower (Text.trim side)))) := by
  unfold readSignalKey Side.read Side.ofName
  rw [Side.ofName?_of_unnamed h]
  rfl

variable {α : Type} [Scalar α]

/-! ## Factors -/

/-- The only fault of a factor is a quotient of prices that vanishes. -/
theorem Factor.fault_of_observe {share price : α} {f : Factor α} {fault : Fault}
    (h : f.observe share price = .error fault) : fault = .mathDomain := by
  unfold observe at h
  cases hlast : f.lastPrice with
  | none => rw [hlast] at h; cases h
  | some last =>
    rw [hlast] at h
    cases hlog : log? (price / last) with
    | ok r => simp only [hlog, bind, Except.bind, pure, Except.pure] at h; cases h
    | error cause =>
      simp only [hlog, bind, Except.bind] at h
      cases h
      unfold log? at hlog
      split at hlog
      · cases hlog; rfl
      · cases hlog

theorem MacroFactors.fault_of_observe {share price : α} {f : MacroFactors α} {instrument : String}
    {fault : Fault} (h : f.observe share instrument price = .error fault) :
    fault = .mathDomain := by
  unfold MacroFactors.observe at h
  split at h
  · split at h
    · cases h
    · next asset _ =>
      cases hnext : (f.get asset).observe share price with
      | ok next => rw [hnext] at h; cases h
      | error cause =>
        rw [hnext] at h
        cases h
        exact Factor.fault_of_observe hnext
  · cases h

/--
Does a price move a macro factor: are these the settings of the macro regression, is the price
usable, and has the instrument a class?
-/
def Settings.movesFactors (c : Settings α) (instrument : String) (price : α) : Bool :=
  decide (c.kind = .macroRegression) && isValidPrice price &&
    (Asset.ofInstrument? instrument).isSome

namespace Predictor

/-- A price that moves no factor leaves all factors. -/
theorem observeFactors_of_not_moves {p : Predictor α} {instrument : String} {price : α}
    (h : p.settings.movesFactors instrument price = false) :
    p.observeFactors instrument price = .ok p := by
  obtain ⟨c, s, F⟩ := p
  unfold observeFactors
  cases c with
  | macroRegression c =>
    have hfactors : F.observe (clampUnit c.alphaFactor) instrument price = .ok F := by
      unfold MacroFactors.observe
      split
      · next hprice =>
        have hclass : (Asset.ofInstrument? instrument).isSome = false := by
          simpa [Settings.movesFactors, Settings.kind, hprice] using h
        cases hasset : Asset.ofInstrument? instrument with
        | none => rfl
        | some asset => rw [hasset] at hclass; cases hclass
      · rfl
    simp only [Settings.factorShare?, hfactors, Except.map]
  | _ c => rfl

/-- What a price does to the factors, it does to nothing else. -/
theorem observeFactors_eq_ok {p q : Predictor α} {instrument : String} {price : α}
    (h : p.observeFactors instrument price = .ok q) : ∃ factors, q = { p with factors } := by
  unfold observeFactors at h
  split at h
  · cases h
    exact ⟨p.factors, rfl⟩
  · next share _ =>
    cases hnext : p.factors.observe share instrument price with
    | error fault => rw [hnext] at h; cases h
    | ok factors =>
      rw [hnext] at h
      cases h
      exact ⟨factors, rfl⟩

theorem fault_of_observeFactors {p : Predictor α} {instrument : String} {price : α} {fault : Fault}
    (h : p.observeFactors instrument price = .error fault) : fault = .mathDomain := by
  unfold observeFactors at h
  split at h
  · cases h
  · next share _ =>
    cases hnext : p.factors.observe share instrument price with
    | ok factors => rw [hnext] at h; cases h
    | error cause =>
      rw [hnext] at h
      cases h
      exact MacroFactors.fault_of_observe hnext

/-! ## Refused signals -/

section Unnamed

variable {side : String} (hside : ∀ s : Side, Text.lower (Text.trim side) ≠ s.name)
include hside

/-- **What a refused signal leaves** is what its price has done to the factors. -/
theorem observeSignal_of_unnamed (p : Predictor α) (instrument tag : String) (price : α) :
    (∃ fault, (p.observeSignal instrument tag side price).2 = some fault ∧
        fault.category = .badValue) ∧
      (∃ factors, (p.observeSignal instrument tag side price).1 = { p with factors }) ∧
      (p.settings.movesFactors instrument price = false →
        (p.observeSignal instrument tag side price).1 = p) := by
  have hkey := readSignalKey_of_unnamed hside instrument tag
  unfold observeSignal
  cases hfactors : p.observeFactors instrument price with
  | error fault =>
    rw [fault_of_observeFactors hfactors]
    exact ⟨⟨.mathDomain, rfl, rfl⟩, ⟨p.factors, rfl⟩, fun _ => rfl⟩
  | ok q =>
    simp only [hkey]
    refine ⟨⟨_, rfl, rfl⟩, observeFactors_eq_ok hfactors, fun hmoves => ?_⟩
    rw [observeFactors_of_not_moves hmoves] at hfactors
    exact (Except.ok.inj hfactors).symm

end Unnamed

end Predictor

/-- Can a tick change a predictor: has it a side, or does its price move a macro factor? -/
def Tick.counts (c : Settings α) : Tick α → Bool
  | price _ _ => true
  | signal instrument _ side x =>
    (Side.ofName? (Text.lower (Text.trim side))).isSome || c.movesFactors instrument x

namespace Predictor

/-- A tick that does not count changes nothing. -/
theorem observe_of_not_counts {p : Predictor α} {tick : Tick α}
    (h : tick.counts p.settings = false) : p.observe tick = p := by
  cases tick with
  | price instrument x => cases h
  | signal instrument tag side x =>
    rw [Tick.counts, Bool.or_eq_false_iff] at h
    obtain ⟨hname, hmoves⟩ := h
    have hside : ∀ s : Side, Text.lower (Text.trim side) ≠ s.name := by
      intro s hs
      rw [hs, Side.ofName?_name] at hname
      cases hname
    exact (observeSignal_of_unnamed hside p instrument tag x).2.2 hmoves

/-- A run does not see the ticks that do not count. -/
theorem observeAll_filter_counts (p : Predictor α) (ticks : List (Tick α)) :
    p.observeAll (ticks.filter (Tick.counts p.settings)) = p.observeAll ticks := by
  induction ticks generalizing p with
  | nil => rfl
  | cons tick rest ih =>
    have hrest := ih (p.observe tick)
    rw [(factors_observe p tick).1] at hrest
    cases hcounts : tick.counts p.settings with
    | true =>
      rw [List.filter_cons_of_pos hcounts]
      exact hrest
    | false =>
      rw [List.filter_cons_of_neg (by simp [hcounts])]
      rw [observe_of_not_counts hcounts] at hrest
      exact hrest.trans (congrArg (observeAll · rest) (observe_of_not_counts hcounts).symm)

/--
**Refused signals leave no trace, but for the macro factors.** A signal without a side is refused as
a wrong value. It leaves the predictor as it was, except that the factors may have heard its price;
this needs the macro regression, a usable price, and an instrument with a class. So a run does not
see the refused signals whose prices move no factor.
-/
theorem refused_signals_leave_no_trace (p : Predictor α) :
    (∀ instrument tag side price, (∀ s : Side, Text.lower (Text.trim side) ≠ s.name) →
      (∃ fault, (p.observeSignal instrument tag side price).2 = some fault ∧
          fault.category = .badValue) ∧
        (∃ factors, (p.observeSignal instrument tag side price).1 = { p with factors }) ∧
        (¬ (p.kind = .macroRegression ∧ isValidPrice price = true ∧
            ∃ asset, Asset.ofInstrument? instrument = some asset) →
          (p.observeSignal instrument tag side price).1 = p)) ∧
    ∀ ticks, p.observeAll (ticks.filter (Tick.counts p.settings)) = p.observeAll ticks := by
  refine ⟨fun instrument tag side price hside => ?_, p.observeAll_filter_counts⟩
  obtain ⟨hfault, hfactors, hsame⟩ := observeSignal_of_unnamed hside p instrument tag price
  refine ⟨hfault, hfactors, fun hmoves => hsame ?_⟩
  rw [← Bool.not_eq_true]
  intro h
  simp only [Settings.movesFactors, Bool.and_eq_true, decide_eq_true_eq,
    Option.isSome_iff_exists] at h
  exact hmoves ⟨h.1.1, h.1.2, h.2⟩

theorem lower_trim_hodl_unnamed (s : Side) : Text.lower (Text.trim "hodl") ≠ s.name := by
  cases s <;> decide +kernel

/-- A misspelt side at a coin, which moves no factor even where factors are kept. -/
theorem refused_signals_leave_no_trace_coin :
    let p : Predictor ℝ := fresh (.macroRegression MacroRegression.standard)
    (∀ s : Side, Text.lower (Text.trim "hodl") ≠ s.name) ∧
      (p.observeSignal "BTCUSDT" "breakout" "hodl" 60000).1 = p := by
  intro p
  have hclass : Asset.ofInstrument? "BTCUSDT" = none := by decide +kernel
  obtain ⟨-, -, hsame⟩ := (refused_signals_leave_no_trace p).1 "BTCUSDT" "breakout" "hodl" 60000
    lower_trim_hodl_unnamed
  refine ⟨lower_trim_hodl_unnamed, hsame ?_⟩
  rintro ⟨-, -, asset, hasset⟩
  rw [hclass] at hasset
  cases hasset

/-- A misspelt side at an index: the signal is refused, but the equity factor keeps its price. -/
theorem refused_signal_moves_factor :
    let p : Predictor ℝ := fresh (.macroRegression MacroRegression.standard)
    (∀ s : Side, Text.lower (Text.trim "hodl") ≠ s.name) ∧
      (p.observeSignal "SPX" "breakout" "hodl" 5000).1.factors.equity.lastPrice = some 5000 ∧
      (p.observeSignal "SPX" "breakout" "hodl" 5000).1 ≠ p := by
  intro p
  have hclass : Asset.ofInstrument? "SPX" = some .equity := by decide +kernel
  have hprice : isValidPrice (5000 : ℝ) = true := isValidPrice_of_cent_le (by norm_num)
  have hkey := readSignalKey_of_unnamed lower_trim_hodl_unnamed "SPX" "breakout"
  have hlast : (p.observeSignal "SPX" "breakout" "hodl" 5000).1.factors.equity.lastPrice =
      some 5000 := by
    simp only [observeSignal, observeFactors, p, fresh, Settings.factorShare?,
      MacroFactors.observe, hprice, hclass, hkey, MacroFactors.get, Factor.observe, Except.map,
      MacroFactors.set, if_true]
  refine ⟨lower_trim_hodl_unnamed, hlast, fun hsame => ?_⟩
  rw [hsame] at hlast
  cases hlast

end Predictor

end ReturnForecast
