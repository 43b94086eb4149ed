import ReturnForecast.Predictor

/-!
# Streams of a predictor

A predictor is fed one interleaved stream of ticks. What it estimates for a key depends only on the
usable prices under that key: ticks of other keys, unusable prices and unreadable sides leave no
trace.

* `Scopes.trackOf_observeAll` — every track is the fold of its own usable prices
* `Predictor.observe_eq_factorsAfter` — a tick reaches the macro factors first, then the scopes
* `Predictor.observeAll_eq` — without macro factors a predictor is its scopes
* `estimateBase_observeAll` / `estimateSignal_observeAll` — estimates of a run are those of a
  predictor that was fed one key alone
-/

namespace ReturnForecast

/-- A price of an instrument, or a price at a signal. -/
inductive Tick (α : Type) where
  | price (instrument : String) (price : α)
  | signal (instrument tag side : String) (price : α)

variable {α σ : Type} [Scalar α]

/-! ## What belongs to a key -/

/-- A side that has a name gives a key. -/
theorem readSignalKey_of_named {side : String} {d : Side}
    (h : Text.lower (Text.trim side) = d.name) (instrument tag : String) :
    readSignalKey instrument tag side = .ok (signalKey instrument tag d) := by
  unfold readSignalKey Side.read Side.ofName
  rw [h, Side.ofName?_name]
  rfl

namespace Tick

/-- The price of one key as another key sees it: only its own, and only a usable one. -/
def usableAt? (key other : String) (price : α) : Option α :=
  if other = key ∧ isValidPrice price then some price else none

/-- The instrument of a tick. -/
def instrument : Tick α → String
  | price instrument _ => instrument
  | signal instrument _ _ _ => instrument

/-- The price of a tick. -/
def quote : Tick α → α
  | price _ x => x
  | signal _ _ _ x => x

/-- The usable price of an instrument in a tick. -/
def priceOf? (instrument : String) : Tick α → Option α
  | .price other x => usableAt? instrument other x
  | .signal .. => none

/-- The usable price under a signal key in a tick. -/
def signalled? (key : String) : Tick α → Option α
  | .price .. => none
  | .signal instrument tag side x =>
    match readSignalKey instrument tag side with
    | .ok other => usableAt? key other x
    | .error _ => none

/-- The usable prices of an instrument. -/
def pricesOf (instrument : String) (ticks : List (Tick α)) : List α :=
  ticks.filterMap (priceOf? instrument)

/-- The usable prices under a signal key. -/
def signalledUnder (key : String) (ticks : List (Tick α)) : List α :=
  ticks.filterMap (signalled? key)

theorem usableAt?_self (key : String) {price : α} (h : isValidPrice price = true) :
    usableAt? key key price = some price := if_pos ⟨rfl, h⟩

theorem valid_of_usableAt? {key other : String} {price x : α}
    (h : usableAt? key other price = some x) : isValidPrice x = true := by
  unfold usableAt? at h
  split at h
  · next hboth => exact Option.some.inj h ▸ hboth.2
  · cases h

theorem valid_of_mem_pricesOf {instrument : String} {ticks : List (Tick α)} {x : α}
    (h : x ∈ pricesOf instrument ticks) : isValidPrice x = true := by
  obtain ⟨tick, -, hx⟩ := List.mem_filterMap.mp h
  cases tick with
  | price other y => exact valid_of_usableAt? hx
  | signal other tag side y => cases hx

theorem valid_of_mem_signalledUnder {key : String} {ticks : List (Tick α)} {x : α}
    (h : x ∈ signalledUnder key ticks) : isValidPrice x = true := by
  obtain ⟨tick, -, hx⟩ := List.mem_filterMap.mp h
  cases tick with
  | price other y => cases hx
  | signal instrument tag side y =>
    rw [signalled?] at hx
    split at hx
    · exact valid_of_usableAt? hx
    · cases hx

/-- The prices that one instrument alone was fed. -/
theorem pricesOf_map_price (instrument : String) : ∀ {prices : List α},
    (∀ x ∈ prices, isValidPrice x = true) →
    pricesOf instrument (prices.map (.price instrument)) = prices
  | [], _ => rfl
  | x :: prices, h => by
    have hx : priceOf? instrument (.price instrument x) = some x :=
      usableAt?_self instrument (h x List.mem_cons_self)
    rw [List.map_cons, pricesOf, List.filterMap_cons_some hx]
    exact congrArg (x :: ·) (pricesOf_map_price instrument fun y hy =>
      h y (List.mem_cons_of_mem x hy))

end Tick

/-! ## Tracks -/

/-- A fit with its state seen another way. -/
def Fit.map {σ τ : Type} (m : σ → τ) (fit : Fit σ) : Fit τ :=
  { count := fit.count, state := m fit.state }

/-- The track after a price; a price that fails leaves it as it is. -/
def Track.after (f : Forecaster α σ) (t : Track α σ) (price : α) : Track α σ :=
  match t.observe f price with
  | .ok next => next
  | .error _ => t

/-- The track after a list of prices. -/
def Track.afterAll (f : Forecaster α σ) (t : Track α σ) (prices : List α) : Track α σ :=
  prices.foldl (Track.after f) t

theorem trackOf_insert_self {α σ : Type} (tracks : Keyed (Track α σ)) (key : String)
    (t : Track α σ) : trackOf (tracks.insert key t) key = t := by
  rw [trackOf, Keyed.get?_insert_self, Option.getD_some]

theorem trackOf_observeAt_self (f : Forecaster α σ) (tracks : Keyed (Track α σ)) (key : String)
    (price : α) : trackOf (observeAt f tracks key price).1 key =
      (trackOf tracks key).after f price := by
  unfold observeAt Track.after
  simp only
  cases (trackOf tracks key).observe f price with
  | ok next => exact congrArg (·.getD {}) (Keyed.get?_insert_self tracks key next)
  | error fault => exact congrArg (·.getD {}) (Keyed.get?_insert_self tracks key _)

theorem trackOf_observeAt_of_ne (f : Forecaster α σ) (tracks : Keyed (Track α σ))
    {key other : String} (h : other ≠ key) (price : α) :
    trackOf (observeAt f tracks other price).1 key = trackOf tracks key := by
  unfold observeAt
  simp only
  split
  · exact congrArg (·.getD {}) (Keyed.get?_insert_of_ne tracks _ h)
  · exact congrArg (·.getD {}) (Keyed.get?_insert_of_ne tracks _ h)

/-- A price reaches the track of its own key, and only if it is usable. -/
theorem trackOf_observeAt (f : Forecaster α σ) (tracks : Keyed (Track α σ)) (key other : String)
    (price : α) : trackOf (observeAt f tracks other price).1 key =
      (trackOf tracks key).afterAll f (Tick.usableAt? key other price).toList := by
  unfold Tick.usableAt?
  by_cases hkey : other = key
  · subst hkey
    rw [trackOf_observeAt_self]
    cases hx : isValidPrice price with
    | true =>
      rw [if_pos ⟨rfl, rfl⟩]
      rfl
    | false =>
      rw [if_neg fun hboth => Bool.false_ne_true hboth.2]
      unfold Track.after
      rw [Track.observe_of_not_valid f _ hx]
      rfl
  · rw [trackOf_observeAt_of_ne f tracks hkey, if_neg fun hboth => hkey hboth.1]
    rfl

/-! ## Scopes -/

namespace Scopes

/-- The scopes after a tick, whether it fails or not. -/
def observe (f : Forecaster α σ) (s : Scopes α σ) : Tick α → Scopes α σ
  | .price instrument x => (s.observePrice f instrument x).1
  | .signal instrument tag side x =>
    match readSignalKey instrument tag side with
    | .ok key => (s.observeSignal f key x).1
    | .error _ => s

/-- The scopes after a run of ticks. -/
def observeAll (f : Forecaster α σ) (s : Scopes α σ) (ticks : List (Tick α)) : Scopes α σ :=
  ticks.foldl (observe f) s

theorem trackOf_base_observe (f : Forecaster α σ) (s : Scopes α σ) (instrument : String)
    (tick : Tick α) : trackOf (s.observe f tick).base instrument =
      (trackOf s.base instrument).afterAll f (tick.priceOf? instrument).toList := by
  cases tick with
  | price other x => exact trackOf_observeAt f s.base instrument other x
  | signal other tag side x =>
    rw [observe]
    split
    · rfl
    · rfl

theorem trackOf_signals_observe (f : Forecaster α σ) (s : Scopes α σ) (key : String)
    (tick : Tick α) : trackOf (s.observe f tick).signals key =
      (trackOf s.signals key).afterAll f (tick.signalled? key).toList := by
  cases tick with
  | price other x => rfl
  | signal instrument tag side x =>
    rw [observe, Tick.signalled?]
    cases readSignalKey instrument tag side with
    | error fault => rfl
    | ok other => exact trackOf_observeAt f s.signals key other x

/-- The tracks after a run are folds over what belongs to their keys. -/
theorem trackOf_observeAll (f : Forecaster α σ) : ∀ (s : Scopes α σ) (ticks : List (Tick α)),
    (∀ instrument, trackOf (s.observeAll f ticks).base instrument =
      (trackOf s.base instrument).afterAll f (Tick.pricesOf instrument ticks)) ∧
    ∀ key, trackOf (s.observeAll f ticks).signals key =
      (trackOf s.signals key).afterAll f (Tick.signalledUnder key ticks)
  | s, [] => ⟨fun _ => rfl, fun _ => rfl⟩
  | s, tick :: ticks => by
    obtain ⟨hbase, hsignals⟩ := trackOf_observeAll f (s.observe f tick) ticks
    -- What the tick holds for a key stands before what the rest holds for it.
    have happend : ∀ (t : Track α σ) (first : Option α) (rest : List α),
        (t.afterAll f first.toList).afterAll f rest = t.afterAll f (first.toList ++ rest) :=
      fun t first rest => List.foldl_append.symm
    refine ⟨fun instrument => ?_, fun key => ?_⟩
    · refine (hbase instrument).trans ?_
      rw [trackOf_base_observe, happend, Tick.pricesOf, Tick.pricesOf]
      cases h : tick.priceOf? instrument with
      | none => rw [List.filterMap_cons_none h]; rfl
      | some x => rw [List.filterMap_cons_some h]; rfl
    · refine (hsignals key).trans ?_
      rw [trackOf_signals_observe, happend, Tick.signalledUnder, Tick.signalledUnder]
      cases h : tick.signalled? key with
      | none => rw [List.filterMap_cons_none h]; rfl
      | some x => rw [List.filterMap_cons_some h]; rfl

/-! ## Estimates -/

theorem estimateBase_eq (f : Forecaster α σ) (minSigma : α) (s : Scopes α σ) (instrument : String)
    (fallback : Estimate α) : s.estimateBase f minSigma instrument fallback =
      (trackOf s.base instrument).estimate f minSigma fallback := by
  unfold estimateBase trackOf
  cases s.base.get? instrument with
  | none => rfl
  | some track => rfl

theorem estimateSignal_eq (f : Forecaster α σ) (minSigma : α) (s : Scopes α σ) (key : String)
    (base : Estimate α) : s.estimateSignal f minSigma key base =
      if (trackOf s.signals key).count = 0 then .ok base
      else do
        let own ← (trackOf s.signals key).estimate f minSigma base
        let w ← shrinkWeight? ((trackOf s.signals key).count : α) signalShrinkCount
        return (own.pulledTo w base).floored minSigma := by
  unfold estimateSignal trackOf
  cases s.signals.get? key with
  | none => rfl
  | some track => rfl

end Scopes

/-! ## Predictors -/

namespace Predictor

/-- The predictor after a tick, whether it fails or not. -/
def observe (p : Predictor α) : Tick α → Predictor α
  | .price instrument x => (p.observePrice instrument x).1
  | .signal instrument tag side x => (p.observeSignal instrument tag side x).1

/-- The predictor after a run of ticks. -/
def observeAll (p : Predictor α) (ticks : List (Tick α)) : Predictor α := ticks.foldl observe p

theorem observeAll_concat (p : Predictor α) (ticks : List (Tick α)) (tick : Tick α) :
    p.observeAll (ticks ++ [tick]) = (p.observeAll ticks).observe tick :=
  List.foldl_append

/-- The predictor after prices of one instrument. -/
def feed (p : Predictor α) (instrument : String) (prices : List α) : Predictor α :=
  p.observeAll (prices.map (.price instrument))

/-- The factors after a tick, for settings that keep some. -/
def factorsAfter (c : Settings α) (factors : MacroFactors α) (tick : Tick α) :
    Except Fault (MacroFactors α) :=
  match c.factorShare? with
  | none => .ok factors
  | some share => factors.observe share tick.instrument tick.quote

/-- A tick reaches the factors first, and then the scopes. -/
theorem observe_eq_factorsAfter {c : Settings α} (s : Scopes α c.State) (factors : MacroFactors α)
    (tick : Tick α) :
    ({ settings := c, scopes := s, factors := factors } : Predictor α).observe tick =
      match factorsAfter c factors tick with
      | .error _ => { settings := c, scopes := s, factors := factors }
      | .ok next =>
        { settings := c, scopes := s.observe (c.forecaster next) tick, factors := next } := by
  cases hc : c.factorShare? with
  | none =>
    cases tick with
    | price instrument x =>
      simp only [observe, observePrice, observeFactors, factorsAfter, hc, Scopes.observe]
      rfl
    | signal instrument tag side x =>
      simp only [observe, observeSignal, observeFactors, factorsAfter, hc, Scopes.observe]
      cases readSignalKey instrument tag side <;> rfl
  | some share =>
    cases tick with
    | price instrument x =>
      simp only [observe, observePrice, observeFactors, factorsAfter, hc, Tick.instrument,
        Tick.quote]
      cases factors.observe share instrument x <;> rfl
    | signal instrument tag side x =>
      simp only [observe, observeSignal, observeFactors, factorsAfter, hc, Tick.instrument,
        Tick.quote]
      cases factors.observe share instrument x with
      | error fault => rfl
      | ok next =>
        simp only [Except.map, Scopes.observe]
        cases readSignalKey instrument tag side <;> rfl

/-- A tick changes the factors as it would change them alone, and keeps the settings. -/
theorem factors_observe (p : Predictor α) (tick : Tick α) :
    (p.observe tick).settings = p.settings ∧ (p.observe tick).factors =
      ((factorsAfter p.settings p.factors tick).toOption).getD p.factors := by
  obtain ⟨c, s, factors⟩ := p
  rw [observe_eq_factorsAfter]
  cases factorsAfter c factors tick with
  | error fault => exact ⟨rfl, rfl⟩
  | ok next => exact ⟨rfl, rfl⟩

theorem settings_observeAll (p : Predictor α) (ticks : List (Tick α)) :
    (p.observeAll ticks).settings = p.settings := by
  induction ticks generalizing p with
  | nil => rfl
  | cons tick rest ih => exact (ih (p.observe tick)).trans (factors_observe p tick).1

theorem observePrice_eq {c : Settings α} (hc : c.factorShare? = none) (s : Scopes α c.State)
    (factors : MacroFactors α) (instrument : String) (x : α) :
    ({ settings := c, scopes := s, factors := factors } : Predictor α).observePrice instrument x =
      ({ settings := c, scopes := (s.observePrice (c.forecaster factors) instrument x).1,
         factors := factors }, (s.observePrice (c.forecaster factors) instrument x).2) := by
  simp only [observePrice, observeFactors, hc]
  rfl

/-- A predictor without macro factors hands a tick to its scopes. -/
theorem observe_eq {c : Settings α} (hc : c.factorShare? = none) (s : Scopes α c.State)
    (factors : MacroFactors α) (tick : Tick α) :
    ({ settings := c, scopes := s, factors := factors } : Predictor α).observe tick =
      { settings := c, scopes := s.observe (c.forecaster factors) tick, factors := factors } := by
  rw [observe_eq_factorsAfter, factorsAfter, hc]

theorem observeAll_eq {c : Settings α} (hc : c.factorShare? = none) (factors : MacroFactors α) :
    ∀ (s : Scopes α c.State) (ticks : List (Tick α)),
      ({ settings := c, scopes := s, factors := factors } : Predictor α).observeAll ticks =
        { settings := c, scopes := s.observeAll (c.forecaster factors) ticks, factors := factors }
  | _, [] => rfl
  | s, tick :: ticks => by
    rw [observeAll, List.foldl_cons, observe_eq hc]
    exact observeAll_eq hc factors (s.observe (c.forecaster factors) tick) ticks

/-- What a predictor has after a run of ticks, and after the usable prices of one instrument. -/
theorem sampleCount_observeAll {c : Settings α} (hc : c.factorShare? = none)
    (ticks : List (Tick α)) (instrument : String) :
    ((fresh c).observeAll ticks).sampleCount instrument =
      (Track.afterAll (c.forecaster {}) {} (Tick.pricesOf instrument ticks)).count := by
  unfold fresh
  rw [observeAll_eq hc]
  exact congrArg Track.count ((Scopes.trackOf_observeAll (c.forecaster {}) {} ticks).1 instrument)

theorem estimateBase_eq {c : Settings α} (hc : c.factorShare? = none) (ticks : List (Tick α))
    (instrument : String) (fallback : Estimate α) :
    ((fresh c).observeAll ticks).estimateBase instrument fallback =
      (Track.afterAll (c.forecaster {}) {} (Tick.pricesOf instrument ticks)).estimate
        (c.forecaster {}) c.minSigma fallback := by
  unfold fresh
  rw [observeAll_eq hc]
  refine (Scopes.estimateBase_eq (c.forecaster {}) c.minSigma _ instrument fallback).trans ?_
  rw [(Scopes.trackOf_observeAll (c.forecaster {}) {} ticks).1 instrument]
  rfl

/-- **The estimate of an instrument** needs only the usable prices of that instrument. -/
theorem estimateBase_observeAll {c : Settings α} (hc : c.factorShare? = none)
    (ticks : List (Tick α)) (instrument : String) (fallback : Estimate α) :
    ((fresh c).observeAll ticks).estimateBase instrument fallback =
      ((fresh c).feed instrument (Tick.pricesOf instrument ticks)).estimateBase instrument
        fallback := by
  rw [feed, estimateBase_eq hc, estimateBase_eq hc,
    Tick.pricesOf_map_price instrument fun _ => Tick.valid_of_mem_pricesOf]

/--
An estimate pulled toward a base by a predictor that was fed the prices of a signal alone, as those
of an instrument: `n` returns weigh `n / (n + 20)`, and none weigh nothing.
-/
def blendOf (own : Predictor α) (instrument : String) (base : Estimate α) :
    Except Fault (Estimate α) :=
  if own.sampleCount instrument = 0 then .ok base
  else do
    let e ← own.estimateBase instrument base
    let n : α := (own.sampleCount instrument : α)
    let w ← div? n (n + 20.0)
    return ({ mu := w * e.mu + (1 - w) * base.mu, sigma := w * e.sigma + (1 - w) * base.sigma } :
      Estimate α).floored own.minSigma

theorem minSigma_feed {c : Settings α} (hc : c.factorShare? = none) (instrument : String)
    (prices : List α) : ((fresh c).feed instrument prices).minSigma = c.minSigma := by
  unfold feed fresh
  rw [observeAll_eq hc]
  rfl

theorem scopesEstimateSignal_eq {c : Settings α} (hc : c.factorShare? = none)
    (ticks : List (Tick α)) (instrument key : String) (base : Estimate α) :
    ((fresh c).observeAll ticks).scopes.estimateSignal ((fresh c).observeAll ticks).forecaster
        ((fresh c).observeAll ticks).minSigma key base =
      ((fresh c).feed instrument (Tick.signalledUnder key ticks)).blendOf instrument base := by
  have hprices : Tick.pricesOf instrument
      ((Tick.signalledUnder key ticks).map (Tick.price instrument)) =
        Tick.signalledUnder key ticks :=
    Tick.pricesOf_map_price instrument fun _ => Tick.valid_of_mem_signalledUnder
  rw [blendOf, minSigma_feed hc, feed, sampleCount_observeAll hc, estimateBase_eq hc, hprices]
  unfold fresh
  rw [observeAll_eq hc]
  refine (Scopes.estimateSignal_eq (c.forecaster {}) c.minSigma _ key base).trans ?_
  rw [(Scopes.trackOf_observeAll (c.forecaster {}) {} ticks).2 key]
  rfl

/-- **The estimate of a signal** needs, besides, only the usable prices under its key. -/
theorem estimateSignal_observeAll {c : Settings α} (hc : c.factorShare? = none)
    (ticks : List (Tick α)) (instrument tag side : String) (fallback : Estimate α) :
    ((fresh c).observeAll ticks).estimateSignal instrument tag side fallback = (do
      let base ← ((fresh c).observeAll ticks).estimateBase instrument fallback
      let key ← readSignalKey instrument tag side
      ((fresh c).feed instrument (Tick.signalledUnder key ticks)).blendOf instrument base) := by
  rw [estimateSignal]
  simp only [scopesEstimateSignal_eq hc ticks instrument]

end Predictor

end ReturnForecast
