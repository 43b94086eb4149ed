import ReturnForecast.Proofs.Predictor.FactorAverages

/-!
# Ticks that a factor hears again

A tick of an instrument may also go to the signals of some strategies, and each of them brings it to
the macro factors once more. There the price follows itself, which is a return of zero. Over exact
reals the last prices stay, but the average loses the same share for every signal, so it depends on
how many signals a tick goes to and not on the prices alone.

* `Factor.diluted` — a factor after returns of zero
* `factors_of_routed_tick` — what a tick leaves that goes to any number of signals
* `factors_of_routed_path` — a whole run of such ticks
* `repeated_tick_dilutes_factor` — where hearing a tick again changes nothing
* `repeated_tick_moves_factor` — an index and one strategy, where it does
-/

namespace ReturnForecast

/-! ## Returns of zero -/

namespace Factor

/-- A factor after a number of returns of zero; the first of them may begin the average. -/
noncomputable def diluted (share : ℝ) (times : ℕ) (f : Factor ℝ) : Factor ℝ :=
  if times = 0 then f
  else { f with average := some ((1 - share) ^ times * f.average.getD 0) }

theorem diluted_zero (share : ℝ) (f : Factor ℝ) : f.diluted share 0 = f := if_pos rfl

theorem diluted_one (share : ℝ) (f : Factor ℝ) :
    f.diluted share 1 = { f with average := some ((1 - share) * f.average.getD 0) } := by
  simp [diluted]

theorem diluted_succ (share : ℝ) (times : ℕ) (f : Factor ℝ) :
    f.diluted share (times + 1) = (f.diluted share times).diluted share 1 := by
  rw [diluted_one]
  unfold diluted
  rw [if_neg times.succ_ne_zero]
  by_cases h : times = 0
  · simp [h]
  · simp only [if_neg h, Option.getD_some, pow_succ']
    rw [mul_assoc]

/-- A price that follows itself gives a return of zero. -/
theorem observe_again (share : ℝ) {f : Factor ℝ} {price : ℝ} (hprice : isValidPrice price = true)
    (hlast : f.lastPrice = some price) : f.observe share price = .ok (f.diluted share 1) := by
  have hpos := isValidPrice_pos hprice
  have hlog : log? (price / price) = .ok (0 : ℝ) := by
    rw [log?_of_pos (div_pos hpos hpos), div_self hpos.ne', Real.log_one]
  rw [diluted_one, observe, hlast]
  simp only [hlog, bind, Except.bind, pure, Except.pure]
  cases f.average with
  | none => simp
  | some average => simp [ewma]

/-- An average stays if there is one, and if it or the share is zero. -/
theorem diluted_eq_self_iff {share : ℝ} (hshare : share ∈ Set.Icc 0 1) (times : ℕ)
    (f : Factor ℝ) : f.diluted share times = f ↔
      times = 0 ∨ ∃ a, f.average = some a ∧ (share = 0 ∨ a = 0) := by
  obtain ⟨lastPrice, average⟩ := f
  by_cases htimes : times = 0
  · simp [htimes, diluted]
  · have hpower : (1 - share) ^ times = 1 ↔ share = 0 := by
      rw [pow_eq_one_iff_of_nonneg (sub_nonneg.mpr hshare.2) htimes]
      exact sub_eq_self
    cases average with
    | none => simp [diluted, htimes]
    | some a => simp [diluted, htimes, mul_left_eq_self₀, hpower]

/-- A price that ends a stream and is then repeated. -/
theorem ofPrices_append_replicate (share : ℝ) {prices : List ℝ}
    (hprices : ∀ x ∈ prices, isValidPrice x = true) {price : ℝ}
    (hlast : prices.getLast? = some price) (times : ℕ) :
    ofPrices share (prices ++ List.replicate times price) =
      (ofPrices share prices).diluted share times := by
  have hprice : isValidPrice price = true := hprices price (List.mem_of_getLast? hlast)
  induction times with
  | zero => rw [List.replicate_zero, List.append_nil, diluted_zero]
  | succ times ih =>
    have hvalid : ∀ x ∈ prices ++ List.replicate times price, isValidPrice x = true := by
      intro x hx
      rcases List.mem_append.mp hx with hx | hx
      · exact hprices x hx
      · rw [List.eq_of_mem_replicate hx]
        exact hprice
    have hstays : (ofPrices share (prices ++ List.replicate times price)).lastPrice =
        some price := by
      rw [ih, ← hlast]
      unfold diluted
      split <;> rfl
    have hnext := observe_ofPrices share hvalid hprice
    rw [observe_again share hprice hstays, ih, ← diluted_succ] at hnext
    rw [List.replicate_succ', ← List.append_assoc]
    exact (Except.ok.inj hnext).symm

end Factor

/-- Factors are the same if they are for every class. -/
theorem MacroFactors.ext_iff_get {α : Type} {f g : MacroFactors α} :
    f = g ↔ ∀ asset, f.get asset = g.get asset := by
  refine ⟨fun h _ => h ▸ rfl, fun h => ?_⟩
  obtain ⟨equity, gold, oil⟩ := f
  obtain ⟨equity', gold', oil'⟩ := g
  have hequity : equity = equity' := h .equity
  have hgold : gold = gold' := h .gold
  have hoil : oil = oil' := h .oil
  rw [hequity, hgold, hoil]

/-! ## Ticks that also go to signals -/

/-- Does a class hear the price of an instrument? -/
def Asset.Hears (asset : Asset) (instrument : String) (price : ℝ) : Prop :=
  isValidPrice price = true ∧ ofInstrument? instrument = some asset

noncomputable instance (asset : Asset) (instrument : String) (price : ℝ) :
    Decidable (asset.Hears instrument price) :=
  inferInstanceAs (Decidable (_ ∧ _))

/-- A price of an instrument that also goes to some signals, each of them a tag and a side. -/
structure RoutedTick where
  instrument : String
  price : ℝ
  signals : List (String × String)

namespace RoutedTick

/-- The tick of the instrument alone. -/
def own (t : RoutedTick) : Tick ℝ := .price t.instrument t.price

/-- The ticks of the signals. -/
def repeats (t : RoutedTick) : List (Tick ℝ) :=
  t.signals.map fun (tag, side) => .signal t.instrument tag side t.price

/-- The tick of the instrument, and then those of the signals. -/
def ticks (t : RoutedTick) : List (Tick ℝ) := t.own :: t.repeats

end RoutedTick

namespace Asset

theorem quote?_own (asset : Asset) (t : RoutedTick) : asset.quote? t.own =
    if asset.Hears t.instrument t.price then some t.price else none := rfl

/-- A class hears the price of a tick once more for every signal. -/
theorem quotes_repeats (asset : Asset) (t : RoutedTick) : asset.quotes t.repeats =
    if asset.Hears t.instrument t.price then List.replicate t.signals.length t.price else [] := by
  have hsame : ∀ tick ∈ t.repeats, asset.quote? tick = asset.quote? t.own := by
    intro tick htick
    obtain ⟨signal, -, rfl⟩ := List.mem_map.mp htick
    rfl
  rw [quotes, List.filterMap_congr hsame, quote?_own]
  split
  · simp [RoutedTick.repeats]
  · simp

end Asset

/-- A factor after a tick that goes to some signals, if its class hears the tick. -/
noncomputable def Factor.afterRouted (share : ℝ) (asset : Asset) (f : Factor ℝ) (t : RoutedTick) :
    Factor ℝ :=
  if asset.Hears t.instrument t.price then
    ((f.observe share t.price).toOption.getD f).diluted share t.signals.length
  else f

namespace Predictor

variable (c : MacroRegression.Settings ℝ)

/-- **What a tick leaves** that goes to any number of signals: as many returns of zero. -/
theorem factors_of_routed_tick (ticks : List (Tick ℝ)) (t : RoutedTick) (asset : Asset) :
    let once := ((fresh (.macroRegression c)).observeAll ticks).observe t.own
    let routed := ((fresh (.macroRegression c)).observeAll ticks).observeAll t.ticks
    routed.factors.get asset =
      if asset.Hears t.instrument t.price then
        (once.factors.get asset).diluted (clampUnit c.alphaFactor) t.signals.length
      else once.factors.get asset := by
  intro once routed
  have honce : once.factors.get asset =
      .ofPrices (clampUnit c.alphaFactor) (asset.quotes (ticks ++ [t.own])) := by
    rw [← (factors_of_run c _).2, observeAll_concat]
  have hrouted : routed.factors.get asset = .ofPrices (clampUnit c.alphaFactor)
      (asset.quotes (ticks ++ [t.own]) ++ asset.quotes t.repeats) := by
    unfold Asset.quotes
    rw [← List.filterMap_append, List.append_assoc, List.singleton_append]
    refine Eq.trans ?_ ((factors_of_run c (ticks ++ t.ticks)).2 asset)
    exact congrArg (fun p : Predictor ℝ => p.factors.get asset) List.foldl_append.symm
  rw [hrouted, honce, Asset.quotes_repeats]
  split
  · next hhears =>
    refine Factor.ofPrices_append_replicate _ (fun _ => Asset.valid_of_mem_quotes) ?_ _
    rw [Asset.quotes_concat, Asset.quote?_own, if_pos hhears]
    exact List.getLast?_concat
  · rw [List.append_nil]

/--
**A whole run of such ticks.** A class hears the prices one after the other, and after each of them
as many returns of zero as the tick has signals.
-/
theorem factors_of_routed_path (path : List RoutedTick) (asset : Asset) :
    ((fresh (.macroRegression c)).observeAll (path.flatMap RoutedTick.ticks)).factors.get asset =
      path.foldl (Factor.afterRouted (clampUnit c.alphaFactor) asset) {} := by
  induction path using List.reverseRecOn with
  | nil => cases asset <;> rfl
  | append_singleton path t ih =>
    have hrun := (factors_of_run c (path.flatMap RoutedTick.ticks)).2 asset
    have hown := (factors_of_run c (path.flatMap RoutedTick.ticks ++ [t.own])).2 asset
    rw [List.foldl_append, ← ih, List.flatMap_append, List.flatMap_singleton]
    refine (congrArg (fun p : Predictor ℝ => p.factors.get asset) List.foldl_append).trans ?_
    refine (factors_of_routed_tick c (path.flatMap RoutedTick.ticks) t asset).trans ?_
    rw [← observeAll_concat, hown, Asset.quotes_concat, Asset.quote?_own]
    show _ = Factor.afterRouted (clampUnit c.alphaFactor) asset _ t
    unfold Factor.afterRouted
    split
    · next hhears =>
      rw [hrun, Factor.observe_ofPrices _ (fun _ => Asset.valid_of_mem_quotes) hhears.1]
      rfl
    · rw [hrun]
      exact congrArg _ (List.append_nil _)

/--
**Where a tick counts once.** A tick that also goes to signals leaves the factors as it would leave
them alone exactly if there are no signals, or if every class that hears it has an average, and this
or the share is zero. Elsewhere the last prices are still the same, but an average loses the share
for every signal, and one that has not begun begins with zero.
-/
theorem repeated_tick_dilutes_factor (ticks : List (Tick ℝ)) (t : RoutedTick) :
    let share := clampUnit c.alphaFactor
    let once := ((fresh (.macroRegression c)).observeAll ticks).observe t.own
    let routed := ((fresh (.macroRegression c)).observeAll ticks).observeAll t.ticks
    (∀ asset, routed.factors.get asset =
      if asset.Hears t.instrument t.price then
        (once.factors.get asset).diluted share t.signals.length
      else once.factors.get asset) ∧
    (routed.factors = once.factors ↔ t.signals = [] ∨
      ∀ asset : Asset, asset.Hears t.instrument t.price →
        ∃ a, (once.factors.get asset).average = some a ∧ (share = 0 ∨ a = 0)) := by
  intro share once routed
  have hrouted := factors_of_routed_tick c ticks t
  refine ⟨hrouted, ?_⟩
  have hkept : ∀ asset, routed.factors.get asset = once.factors.get asset ↔
      (asset.Hears t.instrument t.price → t.signals.length = 0 ∨
        ∃ a, (once.factors.get asset).average = some a ∧ (share = 0 ∨ a = 0)) := by
    intro asset
    rw [← Factor.diluted_eq_self_iff (clampUnit_mem c.alphaFactor)]
    rw [show routed.factors.get asset = _ from hrouted asset]
    split
    · next hhears => exact ⟨fun h _ => h, fun h => h hhears⟩
    · next hhears => exact iff_of_true rfl fun h => absurd h hhears
  rw [MacroFactors.ext_iff_get]
  simp only [hkept, List.length_eq_zero_iff]
  by_cases hsignals : t.signals = [] <;> simp [hsignals]

/-- An index and one strategy: the tick at the signal takes a tenth off the average of equity. -/
theorem repeated_tick_moves_factor :
    let p : Predictor ℝ :=
      (fresh (.macroRegression MacroRegression.standard)).observeAll [.price "SPX" 5000]
    let once := (p.observePrice "SPX" 5010).1
    let twice := (once.observeSignal "SPX" "breakout" "buy" 5010).1
    Text.lower (Text.trim "buy") = Side.buy.name ∧
      once.factors.equity.average = some (Real.log (5010 / 5000)) ∧
      twice.factors.equity.average = some (9 / 10 * Real.log (5010 / 5000)) ∧
      twice.factors ≠ once.factors := by
  intro p once twice
  let t : RoutedTick := ⟨"SPX", 5010, [("breakout", "buy")]⟩
  have hclass : Asset.ofInstrument? "SPX" = some .equity := by decide +kernel
  have h1 : isValidPrice (5000 : ℝ) = true := isValidPrice_of_cent_le (by norm_num)
  have h2 : isValidPrice (5010 : ℝ) = true := isValidPrice_of_cent_le (by norm_num)
  have hshare : clampUnit (MacroRegression.standard : MacroRegression.Settings ℝ).alphaFactor =
      1 / 10 := by
    rw [clampUnit, clamp_eq]
    norm_num [MacroRegression.standard]
  have honce : once.factors.equity.average = some (Real.log (5010 / 5000)) := by
    have hrun := congrArg Factor.average
      ((factors_of_run MacroRegression.standard [.price "SPX" 5000, .price "SPX" 5010]).2 .equity)
    have hquotes : Asset.equity.quotes [.price "SPX" 5000, .price "SPX" 5010] = [5000, 5010] := by
      simp [Asset.quotes, Asset.quote?, Tick.instrument, Tick.quote, hclass, h1, h2]
    rw [hquotes] at hrun
    exact hrun
  have htwice : twice.factors.equity.average = some (9 / 10 * Real.log (5010 / 5000)) := by
    have hrouted := congrArg Factor.average
      (factors_of_routed_tick MacroRegression.standard [.price "SPX" 5000] t .equity)
    have hlength : t.signals.length = 1 := rfl
    rw [if_pos ⟨h2, hclass⟩, hshare, hlength, Factor.diluted_one] at hrouted
    refine hrouted.trans ?_
    show some ((1 - 1 / 10) * once.factors.equity.average.getD 0) = _
    rw [honce]
    norm_num
  refine ⟨by decide +kernel, honce, htwice, fun hsame => ?_⟩
  rw [hsame, honce, Option.some.injEq] at htwice
  have hpositive : 0 < Real.log (5010 / 5000) := Real.log_pos (by norm_num)
  linarith

end Predictor

end ReturnForecast
