import ReturnForecast.Proofs.Scalar.Averages
import ReturnForecast.Proofs.Predictor.ReturnHistory

/-!
# What a macro factor averages

A factor hears the usable prices of all instruments of its class as one stream. Over exact reals it
has an average as soon as the stream has two prices, and the average lies between two returns of the
stream. But the stream does not tell instruments apart: where one follows another, the step from the
price level of the one to that of the other is averaged as if it were a return.

* `Factor.ofPrices` — the factor of a stream, and `Factor.observe_ofPrices`, one more price
* `factors_of_run` — every run leaves the factors of its merged streams
* `factor_average_merged` — what the average of a merged stream is worth
* `factor_average_one_instrument` — where a factor hears a single instrument, these are its returns
-/

namespace ReturnForecast

/-! ## The factor of a stream -/

namespace Factor

/-- The factor that a stream of prices leaves. -/
noncomputable def ofPrices (share : ℝ) (prices : List ℝ) : Factor ℝ where
  lastPrice := prices.getLast?
  average := if 2 ≤ prices.length then some (smoothed share (returnsOf prices)) else none

/-- The first price is only remembered, the second one gives the first return. -/
theorem observe_ofPrices (share : ℝ) {prices : List ℝ}
    (hprices : ∀ x ∈ prices, isValidPrice x = true) {p : ℝ} (hp : isValidPrice p = true) :
    (ofPrices share prices).observe share p = .ok (ofPrices share (prices ++ [p])) := by
  rcases prices.eq_nil_or_concat' with rfl | ⟨init, last, rfl⟩
  · rfl
  · have hlast : isValidPrice last = true := hprices last List.mem_concat_self
    have hlog : log? (p / last) = .ok (Real.log (p / last)) :=
      log?_of_pos (div_pos (isValidPrice_pos hp) (isValidPrice_pos hlast))
    have hsmoothed := smoothed_concat share (returnsOf (init ++ [last])) (Real.log (p / last))
    rw [← returnsOf_concat, length_returnsOf, List.length_append, List.length_singleton,
      Nat.add_sub_cancel] at hsmoothed
    unfold observe ofPrices
    simp only [List.getLast?_concat, hlog, bind, Except.bind, pure, Except.pure,
      List.length_append, List.length_singleton]
    by_cases hinit : init.length = 0
    · rw [if_pos hinit] at hsmoothed
      rw [if_neg (by omega), if_pos (by omega), hsmoothed]
    · rw [if_neg hinit] at hsmoothed
      rw [if_pos (by omega), if_pos (by omega), hsmoothed]

end Factor

/-! ## Merged streams -/

/-- The price that a class hears in a tick: only that of a member, and only a usable one. -/
noncomputable def Asset.quote? (asset : Asset) (tick : Tick ℝ) : Option ℝ :=
  if isValidPrice tick.quote ∧ Asset.ofInstrument? tick.instrument = some asset then
    some tick.quote
  else none

/-- The usable prices of all instruments of a class, as one stream. -/
noncomputable def Asset.quotes (asset : Asset) (ticks : List (Tick ℝ)) : List ℝ :=
  ticks.filterMap asset.quote?

namespace Tick

/-- The usable price of one instrument in a tick, at a signal or not. -/
noncomputable def quoteAt? (instrument : String) (tick : Tick ℝ) : Option ℝ :=
  usableAt? instrument tick.instrument tick.quote

/-- The usable prices of one instrument, at signals or not. -/
noncomputable def quotesOf (instrument : String) (ticks : List (Tick ℝ)) : List ℝ :=
  ticks.filterMap (quoteAt? instrument)

/-- An instrument has no more prices than ticks. -/
theorem length_quotesOf_le (instrument : String) : ∀ ticks : List (Tick ℝ),
    (quotesOf instrument ticks).length ≤ (ticks.map Tick.instrument).count instrument
  | [] => le_rfl
  | tick :: ticks => by
    have hrest := length_quotesOf_le instrument ticks
    unfold quotesOf at hrest ⊢
    cases hquote : quoteAt? instrument tick with
    | none =>
      rw [List.filterMap_cons_none hquote]
      exact hrest.trans List.count_le_count_cons
    | some x =>
      have hkey : tick.instrument = instrument := by
        by_contra hne
        rw [quoteAt?, usableAt?, if_neg fun h => hne h.1] at hquote
        cases hquote
      rw [List.filterMap_cons_some hquote, List.map_cons, hkey, List.count_cons_self]
      exact Nat.succ_le_succ hrest

end Tick

namespace Asset

theorem quotes_concat (asset : Asset) (ticks : List (Tick ℝ)) (tick : Tick ℝ) :
    asset.quotes (ticks ++ [tick]) =
      asset.quotes ticks ++ (asset.quote? tick).toList := by
  simp only [quotes, List.filterMap_eq_flatMap_toList, List.flatMap_append, List.flatMap_singleton]

theorem valid_of_mem_quotes {asset : Asset} {ticks : List (Tick ℝ)} {x : ℝ}
    (h : x ∈ asset.quotes ticks) : isValidPrice x = true := by
  obtain ⟨tick, -, hx⟩ := List.mem_filterMap.mp h
  unfold quote? at hx
  split at hx
  · next hboth => exact Option.some.inj hx ▸ hboth.1
  · cases hx

/-- A class that hears a single instrument hears the prices of that instrument. -/
theorem quotes_eq_quotesOf {asset : Asset} {instrument : String}
    (hclass : ofInstrument? instrument = some asset) {ticks : List (Tick ℝ)}
    (hone : ∀ tick ∈ ticks, isValidPrice tick.quote = true →
      ofInstrument? tick.instrument = some asset → tick.instrument = instrument) :
    asset.quotes ticks = Tick.quotesOf instrument ticks := by
  refine List.filterMap_congr fun tick htick => ?_
  unfold quote? Tick.quoteAt? Tick.usableAt?
  refine if_congr ⟨?_, ?_⟩ rfl rfl
  · rintro ⟨hvalid, hmember⟩
    exact ⟨hone tick htick hvalid hmember, hvalid⟩
  · rintro ⟨hkey, hvalid⟩
    exact ⟨hvalid, hkey ▸ hclass⟩

end Asset

/-! ## The factors of a run -/

/-- A price reaches the factor of its class, and over exact reals it never fails there. -/
theorem MacroFactors.observe_ofPrices {share : ℝ} {f : MacroFactors ℝ} {streams : Asset → List ℝ}
    (hvalid : ∀ asset, ∀ x ∈ streams asset, isValidPrice x = true)
    (hf : ∀ asset, f.get asset = .ofPrices share (streams asset)) (tick : Tick ℝ) :
    ∃ next, f.observe share tick.instrument tick.quote = .ok next ∧ ∀ asset,
      next.get asset = .ofPrices share (streams asset ++ (asset.quote? tick).toList) := by
  unfold observe Asset.quote?
  by_cases hprice : isValidPrice tick.quote = true
  · rw [if_pos hprice]
    cases hclass : Asset.ofInstrument? tick.instrument with
    | none =>
      refine ⟨f, rfl, fun asset => ?_⟩
      rw [if_neg (by simp), hf]
      exact congrArg _ (List.append_nil _).symm
    | some own =>
      simp only [hf own, Factor.observe_ofPrices share (hvalid own) hprice, Except.map]
      refine ⟨_, rfl, fun asset => ?_⟩
      rw [get_set]
      by_cases howner : own = asset
      · subst howner
        rw [if_pos rfl, if_pos ⟨hprice, rfl⟩]
        rfl
      · rw [if_neg howner, if_neg fun h => howner (Option.some.inj h.2), hf]
        exact congrArg _ (List.append_nil _).symm
  · rw [if_neg hprice]
    refine ⟨f, rfl, fun asset => ?_⟩
    rw [if_neg fun h => hprice h.1, hf]
    exact congrArg _ (List.append_nil _).symm

namespace Predictor

/-- **The factors of a run** are those of its merged streams. -/
theorem factors_of_run (c : MacroRegression.Settings ℝ) (ticks : List (Tick ℝ)) :
    ((fresh (.macroRegression c)).observeAll ticks).settings = .macroRegression c ∧
      ∀ asset, ((fresh (.macroRegression c)).observeAll ticks).factors.get asset =
        .ofPrices (clampUnit c.alphaFactor) (asset.quotes ticks) := by
  induction ticks using List.reverseRecOn with
  | nil =>
    refine ⟨rfl, fun asset => ?_⟩
    cases asset <;> rfl
  | append_singleton ticks tick ih =>
    obtain ⟨hsettings, hfactors⟩ := ih
    obtain ⟨next, hnext, hget⟩ := MacroFactors.observe_ofPrices
      (fun _ _ => Asset.valid_of_mem_quotes) hfactors tick
    obtain ⟨hkept, hstep⟩ :=
      factors_observe ((fresh (.macroRegression c)).observeAll ticks) tick
    rw [observeAll_concat]
    refine ⟨hkept.trans hsettings, fun asset => ?_⟩
    rw [hstep, hsettings]
    show ((MacroFactors.observe _ _ _ _).toOption.getD _).get asset = _
    rw [hnext, Asset.quotes_concat]
    exact hget asset

/--
**What a factor averages.** It has an average as soon as its merged stream has two prices; the
average then lies between two returns of that stream.
-/
theorem factor_average_merged (c : MacroRegression.Settings ℝ) (asset : Asset)
    (ticks : List (Tick ℝ)) :
    let f := ((fresh (.macroRegression c)).observeAll ticks).factors.get asset
    let returns := returnsOf (asset.quotes ticks)
    (f.average.isSome ↔ 2 ≤ (asset.quotes ticks).length) ∧
      ∀ a, f.average = some a → ∃ lo ∈ returns, ∃ hi ∈ returns, a ∈ Set.Icc lo hi := by
  intro f returns
  have hf : f.average = if 2 ≤ (asset.quotes ticks).length then
      some (smoothed (clampUnit c.alphaFactor) returns) else none :=
    congrArg Factor.average ((factors_of_run c ticks).2 asset)
  by_cases hlen : 2 ≤ (asset.quotes ticks).length
  · rw [hf, if_pos hlen]
    refine ⟨iff_of_true rfl hlen, ?_⟩
    rintro a ⟨⟩
    have hreturns : returns ≠ [] := by
      intro hnil
      have hzero := length_returnsOf (asset.quotes ticks)
      rw [show returnsOf (asset.quotes ticks) = [] from hnil, List.length_nil] at hzero
      omega
    exact smoothed_mem (clampUnit_mem c.alphaFactor) hreturns
  · rw [hf, if_neg hlen]
    refine ⟨iff_of_false Bool.false_ne_true hlen, ?_⟩
    rintro a ⟨⟩

/--
**Where a factor hears a single instrument**, it has an average as soon as that instrument has had
two usable prices, and the average lies between two returns of the instrument.
-/
theorem factor_average_one_instrument (c : MacroRegression.Settings ℝ) {asset : Asset}
    {instrument : String} (hclass : Asset.ofInstrument? instrument = some asset)
    (ticks : List (Tick ℝ)) (hone : ∀ tick ∈ ticks, isValidPrice tick.quote = true →
      Asset.ofInstrument? tick.instrument = some asset → tick.instrument = instrument) :
    let f := ((fresh (.macroRegression c)).observeAll ticks).factors.get asset
    let returns := returnsOf (Tick.quotesOf instrument ticks)
    (f.average.isSome ↔ 2 ≤ (Tick.quotesOf instrument ticks).length) ∧
      ∀ a, f.average = some a → ∃ lo ∈ returns, ∃ hi ∈ returns, a ∈ Set.Icc lo hi := by
  have hmerged := factor_average_merged c asset ticks
  rw [Asset.quotes_eq_quotesOf hclass hone] at hmerged
  exact hmerged

/-- An index with two prices, between them a price of something else. -/
theorem factor_average_one_instrument_index :
    let ticks : List (Tick ℝ) :=
      [.price "SPX" 5000, .price "BTCUSDT" 60000, .price "SPX" 5010]
    let f := ((fresh (.macroRegression MacroRegression.standard)).observeAll ticks).factors.get
      .equity
    f.average.isSome ∧ ∀ a, f.average = some a → a = Real.log (5010 / 5000) := by
  intro ticks f
  have hindex : Asset.ofInstrument? "SPX" = some .equity := by decide +kernel
  have hother : Asset.ofInstrument? "BTCUSDT" = none := by decide +kernel
  have hquotes : Tick.quotesOf "SPX" ticks = [5000, 5010] := by
    have h1 : isValidPrice (5000 : ℝ) = true := isValidPrice_of_cent_le (by norm_num)
    have h2 : isValidPrice (5010 : ℝ) = true := isValidPrice_of_cent_le (by norm_num)
    simp [Tick.quotesOf, Tick.quoteAt?, Tick.usableAt?, Tick.instrument, Tick.quote, ticks, h1, h2]
  have hone : ∀ tick ∈ ticks, isValidPrice tick.quote = true →
      Asset.ofInstrument? tick.instrument = some .equity → tick.instrument = "SPX" := by
    intro tick htick _ hclass
    simp only [ticks, List.mem_cons, List.not_mem_nil, or_false] at htick
    rcases htick with rfl | rfl | rfl
    · rfl
    · exact absurd (hother.symm.trans hclass) (by simp)
    · rfl
  obtain ⟨hsome, hmem⟩ :=
    factor_average_one_instrument MacroRegression.standard hindex ticks hone
  rw [hquotes] at hsome hmem
  refine ⟨hsome.mpr le_rfl, fun a ha => ?_⟩
  obtain ⟨lo, hlo, hi, hhi, hlower, hupper⟩ := hmem a ha
  have hreturns : returnsOf [5000, 5010] = [Real.log (5010 / 5000)] := rfl
  rw [hreturns, List.mem_singleton] at hlo hhi
  exact le_antisymm (hhi ▸ hupper) (hlo ▸ hlower)

/--
An index and a fund that tracks it have one price each, and there is no return yet. The factor has
an average nonetheless: the logarithm of the quotient of the two price levels.
-/
theorem factor_average_mixes_instruments :
    let ticks : List (Tick ℝ) := [.price "SPX" 5000, .price "SPY" 500]
    let f := ((fresh (.macroRegression MacroRegression.standard)).observeAll ticks).factors.get
      .equity
    f.average = some (Real.log (500 / 5000)) ∧
      ∀ instrument, (Tick.quotesOf instrument ticks).length ≤ 1 := by
  intro ticks f
  have hindex : Asset.ofInstrument? "SPX" = some .equity := by decide +kernel
  have hfund : Asset.ofInstrument? "SPY" = some .equity := by decide +kernel
  have hquotes : Asset.equity.quotes ticks = [5000, 500] := by
    have h1 : isValidPrice (5000 : ℝ) = true := isValidPrice_of_cent_le (by norm_num)
    have h2 : isValidPrice (500 : ℝ) = true := isValidPrice_of_cent_le (by norm_num)
    simp [Asset.quotes, Asset.quote?, Tick.instrument, Tick.quote, ticks, hindex, hfund, h1, h2]
  constructor
  · have hf := congrArg Factor.average
      ((factors_of_run MacroRegression.standard ticks).2 .equity)
    rw [hquotes] at hf
    exact hf
  · intro instrument
    have hdistinct : (ticks.map Tick.instrument).Nodup := by
      show ["SPX", "SPY"].Nodup
      decide
    exact (Tick.length_quotesOf_le instrument ticks).trans
      (List.nodup_iff_count_le_one.mp hdistinct instrument)

end Predictor

end ReturnForecast
