import ReturnForecast.Proofs.Scalar.Extended
import ReturnForecast.Proofs.Predictor.Streams

/-!
# What a predictor has learned

Over exact numbers no usable price fails, whatever the settings, so a track has one return fewer
than usable prices.

* `exists_neverFails` — every kind learns from every return
* `count_afterAll` — the returns of a track
* `estimates_of_own_prices` — what a predictor knows of a key, after any run of ticks
-/

namespace ReturnForecast

/-! ## Learning -/

/-- From usable prices a state is always learned, and it satisfies an invariant. -/
structure Forecaster.NeverFails {α σ : Type} [Scalar α] (f : Forecaster α σ) (I : σ → Prop) :
    Prop where
  seed : ∀ r price, isValidPrice price = true → ∃ s, f.seed r price = .ok s ∧ I s
  step : ∀ count s r price, isValidPrice price = true → I s →
    ∃ s', f.step count s r price = .ok s' ∧ I s'

namespace LocalLevel

open Extended

/-- What is left of a variance after an update is not negative. -/
theorem not_remaining_lt_zero {a b : Extended} (ha : ¬ a ≤ 0) (hb : ¬ b ≤ 0) :
    ¬ (1 - a / (a + b)) * a < 0 := by
  cases a with
  | nan => exact id
  | infinite s =>
    cases s with
    | true => exact absurd rfl ha
    | false =>
      cases b with
      | nan => exact id
      | infinite t =>
        cases t with
        | true => exact absurd rfl hb
        | false => exact id
      | finite y => exact id
  | finite x =>
    have hx : (0 : ℝ) < x := not_le.mp ha
    cases b with
    | nan => exact id
    | infinite t =>
      show ¬ (1 + -0) * x < 0
      rw [neg_zero, add_zero, one_mul]
      exact not_lt.mpr hx.le
    | finite y =>
      have hy : (0 : ℝ) < y := not_le.mp hb
      have hsum : x + y ≠ 0 := (add_pos hx hy).ne'
      have hquotient : finite x / (finite x + finite y) = finite (x / (x + y)) := finite_div hsum
      rw [hquotient]
      show ¬ (1 + -(x / (x + y))) * x < 0
      have hrest : 1 + -(x / (x + y)) = y / (x + y) := by
        field_simp
        ring
      rw [hrest]
      exact not_lt.mpr (by positivity)

theorem not_moveVar_le_zero (c : Settings Extended) : ¬ c.moveVar ≤ 0 :=
  not_larger_le_zero c.processVar (by norm_num : (0 : ℝ) < 1e-12)

theorem not_noiseVar_le_zero (c : Settings Extended) : ¬ c.noiseVar ≤ 0 :=
  not_larger_le_zero c.measureVar (by norm_num : (0 : ℝ) < 1e-12)

/-- A variance that is not negative stays so, and no update divides by zero. -/
theorem neverFails (c : Settings Extended) :
    (forecaster c).NeverFails fun s => ¬ s.variance < 0 where
  seed r price _ := ⟨seed c r, rfl, not_lt_zero (not_noiseVar_le_zero c)⟩
  step count s r price _ hs := by
    have hmove : ¬ s.variance + c.moveVar ≤ 0 := not_add_le_zero hs (not_moveVar_le_zero c)
    have hnoise : ¬ c.noiseVar ≤ 0 := not_noiseVar_le_zero c
    have htotal : ¬ IsZero (s.variance + c.moveVar + c.noiseVar) := fun h =>
      not_add_le_zero (not_lt_zero hmove) hnoise h.1
    show ∃ s', step c s r = .ok s' ∧ ¬ s'.variance < 0
    rw [step, div?, if_neg htotal]
    exact ⟨_, rfl, not_remaining_lt_zero hmove hnoise⟩

end LocalLevel

theorem MeanReversion.neverFails (c : Settings Extended) :
    (forecaster c).NeverFails fun _ => True where
  seed r price hprice := by
    obtain ⟨x, rfl, hx⟩ := Extended.isValidPrice_pos hprice
    show ∃ s, MeanReversion.seed r (.finite x) = .ok s ∧ True
    rw [MeanReversion.seed, Extended.log?_finite hx]
    exact ⟨_, rfl, trivial⟩
  step count s r price hprice _ := by
    obtain ⟨x, rfl, hx⟩ := Extended.isValidPrice_pos hprice
    show ∃ s', MeanReversion.step c s r (.finite x) = .ok s' ∧ True
    rw [MeanReversion.step, Extended.log?_finite hx]
    exact ⟨_, rfl, trivial⟩

theorem Forecaster.neverFails_of_total {α σ : Type} [Scalar α] {f : Forecaster α σ}
    (hseed : ∀ r price, ∃ s, f.seed r price = .ok s)
    (hstep : ∀ count s r price, ∃ s', f.step count s r price = .ok s') :
    f.NeverFails fun _ => True where
  seed r price _ := by
    obtain ⟨s, hs⟩ := hseed r price
    exact ⟨s, hs, trivial⟩
  step count s r price _ _ := by
    obtain ⟨s', hs'⟩ := hstep count s r price
    exact ⟨s', hs', trivial⟩

/-- **Every kind learns from every return,** whatever its settings. -/
theorem exists_neverFails (c : Settings Extended) (factors : MacroFactors Extended) :
    ∃ I, (c.forecaster factors).NeverFails I := by
  cases c with
  | localLevel c => exact ⟨_, LocalLevel.neverFails c⟩
  | meanReversion c => exact ⟨_, MeanReversion.neverFails c⟩
  -- No step of the other kinds has a fault to report.
  | _ c => exact ⟨_, Forecaster.neverFails_of_total (fun _ _ => ⟨_, rfl⟩) fun _ _ _ _ => ⟨_, rfl⟩⟩

/-! ## Counting -/

/-- A track after some number of usable prices. -/
inductive Track.Grown {σ : Type} (I : σ → Prop) : Nat → Track Extended σ → Prop where
  | empty : Grown I 0 {}
  | first {last : Extended} (hlast : isValidPrice last = true) :
      Grown I 1 { lastPrice := some last, fit := none }
  | more {n : Nat} {last : Extended} {fit : Fit σ} (hcount : fit.count + 1 = n)
      (hlast : isValidPrice last = true) (hfit : I fit.state) :
      Grown I n { lastPrice := some last, fit := some fit }

namespace Track

variable {σ : Type} {I : σ → Prop} {f : Forecaster Extended σ} {t : Track Extended σ} {n : Nat}

theorem logReturn_eq_ok {price last : Extended} (hprice : isValidPrice price = true)
    (hlast : isValidPrice last = true) : ∃ r, logReturn price (some last) = .ok (some r) := by
  refine ⟨Scalar.log (price / last), ?_⟩
  rw [logReturn, hlast, hprice]
  rw [if_pos (by rfl), (Extended.log?_div hprice hlast).1]
  rfl

/-- One more usable price is one more return, but for the first. -/
theorem Grown.observe (hf : f.NeverFails I) (h : Grown I n t) {price : Extended}
    (hprice : isValidPrice price = true) :
    ∃ t', t.observe f price = .ok t' ∧ Grown I (n + 1) t' := by
  unfold Track.observe
  rw [if_pos hprice]
  cases h with
  | empty => exact ⟨_, rfl, .first hprice⟩
  | @first last hlast =>
    obtain ⟨r, hr⟩ := logReturn_eq_ok hprice hlast
    obtain ⟨s, hs, hI⟩ := hf.seed r price hprice
    refine ⟨{ lastPrice := some price, fit := some ⟨1, s⟩ }, ?_, .more rfl hprice hI⟩
    simp only [hr, Forecaster.learn, hs, bind, Except.bind, Except.map, pure, Except.pure]
  | @more _ last fit hcount hlast hfit =>
    obtain ⟨r, hr⟩ := logReturn_eq_ok hprice hlast
    obtain ⟨s, hs, hI⟩ := hf.step fit.count fit.state r price hprice hfit
    refine ⟨{ lastPrice := some price, fit := some ⟨fit.count + 1, s⟩ }, ?_,
      .more (by rw [hcount]) hprice hI⟩
    simp only [hr, Forecaster.learn, hs, bind, Except.bind, Except.map, pure, Except.pure]

theorem Grown.after (hf : f.NeverFails I) (h : Grown I n t) {price : Extended}
    (hprice : isValidPrice price = true) : Grown I (n + 1) (t.after f price) := by
  obtain ⟨t', hobserve, ht'⟩ := h.observe hf hprice
  unfold Track.after
  rw [hobserve]
  exact ht'

theorem Grown.afterAll (hf : f.NeverFails I) : ∀ {prices : List Extended} {n : Nat}
    {t : Track Extended σ}, Grown I n t → (∀ x ∈ prices, isValidPrice x = true) →
    Grown I (n + prices.length) (t.afterAll f prices)
  | [], _, _, h, _ => h
  | x :: prices, n, t, h, hprices => by
    have hnext := h.after hf (hprices x List.mem_cons_self)
    have hrest := Grown.afterAll hf hnext fun y hy => hprices y (List.mem_cons_of_mem x hy)
    rw [List.length_cons, Nat.add_comm prices.length 1, ← Nat.add_assoc]
    exact hrest

theorem Grown.count_eq (h : Grown I n t) : t.count = n - 1 := by
  cases h with
  | empty => rfl
  | first hlast => rfl
  | more hcount hlast hfit => rw [← hcount]; rfl

/-- **A track has one return fewer than usable prices.** -/
theorem count_afterAll (hf : f.NeverFails I) {prices : List Extended}
    (hprices : ∀ x ∈ prices, isValidPrice x = true) :
    (Track.afterAll f {} prices).count = prices.length - 1 := by
  have h := Grown.afterAll hf .empty hprices
  rw [h.count_eq, Nat.zero_add]

end Track

/-! ## Knowledge of a predictor -/

namespace Predictor

/-- Without macro factors the settings keep no share for them. -/
theorem factorShare?_ofSpec {α : Type} [Scalar α] {s : Spec α} (h : s.kind ≠ .macroRegression) :
    (Settings.ofSpec s).factorShare? = none := by
  have hkind := Settings.kind_ofSpec s
  cases hc : Settings.ofSpec s with
  | macroRegression c =>
    rw [hc] at hkind
    exact absurd hkind.symm h
  | _ c => rfl

/-- The weight of any number of returns exists. -/
theorem weight_eq (n : Nat) : div? (n : Extended) ((n : Extended) + 20.0) =
    .ok (.finite (n / (n + 20))) := by
  have htotal : (n : Extended) + 20.0 = .finite (n + 20) := by
    show Extended.finite ((n : ℝ) + (20.0 : ℝ)) = _
    norm_num
  have hpos : (0 : ℝ) < n + 20 := by positivity
  have hzero : ¬ IsZero (Extended.finite ((n : ℝ) + 20)) := fun h => not_le.mpr hpos h.1
  rw [htotal, div?, if_neg hzero]
  exact congrArg Except.ok (Extended.finite_div hpos.ne')

/--
**What a predictor knows of a key** is what it would know had it been fed the usable prices of that
key and nothing else: the estimates of instruments, those of signals, and over exact numbers the
sample counts and the weights that the estimates of signals have.
-/
theorem estimates_of_own_prices :
    (∀ {α : Type} [Scalar α] (s : Spec α), s.kind ≠ .macroRegression → ∀ ticks : List (Tick α),
      (∀ instrument fallback,
        ((ofSpec s).observeAll ticks).estimateBase instrument fallback =
          ((ofSpec s).feed instrument (Tick.pricesOf instrument ticks)).estimateBase instrument
            fallback) ∧
      ∀ instrument tag side fallback,
        ((ofSpec s).observeAll ticks).estimateSignal instrument tag side fallback = (do
          let base ← ((ofSpec s).observeAll ticks).estimateBase instrument fallback
          let key ← readSignalKey instrument tag side
          ((ofSpec s).feed instrument (Tick.signalledUnder key ticks)).blendOf instrument base)) ∧
    (∀ s : Spec Extended, s.kind ≠ .macroRegression → ∀ (ticks : List (Tick Extended)) instrument,
      ((ofSpec s).observeAll ticks).sampleCount instrument =
        (Tick.pricesOf instrument ticks).length - 1) ∧
    ∀ n : Nat, div? (n : Extended) ((n : Extended) + 20.0) = .ok (.finite (n / (n + 20))) := by
  refine ⟨fun s hs ticks => ⟨fun instrument fallback => ?_, fun instrument tag side fallback => ?_⟩,
    fun s hs ticks instrument => ?_, weight_eq⟩
  · exact estimateBase_observeAll (factorShare?_ofSpec hs) ticks instrument fallback
  · exact estimateSignal_observeAll (factorShare?_ofSpec hs) ticks instrument tag side fallback
  · obtain ⟨I, hI⟩ := exists_neverFails (Settings.ofSpec s) {}
    rw [ofSpec, sampleCount_observeAll (factorShare?_ofSpec hs)]
    exact Track.count_afterAll hI fun _ => Tick.valid_of_mem_pricesOf

/-- Junk prices and ticks of other keys, with the settings used where none are given. -/
theorem estimates_of_own_prices_ewma :
    let s : Spec Extended := .standard .ewma
    let ticks : List (Tick Extended) :=
      [.price "BTC" 1, .signal "BTC" "breakout" "buy" 1, .price "BTC" .nan, .price "ETH" 2,
        .signal "btc" "Breakout" "BUY" (.infinite true), .price "BTC" 2]
    s.kind ≠ .macroRegression ∧
      (∀ fallback, ((ofSpec s).observeAll ticks).estimateBase "BTC" fallback =
        ((ofSpec s).feed "BTC" (Tick.pricesOf "BTC" ticks)).estimateBase "BTC" fallback) ∧
      ((ofSpec s).observeAll ticks).sampleCount "BTC" =
        (Tick.pricesOf "BTC" ticks).length - 1 := by
  intro s ticks
  have hs : s.kind ≠ .macroRegression := by decide
  exact ⟨hs, (estimates_of_own_prices.1 s hs ticks).1 "BTC",
    estimates_of_own_prices.2.1 s hs ticks "BTC"⟩

end Predictor

end ReturnForecast
