import ReturnForecast.Proofs.Scalar.Averages
import ReturnForecast.Proofs.Scalar.DoubleOrder
import ReturnForecast.Proofs.Predictor.Invariants

/-!
# The sigma floor

Whatever a forecaster gives as sigma, NaN and infinities included, is raised to the floor before it
leaves a predictor. Pulling a signal's own forecast toward that of its instrument does not lead out
of the range between the two, so there the floor has nothing left to do.

* `floored_of_estimateBase` / `floored_of_estimateSignal` — every sigma is a floored one
* `estimateSignal_between` — where the estimate of a signal lies
* `estimates_above_floor` — both, after every run of ticks
-/

namespace ReturnForecast

/-! ## Floors -/

section Floors

variable {α σ : Type} [Scalar α]

/-- An estimate whose sigma has been raised to a floor. -/
def Estimate.IsFloored (e : Estimate α) (least : α) : Prop :=
  ∃ sigma, e.sigma = floorSigma sigma least

theorem Track.floored_of_estimate {f : Forecaster α σ} {least : α} {t : Track α σ}
    {fallback e : Estimate α} (h : t.estimate f least fallback = .ok e) : e.IsFloored least := by
  obtain ⟨raw, -, rfl⟩ := map_eq_ok h
  exact ⟨raw.sigma, rfl⟩

namespace Predictor

variable {p : Predictor α} {fallback e : Estimate α} {instrument tag side : String}

/-- The estimate of the track under a signal key alone. -/
def estimateOwn (p : Predictor α) (key : String) (base : Estimate α) :
    Except Fault (Estimate α) :=
  (trackOf p.scopes.signals key).estimate p.forecaster p.minSigma base

theorem floored_of_estimateBase (h : p.estimateBase instrument fallback = .ok e) :
    e.IsFloored p.minSigma := by
  rw [estimateBase, Scopes.estimateBase_eq] at h
  exact Track.floored_of_estimate h

/--
The estimate of a signal is that of its instrument while there is no return under its key, and then
the mixture of this one with its own, by their weights.
-/
theorem estimateSignal_cases (h : p.estimateSignal instrument tag side fallback = .ok e) :
    ∃ base key, p.estimateBase instrument fallback = .ok base ∧
      readSignalKey instrument tag side = .ok key ∧
      ((trackOf p.scopes.signals key).count = 0 ∧ e = base ∨
        ∃ own w, p.estimateOwn key base = .ok own ∧
          shrinkWeight? ((trackOf p.scopes.signals key).count : α) signalShrinkCount = .ok w ∧
          e = (own.pulledTo w base).floored p.minSigma) := by
  obtain ⟨base, hbase, h⟩ := bind_eq_ok h
  obtain ⟨key, hkey, h⟩ := bind_eq_ok h
  rw [Scopes.estimateSignal_eq] at h
  refine ⟨base, key, hbase, hkey, ?_⟩
  split at h
  · next hcount => exact .inl ⟨hcount, (Except.ok.inj h).symm⟩
  · obtain ⟨own, hown, h⟩ := bind_eq_ok h
    obtain ⟨w, hw, h⟩ := bind_eq_ok h
    exact .inr ⟨own, w, hown, hw, (Except.ok.inj h).symm⟩

theorem floored_of_estimateSignal (h : p.estimateSignal instrument tag side fallback = .ok e) :
    e.IsFloored p.minSigma := by
  obtain ⟨base, key, hbase, -, ⟨-, rfl⟩ | ⟨own, w, -, -, rfl⟩⟩ := estimateSignal_cases h
  · exact floored_of_estimateBase hbase
  · exact ⟨_, rfl⟩

end Predictor

end Floors

/-! ## Tracks without a return -/

/-- There is a fit only once there has been a return. -/
def Track.Counted {α σ : Type} (t : Track α σ) : Prop := ∀ fit, t.fit = some fit → 0 < fit.count

section Counted

variable {α σ : Type} [Scalar α]

theorem Track.Counted.estimate_of_count_eq_zero {t : Track α σ} (ht : t.Counted) (h : t.count = 0)
    (f : Forecaster α σ) (least : α) (fallback : Estimate α) :
    t.estimate f least fallback = .ok (fallback.floored least) := by
  have hfit : t.fit = none := by
    cases hfit : t.fit with
    | none => rfl
    | some fit =>
      rw [count, hfit] at h
      exact absurd h (ht fit hfit).ne'
  rw [estimate, forecast, hfit]
  rfl

namespace Predictor

theorem invariant_counted (c : Settings α) : Invariant c Track.Counted fun _ => True where
  empty := fun fit h => nomatch h
  silent := trivial
  hear _ _ _ := trivial
  learn := by
    intro factors t price _ ht _ fit hfit
    rcases Track.after_cases (c.forecaster factors) t price with h | h | ⟨r, next, -, hlearn, h⟩
    · rw [h] at hfit
      exact ht fit hfit
    · rw [h] at hfit
      exact ht fit hfit
    · rw [h] at hfit
      cases hfit
      exact Forecaster.count_pos_of_learn hlearn

theorem counted_observeAll (c : Settings α) (ticks : List (Tick α)) (key : String) :
    (trackOf ((fresh c).observeAll ticks).scopes.signals key).Counted := by
  have hrun := (invariant_counted c).run ticks
  generalize (fresh c).observeAll ticks = p at hrun ⊢
  obtain ⟨hs, -⟩ := hrun
  exact hs (.signal key)

end Predictor

end Counted

/-! ## Mixtures -/

theorem floorSigma_eq_max (sigma least : ℝ) : floorSigma sigma least = max sigma least := by
  unfold floorSigma
  rw [if_pos (by rfl), larger_eq_max]

/-- The weight of any number of returns is in the unit interval. -/
theorem shrinkWeight_mem {n : Nat} {w : ℝ}
    (h : shrinkWeight? (n : ℝ) signalShrinkCount = .ok w) : w ∈ Set.Icc 0 1 := by
  have hpos : (0 : ℝ) < signalShrinkCount := by norm_num [signalShrinkCount]
  rw [shrinkWeight?_of_pos n hpos] at h
  cases h
  exact sampleShare_mem n hpos

theorem blend_mem {w : ℝ} (hw : w ∈ Set.Icc 0 1) (own base : ℝ) :
    blend w own base ∈ Set.uIcc base own :=
  mixture_mem hw Set.right_mem_uIcc Set.left_mem_uIcc

theorem Estimate.IsFloored.le {e : Estimate ℝ} {least : ℝ} (h : e.IsFloored least) :
    least ≤ e.sigma := by
  obtain ⟨sigma, hsigma⟩ := h
  rw [hsigma, floorSigma_eq_max]
  exact le_max_right sigma least

/-- A mixture of two floored estimates is above the floor already. -/
theorem Estimate.pulledTo_between {own base : Estimate ℝ} {least w : ℝ} (hw : w ∈ Set.Icc 0 1)
    (hown : own.IsFloored least) (hbase : base.IsFloored least) :
    ((own.pulledTo w base).floored least).mu ∈ Set.uIcc base.mu own.mu ∧
      ((own.pulledTo w base).floored least).sigma ∈ Set.uIcc base.sigma own.sigma := by
  have hsigma := blend_mem hw own.sigma base.sigma
  have hleast : least ≤ blend w own.sigma base.sigma := (le_min hbase.le hown.le).trans hsigma.1
  refine ⟨blend_mem hw own.mu base.mu, ?_⟩
  show floorSigma (blend w own.sigma base.sigma) least ∈ Set.uIcc base.sigma own.sigma
  rw [floorSigma_eq_max, max_eq_left hleast]
  exact hsigma

namespace Predictor

/--
**The estimate of a signal lies between** that of its instrument and that of its own track, which
falls back on the former.
-/
theorem estimateSignal_between {c : Settings ℝ} (ticks : List (Tick ℝ))
    {instrument tag side : String} {fallback e : Estimate ℝ}
    (h : ((fresh c).observeAll ticks).estimateSignal instrument tag side fallback = .ok e) :
    ∃ base key own, ((fresh c).observeAll ticks).estimateBase instrument fallback = .ok base ∧
      readSignalKey instrument tag side = .ok key ∧
      ((fresh c).observeAll ticks).estimateOwn key base = .ok own ∧
      e.mu ∈ Set.uIcc base.mu own.mu ∧ e.sigma ∈ Set.uIcc base.sigma own.sigma := by
  obtain ⟨base, key, hbase, hkey, hcases⟩ := estimateSignal_cases h
  have hfloored := floored_of_estimateBase hbase
  rcases hcases with ⟨hcount, rfl⟩ | ⟨own, w, hown, hw, rfl⟩
  · -- No return yet: the own estimate falls back on that of the instrument.
    have hown := (counted_observeAll c ticks key).estimate_of_count_eq_zero hcount
    exact ⟨e, key, _, hbase, hkey, hown _ _ e, Set.left_mem_uIcc, Set.left_mem_uIcc⟩
  · exact ⟨base, key, own, hbase, hkey, hown,
      Estimate.pulledTo_between (shrinkWeight_mem hw) (Track.floored_of_estimate hown) hfloored⟩

theorem minSigma_observeAll {α : Type} [Scalar α] (s : Spec α) (ticks : List (Tick α)) :
    ((ofSpec s).observeAll ticks).minSigma = s.minSigma := by
  rw [minSigma, settings_observeAll]
  exact Settings.minSigma_ofSpec s

/--
**Estimates keep the sigma floor.** On doubles, after any run of ticks and with any fallback, every
sigma is finite and at least the floor. Over exact reals the estimate of a signal lies between that
of its instrument and that of its own track, which falls back on the former.
-/
theorem estimates_above_floor :
    (∀ s : Spec Float, s.minSigma.isFinite = true → ∀ (ticks : List (Tick Float)) fallback e,
      (∀ instrument, ((ofSpec s).observeAll ticks).estimateBase instrument fallback = .ok e →
        e.sigma.isFinite = true ∧ s.minSigma ≤ e.sigma) ∧
      ∀ instrument tag side,
        ((ofSpec s).observeAll ticks).estimateSignal instrument tag side fallback = .ok e →
          e.sigma.isFinite = true ∧ s.minSigma ≤ e.sigma) ∧
    ∀ (s : Spec ℝ) (ticks : List (Tick ℝ)) instrument tag side fallback e,
      ((ofSpec s).observeAll ticks).estimateSignal instrument tag side fallback = .ok e →
      ∃ base key own, ((ofSpec s).observeAll ticks).estimateBase instrument fallback = .ok base ∧
        readSignalKey instrument tag side = .ok key ∧
        ((ofSpec s).observeAll ticks).estimateOwn key base = .ok own ∧
        e.mu ∈ Set.uIcc base.mu own.mu ∧ e.sigma ∈ Set.uIcc base.sigma own.sigma := by
  refine ⟨fun s hs ticks fallback e => ?_, fun s ticks instrument tag side fallback e h =>
    estimateSignal_between ticks h⟩
  have hfloor : e.IsFloored s.minSigma → e.sigma.isFinite = true ∧ s.minSigma ≤ e.sigma := by
    rintro ⟨sigma, hsigma⟩
    rw [hsigma]
    exact Double.floorSigma_finite_ge sigma hs
  rw [← minSigma_observeAll s ticks] at hfloor ⊢
  exact ⟨fun instrument h => hfloor (floored_of_estimateBase h),
    fun instrument tag side h => hfloor (floored_of_estimateSignal h)⟩

/-- Moving averages always have an estimate of an instrument. -/
theorem exists_estimateBase_ewma {α : Type} [Scalar α] {p : Predictor α} {c : Ewma.Settings α}
    (hp : p.settings = .ewma c) (instrument : String) (fallback : Estimate α) :
    ∃ e, p.estimateBase instrument fallback = .ok e := by
  obtain ⟨settings, scopes, factors⟩ := p
  cases hp
  rw [estimateBase, Scopes.estimateBase_eq]
  unfold Track.estimate Track.forecast
  cases (trackOf scopes.base instrument).fit with
  | none => exact ⟨_, rfl⟩
  | some fit => exact ⟨_, rfl⟩

/-- Over reals they have one of a signal as well. -/
theorem exists_estimateSignal_ewma {p : Predictor ℝ} {c : Ewma.Settings ℝ}
    (hp : p.settings = .ewma c) {instrument tag side key : String}
    (hkey : readSignalKey instrument tag side = .ok key) (fallback : Estimate ℝ) :
    ∃ e, p.estimateSignal instrument tag side fallback = .ok e := by
  obtain ⟨base, hbase⟩ := exists_estimateBase_ewma hp instrument fallback
  obtain ⟨settings, scopes, factors⟩ := p
  cases hp
  have hpos : (0 : ℝ) < (trackOf scopes.signals key).count + signalShrinkCount := by
    unfold signalShrinkCount
    positivity
  rw [estimateSignal, hbase, hkey]
  simp only [bind, Except.bind, Scopes.estimateSignal_eq, shrinkWeight?, div?_of_pos hpos]
  unfold Track.estimate Track.forecast
  split
  · exact ⟨_, rfl⟩
  · cases (trackOf scopes.signals key).fit with
    | none => exact ⟨_, rfl⟩
    | some fit => exact ⟨_, rfl⟩

/-- Junk prices and a junk fallback on doubles, and one return of a signal over reals. -/
theorem estimates_above_floor_ewma :
    let s : Spec Float := .standard .ewma
    let p := (ofSpec s).observeAll [.price "BTC" 100.0, .price "BTC" (0.0 / 0.0),
      .price "BTC" 101.0, .price "BTC" (-5.0), .price "BTC" (1.0 / 0.0)]
    let q := (ofSpec (.standard .ewma : Spec ℝ)).observeAll [.price "BTC" 100,
      .signal "BTC" "breakout" "buy" 100, .price "BTC" 101, .signal "BTC" "breakout" "buy" 103]
    (s.minSigma.isFinite = true ∧
      ∃ e, p.estimateBase "BTC" { mu := 0.0 / 0.0, sigma := -1.0 } = .ok e ∧
        e.sigma.isFinite = true ∧ s.minSigma ≤ e.sigma) ∧
    ∃ e base key own, q.estimateSignal "BTC" "breakout" "buy" { mu := 0, sigma := 0 } = .ok e ∧
      q.estimateOwn key base = .ok own ∧
      e.mu ∈ Set.uIcc base.mu own.mu ∧ e.sigma ∈ Set.uIcc base.sigma own.sigma := by
  intro s p q
  have hs : s.minSigma.isFinite = true := by decide +kernel
  have hside : Text.lower (Text.trim "buy") = Side.buy.name := by decide +kernel
  obtain ⟨e, he⟩ := exists_estimateBase_ewma (p := p) (settings_observeAll _ _) "BTC"
    { mu := 0.0 / 0.0, sigma := -1.0 }
  obtain ⟨e', he'⟩ := exists_estimateSignal_ewma (p := q) (settings_observeAll _ _)
    (readSignalKey_of_named hside "BTC" "breakout") { mu := 0, sigma := 0 }
  obtain ⟨base, key, own, -, -, hown, hmu, hsigma⟩ :=
    estimates_above_floor.2 _ _ "BTC" "breakout" "buy" _ e' he'
  exact ⟨⟨hs, e, he, (estimates_above_floor.1 s hs _ _ e).1 "BTC" he⟩,
    e', base, key, own, he', hown, hmu, hsigma⟩

end Predictor

end ReturnForecast
