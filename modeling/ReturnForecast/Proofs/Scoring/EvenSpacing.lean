import ReturnForecast.Proofs.Scalar.Double
import ReturnForecast.Proofs.Scoring.RunningAverage

/-!
# Closes without times

Closes that come without times are replayed as bars at multiples of a spacing. The multiples are
computed in the number type, so a clock of doubles can run over, and it can round two bars closer
together than they are. Where it does neither, a replay of the running average scores what the loop
over the closes scores, for every horizon up to the spacing.

* `ClockKeeps` — what is asked of the clock; `clockKeeps_exact`, `clockKeeps_double`
* `evenMetrics_eq_plain` — a replay and the loop agree, with their faults
-/

namespace ReturnForecast

variable {α : Type} [Scalar α]

/-! ## The clock -/

/-- The time of a bar among bars that are evenly spaced. -/
def evenTime (α : Type) [Scalar α] (barMs : Int) (index : Nat) : α := (index : α) * (barMs : α)

/-- The first bars have finite times, and each comes a horizon later than any bar before it. -/
structure ClockKeeps (α : Type) [Scalar α] (barMs horizonMs : Int) (count : Nat) : Prop where
  spacing : Scalar.isFinite (barMs : α) = true
  times : ∀ k < count, Scalar.isFinite (evenTime α barMs k) = true
  apart : ∀ j k, j < k → k < count →
    truncate (evenTime α barMs j) + max horizonMs 0 ≤ truncate (evenTime α barMs k)

theorem ofInt?_of_finite {n : Int} (h : Scalar.isFinite (n : α) = true) :
    (ofInt? n : Except Fault α) = .ok n :=
  if_pos h

theorem ofInt?_of_infinite {n : Int} (h : Scalar.isFinite (n : α) = false) :
    (ofInt? n : Except Fault α) = .error (.numeral .tooLarge) :=
  if_neg (by rw [h]; exact Bool.false_ne_true)

/-- One multiple of the spacing is a spacing later than any before it. -/
theorem add_le_of_multiples {barMs horizonMs : Int} (hbar : 0 ≤ barMs) (hle : horizonMs ≤ barMs)
    {j k : Nat} (hjk : j < k) : j * barMs + horizonMs ≤ k * barMs := by
  have hnext : ((j : Int) + 1) * barMs ≤ k * barMs :=
    mul_le_mul_of_nonneg_right (by exact_mod_cast hjk) hbar
  linarith

/-! ### Exact numbers -/

theorem truncate_finite_intCast {n : Int} (h : 0 ≤ n) : truncate (Extended.finite n) = n := by
  have hnonneg : (0 : ℝ) ≤ n := Int.cast_nonneg h
  have hneg : ¬ Extended.finite n < 0 := fun hlt => not_lt.mpr hnonneg hlt
  rw [truncate, if_neg hneg]
  show ⌊(n : ℝ)⌋ = n
  exact Int.floor_intCast n

theorem truncate_evenTime_exact {barMs : Int} (h : 0 ≤ barMs) (k : Nat) :
    truncate (evenTime Extended barMs k) = k * barMs := by
  have htime : evenTime Extended barMs k = Extended.finite ((k * barMs : Int) : ℝ) := by
    rw [Int.cast_mul, Int.cast_natCast]
    rfl
  rw [htime, truncate_finite_intCast (mul_nonneg (Int.natCast_nonneg k) h)]

/-- A clock that does not round keeps every horizon up to the spacing. -/
theorem clockKeeps_exact {barMs horizonMs : Int} (hpos : 0 ≤ horizonMs) (hle : horizonMs ≤ barMs)
    (count : Nat) : ClockKeeps Extended barMs horizonMs count where
  spacing := rfl
  times _ _ := rfl
  apart j k hjk _ := by
    have hbar := hpos.trans hle
    rw [truncate_evenTime_exact hbar, truncate_evenTime_exact hbar, max_eq_left hpos]
    exact add_le_of_multiples hbar hle hjk

/-! ### Doubles -/

theorem evenTime_double {barMs k : Nat} (hbar : barMs < 2 ^ 53) (hk : k < 2 ^ 53)
    (h : k * barMs < 2 ^ 53) : evenTime Float barMs k = Decimal.toFloat (k * barMs) 0 := by
  show Decimal.toFloat k 0 * intToFloat barMs = _
  rw [Double.intToFloat_natCast, Double.toFloat_mul hk hbar h]

theorem truncate_toFloat {n : Nat} (h : n < 2 ^ 53) : truncate (Decimal.toFloat n 0) = n := by
  rw [truncate, if_neg (Double.not_toFloat_lt_zero h)]
  exact Double.floorInt_toFloat h

/-- A clock of doubles keeps it as long as the times are small. -/
theorem clockKeeps_double {barMs horizonMs : Int} (hpos : 0 ≤ horizonMs) (hle : horizonMs ≤ barMs)
    {count : Nat} (hsmall : (count + 1) * (barMs + 1) ≤ 2 ^ 53) :
    ClockKeeps Float barMs horizonMs count := by
  obtain ⟨barMs, rfl⟩ := Int.eq_ofNat_of_zero_le (hpos.trans hle)
  have hbound : (count + 1) * (barMs + 1) ≤ 2 ^ 53 := by exact_mod_cast hsmall
  have hexpand : (count + 1) * (barMs + 1) = count * barMs + count + barMs + 1 := by ring
  have hbar : barMs < 2 ^ 53 := by omega
  have htime : ∀ k < count, k * barMs < 2 ^ 53 ∧
      evenTime Float barMs k = Decimal.toFloat (k * barMs) 0 := by
    intro k hk
    have hproduct : k * barMs ≤ count * barMs := Nat.mul_le_mul_right barMs hk.le
    exact ⟨by omega, evenTime_double hbar (by omega) (by omega)⟩
  refine ⟨?_, fun k hk => ?_, fun j k hjk hk => ?_⟩
  · show (intToFloat barMs).isFinite = true
    rw [Double.intToFloat_natCast, Double.isFinite_toFloat hbar]
  · obtain ⟨hlt, heq⟩ := htime k hk
    rw [heq]
    exact Double.isFinite_toFloat hlt
  · obtain ⟨hltj, heqj⟩ := htime j (hjk.trans hk)
    obtain ⟨hltk, heqk⟩ := htime k hk
    rw [heqj, heqk, truncate_toFloat hltj, truncate_toFloat hltk, max_eq_left hpos,
      Int.natCast_mul, Int.natCast_mul]
    exact add_le_of_multiples (Int.natCast_nonneg barMs) hle hjk

/-! ## The bars -/

/-- Closes as bars at the multiples of a spacing. -/
def evenBars (barMs : Int) (closes : List α) : List (Bar α) :=
  closes.zipIdx.map fun close => { time := evenTime α barMs close.2, price := close.1 }

section Bars

variable {barMs horizonMs : Int} {closes : List α}

theorem evenly_eq (h : Scalar.isFinite (barMs : α) = true) (closes : List α) :
    Bar.evenly barMs closes = .ok (evenBars barMs closes) := by
  unfold Bar.evenly
  rw [ofInt?_of_finite h]
  rfl

theorem map_price_evenBars (barMs : Int) (closes : List α) :
    (evenBars barMs closes).map (·.price) = closes := by
  unfold evenBars
  rw [List.map_map]
  exact List.zipIdx_map_fst 0 closes

theorem length_evenBars (barMs : Int) (closes : List α) :
    (evenBars barMs closes).length = closes.length := by
  rw [evenBars, List.length_map, List.length_zipIdx]

theorem time_getElem_evenBars {k : Nat} (hk : k < (evenBars barMs closes).length) :
    (evenBars barMs closes)[k].time = evenTime α barMs k := by
  simp only [evenBars, List.getElem_map, List.getElem_zipIdx, Nat.zero_add]

namespace ClockKeeps

variable (h : ClockKeeps α barMs horizonMs closes.length)
include h

theorem isFinite_time : ∀ bar ∈ evenBars barMs closes, Scalar.isFinite bar.time = true := by
  intro bar hbar
  obtain ⟨k, hk, rfl⟩ := List.getElem_of_mem hbar
  rw [time_getElem_evenBars]
  exact h.times k (length_evenBars barMs closes ▸ hk)

theorem pairwise_apart : (evenBars barMs closes).Pairwise (Apart horizonMs) := by
  rw [List.pairwise_iff_getElem]
  intro j k hj hk hjk
  unfold Apart
  rw [time_getElem_evenBars, time_getElem_evenBars]
  exact h.apart j k hjk (length_evenBars barMs closes ▸ hk)

end ClockKeeps

end Bars

/-! ## Both scorings -/

/-- The metrics of one scope after evenly spaced closes were replayed to one predictor. -/
def ReplayPlan.evenMetrics (plan : ReplayPlan) (id label : String) (model : Predictor α)
    (window barMs : Int) (closes : List α) : Except Fault (Metrics α) := do
  let bars ← Bar.evenly barMs closes
  (plan.replay (.fresh window standardR2MinSamples) [(id, model)] bars).map
    (·.metricsOf (plan.key id label))

/-- **The running average is scored alike by a replay and by the loop** where the clock keeps up. -/
theorem evenMetrics_eq_plain (hone : ∀ x : α, x / 1 = x) {plan : ReplayPlan} {label : String}
    {horizonMs : Int} (hhorizons : plan.horizons = [(label, horizonMs)])
    (hplain : plan.normalise = false) (id : String) (c : Ewma.Settings α) (window : Int)
    {barMs : Int} {closes : List α} (hclock : ClockKeeps α barMs horizonMs closes.length) :
    plan.evenMetrics id label (.fresh (.ewma c)) window barMs closes =
      Backfill.plain closes c.alphaMean window := by
  have hscored := metricsOf_replay (c := c) id hhorizons hplain hone hclock.isFinite_time
    hclock.pairwise_apart window
  rw [map_price_evenBars] at hscored
  unfold ReplayPlan.evenMetrics
  rw [evenly_eq hclock.spacing]
  exact hscored

/--
**A replay of one averaging predictor scores the running average,** for every horizon up to the
spacing: over exact numbers always, and with doubles as long as the clock keeps the bars apart,
which it does while the times are small.
-/
theorem replay_scores_running_average :
    (∀ (symbol : String) (market : Market) (id label : String) (c : Ewma.Settings Extended)
      (closes : List Extended) (window barMs horizonMs : Int),
      0 ≤ horizonMs → horizonMs ≤ barMs →
      ReplayPlan.evenMetrics
          { symbol, market, horizons := [(label, horizonMs)], normalise := false } id label
          (.fresh (.ewma c)) window barMs closes =
        Backfill.plain closes c.alphaMean window) ∧
    (∀ (symbol : String) (market : Market) (id label : String) (c : Ewma.Settings Float)
      (closes : List Float) (window barMs horizonMs : Int),
      ClockKeeps Float barMs horizonMs closes.length →
      ReplayPlan.evenMetrics
          { symbol, market, horizons := [(label, horizonMs)], normalise := false } id label
          (.fresh (.ewma c)) window barMs closes =
        Backfill.plain closes c.alphaMean window) ∧
    ∀ (barMs horizonMs : Int) (count : Nat), 0 ≤ horizonMs → horizonMs ≤ barMs →
      (count + 1) * (barMs + 1) ≤ 2 ^ 53 → ClockKeeps Float barMs horizonMs count :=
  ⟨fun _ _ id _ c closes window _ _ hpos hle =>
      evenMetrics_eq_plain Extended.div_one rfl rfl id c window
        (clockKeeps_exact hpos hle closes.length),
    fun _ _ id _ c _ window _ _ hclock =>
      evenMetrics_eq_plain Double.div_one rfl rfl id c window hclock,
    fun _ _ _ hpos hle => clockKeeps_double hpos hle⟩

/-- Closes of which two are junk, bars a minute apart, and a horizon of three quarters of one. -/
theorem replay_scores_running_average_with_junk :
    ClockKeeps Float 60000 45000 5 ∧
    (∀ (c : Ewma.Settings Float), ReplayPlan.evenMetrics
      { symbol := "BTC", market := .spot, horizons := [("45s", 45000)], normalise := false }
        "ewma" "45s" (.fresh (.ewma c)) 2 60000 [1.0, 0.0 / 0.0, 2.0, -1.0, 1.5] =
      Backfill.plain [1.0, 0.0 / 0.0, 2.0, -1.0, 1.5] c.alphaMean 2) ∧
    ∀ (c : Ewma.Settings Extended), ReplayPlan.evenMetrics
      { symbol := "BTC", market := .spot, horizons := [("45s", 45000)], normalise := false }
        "ewma" "45s" (.fresh (.ewma c)) 2 60000 [1, .nan, 2, -1] =
      Backfill.plain [1, .nan, 2, -1] c.alphaMean 2 := by
  obtain ⟨hexact, hdouble, hclock⟩ := replay_scores_running_average
  have hkeeps : ClockKeeps Float 60000 45000 5 := hclock 60000 45000 5 (by decide) (by decide)
    (by decide)
  exact ⟨hkeeps, fun c => hdouble "BTC" .spot "ewma" "45s" c _ 2 60000 45000 hkeeps,
    fun c => hexact "BTC" .spot "ewma" "45s" c _ 2 60000 45000 (by decide) (by decide)⟩

/-- The least power of two above all doubles. -/
def beyondDoubles : Nat := 2 ^ 1024

theorem isFinite_beyondDoubles : Scalar.isFinite ((beyondDoubles : Int) : Float) = false := by
  have hpos : 0 < beyondDoubles := by decide +kernel
  have hdigits : beyondDoubles < 10 ^ 309 := by decide +kernel
  rw [Double.intCast_eq_ofScientific hpos (by decide) (by decide) hdigits]
  decide +kernel

/-- A spacing that no double holds stops a replay, where the loop scores the closes. -/
theorem replay_fails_beyond_doubles :
    (0 : Int) ≤ 0 ∧ (0 : Int) ≤ beyondDoubles ∧
    ReplayPlan.evenMetrics
      { symbol := "REPLAY", market := .spot, horizons := [("h", 0)], normalise := false }
        "ewma" "h" (.fresh (.ewma Ewma.standard)) 1200 beyondDoubles [(1.0 : Float), 2.0] =
      .error (.numeral .tooLarge) ∧
    ∃ m, Backfill.plain [(1.0 : Float), 2.0] (Ewma.standard : Ewma.Settings Float).alphaMean 1200 =
      .ok m := by
  refine ⟨le_rfl, Int.natCast_nonneg _, ?_, ?_⟩
  · unfold ReplayPlan.evenMetrics Bar.evenly
    rw [ofInt?_of_infinite isFinite_beyondDoubles]
    rfl
  · have hvalid : [(1.0 : Float), 2.0].filter isValidPrice = [1.0, 2.0] := by decide +kernel
    have hlog : log? ((2.0 : Float) / 1.0) = .ok (Scalar.log (2.0 / 1.0)) :=
      if_neg (by decide +kernel)
    rw [Standing.plain_eq, hvalid]
    simp only [List.foldlM_cons, Standing.next, Standing.first, hlog]
    exact ⟨_, rfl⟩

end ReturnForecast
