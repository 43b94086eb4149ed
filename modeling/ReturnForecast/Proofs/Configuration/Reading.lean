import ReturnForecast.Configuration
import ReturnForecast.Proofs.Requests

/-!
# How a configuration is read

A mapping makes up a configuration if its keys are those of sections and every section can be read.
Later proofs need no more of the reader than this.

* `Configuration.ReadFrom` — what the sections of a mapping have to be read as
* `Configuration.ofEntries_eq_ok_iff` — a mapping makes up what its sections are read as
* `Configuration.Bounded.of_ofValue` — whatever is read is within its bounds
-/

namespace ReturnForecast

namespace Configuration

/-- A mapping without entries means the same as one that is not given. -/
theorem ofValue_map (entries : List (Value × Value)) :
    ofValue (.map entries) = ofEntries entries := by
  cases entries <;> rfl

/-- The keys of a configuration that are none of a section. -/
def unknownSections (entries : List (Value × Value)) : List Value :=
  Value.unknownKeys entries (Section.all.map Section.key)

/-- The sections of a mapping are read as the parts of a configuration. -/
structure ReadFrom (entries : List (Value × Value)) (c : Configuration) : Prop where
  known : unknownSections entries = []
  predictors : readPredictors (sectionOf entries .predictors) = .ok c.predictors
  horizons : readHorizons (sectionOf entries .horizons) = .ok c.horizons
  expectancy : ∃ fields lookback, entriesOf (sectionOf entries .expectancy) = .ok fields ∧
    integerEntry fields lookbackKey standardLookback .badLookback = .ok lookback ∧
    Expectancy.Settings.ofEntries (Value.dropEntry fields lookbackKey) = .ok c.expectancy ∧
    c.lookback = max lookback 1
  metrics : MetricsSettings.ofValue (sectionOf entries .metrics) = .ok c.metrics

/-- **A mapping makes up the configuration** that its sections are read as. -/
theorem ofEntries_eq_ok_iff {entries : List (Value × Value)} {c : Configuration} :
    ofEntries entries = .ok c ↔ ReadFrom entries c := by
  constructor
  · intro h
    by_cases hknown : (Value.unknownKeys entries (Section.all.map Section.key)).isEmpty = true
    · simp only [ofEntries, hknown, if_true] at h
      obtain ⟨predictors, hpredictors, h⟩ := bind_eq_ok h
      obtain ⟨horizons, hhorizons, h⟩ := bind_eq_ok h
      obtain ⟨fields, hfields, h⟩ := bind_eq_ok h
      obtain ⟨lookback, hlookback, h⟩ := bind_eq_ok h
      obtain ⟨expectancy, hexpectancy, h⟩ := bind_eq_ok h
      obtain ⟨metrics, hmetrics, h⟩ := bind_eq_ok h
      cases Except.ok.inj h
      exact ⟨List.isEmpty_iff.mp hknown, hpredictors, hhorizons,
        ⟨fields, lookback, hfields, hlookback, hexpectancy, rfl⟩, hmetrics⟩
    · simp only [ofEntries, hknown] at h
      cases h
  · rintro ⟨hknown, hpredictors, hhorizons, ⟨fields, lookback, hfields, hlookback, hexpectancy,
      hmax⟩, hmetrics⟩
    have hempty : (Value.unknownKeys entries (Section.all.map Section.key)).isEmpty = true :=
      List.isEmpty_iff.mpr hknown
    simp only [ofEntries, hempty, if_true, hpredictors, hhorizons, hfields, hlookback, hexpectancy,
      hmetrics, bind, Except.bind, ← hmax]
    rfl

/-- A configuration is read from the entries of a mapping, or from none. -/
theorem exists_readFrom {value : Value} {c : Configuration} (h : ofValue value = .ok c) :
    ∃ entries, ReadFrom entries c := by
  unfold ofValue at h
  split at h
  · exact ⟨[], ofEntries_eq_ok_iff.mp h⟩
  · split at h
    · exact ⟨_, ofEntries_eq_ok_iff.mp h⟩
    · cases h

/-! ## Sections -/

/-- The ids of a section are the texts of its keys. -/
theorem ids_of_readPredictors {rows : List (Value × Value)}
    {predictors : List (String × Spec Float)}
    (h : readPredictors (.map rows) = .ok predictors) :
    predictors.map (·.1) = rows.map (·.1.toText) := by
  refine map_eq_of_mapM (fun row predictor hrow => ?_) h
  obtain ⟨id, hid, hrow⟩ := bind_eq_ok hrow
  obtain ⟨spec, -, hrow⟩ := bind_eq_ok hrow
  rw [← Except.ok.inj hrow]
  exact Value.eq_toText_of_written (eq_ok_of_mapError hid)

theorem pos_of_readHorizons {value : Value} {horizons : List (String × Int)}
    (h : readHorizons value = .ok horizons) : ∀ horizon ∈ horizons, 0 < horizon.2 := by
  unfold readHorizons at h
  split at h
  · cases h
    decide
  · obtain ⟨read, -, h⟩ := bind_eq_ok h
    split at h
    · next hall =>
      cases Except.ok.inj h
      exact fun horizon hmem => of_decide_eq_true (List.all_eq_true.mp hall horizon hmem)
    · cases h
  · cases h

end Configuration

/-- Settings of the metrics are put in their bounds. -/
theorem MetricsSettings.bounded_of_ofValue {value : Value} {s : MetricsSettings}
    (h : ofValue value = .ok s) : ∃ window r2MinSamples, s = bounded window r2MinSamples := by
  have hentries : ∀ {entries}, ofEntries entries = .ok s →
      ∃ window r2MinSamples, s = bounded window r2MinSamples := by
    intro entries h
    obtain ⟨window, -, h⟩ := bind_eq_ok h
    obtain ⟨r2MinSamples, -, h⟩ := bind_eq_ok h
    exact ⟨window, r2MinSamples, (Except.ok.inj h).symm⟩
  unfold ofValue at h
  split at h
  · exact hentries h
  · split at h
    · exact hentries h
    · cases h

namespace Configuration

/-- A configuration whose numbers are within the bounds that a reader puts them in. -/
structure Bounded (c : Configuration) : Prop where
  horizons : ∀ horizon ∈ c.horizons, 0 < horizon.2
  lookback : 1 ≤ c.lookback
  window : 2 ≤ c.metrics.window ∧ c.metrics.window ≤ largestWindow
  r2MinSamples : 1 ≤ c.metrics.r2MinSamples

/-- **Whatever is read is within its bounds.** -/
theorem Bounded.of_ofValue {value : Value} {c : Configuration} (h : ofValue value = .ok c) :
    c.Bounded := by
  obtain ⟨entries, hread⟩ := exists_readFrom h
  obtain ⟨fields, lookback, -, -, -, hlookback⟩ := hread.expectancy
  obtain ⟨window, r2MinSamples, hmetrics⟩ := MetricsSettings.bounded_of_ofValue hread.metrics
  refine ⟨pos_of_readHorizons hread.horizons, ?_, ?_, ?_⟩
  · omega
  · rw [hmetrics]
    simp only [MetricsSettings.bounded, largestWindow]
    omega
  · rw [hmetrics]
    simp only [MetricsSettings.bounded]
    omega

end Configuration

end ReturnForecast
