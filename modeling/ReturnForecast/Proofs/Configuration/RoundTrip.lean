import ReturnForecast.Proofs.Configuration.Entries
import ReturnForecast.Proofs.Configuration.Reading

/-!
# Written configurations are read back

What is written as an untyped value is read back as it was: rows of numbers, the settings of the
estimator, and whole configurations within their bounds. The sections are written under their keys,
the fields under their names, so each reader finds its own and nothing else. The lookback stands in
the section of the estimator, and is taken out of it before the fields are read.

* `Spec.ofValue_toValue`, `Expectancy.Settings.ofEntries_written` — rows and settings
* `Configuration.ofValue_toValue` — configurations within their bounds
* `configuration_round_trip` — all of them, and that no two written entries share a key
-/

namespace ReturnForecast

/-! ## Specifications -/

namespace Spec

theorem Field.mem_all (f : Field) : f ∈ Field.all := by cases f <;> decide

theorem Field.name_ne_kindKey (f : Field) : f.name ≠ kindKey := by cases f <;> decide

theorem fieldOf?_name (f : Field) : fieldOf? (.text f.name) = some f := by cases f <;> decide

/-- A row is its kind and its seven numbers. -/
theorem eq_of_get {α : Type} {s t : Spec α} (hkind : s.kind = t.kind)
    (h : ∀ f, s.get f = t.get f) : s = t := by
  obtain ⟨kind, a, b, c, d, e, p, m⟩ := s
  obtain ⟨kind', a', b', c', d', e', p', m'⟩ := t
  obtain rfl : kind = kind' := hkind
  obtain rfl : a = a' := h .alphaMean
  obtain rfl : b = b' := h .alphaVar
  obtain rfl : c = c' := h .minSigma
  obtain rfl : d = d' := h .phiClip
  obtain rfl : e = e' := h .betaTrend
  obtain rfl : p = p' := h .processVar
  obtain rfl : m = m' := h .measureVar
  rfl

theorem kind_set {α : Type} (s : Spec α) (f : Field) (x : α) : (s.set f x).kind = s.kind := by
  cases f <;> rfl

/-- Written numbers replace those of a row. -/
theorem readFields_written (s : Spec Float) : ∀ (fields : List Field) (t : Spec Float),
    ∃ u, readFields t (fields.map fun f => (.text f.name, .real (s.get f))) = .ok u ∧
      u.kind = t.kind ∧ ∀ f, u.get f = if f ∈ fields then s.get f else t.get f
  | [], t => ⟨t, rfl, rfl, fun f => by rw [if_neg List.not_mem_nil]⟩
  | g :: fields, t => by
    obtain ⟨u, hu, hkind, hget⟩ := readFields_written s fields (t.set g (s.get g))
    refine ⟨u, ?_, hkind.trans (kind_set t g _), fun f => ?_⟩
    · rw [List.map_cons, readFields]
      simp only [Value.toFloat, fieldOf?_name]
      exact hu
    · rw [hget, get_set]
      -- a later number of the same field is the same number
      by_cases hg : g = f
      · subst hg
        simp
      · simp [hg, Ne.symm hg]

/-- All written numbers together are the row, but for its kind. -/
theorem readFields_all {s t : Spec Float} (h : t.kind = s.kind) :
    readFields t (Field.all.map fun f => (.text f.name, .real (s.get f))) = .ok s := by
  obtain ⟨u, hu, hkind, hget⟩ := readFields_written s Field.all t
  rw [hu, eq_of_get (hkind.trans h) fun f => by rw [hget, if_pos f.mem_all]]

end Spec

theorem Kind.read_name (kind : Kind) : Kind.read kind.name = .ok kind := by
  have hname : Text.lower (Text.trim kind.name) = kind.name := by cases kind <;> decide +kernel
  simp only [read, hname, ofName?_name]

/-- **A written row is read back.** -/
theorem Spec.ofValue_toValue (s : Spec Float) : ofValue s.toValue = .ok s := by
  have hentry : Value.entry? ((.text kindKey, .text s.kind.name) ::
      Field.all.map fun field => (.text field.name, .real (s.get field))) kindKey =
        some (.text s.kind.name) := by
    rw [Value.entry?, List.find?_cons_of_pos (by simp)]
    rfl
  have hrest : Value.dropEntry ((.text kindKey, .text s.kind.name) ::
      Field.all.map fun field => (.text field.name, .real (s.get field))) kindKey =
        Field.all.map fun field => (.text field.name, .real (s.get field)) := by
    rw [Value.dropEntry, List.filter_cons_of_neg (by simp)]
    exact Value.dropEntry_named (fun f => .real (s.get f)) fun f _ => f.name_ne_kindKey
  have hknown : Value.unknownKeys (Field.all.map fun f => (.text f.name, .real (s.get f)))
      (Field.all.map Field.name) = [] := Value.unknownKeys_named _ fun _ h => h
  rw [toValue, ofValue]
  simp only [hentry, hrest, Value.written_text, mapError_ok, bind, Except.bind, Kind.read_name,
    hknown, List.isEmpty_nil, if_true]
  exact readFields_all rfl

/-! ## Settings of the estimator -/

namespace Expectancy.Settings

theorem Field.mem_all (f : Field) : f ∈ Field.all := by cases f <;> decide

theorem Field.name_ne_lookbackKey (f : Field) : f.name ≠ Configuration.lookbackKey := by
  cases f <;> decide

theorem fieldOf?_name (f : Field) : fieldOf? (.text f.name) = some f := by cases f <;> decide

/-- Settings are their fields. -/
theorem eq_of_get {s t : Settings Float} (h : ∀ f, s.get f = t.get f) : s = t := by
  obtain ⟨a, b, ta, tb, r, k, l, n, g, p, v, w⟩ := s
  obtain ⟨a', b', ta', tb', r', k', l', n', g', p', v', w'⟩ := t
  obtain rfl : a = a' := Value.real.inj (h .priorA)
  obtain rfl : b = b' := Value.real.inj (h .priorB)
  obtain rfl : ta = ta' := Value.real.inj (h .tailPriorA)
  obtain rfl : tb = tb' := Value.real.inj (h .tailPriorB)
  obtain rfl : r = r' := Value.real.inj (h .recencyRate)
  obtain rfl : k = k' := Value.real.inj (h .shrinkCount)
  obtain rfl : l = l' := Value.real.inj (h .lossThreshold)
  obtain rfl : n = n' := Value.int.inj (h .timeoutMs)
  obtain rfl : g = g' := Value.real.inj (h .tailPenalty)
  obtain rfl : p = p' := Value.real.inj (h .feePenalty)
  obtain rfl : v = v' := Value.text.inj (h .probabilityVersion)
  obtain rfl : w = w' := Value.text.inj (h .version)
  rfl

/-- A written value replaces that of its field. -/
theorem read_get (s t : Settings Float) (f : Field) : ∃ u, t.read f (s.get f) = .ok u ∧
    ∀ g, u.get g = if g = f then s.get g else t.get g := by
  cases f <;> exact ⟨_, rfl, fun g => by cases g <;> rfl⟩

theorem readFields_written (s : Settings Float) : ∀ (fields : List Field) (t : Settings Float),
    ∃ u, readFields t (fields.map fun f => (.text f.name, s.get f)) = .ok u ∧
      ∀ f, u.get f = if f ∈ fields then s.get f else t.get f
  | [], t => ⟨t, rfl, fun f => by rw [if_neg List.not_mem_nil]⟩
  | g :: fields, t => by
    obtain ⟨next, hnext, hgot⟩ := read_get s t g
    obtain ⟨u, hu, hget⟩ := readFields_written s fields next
    refine ⟨u, ?_, fun f => ?_⟩
    · rw [List.map_cons, readFields]
      simp only [fieldOf?_name, hnext]
      exact hu
    · rw [hget, hgot]
      by_cases hf : f = g
      · subst hf
        simp
      · simp [hf]

/-- **Written settings are read back.** -/
theorem ofEntries_written (s : Settings Float) :
    ofEntries (Field.all.map fun f => (.text f.name, s.get f)) = .ok s := by
  obtain ⟨u, hu, hget⟩ := readFields_written s Field.all standard
  have hknown : Value.unknownKeys (Field.all.map fun f => (.text f.name, s.get f))
      (Field.all.map Field.name) = [] := Value.unknownKeys_named _ fun _ h => h
  rw [ofEntries, hknown]
  exact hu.trans (congrArg _ (eq_of_get fun f => by rw [hget, if_pos f.mem_all]))

theorem ofValue_toValue (s : Settings Float) : ofValue s.toValue = .ok s :=
  ofEntries_written s

end Expectancy.Settings

/-! ## Settings of the metrics -/

namespace MetricsSettings

theorem bounded_eq_self {s : MetricsSettings} (hwindow : 2 ≤ s.window ∧ s.window ≤ largestWindow)
    (hsamples : 1 ≤ s.r2MinSamples) : bounded s.window s.r2MinSamples = s := by
  rw [bounded, Int.max_eq_left hwindow.1, Int.min_eq_left hwindow.2, Int.max_eq_left hsamples]

/-- Settings in their bounds are read back. -/
theorem ofValue_toValue {s : MetricsSettings}
    (hwindow : 2 ≤ s.window ∧ s.window ≤ largestWindow) (hsamples : 1 ≤ s.r2MinSamples) :
    ofValue s.toValue = .ok s := by
  have hbounded := bounded_eq_self hwindow hsamples
  show (do
    let window ← integerEntry _ windowKey standardWindow .badMetrics
    let r2MinSamples ← integerEntry _ r2Key standardR2MinSamples .badMetrics
    return bounded window r2MinSamples) = _
  have hfirst : Value.entry? [(.text windowKey, .int s.window), (.text r2Key, .int s.r2MinSamples)]
    windowKey = some (.int s.window) := rfl
  have hsecond : Value.entry? [(.text windowKey, .int s.window), (.text r2Key, .int s.r2MinSamples)]
    r2Key = some (.int s.r2MinSamples) := rfl
  simp only [integerEntry, hfirst, hsecond]
  exact congrArg Except.ok hbounded

end MetricsSettings

/-! ## Sections -/

namespace Configuration

theorem integerEntry_int {entries : List (Value × Value)} {key : String} {n : Int}
    (h : Value.entry? entries key = some (.int n)) (standard : Int)
    (report : NumeralFault → ConfigFault) : integerEntry entries key standard report = .ok n := by
  rw [integerEntry, h]
  rfl

theorem Section.eq_of_key : ∀ a b : Section, a.key = b.key → a = b := by
  intro a b
  cases a <;> cases b <;> decide

theorem Section.mem_all (part : Section) : part ∈ Section.all := by cases part <;> decide

/-- The value of a section of a written configuration. -/
def sectionValue (c : Configuration) : Section → Value
  | .predictors => c.predictorsValue
  | .horizons => c.horizonsValue
  | .expectancy => c.expectancyValue
  | .metrics => c.metrics.toValue

theorem toValue_eq (c : Configuration) :
    c.toValue = .map (Section.all.map fun part => (.text part.key, c.sectionValue part)) := rfl

theorem sectionOf_written (c : Configuration) (part : Section) :
    sectionOf (Section.all.map fun part => (.text part.key, c.sectionValue part)) part =
      c.sectionValue part := by
  rw [sectionOf, Value.entry?_named c.sectionValue Section.eq_of_key part.mem_all,
    Option.getD_some]

theorem readPredictor_written (id : String) (s : Spec Float) :
    readPredictor (.text id, s.toValue) = .ok (id, s) := by
  simp only [readPredictor, Value.written_text, mapError_ok, bind, Except.bind,
    Spec.ofValue_toValue]
  rfl

theorem readPredictors_written (c : Configuration) :
    readPredictors c.predictorsValue = .ok c.predictors :=
  mapM_map_of_written (fun row => readPredictor_written row.1 row.2) c.predictors

theorem readHorizons_written {c : Configuration} (h : ∀ horizon ∈ c.horizons, 0 < horizon.2) :
    readHorizons c.horizonsValue = .ok c.horizons := by
  have hread : (c.horizons.map fun horizon => (Value.text horizon.1, Value.int horizon.2)).mapM
      readHorizon = .ok c.horizons := by
    refine mapM_map_of_written (fun _ => ?_) c.horizons
    rfl
  have hpositive : (c.horizons.all fun horizon => decide (0 < horizon.2)) = true :=
    List.all_eq_true.mpr fun horizon hmem => decide_eq_true (h horizon hmem)
  show (List.mapM readHorizon _ >>= fun horizons =>
      if horizons.all fun horizon => decide (0 < horizon.2) then pure horizons
      else throw (.config .nonPositiveHorizon)) = _
  rw [hread]
  show (if _ then _ else _) = _
  rw [hpositive]
  rfl

/-! ## Whole configurations -/

/-- **A written configuration is read back.** -/
theorem ofValue_toValue {c : Configuration} (h : c.Bounded) : ofValue c.toValue = .ok c := by
  -- The section of the estimator is its fields, and the lookback after them.
  let fields : List (Value × Value) :=
    Expectancy.Settings.Field.all.map fun f => (.text f.name, c.expectancy.get f)
  have hentries : entriesOf c.expectancyValue =
      .ok (fields ++ [(.text lookbackKey, .int c.lookback)]) := rfl
  have hlast : Value.entry? (fields ++ [(.text lookbackKey, .int c.lookback)]) lookbackKey =
      some (.int c.lookback) :=
    Value.entry?_named_concat c.expectancy.get (fun f _ => f.name_ne_lookbackKey) (.int c.lookback)
  have hfields : Value.dropEntry (fields ++ [(.text lookbackKey, .int c.lookback)]) lookbackKey =
      fields :=
    Value.dropEntry_named_concat c.expectancy.get (fun f _ => f.name_ne_lookbackKey)
      (.int c.lookback)
  rw [toValue_eq, ofValue_map, ofEntries_eq_ok_iff]
  constructor
  case known => exact Value.unknownKeys_named c.sectionValue fun _ h => h
  case predictors =>
    rw [sectionOf_written]
    exact readPredictors_written c
  case horizons =>
    rw [sectionOf_written]
    exact readHorizons_written h.horizons
  case expectancy =>
    refine ⟨_, c.lookback, (congrArg entriesOf (c.sectionOf_written .expectancy)).trans hentries,
      integerEntry_int hlast _ _, ?_, (Int.max_eq_left h.lookback).symm⟩
    rw [hfields]
    exact c.expectancy.ofEntries_written
  case metrics =>
    rw [sectionOf_written]
    exact MetricsSettings.ofValue_toValue h.window h.r2MinSamples

/-- No two entries of a written section of rows share a key. -/
theorem ofEntries_rows {β : Type} {rows : List (String × β)} (h : (rows.map (·.1)).Nodup)
    (write : β → Value) :
    Value.ofEntries (rows.map fun row => (.text row.1, write row.2)) =
      .map (rows.map fun row => (.text row.1, write row.2)) :=
  Value.ofEntries_map_text Prod.fst (fun row => write row.2) h

end Configuration

/--
**Configurations, rows and settings come back from their written form.** Let the ids of a
configuration differ, and the labels of its horizons. If its numbers are within their bounds, its
rows make up mappings without two entries of one key, in their order, and reading the whole gives
the configuration. Whatever has been read is within the bounds, and so comes back. A row, and the
settings of the estimator, come back in any case.
-/
theorem configuration_round_trip :
    (∀ c : Configuration, c.ids.Nodup → (c.horizons.map (·.1)).Nodup →
      (∀ horizon ∈ c.horizons, 0 < horizon.2) → 1 ≤ c.lookback →
      2 ≤ c.metrics.window ∧ c.metrics.window ≤ largestWindow → 1 ≤ c.metrics.r2MinSamples →
        Value.ofEntries (c.predictors.map fun (id, spec) => (.text id, spec.toValue)) =
            c.predictorsValue ∧
          Value.ofEntries (c.horizons.map fun (label, millis) => (.text label, .int millis)) =
            c.horizonsValue ∧
          Configuration.ofValue c.toValue = .ok c) ∧
    (∀ (value : Value) (c : Configuration), Configuration.ofValue value = .ok c → c.ids.Nodup →
      (c.horizons.map (·.1)).Nodup → Configuration.ofValue c.toValue = .ok c) ∧
    (∀ s : Spec Float, Spec.ofValue s.toValue = .ok s) ∧
    ∀ s : Expectancy.Settings Float, Expectancy.Settings.ofValue s.toValue = .ok s := by
  refine ⟨fun c hids hlabels hhorizons hlookback hwindow hsamples => ?_,
    fun value c hread _ _ => ?_, Spec.ofValue_toValue, Expectancy.Settings.ofValue_toValue⟩
  · exact ⟨Configuration.ofEntries_rows hids Spec.toValue,
      Configuration.ofEntries_rows hlabels Value.int,
      Configuration.ofValue_toValue ⟨hhorizons, hlookback, hwindow, hsamples⟩⟩
  · exact Configuration.ofValue_toValue (.of_ofValue hread)

/-- Two rows, one with an infinity, no horizons, and all numbers at their bounds. -/
def Configuration.twoRows : Configuration where
  predictors :=
    [("b::A ", { Spec.standard .meanReversion with phiClip := 1 / 0 }), ("", Spec.standard .ewma)]
  horizons := []
  lookback := 1
  metrics := { window := 2, r2MinSamples := 1 }

theorem configuration_round_trip_two_rows :
    let c := Configuration.twoRows
    c.ids.Nodup ∧ Configuration.ofValue c.toValue = .ok c := by
  intro c
  have hids : c.ids.Nodup := by decide
  have hread := (configuration_round_trip.1 c hids (by decide) (by decide) (by decide) (by decide)
    (by decide)).2.2
  exact ⟨hids, hread⟩

end ReturnForecast
