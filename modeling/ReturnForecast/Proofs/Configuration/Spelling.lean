import ReturnForecast.Proofs.Configuration.Entries
import ReturnForecast.Proofs.Configuration.Faults

/-!
# Misspelt keys of a configuration

A key that no section has is refused among the sections, in the row of a predictor and among the
settings of the estimator. It is reported as a fault of the configuration, unless a number that is
read before it overflows. The section of the metrics only looks for its own keys: one that it does
not have is passed over, and the setting that was meant keeps its standard value.

* `Configuration.Misspelt` / `Configuration.Overflows` — the two things that can be wrong
* `Configuration.Misspelt.not_ok` / `Configuration.ofEntries_misspelt` — where keys are looked at
* `Configuration.ofEntries_congr_metrics` — the section whose unknown keys nobody looks at
* `misspelt_settings` — what becomes of a misspelt key in each section
-/

namespace ReturnForecast

/-! ## Keys that are texts -/

namespace Value

/-- The keys of a mapping are texts. -/
def HasTextKeys (entries : List (Value × Value)) : Prop := ∀ entry ∈ entries, entry.1.isText = true

theorem HasTextKeys.dropEntry {entries : List (Value × Value)} (h : HasTextKeys entries)
    (key : String) : HasTextKeys (dropEntry entries key) :=
  fun entry hentry => h entry (List.mem_filter.mp hentry).1

theorem HasTextKeys.all_isText {entries : List (Value × Value)} (h : HasTextKeys entries)
    (known : List String) : (unknownKeys entries known).all isText = true := by
  refine List.all_eq_true.mpr fun key hkey => ?_
  obtain ⟨entry, hentry, rfl⟩ := List.mem_map.mp (List.mem_filter.mp hkey).1
  exact h entry hentry

theorem isWritable_of_isText {v : Value} (h : v.isText = true) : v.isWritable = true := by
  cases v with
  | text s => rfl
  | _ => cases h

/-- Nothing escapes where the unknown keys are texts. -/
theorem KeysEscape.not_of_texts {keys : List Value} {fault : Fault} (h : KeysEscape keys fault)
    (htexts : keys.all isText = true) : False := by
  cases h with
  | unordered h => cases htexts.symm.trans h.1
  | unwritable _ hmem hnot =>
    cases (isWritable_of_isText (List.all_eq_true.mp htexts _ hmem)).symm.trans hnot

/-- A value is the same key as a text only if it is that text. -/
theorem sameKey_text_iff {v : Value} {s : String} : sameKey v (text s) = true ↔ v = text s := by
  cases v with
  | text t => rw [sameKey_text, beq_iff_eq, text.injEq]
  | real x =>
    simp only [sameKey, fraction?, reduceCtorEq, iff_false]
    cases Decimal.Dyadic.ofFloat? x <;> simp
  | _ => simp [sameKey, fraction?]

/-- What is found under a key is not lost with other entries. -/
theorem entry?_filter {p : Value × Value → Bool} {key : String}
    (h : ∀ value, p (text key, value) = true) (entries : List (Value × Value)) :
    entry? (entries.filter p) key = entry? entries key := by
  rw [Value.entry?, Value.entry?, List.find?_filter]
  congr 2
  funext entry
  obtain ⟨k, value⟩ := entry
  by_cases hsame : sameKey k (text key) = true
  · obtain rfl := sameKey_text_iff.mp hsame
    simp [h value, hsame]
  · simp [hsame]

section

variable (before after : List (Value × Value)) (v w : Value) {key other : String}

/-- What stands under a key is found there, unless an earlier entry has the key. -/
theorem entry?_self : entry? (before ++ (text key, v) :: after) key =
    some (Option.getD (Value.entry? before key) v) := by
  rw [Value.entry?, Value.entry?, List.find?_append]
  cases List.find? (fun entry => sameKey entry.1 (text key)) before <;> simp

/-- It is not found under another key. -/
theorem entry?_of_ne (h : key ≠ other) : entry? (before ++ (text key, v) :: after) other =
    entry? (before ++ (text key, w) :: after) other := by
  simp [Value.entry?, List.find?_append, h]

end

end Value

/-- Unknown texts are reported, in order. -/
theorem Spec.unknownKeysFault_of_texts {keys : List Value} (toFault : List Value → ConfigFault)
    (hreport : ∀ sorted, (toFault sorted).isWritable = (Value.list sorted).isWritable)
    (h : keys.all Value.isText = true) :
    ∃ sorted, sorted.Perm keys ∧ unknownKeysFault keys toFault = .config (toFault sorted) := by
  have hperm := List.mergeSort_perm keys fun a b => !(b.asText < a.asText)
  refine ⟨_, hperm, ?_⟩
  have hwritable : (toFault (keys.mergeSort fun a b => !(b.asText < a.asText))).isWritable =
      true := by
    rw [hreport, Value.isWritable_list, List.all_eq_true]
    exact fun key hkey =>
      Value.isWritable_of_isText (List.all_eq_true.mp h key (hperm.mem_iff.mp hkey))
  unfold unknownKeysFault Value.sortKeys?
  rw [if_pos h]
  exact if_pos hwritable

/-- Nothing escapes from unknown texts. -/
theorem FaultsWithin.unknownTexts {β : Type} {escapes : Fault → Prop} {keys : List Value}
    {toFault : List Value → ConfigFault}
    (hreport : ∀ sorted, (toFault sorted).isWritable = (Value.list sorted).isWritable)
    (h : keys.all Value.isText = true) :
    FaultsWithin escapes (.error (Spec.unknownKeysFault keys toFault) : Except Fault β) :=
  (FaultsWithin.unknownKeys hreport).mono fun _ hescape => (hescape.not_of_texts h).elim

/-! ## Sections that look at their keys -/

/-- Unknown settings of the estimator are reported before any setting is read. -/
theorem Expectancy.Settings.ofEntries_of_unknown {entries : List (Value × Value)}
    (h : unknownFields entries ≠ []) :
    ofEntries entries =
      .error (Spec.unknownKeysFault (unknownFields entries) .unknownExpectancyFields) := by
  have hunknown : (unknownFields entries).isEmpty = false := by simpa using h
  unfold unknownFields at hunknown ⊢
  simp only [ofEntries, hunknown]
  rfl

namespace Configuration

/--
The keys of the sections, of the predictors and their rows, and of the estimator's settings are
texts.
-/
structure HasTextKeys (entries : List (Value × Value)) : Prop where
  sections : Value.HasTextKeys entries
  ids : ∀ {rows : List (Value × Value)},
    sectionOf entries .predictors = .map rows → Value.HasTextKeys rows
  rows : ∀ {rows row : List (Value × Value)} {id : Value},
    sectionOf entries .predictors = .map rows → (id, .map row) ∈ rows → Value.HasTextKeys row
  fields : ∀ {fields : List (Value × Value)},
    entriesOf (sectionOf entries .expectancy) = .ok fields → Value.HasTextKeys fields

/-- Some key is none of a section, of a predictor's row or of the estimator's settings. -/
inductive Misspelt (entries : List (Value × Value)) : Prop
  | root {key : Value} (h : key ∈ unknownSections entries)
  | row {rows row : List (Value × Value)} {id key : Value}
      (hsection : sectionOf entries .predictors = .map rows) (hmem : (id, .map row) ∈ rows)
      (h : key ∈ Spec.unknownFields row)
  | field {fields : List (Value × Value)} {key : Value}
      (hfields : entriesOf (sectionOf entries .expectancy) = .ok fields)
      (h : key ∈ Expectancy.Settings.unknownFields (Value.dropEntry fields lookbackKey))

/-- Some number of a predictor, some horizon or the lookback is beyond all that can be read. -/
inductive Overflows (entries : List (Value × Value)) : NumeralFault → Prop
  | predictor {rows row : List (Value × Value)} {id key value : Value}
      (hsection : sectionOf entries .predictors = .map rows) (hmem : (id, .map row) ∈ rows)
      (hvalue : (key, value) ∈ row) (h : value.IsTooLarge) : Overflows entries .tooLarge
  | horizon {rows : List (Value × Value)} {label millis : Value}
      (hsection : sectionOf entries .horizons = .map rows) (hmem : (label, millis) ∈ rows)
      (h : millis.IsInfinite) : Overflows entries .infinityToInteger
  | lookback {fields : List (Value × Value)}
      (hfields : entriesOf (sectionOf entries .expectancy) = .ok fields)
      (h : InfiniteEntry fields lookbackKey) : Overflows entries .infinityToInteger

variable {entries : List (Value × Value)}

/-- A row with an unknown key stops the predictors. -/
theorem readPredictors_not_ok {rows row : List (Value × Value)} {id key : Value}
    (hmem : (id, .map row) ∈ rows) (h : key ∈ Spec.unknownFields row)
    (predictors : List (String × Spec Float)) : readPredictors (.map rows) ≠ .ok predictors := by
  intro hok
  obtain ⟨predictor, -, hrow⟩ := exists_ok_of_mapM hok hmem
  obtain ⟨name, -, hrow⟩ := bind_eq_ok hrow
  obtain ⟨spec, hspec, -⟩ := bind_eq_ok hrow
  rw [(Spec.readFields_of_ofValue hspec).1] at h
  exact List.not_mem_nil h

/-- **A misspelt key is not accepted.** -/
theorem Misspelt.not_ok (h : Misspelt entries) (c : Configuration) : ofEntries entries ≠ .ok c := by
  intro hok
  have hread := ofEntries_eq_ok_iff.mp hok
  cases h with
  | root h =>
    rw [hread.known] at h
    exact List.not_mem_nil h
  | row hsection hmem h =>
    exact readPredictors_not_ok hmem h c.predictors (hsection ▸ hread.predictors)
  | field hfields h =>
    obtain ⟨fields, lookback, hfields', -, hexpectancy, -⟩ := hread.expectancy
    cases hfields'.symm.trans hfields
    rw [(Expectancy.Settings.readFields_of_ofEntries hexpectancy).1] at h
    exact List.not_mem_nil h

/-- The sections of a mapping are looked at before anything is read. -/
theorem ofEntries_of_unknown (h : unknownSections entries ≠ []) :
    ofEntries entries =
      .error (Spec.unknownKeysFault (unknownSections entries) .unknownSections) := by
  have hunknown : (unknownSections entries).isEmpty = false := by simpa using h
  unfold unknownSections at hunknown ⊢
  simp only [ofEntries, hunknown]
  rfl

/-- An overflow escapes. -/
def OverflowEscapes (entries : List (Value × Value)) (fault : Fault) : Prop :=
  ∃ cause, Overflows entries cause ∧ fault = .numeral cause

theorem readPredictors_overflow (htexts : HasTextKeys entries) :
    FaultsWithin (OverflowEscapes entries) (readPredictors (sectionOf entries .predictors)) := by
  refine (readPredictors_within _).mono ?_
  rintro fault ⟨rows, hsection, h⟩
  cases h with
  | id hmem hnot =>
    cases (Value.isWritable_of_isText (htexts.ids hsection _ hmem)).symm.trans hnot
  | row hmem h =>
    cases h with
    | keys h =>
      exact (h.not_of_texts (((htexts.rows hsection hmem).dropEntry Spec.kindKey).all_isText
        (Spec.Field.all.map Spec.Field.name))).elim
    | tooLarge hvalue h =>
      exact ⟨_, .predictor hsection hmem (List.mem_filter.mp hvalue).1 h, rfl⟩

theorem readHorizons_overflow :
    FaultsWithin (OverflowEscapes entries) (readHorizons (sectionOf entries .horizons)) := by
  refine (readHorizons_within _).mono ?_
  rintro fault ⟨rows, label, millis, hsection, hmem, h, rfl⟩
  exact ⟨_, .horizon hsection hmem h, rfl⟩

/-- **A misspelt key is reported,** unless an overflow escapes before it. -/
theorem ofEntries_misspelt (htexts : HasTextKeys entries) (h : Misspelt entries) :
    FaultsWithin (OverflowEscapes entries) (ofEntries entries) := by
  by_cases hknown : unknownSections entries = []
  · have hempty : (Value.unknownKeys entries (Section.all.map Section.key)).isEmpty = true :=
      List.isEmpty_iff.mpr hknown
    unfold ofEntries
    simp only [hempty, if_true]
    refine (readPredictors_overflow htexts).bind fun predictors hpredictors => ?_
    refine readHorizons_overflow.bind fun horizons _ => ?_
    -- a row has stopped the predictors, so the estimator's settings are left
    cases h with
    | root h =>
      rw [hknown] at h
      exact (List.not_mem_nil h).elim
    | row hsection hmem h =>
      exact (readPredictors_not_ok hmem h predictors (hsection ▸ hpredictors)).elim
    | field hfields h =>
      rw [hfields]
      refine (FaultsWithin.ok _).bind fun fields' hfields' => ?_
      cases hfields'
      refine ((integerEntry_within fun _ => rfl).mono ?_).bind fun lookback _ => ?_
      · rintro fault ⟨hinfinite, rfl⟩
        exact ⟨_, .lookback hfields hinfinite, rfl⟩
      rw [Expectancy.Settings.ofEntries_of_unknown (List.ne_nil_of_mem h)]
      exact .unknownTexts (fun _ => rfl) (((htexts.fields hfields).dropEntry lookbackKey).all_isText
        (Expectancy.Settings.Field.all.map Expectancy.Settings.Field.name))
  · rw [ofEntries_of_unknown hknown]
    exact .unknownTexts (fun _ => rfl) (htexts.sections.all_isText (Section.all.map Section.key))

end Configuration

/-! ## The section that does not -/

namespace MetricsSettings

/-- Is the key one of the metrics' settings? -/
def isKnown (key : Value) : Bool := [windowKey, r2Key].any fun name => key.sameKey (.text name)

/-- The keys of the metrics' section that are none of a setting. -/
def unknownFields (entries : List (Value × Value)) : List Value :=
  Value.unknownKeys entries [windowKey, r2Key]

/-- The entries of the metrics' section under a key of a setting. -/
def knownEntries (entries : List (Value × Value)) : List (Value × Value) :=
  entries.filter fun entry => isKnown entry.1

/-- Entries under other keys are of no effect. -/
theorem ofEntries_knownEntries (entries : List (Value × Value)) :
    ofEntries (knownEntries entries) = ofEntries entries := by
  have hfound : ∀ key ∈ [windowKey, r2Key],
      Value.entry? (knownEntries entries) key = Value.entry? entries key := by
    intro key hkey
    refine Value.entry?_filter (fun value => ?_) entries
    exact List.any_eq_true.mpr ⟨key, hkey, Value.sameKey_text_iff.mpr rfl⟩
  unfold ofEntries integerEntry
  rw [hfound windowKey (by decide), hfound r2Key (by decide)]

end MetricsSettings

/-- The section of the metrics matters by what it is read as. -/
theorem Configuration.ofEntries_congr_metrics (before after : List (Value × Value)) {v w : Value}
    (h : MetricsSettings.ofValue v = MetricsSettings.ofValue w) :
    ofEntries (before ++ (.text Section.metrics.key, v) :: after) =
      ofEntries (before ++ (.text Section.metrics.key, w) :: after) := by
  have hkeys : ∀ known,
      Value.unknownKeys (before ++ (.text Section.metrics.key, v) :: after) known =
        Value.unknownKeys (before ++ (.text Section.metrics.key, w) :: after) known := by
    intro known
    simp only [Value.unknownKeys, List.map_append, List.map_cons]
  have hother : ∀ part, Section.metrics.key ≠ part.key →
      sectionOf (before ++ (.text Section.metrics.key, v) :: after) part =
        sectionOf (before ++ (.text Section.metrics.key, w) :: after) part :=
    fun part hne => congrArg (Option.getD · Value.null) (Value.entry?_of_ne before after v w hne)
  have hmetrics :
      MetricsSettings.ofValue
          (sectionOf (before ++ (.text Section.metrics.key, v) :: after) .metrics) =
        MetricsSettings.ofValue
          (sectionOf (before ++ (.text Section.metrics.key, w) :: after) .metrics) := by
    unfold sectionOf
    rw [Value.entry?_self, Value.entry?_self, Option.getD_some, Option.getD_some]
    cases Value.entry? before Section.metrics.key with
    | none => exact h
    | some earlier => rfl
  unfold ofEntries
  rw [hkeys, hother .predictors (by decide), hother .horizons (by decide),
    hother .expectancy (by decide), hmetrics]

/-! ## All sections -/

/--
**What becomes of a misspelt key.** Unknown sections are reported together. A key that is unknown in
a row of a predictor or among the settings of the estimator is reported too, unless a number that is
read before it overflows. Unknown keys of the metrics are of no effect.
-/
theorem misspelt_settings {entries : List (Value × Value)}
    (htexts : Configuration.HasTextKeys entries) :
    (Configuration.unknownSections entries ≠ [] →
      ∃ sorted, sorted.Perm (Configuration.unknownSections entries) ∧
        Configuration.ofValue (.map entries) = .error (.config (.unknownSections sorted))) ∧
    (Configuration.Misspelt entries →
      (∃ fault, Configuration.ofValue (.map entries) = .error (.config fault)) ∨
      ∃ cause, Configuration.Overflows entries cause ∧
        Configuration.ofValue (.map entries) = .error (.numeral cause)) ∧
    ∀ before after fields,
      entries = before ++ (.text Configuration.Section.metrics.key, .map fields) :: after →
      Configuration.ofValue (.map entries) = Configuration.ofValue (.map
        (before ++ (.text Configuration.Section.metrics.key,
          .map (MetricsSettings.knownEntries fields)) :: after)) := by
  refine ⟨fun h => ?_, fun h => ?_, fun before after fields h => ?_⟩
  · obtain ⟨sorted, hperm, hfault⟩ := Spec.unknownKeysFault_of_texts .unknownSections
      (fun _ => rfl) (htexts.sections.all_isText
        (Configuration.Section.all.map Configuration.Section.key))
    refine ⟨sorted, hperm, ?_⟩
    rw [Configuration.ofValue_map, Configuration.ofEntries_of_unknown h]
    exact congrArg Except.error hfault
  · rw [Configuration.ofValue_map]
    cases hresult : Configuration.ofEntries entries with
    | ok c => exact (h.not_ok c hresult).elim
    | error fault =>
      rcases Configuration.ofEntries_misspelt htexts h fault hresult with
        ⟨g, rfl, -⟩ | ⟨cause, hoverflow, rfl⟩
      · exact .inl ⟨g, rfl⟩
      · exact .inr ⟨cause, hoverflow, rfl⟩
  · rw [h, Configuration.ofValue_map, Configuration.ofValue_map]
    refine Configuration.ofEntries_congr_metrics before after ?_
    rw [MetricsSettings.ofValue_map, MetricsSettings.ofValue_map,
      MetricsSettings.ofEntries_knownEntries]

/-- A misspelt setting of the estimator is reported beside one of the metrics that is not. -/
theorem misspelt_settings_two_sections :
    let entries : List (Value × Value) := [(.text "ev", .map [(.text "shrnk_k", .int 40)]),
      (.text "metrics", .map [(.text "windw", .int 5)])]
    Configuration.HasTextKeys entries ∧ Configuration.Misspelt entries ∧
      ∃ fault, Configuration.ofValue (.map entries) = .error (.config fault) := by
  intro entries
  have htexts : Configuration.HasTextKeys entries :=
    { sections := by simp [entries, Value.HasTextKeys, Value.isText]
      ids := fun hsection => nomatch hsection
      rows := fun hsection => nomatch hsection
      fields := fun hfields => by
        cases hfields
        simp [Value.HasTextKeys, Value.isText] }
  have hmisspelt : Configuration.Misspelt entries :=
    .field rfl (List.mem_singleton_self (Value.text "shrnk_k"))
  refine ⟨htexts, hmisspelt, ?_⟩
  rcases (misspelt_settings htexts).2.1 hmisspelt with hfault | ⟨cause, hoverflow, -⟩
  · exact hfault
  · cases hoverflow with
    | predictor hsection => cases hsection
    | horizon hsection => cases hsection
    | lookback hfields h =>
      cases hfields
      obtain ⟨value, hvalue, -⟩ := h
      cases hvalue

/--
A misspelt window of the metrics is passed over: the configuration is the standard one. A misspelt
setting of the estimator is not reported if an infinite horizon escapes before it.
-/
theorem misspelt_window_passed_over :
    MetricsSettings.unknownFields [(.text "windw", .int 5)] = [.text "windw"] ∧
      Configuration.ofValue (.map [(.text "metrics", .map [(.text "windw", .int 5)])]) = .ok {} ∧
      Configuration.Misspelt [(.text "horizons", .map [(.text "1m", .real (1 / 0))]),
        (.text "ev", .map [(.text "shrnk_k", .int 40)])] ∧
      Configuration.ofValue (.map [(.text "horizons", .map [(.text "1m", .real (1 / 0))]),
        (.text "ev", .map [(.text "shrnk_k", .int 40)])]) =
          .error (.numeral .infinityToInteger) := by
  refine ⟨rfl, rfl, ?_, rfl⟩
  exact .field rfl (List.mem_singleton_self (Value.text "shrnk_k"))

end ReturnForecast
