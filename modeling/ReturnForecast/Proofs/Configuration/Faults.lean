import ReturnForecast.Proofs.Configuration.SectionFaults

/-!
# Faults of a configuration

A value makes up a configuration or is reported as a fault of one, unless something escapes from one
of its sections.

* `Configuration.HasEntries` — which values are taken for a mapping
* `Configuration.Escape` — what escapes from a configuration
* `configuration_faults` — nothing else escapes, and what escapes is never accepted
* `Configuration.ofValue_of_version`, `ofValue_of_integer_key`, `readPredictor_of_id` — what is not
  reported where a value has no text
* `configuration_escapes` — values from which something escapes
-/

namespace ReturnForecast

/-! ## Sections -/

namespace Configuration

/-- The item of a list of pairs is a key with a value. -/
def IsPair (item : Value) : Prop :=
  ∃ key value, sequenceOf? item = some [key, value] ∧ key.isCompound = false

/-- A value has entries if it is not given, a mapping, or a list of pairs. -/
def HasEntries (value : Value) : Prop :=
  value.isGiven = false ∨ (∃ entries, value = .map entries) ∨
    ∃ items, sequenceOf? value = some items ∧ ∀ item ∈ items, IsPair item

/-- The faults of a value without entries. -/
inductive NoEntriesFault : Fault → Prop
  | wrongType : NoEntriesFault .wrongType
  | notPair (position length : Nat) : NoEntriesFault (.notPair position length)

theorem isPair_of_sequenceOf {item key value : Value}
    (h : sequenceOf? item = some [key, value]) : IsPair item ↔ key.isCompound = false := by
  constructor
  · rintro ⟨key', value', h', hkey⟩
    cases h.symm.trans h'
    exact hkey
  · exact fun hkey => ⟨key, value, h, hkey⟩

/-- A list has entries exactly if its items are pairs. -/
theorem entriesOfPairs_cases : ∀ (items : List Value) (before : List (Value × Value))
    (position : Nat),
    (∃ entries, entriesOfPairs before position items = .ok entries) ∧
        (∀ item ∈ items, IsPair item) ∨
      (∃ fault, entriesOfPairs before position items = .error fault ∧ NoEntriesFault fault) ∧
        ¬ ∀ item ∈ items, IsPair item
  | [], before, position => .inl ⟨⟨before, rfl⟩, fun _ h => (List.not_mem_nil h).elim⟩
  | item :: rest, before, position => by
    rw [entriesOfPairs]
    split
    · next hnone =>
      refine .inr ⟨⟨_, rfl, .wrongType⟩, fun hall => ?_⟩
      obtain ⟨key, value, h, -⟩ := hall item List.mem_cons_self
      cases hnone.symm.trans h
    · next key value hitem =>
      split
      · next hcompound =>
        refine .inr ⟨⟨_, rfl, .wrongType⟩, fun hall => ?_⟩
        have hkey := (isPair_of_sequenceOf hitem).mp (hall item List.mem_cons_self)
        cases hcompound.symm.trans hkey
      · next hcompound =>
        have hpair : IsPair item :=
          (isPair_of_sequenceOf hitem).mpr (Bool.eq_false_iff.mpr hcompound)
        refine (entriesOfPairs_cases rest _ _).imp (fun h => ⟨h.1, ?_⟩) fun h => ⟨h.1, ?_⟩
        · exact List.forall_mem_cons.mpr ⟨hpair, h.2⟩
        · exact fun hall => h.2 (List.forall_mem_cons.mp hall).2
    · next items hnot hitem =>
      refine .inr ⟨⟨_, rfl, .notPair _ _⟩, fun hall => ?_⟩
      obtain ⟨key, value, h, -⟩ := hall item List.mem_cons_self
      cases hitem.symm.trans h
      exact hnot key value rfl

/-- **A section of the estimator has entries**, or it has a fault that says that it has none. -/
theorem entriesOf_cases (value : Value) :
    (∃ entries, entriesOf value = .ok entries) ∧ HasEntries value ∨
      (∃ fault, entriesOf value = .error fault ∧ NoEntriesFault fault) ∧ ¬ HasEntries value := by
  unfold entriesOf
  split
  · next hgiven => exact .inl ⟨⟨_, rfl⟩, .inl (by simpa using hgiven)⟩
  · next hgiven =>
    split
    · next entries => exact .inl ⟨⟨_, rfl⟩, .inr (.inl ⟨entries, rfl⟩)⟩
    · next hmap =>
      -- What is given and no mapping has entries only as a list of pairs.
      have hlist : HasEntries value ↔
          ∃ items, sequenceOf? value = some items ∧ ∀ item ∈ items, IsPair item := by
        refine ⟨fun h => ?_, fun h => .inr (.inr h)⟩
        rcases h with h | ⟨entries, rfl⟩ | h
        · exact (hgiven (by rw [h]; rfl)).elim
        · exact (hmap entries rfl).elim
        · exact h
      split
      · next items hitems =>
        have hall : HasEntries value ↔ ∀ item ∈ items, IsPair item := by
          rw [hlist, hitems]
          exact ⟨fun ⟨_, heq, h⟩ => Option.some.inj heq ▸ h, fun h => ⟨items, rfl, h⟩⟩
        rw [hall]
        exact entriesOfPairs_cases items [] 0
      · next hnone =>
        refine .inr ⟨⟨_, rfl, .wrongType⟩, fun h => ?_⟩
        obtain ⟨items, hitems, -⟩ := hlist.mp h
        cases hnone.symm.trans hitems

theorem entriesOf_within (value : Value) :
    FaultsWithin (fun fault => ¬ HasEntries value ∧ NoEntriesFault fault) (entriesOf value) := by
  rcases entriesOf_cases value with ⟨⟨entries, hok⟩, -⟩ | ⟨⟨fault, herror, hfault⟩, h⟩
  · rw [hok]
    exact .ok _
  · rw [herror]
    exact .escape ⟨h, hfault⟩

/-- What escapes from the section of the predictors: an id that has no text, or a row's escape. -/
inductive PredictorsEscape (rows : List (Value × Value)) : Fault → Prop
  | id {id spec : Value} (hmem : (id, spec) ∈ rows) (h : id.isWritable = false) :
      PredictorsEscape rows (.numeral .unwritable)
  | row {id : Value} {row : List (Value × Value)} {fault : Fault} (hmem : (id, .map row) ∈ rows)
      (h : Spec.Escape row fault) : PredictorsEscape rows fault

/-- What escapes from a configuration. -/
inductive Escape (entries : List (Value × Value)) : Fault → Prop
  | sections {fault : Fault} (h : Value.KeysEscape (unknownSections entries) fault) :
      Escape entries fault
  | predictors {rows : List (Value × Value)} {fault : Fault}
      (hsection : sectionOf entries .predictors = .map rows) (h : PredictorsEscape rows fault) :
      Escape entries fault
  | horizon {rows : List (Value × Value)} {label millis : Value}
      (hsection : sectionOf entries .horizons = .map rows) (hmem : (label, millis) ∈ rows)
      (h : millis.IsInfinite) : Escape entries (.numeral .infinityToInteger)
  | noEntries {fault : Fault} (h : ¬ HasEntries (sectionOf entries .expectancy))
      (hfault : NoEntriesFault fault) : Escape entries fault
  | lookback {fields : List (Value × Value)}
      (hfields : entriesOf (sectionOf entries .expectancy) = .ok fields)
      (h : InfiniteEntry fields lookbackKey) : Escape entries (.numeral .infinityToInteger)
  | expectancy {fields : List (Value × Value)} {fault : Fault}
      (hfields : entriesOf (sectionOf entries .expectancy) = .ok fields)
      (h : Expectancy.Settings.Escape (Value.dropEntry fields lookbackKey) fault) :
      Escape entries fault
  | metrics {fault : Fault} (h : MetricsSettings.Escape (sectionOf entries .metrics) fault) :
      Escape entries fault

theorem readPredictors_within (value : Value) :
    FaultsWithin (fun fault => ∃ rows, value = .map rows ∧ PredictorsEscape rows fault)
      (readPredictors value) := by
  unfold readPredictors
  split
  · exact .ok _
  · next rows =>
    refine .mapM fun (id, spec) hmem => .bind (.written fun hnot => ?_) fun _ _ =>
      ((Spec.ofValue_within spec).mono ?_).bind fun _ _ => .ok _
    · exact .escape ⟨rows, rfl, .id hmem hnot⟩
    · rintro fault ⟨row, rfl, h⟩
      exact ⟨rows, rfl, .row hmem h⟩
  · exact .config rfl

theorem readHorizons_within (value : Value) :
    FaultsWithin (fun fault => ∃ rows label millis, value = .map rows ∧ (label, millis) ∈ rows ∧
      millis.IsInfinite ∧ fault = .numeral .infinityToInteger) (readHorizons value) := by
  unfold readHorizons
  split
  · exact .ok _
  · next rows =>
    refine .bind (.mapM fun (label, millis) hmem => ?_) fun horizons _ => ?_
    · refine .bind (.written fun _ => .config rfl) fun _ _ => ?_
      refine ((readInteger_within fun _ => rfl).mono ?_).bind fun _ _ => .ok _
      rintro fault ⟨h, rfl⟩
      exact ⟨rows, label, millis, rfl, hmem, h, rfl⟩
    · split
      · exact .ok _
      · exact .config rfl
  · exact .config rfl

/-- The entries are read, or reported, or something escapes from them. -/
theorem ofEntries_within (entries : List (Value × Value)) :
    FaultsWithin (Escape entries) (ofEntries entries) := by
  unfold ofEntries
  simp only
  split
  · refine ((readPredictors_within _).mono ?_).bind fun predictors _ => ?_
    · rintro fault ⟨rows, hsection, h⟩
      exact .predictors hsection h
    refine ((readHorizons_within _).mono ?_).bind fun horizons _ => ?_
    · rintro fault ⟨rows, label, millis, hsection, hmem, h, rfl⟩
      exact .horizon hsection hmem h
    refine ((entriesOf_within _).mono fun fault h => .noEntries h.1 h.2).bind
      fun fields hfields => ?_
    refine ((integerEntry_within fun _ => rfl).mono ?_).bind fun lookback _ => ?_
    · rintro fault ⟨h, rfl⟩
      exact .lookback hfields h
    refine ((Expectancy.Settings.ofEntries_within _).mono fun _ h => .expectancy hfields h).bind
      fun expectancy _ => ?_
    exact ((MetricsSettings.ofValue_within _).mono fun _ h => .metrics h).bind fun _ _ => .ok _
  · exact (FaultsWithin.unknownKeys fun _ => rfl).mono fun _ => .sections

/-- A value is read, or reported, or something escapes from its entries. -/
theorem ofValue_within (value : Value) :
    FaultsWithin (fun fault => ∃ entries, value = .map entries ∧ Escape entries fault)
      (ofValue value) := by
  by_cases hmap : ∃ entries, value = .map entries
  · obtain ⟨entries, rfl⟩ := hmap
    rw [ofValue_map]
    exact (ofEntries_within entries).mono fun _ h => ⟨entries, rfl, h⟩
  · unfold ofValue
    split
    · exact .ok _
    · split
      · exact (hmap ⟨_, rfl⟩).elim
      · exact .config rfl

/-- Predictors from which something escapes are not accepted. -/
theorem PredictorsEscape.not_ok {rows : List (Value × Value)} {fault : Fault}
    (h : PredictorsEscape rows fault) (predictors : List (String × Spec Float)) :
    readPredictors (.map rows) ≠ .ok predictors := by
  intro hok
  cases h with
  | id hmem hnot =>
    obtain ⟨predictor, -, hrow⟩ := exists_ok_of_mapM hok hmem
    obtain ⟨id, hid, -⟩ := bind_eq_ok hrow
    cases (Value.written_of_not_isWritable hnot).symm.trans (eq_ok_of_mapError hid)
  | row hmem h =>
    obtain ⟨predictor, -, hrow⟩ := exists_ok_of_mapM hok hmem
    obtain ⟨id, -, hrow⟩ := bind_eq_ok hrow
    obtain ⟨spec, hspec, -⟩ := bind_eq_ok hrow
    exact h.not_ok spec hspec

/-- A configuration from which something escapes is not accepted. -/
theorem Escape.not_ok {entries : List (Value × Value)} {fault : Fault} (h : Escape entries fault)
    (c : Configuration) : ofEntries entries ≠ .ok c := by
  intro hok
  have hread := ofEntries_eq_ok_iff.mp hok
  obtain ⟨fields, lookback, hfields, hlookback, hexpectancy, -⟩ := hread.expectancy
  cases h with
  | sections h => exact h.ne_nil hread.known
  | predictors hsection h => exact h.not_ok c.predictors (hsection ▸ hread.predictors)
  | horizon hsection hmem h =>
    have hrows := hread.horizons
    rw [hsection] at hrows
    obtain ⟨horizons, hhorizons, -⟩ := bind_eq_ok hrows
    obtain ⟨horizon, -, hrow⟩ := exists_ok_of_mapM hhorizons hmem
    obtain ⟨name, -, hrow⟩ := bind_eq_ok hrow
    obtain ⟨n, hn, -⟩ := bind_eq_ok hrow
    cases (readInteger_of_isInfinite h).symm.trans hn
  | noEntries h =>
    rcases entriesOf_cases (sectionOf entries .expectancy) with ⟨-, hentries⟩ | ⟨⟨_, herror, -⟩, -⟩
    · exact h hentries
    · cases herror.symm.trans hfields
  | lookback hfields' h =>
    cases hfields'.symm.trans hfields
    exact h.not_ok lookback hlookback
  | expectancy hfields' h =>
    cases hfields'.symm.trans hfields
    exact h.not_ok _ hexpectancy
  | metrics h => exact h.not_ok _ hread.metrics

/-- What escapes is an overflow, a wrong type, a wrong value or a missing attribute. -/
theorem Escape.category {entries : List (Value × Value)} {fault : Fault}
    (h : Escape entries fault) :
    fault.category ∈ [FaultCategory.overflow, .badType, .badValue, .noAttribute] := by
  have hkeys : ∀ {keys : List Value} {fault : Fault}, Value.KeysEscape keys fault →
      fault.category ∈ [FaultCategory.overflow, .badType, .badValue, .noAttribute] := by
    intro keys fault h
    cases h <;> decide
  cases h with
  | sections h => exact hkeys h
  | predictors _ h =>
    cases h with
    | id => decide
    | row _ h =>
      cases h with
      | keys h => exact hkeys h
      | tooLarge => decide
  | horizon | lookback => decide
  | noEntries _ h => cases h <;> simp [Fault.category]
  | expectancy _ h =>
    cases h with
    | keys h => exact hkeys h
    | field _ _ h => cases h <;> decide
  | metrics h => cases h <;> decide

end Configuration

/--
**Faults of a configuration.** Every value makes up a configuration or is reported as a fault of
one, in a text that can be written, unless something escapes from one of its sections. What escapes
is of another category, and a mapping from which something escapes does not make up a configuration.
-/
theorem configuration_faults (value : Value) :
    ((∃ c, Configuration.ofValue value = .ok c) ∨
      (∃ fault, Configuration.ofValue value = .error (.config fault) ∧ fault.isWritable = true) ∨
      ∃ entries fault, value = .map entries ∧ Configuration.Escape entries fault ∧
        Configuration.ofValue value = .error fault) ∧
    ∀ entries fault, value = .map entries → Configuration.Escape entries fault →
      fault.category ∈ [FaultCategory.overflow, .badType, .badValue, .noAttribute] ∧
      ∀ c, Configuration.ofValue value ≠ .ok c := by
  constructor
  · cases hresult : Configuration.ofValue value with
    | ok c => exact .inl ⟨c, rfl⟩
    | error fault =>
      refine .inr ?_
      rcases Configuration.ofValue_within value fault hresult with
        ⟨g, rfl, hwritable⟩ | ⟨entries, rfl, h⟩
      · exact .inl ⟨g, rfl, hwritable⟩
      · exact .inr ⟨entries, fault, rfl, h, rfl⟩
  · rintro entries fault rfl h
    refine ⟨h.category, fun c => ?_⟩
    rw [Configuration.ofValue_map]
    exact h.not_ok c

/-- An infinite horizon is not accepted, and its fault is an overflow. -/
theorem configuration_faults_infinite_horizon :
    let entries : List (Value × Value) :=
      [(.text "horizons", .map [(.text "1m", .real (1 / 0))])]
    Configuration.Escape entries (.numeral .infinityToInteger) ∧
      ∀ c, Configuration.ofValue (.map entries) ≠ .ok c := by
  intro entries
  have hescape : Configuration.Escape entries (.numeral .infinityToInteger) :=
    .horizon rfl List.mem_cons_self ⟨1 / 0, rfl, by decide +kernel, by decide +kernel⟩
  exact ⟨hescape, ((configuration_faults (.map entries)).2 entries _ rfl hescape).2⟩

namespace Configuration

/-! ## A fault of one section -/

/-- An entry that is no predictor stops the reading. -/
theorem ofValue_of_predictor {id row : Value} {fault : Fault}
    (h : readPredictor (id, row) = .error fault) :
    ofValue (.map [(.text Section.predictors.key, .map [(id, row)])]) = .error fault := by
  show (List.mapM readPredictor [(id, row)] >>= _) = _
  rw [List.mapM_cons, h]
  rfl

/-- So does an entry that is no setting of the estimator. -/
theorem ofValue_of_field {field : Expectancy.Settings.Field} {value : Value} {cause : NumeralFault}
    (h : ∀ s : Expectancy.Settings Float, s.read field value = .error cause) :
    ofValue (.map [(.text Section.expectancy.key, .map [(.text field.name, value)])]) =
      .error (.ofNumeral (fun _ => .badExpectancyValue field.name value) cause) := by
  have hfield : Expectancy.Settings.fieldOf? (.text field.name) = some field := by
    cases field <;> rfl
  have hknown : Value.unknownKeys [(.text field.name, value)]
      (Expectancy.Settings.Field.all.map Expectancy.Settings.Field.name) = [] := by
    cases field <;> rfl
  have hfields : Value.dropEntry [(.text field.name, value)] lookbackKey =
      [(.text field.name, value)] := by
    cases field <;> rfl
  have hlookback : integerEntry [(.text field.name, value)] lookbackKey standardLookback
      .badLookback = .ok standardLookback := by
    cases field <;> rfl
  have hread : Expectancy.Settings.ofEntries [(.text field.name, value)] =
      .error (.ofNumeral (fun _ => .badExpectancyValue field.name value) cause) := by
    simp only [Expectancy.Settings.ofEntries, hknown, List.isEmpty_nil, if_true,
      Expectancy.Settings.readFields, hfield, h]
  show (integerEntry [(.text field.name, value)] _ _ _ >>= fun _ =>
    Expectancy.Settings.ofEntries (Value.dropEntry [(.text field.name, value)] _) >>= _) = _
  rw [hlookback, hfields, hread]
  rfl

end Configuration

/-! ## Values that cannot be written -/

/-- A report that cannot be written is a fault of its own. -/
theorem Fault.report_of_not_isWritable {fault : ConfigFault} (h : fault.isWritable = false) :
    report fault = .numeral .unwritable := if_neg (Bool.eq_false_iff.mp h)

theorem Value.not_isWritable_singleton {value : Value} (h : value.isWritable = false) :
    (Value.list [value]).isWritable = false := by
  rw [isWritable_list, List.all_cons, h, Bool.false_and]

namespace Configuration

theorem readPredictor_of_tooLarge {value : Value} (h : value.IsTooLarge) (id : String) :
    readPredictor (.text id, .map [(.text "kind", .text "ewma"), (.text "alpha_mean", value)]) =
      .error (.numeral .tooLarge) := by
  show (Spec.readFields (Spec.standard .ewma) [(.text "alpha_mean", value)] >>= _) = _
  rw [Spec.readFields, Value.toFloat_of_isTooLarge h]
  rfl

/-- An id without a text stops the reading, whatever its row holds. -/
theorem readPredictor_of_id {id : Value} (h : id.isWritable = false) (row : Value) :
    readPredictor (id, row) = .error (.numeral .unwritable) := by
  rw [readPredictor, Value.written_of_not_isWritable h]
  rfl

/-- An unknown key without a text is not reported. -/
theorem ofValue_of_integer_key {n : Int} (h : (Value.int n).isWritable = false) (value : Value) :
    ofValue (.map [(.int n, value)]) = .error (.numeral .unwritable) := by
  have hsorted : Value.sortKeys? [.int n] = some [.int n] :=
    congrArg some (List.mergeSort_singleton _)
  show Except.error (Spec.unknownKeysFault [.int n] .unknownSections) = _
  rw [Spec.unknownKeysFault, hsorted]
  exact congrArg Except.error (Fault.report_of_not_isWritable (Value.not_isWritable_singleton h))

/-- Nor is a version without a text. -/
theorem ofValue_of_version {value : Value} (h : value.isWritable = false) :
    ofValue (.map [(.text "ev", .map [(.text "ev_model_version", value)])]) =
      .error (.numeral .unwritable) := by
  have hread : ∀ s : Expectancy.Settings Float, s.read .version value = .error .unwritable := by
    intro s
    show value.written.map _ = _
    rw [Value.written_of_not_isWritable h]
    rfl
  exact (ofValue_of_field hread).trans
    (congrArg Except.error (Fault.report_of_not_isWritable h))

/-- Nor is a prior that is a list of such a value. -/
theorem ofValue_of_listed_prior {value : Value} (h : value.isWritable = false) :
    ofValue (.map [(.text "ev", .map [(.text "prior_a", .list [value])])]) =
      .error (.numeral .unwritable) := by
  have hread : ∀ s : Expectancy.Settings Float,
      s.read .priorA (.list [value]) = .error (.noDecimal "list") := fun _ => rfl
  exact (ofValue_of_field hread).trans
    (congrArg Except.error (Fault.report_of_not_isWritable (Value.not_isWritable_singleton h)))

end Configuration

/--
Values from which something escapes: an infinite horizon, an integer beyond all doubles, metrics in
a list, an estimator's section that is a number or a list without pairs, unknown keys of two sorts;
and an integer with too many digits as an id, as an unknown key, as a text, and in a list that is no
number.
-/
theorem configuration_escapes :
    Configuration.ofValue (.map [(.text "horizons", .map [(.text "1m", .real (1 / 0))])]) =
        .error (.numeral .infinityToInteger) ∧
      Configuration.ofValue (.map [(.text "predictors", .map [(.text "fast",
        .map [(.text "kind", .text "ewma"), (.text "alpha_mean", .int (.ofNat (tenTo 400)))])])]) =
        .error (.numeral .tooLarge) ∧
      Configuration.ofValue (.map [(.text "metrics", .list [.int 1])]) = .error .notMapping ∧
      Configuration.ofValue (.map [(.text "ev", .int 5)]) = .error .wrongType ∧
      Configuration.ofValue (.map [(.text "ev", .list [.text "lookback"])]) =
        .error (.notPair 0 8) ∧
      Configuration.ofValue (.map [(.int 1, .null), (.text "x", .null)]) = .error .wrongType ∧
      Configuration.ofValue (.map [(.text "predictors",
        .map [(.int (.ofNat (tenTo 4300)), .map [(.text "kind", .text "ewma")])])]) =
        .error (.numeral .unwritable) ∧
      Configuration.ofValue (.map [(.int (.ofNat (tenTo 4300)), .null)]) =
        .error (.numeral .unwritable) ∧
      Configuration.ofValue (.map [(.text "ev",
        .map [(.text "ev_model_version", .int (.ofNat (tenTo 4300)))])]) =
        .error (.numeral .unwritable) ∧
      Configuration.ofValue (.map [(.text "ev",
        .map [(.text "prior_a", .list [.int (.ofNat (tenTo 4300))])])]) =
        .error (.numeral .unwritable) := by
  -- The long integers go through lemmas about any such value, so that no step evaluates them.
  have hlarge : (Value.int (.ofNat (tenTo 400))).IsTooLarge :=
    Value.isTooLarge_of_le (Nat.le_of_eq (Int.natAbs_natCast _).symm)
  have hlong : (Value.int (.ofNat (tenTo 4300))).isWritable = false :=
    Value.not_isWritable_of_le (Nat.le_of_eq (Int.natAbs_natCast _).symm)
  have hrow := Configuration.readPredictor_of_tooLarge hlarge "fast"
  have hid := Configuration.readPredictor_of_id hlong (.map [(.text "kind", .text "ewma")])
  exact ⟨rfl, Configuration.ofValue_of_predictor hrow, rfl, rfl, rfl, rfl,
    Configuration.ofValue_of_predictor hid, Configuration.ofValue_of_integer_key hlong .null,
    Configuration.ofValue_of_version hlong, Configuration.ofValue_of_listed_prior hlong⟩

end ReturnForecast
