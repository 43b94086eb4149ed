import ReturnForecast.Proofs.Configuration.Reports

/-!
# Faults of a section

What is wrong with a section of a configuration is reported as a fault of the configuration, but for
what escapes from its keys and its values, and for metrics that are no mapping.

* `Spec.Escape`, `Expectancy.Settings.Escape`, `MetricsSettings.Escape` — what escapes
* `ofValue_within`, `ofEntries_within` — nothing else escapes
* `Escape.not_ok` — nothing of the kind is accepted
-/

namespace ReturnForecast

/-! ## Rows -/

theorem Kind.read_within (escapes : Fault → Prop) (given : String) :
    FaultsWithin escapes (Kind.read given) := by
  unfold Kind.read
  simp only
  split
  · exact .ok _
  · exact .config rfl

namespace Spec

/-- The keys of a row that are neither the kind nor one of the seven numbers. -/
def unknownFields (entries : List (Value × Value)) : List Value :=
  Value.unknownKeys (Value.dropEntry entries kindKey) (Field.all.map Field.name)

/-- What escapes from a row. -/
inductive Escape (entries : List (Value × Value)) : Fault → Prop
  | keys {fault : Fault} (h : Value.KeysEscape (unknownFields entries) fault) : Escape entries fault
  | tooLarge {key value : Value} (hmem : (key, value) ∈ Value.dropEntry entries kindKey)
      (h : value.IsTooLarge) : Escape entries (.numeral .tooLarge)

theorem readFields_within : ∀ {entries : List (Value × Value)} {s : Spec Float},
    FaultsWithin
      (fun fault => ∃ entry ∈ entries, entry.2.IsTooLarge ∧ fault = .numeral .tooLarge)
      (readFields s entries)
  | [], s => .ok s
  | (key, value) :: rest, s => by
    -- the row changes with every number read, what may escape does not
    have hrest : ∀ t, FaultsWithin (fun fault =>
        ∃ entry ∈ (key, value) :: rest, entry.2.IsTooLarge ∧ fault = .numeral .tooLarge)
        (readFields t rest) := fun t =>
      readFields_within.mono fun _ ⟨entry, hmem, h⟩ => ⟨entry, List.mem_cons_of_mem _ hmem, h⟩
    rw [readFields]
    split
    · split
      · exact hrest _
      · exact hrest _
    · next cause hcause =>
      refine .ofNumeral (fun hoverflow => ?_) fun _ hnot => nomatch hnot
      obtain ⟨hlarge, rfl⟩ := Value.isTooLarge_of_toFloat hcause hoverflow
      exact ⟨(key, value), List.mem_cons_self, hlarge, rfl⟩

/-- A row is read, or reported, or something escapes from it. -/
theorem ofValue_within (value : Value) :
    FaultsWithin (fun fault => ∃ entries, value = .map entries ∧ Escape entries fault)
      (ofValue value) := by
  cases value with
  | map entries =>
    rw [ofValue]
    split
    · exact .config rfl
    · refine (FaultsWithin.written fun _ => .config rfl).bind fun name _ => ?_
      refine (Kind.read_within _ name).bind fun kind _ => ?_
      simp only
      split
      · refine readFields_within.mono ?_
        rintro fault ⟨⟨key, value⟩, hmem, hlarge, rfl⟩
        exact ⟨entries, rfl, .tooLarge hmem hlarge⟩
      · exact (FaultsWithin.unknownKeys fun _ => rfl).mono fun _ h => ⟨entries, rfl, .keys h⟩
  | _ => exact .config rfl

theorem toFloat_of_readFields : ∀ {entries : List (Value × Value)} {s t : Spec Float},
    readFields s entries = .ok t → ∀ entry ∈ entries, ∃ x, entry.2.toFloat = .ok x
  | [], _, _, _ => fun _ hmem => (List.not_mem_nil hmem).elim
  | (key, value) :: rest, s, t, h => by
    rw [readFields] at h
    split at h
    · next x hx =>
      have hrest : ∃ u, readFields u rest = .ok t := by
        split at h
        · exact ⟨_, h⟩
        · exact ⟨_, h⟩
      obtain ⟨u, hu⟩ := hrest
      intro entry hmem
      rcases List.mem_cons.mp hmem with rfl | hmem
      · exact ⟨x, hx⟩
      · exact toFloat_of_readFields hu entry hmem
    · cases h

/-- A row that is accepted has known keys alone, and its numbers are read. -/
theorem readFields_of_ofValue {entries : List (Value × Value)} {s : Spec Float}
    (h : ofValue (.map entries) = .ok s) : unknownFields entries = [] ∧
      ∃ kind, readFields (standard kind) (Value.dropEntry entries kindKey) = .ok s := by
  rw [ofValue] at h
  split at h
  · cases h
  · obtain ⟨name, -, h⟩ := bind_eq_ok h
    obtain ⟨kind, -, h⟩ := bind_eq_ok h
    by_cases hknown : (unknownFields entries).isEmpty = true
    · refine ⟨List.isEmpty_iff.mp hknown, kind, ?_⟩
      rw [unknownFields] at hknown
      simpa only [hknown, if_true] using h
    · rw [unknownFields] at hknown
      simp only [hknown] at h
      cases h

/-- A row from which something escapes is not accepted. -/
theorem Escape.not_ok {entries : List (Value × Value)} {fault : Fault} (h : Escape entries fault)
    (s : Spec Float) : ofValue (.map entries) ≠ .ok s := by
  intro hok
  obtain ⟨hknown, kind, hread⟩ := readFields_of_ofValue hok
  cases h with
  | keys h => exact h.ne_nil hknown
  | tooLarge hmem h =>
    obtain ⟨x, hx⟩ := toFloat_of_readFields hread _ hmem
    rw [Value.toFloat_of_isTooLarge h] at hx
    cases hx

end Spec

/-! ## Settings of the estimator -/

namespace Expectancy.Settings

/-- The keys of the estimator's section that are none of a field. -/
def unknownFields (entries : List (Value × Value)) : List Value :=
  Value.unknownKeys entries (Field.all.map Field.name)

/-- Is the field a double? -/
def Field.isDecimal : Field → Bool
  | timeoutMs | probabilityVersion | version => false
  | _ => true

/-- Is the field a text? -/
def Field.isText : Field → Bool
  | probabilityVersion | version => true
  | _ => false

theorem Field.isText_of_isDecimal {field : Field} (h : field.isDecimal = true) :
    field.isText = false := by
  cases field with
  | probabilityVersion | version => cases h
  | _ => rfl

/--
What escapes from a field. A value that cannot be written is not reported: neither one that is no
text, nor a list or a mapping, which is no number either.
-/
inductive Field.Escape : Field → Value → NumeralFault → Prop
  | tooLarge {field : Field} {value : Value} (hdecimal : field.isDecimal = true)
      (h : value.IsTooLarge) : Escape field value .tooLarge
  | infinite {value : Value} (h : value.IsInfinite) : Escape .timeoutMs value .infinityToInteger
  | unwritable {field : Field} {value : Value}
      (hread : field.isText = true ∨ value.isCompound = true) (h : value.isWritable = false) :
      Escape field value .unwritable

/-- What escapes from the fields of the estimator. -/
inductive Escape (entries : List (Value × Value)) : Fault → Prop
  | keys {fault : Fault} (h : Value.KeysEscape (unknownFields entries) fault) : Escape entries fault
  | field {key value : Value} {field : Field} {cause : NumeralFault}
      (hmem : (key, value) ∈ entries) (hfield : fieldOf? key = some field)
      (h : field.Escape value cause) : Escape entries (.numeral cause)

/-- A field is read as the number that it is, or as a text. -/
theorem read_cases (s : Settings Float) (field : Field) (value : Value) :
    (field.isDecimal = true ∧ ∃ set : Float → Settings Float,
      s.read field value = value.toFloat.map set) ∨
    (field = .timeoutMs ∧ ∃ set : Int → Settings Float, s.read field value = value.toInt.map set) ∨
    field.isText = true ∧ ∃ set : String → Settings Float,
      s.read field value = value.written.map set := by
  cases field with
  | timeoutMs => exact .inr (.inl ⟨rfl, _, rfl⟩)
  | probabilityVersion | version => exact .inr (.inr ⟨rfl, _, rfl⟩)
  | _ => exact .inl ⟨rfl, _, rfl⟩

theorem error_of_map {β : Type} {x : Except NumeralFault β} {set : β → Settings Float}
    {cause : NumeralFault} (h : x.map set = .error cause) : x = .error cause := by
  cases x with
  | ok b => cases h
  | error c => exact congrArg Except.error (Except.error.inj h)

/-- What overflows in a field escapes, and so does what cannot be reported. -/
theorem escape_of_read {s : Settings Float} {field : Field} {value : Value} {cause : NumeralFault}
    (h : s.read field value = .error cause) :
    (cause.category = .overflow → field.Escape value cause) ∧
      (cause.category ≠ .overflow → value.isWritable = false → field.Escape value .unwritable) := by
  rcases read_cases s field value with ⟨hdecimal, set, hread⟩ | ⟨rfl, set, hread⟩ |
    ⟨htext, set, hread⟩
  · have hvalue := error_of_map (hread.symm.trans h)
    refine ⟨fun hoverflow => ?_, fun hoverflow hnot => ?_⟩
    · obtain ⟨hlarge, rfl⟩ := Value.isTooLarge_of_toFloat hvalue hoverflow
      exact .tooLarge hdecimal hlarge
    · exact .unwritable (.inr (Value.isCompound_of_toFloat hvalue hoverflow hnot)) hnot
  · have hvalue := error_of_map (hread.symm.trans h)
    refine ⟨fun hoverflow => ?_, fun _ hnot => ?_⟩
    · obtain ⟨hinfinite, rfl⟩ := Value.isInfinite_of_toInt hvalue hoverflow
      exact .infinite hinfinite
    · exact .unwritable (.inr (Value.isCompound_of_toInt hvalue hnot)) hnot
  · obtain ⟨-, rfl⟩ := Value.not_isWritable_of_written (error_of_map (hread.symm.trans h))
    exact ⟨fun hoverflow => (nomatch hoverflow), fun _ hnot => .unwritable (.inl htext) hnot⟩

/-- A field from which something escapes is not read. -/
theorem Field.Escape.not_ok {field : Field} {value : Value} {cause : NumeralFault}
    (h : field.Escape value cause) (s t : Settings Float) : s.read field value ≠ .ok t := by
  rcases read_cases s field value with ⟨hdecimal, set, hread⟩ | ⟨rfl, set, hread⟩ |
    ⟨htext, set, hread⟩
  · rw [hread]
    cases h with
    | tooLarge _ hlarge =>
      rw [Value.toFloat_of_isTooLarge hlarge]
      exact nofun
    | infinite => cases hdecimal
    | unwritable hfield =>
      have hcompound := hfield.resolve_left fun htext =>
        nomatch htext.symm.trans (Field.isText_of_isDecimal hdecimal)
      rw [Value.toFloat_of_isCompound hcompound]
      exact nofun
  · rw [hread]
    cases h with
    | tooLarge hdecimal => cases hdecimal
    | infinite hinfinite =>
      rw [Value.toInt_of_isInfinite hinfinite]
      exact nofun
    | unwritable hfield =>
      rw [Value.toInt_of_isCompound (hfield.resolve_left nofun)]
      exact nofun
  · rw [hread]
    cases h with
    | tooLarge hdecimal => cases htext.symm.trans (Field.isText_of_isDecimal hdecimal)
    | infinite => cases htext
    | unwritable _ hnot =>
      rw [Value.written_of_not_isWritable hnot]
      exact nofun

theorem readFields_within : ∀ {entries : List (Value × Value)} {s : Settings Float},
    FaultsWithin
      (fun fault => ∃ entry ∈ entries, ∃ field cause, fieldOf? entry.1 = some field ∧
        field.Escape entry.2 cause ∧ fault = .numeral cause)
      (readFields s entries)
  | [], s => .ok s
  | (key, value) :: rest, s => by
    have hrest : ∀ t, FaultsWithin (fun fault => ∃ entry ∈ (key, value) :: rest, ∃ field cause,
        fieldOf? entry.1 = some field ∧ field.Escape entry.2 cause ∧ fault = .numeral cause)
        (readFields t rest) := fun t =>
      readFields_within.mono fun _ ⟨entry, hmem, h⟩ => ⟨entry, List.mem_cons_of_mem _ hmem, h⟩
    rw [readFields]
    split
    · exact hrest s
    · next field hfield =>
      split
      · exact hrest _
      · next cause hcause =>
        obtain ⟨hescape, hreport⟩ := escape_of_read hcause
        refine .ofNumeral (fun hoverflow => ?_) fun hoverflow hnot => ?_
        · exact ⟨(key, value), List.mem_cons_self, field, cause, hfield, hescape hoverflow, rfl⟩
        · exact ⟨(key, value), List.mem_cons_self, field, .unwritable, hfield,
            hreport hoverflow hnot, rfl⟩

/-- The estimator's fields are read, or reported, or something escapes from them. -/
theorem ofEntries_within (entries : List (Value × Value)) :
    FaultsWithin (Escape entries) (ofEntries entries) := by
  unfold ofEntries
  simp only
  split
  · refine readFields_within.mono ?_
    rintro fault ⟨⟨key, value⟩, hmem, field, cause, hfield, h, rfl⟩
    exact .field hmem hfield h
  · exact (FaultsWithin.unknownKeys fun _ => rfl).mono fun _ => .keys

theorem read_of_readFields : ∀ {entries : List (Value × Value)} {s t : Settings Float},
    readFields s entries = .ok t → ∀ entry ∈ entries, ∀ field, fieldOf? entry.1 = some field →
      ∃ u v : Settings Float, u.read field entry.2 = .ok v
  | [], _, _, _ => fun _ hmem => (List.not_mem_nil hmem).elim
  | (key, value) :: rest, s, t, h => by
    -- The first field has been read, if it is one, and the rest after it from some settings.
    have hfirst : (∃ u, readFields u rest = .ok t) ∧ ∀ field, fieldOf? key = some field →
        ∃ u v : Settings Float, u.read field value = .ok v := by
      rw [readFields] at h
      split at h
      · next hnone => exact ⟨⟨s, h⟩, fun field hfield => nomatch hnone.symm.trans hfield⟩
      · next field hfield =>
        split at h
        · next u hu =>
          exact ⟨⟨u, h⟩, fun g hg => Option.some.inj (hfield.symm.trans hg) ▸ ⟨s, u, hu⟩⟩
        · cases h
    obtain ⟨⟨u, hrest⟩, hkey⟩ := hfirst
    intro entry hmem
    rcases List.mem_cons.mp hmem with rfl | hmem
    · exact hkey
    · exact read_of_readFields hrest entry hmem

/-- Fields that are accepted have known keys alone, and all of them are read. -/
theorem readFields_of_ofEntries {entries : List (Value × Value)} {s : Settings Float}
    (h : ofEntries entries = .ok s) :
    unknownFields entries = [] ∧ readFields standard entries = .ok s := by
  by_cases hknown : (unknownFields entries).isEmpty = true
  · refine ⟨List.isEmpty_iff.mp hknown, ?_⟩
    rw [unknownFields] at hknown
    simpa only [ofEntries, hknown, if_true] using h
  · rw [unknownFields] at hknown
    simp only [ofEntries, hknown] at h
    cases h

/-- Fields from which something escapes are not accepted. -/
theorem Escape.not_ok {entries : List (Value × Value)} {fault : Fault} (h : Escape entries fault)
    (s : Settings Float) : ofEntries entries ≠ .ok s := by
  intro hok
  obtain ⟨hknown, hread⟩ := readFields_of_ofEntries hok
  cases h with
  | keys h => exact h.ne_nil hknown
  | field hmem hfield h =>
    obtain ⟨u, v, hok⟩ := read_of_readFields hread _ hmem _ hfield
    exact h.not_ok u v hok

end Expectancy.Settings

/-! ## Integers of a section -/

section Integers

variable {toFault : NumeralFault → ConfigFault}

theorem readInteger_within {value : Value} (hreport : ∀ cause, (toFault cause).isWritable = true) :
    FaultsWithin (fun fault => value.IsInfinite ∧ fault = .numeral .infinityToInteger)
      (readInteger toFault value) := by
  unfold readInteger
  split
  · exact .ok _
  · next cause hcause =>
    refine .ofNumeral (fun hoverflow => ?_) fun _ hnot => nomatch (hreport cause).symm.trans hnot
    obtain ⟨hinfinite, rfl⟩ := Value.isInfinite_of_toInt hcause hoverflow
    exact ⟨hinfinite, rfl⟩

theorem readInteger_of_isInfinite {value : Value} (h : value.IsInfinite) :
    readInteger toFault value = .error (.numeral .infinityToInteger) := by
  unfold readInteger
  rw [Value.toInt_of_isInfinite h]
  rfl

/-- An entry of a mapping is an infinity. -/
def InfiniteEntry (entries : List (Value × Value)) (key : String) : Prop :=
  ∃ value, Value.entry? entries key = some value ∧ value.IsInfinite

theorem integerEntry_within {entries : List (Value × Value)} {key : String} {standard : Int}
    (hreport : ∀ cause, (toFault cause).isWritable = true) :
    FaultsWithin (fun fault => InfiniteEntry entries key ∧ fault = .numeral .infinityToInteger)
      (integerEntry entries key standard toFault) := by
  unfold integerEntry
  split
  · exact .ok _
  · next value hvalue =>
    exact (readInteger_within hreport).mono fun fault h => ⟨⟨value, hvalue, h.1⟩, h.2⟩

theorem InfiniteEntry.not_ok {entries : List (Value × Value)} {key : String} {standard : Int}
    (h : InfiniteEntry entries key) (n : Int) :
    integerEntry entries key standard toFault ≠ .ok n := by
  obtain ⟨value, hvalue, hinfinite⟩ := h
  rw [integerEntry, hvalue]
  exact fun hok => nomatch (readInteger_of_isInfinite hinfinite).symm.trans hok

end Integers

/-! ## Settings of the metrics -/

namespace MetricsSettings

/-- What escapes from the section of the metrics. -/
inductive Escape (value : Value) : Fault → Prop
  | notMapping (hgiven : value.isGiven = true) (h : ∀ entries, value ≠ .map entries) :
      Escape value .notMapping
  | infinite {entries : List (Value × Value)} {key : String} (hvalue : value = .map entries)
      (hkey : key ∈ [windowKey, r2Key]) (h : InfiniteEntry entries key) :
      Escape value (.numeral .infinityToInteger)

/-- A mapping without entries means the same as one that is not given. -/
theorem ofValue_map (entries : List (Value × Value)) :
    ofValue (.map entries) = ofEntries entries := by
  cases entries <;> rfl

theorem ofEntries_within (entries : List (Value × Value)) :
    FaultsWithin (Escape (.map entries)) (ofEntries entries) := by
  refine ((integerEntry_within fun _ => rfl).mono ?_).bind fun window _ =>
    ((integerEntry_within fun _ => rfl).mono ?_).bind fun _ _ => .ok _
  · rintro fault ⟨h, rfl⟩
    exact .infinite rfl (by decide) h
  · rintro fault ⟨h, rfl⟩
    exact .infinite rfl (by decide) h

/-- The section of the metrics is read, or reported, or something escapes from it. -/
theorem ofValue_within (value : Value) : FaultsWithin (Escape value) (ofValue value) := by
  by_cases hmap : ∃ entries, value = .map entries
  · obtain ⟨entries, rfl⟩ := hmap
    rw [ofValue_map]
    exact ofEntries_within entries
  · unfold ofValue
    split
    · exact .ok _
    · next hgiven =>
      have hnotMapping : Escape value .notMapping :=
        .notMapping (by simpa using hgiven) fun entries h => hmap ⟨entries, h⟩
      split
      · next entries => exact (hmap ⟨entries, rfl⟩).elim
      · exact .escape hnotMapping

/-- A section from which something escapes is not accepted. -/
theorem Escape.not_ok {value : Value} {fault : Fault} (h : Escape value fault)
    (s : MetricsSettings) : ofValue value ≠ .ok s := by
  intro hok
  cases h with
  | notMapping hgiven h =>
    unfold ofValue at hok
    rw [hgiven] at hok
    cases value with
    | map entries => exact h entries rfl
    | _ => cases hok
  | infinite hvalue hkey h =>
    rw [hvalue, ofValue_map] at hok
    obtain ⟨window, hwindow, hok⟩ := bind_eq_ok hok
    obtain ⟨r2MinSamples, hr2, -⟩ := bind_eq_ok hok
    rcases List.mem_cons.mp hkey with rfl | hkey
    · exact h.not_ok window hwindow
    · cases List.mem_singleton.mp hkey
      exact h.not_ok r2MinSamples hr2

end MetricsSettings

end ReturnForecast
