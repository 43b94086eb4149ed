import ReturnForecast.Configuration

/-!
# Entries under names

The mappings of a configuration have texts for keys. What is written under the names of some fields,
each field under its own, is found there again and holds nothing else.

* `Value.ofEntries_map_text` — a mapping with different keys has the entries it is built from
* `Value.entry?_named`, `Value.unknownKeys_named` — what is found under names
-/

namespace ReturnForecast

namespace Value

@[simp] theorem sameKey_text (s t : String) : sameKey (text s) (text t) = (s == t) := by
  simp only [sameKey]

/-! ## Mappings with different keys -/

theorem putEntry_of_new {entries : List (Value × Value)} {key : Value}
    (h : ∀ entry ∈ entries, sameKey entry.1 key = false) (value : Value) :
    putEntry entries key value = entries ++ [(key, value)] := by
  have hnone : (entries.any fun entry => sameKey entry.1 key) = false :=
    List.any_eq_false.mpr fun entry hentry => by rw [h entry hentry]; exact Bool.false_ne_true
  rw [putEntry, hnone]
  rfl

section

variable {β : Type} (key : β → String) (value : β → Value)

theorem foldl_putEntry_map_text : ∀ (rows before : List β), (before ++ rows).Pairwise
      (fun a b => key a ≠ key b) →
    (rows.map fun row => (text (key row), value row)).foldl
        (fun acc entry => putEntry acc entry.1 entry.2)
        (before.map fun row => (text (key row), value row)) =
      (before ++ rows).map fun row => (text (key row), value row)
  | [], before, _ => by rw [List.append_nil]; rfl
  | row :: rows, before, h => by
    have hnew : ∀ entry ∈ before.map (fun row => (text (key row), value row)),
        sameKey entry.1 (text (key row)) = false := by
      intro entry hentry
      obtain ⟨other, hother, rfl⟩ := List.mem_map.mp hentry
      rw [sameKey_text]
      exact beq_false_of_ne ((List.pairwise_append.mp h).2.2 other hother row List.mem_cons_self)
    have hassoc : before ++ row :: rows = (before ++ [row]) ++ rows := by
      rw [List.append_assoc, List.singleton_append]
    rw [hassoc] at h ⊢
    rw [List.map_cons, List.foldl_cons, putEntry_of_new hnew, ← foldl_putEntry_map_text rows _ h,
      List.map_append]
    rfl

/-- **A mapping with different keys** has the entries that it is built from, in their order. -/
theorem ofEntries_map_text {rows : List β} (h : (rows.map key).Nodup) :
    ofEntries (rows.map fun row => (text (key row), value row)) =
      map (rows.map fun row => (text (key row), value row)) := by
  rw [ofEntries]
  exact congrArg map (foldl_putEntry_map_text key value rows [] (List.pairwise_map.mp h))

end

/-! ## Names -/

section Named

variable {F : Type} {name : F → String} (value : F → Value)

/-- What is written under a name is found there, if no other field has it. -/
theorem entry?_named (hname : ∀ f g : F, name f = name g → f = g) {f : F} :
    ∀ {fields : List F}, f ∈ fields →
      entry? (fields.map fun g => (text (name g), value g)) (name f) = some (value f)
  | g :: fields, h => by
    by_cases hg : name g = name f
    · rw [← hname g f hg, entry?, List.map_cons, List.find?_cons_of_pos (by simp)]
      rfl
    · have hrest : f ∈ fields := (List.mem_cons.mp h).resolve_left fun heq => hg (heq ▸ rfl)
      rw [Value.entry?, List.map_cons, List.find?_cons_of_neg (by simpa using hg)]
      exact entry?_named hname hrest

/-- Nothing is found under another name. -/
theorem entry?_eq_none_of_named {fields : List F} {key : String} (h : ∀ f ∈ fields, name f ≠ key) :
    entry? (fields.map fun g => (text (name g), value g)) key = none := by
  rw [Value.entry?, Option.map_eq_none_iff, List.find?_eq_none]
  intro entry hentry
  obtain ⟨f, hf, rfl⟩ := List.mem_map.mp hentry
  simpa using h f hf

/-- Without an entry of another name they are as they were. -/
theorem dropEntry_named {fields : List F} {key : String} (h : ∀ f ∈ fields, name f ≠ key) :
    dropEntry (fields.map fun g => (text (name g), value g)) key =
      fields.map fun g => (text (name g), value g) := by
  refine List.filter_eq_self.mpr fun entry hentry => ?_
  obtain ⟨f, hf, rfl⟩ := List.mem_map.mp hentry
  simpa using h f hf

/-- One more entry under another name, at the end, is found. -/
theorem entry?_named_concat {fields : List F} {key : String} (h : ∀ f ∈ fields, name f ≠ key)
    (last : Value) :
    entry? ((fields.map fun g => (text (name g), value g)) ++ [(text key, last)]) key =
      some last := by
  have hnone := Option.map_eq_none_iff.mp (entry?_eq_none_of_named value h)
  rw [Value.entry?, List.find?_append, hnone, Option.none_or, List.find?_cons_of_pos (by simp)]
  rfl

/-- Without that entry the named ones are left. -/
theorem dropEntry_named_concat {fields : List F} {key : String} (h : ∀ f ∈ fields, name f ≠ key)
    (last : Value) :
    dropEntry ((fields.map fun g => (text (name g), value g)) ++ [(text key, last)]) key =
      fields.map fun g => (text (name g), value g) := by
  have hkept := dropEntry_named value h
  rw [dropEntry] at hkept ⊢
  rw [List.filter_append, hkept, List.filter_cons_of_neg (by simp), List.filter_nil,
    List.append_nil]

/-- The names of fields are known ones. -/
theorem unknownKeys_named {fields known : List F} (h : ∀ f ∈ fields, f ∈ known) :
    unknownKeys (fields.map fun g => (text (name g), value g)) (known.map name) = [] := by
  refine List.filter_eq_nil_iff.mpr fun key hkey => ?_
  obtain ⟨entry, hentry, rfl⟩ := List.mem_map.mp hkey
  obtain ⟨f, hf, rfl⟩ := List.mem_map.mp hentry
  simpa using ⟨f, h f hf, rfl⟩

end Named

end Value

end ReturnForecast
