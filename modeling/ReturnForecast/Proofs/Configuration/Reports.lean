import ReturnForecast.Proofs.Configuration.Reading

/-!
# What is reported

A request that reads a part of a configuration has an answer, reports a fault of the configuration
in a text that can be written, or lets something escape. What escapes, of whatever section, has few
causes: an infinity where an integer is read, an integer beyond all doubles, unknown keys that have
no order, and an integer with too many digits where it has to be written.

* `FaultsWithin` — a request has an answer, a fault of a configuration, or one that escapes as told
* `Value.IsInfinite`, `Value.IsTooLarge`, `Value.not_isWritable_of_le` — numbers that escape
* `Value.KeysEscape` — what escapes where unknown keys are reported
* `FaultsWithin.report`, `FaultsWithin.ofNumeral`, `FaultsWithin.unknownKeys` — nothing else does
-/

namespace ReturnForecast

/-! ## Requests that report their faults -/

/--
A request has an answer, or a fault of a configuration whose report can be written, or one that
escapes as described.
-/
def FaultsWithin {β : Type} (escapes : Fault → Prop) (request : Except Fault β) : Prop :=
  ∀ fault, request = .error fault →
    (∃ g, fault = .config g ∧ g.isWritable = true) ∨ escapes fault

namespace FaultsWithin

variable {β γ : Type} {escapes : Fault → Prop}

theorem ok (b : β) : FaultsWithin escapes (.ok b) := fun _ h => nomatch h

theorem config {g : ConfigFault} (hwritable : g.isWritable = true) :
    FaultsWithin escapes (.error (.config g) : Except Fault β) :=
  fun _ h => .inl ⟨g, (Except.error.inj h).symm, hwritable⟩

theorem escape {fault : Fault} (h : escapes fault) :
    FaultsWithin escapes (.error fault : Except Fault β) :=
  fun _ hfault => .inr (Except.error.inj hfault ▸ h)

/-- A report that cannot be written escapes. -/
theorem report {g : ConfigFault} (h : g.isWritable = false → escapes (.numeral .unwritable)) :
    FaultsWithin escapes (.error (.report g) : Except Fault β) := by
  unfold Fault.report
  split
  · next hwritable => exact .config hwritable
  · next hnot => exact .escape (h (Bool.eq_false_iff.mpr hnot))

/-- A value has a text, unless it cannot be written. -/
theorem written {v : Value} {toFault : NumeralFault → Fault}
    (h : v.isWritable = false →
      FaultsWithin escapes (.error (toFault .unwritable) : Except Fault String)) :
    FaultsWithin escapes (v.written.mapError toFault) := by
  cases hresult : v.written with
  | ok s => exact .ok s
  | error cause =>
    obtain ⟨hnot, rfl⟩ := Value.not_isWritable_of_written hresult
    exact h hnot

theorem mono {wider : Fault → Prop} {request : Except Fault β} (h : FaultsWithin escapes request)
    (himp : ∀ fault, escapes fault → wider fault) : FaultsWithin wider request :=
  fun fault hfault => (h fault hfault).imp id (himp fault)

theorem bind {request : Except Fault β} {next : β → Except Fault γ}
    (h : FaultsWithin escapes request)
    (hnext : ∀ b, request = .ok b → FaultsWithin escapes (next b)) :
    FaultsWithin escapes (request >>= next) := by
  intro fault hfault
  rcases bind_eq_error hfault with hfault | ⟨b, hb, hfault⟩
  · exact h fault hfault
  · exact hnext b hb fault hfault

theorem mapM {f : β → Except Fault γ} {xs : List β}
    (h : ∀ x ∈ xs, FaultsWithin escapes (f x)) : FaultsWithin escapes (xs.mapM f) := by
  intro fault hfault
  obtain ⟨x, hx, hfault⟩ := exists_error_of_mapM hfault
  exact h x hx fault hfault

end FaultsWithin

/-! ## Numbers beyond a sort of numbers -/

namespace Value

/-- An infinity, which stands for no integer. -/
def IsInfinite (v : Value) : Prop :=
  ∃ x, v = .real x ∧ Decimal.isNaN x = false ∧ x.isFinite = false

/-- An integer beyond all doubles. -/
def IsTooLarge (v : Value) : Prop :=
  ∃ n, v = .int n ∧ (Decimal.toFloat n.natAbs 0).isFinite = false

theorem toInt_of_isInfinite {v : Value} (h : v.IsInfinite) :
    v.toInt = .error .infinityToInteger := by
  obtain ⟨x, rfl, hnan, hfinite⟩ := h
  rw [toInt, hnan, hfinite]
  rfl

theorem toFloat_of_isTooLarge {v : Value} (h : v.IsTooLarge) : v.toFloat = .error .tooLarge := by
  obtain ⟨n, rfl, hfinite⟩ := h
  simp only [toFloat, floatOfInt, hfinite]
  rfl

/-- A power of ten has more digits than its exponent, whatever that is. -/
theorem lt_length_toDigits {n k : Nat} (hk : 0 < k) (h : tenTo k ≤ n) :
    k < (Nat.toDigits 10 n).length := by
  rw [← Nat.not_le, Nat.length_toDigits_le_iff (by decide) hk, Nat.not_lt]
  exact h

/-- An integer with more than 400 digits is beyond all doubles. -/
theorem isTooLarge_of_le {n : Int} (h : tenTo 400 ≤ n.natAbs) : (int n).IsTooLarge := by
  have hdigits : 400 < (toString n.natAbs).length := by
    show 400 < (String.ofList (Nat.toDigits 10 n.natAbs)).length
    rw [String.length_ofList]
    exact lt_length_toDigits (by decide) h
  have hpos : n.natAbs ≠ 0 := fun hzero => by
    rw [hzero] at hdigits
    revert hdigits
    decide
  have hmagnitude : 400 < Int.ofNat (toString n.natAbs).length + 0 := by
    rw [Int.add_zero]
    exact Int.ofNat_lt.mpr hdigits
  have hinfinity : Decimal.toFloat n.natAbs 0 = 1.0 / 0.0 := by
    unfold Decimal.toFloat
    simp only
    rw [if_neg (by simp only [Bool.or_eq_true, decide_eq_true_eq]; omega), if_pos hmagnitude]
  exact ⟨n, rfl, hinfinity ▸ rfl⟩

/-- Only an infinity overflows where an integer is read. -/
theorem isInfinite_of_toInt {v : Value} {cause : NumeralFault} (h : v.toInt = .error cause)
    (hoverflow : cause.category = .overflow) : v.IsInfinite ∧ cause = .infinityToInteger := by
  cases v with
  | real x =>
    rw [toInt] at h
    split at h
    · cases h
      cases hoverflow
    · next hnan =>
      split at h
      · cases h
      · next hfinite =>
        cases h
        exact ⟨⟨x, rfl, Bool.eq_false_iff.mpr hnan, Bool.eq_false_iff.mpr hfinite⟩, rfl⟩
  | text s =>
    simp only [toInt] at h
    split at h
    · cases h
      cases hoverflow
    · split at h
      · cases h
      · cases h
        cases hoverflow
  | bool b => cases h
  | int n => cases h
  | null | list | map =>
    cases h
    cases hoverflow

/-- Only an integer overflows where a double is read. -/
theorem isTooLarge_of_toFloat {v : Value} {cause : NumeralFault} (h : v.toFloat = .error cause)
    (hoverflow : cause.category = .overflow) : v.IsTooLarge ∧ cause = .tooLarge := by
  cases v with
  | int n =>
    simp only [toFloat, floatOfInt] at h
    split at h
    · cases h
    · next hfinite =>
      cases h
      exact ⟨⟨n, rfl, Bool.eq_false_iff.mpr hfinite⟩, rfl⟩
  | text s =>
    rw [toFloat] at h
    split at h
    · cases h
    · cases h
      cases hoverflow
  | bool b => cases h
  | real x => cases h
  | null | list | map =>
    cases h
    cases hoverflow

/-! ## Values that cannot be written -/

/-- An integer with more digits than the most cannot be written. -/
theorem not_isWritable_of_le {n : Int} (h : tenTo Decimal.maxDigits ≤ n.natAbs) :
    (int n).isWritable = false :=
  decide_eq_false (Nat.not_le.mpr (lt_length_toDigits (by decide) h))

theorem toFloat_of_isCompound {v : Value} (h : v.isCompound = true) :
    v.toFloat = .error (.noDecimal v.typeName) := by
  cases v with
  | list | map => rfl
  | _ => cases h

theorem toInt_of_isCompound {v : Value} (h : v.isCompound = true) :
    v.toInt = .error (.noInteger v.typeName) := by
  cases v with
  | list | map => rfl
  | _ => cases h

/-- An integer is a double or overflows; what else cannot be written holds other values. -/
theorem isCompound_of_toFloat {v : Value} {cause : NumeralFault} (h : v.toFloat = .error cause)
    (hoverflow : cause.category ≠ .overflow) (hnot : v.isWritable = false) :
    v.isCompound = true := by
  cases v with
  | int n =>
    simp only [toFloat, floatOfInt] at h
    split at h
    · cases h
    · cases h
      exact (hoverflow rfl).elim
  | list | map => rfl
  | _ => cases hnot

/-- An integer is itself; what else cannot be written holds other values. -/
theorem isCompound_of_toInt {v : Value} {cause : NumeralFault} (h : v.toInt = .error cause)
    (hnot : v.isWritable = false) : v.isCompound = true := by
  cases v with
  | int n => cases h
  | list | map => rfl
  | _ => cases hnot

/-! ## Keys without an order -/

/-- Several keys that are neither all texts nor all numbers have no order. -/
def Unordered (keys : List Value) : Prop :=
  keys.all isText = false ∧ keys.all isNumber = false ∧ 2 ≤ keys.length

theorem sortKeys?_eq_none_iff {keys : List Value} : sortKeys? keys = none ↔ Unordered keys := by
  unfold sortKeys? Unordered
  cases keys.all isText <;> cases keys.all isNumber <;> simp [Nat.lt_iff_add_one_le]

theorem not_unordered_nil : ¬ Unordered [] := fun h => nomatch h.1

theorem perm_of_sortKeys? {keys sorted : List Value} (h : sortKeys? keys = some sorted) :
    sorted.Perm keys := by
  unfold sortKeys? at h
  split at h
  · exact Option.some.inj h ▸ List.mergeSort_perm keys _
  · split at h
    · exact Option.some.inj h ▸ List.mergeSort_perm keys _
    · split at h
      · exact Option.some.inj h ▸ .refl keys
      · cases h

/--
What escapes where unknown keys are reported: that they have no order, or else that one of them
cannot be written.
-/
inductive KeysEscape (keys : List Value) : Fault → Prop
  | unordered (h : Unordered keys) : KeysEscape keys .wrongType
  | unwritable {key : Value} (hordered : ¬ Unordered keys) (hmem : key ∈ keys)
      (h : key.isWritable = false) : KeysEscape keys (.numeral .unwritable)

/-- Nothing escapes where no key is unknown. -/
theorem KeysEscape.ne_nil {keys : List Value} {fault : Fault} (h : KeysEscape keys fault) :
    keys ≠ [] := by
  rintro rfl
  cases h with
  | unordered h => exact not_unordered_nil h
  | unwritable _ hmem => exact List.not_mem_nil hmem

end Value

/-- A number that is not one escapes only if it overflows, or if its report cannot be written. -/
theorem FaultsWithin.ofNumeral {β : Type} {escapes : Fault → Prop}
    {toFault : NumeralFault → ConfigFault} {cause : NumeralFault}
    (hescapes : cause.category = .overflow → escapes (.numeral cause))
    (hreport : cause.category ≠ .overflow → (toFault cause).isWritable = false →
      escapes (.numeral .unwritable)) :
    FaultsWithin escapes (.error (Fault.ofNumeral toFault cause) : Except Fault β) := by
  unfold Fault.ofNumeral
  split
  · next hoverflow => exact .escape (hescapes hoverflow)
  · next hoverflow => exact .report (hreport hoverflow)

/-- Unknown keys are reported unless something escapes from them. -/
theorem FaultsWithin.unknownKeys {β : Type} {keys : List Value}
    {toFault : List Value → ConfigFault}
    (hreport : ∀ sorted, (toFault sorted).isWritable = (Value.list sorted).isWritable) :
    FaultsWithin (Value.KeysEscape keys)
      (.error (Spec.unknownKeysFault keys toFault) : Except Fault β) := by
  unfold Spec.unknownKeysFault
  split
  · next sorted hsorted =>
    refine .report fun hnot => ?_
    rw [hreport, Value.isWritable_list] at hnot
    obtain ⟨key, hmem, hkey⟩ := List.all_eq_false.mp hnot
    refine .unwritable (fun hunordered => ?_) ((Value.perm_of_sortKeys? hsorted).mem_iff.mp hmem)
      (Bool.eq_false_iff.mpr hkey)
    cases (Value.sortKeys?_eq_none_iff.mpr hunordered).symm.trans hsorted
  · next hnone => exact .escape (.unordered (Value.sortKeys?_eq_none_iff.mp hnone))

end ReturnForecast
