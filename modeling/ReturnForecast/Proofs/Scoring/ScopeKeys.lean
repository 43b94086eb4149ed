import ReturnForecast.Scoring.ScopeKey

/-!
# Where a key is cut

A key is cut at its first three separators. A separator overlaps itself: after a colon it is found
one place too early. So a part comes back whole if it neither contains a separator nor ends in a
colon, and the last part always does.

* `Intact` — characters that a cut leaves in one piece
* `cutAtSeparator_eq_some_iff` — where the cut falls
* `ScopeParts.ofKey?_eq_some_iff` — the parts of a key
* `scopeKey_round_trip` — which scopes come back from their keys, and which texts are keys
-/

namespace ReturnForecast

/-! ## One cut -/

/-- Characters after which a separator is found in its place. -/
def Intact (cs : List Char) : Prop := ¬ separatorChars <:+: cs ++ [':']

theorem separatorChars_prefix_cons {c : Char} {cs : List Char} :
    separatorChars <+: c :: cs ↔ c = ':' ∧ cs.head? = some ':' := by
  cases cs with
  | nil => simp [separatorChars]
  | cons d rest =>
    simp only [separatorChars, List.cons_prefix_cons, List.nil_prefix, and_true, List.head?_cons,
      Option.some.injEq, eq_comm]

theorem intact_nil : Intact [] := by
  unfold Intact
  decide

/-- A further character in front must not make up a separator with the next one. -/
theorem intact_cons {c : Char} {cs : List Char} :
    Intact (c :: cs) ↔ ¬ (c = ':' ∧ (cs ++ [':']).head? = some ':') ∧ Intact cs := by
  unfold Intact
  rw [List.cons_append, List.infix_cons_iff, separatorChars_prefix_cons, not_or]

theorem intact_iff {cs : List Char} :
    Intact cs ↔ ¬ separatorChars <:+: cs ∧ cs.getLast? ≠ some ':' := by
  induction cs with
  | nil => simp [intact_nil, separatorChars]
  | cons c rest ih =>
    rw [intact_cons, ih, List.infix_cons_iff, separatorChars_prefix_cons]
    cases rest with
    | nil => simp [separatorChars]
    | cons d rest => simp only [List.cons_append, List.head?_cons, List.getLast?_cons_cons, not_or,
        and_assoc]

/-- Where no separator starts, the first character belongs to what stands before the cut. -/
theorem cutAtSeparator_cons {c : Char} {cs : List Char} (h : ¬ (c = ':' ∧ cs.head? = some ':')) :
    cutAtSeparator (c :: cs) =
      (cutAtSeparator cs).map fun (before, after) => (c :: before, after) := by
  refine cutAtSeparator.eq_2 c cs ?_
  rintro rest rfl rfl
  exact h ⟨rfl, rfl⟩

theorem cutAtSeparator_append {before : List Char} (h : Intact before) (after : List Char) :
    cutAtSeparator (before ++ separatorChars ++ after) = some (before, after) := by
  induction before with
  | nil => rfl
  | cons c rest ih =>
    obtain ⟨hstart, hrest⟩ := intact_cons.mp h
    have hhead : (rest ++ separatorChars ++ after).head? = (rest ++ [':']).head? := by
      cases rest <;> rfl
    rw [List.cons_append, List.cons_append, cutAtSeparator_cons (by rw [hhead]; exact hstart),
      ih hrest]
    rfl

/-- The first separator is the first one: no earlier one is left before the cut. -/
theorem intact_of_cutAtSeparator {cs before after : List Char}
    (h : cutAtSeparator cs = some (before, after)) : Intact before := by
  fun_induction cutAtSeparator cs generalizing before after with
  | case1 rest =>
    cases h
    exact intact_nil
  | case2 c rest hstart ih =>
    simp only [Option.map_eq_some_iff, Prod.exists, Prod.mk.injEq] at h
    obtain ⟨b, a, hcut, rfl, rfl⟩ := h
    refine intact_cons.mpr ⟨?_, ih hcut⟩
    rintro ⟨rfl, hhead⟩
    -- What follows the cut part starts with a colon, so a separator would have been found here.
    have hrest := eq_of_cutAtSeparator hcut
    cases b with
    | nil => exact hstart (':' :: a) rfl hrest
    | cons d b =>
      cases hhead
      exact hstart (b ++ separatorChars ++ a) rfl hrest
  | case3 => cases h

/-- **Where the cut falls.** -/
theorem cutAtSeparator_eq_some_iff {cs before after : List Char} :
    cutAtSeparator cs = some (before, after) ↔
      cs = before ++ separatorChars ++ after ∧ Intact before := by
  constructor
  · intro h
    exact ⟨eq_of_cutAtSeparator h, intact_of_cutAtSeparator h⟩
  · rintro ⟨rfl, hbefore⟩
    exact cutAtSeparator_append hbefore after

/-! ## Counting separators -/

/-- The number of separators, from the left and without overlaps. -/
def separatorCount : List Char → Nat
  | ':' :: ':' :: rest => separatorCount rest + 1
  | _ :: rest => separatorCount rest
  | [] => 0

/-- A cut takes the first separator away. -/
theorem separatorCount_eq (cs : List Char) : separatorCount cs =
    match cutAtSeparator cs with
    | none => 0
    | some (_, after) => separatorCount after + 1 := by
  fun_induction separatorCount cs with
  | case1 rest => rfl
  | case2 c rest hstart ih =>
    rw [ih, cutAtSeparator.eq_2 c rest hstart]
    cases cutAtSeparator rest <;> rfl
  | case3 => rfl

/-! ## The parts of a key -/

namespace ScopeParts

theorem toList_key (p : ScopeParts) : p.key.toList =
    p.symbol.toList ++ separatorChars ++ (p.market.toList ++ separatorChars ++
      (p.predictor.toList ++ separatorChars ++ p.horizon.toList)) := by
  simp [key, keySeparator, separatorChars]

/-- **The parts of a key** join up to it, and all but the last are intact. -/
theorem ofKey?_eq_some_iff {s : String} {p : ScopeParts} : ofKey? s = some p ↔
    p.key = s ∧ Intact p.symbol.toList ∧ Intact p.market.toList ∧ Intact p.predictor.toList := by
  constructor
  · intro h
    refine ⟨key_of_ofKey? h, ?_⟩
    simp only [ofKey?, Option.bind_eq_bind, Option.pure_def, Option.bind_eq_some_iff, Prod.exists,
      Option.some.injEq] at h
    obtain ⟨symbol, rest, h₁, market, rest', h₂, predictor, horizon, h₃, rfl⟩ := h
    simp only [String.toList_ofList]
    exact ⟨intact_of_cutAtSeparator h₁, intact_of_cutAtSeparator h₂, intact_of_cutAtSeparator h₃⟩
  · rintro ⟨rfl, hsymbol, hmarket, hpredictor⟩
    unfold ofKey?
    rw [toList_key, cutAtSeparator_append hsymbol]
    simp only [Option.bind_eq_bind, Option.bind_some]
    rw [cutAtSeparator_append hmarket]
    simp only [Option.bind_some]
    rw [cutAtSeparator_append hpredictor]
    simp only [Option.bind_some, Option.pure_def, String.ofList_toList]

/-- A text with fewer than three separators is no key. -/
theorem ofKey?_eq_none_iff {s : String} : ofKey? s = none ↔ separatorCount s.toList < 3 := by
  unfold ofKey?
  rw [separatorCount_eq s.toList]
  cases cutAtSeparator s.toList with
  | none => simp
  | some cut =>
    obtain ⟨symbol, rest⟩ := cut
    simp only [Option.bind_eq_bind, Option.bind_some]
    rw [separatorCount_eq rest]
    cases cutAtSeparator rest with
    | none => simp
    | some cut =>
      obtain ⟨market, rest⟩ := cut
      simp only [Option.bind_some]
      rw [separatorCount_eq rest]
      cases cutAtSeparator rest with
      | none => simp
      | some cut => simp

end ScopeParts

theorem Market.intact_name (m : Market) : Intact m.name.toList := by
  unfold Intact
  cases m <;> decide +kernel

/--
**Which scopes come back from their keys,** and which texts are keys. A scope comes back exactly if
its symbol and its predictor neither contain a separator nor end in a colon; its horizon may be any
text. The parts of a text join up to it, and it has parts exactly if it has three separators.
-/
theorem scopeKey_round_trip :
    (∀ (symbol : String) (market : Market) (predictor horizon : String),
      let S := Text.upper (Text.trim symbol)
      let P := Text.lower (Text.trim predictor)
      let H := Text.lower (Text.trim horizon)
      ScopeParts.ofKey? (scopeKey symbol market predictor horizon) =
          some { symbol := S, market := market.name, predictor := P, horizon := H } ↔
        (¬ separatorChars <:+: S.toList ∧ S.toList.getLast? ≠ some ':') ∧
          ¬ separatorChars <:+: P.toList ∧ P.toList.getLast? ≠ some ':') ∧
    (∀ (key : String) (p : ScopeParts), ScopeParts.ofKey? key = some p →
      p.symbol ++ "::" ++ p.market ++ "::" ++ p.predictor ++ "::" ++ p.horizon = key) ∧
    ∀ key : String, ScopeParts.ofKey? key = none ↔ separatorCount key.toList < 3 := by
  refine ⟨fun symbol market predictor horizon => ?_, fun key p => ScopeParts.key_of_ofKey?,
    fun key => ScopeParts.ofKey?_eq_none_iff⟩
  intro S P H
  have hmarket := market.intact_name
  rw [ScopeParts.ofKey?_eq_some_iff, ← intact_iff, ← intact_iff]
  constructor
  · rintro ⟨-, hS, -, hP⟩
    exact ⟨hS, hP⟩
  · rintro ⟨hS, hP⟩
    exact ⟨rfl, hS, hmarket, hP⟩

/-- A key whose last part holds a separator of its own. -/
theorem scopeKey_round_trip_long_horizon :
    let p : ScopeParts := ⟨"BTC", "spot", "ewma", "1m::late"⟩
    ScopeParts.ofKey? "BTC::spot::ewma::1m::late" = some p ∧
      p.symbol ++ "::" ++ p.market ++ "::" ++ p.predictor ++ "::" ++ p.horizon =
        "BTC::spot::ewma::1m::late" := by
  have hparts : ScopeParts.ofKey? "BTC::spot::ewma::1m::late" =
      some ⟨"BTC", "spot", "ewma", "1m::late"⟩ := by decide +kernel
  intro p
  exact ⟨hparts, scopeKey_round_trip.2.1 "BTC::spot::ewma::1m::late" p hparts⟩

end ReturnForecast
