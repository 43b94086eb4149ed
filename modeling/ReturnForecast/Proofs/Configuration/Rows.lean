import ReturnForecast.Proofs.Configuration.Entries
import ReturnForecast.Proofs.Configuration.Reading
import ReturnForecast.Proofs.Scoring.ReplayAlone
import ReturnForecast.Proofs.Scoring.ScopeKeys
import Mathlib.Data.List.Nodup

/-!
# Rows of a configuration and their scopes

A configuration is scored row by row: one predictor for one horizon. Three layers have a notion of
the same name. A mapping tells its keys apart, ids are the texts of the keys, and a scope has the id
and the label in lower case, without the blanks around them, joined to one text. So keys that differ
may give one id, which no predictors are built for, and ids that differ may give one scope.

* `Catalogue.build_of_nodup`, `Catalogue.build_of_not_nodup` — predictors are built exactly if their
  ids differ
* `ReplayPlan.key_eq_iff`, `ReplayPlan.scopeKeys_nodup_iff` — which rows have a scope of their own
* `configured_rows_apart` — what rows with scopes of their own are left with
* `configured_rows_clash` — an id, and a scope, that two rows of a configuration share
-/

namespace ReturnForecast

/-! ## Predictors for ids -/

namespace Catalogue

variable {α : Type}

/-- A fresh predictor for every row. -/
def freshAll (specs : List (String × Spec α)) : List (String × Predictor α) :=
  specs.map fun row => (row.1, Predictor.ofSpec row.2)

/-- Predictors are built, where some ids have been taken, if no id is taken twice. -/
theorem buildAfter_of_nodup : ∀ {taken : List String} {specs : List (String × Spec α)},
    (specs.map (·.1)).Nodup → (∀ row ∈ specs, row.1 ∉ taken) →
    buildAfter taken specs = .ok (freshAll specs)
  | _, [], _, _ => rfl
  | taken, row :: rest, hids, htaken => by
    obtain ⟨hnot, hrest⟩ := List.nodup_cons.mp hids
    have hnew : taken.contains row.1 = false := by
      simpa using htaken row List.mem_cons_self
    rw [buildAfter, hnew, buildAfter_of_nodup hrest fun other hother hin => ?_]
    · rfl
    · rcases List.mem_cons.mp hin with heq | hin
      · exact hnot (List.mem_map.mpr ⟨other, hother, heq⟩)
      · exact htaken other (List.mem_cons_of_mem row hother) hin

/-- Otherwise such an id is reported. -/
theorem buildAfter_of_not_nodup : ∀ {taken : List String} {specs : List (String × Spec α)},
    ¬ ((specs.map (·.1)).Nodup ∧ ∀ row ∈ specs, row.1 ∉ taken) →
    ∃ id, 2 ≤ (taken ++ specs.map (·.1)).count id ∧
      buildAfter taken specs = .error (.config (.duplicateId id))
  | _, [], h => (h ⟨List.nodup_nil, fun _ hrow => (List.not_mem_nil hrow).elim⟩).elim
  | taken, row :: rest, h => by
    -- The first id has been taken, or what is wrong is wrong with the rest.
    by_cases htaken : row.1 ∈ taken
    · refine ⟨row.1, ?_, ?_⟩
      · rw [List.count_append, List.map_cons, List.count_cons_self]
        have hcount : 0 < taken.count row.1 := List.count_pos_iff.mpr htaken
        omega
      · rw [buildAfter, if_pos (List.contains_iff_mem.mpr htaken)]
    · have hrest : ¬ ((rest.map (·.1)).Nodup ∧ ∀ other ∈ rest, other.1 ∉ row.1 :: taken) := by
        rintro ⟨hids, hfree⟩
        refine h ⟨List.nodup_cons.mpr ⟨fun hin => ?_, hids⟩, fun other hother => ?_⟩
        · obtain ⟨other, hother, heq⟩ := List.mem_map.mp hin
          exact hfree other hother (List.mem_cons.mpr (.inl heq))
        · rcases List.mem_cons.mp hother with rfl | hother
          · exact htaken
          · exact fun hin => hfree other hother (List.mem_cons_of_mem _ hin)
      obtain ⟨id, hcount, hfault⟩ := buildAfter_of_not_nodup hrest
      refine ⟨id, ?_, ?_⟩
      · rw [List.map_cons, List.count_append, List.count_cons]
        rw [List.count_append, List.count_cons] at hcount
        omega
      · rw [buildAfter, if_neg (by simpa using htaken), hfault]
        rfl

/-- **Predictors are built** if their ids differ. -/
theorem build_of_nodup {specs : List (String × Spec α)} (h : (specs.map (·.1)).Nodup) :
    build specs = .ok (freshAll specs) :=
  buildAfter_of_nodup h fun _ _ => List.not_mem_nil

/-- Otherwise an id that occurs twice is reported. -/
theorem build_of_not_nodup {specs : List (String × Spec α)} (h : ¬ (specs.map (·.1)).Nodup) :
    ∃ id, 2 ≤ (specs.map (·.1)).count id ∧ build specs = .error (.config (.duplicateId id)) := by
  have htwice : ∃ id, 2 ≤ (([] : List String) ++ specs.map (·.1)).count id ∧
      buildAfter [] specs = .error (.config (.duplicateId id)) :=
    buildAfter_of_not_nodup fun hboth => h hboth.1
  rwa [List.nil_append] at htwice

theorem ids_freshAll (specs : List (String × Spec α)) :
    (freshAll specs).map (·.1) = specs.map (·.1) := by
  rw [freshAll, List.map_map]
  rfl

end Catalogue

/-! ## Scopes of rows -/

/-- An id or a label as it stands in a key. -/
def keyName (name : String) : String := Text.lower (Text.trim name)

/-- What a key says of a row: its id and its label. -/
def rowKey (id label : String) : String := keyName id ++ keySeparator ++ keyName label

/-- Intact ids are told apart, whatever the labels are. -/
theorem rowKey_eq_iff {id label id' label' : String} (h : Intact (keyName id).toList)
    (h' : Intact (keyName id').toList) :
    rowKey id label = rowKey id' label' ↔
      keyName id = keyName id' ∧ keyName label = keyName label' := by
  constructor
  · intro hkey
    -- Cut from the left, an intact id comes off whole; the rest is the label, whatever it holds.
    have hcut := congrArg (fun key : String => cutAtSeparator key.toList) hkey
    have htoList : ∀ id label, (rowKey id label).toList =
        (keyName id).toList ++ separatorChars ++ (keyName label).toList := by
      intro id label
      simp [rowKey, keySeparator, separatorChars]
    simp only [htoList, cutAtSeparator_append h, cutAtSeparator_append h', Option.some.injEq,
      Prod.mk.injEq] at hcut
    exact ⟨String.toList_inj.mp hcut.1, String.toList_inj.mp hcut.2⟩
  · rintro ⟨hid, hlabel⟩
    rw [rowKey, rowKey, hid, hlabel]

/-- The keys of rows, id by id. -/
def rowKeys (ids labels : List String) : List String :=
  ids.flatMap fun id => labels.map (rowKey id)

/-- Rows are told apart by ids that are intact and differ as keys show them, and by such labels. -/
theorem nodup_rowKeys {ids labels : List String} (hids : (ids.map keyName).Nodup)
    (hintact : ∀ id ∈ ids, Intact (keyName id).toList) (hlabels : (labels.map keyName).Nodup) :
    (rowKeys ids labels).Nodup := by
  -- Within one id the labels differ; between two ids the keys differ already there.
  refine List.nodup_flatMap.mpr ⟨fun id hid => ?_, ?_⟩
  · refine (List.nodup_map_iff_inj_on (hlabels.of_map keyName)).mpr
      fun label hlabel label' hlabel' heq => ?_
    have hname := ((rowKey_eq_iff (hintact id hid) (hintact id hid)).mp heq).2
    exact List.inj_on_of_nodup_map hlabels hlabel hlabel' hname
  · refine (List.pairwise_map.mp hids).imp_of_mem fun {id id'} hid hid' hne => ?_
    refine List.disjoint_left.mpr fun key hkey hkey' => ?_
    obtain ⟨label, -, rfl⟩ := List.mem_map.mp hkey
    obtain ⟨label', -, heq⟩ := List.mem_map.mp hkey'
    exact hne ((rowKey_eq_iff (hintact id' hid') (hintact id hid)).mp heq).1.symm

namespace ReplayPlan

/-- What a key says before it comes to the row. -/
def head (plan : ReplayPlan) : String :=
  Text.upper (Text.trim plan.symbol) ++ keySeparator ++ plan.market.name ++ keySeparator

theorem key_eq_append (plan : ReplayPlan) (id label : String) :
    plan.key id label = plan.head ++ rowKey id label := by
  simp [key, scopeKey, ScopeParts.key, head, rowKey, keyName, String.append_assoc]

/-- **Two rows have one scope** exactly if keys say the same of them. -/
theorem key_eq_iff (plan : ReplayPlan) {id label id' label' : String} :
    plan.key id label = plan.key id' label' ↔ rowKey id label = rowKey id' label' := by
  rw [key_eq_append, key_eq_append, String.append_right_inj]

theorem scopeKeys_eq (plan : ReplayPlan) (ids : List String) :
    plan.scopeKeys ids = (rowKeys ids (plan.horizons.map (·.1))).map (plan.head ++ ·) := by
  unfold scopeKeys keysOf rowKeys
  rw [List.map_flatMap]
  refine List.flatMap_congr fun id _ => ?_
  rw [List.map_map, List.map_map]
  exact List.map_congr_left fun horizon _ => plan.key_eq_append id horizon.1

theorem scopeKeys_nodup_iff (plan : ReplayPlan) (ids : List String) :
    (plan.scopeKeys ids).Nodup ↔ (rowKeys ids (plan.horizons.map (·.1))).Nodup := by
  rw [scopeKeys_eq]
  exact List.nodup_map_iff fun _ _ h => (String.append_right_inj _).mp h

end ReplayPlan

/-! ## Configurations -/

namespace Configuration

/-- Keys that are texts, and differ as keys do, are ids that differ. -/
theorem nodup_toText_of_texts {rows : List (Value × Value)}
    (htexts : ∀ row ∈ rows, row.1.isText = true)
    (hkeys : rows.Pairwise fun row other => Value.sameKey row.1 other.1 = false) :
    (rows.map (·.1.toText)).Nodup := by
  refine List.pairwise_map.mpr (hkeys.imp_of_mem fun {row other} hrow hother hdiffer heq => ?_)
  obtain ⟨key, value⟩ := row
  obtain ⟨key', value'⟩ := other
  have hkey := htexts _ hrow
  have hkey' := htexts _ hother
  cases key <;> cases hkey
  cases key' <;> cases hkey'
  rw [Value.sameKey_text, beq_eq_false_iff_ne] at hdiffer
  exact hdiffer heq

end Configuration

/--
**Rows of a configuration that are told apart.** The ids of a configuration that has been read are
the texts of the keys of its section. Predictors are built exactly if these differ, which they do if
the keys are texts; otherwise an id that occurs twice is reported. In a replay, two rows have one
scope exactly if their ids and labels, trimmed, in lower case and joined, are the same text. So all
rows have scopes of their own if their ids and their labels differ when trimmed and in lower case,
and no such id contains a separator or ends in a colon. Then a replay that ends leaves in the scope
of a row what replaying this row alone leaves there.
-/
theorem configured_rows_apart {entries : List (Value × Value)} {c : Configuration}
    (h : Configuration.ofValue (.map entries) = .ok c) :
    (∀ rows, Configuration.sectionOf entries .predictors = .map rows →
      c.ids = rows.map (·.1.toText) ∧
      ((∀ row ∈ rows, row.1.isText = true) →
        (rows.Pairwise fun row other => Value.sameKey row.1 other.1 = false) → c.ids.Nodup)) ∧
    (c.ids.Nodup → Catalogue.build c.predictors = .ok (Catalogue.freshAll c.predictors)) ∧
    (¬ c.ids.Nodup → ∃ id, 2 ≤ c.ids.count id ∧
      Catalogue.build c.predictors = .error (.config (.duplicateId id))) ∧
    ∀ (symbol : String) (market : Market) (normalise : Bool),
      let plan : ReplayPlan := { symbol, market, horizons := c.horizons, normalise }
      let labels := c.horizons.map (·.1)
      let models := Catalogue.freshAll c.predictors
      (∀ id label id' label',
        plan.key id label = plan.key id' label' ↔ rowKey id label = rowKey id' label') ∧
      ((plan.scopeKeys c.ids).Nodup ↔ (rowKeys c.ids labels).Nodup) ∧
      ((c.ids.map keyName).Nodup →
        (∀ id ∈ c.ids, ¬ separatorChars <:+: (keyName id).toList ∧
          (keyName id).toList.getLast? ≠ some ':') →
        (labels.map keyName).Nodup → c.ids.Nodup ∧ (plan.scopeKeys c.ids).Nodup) ∧
      ((plan.scopeKeys c.ids).Nodup → ∀ window r2MinSamples bars after,
        plan.replay (.fresh window r2MinSamples) models bars = .ok after →
        ∀ m ∈ models, ∀ horizon ∈ c.horizons, ∃ alone,
          (plan.only horizon).replay (.fresh window r2MinSamples) [m] bars = .ok alone ∧
          alone.queue (plan.key m.1 horizon.1) = after.queue (plan.key m.1 horizon.1) ∧
          alone.metricsOf (plan.key m.1 horizon.1) =
            after.metricsOf (plan.key m.1 horizon.1)) := by
  rw [Configuration.ofValue_map, Configuration.ofEntries_eq_ok_iff] at h
  refine ⟨fun rows hrows => ?_, Catalogue.build_of_nodup, Catalogue.build_of_not_nodup,
    fun symbol market normalise => ?_⟩
  · have hids : c.ids = rows.map (·.1.toText) :=
      Configuration.ids_of_readPredictors (hrows ▸ h.predictors)
    refine ⟨hids, fun htexts hkeys => ?_⟩
    rw [hids]
    exact Configuration.nodup_toText_of_texts htexts hkeys
  · intro plan labels models
    refine ⟨fun _ _ _ _ => plan.key_eq_iff, plan.scopeKeys_nodup_iff c.ids,
      fun hids hintact hlabels => ⟨hids.of_map keyName, ?_⟩,
      fun hkeys window r2MinSamples bars after hreplay m hm horizon hmem => ?_⟩
    · exact (plan.scopeKeys_nodup_iff c.ids).mpr
        (nodup_rowKeys hids (fun id hid => intact_iff.mpr (hintact id hid)) hlabels)
    · have hids : models.map (·.1) = c.ids := Catalogue.ids_freshAll c.predictors
      have hkeys' : (plan.scopeKeys (models.map (·.1))).Nodup := hids ▸ hkeys
      obtain ⟨alone, halone, hlane⟩ := plan.replay_alone hkeys' hreplay hm hmem
      exact ⟨alone, halone, congrArg Lane.queue hlane, congrArg Lane.metrics hlane⟩

/-- A mapping of predictors by id, all of one kind. -/
def predictorsOfKind (kind : String) (ids : List Value) : List (Value × Value) :=
  [(.text "predictors", .map (ids.map fun id => (id, .map [(.text "kind", .text kind)])))]

/-- Two ids and the standard horizons; the letter case of an id is no matter if they differ. -/
theorem configured_rows_apart_two_ids :
    let entries := predictorsOfKind "ewma" [.text "Fast", .text "slow:ish"]
    let c : Configuration :=
      { predictors := [("Fast", .standard .ewma), ("slow:ish", .standard .ewma)] }
    Configuration.ofValue (.map entries) = .ok c ∧
      Catalogue.build c.predictors = .ok (Catalogue.freshAll c.predictors) ∧
      ∀ symbol market normalise,
        let plan : ReplayPlan := { symbol, market, horizons := c.horizons, normalise }
        (plan.scopeKeys c.ids).Nodup := by
  intro entries c
  have hread : Configuration.ofValue (.map entries) = .ok c := rfl
  obtain ⟨-, hbuild, -, hscopes⟩ := configured_rows_apart hread
  refine ⟨hread, hbuild (by decide), fun symbol market normalise => ?_⟩
  exact ((hscopes symbol market normalise).2.2.1 (by decide +kernel) (by decide +kernel)
    (by decide +kernel)).2

/--
Two keys of a mapping that are one id, so that no predictors are built; and two ids for which
predictors are built, but whose rows have one scope.
-/
theorem configured_rows_clash :
    (∃ c, Configuration.ofValue (.map (predictorsOfKind "ewma" [.int 1, .text "1"])) = .ok c ∧
      Value.sameKey (.int 1) (.text "1") = false ∧
      Catalogue.build c.predictors = .error (.config (.duplicateId "1"))) ∧
    ∃ c, Configuration.ofValue (.map (predictorsOfKind "ewma" [.text "Fast", .text "fast"])) =
        .ok c ∧
      Catalogue.build c.predictors = .ok (Catalogue.freshAll c.predictors) ∧
      "Fast" ∈ c.ids ∧ "fast" ∈ c.ids ∧ ("1m", 60000) ∈ c.horizons ∧
      ∀ symbol market, scopeKey symbol market "Fast" "1m" = scopeKey symbol market "fast" "1m" := by
  refine ⟨⟨{ predictors := [("1", .standard .ewma), ("1", .standard .ewma)] }, rfl, rfl, rfl⟩,
    { predictors := [("Fast", .standard .ewma), ("fast", .standard .ewma)] }, rfl, rfl, by decide,
    by decide, by decide, fun symbol market => ?_⟩
  have hrow : rowKey "Fast" "1m" = rowKey "fast" "1m" := by decide +kernel
  let plan : ReplayPlan := { symbol, market, horizons := [], normalise := false }
  exact plan.key_eq_iff.mpr hrow

end ReturnForecast
