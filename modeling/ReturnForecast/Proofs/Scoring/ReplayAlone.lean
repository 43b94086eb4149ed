import ReturnForecast.Proofs.Requests
import ReturnForecast.Proofs.Scoring.ReplayLanes

/-!
# One predictor and one horizon alone

A replay that ends has played every lane. So each scope is left with the predictions and the metrics
that a replay of its predictor and its horizon alone leaves there, if the keys of the scopes differ.

* `ReplayPlan.played_of_run` — a replay that ends has played every lane
* `ReplayPlan.replay_alone` — what a scope holds is a matter of one predictor and one horizon
-/

namespace ReturnForecast

namespace ReplayPlan

variable {α : Type} [Scalar α] (plan : ReplayPlan)

/-! ## What a replay that goes on has done -/

/-- If scoring has gone through, every lane can be scored. -/
theorem scored_of_resolve {id : String} {price : α} {nowMs : Int} :
    ∀ {horizons : List (String × Int)} {book book' : Book α}, (plan.keysOf id horizons).Nodup →
      plan.resolve id price nowMs book horizons = .ok book' → ∀ horizon ∈ horizons,
        ∃ scored, (book.lane (plan.key id horizon.1)).resolve price nowMs = .ok scored
  | [], _, _, _, _ => fun _ h => (List.not_mem_nil h).elim
  | horizon :: rest, book, book', hkeys, h => by
    obtain ⟨hnot, hrest⟩ : plan.key id horizon.1 ∉ plan.keysOf id rest ∧
      (plan.keysOf id rest).Nodup := List.nodup_cons.mp hkeys
    rw [resolve] at h
    split at h
    · next book₁ n hdue =>
      intro other hother
      rcases List.mem_cons.mp hother with rfl | hother
      · exact ⟨_, Book.lane_resolve_of_resolveDue hdue⟩
      · have hne : plan.key id horizon.1 ≠ plan.key id other.1 :=
          fun heq => hnot (heq.symm ▸ plan.key_mem_keysOf id hother)
        have hframe := Book.sameAt_resolveDue book hne price nowMs
        rw [hdue] at hframe
        rw [← hframe.lane_eq]
        exact scored_of_resolve hrest h other hother
    · cases h

/-- If a predictor has gone past a bar, it has a forecast there, and every lane of it a next one. -/
theorem stepped_of_stepModel {id : String} {model : Predictor α} {bar : Bar α}
    {book : Book α} {after : Book α × Predictor α} (hkeys : (plan.keysOf id plan.horizons).Nodup)
    (h : plan.stepModel bar.price (truncate bar.time) book id model = .ok after) :
    ∃ f, plan.forecastAt model bar = .ok (plan.advance model bar, f) ∧
      ∀ horizon ∈ plan.horizons,
        ∃ l, (book.lane (plan.key id horizon.1)).step plan.normalise horizon.2 f = .ok l := by
  rw [stepModel_eq] at h
  obtain ⟨book₁, hresolve, h⟩ := bind_eq_ok h
  obtain ⟨⟨model', f⟩, hf, -⟩ := bind_eq_ok h
  obtain ⟨-, -, hnow, hprice⟩ := plan.forecastAt_ok hf
  refine ⟨f, plan.advance_eq hf ▸ hf, fun horizon hmem => ?_⟩
  obtain ⟨scored, hscored⟩ := plan.scored_of_resolve hkeys hresolve horizon hmem
  rw [Lane.step, hprice, hnow, hscored]
  exact ⟨_, rfl⟩

theorem stepped_of_stepModels {bar : Bar α} : ∀ {models : List (String × Predictor α)}
    {book : Book α} {after : Book α × List (String × Predictor α)},
    (plan.scopeKeys (models.map (·.1))).Nodup →
    plan.stepModels bar.price (truncate bar.time) book models = .ok after →
    ∀ m ∈ models, ∃ f, plan.forecastAt m.2 bar = .ok (plan.advance m.2 bar, f) ∧
      ∀ horizon ∈ plan.horizons,
        ∃ l, (book.lane (plan.key m.1 horizon.1)).step plan.normalise horizon.2 f = .ok l
  | [], _, _, _, _ => fun _ h => (List.not_mem_nil h).elim
  | (id, model) :: rest, book, after, hkeys, h => by
    have hsplit : plan.scopeKeys (((id, model) :: rest).map (·.1)) =
      plan.keysOf id plan.horizons ++ plan.scopeKeys (rest.map (·.1)) := rfl
    rw [hsplit] at hkeys
    obtain ⟨hown, hothers, hdisjoint⟩ := List.nodup_append'.mp hkeys
    obtain ⟨⟨book₁, model'⟩, hstep, h⟩ := bind_eq_ok h
    obtain ⟨⟨book₂, rest'⟩, hstepRest, -⟩ := bind_eq_ok h
    obtain ⟨f, hf, hsteps⟩ := plan.stepped_of_stepModel hown hstep
    intro m hm
    rcases List.mem_cons.mp hm with rfl | hm
    · exact ⟨f, hf, hsteps⟩
    · obtain ⟨f', hf', hsteps'⟩ := stepped_of_stepModels hothers hstepRest m hm
      refine ⟨f', hf', fun horizon hmem => ?_⟩
      -- The lanes of the other predictors are as they were before this one.
      obtain ⟨book₁', hstep', -, hframe⟩ := plan.stepModel_lanes book hown hf hsteps
      obtain ⟨rfl, -⟩ := Prod.mk.inj (Except.ok.inj (hstep'.symm.trans hstep))
      have hother : plan.key m.1 horizon.1 ∉ plan.keysOf id plan.horizons := fun hin =>
        hdisjoint hin (List.mem_flatMap.mpr
          ⟨m.1, List.mem_map.mpr ⟨m, hm, rfl⟩, plan.key_mem_keysOf m.1 hmem⟩)
      rw [← hframe _ hother]
      exact hsteps' horizon hmem

/-- **A replay that ends has played every lane,** with forecasts at all bars. -/
theorem played_of_run : ∀ {bars : List (Bar α)} {book : Book α}
    {models : List (String × Predictor α)} {after : Book α × List (String × Predictor α)},
    (∀ bar ∈ bars, usable bar = true) → (plan.scopeKeys (models.map (·.1))).Nodup →
    plan.run book models bars = .ok after →
    ∀ m ∈ models, ∃ tape, plan.forecasts m.2 bars = .ok tape ∧ ∀ horizon ∈ plan.horizons,
      ∃ l, (book.lane (plan.key m.1 horizon.1)).play plan.normalise horizon.2 tape = .ok l
  | [], _, _, _, _, _, _ => fun _ _ => ⟨[], rfl, fun _ _ => ⟨_, rfl⟩⟩
  | bar :: bars, book, models, after, husable, hkeys, h => by
    rw [run, if_pos (husable bar List.mem_cons_self)] at h
    obtain ⟨⟨book₁, models₁⟩, hstep, hrun⟩ := bind_eq_ok h
    have hsteps := plan.stepped_of_stepModels hkeys hstep
    obtain ⟨book₁', hstep', hlanes, -⟩ := plan.stepModels_lanes bar models book hkeys hsteps
    obtain ⟨rfl, rfl⟩ := Prod.mk.inj (Except.ok.inj (hstep'.symm.trans hstep))
    have hids : (models.map fun m => (m.1, plan.advance m.2 bar)).map (·.1) = models.map (·.1) := by
      rw [List.map_map]
      rfl
    have hplayed := played_of_run (fun b hb => husable b (List.mem_cons_of_mem bar hb))
      (hids.symm ▸ hkeys) hrun
    intro m hm
    obtain ⟨f, hf, -⟩ := hsteps m hm
    obtain ⟨tape, htape, hplays⟩ := hplayed _ (List.mem_map.mpr ⟨m, hm, rfl⟩)
    refine ⟨f :: tape, ?_, fun horizon hmem => ?_⟩
    · rw [forecasts, hf]
      exact congrArg (Except.map _) htape
    · rw [Lane.play_cons (hlanes m hm f hf horizon hmem)]
      exact hplays horizon hmem

/-! ## Alone -/

/-- The plan for one horizon alone. -/
def only (horizon : String × Int) : ReplayPlan := { plan with horizons := [horizon] }

/--
**What a scope holds is a matter of one predictor and one horizon.** If the keys of the scopes
differ and a replay ends, replaying a predictor for a horizon alone ends too, and leaves in their
scope the same predictions and the same metrics.
-/
theorem replay_alone {book after : Book α} {models : List (String × Predictor α)}
    {bars : List (Bar α)} (hkeys : (plan.scopeKeys (models.map (·.1))).Nodup)
    (h : plan.replay book models bars = .ok after) {m : String × Predictor α} (hm : m ∈ models)
    {horizon : String × Int} (hmem : horizon ∈ plan.horizons) :
    ∃ alone, (plan.only horizon).replay book [m] bars = .ok alone ∧
      alone.lane (plan.key m.1 horizon.1) = after.lane (plan.key m.1 horizon.1) := by
  obtain ⟨⟨_, models'⟩, hrun, rfl⟩ := map_eq_ok h
  rw [← run_usableBars] at hrun
  have husable : ∀ bar ∈ usableBars bars, usable bar = true :=
    fun bar hbar => (List.mem_filter.mp hbar).2
  have hplayed := plan.played_of_run husable hkeys hrun
  obtain ⟨whole, _, hwhole, hlanes, -⟩ := plan.run_lanes (usableBars bars) book models husable hkeys
    hplayed
  obtain ⟨rfl, -⟩ := Prod.mk.inj (Except.ok.inj (hwhole.symm.trans hrun))
  obtain ⟨tape, htape, hplays⟩ := hplayed m hm
  have htape' : (plan.only horizon).forecasts m.2 (usableBars bars) = .ok tape :=
    (forecasts_congr (show (plan.only horizon).symbol = plan.symbol from rfl) m.2 _).trans htape
  obtain ⟨alone, models'', halone, hlanes', -⟩ := (plan.only horizon).run_lanes (usableBars bars)
    book [m] husable (List.nodup_singleton _) fun m' hm' => by
      obtain rfl := List.mem_singleton.mp hm'
      refine ⟨tape, htape', fun other hother => ?_⟩
      obtain rfl := List.mem_singleton.mp hother
      exact hplays other hmem
  refine ⟨alone, ?_, ?_⟩
  · rw [replay, ← run_usableBars, halone]
    rfl
  · have hsame := (hlanes' m List.mem_cons_self tape htape' horizon List.mem_cons_self).symm.trans
      (hlanes m hm tape htape horizon hmem)
    exact Except.ok.inj hsame

end ReplayPlan

end ReturnForecast
