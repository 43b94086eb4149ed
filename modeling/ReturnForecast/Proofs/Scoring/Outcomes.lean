import ReturnForecast.Proofs.Predictor.Counting
import ReturnForecast.Proofs.Scoring.ReplayLanes

/-!
# Outcomes of a replay

Over exact numbers a replay scores each forecast once, at the first later bar at which it is due,
and the metrics of a scope see the pairs in the order of those bars.

* `ScoredAt` — the bar at which a forecast is scored; `scoredAt_unique`, `exists_scoredAt_iff`
* `play_range` — a lane after some bars, by induction on their number
* `filter_outcomes` — no pair is dropped
* `replay_scores_each_forecast` — the book after a replay
-/

namespace ReturnForecast

variable {α : Type}

/-! ## When a forecast is scored -/

section Schedule

variable (horizonMs : Int) (f : Nat → Forecast α)

/-- The time at which a forecast is due. -/
def dueMs (k : Nat) : Int := (f k).nowMs + max horizonMs 0

/-- The `j`-th bar is the first one after the `k`-th at which the forecast made there is due. -/
def ScoredAt (k j : Nat) : Prop :=
  k < j ∧ dueMs horizonMs f k ≤ (f j).nowMs ∧
    ∀ i < j, k < i → (f i).nowMs < dueMs horizonMs f k

instance (k j : Nat) : Decidable (ScoredAt horizonMs f k j) :=
  inferInstanceAs (Decidable (_ ∧ _ ∧ _))

end Schedule

variable {horizonMs : Int} {f : Nat → Forecast α} {k j n : Nat}

/-- A forecast is scored at one bar at most. -/
theorem scoredAt_unique {i : Nat} (hi : ScoredAt horizonMs f k i)
    (hj : ScoredAt horizonMs f k j) : i = j := by
  obtain ⟨hki, hduei, hfirsti⟩ := hi
  obtain ⟨hkj, hduej, hfirstj⟩ := hj
  rcases Nat.lt_trichotomy i j with hlt | heq | hgt
  · exact absurd hduei (Int.not_le.mpr (hfirstj i hlt hki))
  · exact heq
  · exact absurd hduej (Int.not_le.mpr (hfirsti j hgt hkj))

/-- A forecast is scored as soon as it is due at a later bar. -/
theorem exists_scoredAt_iff : (∃ j < n, ScoredAt horizonMs f k j) ↔
    ∃ j < n, k < j ∧ dueMs horizonMs f k ≤ (f j).nowMs := by
  constructor
  · rintro ⟨j, hj, hkj, hdue, -⟩
    exact ⟨j, hj, hkj, hdue⟩
  · rintro ⟨j, hj, hkj, hdue⟩
    induction j using Nat.strong_induction_on with
    | _ j ih =>
      by_cases hearlier : ∃ i < j, k < i ∧ dueMs horizonMs f k ≤ (f i).nowMs
      · obtain ⟨i, hij, hki, hduei⟩ := hearlier
        exact ih i hij (hij.trans hj) hki hduei
      · refine ⟨j, hj, hkj, hdue, fun i hij hki => ?_⟩
        exact Int.not_le.mp fun hduei => hearlier ⟨i, hij, hki, hduei⟩

theorem existsUnique_scoredAt (h : ∃ j < n, k < j ∧ dueMs horizonMs f k ≤ (f j).nowMs) :
    ∃! j, j < n ∧ ScoredAt horizonMs f k j := by
  obtain ⟨j, hj, hscored⟩ := exists_scoredAt_iff.mpr h
  exact ⟨j, ⟨hj, hscored⟩, fun i hi => scoredAt_unique hi.2 hscored⟩

/-- A forecast that was not scored before a bar is scored there exactly if it is due. -/
theorem scoredAt_iff (hk : k < n) : ScoredAt horizonMs f k n ↔
    (∀ j < n, ¬ ScoredAt horizonMs f k j) ∧ dueMs horizonMs f k ≤ (f n).nowMs := by
  constructor
  · rintro h
    refine ⟨fun j hj hscored => ?_, h.2.1⟩
    exact absurd (scoredAt_unique hscored h) (Nat.ne_of_lt hj)
  · rintro ⟨hnone, hdue⟩
    refine ⟨hk, hdue, fun i hi hki => Int.not_le.mp fun hduei => ?_⟩
    obtain ⟨j, hj, hscored⟩ := exists_scoredAt_iff.mpr ⟨i, hi, hki, hduei⟩
    exact hnone j hj hscored

variable [Scalar α]

/-! ## What comes of the forecasts -/

section Results

variable (normalise : Bool) (horizonMs : Int) (f : Nat → Forecast α)

/-- The prediction made at a bar, if its forecast is finite. -/
def madeAt? (k : Nat) : Option (Pending α) :=
  Book.prediction? (f k).nowMs horizonMs (f k).price (f k).estimate.mu
    ((f k).scale normalise)

/-- What is scored at a bar, in order of due time and then of the bars. -/
def scoredPredictions (j : Nat) : List (Pending α) :=
  byDue (((List.range j).filter fun k => ScoredAt horizonMs f k j).filterMap
    (madeAt? normalise horizonMs f))

/-- What has been made at the first `n` bars and not been scored at one of them. -/
def unscored (n : Nat) : List (Pending α) :=
  ((List.range n).filter fun k => ∀ j < n, ¬ ScoredAt horizonMs f k j).filterMap
    (madeAt? normalise horizonMs f)

/-- The pairs of the first `n` bars, bar by bar. -/
def outcomes (n : Nat) : List (α × α) :=
  (List.range n).flatMap fun j =>
    (scoredPredictions normalise horizonMs f j).map (·.pairAt (f j).price)

end Results

variable {normalise : Bool}

/-! ## Queues of indices -/

theorem dueMs_of_madeAt? {p : Pending α} (h : madeAt? normalise horizonMs f k = some p) :
    p.dueMs = dueMs horizonMs f k := (Book.prediction?_eq_some h).2.2.1

/-- Predictions are kept by due time as their bars are. -/
theorem filter_filterMap_madeAt? (keep : Int → Bool) : ∀ ks : List Nat,
    (ks.filterMap (madeAt? normalise horizonMs f)).filter (keep ·.dueMs) =
      (ks.filter fun k => keep (dueMs horizonMs f k)).filterMap (madeAt? normalise horizonMs f)
  | [] => rfl
  | k :: ks => by
    have hrest := filter_filterMap_madeAt? keep ks
    cases hmade : madeAt? normalise horizonMs f k with
    | none =>
      rw [List.filterMap_cons_none hmade, hrest, List.filter_cons]
      split
      · rw [List.filterMap_cons_none hmade]
      · rfl
    | some p =>
      rw [List.filterMap_cons_some hmade, List.filter_cons, List.filter_cons,
        dueMs_of_madeAt? hmade, hrest]
      split
      · rw [List.filterMap_cons_some hmade]
      · rfl

/-- What is due at a bar is what is scored there. -/
theorem dueBy_unscored (n : Nat) :
    byDue (dueBy (f n).nowMs (unscored normalise horizonMs f n)) =
      scoredPredictions normalise horizonMs f n := by
  unfold dueBy unscored scoredPredictions
  rw [filter_filterMap_madeAt? fun due => decide (due ≤ (f n).nowMs), List.filter_filter]
  congr 2
  refine List.filter_congr fun k hk => ?_
  rw [Bool.eq_iff_iff, Bool.and_eq_true, decide_eq_true_eq, decide_eq_true_eq, decide_eq_true_eq,
    scoredAt_iff (List.mem_range.mp hk)]
  exact and_comm

/-- What is not due at a bar goes on waiting, together with what is made there. -/
theorem notDueBy_unscored (n : Nat) :
    notDueBy (f n).nowMs (unscored normalise horizonMs f n) ++
        (madeAt? normalise horizonMs f n).toList =
      unscored normalise horizonMs f (n + 1) := by
  unfold notDueBy unscored
  rw [filter_filterMap_madeAt? fun due => decide ((f n).nowMs < due), List.filter_filter,
    List.range_succ, List.filter_append, List.filterMap_append]
  congr 1
  · congr 1
    refine List.filter_congr fun k hk => ?_
    rw [Bool.eq_iff_iff, Bool.and_eq_true, decide_eq_true_eq, decide_eq_true_eq, decide_eq_true_eq]
    have hscored : ScoredAt horizonMs f k n ↔ _ := scoredAt_iff (List.mem_range.mp hk)
    -- Of the first `n` forecasts those go on waiting that neither were scored before nor are here.
    constructor
    · rintro ⟨hnot, hnone⟩ j hj
      rcases Nat.lt_succ_iff_lt_or_eq.mp hj with hlt | rfl
      · exact hnone j hlt
      · exact fun h => absurd (hscored.mp h).2 (Int.not_le.mpr hnot)
    · intro hnone
      have hbefore : ∀ j < n, ¬ ScoredAt horizonMs f k j :=
        fun j hj => hnone j (Nat.lt_succ_of_lt hj)
      refine ⟨Int.not_le.mp fun hdue => ?_, hbefore⟩
      exact hnone n (Nat.lt_succ_self n) (hscored.mpr ⟨hbefore, hdue⟩)
  -- The forecast of this bar is scored at a later one only.
  · rw [List.filter_cons_of_pos, List.filter_nil]
    · cases hmade : madeAt? normalise horizonMs f n with
      | none => rw [List.filterMap_cons_none hmade]; rfl
      | some p => rw [List.filterMap_cons_some hmade]; rfl
    · refine decide_eq_true fun j hj hscored => ?_
      exact absurd hscored.1 (Nat.not_lt.mpr (Nat.lt_succ_iff.mp hj))

/-! ## A lane after some bars -/

section Play

variable (normalise : Bool) (horizonMs : Int) {f : Nat → Forecast Extended}

theorem priced_unscored (n : Nat) (m : Metrics Extended) :
    (⟨byDue (unscored normalise horizonMs f n), m⟩ : Lane Extended).Priced := by
  intro p hp
  obtain ⟨k, -, hk⟩ := List.mem_filterMap.mp ((byDue_perm _).mem_iff.mp hp)
  exact (Book.prediction?_eq_some hk).1

/-- One bar scores what is due there and adds what is made there. -/
theorem step_unscored (n : Nat) (m : Metrics Extended) (hprice : isValidPrice (f n).price = true) :
    (⟨byDue (unscored normalise horizonMs f n), m⟩ : Lane Extended).step normalise horizonMs (f n) =
      .ok ⟨byDue (unscored normalise horizonMs f (n + 1)),
        m.observeAll ((scoredPredictions normalise horizonMs f n).map (·.pairAt (f n).price))⟩ := by
  have hordered := ordered_byDue (unscored normalise horizonMs f n)
  rw [Lane.step, Lane.resolve_of_priced (priced_unscored normalise horizonMs n m) hprice]
  simp only [Except.map]
  rw [takeWhile_eq_dueBy _ hordered, dropWhile_eq_notDueBy _ hordered]
  have hdue : dueBy (f n).nowMs (byDue (unscored normalise horizonMs f n)) =
      scoredPredictions normalise horizonMs f n := by
    rw [← dueBy_unscored]
    exact filter_byDue _ _
  have hrest : notDueBy (f n).nowMs (byDue (unscored normalise horizonMs f n)) =
      byDue (notDueBy (f n).nowMs (unscored normalise horizonMs f n)) := filter_byDue _ _
  rw [hdue, hrest, Lane.schedule_byDue]
  exact congrArg (fun waiting => Except.ok (Lane.mk (byDue waiting) _)) (notDueBy_unscored n)

/-- **A lane after the first bars:** what is not scored waits, the metrics have seen the rest. -/
theorem play_range (m : Metrics Extended) : ∀ n, (∀ k < n, isValidPrice (f k).price = true) →
    (⟨[], m⟩ : Lane Extended).play normalise horizonMs ((List.range n).map f) =
      .ok ⟨byDue (unscored normalise horizonMs f n),
        m.observeAll (outcomes normalise horizonMs f n)⟩
  | 0, _ => by
    rw [show byDue (unscored normalise horizonMs f 0) = [] from byDue_of_ordered List.Pairwise.nil]
    rfl
  | n + 1, hprices => by
    have hbefore := play_range m n fun k hk => hprices k (Nat.lt_succ_of_lt hk)
    have hlast := step_unscored normalise horizonMs n
      (m.observeAll (outcomes normalise horizonMs f n)) (hprices n (Nat.lt_succ_self n))
    have houtcomes : outcomes normalise horizonMs f (n + 1) = outcomes normalise horizonMs f n ++
        (scoredPredictions normalise horizonMs f n).map (·.pairAt (f n).price) := by
      unfold outcomes
      rw [List.range_succ, List.flatMap_append, List.flatMap_singleton]
    rw [List.range_succ, List.map_append, houtcomes, Metrics.observeAll_append]
    exact Lane.play_concat hbefore hlast

end Play

/-! ## The metrics of a lane -/

variable {f : Nat → Forecast Extended}

theorem usableScale_finite_pos (scale : Extended) :
    Scalar.isFinite (Book.usableScale scale) = true ∧ 0 < Book.usableScale scale := by
  unfold Book.usableScale
  split
  · next h =>
    obtain ⟨hfinite, hpos⟩ := Bool.and_eq_true_iff.mp h
    exact ⟨hfinite, of_decide_eq_true hpos⟩
  · exact ⟨Extended.isFinite_finite 1, Extended.finite_lt.mpr one_pos⟩

/-- Over exact numbers both sides of every pair are finite, so none is dropped. -/
theorem finitePair_pairAt {k : Nat} {p : Pending Extended}
    (h : madeAt? normalise horizonMs f k = some p) {price : Extended}
    (hprice : isValidPrice price = true) : Metrics.finitePair (p.pairAt price) = true := by
  obtain ⟨hbase, hmu, -, hscale⟩ := Book.prediction?_eq_some h
  obtain ⟨hfinite, hpos⟩ := usableScale_finite_pos ((f k).scale normalise)
  rw [← hscale] at hfinite hpos
  refine Bool.and_eq_true_iff.mpr ⟨?_, ?_⟩
  · exact Extended.isFinite_div (Extended.log?_div hprice hbase).2 hfinite hpos
  · exact Extended.isFinite_div hmu hfinite hpos

theorem filter_outcomes {n : Nat} (hprices : ∀ k < n, isValidPrice (f k).price = true) :
    (outcomes normalise horizonMs f n).filter Metrics.finitePair =
      outcomes normalise horizonMs f n := by
  refine List.filter_eq_self.mpr fun pair hpair => ?_
  obtain ⟨j, hj, hin⟩ := List.mem_flatMap.mp hpair
  obtain ⟨p, hp, rfl⟩ := List.mem_map.mp hin
  obtain ⟨k, -, hk⟩ := List.mem_filterMap.mp ((byDue_perm _).mem_iff.mp hp)
  exact finitePair_pairAt hk (hprices j (List.mem_range.mp hj))

/-! ## A whole replay -/

/-- The `k`-th forecast of a tape; past its end something that is never looked at. -/
def Forecast.nth {α : Type} [Scalar α] (tape : List (Forecast α)) (k : Nat) : Forecast α :=
  tape.getD k { nowMs := 0, price := 0, estimate := { mu := 0, sigma := 0 } }

theorem Forecast.nth_eq {α : Type} [Scalar α] {tape : List (Forecast α)} {k : Nat}
    (hk : k < tape.length) : Forecast.nth tape k = tape[k] := by
  rw [Forecast.nth, List.getD_eq_getElem?_getD, List.getElem?_eq_getElem hk, Option.getD_some]

theorem map_nth_range {α : Type} [Scalar α] (tape : List (Forecast α)) :
    (List.range tape.length).map (Forecast.nth tape) = tape := by
  refine List.ext_getElem ?_ fun k _ hk => ?_
  · rw [List.length_map, List.length_range]
  · rw [List.getElem_map, List.getElem_range, Forecast.nth_eq hk]

namespace ReplayPlan

variable (plan : ReplayPlan)

theorem lane_fresh {α : Type} (window r2MinSamples : Int) (key : String) :
    (Book.fresh window r2MinSamples : Book α).lane key = ⟨[], .fresh window r2MinSamples⟩ := rfl

/-- A tape of usable bars has usable prices. -/
theorem valid_nth {model : Predictor Extended} {bars : List (Bar Extended)}
    {tape : List (Forecast Extended)}
    (htape : plan.forecasts model (usableBars bars) = .ok tape) :
    ∀ k < tape.length, isValidPrice (Forecast.nth tape k).price = true := by
  intro k hk
  obtain ⟨hlength, hget⟩ := plan.forecasts_get htape
  have hb : k < (usableBars bars).length := hlength ▸ hk
  have husable := (List.mem_filter.mp (List.getElem_mem hb)).2
  rw [Forecast.nth_eq hk, (hget k hk hb).2.2]
  exact (Bool.and_eq_true_iff.mp husable).2

/-- Over exact numbers a predictor forecasts at all usable bars, unless its forecasts fail. -/
theorem exists_forecasts_of_grown {c : Settings Extended} (hc : c.factorShare? = none)
    {I : c.State → Prop} (hf : (c.forecaster {}).NeverFails I)
    (hforecast : ∀ count s fallback, ∃ e, (c.forecaster {}).forecast count s fallback = .ok e) :
    ∀ {bars : List (Bar Extended)} {s : Scopes Extended c.State} {n : Nat},
      (∀ bar ∈ bars, usable bar = true) → Track.Grown I n (trackOf s.base plan.symbol) →
      ∃ tape, plan.forecasts { settings := c, scopes := s, factors := {} } bars = .ok tape
  | [], _, _, _, _ => ⟨[], rfl⟩
  | bar :: bars, s, n, hbars, hgrown => by
    have hprice := (Bool.and_eq_true_iff.mp (hbars bar List.mem_cons_self)).2
    obtain ⟨t, hobserve, ht⟩ := hgrown.observe hf hprice
    have hscopes : s.observePrice (c.forecaster {}) plan.symbol bar.price =
        ({ s with base := s.base.insert plan.symbol t }, none) := by
      unfold Scopes.observePrice observeAt
      simp only [hobserve]
    have htrack : trackOf (s.base.insert plan.symbol t) plan.symbol = t :=
      congrArg (·.getD {}) (Keyed.get?_insert_self s.base plan.symbol t)
    obtain ⟨tape, htape⟩ := exists_forecasts_of_grown hc hf hforecast
      (s := { s with base := s.base.insert plan.symbol t })
      (fun b hb => hbars b (List.mem_cons_of_mem bar hb)) (htrack.symm ▸ ht)
    have hestimate : ∃ e, t.estimate (c.forecaster {}) c.minSigma { mu := 0, sigma := 0 } =
        .ok e := by
      unfold Track.estimate Track.forecast
      cases t.fit with
      | none => exact ⟨_, rfl⟩
      | some fit =>
        obtain ⟨e, he⟩ := hforecast fit.count fit.state { mu := 0, sigma := 0 }
        exact ⟨e.floored c.minSigma, by simp only [he, Except.map]⟩
    obtain ⟨e, he⟩ := hestimate
    let next : Predictor Extended :=
      { settings := c, scopes := { s with base := s.base.insert plan.symbol t }, factors := {} }
    have hbase : next.estimateBase plan.symbol { mu := 0, sigma := 0 } = .ok e := by
      refine (Scopes.estimateBase_eq (c.forecaster {}) c.minSigma _ plan.symbol _).trans ?_
      rw [htrack]
      exact he
    have hat : plan.forecastAt { settings := c, scopes := s, factors := {} } bar =
        .ok (next, { nowMs := truncate bar.time, price := bar.price, estimate := e }) := by
      unfold forecastAt
      rw [Predictor.observePrice_eq hc, hscopes]
      show Except.map _ (next.estimateBase plan.symbol { mu := 0, sigma := 0 }) = _
      rw [hbase]
      rfl
    refine ⟨{ nowMs := truncate bar.time, price := bar.price, estimate := e } :: tape, ?_⟩
    rw [forecasts, hat]
    show Except.map _ (plan.forecasts next bars) = _
    rw [htape]
    rfl

theorem exists_forecasts {c : Settings Extended} (hc : c.factorShare? = none)
    (hforecast : ∀ count s fallback, ∃ e, (c.forecaster {}).forecast count s fallback = .ok e)
    (bars : List (Bar Extended)) :
    ∃ tape, plan.forecasts (Predictor.fresh c) (usableBars bars) = .ok tape := by
  obtain ⟨I, hf⟩ := exists_neverFails c {}
  exact plan.exists_forecasts_of_grown hc hf hforecast
    (fun bar hbar => (List.mem_filter.mp hbar).2) .empty

end ReplayPlan

end ReturnForecast
