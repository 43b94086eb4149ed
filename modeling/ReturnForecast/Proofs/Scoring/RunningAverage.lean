import ReturnForecast.Proofs.Scoring.ReplayLanes
import ReturnForecast.Scoring.Backfill

/-!
# The running average, replayed and scored at once

The running average of the returns is scored in two ways: by a loop over the closes, and by a replay
of a predictor whose forecasts wait in a queue. At each usable bar the forecast made at the bar
before is due, whatever the horizon, as long as the bars are at least a horizon apart.

* `Standing` — where the loop stands: the last price, the average so far and the metrics
* `Follows` — the book and the predictor of a replay at such a standing
* `stepModel_follows` / `stepModel_fault` — a bar keeps this up, and fails where the loop fails
* `metricsOf_replay` — a replay of one predictor for one horizon
-/

namespace ReturnForecast

variable {α : Type} [Scalar α]

/-! ## The loop -/

/-- Where the scoring of the running average stands after a usable price. -/
structure Standing (α : Type) where
  price : α
  average : Option α
  metrics : Metrics α

namespace Standing

/-- The average after a further return. -/
def nextAverage (share : α) (average : Option α) (r : α) : α :=
  match average with
  | none => r
  | some mu => ewma mu r share

/-- The average after a price that gives a return, or that gives none. -/
def averageAfter (share : α) (average : Option α) : Option α → Option α
  | none => average
  | some r => some (nextAverage share average r)

/-- The standing after a further usable price. -/
def next (share : α) (s : Standing α) (price : α) : Except Fault (Standing α) :=
  (log? (price / s.price)).map fun r =>
    { price, average := some (nextAverage share s.average r)
      metrics := s.metrics.observe r (s.average.getD 0) }

/-- The loop over the returns, price by price. -/
theorem foldlM_next (share : α) : ∀ (prices : List α) (s : Standing α),
    (prices.foldlM (next share) s).map (·.metrics) =
      (Backfill.returnsAfter s.price prices).map fun returns =>
        s.metrics.observeAll (Backfill.plainPairs share s.average returns)
  | [], _ => rfl
  | price :: prices, s => by
    rw [List.foldlM_cons, Backfill.returnsAfter, next]
    cases log? (price / s.price) with
    | error fault => rfl
    | ok r =>
      refine (foldlM_next share prices _).trans ?_
      simp only [bind, Except.bind]
      cases Backfill.returnsAfter price prices with
      | error fault => rfl
      | ok returns => rfl

/-- The standing at the first usable price. -/
def first (window : Int) (price : α) : Standing α :=
  { price, average := none, metrics := .fresh window standardR2MinSamples }

theorem plain_eq (closes : List α) (alphaMean : α) (window : Int) :
    Backfill.plain closes alphaMean window =
      match closes.filter isValidPrice with
      | [] => .ok (.fresh window standardR2MinSamples)
      | price :: rest =>
        (rest.foldlM (next (clampUnit alphaMean)) (first window price)).map (·.metrics) := by
  unfold Backfill.plain Backfill.returns
  cases closes.filter isValidPrice with
  | nil => rfl
  | cons price rest =>
    refine Eq.trans ?_ (foldlM_next (clampUnit alphaMean) rest (first window price)).symm
    simp only [first]
    cases Backfill.returnsAfter price rest with
    | error fault => rfl
    | ok returns => rfl

end Standing

/-! ## The replay -/

section Replay

variable (plan : ReplayPlan) (id label : String) (horizonMs : Int) (c : Ewma.Settings α)

/-- The average that a track of an averaging predictor has. -/
def averageOf (t : Track α (Ewma.State α)) : Option α := t.fit.map (·.state.mu)

/-- A scale of one is used as it is. -/
theorem usableScale_one : Book.usableScale (1 : α) = 1 := by
  unfold Book.usableScale
  split
  · rfl
  · rfl

/-- What an averaging predictor learns from a price. -/
theorem observe_ewma {price : α} (hprice : isValidPrice price = true)
    (t : Track α (Ewma.State α)) :
    (∀ fault, logReturn price t.lastPrice = .error fault →
      t.observe (Ewma.forecaster c) price = .error fault) ∧
    ∀ r?, logReturn price t.lastPrice = .ok r? →
      ∃ next, t.observe (Ewma.forecaster c) price = .ok next ∧ next.lastPrice = some price ∧
        averageOf next = Standing.averageAfter (clampUnit c.alphaMean) (averageOf t) r? := by
  unfold Track.observe
  rw [if_pos hprice]
  refine ⟨fun fault h => by rw [h]; rfl, fun r? h => ?_⟩
  rw [h]
  cases r? with
  | none => exact ⟨_, rfl, rfl, rfl⟩
  | some r =>
    cases hfit : t.fit with
    | none =>
      refine ⟨_, rfl, rfl, ?_⟩
      simp only [averageOf, hfit]
      rfl
    | some fit =>
      refine ⟨_, rfl, rfl, ?_⟩
      simp only [averageOf, hfit]
      rfl

/-- The estimate of an averaging predictor is its average, zero before the first return. -/
theorem estimate_ewma (t : Track α (Ewma.State α)) (least : α) :
    ∃ sigma, t.estimate (Ewma.forecaster c) least { mu := 0, sigma := 0 } =
      .ok { mu := (averageOf t).getD 0, sigma } := by
  unfold Track.estimate Track.forecast averageOf
  cases t.fit with
  | none => exact ⟨_, rfl⟩
  | some fit => exact ⟨_, rfl⟩

/-- An averaging predictor whose track of the symbol has this last price and this average. -/
def Learned (last average : Option α) (model : Predictor α) : Prop :=
  ∃ (scopes : Scopes α (Ewma.State α)) (factors : MacroFactors α),
    model = { settings := .ewma c, scopes := scopes, factors := factors } ∧
      (trackOf scopes.base plan.symbol).lastPrice = last ∧
      averageOf (trackOf scopes.base plan.symbol) = average

/-- The forecast at a standing, if the queue accepts it. -/
def Standing.prediction? (s : Standing α) (nowMs : Int) : Option (Pending α) :=
  Book.prediction? nowMs horizonMs s.price (s.average.getD 0) 1

/--
The lane and the predictor of a replay at a standing: the forecast made there waits alone, and what
is learned is the average.
-/
structure Follows (s : Standing α) (nowMs : Int) (l : Lane α) (model : Predictor α) : Prop where
  usable : isValidPrice s.price = true
  lane : l = ⟨(s.prediction? horizonMs nowMs).toList, s.metrics⟩
  learned : Learned plan c (some s.price) s.average model

variable {plan id label horizonMs c}

theorem learned_fresh {α : Type} (plan : ReplayPlan) (c : Ewma.Settings α) :
    Learned plan c none none (.fresh (.ewma c)) := ⟨{}, {}, rfl, rfl, rfl⟩

/-- An averaging predictor at a bar: it learns the return, and forecasts the average. -/
theorem forecastAt_learned {last average : Option α} {model : Predictor α}
    (h : Learned plan c last average model) {bar : Bar α} (hprice : isValidPrice bar.price = true) :
    (∀ fault, logReturn bar.price last = .error fault →
      plan.forecastAt model bar = .error fault) ∧
    ∀ r?, logReturn bar.price last = .ok r? → ∃ model' f,
      plan.forecastAt model bar = .ok (model', f) ∧
      Learned plan c (some bar.price)
        (Standing.averageAfter (clampUnit c.alphaMean) average r?) model' ∧
      f.nowMs = truncate bar.time ∧ f.price = bar.price ∧
      f.estimate.mu = (Standing.averageAfter (clampUnit c.alphaMean) average r?).getD 0 := by
  obtain ⟨scopes, factors, rfl, rfl, rfl⟩ := h
  obtain ⟨hfault, hnext⟩ := observe_ewma c hprice (trackOf scopes.base plan.symbol)
  refine ⟨fun fault h => ?_, fun r? h => ?_⟩
  · exact plan.forecastAt_of_observe_fault (c := .ewma c) rfl scopes factors bar (hfault fault h)
  · obtain ⟨next, hobserve, hlast, haverage⟩ := hnext r? h
    obtain ⟨sigma, hestimate⟩ := estimate_ewma c next c.minSigma
    have htrack := trackOf_insert_self scopes.base plan.symbol next
    refine ⟨_, _, plan.forecastAt_of_observe (c := .ewma c) rfl scopes factors bar hobserve
      hestimate, ⟨_, factors, rfl, ?_, ?_⟩, rfl, rfl, ?_⟩
    · exact (congrArg Track.lastPrice htrack).trans hlast
    · exact (congrArg averageOf htrack).trans haverage
    · exact congrArg (·.getD 0) haverage

section Standing

variable {s : Standing α} {nowMs laterMs : Int} {price : α}

/-- A finite average waits as it is, and is scored at the next bar. -/
theorem resolve_of_finite (hone : ∀ x : α, x / 1 = x) (hs : isValidPrice s.price = true)
    (hfinite : Scalar.isFinite (s.average.getD 0) = true) (hprice : isValidPrice price = true)
    (hdue : nowMs + max horizonMs 0 ≤ laterMs) :
    (⟨(s.prediction? horizonMs nowMs).toList, s.metrics⟩ : Lane α).resolve price laterMs =
      (log? (price / s.price)).map fun r => (⟨[], s.metrics.observe r (s.average.getD 0)⟩, 1) := by
  have haccepts : Book.accepts s.price (s.average.getD 0) = true :=
    Bool.and_eq_true_iff.mpr ⟨hs, hfinite⟩
  unfold Standing.prediction? Book.prediction? Lane.resolve
  rw [if_pos hprice, if_pos haccepts, usableScale_one, Option.toList_some]
  simp only [List.takeWhile_cons, List.dropWhile_cons, decide_eq_true hdue, if_true,
    List.takeWhile_nil, List.dropWhile_nil, Book.scoreAll, List.mapM_cons, List.mapM_nil,
    Book.score, hone]
  cases log? (price / s.price) with
  | error fault => rfl
  | ok r => rfl

/-- What is not finite is not accepted, so nothing waits. -/
theorem resolve_of_not_finite (hfinite : Scalar.isFinite (s.average.getD 0) = false)
    (hprice : isValidPrice price = true) :
    (⟨(s.prediction? horizonMs nowMs).toList, s.metrics⟩ : Lane α).resolve price laterMs =
      .ok (⟨[], s.metrics⟩, 0) := by
  have haccepts : ¬ Book.accepts s.price (s.average.getD 0) = true := by
    rw [Book.accepts, hfinite, Bool.and_false]
    exact Bool.false_ne_true
  unfold Standing.prediction? Book.prediction? Lane.resolve
  rw [if_pos hprice, if_neg haccepts]
  rfl

/-- What waits at a standing is scored at the next bar, or it fails as the loop does. -/
theorem resolve_standing (hone : ∀ x : α, x / 1 = x) (hs : isValidPrice s.price = true)
    (hprice : isValidPrice price = true) (hdue : nowMs + max horizonMs 0 ≤ laterMs) :
    (∀ r, log? (price / s.price) = .ok r → ∃ n,
      (⟨(s.prediction? horizonMs nowMs).toList, s.metrics⟩ : Lane α).resolve price laterMs =
        .ok (⟨[], s.metrics.observe r (s.average.getD 0)⟩, n)) ∧
    ∀ fault, log? (price / s.price) = .error fault →
      (⟨(s.prediction? horizonMs nowMs).toList, s.metrics⟩ : Lane α).resolve price laterMs =
          .error fault ∨
        ∃ scored, (⟨(s.prediction? horizonMs nowMs).toList, s.metrics⟩ : Lane α).resolve price
          laterMs = .ok scored := by
  cases hfinite : Scalar.isFinite (s.average.getD 0) with
  | true =>
    rw [resolve_of_finite hone hs hfinite hprice hdue]
    exact ⟨fun r h => ⟨1, by rw [h]; rfl⟩, fun fault h => .inl (by rw [h]; rfl)⟩
  | false =>
    rw [resolve_of_not_finite hfinite hprice]
    refine ⟨fun r _ => ⟨0, ?_⟩, fun fault _ => .inr ⟨_, rfl⟩⟩
    rw [Metrics.observe_of_not_finite _ (by rw [hfinite, Bool.and_false])]

end Standing

/-- A lane without predictions after a forecast. -/
theorem schedule_empty (m : Metrics α) (nowMs : Int) (basePrice mu : α) :
    (⟨[], m⟩ : Lane α).schedule nowMs horizonMs basePrice mu 1 =
      ⟨(Book.prediction? nowMs horizonMs basePrice mu 1).toList, m⟩ := by
  unfold Lane.schedule
  cases Book.prediction? nowMs horizonMs basePrice mu 1 with
  | none => rfl
  | some p => rfl

/-! ### One bar -/

section Bar

variable (hhorizons : plan.horizons = [(label, horizonMs)]) (hplain : plan.normalise = false)
include hhorizons

/-- A bar fails where the predictor does, unless scoring fails before it with the same fault. -/
theorem stepModel_fault {book : Book α} {model : Predictor α} {bar : Bar α} {fault : Fault}
    (hscore : (book.lane (plan.key id label)).resolve bar.price (truncate bar.time) =
        .error fault ∨
      ∃ scored, (book.lane (plan.key id label)).resolve bar.price (truncate bar.time) = .ok scored)
    (hforecast : plan.forecastAt model bar = .error fault) :
    plan.stepModel bar.price (truncate bar.time) book id model = .error fault := by
  rw [plan.stepModel_eq, hhorizons, hforecast]
  unfold ReplayPlan.resolve
  rcases hscore with hscore | ⟨⟨l, n⟩, hscore⟩
  · obtain ⟨book', hbook⟩ := Book.resolveDue_of_lane_fault hscore
    rw [hbook]
    rfl
  · obtain ⟨book', hbook, -⟩ := Book.resolveDue_of_lane hscore
    rw [hbook]
    rfl

include hplain

/-- A bar at which nothing is left to wait. -/
theorem stepModel_follows {book : Book α} {model : Predictor α} {last average : Option α}
    (hmodel : Learned plan c last average model) {bar : Bar α}
    (hprice : isValidPrice bar.price = true) {m : Metrics α} {n : Nat}
    (hscore : (book.lane (plan.key id label)).resolve bar.price (truncate bar.time) =
      .ok (⟨[], m⟩, n)) {r? : Option α} (hreturn : logReturn bar.price last = .ok r?) :
    ∃ book' model', plan.stepModel bar.price (truncate bar.time) book id model =
        .ok (book', model') ∧
      Follows plan horizonMs c
        ⟨bar.price, Standing.averageAfter (clampUnit c.alphaMean) average r?, m⟩
        (truncate bar.time) (book'.lane (plan.key id label)) model' := by
  obtain ⟨model', f, hf, hlearned, hnow, hfprice, hmu⟩ :=
    (forecastAt_learned hmodel hprice).2 r? hreturn
  have hstep : (book.lane (plan.key id label)).step plan.normalise horizonMs f =
      .ok ⟨(Book.prediction? f.nowMs horizonMs f.price f.estimate.mu 1).toList, m⟩ := by
    unfold Lane.step Forecast.scale
    rw [hplain, hfprice, hnow, hscore, if_neg Bool.false_ne_true]
    exact congrArg Except.ok (schedule_empty m _ _ _)
  have hkeys : (plan.keysOf id plan.horizons).Nodup := by
    rw [hhorizons]
    exact List.nodup_singleton _
  have hsteps : ∀ horizon ∈ plan.horizons,
      ∃ l, (book.lane (plan.key id horizon.1)).step plan.normalise horizon.2 f = .ok l := by
    rw [hhorizons]
    exact fun horizon hmem => List.mem_singleton.mp hmem ▸ ⟨_, hstep⟩
  obtain ⟨book', hbook, hlanes, -⟩ := plan.stepModel_lanes book hkeys hf hsteps
  have hlane := hlanes (label, horizonMs) (hhorizons ▸ List.mem_singleton_self _)
  refine ⟨book', model', hbook, hprice, ?_, hlearned⟩
  rw [hstep, hfprice, hnow, hmu] at hlane
  exact (Except.ok.inj hlane).symm

/-! ### All bars -/

/-- A bar is at least a horizon later than another one. -/
def Apart (horizonMs : Int) (a b : Bar α) : Prop :=
  truncate a.time + max horizonMs 0 ≤ truncate b.time

omit hhorizons hplain in
theorem stepModels_singleton (book : Book α) (model : Predictor α) (price : α) (nowMs : Int) :
    plan.stepModels price nowMs book [(id, model)] =
      (plan.stepModel price nowMs book id model).map fun stepped =>
        (stepped.1, [(id, stepped.2)]) := by
  unfold ReplayPlan.stepModels
  cases plan.stepModel price nowMs book id model with
  | error fault => rfl
  | ok stepped => rfl

/-- **A replay keeps up with the loop** over the prices of its bars, faults included. -/
theorem run_follows (hone : ∀ x : α, x / 1 = x) : ∀ (bars : List (Bar α)) {s : Standing α}
    {nowMs : Int} {book : Book α} {model : Predictor α},
    Follows plan horizonMs c s nowMs (book.lane (plan.key id label)) model →
    (∀ bar ∈ bars, ReplayPlan.usable bar = true) →
    (∀ bar ∈ bars, nowMs + max horizonMs 0 ≤ truncate bar.time) →
    bars.Pairwise (Apart horizonMs) →
    (plan.run book [(id, model)] bars).map (fun r => r.1.metricsOf (plan.key id label)) =
      ((bars.map (·.price)).foldlM (Standing.next (clampUnit c.alphaMean)) s).map (·.metrics)
  | [], s, nowMs, book, model, h, _, _, _ => by
    exact congrArg (fun l => Except.ok l.metrics) h.lane
  | bar :: bars, s, nowMs, book, model, h, husable, hdue, hapart => by
    have hbar := husable bar List.mem_cons_self
    have hprice : isValidPrice bar.price = true := (Bool.and_eq_true_iff.mp hbar).2
    obtain ⟨hhead, htail⟩ := List.pairwise_cons.mp hapart
    have hreturn : logReturn bar.price (some s.price) = (log? (bar.price / s.price)).map some :=
      if_pos (Bool.and_eq_true_iff.mpr ⟨h.usable, hprice⟩)
    -- The loop and the predictor take the same logarithm, so they fail together.
    obtain ⟨hscored, hfailed⟩ := resolve_standing hone h.usable hprice
      (hdue bar List.mem_cons_self)
    rw [← h.lane] at hscored hfailed
    rw [List.map_cons, List.foldlM_cons, Standing.next, ReplayPlan.run, if_pos hbar,
      stepModels_singleton]
    cases hlog : log? (bar.price / s.price) with
    | error fault =>
      rw [hlog] at hreturn
      rw [stepModel_fault hhorizons (hfailed fault hlog)
        ((forecastAt_learned h.learned hprice).1 fault hreturn)]
      rfl
    | ok r =>
      rw [hlog] at hreturn
      obtain ⟨n, hn⟩ := hscored r hlog
      obtain ⟨book', model', hstep, hfollows⟩ :=
        stepModel_follows hhorizons hplain h.learned hprice hn hreturn
      rw [hstep]
      exact run_follows hone bars hfollows (fun b hb => husable b (List.mem_cons_of_mem _ hb))
        hhead htail

variable (id) in
/-- **A replay of one averaging predictor for one horizon** scores what the loop scores. -/
theorem metricsOf_replay (hone : ∀ x : α, x / 1 = x) {bars : List (Bar α)}
    (hfinite : ∀ bar ∈ bars, Scalar.isFinite bar.time = true)
    (hapart : bars.Pairwise (Apart horizonMs)) (window : Int) :
    (plan.replay (.fresh window standardR2MinSamples) [(id, .fresh (.ewma c))] bars).map
        (·.metricsOf (plan.key id label)) =
      Backfill.plain (bars.map (·.price)) c.alphaMean window := by
  have hprices : (bars.map (·.price)).filter isValidPrice =
      (ReplayPlan.usableBars bars).map (·.price) := by
    rw [List.filter_map]
    refine congrArg _ (List.filter_congr fun bar hbar => ?_)
    rw [ReplayPlan.usable, hfinite bar hbar, Bool.true_and, Function.comp_apply]
  have husable : ∀ bar ∈ ReplayPlan.usableBars bars, ReplayPlan.usable bar = true :=
    fun bar hbar => (List.mem_filter.mp hbar).2
  have hlater : (ReplayPlan.usableBars bars).Pairwise (Apart horizonMs) := hapart.filter _
  rw [Standing.plain_eq, hprices, ReplayPlan.replay, ← plan.run_usableBars]
  cases hbars : ReplayPlan.usableBars bars with
  | nil => rfl
  | cons bar rest =>
    -- Nothing waits at the first bar, and it teaches no return: this is the first standing.
    rw [hbars] at husable hlater
    obtain ⟨hhead, htail⟩ := List.pairwise_cons.mp hlater
    have hbar := husable bar List.mem_cons_self
    have hempty : ((Book.fresh window standardR2MinSamples).lane (plan.key id label)).resolve
        bar.price (truncate bar.time) = .ok (⟨[], .fresh window standardR2MinSamples⟩, 0) :=
      if_pos (Bool.and_eq_true_iff.mp hbar).2
    obtain ⟨book, model, hstep, hfollows⟩ := stepModel_follows hhorizons hplain
      (learned_fresh plan c) (Bool.and_eq_true_iff.mp hbar).2 hempty (logReturn_none bar.price)
    rw [ReplayPlan.run, if_pos hbar, stepModels_singleton, hstep]
    refine Eq.trans ?_ (run_follows hhorizons hplain hone rest hfollows
      (fun b hb => husable b (List.mem_cons_of_mem bar hb)) hhead htail)
    show ((plan.run book [(id, model)] rest).map (·.1)).map _ = _
    cases plan.run book [(id, model)] rest with
    | error fault => rfl
    | ok r => rfl

end Bar

end Replay

end ReturnForecast
