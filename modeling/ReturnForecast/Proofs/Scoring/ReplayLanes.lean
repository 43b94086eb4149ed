import ReturnForecast.Proofs.Scoring.Lane
import ReturnForecast.Proofs.Predictor.Streams
import ReturnForecast.Scoring.Replay

/-!
# A replay as independent lanes

The nested loops of a replay touch one lane of the book at a time. If the keys of the scopes differ,
each lane sees the forecasts of one predictor for one horizon, as if nothing else were replayed.

* `Forecast`, `forecasts` — what a predictor forecasts when it is fed alone
* `Lane.play` — a lane that is played the forecasts of one predictor
* `run_lanes` — a replay plays every lane, and changes no other
-/

namespace ReturnForecast

/-- A forecast made at a usable bar. -/
structure Forecast (α : Type) where
  nowMs : Int
  price : α
  estimate : Estimate α

variable {α : Type} [Scalar α]

/-- What both sides of the pairs of a forecast are divided by, as it is asked for. -/
def Forecast.scale (normalise : Bool) (f : Forecast α) : α :=
  if normalise then f.estimate.sigma else 1

/-! ## Lanes -/

namespace Lane

/-- One lane at one usable bar: what is due is scored, then the forecast is scheduled. -/
def step (normalise : Bool) (horizonMs : Int) (l : Lane α) (f : Forecast α) :
    Except Fault (Lane α) :=
  (l.resolve f.price f.nowMs).map fun scored =>
    scored.1.schedule f.nowMs horizonMs f.price f.estimate.mu (f.scale normalise)

/-- A lane after the forecasts of one predictor for one horizon. -/
def play (normalise : Bool) (horizonMs : Int) (l : Lane α) (tape : List (Forecast α)) :
    Except Fault (Lane α) :=
  tape.foldlM (step normalise horizonMs) l

theorem step_eq_ok {normalise : Bool} {horizonMs : Int} {l l' : Lane α} {f : Forecast α}
    (h : l.step normalise horizonMs f = .ok l') : ∃ scored, l.resolve f.price f.nowMs = .ok scored ∧
      l' = scored.1.schedule f.nowMs horizonMs f.price f.estimate.mu (f.scale normalise) := by
  unfold step at h
  cases hresolve : l.resolve f.price f.nowMs with
  | error fault => rw [hresolve] at h; cases h
  | ok scored =>
    rw [hresolve] at h
    exact ⟨scored, rfl, (Except.ok.inj h).symm⟩

theorem play_cons {normalise : Bool} {horizonMs : Int} {l l' : Lane α} {f : Forecast α}
    (h : l.step normalise horizonMs f = .ok l') (tape : List (Forecast α)) :
    l.play normalise horizonMs (f :: tape) = l'.play normalise horizonMs tape := by
  unfold play
  rw [List.foldlM_cons, h]
  rfl

theorem play_concat {normalise : Bool} {horizonMs : Int} {l l' last : Lane α}
    {tape : List (Forecast α)} {f : Forecast α} (h : l.play normalise horizonMs tape = .ok l')
    (hlast : l'.step normalise horizonMs f = .ok last) :
    l.play normalise horizonMs (tape ++ [f]) = .ok last := by
  unfold play at *
  rw [List.foldlM_append, h]
  show l'.step normalise horizonMs f >>= pure = .ok last
  rw [hlast]
  rfl

theorem step_of_play_cons {normalise : Bool} {horizonMs : Int} {l last : Lane α} {f : Forecast α}
    {tape : List (Forecast α)} (h : l.play normalise horizonMs (f :: tape) = .ok last) :
    ∃ l', l.step normalise horizonMs f = .ok l' ∧ l'.play normalise horizonMs tape = .ok last := by
  unfold play at h
  rw [List.foldlM_cons] at h
  cases hstep : l.step normalise horizonMs f with
  | error fault => rw [hstep] at h; cases h
  | ok l' =>
    rw [hstep] at h
    exact ⟨l', rfl, h⟩

end Lane

/-! ## One predictor alone -/

namespace ReplayPlan

variable (plan : ReplayPlan)

/-- A predictor after a usable bar, and its forecast there. -/
def forecastAt (model : Predictor α) (bar : Bar α) : Except Fault (Predictor α × Forecast α) :=
  match model.observePrice plan.symbol bar.price with
  | (_, some fault) => .error fault
  | (model, none) =>
    (model.estimateBase plan.symbol { mu := 0, sigma := 0 }).map fun e =>
      (model, { nowMs := truncate bar.time, price := bar.price, estimate := e })

/-- The forecasts of a predictor at usable bars. -/
def forecasts (model : Predictor α) : List (Bar α) → Except Fault (List (Forecast α))
  | [] => .ok []
  | bar :: rest =>
    match plan.forecastAt model bar with
    | .error fault => .error fault
    | .ok (model, f) => (forecasts model rest).map (f :: ·)

/-- What a predictor forecasts is a matter of the symbol alone. -/
theorem forecasts_congr {plan plan' : ReplayPlan} (h : plan.symbol = plan'.symbol)
    (model : Predictor α) (bars : List (Bar α)) :
    plan.forecasts model bars = plan'.forecasts model bars := by
  have hat : ∀ (model : Predictor α) (bar : Bar α),
      plan.forecastAt model bar = plan'.forecastAt model bar := by
    intro model bar
    unfold forecastAt
    rw [h]
  induction bars generalizing model with
  | nil => rfl
  | cons bar bars ih =>
    rw [forecasts, forecasts, hat]
    split
    · rfl
    · rw [ih]

/-- The bars that a replay does not skip. -/
def usableBars (bars : List (Bar α)) : List (Bar α) := bars.filter usable

theorem forecasts_cons_ok {model : Predictor α} {bar : Bar α} {bars : List (Bar α)}
    {tape : List (Forecast α)} (h : plan.forecasts model (bar :: bars) = .ok tape) :
    ∃ model' f rest, plan.forecastAt model bar = .ok (model', f) ∧
      plan.forecasts model' bars = .ok rest ∧ tape = f :: rest := by
  rw [forecasts] at h
  split at h
  · cases h
  · next model' f hf =>
    cases hrest : plan.forecasts model' bars with
    | error fault => rw [hrest] at h; cases h
    | ok rest =>
      rw [hrest] at h
      exact ⟨model', f, rest, hf, hrest, (Except.ok.inj h).symm⟩

theorem forecastAt_ok {model model' : Predictor α} {bar : Bar α} {f : Forecast α}
    (h : plan.forecastAt model bar = .ok (model', f)) :
    model.observePrice plan.symbol bar.price = (model', none) ∧
      model'.estimateBase plan.symbol { mu := 0, sigma := 0 } = .ok f.estimate ∧
      f.nowMs = truncate bar.time ∧ f.price = bar.price := by
  unfold forecastAt at h
  split at h
  · cases h
  · next model'' hobserve =>
    cases he : model''.estimateBase plan.symbol { mu := 0, sigma := 0 } with
    | error fault => rw [he] at h; cases h
    | ok e =>
      rw [he] at h
      obtain ⟨rfl, rfl⟩ := Prod.mk.inj (Except.ok.inj h)
      exact ⟨hobserve, he, rfl, rfl⟩

/-- The forecast of a predictor without macro factors, by its track. -/
theorem forecastAt_eq {c : Settings α} (hc : c.factorShare? = none) (s : Scopes α c.State)
    (factors : MacroFactors α) (bar : Bar α) :
    plan.forecastAt { settings := c, scopes := s, factors := factors } bar =
      match (trackOf s.base plan.symbol).observe (c.forecaster factors) bar.price with
      | .error fault => .error fault
      | .ok next =>
        (next.estimate (c.forecaster factors) c.minSigma { mu := 0, sigma := 0 }).map fun e =>
          ({ settings := c, scopes := { s with base := s.base.insert plan.symbol next }
             factors := factors },
            { nowMs := truncate bar.time, price := bar.price, estimate := e }) := by
  unfold forecastAt
  rw [Predictor.observePrice_eq hc]
  unfold Scopes.observePrice observeAt
  simp only
  cases (trackOf s.base plan.symbol).observe (c.forecaster factors) bar.price with
  | error fault => rfl
  | ok next =>
    have hestimate := Scopes.estimateBase_eq (c.forecaster factors) c.minSigma
      { s with base := s.base.insert plan.symbol next } plan.symbol { mu := 0, sigma := 0 }
    rw [trackOf_insert_self] at hestimate
    exact congrArg (Except.map _) hestimate

theorem forecastAt_of_observe_fault {c : Settings α} (hc : c.factorShare? = none)
    (s : Scopes α c.State) (factors : MacroFactors α) (bar : Bar α) {fault : Fault}
    (h : (trackOf s.base plan.symbol).observe (c.forecaster factors) bar.price = .error fault) :
    plan.forecastAt { settings := c, scopes := s, factors := factors } bar = .error fault := by
  rw [plan.forecastAt_eq hc, h]

theorem forecastAt_of_observe {c : Settings α} (hc : c.factorShare? = none)
    (s : Scopes α c.State) (factors : MacroFactors α) (bar : Bar α) {next : Track α c.State}
    {e : Estimate α}
    (h : (trackOf s.base plan.symbol).observe (c.forecaster factors) bar.price = .ok next)
    (he : next.estimate (c.forecaster factors) c.minSigma { mu := 0, sigma := 0 } = .ok e) :
    plan.forecastAt { settings := c, scopes := s, factors := factors } bar =
      .ok ({ settings := c, scopes := { s with base := s.base.insert plan.symbol next }
             factors := factors },
        { nowMs := truncate bar.time, price := bar.price, estimate := e }) := by
  rw [plan.forecastAt_eq hc, h]
  simp only
  rw [he]
  rfl

/-- A forecast is the estimate of the predictor after the bars up to its own. -/
theorem forecasts_get : ∀ {model : Predictor α} {bars : List (Bar α)} {tape : List (Forecast α)},
    plan.forecasts model bars = .ok tape → tape.length = bars.length ∧
      ∀ k (hk : k < tape.length) (hb : k < bars.length),
        (model.feed plan.symbol ((bars.take (k + 1)).map (·.price))).estimateBase plan.symbol
            { mu := 0, sigma := 0 } = .ok tape[k].estimate ∧
          tape[k].nowMs = truncate bars[k].time ∧ tape[k].price = bars[k].price
  | _, [], _, h => by
    cases Except.ok.inj h
    exact ⟨rfl, fun _ hk => (Nat.not_lt_zero _ hk).elim⟩
  | model, bar :: bars, _, h => by
    obtain ⟨model', f, rest, hf, hrest, rfl⟩ := plan.forecasts_cons_ok h
    obtain ⟨hobserve, he, hnow, hprice⟩ := plan.forecastAt_ok hf
    obtain ⟨hlength, hget⟩ := forecasts_get hrest
    have hfeed : ∀ prices : List α, model.feed plan.symbol (bar.price :: prices) =
        model'.feed plan.symbol prices := by
      intro prices
      show (model.observePrice plan.symbol bar.price).1.feed plan.symbol prices = _
      rw [hobserve]
    refine ⟨by rw [List.length_cons, List.length_cons, hlength], fun k hk hb => ?_⟩
    rw [List.take_succ_cons, List.map_cons, hfeed]
    cases k with
    | zero => exact ⟨he, hnow, hprice⟩
    | succ k => exact hget k (Nat.lt_of_succ_lt_succ hk) (Nat.lt_of_succ_lt_succ hb)

/-! ## All horizons of one predictor -/

/-- The keys of a predictor's scopes. -/
def keysOf (id : String) (horizons : List (String × Int)) : List String :=
  horizons.map fun horizon => plan.key id horizon.1

theorem key_mem_keysOf (id : String) {horizons : List (String × Int)} {horizon : String × Int}
    (h : horizon ∈ horizons) : plan.key id horizon.1 ∈ plan.keysOf id horizons :=
  List.mem_map.mpr ⟨horizon, h, rfl⟩

theorem resolve_lanes (id : String) (price : α) (nowMs : Int) :
    ∀ (horizons : List (String × Int)) (book : Book α), (plan.keysOf id horizons).Nodup →
      (∀ horizon ∈ horizons,
        ∃ scored, (book.lane (plan.key id horizon.1)).resolve price nowMs = .ok scored) →
      ∃ book', plan.resolve id price nowMs book horizons = .ok book' ∧
        (∀ horizon ∈ horizons, ∃ n, (book.lane (plan.key id horizon.1)).resolve price nowMs =
          .ok (book'.lane (plan.key id horizon.1), n)) ∧
        ∀ key, key ∉ plan.keysOf id horizons → book'.lane key = book.lane key
  | [], book, _, _ => ⟨book, rfl, fun _ h => (List.not_mem_nil h).elim, fun _ _ => rfl⟩
  | horizon :: rest, book, hkeys, hscored => by
    obtain ⟨hnot, hrest⟩ : plan.key id horizon.1 ∉ plan.keysOf id rest ∧
      (plan.keysOf id rest).Nodup := List.nodup_cons.mp hkeys
    obtain ⟨⟨l, n⟩, hl⟩ := hscored horizon List.mem_cons_self
    obtain ⟨book₁, hresolve, hlane⟩ := Book.resolveDue_of_lane hl
    have hsame : ∀ key, plan.key id horizon.1 ≠ key → book₁.lane key = book.lane key := by
      intro key hne
      have hframe := Book.sameAt_resolveDue book hne price nowMs
      rw [hresolve] at hframe
      exact hframe.lane_eq
    have hne : ∀ other ∈ rest, plan.key id horizon.1 ≠ plan.key id other.1 :=
      fun other hother heq => hnot (heq.symm ▸ plan.key_mem_keysOf id hother)
    obtain ⟨book₂, hrun, hlanes, hframe⟩ := resolve_lanes id price nowMs rest book₁ hrest
      fun other hother => by
        rw [hsame _ (hne other hother)]
        exact hscored other (List.mem_cons_of_mem horizon hother)
    refine ⟨book₂, ?_, ?_, ?_⟩
    · rw [resolve, hresolve]
      exact hrun
    · intro other hother
      rcases List.mem_cons.mp hother with rfl | hother
      · rw [hframe _ hnot, hlane]
        exact ⟨n, hl⟩
      · rw [← hsame _ (hne other hother)]
        exact hlanes other hother
    · intro key hkey
      obtain ⟨hhead, htail⟩ := not_or.mp fun h => hkey (List.mem_cons.mpr h)
      rw [hframe key htail, hsame key (Ne.symm hhead)]

theorem schedule_lanes (id : String) (price : α) (nowMs : Int) (e : Estimate α) :
    ∀ (horizons : List (String × Int)) (book : Book α), (plan.keysOf id horizons).Nodup →
      (∀ horizon ∈ horizons,
        (plan.schedule id price nowMs e book horizons).lane (plan.key id horizon.1) =
          (book.lane (plan.key id horizon.1)).schedule nowMs horizon.2 price e.mu
            (if plan.normalise then e.sigma else 1)) ∧
      ∀ key, key ∉ plan.keysOf id horizons →
        (plan.schedule id price nowMs e book horizons).lane key = book.lane key
  | [], _, _ => ⟨fun _ h => (List.not_mem_nil h).elim, fun _ _ => rfl⟩
  | horizon :: rest, book, hkeys => by
    obtain ⟨hnot, hrest⟩ : plan.key id horizon.1 ∉ plan.keysOf id rest ∧
      (plan.keysOf id rest).Nodup := List.nodup_cons.mp hkeys
    obtain ⟨hlanes, hframe⟩ := schedule_lanes id price nowMs e rest
      (book.schedule (plan.key id horizon.1) nowMs horizon.2 price e.mu
        (if plan.normalise then e.sigma else 1)).1 hrest
    have hsame : ∀ key, plan.key id horizon.1 ≠ key →
        (book.schedule (plan.key id horizon.1) nowMs horizon.2 price e.mu
          (if plan.normalise then e.sigma else 1)).1.lane key = book.lane key :=
      fun key hne => (Book.sameAt_schedule book hne _ _ _ _ _).lane_eq
    refine ⟨?_, ?_⟩
    · intro other hother
      rcases List.mem_cons.mp hother with rfl | hother
      · refine (hframe _ hnot).trans ?_
        exact Book.lane_schedule book _ _ _ _ _ _
      · refine (hlanes other hother).trans ?_
        rw [hsame _ fun heq => hnot (heq.symm ▸ plan.key_mem_keysOf id hother)]
    · intro key hkey
      obtain ⟨hhead, htail⟩ := not_or.mp fun h => hkey (List.mem_cons.mpr h)
      exact (hframe key htail).trans (hsame key (Ne.symm hhead))

/-! ## All predictors -/

/-- The keys of all scopes of some predictors. -/
def scopeKeys (ids : List String) : List String :=
  ids.flatMap fun id => plan.keysOf id plan.horizons

/-- A predictor after a usable bar. -/
def advance (model : Predictor α) (bar : Bar α) : Predictor α :=
  (model.observePrice plan.symbol bar.price).1

theorem advance_eq {model model' : Predictor α} {bar : Bar α} {f : Forecast α}
    (h : plan.forecastAt model bar = .ok (model', f)) : plan.advance model bar = model' :=
  congrArg Prod.fst (plan.forecastAt_ok h).1

/-- One predictor at one bar is one step of each of its lanes. -/
theorem stepModel_lanes {id : String} {model model' : Predictor α} {bar : Bar α} {f : Forecast α}
    (book : Book α) (hkeys : (plan.keysOf id plan.horizons).Nodup)
    (hf : plan.forecastAt model bar = .ok (model', f))
    (hsteps : ∀ horizon ∈ plan.horizons,
      ∃ l, (book.lane (plan.key id horizon.1)).step plan.normalise horizon.2 f = .ok l) :
    ∃ book', plan.stepModel bar.price (truncate bar.time) book id model = .ok (book', model') ∧
      (∀ horizon ∈ plan.horizons, (book.lane (plan.key id horizon.1)).step plan.normalise
        horizon.2 f = .ok (book'.lane (plan.key id horizon.1))) ∧
      ∀ key, key ∉ plan.keysOf id plan.horizons → book'.lane key = book.lane key := by
  obtain ⟨hobserve, he, hnow, hprice⟩ := plan.forecastAt_ok hf
  obtain ⟨book₁, hresolve, hlanes, hframe⟩ := plan.resolve_lanes id f.price f.nowMs plan.horizons
    book hkeys fun horizon hmem => by
      obtain ⟨l, hl⟩ := hsteps horizon hmem
      obtain ⟨scored, hscored, -⟩ := Lane.step_eq_ok hl
      exact ⟨scored, hscored⟩
  obtain ⟨hscheduled, hframe'⟩ :=
    plan.schedule_lanes id f.price f.nowMs f.estimate plan.horizons book₁ hkeys
  refine ⟨plan.schedule id f.price f.nowMs f.estimate book₁ plan.horizons, ?_, ?_, ?_⟩
  · unfold stepModel
    rw [← hnow, ← hprice, hresolve]
    simp only [bind, Except.bind]
    rw [hprice, hobserve]
    simp only [he]
    rfl
  · intro horizon hmem
    obtain ⟨n, hn⟩ := hlanes horizon hmem
    rw [hscheduled horizon hmem, Lane.step, hn]
    rfl
  · intro key hkey
    rw [hframe' key hkey, hframe key hkey]

/-- One predictor at one bar: scoring, then its forecast, then scheduling. -/
theorem stepModel_eq (id : String) (book : Book α) (model : Predictor α) (bar : Bar α) :
    plan.stepModel bar.price (truncate bar.time) book id model = do
      let book ← plan.resolve id bar.price (truncate bar.time) book plan.horizons
      let (model, f) ← plan.forecastAt model bar
      return (plan.schedule id bar.price (truncate bar.time) f.estimate book plan.horizons,
        model) := by
  unfold stepModel forecastAt
  refine congrArg (_ >>= ·) (funext fun book => ?_)
  rcases model.observePrice plan.symbol bar.price with ⟨model', _ | fault⟩
  · simp only
    cases model'.estimateBase plan.symbol { mu := 0, sigma := 0 } with
    | error fault => rfl
    | ok e => rfl
  · rfl

theorem stepModels_lanes (bar : Bar α) : ∀ (models : List (String × Predictor α)) (book : Book α),
    (plan.scopeKeys (models.map (·.1))).Nodup →
    (∀ m ∈ models, ∃ f, plan.forecastAt m.2 bar = .ok (plan.advance m.2 bar, f) ∧
      ∀ horizon ∈ plan.horizons,
        ∃ l, (book.lane (plan.key m.1 horizon.1)).step plan.normalise horizon.2 f = .ok l) →
    ∃ book', plan.stepModels bar.price (truncate bar.time) book models =
        .ok (book', models.map fun m => (m.1, plan.advance m.2 bar)) ∧
      (∀ m ∈ models, ∀ f, plan.forecastAt m.2 bar = .ok (plan.advance m.2 bar, f) →
        ∀ horizon ∈ plan.horizons, (book.lane (plan.key m.1 horizon.1)).step plan.normalise
          horizon.2 f = .ok (book'.lane (plan.key m.1 horizon.1))) ∧
      ∀ key, key ∉ plan.scopeKeys (models.map (·.1)) → book'.lane key = book.lane key
  | [], book, _, _ => ⟨book, rfl, fun _ h => (List.not_mem_nil h).elim, fun _ _ => rfl⟩
  | (id, model) :: rest, book, hkeys, hsteps => by
    have hsplit : plan.scopeKeys (((id, model) :: rest).map (·.1)) =
      plan.keysOf id plan.horizons ++ plan.scopeKeys (rest.map (·.1)) := rfl
    rw [hsplit] at hkeys ⊢
    obtain ⟨hown, hothers, hdisjoint⟩ := List.nodup_append'.mp hkeys
    obtain ⟨f, hf, hsteps₁⟩ := hsteps (id, model) List.mem_cons_self
    obtain ⟨book₁, hstep, hlanes, hframe⟩ := plan.stepModel_lanes book hown hf hsteps₁
    -- The keys of the other predictors are different, so their lanes are as they were.
    have hrest : ∀ m ∈ rest, ∀ horizon ∈ plan.horizons,
        book₁.lane (plan.key m.1 horizon.1) = book.lane (plan.key m.1 horizon.1) := by
      intro m hm horizon hmem
      refine hframe _ fun hin => hdisjoint hin ?_
      exact List.mem_flatMap.mpr ⟨m.1, List.mem_map.mpr ⟨m, hm, rfl⟩, plan.key_mem_keysOf m.1 hmem⟩
    obtain ⟨book₂, hrun, hlanes', hframe'⟩ := stepModels_lanes bar rest book₁ hothers
      fun m hm => by
        obtain ⟨f', hf', hsteps'⟩ := hsteps m (List.mem_cons_of_mem _ hm)
        refine ⟨f', hf', fun horizon hmem => ?_⟩
        rw [hrest m hm horizon hmem]
        exact hsteps' horizon hmem
    refine ⟨book₂, ?_, ?_, ?_⟩
    · unfold stepModels
      rw [hstep]
      simp only [bind, Except.bind]
      rw [hrun]
      rfl
    · intro m hm f' hf' horizon hmem
      rcases List.mem_cons.mp hm with rfl | hm
      · have hsame : f' = f := (Prod.mk.inj (Except.ok.inj (hf'.symm.trans hf))).2
        rw [hframe' _ fun hin => hdisjoint (plan.key_mem_keysOf id hmem) hin, hsame]
        exact hlanes horizon hmem
      · rw [← hrest m hm horizon hmem]
        exact hlanes' m hm f' hf' horizon hmem
    · intro key hkey
      obtain ⟨hhead, htail⟩ := not_or.mp fun h => hkey (List.mem_append.mpr h)
      rw [hframe' key htail, hframe key hhead]

/-! ## All bars -/

/-- Bars that are not usable are not seen. -/
theorem run_usableBars (book : Book α) (models : List (String × Predictor α)) :
    ∀ bars : List (Bar α), plan.run book models (usableBars bars) = plan.run book models bars := by
  intro bars
  induction bars generalizing book models with
  | nil => rfl
  | cons bar bars ih =>
    rw [usableBars, run]
    split
    · next h =>
      rw [List.filter_cons_of_pos h, run, if_pos h]
      refine congrArg (_ >>= ·) (funext fun stepped => ?_)
      exact ih stepped.1 stepped.2
    · next h =>
      rw [List.filter_cons_of_neg h]
      exact ih book models

/-- **A replay plays every lane,** each as if it were alone. -/
theorem run_lanes : ∀ (bars : List (Bar α)) (book : Book α) (models : List (String × Predictor α)),
    (∀ bar ∈ bars, usable bar = true) → (plan.scopeKeys (models.map (·.1))).Nodup →
    (∀ m ∈ models, ∃ tape, plan.forecasts m.2 bars = .ok tape ∧ ∀ horizon ∈ plan.horizons,
      ∃ l, (book.lane (plan.key m.1 horizon.1)).play plan.normalise horizon.2 tape = .ok l) →
    ∃ book' models', plan.run book models bars = .ok (book', models') ∧
      (∀ m ∈ models, ∀ tape, plan.forecasts m.2 bars = .ok tape → ∀ horizon ∈ plan.horizons,
        (book.lane (plan.key m.1 horizon.1)).play plan.normalise horizon.2 tape =
          .ok (book'.lane (plan.key m.1 horizon.1))) ∧
      ∀ key, key ∉ plan.scopeKeys (models.map (·.1)) → book'.lane key = book.lane key
  | [], book, models, _, _, _ => by
    refine ⟨book, models, rfl, fun m hm tape htape horizon hmem => ?_, fun _ _ => rfl⟩
    cases Except.ok.inj htape
    rfl
  | bar :: bars, book, models, husable, hkeys, hplays => by
    obtain ⟨book₁, hstep, hlanes, hframe⟩ := plan.stepModels_lanes bar models book hkeys
      fun m hm => by
        obtain ⟨tape, htape, hplay⟩ := hplays m hm
        obtain ⟨model', f, rest, hf, -, rfl⟩ := plan.forecasts_cons_ok htape
        rw [← plan.advance_eq hf] at hf
        refine ⟨f, hf, fun horizon hmem => ?_⟩
        obtain ⟨last, hlast⟩ := hplay horizon hmem
        obtain ⟨l, hl, -⟩ := Lane.step_of_play_cons hlast
        exact ⟨l, hl⟩
    -- Observing a price changes no id, so the scopes keep their keys.
    have hids : (models.map fun m => (m.1, plan.advance m.2 bar)).map (·.1) = models.map (·.1) := by
      rw [List.map_map]
      rfl
    obtain ⟨book₂, models₂, hrun, hlanes', hframe'⟩ := run_lanes bars book₁
      (models.map fun m => (m.1, plan.advance m.2 bar))
      (fun b hb => husable b (List.mem_cons_of_mem bar hb)) (hids ▸ hkeys) fun m' hm' => by
        obtain ⟨m, hm, rfl⟩ := List.mem_map.mp hm'
        obtain ⟨tape, htape, hplay⟩ := hplays m hm
        obtain ⟨model', f, rest, hf, hrest, rfl⟩ := plan.forecasts_cons_ok htape
        obtain rfl := plan.advance_eq hf
        refine ⟨rest, hrest, fun horizon hmem => ?_⟩
        obtain ⟨last, hlast⟩ := hplay horizon hmem
        rw [Lane.play_cons (hlanes m hm f hf horizon hmem)] at hlast
        exact ⟨last, hlast⟩
    refine ⟨book₂, models₂, ?_, ?_, ?_⟩
    · rw [run, if_pos (husable bar List.mem_cons_self), hstep]
      exact hrun
    · intro m hm tape htape horizon hmem
      obtain ⟨model', f, rest, hf, hrest, rfl⟩ := plan.forecasts_cons_ok htape
      obtain rfl := plan.advance_eq hf
      rw [Lane.play_cons (hlanes m hm f hf horizon hmem)]
      exact hlanes' _ (List.mem_map.mpr ⟨m, hm, rfl⟩) rest hrest horizon hmem
    · intro key hkey
      rw [hframe' key (hids ▸ hkey), hframe key hkey]

end ReplayPlan

end ReturnForecast
