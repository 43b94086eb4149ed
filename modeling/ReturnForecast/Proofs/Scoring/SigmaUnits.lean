import ReturnForecast.Proofs.Scalar.RealValued
import ReturnForecast.Proofs.Scoring.Outcomes
import ReturnForecast.Proofs.Scoring.RunningAverage

/-!
# Scoring in units of sigma

Both sides of a scored pair may be divided by the sigma of the forecast. Over exact numbers every
scale in use is finite and positive. So the units decide neither which predictions are scored and
when, nor which of them are hits: two runs over the same bars stay in step, prediction by
prediction and pair by pair, even where several horizons share a scope.

* `HitAlike` — two pairs in different units, both of them hits or neither
* `Metrics.Alike` / `Lane.Alike` / `Book.Alike` — metrics, lanes and books in different units
* `stepModel_alike` / `run_alike` — one bar and a whole replay keep two books alike
* `normalisedPairs_alike` — so do the two loops over a series of closes
* `units_keep_hits` — counts and hit rates are the same in either units
-/

namespace ReturnForecast

/-! ## Pairs -/

/-- Two pairs of finite numbers, both of them hits or neither. -/
structure HitAlike (x y : Extended × Extended) : Prop where
  left : Metrics.finitePair x = true
  right : Metrics.finitePair y = true
  hit : 0 < x.1 * x.2 ↔ 0 < y.1 * y.2

/-- A hit in some units is one in any units. -/
theorem hit_div_iff {r m s : ℝ} (hs : 0 < s) :
    0 < Extended.finite (r / s) * Extended.finite (m / s) ↔ 0 < r * m := by
  show 0 < r / s * (m / s) ↔ 0 < r * m
  rw [div_mul_div_comm]
  exact div_pos_iff_of_pos_right (mul_pos hs hs)

theorem hitAlike_div {r m s t : Extended} (hr : r.IsReal) (hm : m.IsReal) (hs : s.IsReal)
    (hspos : 0 < s) (ht : t.IsReal) (htpos : 0 < t) : HitAlike (r / s, m / s) (r / t, m / t) := by
  obtain ⟨r, rfl⟩ := hr
  obtain ⟨m, rfl⟩ := hm
  obtain ⟨s, rfl⟩ := hs
  obtain ⟨t, rfl⟩ := ht
  have hs : 0 < s := hspos
  have ht : 0 < t := htpos
  simp only [Extended.finite_div hs.ne', Extended.finite_div ht.ne']
  exact ⟨rfl, rfl, (hit_div_iff hs).trans (hit_div_iff ht).symm⟩

/-! ## Metrics -/

namespace Metrics

/-- Metrics of the same forecasts in different units. -/
structure Alike (m n : Metrics Extended) : Prop where
  window : m.window = n.window
  r2MinSamples : m.r2MinSamples = n.r2MinSamples
  pairs : List.Forall₂ HitAlike m.pairs n.pairs

theorem alike_fresh (window r2MinSamples : Int) :
    Alike (fresh window r2MinSamples) (fresh window r2MinSamples) := ⟨rfl, rfl, .nil⟩

theorem forall₂_lastItems {β γ : Type} {R : β → γ → Prop} {xs : List β} {ys : List γ}
    {count : Int} (h : List.Forall₂ R xs ys) :
    List.Forall₂ R (lastItems count xs) (lastItems count ys) := by
  unfold lastItems
  rw [h.length_eq]
  split
  · exact List.forall₂_drop _ h
  · exact List.forall₂_drop _ h

/-- Lists of pairs that are alike have as many hits. -/
theorem countP_hits {xs ys : List (Extended × Extended)} (h : List.Forall₂ HitAlike xs ys) :
    xs.countP (fun x => 0 < x.1 * x.2) = ys.countP (fun y => 0 < y.1 * y.2) := by
  induction h with
  | nil => rfl
  | cons hxy _ ih => rw [List.countP_cons, List.countP_cons, ih, decide_eq_decide.mpr hxy.hit]

namespace Alike

variable {m n : Metrics Extended}

theorem observe (h : m.Alike n) {x y : Extended × Extended} (hxy : HitAlike x y) :
    (m.observe x.1 x.2).Alike (n.observe y.1 y.2) := by
  have hx : m.observe x.1 x.2 = { m with pairs := lastItems m.window (m.pairs ++ [x]) } :=
    if_pos hxy.left
  have hy : n.observe y.1 y.2 = { n with pairs := lastItems n.window (n.pairs ++ [y]) } :=
    if_pos hxy.right
  rw [hx, hy, h.window]
  exact ⟨rfl, h.r2MinSamples, forall₂_lastItems (List.rel_append h.pairs (.cons hxy .nil))⟩

theorem observeAll (h : m.Alike n) {xs ys : List (Extended × Extended)}
    (hxs : List.Forall₂ HitAlike xs ys) : (m.observeAll xs).Alike (n.observeAll ys) := by
  induction hxs generalizing m n with
  | nil => exact h
  | cons hxy _ ih => exact ih (h.observe hxy)

theorem count_eq (h : m.Alike n) : m.count = n.count := h.pairs.length_eq

theorem hitRate_eq (h : m.Alike n) : m.hitRate = n.hitRate := by
  have hempty : m.pairs.isEmpty = n.pairs.isEmpty := by
    rw [Bool.eq_iff_iff, List.isEmpty_iff_length_eq_zero, List.isEmpty_iff_length_eq_zero,
      h.pairs.length_eq]
  unfold hitRate
  rw [hempty, h.count_eq, countP_hits h.pairs]

end Alike

end Metrics

/-! ## Lanes -/

/-- The prediction with a scale of one. -/
def Pending.unscaled {α : Type} [Scalar α] (p : Pending α) : Pending α := { p with scale := 1 }

/-- A prediction whose pairs are finite, at any usable price. -/
structure Pending.Sound (p : Pending Extended) : Prop where
  basePrice : isValidPrice p.basePrice = true
  mu : p.mu.IsReal
  scale : p.scale.IsReal
  scale_pos : 0 < p.scale

theorem Pending.Sound.hitAlike {p : Pending Extended} (h : p.Sound) {price : Extended}
    (hprice : isValidPrice price = true) :
    HitAlike (p.pairAt price) (p.unscaled.pairAt price) :=
  hitAlike_div (Extended.isReal_iff.mpr (Extended.log?_div hprice h.basePrice).2) h.mu h.scale
    h.scale_pos Extended.isReal_one (Extended.finite_lt.mpr one_pos)

/-- Joining a queue pays no regard to the scales. -/
theorem enqueue_unscaled {α : Type} [Scalar α] (p : Pending α) (queue : List (Pending α)) :
    enqueue p.unscaled (queue.map .unscaled) = (enqueue p queue).map .unscaled := by
  have hsort : byDue ((queue ++ [p]).map .unscaled) = (byDue (queue ++ [p])).map .unscaled :=
    (List.map_mergeSort (f := Pending.unscaled) fun _ _ _ _ => rfl).symm
  have hlast : ((queue.map Pending.unscaled).getLast?.any
      fun last => p.unscaled.dueMs < last.dueMs) =
      queue.getLast?.any fun last => p.dueMs < last.dueMs := by
    rw [List.getLast?_map, Option.any_map]
    rfl
  unfold enqueue
  rw [hlast, ← List.map_singleton, ← List.map_append, hsort]
  split
  · rfl
  · rfl

/-- Lanes of the same forecasts, the second one in units of one. -/
structure Lane.Alike (l l' : Lane Extended) : Prop where
  sound : ∀ p ∈ l.queue, p.Sound
  queue : l'.queue = l.queue.map .unscaled
  metrics : l.metrics.Alike l'.metrics

namespace Lane.Alike

variable {l l' : Lane Extended}

theorem priced (h : l.Alike l') : l.Priced := fun p hp => (h.sound p hp).basePrice

theorem priced_right (h : l.Alike l') : l'.Priced := by
  intro q hq
  rw [h.queue] at hq
  obtain ⟨p, hp, rfl⟩ := List.mem_map.mp hq
  exact h.priced p hp

/-- At a usable price the same predictions are scored in both lanes. -/
theorem resolve (h : l.Alike l') {price : Extended} (hprice : isValidPrice price = true)
    (nowMs : Int) : ∃ a a' n, l.resolve price nowMs = .ok (a, n) ∧
      l'.resolve price nowMs = .ok (a', n) ∧ a.Alike a' := by
  have htake : l'.queue.takeWhile (·.dueMs ≤ nowMs) =
      (l.queue.takeWhile (·.dueMs ≤ nowMs)).map .unscaled := by
    rw [h.queue, List.takeWhile_map]
    rfl
  have hdrop : l'.queue.dropWhile (·.dueMs ≤ nowMs) =
      (l.queue.dropWhile (·.dueMs ≤ nowMs)).map .unscaled := by
    rw [h.queue, List.dropWhile_map]
    rfl
  have hpairs : List.Forall₂ HitAlike
      ((l.queue.takeWhile (·.dueMs ≤ nowMs)).map (·.pairAt price))
      ((l'.queue.takeWhile (·.dueMs ≤ nowMs)).map (·.pairAt price)) := by
    rw [htake, List.map_map, List.forall₂_map_left_iff, List.forall₂_map_right_iff,
      List.forall₂_same]
    exact fun p hp => (h.sound p ((List.takeWhile_sublist _).mem hp)).hitAlike hprice
  have hright := resolve_of_priced h.priced_right hprice nowMs
  rw [show (l'.queue.takeWhile (·.dueMs ≤ nowMs)).length =
    (l.queue.takeWhile (·.dueMs ≤ nowMs)).length by rw [htake, List.length_map]] at hright
  exact ⟨_, _, _, resolve_of_priced h.priced hprice nowMs, hright,
    { sound := fun p hp => h.sound p ((List.dropWhile_sublist _).mem hp)
      queue := hdrop
      metrics := h.metrics.observeAll hpairs }⟩

theorem schedule (h : l.Alike l') (nowMs horizonMs : Int) (basePrice mu scale : Extended) :
    (l.schedule nowMs horizonMs basePrice mu scale).Alike
      (l'.schedule nowMs horizonMs basePrice mu 1) := by
  unfold Lane.schedule Book.prediction?
  by_cases haccepts : Book.accepts basePrice mu = true
  · obtain ⟨hbase, hmu⟩ := Bool.and_eq_true_iff.mp haccepts
    obtain ⟨hscale, hpos⟩ := usableScale_finite_pos scale
    rw [if_pos haccepts, if_pos haccepts, usableScale_one]
    refine ⟨fun p hp => ?_, ?_, h.metrics⟩
    · rcases List.mem_append.mp ((enqueue_perm _ _).mem_iff.mp hp) with hold | hnew
      · exact h.sound p hold
      · rw [List.mem_singleton.mp hnew]
        exact ⟨hbase, Extended.isReal_iff.mpr hmu, Extended.isReal_iff.mpr hscale, hpos⟩
    · rw [← enqueue_unscaled, ← h.queue]
      rfl
  · rw [if_neg haccepts, if_neg haccepts]
    exact h

end Lane.Alike

/-! ## Books -/

/-- Books of the same forecasts, the second one in units of one. -/
def Book.Alike (b b' : Book Extended) : Prop := ∀ key, (b.lane key).Alike (b'.lane key)

namespace Book

theorem alike_fresh (window r2MinSamples : Int) :
    Alike (fresh window r2MinSamples) (fresh window r2MinSamples) := fun _ =>
  ⟨fun _ hp => (List.not_mem_nil hp).elim, rfl, Metrics.alike_fresh window r2MinSamples⟩

variable {b b' : Book Extended}

theorem Alike.resolveDue (h : b.Alike b') (key : String) {price : Extended}
    (hprice : isValidPrice price = true) (nowMs : Int) :
    ∃ c c' n, b.resolveDue key price nowMs = (c, .ok n) ∧
      b'.resolveDue key price nowMs = (c', .ok n) ∧ c.Alike c' := by
  obtain ⟨l, l', n, hl, hl', halike⟩ := (h key).resolve hprice nowMs
  obtain ⟨c, hc, rfl⟩ := resolveDue_of_lane hl
  obtain ⟨c', hc', rfl⟩ := resolveDue_of_lane hl'
  refine ⟨c, c', n, hc, hc', fun other => ?_⟩
  by_cases hkey : key = other
  · rw [← hkey]
    exact halike
  · have hsame := (sameAt_resolveDue b hkey price nowMs).lane_eq
    have hsame' := (sameAt_resolveDue b' hkey price nowMs).lane_eq
    rw [hc] at hsame
    rw [hc'] at hsame'
    rw [hsame, hsame']
    exact h other

theorem Alike.schedule (h : b.Alike b') (key : String) (nowMs horizonMs : Int)
    (basePrice mu scale : Extended) :
    (b.schedule key nowMs horizonMs basePrice mu scale).1.Alike
      (b'.schedule key nowMs horizonMs basePrice mu 1).1 := by
  intro other
  by_cases hkey : key = other
  · rw [← hkey, lane_schedule, lane_schedule]
    exact (h key).schedule nowMs horizonMs basePrice mu scale
  · rw [(sameAt_schedule b hkey _ _ _ _ _).lane_eq, (sameAt_schedule b' hkey _ _ _ _ _).lane_eq]
    exact h other

end Book

/-! ## Replays -/

namespace ReplayPlan

variable (plan : ReplayPlan)

/-- The plan with pairs in their own units. -/
def unscaled : ReplayPlan := { plan with normalise := false }

variable {b b' : Book Extended}

theorem resolve_alike (id : String) {price : Extended} (hprice : isValidPrice price = true)
    (nowMs : Int) (horizons : List (String × Int)) (h : b.Alike b') :
    ∃ c c', plan.resolve id price nowMs b horizons = .ok c ∧
      plan.unscaled.resolve id price nowMs b' horizons = .ok c' ∧ c.Alike c' := by
  induction horizons generalizing b b' with
  | nil => exact ⟨b, b', rfl, rfl, h⟩
  | cons horizon rest ih =>
    obtain ⟨c, c', n, hc, hc', halike⟩ := h.resolveDue (plan.key id horizon.1) hprice nowMs
    have hc'' : b'.resolveDue (plan.unscaled.key id horizon.1) price nowMs = (c', .ok n) := hc'
    obtain ⟨d, d', hd, hd', hlast⟩ := ih halike
    refine ⟨d, d', ?_, ?_, hlast⟩
    · rw [resolve, hc]
      exact hd
    · rw [resolve, hc'']
      exact hd'

theorem schedule_alike (id : String) (price : Extended) (nowMs : Int) (e : Estimate Extended)
    (horizons : List (String × Int)) (h : b.Alike b') :
    (plan.schedule id price nowMs e b horizons).Alike
      (plan.unscaled.schedule id price nowMs e b' horizons) := by
  induction horizons generalizing b b' with
  | nil => exact h
  | cons horizon rest ih => exact ih (h.schedule _ nowMs horizon.2 price e.mu _)

/-- One predictor at one bar keeps two books alike. -/
theorem stepModel_alike (id : String) {model model' : Predictor Extended} {bar : Bar Extended}
    {f : Forecast Extended} (hprice : isValidPrice bar.price = true)
    (hf : plan.forecastAt model bar = .ok (model', f)) (h : b.Alike b') :
    ∃ c c', plan.stepModel bar.price (truncate bar.time) b id model = .ok (c, model') ∧
      plan.unscaled.stepModel bar.price (truncate bar.time) b' id model = .ok (c', model') ∧
      c.Alike c' := by
  obtain ⟨c, c', hc, hc', halike⟩ :=
    plan.resolve_alike id hprice (truncate bar.time) plan.horizons h
  have hc'' : plan.unscaled.resolve id bar.price (truncate bar.time) b' plan.unscaled.horizons =
      .ok c' := hc'
  have hf' : plan.unscaled.forecastAt model bar = .ok (model', f) := hf
  refine ⟨_, _, ?_, ?_, plan.schedule_alike id bar.price (truncate bar.time) f.estimate
    plan.horizons halike⟩
  · rw [stepModel_eq, hc, hf]
    rfl
  · rw [stepModel_eq, hc'', hf']
    rfl

theorem stepModels_alike {bar : Bar Extended} (hprice : isValidPrice bar.price = true)
    (models : List (String × Predictor Extended))
    (hforecasts : ∀ m ∈ models, ∃ f, plan.forecastAt m.2 bar = .ok (plan.advance m.2 bar, f))
    (h : b.Alike b') :
    ∃ c c', plan.stepModels bar.price (truncate bar.time) b models =
        .ok (c, models.map fun m => (m.1, plan.advance m.2 bar)) ∧
      plan.unscaled.stepModels bar.price (truncate bar.time) b' models =
        .ok (c', models.map fun m => (m.1, plan.advance m.2 bar)) ∧ c.Alike c' := by
  induction models generalizing b b' with
  | nil => exact ⟨b, b', rfl, rfl, h⟩
  | cons m rest ih =>
    obtain ⟨f, hf⟩ := hforecasts m List.mem_cons_self
    obtain ⟨c, c', hc, hc', halike⟩ := plan.stepModel_alike m.1 hprice hf h
    obtain ⟨d, d', hd, hd', hlast⟩ :=
      ih (fun n hn => hforecasts n (List.mem_cons_of_mem m hn)) halike
    refine ⟨d, d', ?_, ?_, hlast⟩
    · rw [stepModels, hc]
      simp only [bind, Except.bind, hd, pure, Except.pure, List.map_cons]
    · rw [stepModels, hc']
      simp only [bind, Except.bind, hd', pure, Except.pure, List.map_cons]

/-- **A replay keeps two books alike,** and it ends in both units. -/
theorem run_alike (bars : List (Bar Extended)) (models : List (String × Predictor Extended))
    (husable : ∀ bar ∈ bars, usable bar = true)
    (hforecasts : ∀ m ∈ models, ∃ tape, plan.forecasts m.2 bars = .ok tape) (h : b.Alike b') :
    ∃ c c' models', plan.run b models bars = .ok (c, models') ∧
      plan.unscaled.run b' models bars = .ok (c', models') ∧ c.Alike c' := by
  induction bars generalizing b b' models with
  | nil => exact ⟨b, b', models, rfl, rfl, h⟩
  | cons bar bars ih =>
    have hbar := husable bar List.mem_cons_self
    have hsteps : ∀ m ∈ models, ∃ f rest,
        plan.forecastAt m.2 bar = .ok (plan.advance m.2 bar, f) ∧
        plan.forecasts (plan.advance m.2 bar) bars = .ok rest := by
      intro m hm
      obtain ⟨tape, htape⟩ := hforecasts m hm
      obtain ⟨model', f, rest, hf, hrest, -⟩ := plan.forecasts_cons_ok htape
      obtain rfl := plan.advance_eq hf
      exact ⟨f, rest, hf, hrest⟩
    obtain ⟨c, c', hc, hc', halike⟩ := plan.stepModels_alike (Bool.and_eq_true_iff.mp hbar).2
      models (fun m hm => (hsteps m hm).imp fun f hf => hf.choose_spec.1) h
    obtain ⟨d, d', models', hd, hd', hlast⟩ := ih (models.map fun m => (m.1, plan.advance m.2 bar))
      (fun other hother => husable other (List.mem_cons_of_mem bar hother)) (fun m' hm' => by
        obtain ⟨m, hm, rfl⟩ := List.mem_map.mp hm'
        obtain ⟨f, rest, -, hrest⟩ := hsteps m hm
        exact ⟨rest, hrest⟩) halike
    refine ⟨d, d', models', ?_, ?_, hlast⟩
    · rw [run, if_pos hbar, hc]
      exact hd
    · rw [run, if_pos hbar, hc']
      exact hd'

end ReplayPlan

/-! ## Series of closes -/

namespace Backfill

/-- The returns between usable closes are real. -/
theorem returnsAfter_real {previous : Extended} (hprevious : isValidPrice previous = true)
    {prices : List Extended} (hprices : ∀ p ∈ prices, isValidPrice p = true) :
    ∃ returns, returnsAfter previous prices = .ok returns ∧ ∀ r ∈ returns, r.IsReal := by
  induction prices generalizing previous with
  | nil => exact ⟨[], rfl, fun _ hr => (List.not_mem_nil hr).elim⟩
  | cons price prices ih =>
    have hprice := hprices price List.mem_cons_self
    obtain ⟨hlog, hfinite⟩ := Extended.log?_div hprice hprevious
    obtain ⟨returns, hreturns, hreal⟩ := ih hprice fun p hp => hprices p (List.mem_cons_of_mem _ hp)
    refine ⟨Scalar.log (price / previous) :: returns, ?_, ?_⟩
    · rw [returnsAfter, hlog]
      simp only [bind, Except.bind, hreturns, pure, Except.pure]
    · intro r hr
      rcases List.mem_cons.mp hr with rfl | hr
      · exact Extended.isReal_iff.mpr hfinite
      · exact hreal r hr

theorem returns_real (closes : List Extended) :
    ∃ rs, returns closes = .ok rs ∧ ∀ r ∈ rs, r.IsReal := by
  have hvalid : ∀ p ∈ closes.filter isValidPrice, isValidPrice p = true :=
    fun p hp => (List.mem_filter.mp hp).2
  unfold returns
  cases hprices : closes.filter isValidPrice with
  | nil => exact ⟨[], rfl, fun _ hr => (List.not_mem_nil hr).elim⟩
  | cons first rest =>
    rw [hprices] at hvalid
    exact returnsAfter_real (hvalid first List.mem_cons_self)
      fun p hp => hvalid p (List.mem_cons_of_mem first hp)

section Loops

variable {c : Normalised Extended} {averages : Option (Averages Extended)}

/-- The sigma so far, which is what a pair is divided by. -/
noncomputable def sigmaSoFar (c : Normalised Extended) (averages : Option (Averages Extended)) :
    Extended :=
  match averages with
  | none => c.leastSigma
  | some a => larger (sqrtPos a.var) c.leastSigma

/-- The averages are real, once there are some. -/
def AveragesReal (averages : Option (Averages Extended)) : Prop :=
  ∀ a ∈ averages, a.mu.IsReal ∧ a.var.IsReal

theorem averagesReal_none : AveragesReal none := fun _ ha => nomatch ha

theorem averagesReal_next (h : AveragesReal averages) {r : Extended} (hr : r.IsReal) :
    AveragesReal (some (Averages.next c averages r)) := by
  intro next hnext
  obtain rfl := Option.some.inj hnext
  cases averages with
  | none => exact ⟨hr, hr.mul hr⟩
  | some a =>
    obtain ⟨hmu, hvar⟩ := h a rfl
    have hcentered := hr.sub hmu
    exact ⟨hmu.ewma hr (.clampUnit_of_any _),
      hvar.ewma (hcentered.mul hcentered) (.clampUnit_of_any _)⟩

theorem average_real (h : AveragesReal averages) :
    Extended.IsReal ((averages.map (·.mu)).getD 0) := by
  cases averages with
  | none => exact Extended.isReal_zero
  | some a => exact (h a rfl).1

theorem sigmaSoFar_pos {least : ℝ} (hleast : c.leastSigma = .finite least) (hpos : 0 < least)
    (h : AveragesReal averages) :
    (sigmaSoFar c averages).IsReal ∧ 0 < sigmaSoFar c averages := by
  cases averages with
  | none => exact ⟨⟨least, hleast⟩, by rw [sigmaSoFar, hleast]; exact Extended.finite_lt.mpr hpos⟩
  | some a =>
    obtain ⟨x, hx⟩ := (h a rfl).2.sqrtPos
    rw [sigmaSoFar, hleast, hx, larger]
    split
    · exact ⟨⟨least, rfl⟩, Extended.finite_lt.mpr hpos⟩
    · next hle => exact ⟨⟨x, rfl⟩, Extended.finite_lt.mpr (hpos.trans_le (not_lt.mp hle))⟩

theorem normalisedPairs_cons (r : Extended) (rest : List Extended) :
    normalisedPairs c averages (r :: rest) = do
      let actual ← div? r (sigmaSoFar c averages)
      let scaled ← div? ((averages.map (·.mu)).getD 0) (sigmaSoFar c averages)
      return (actual, scaled) ::
        (← normalisedPairs c (some (Averages.next c averages r)) rest) := by
  cases averages with
  | none => rfl
  | some a => rfl

theorem plainPairs_cons (r : Extended) (rest : List Extended) :
    plainPairs (clampUnit c.alphaMean) (averages.map (·.mu)) (r :: rest) =
      (r, (averages.map (·.mu)).getD 0) ::
        plainPairs (clampUnit c.alphaMean) ((some (Averages.next c averages r)).map (·.mu))
          rest := by
  cases averages with
  | none => rfl
  | some a => rfl

/-- **Both loops give the same pairs** up to their units. -/
theorem normalisedPairs_alike {least : ℝ} (hleast : c.leastSigma = .finite least)
    (hpos : 0 < least) {returns : List Extended} (hreturns : ∀ r ∈ returns, r.IsReal)
    (h : AveragesReal averages) : ∃ pairs, normalisedPairs c averages returns = .ok pairs ∧
      List.Forall₂ HitAlike pairs
        (plainPairs (clampUnit c.alphaMean) (averages.map (·.mu)) returns) := by
  induction returns generalizing averages with
  | nil => exact ⟨[], rfl, .nil⟩
  | cons r rest ih =>
    have hr := hreturns r List.mem_cons_self
    obtain ⟨hsigma, hsigmaPos⟩ := sigmaSoFar_pos hleast hpos h
    have hzero : ¬ IsZero (sigmaSoFar c averages) := fun hzero => by
      obtain ⟨x, hx⟩ := hsigma
      rw [hx] at hzero hsigmaPos
      exact not_le.mpr (Extended.finite_lt.mp hsigmaPos) hzero.1
    obtain ⟨pairs, hpairs, halike⟩ :=
      ih (fun q hq => hreturns q (List.mem_cons_of_mem r hq)) (averagesReal_next (c := c) h hr)
    rw [normalisedPairs_cons, plainPairs_cons, div?, if_neg hzero, div?, if_neg hzero]
    simp only [bind, Except.bind, hpairs, pure, Except.pure]
    refine ⟨_, rfl, .cons ?_ halike⟩
    have hunit := hitAlike_div hr (average_real h) hsigma hsigmaPos Extended.isReal_one
      (Extended.finite_lt.mpr one_pos)
    rwa [Extended.div_one, Extended.div_one] at hunit

end Loops

/-- The scores of a series of closes exist in either units, and they are alike. -/
theorem normalised_alike (closes : List Extended) (alphaMean alphaVar : Extended) (minSigma : ℝ)
    (window : Int) : ∃ scaled plain,
      normalised closes alphaMean alphaVar (.finite minSigma) window = .ok scaled ∧
      Backfill.plain closes alphaMean window = .ok plain ∧ scaled.Alike plain := by
  obtain ⟨rs, hrs, hreal⟩ := returns_real closes
  have hleast : ∃ least : ℝ, 0 < least ∧
      larger (Extended.finite minSigma) 1e-8 = .finite least := by
    unfold larger
    split
    · exact ⟨1e-8, by norm_num, rfl⟩
    · next h => exact ⟨minSigma, lt_of_lt_of_le (by norm_num) (not_lt.mp h), rfl⟩
  obtain ⟨least, hpos, hleast⟩ := hleast
  obtain ⟨pairs, hpairs, halike⟩ := normalisedPairs_alike
    (c := { alphaMean, alphaVar, leastSigma := larger (.finite minSigma) 1e-8 }) hleast hpos hreal
    averagesReal_none
  refine ⟨metricsOf window pairs, metricsOf window (plainPairs (clampUnit alphaMean) none rs), ?_,
    ?_, (Metrics.alike_fresh window standardR2MinSamples).observeAll halike⟩
  · rw [normalised, hrs]
    simp only [bind, Except.bind, hpairs, pure, Except.pure]
  · rw [Backfill.plain, hrs]
    rfl

end Backfill

/-! ## Both scorings -/

/--
**Units decide neither what is scored nor what is a hit.** Over exact numbers a replay of predictors
that forecast at all usable bars ends in units of sigma and in its own, and leaves in every scope
the same numbers of samples and of waiting predictions and the same hit rate. So do both loops over
a series of closes.
-/
theorem units_keep_hits :
    (∀ (plan : ReplayPlan) (window r2MinSamples : Int) (models : List (String × Predictor Extended))
      (bars : List (Bar Extended)),
      (∀ m ∈ models, ∃ tape, plan.forecasts m.2 (ReplayPlan.usableBars bars) = .ok tape) →
      ∃ scaled plain,
        ReplayPlan.replay { plan with normalise := true } (.fresh window r2MinSamples) models bars =
          .ok scaled ∧
        ReplayPlan.replay { plan with normalise := false } (.fresh window r2MinSamples) models
          bars = .ok plain ∧
        ∀ key, (scaled.metricsOf key).count = (plain.metricsOf key).count ∧
          scaled.pendingCount key = plain.pendingCount key ∧
          (scaled.metricsOf key).hitRate = (plain.metricsOf key).hitRate) ∧
    ∀ (closes : List Extended) (alphaMean alphaVar : Extended) (minSigma : ℝ) (window : Int),
      ∃ scaled plain,
        Backfill.normalised closes alphaMean alphaVar (.finite minSigma) window = .ok scaled ∧
        Backfill.plain closes alphaMean window = .ok plain ∧
        scaled.count = plain.count ∧ scaled.hitRate = plain.hitRate := by
  refine ⟨fun plan window r2MinSamples models bars hforecasts => ?_,
    fun closes alphaMean alphaVar minSigma window => ?_⟩
  · obtain ⟨scaled, plain, models', hscaled, hplain, halike⟩ :=
      ReplayPlan.run_alike { plan with normalise := true } (ReplayPlan.usableBars bars) models
        (fun bar hbar => (List.mem_filter.mp hbar).2)
        (fun m hm => (hforecasts m hm).imp fun tape =>
          (ReplayPlan.forecasts_congr (by rfl) _ _).trans)
        (Book.alike_fresh window r2MinSamples)
    rw [ReplayPlan.run_usableBars] at hscaled hplain
    refine ⟨scaled, plain, ?_, ?_, fun key => ⟨(halike key).metrics.count_eq, ?_,
      (halike key).metrics.hitRate_eq⟩⟩
    · rw [ReplayPlan.replay, hscaled]
      rfl
    · rw [ReplayPlan.replay]
      exact congrArg (Except.map _) hplain
    · have hqueue : plain.queue key = (scaled.queue key).map .unscaled := (halike key).queue
      rw [Book.pendingCount, Book.pendingCount, hqueue, List.length_map]
  · obtain ⟨scaled, plain, hscaled, hplain, halike⟩ :=
      Backfill.normalised_alike closes alphaMean alphaVar minSigma window
    exact ⟨scaled, plain, hscaled, hplain, halike.count_eq, halike.hitRate_eq⟩

/-- Two predictors and two horizons that all share a scope, a bar without a price and a late one. -/
theorem units_keep_hits_shared_scope :
    let plan : ReplayPlan :=
      { symbol := "btc", market := .spot, horizons := [("1m", 60000), (" 1M ", 120000)]
        normalise := true }
    let models : List (String × Predictor Extended) :=
      [("fast", .ofSpec (.standard .ewma)), ("Fast", .ofSpec (.standard .holt))]
    let bars : List (Bar Extended) :=
      [{ time := 0, price := 1 }, { time := 60000.0, price := .nan },
        { time := 120000.0, price := 2.0 }, { time := 60000.0, price := 1.5 }]
    plan.scopeKeys (models.map (·.1)) = List.replicate 4 "BTC::spot::fast::1m" ∧
    (∀ m ∈ models, ∃ tape, plan.forecasts m.2 (ReplayPlan.usableBars bars) = .ok tape) ∧
    ∃ scaled plain,
      ReplayPlan.replay { plan with normalise := true } (.fresh 1200 60) models bars =
        .ok scaled ∧
      ReplayPlan.replay { plan with normalise := false } (.fresh 1200 60) models bars =
        .ok plain ∧
      ∀ key, (scaled.metricsOf key).count = (plain.metricsOf key).count ∧
        scaled.pendingCount key = plain.pendingCount key ∧
        (scaled.metricsOf key).hitRate = (plain.metricsOf key).hitRate := by
  intro plan models bars
  have hforecasts : ∀ m ∈ models,
      ∃ tape, plan.forecasts m.2 (ReplayPlan.usableBars bars) = .ok tape := by
    intro m hm
    rcases List.mem_cons.mp hm with rfl | hm
    · exact plan.exists_forecasts rfl (fun _ _ _ => ⟨_, rfl⟩) bars
    · obtain rfl := List.mem_singleton.mp hm
      exact plan.exists_forecasts rfl (fun _ _ _ => ⟨_, rfl⟩) bars
  exact ⟨by decide +kernel, hforecasts, units_keep_hits.1 plan 1200 60 models bars hforecasts⟩

end ReturnForecast
