import ReturnForecast.Proofs.Scalar.Real
import ReturnForecast.Proofs.Predictor.Lessons
import ReturnForecast.Proofs.Predictor.SigmaFloor

/-!
# Histories of returns

Over exact reals no return fails, so the lessons that a run of ticks tells a place are the log
returns between neighbouring usable prices there. A forecaster that looks at returns alone then
keeps the state that they leave one after the other, and what it estimates follows from that state.

* `returnsOf` — the returns between prices, and `Place.returns`, those of a place in a run
* `statesAfter` / `countedStates` — the states that a sequence of returns goes through
* `Predictor.hasFit_of_returns` / `hasFit_of_counted` — a predictor keeps the last of them
* `Predictor.estimateAt_of_returns` — and estimates what it forecasts
-/

namespace ReturnForecast

/-! ## Returns between prices -/

/-- The returns between neighbouring prices. -/
noncomputable def returnsOf : List ℝ → List ℝ
  | p :: q :: rest => Real.log (q / p) :: returnsOf (q :: rest)
  | _ => []

theorem returnsOf_concat (last p : ℝ) : ∀ init : List ℝ,
    returnsOf (init ++ [last] ++ [p]) = returnsOf (init ++ [last]) ++ [Real.log (p / last)]
  | [] => rfl
  | [_] => rfl
  | x :: y :: init => congrArg (Real.log (y / x) :: ·) (returnsOf_concat last p (y :: init))

theorem length_returnsOf : ∀ prices : List ℝ, (returnsOf prices).length = prices.length - 1
  | [] => rfl
  | [_] => rfl
  | _ :: q :: rest => congrArg (· + 1) (length_returnsOf (q :: rest))

/-- Every return lies between two neighbours. -/
theorem exists_neighbours_of_mem_returnsOf {x : ℝ} : ∀ {prices : List ℝ}, x ∈ returnsOf prices →
    ∃ p q, [p, q] <:+: prices ∧ x = Real.log (q / p)
  | p :: q :: rest, h => by
    rcases List.mem_cons.mp h with rfl | h
    · exact ⟨p, q, ⟨[], rest, rfl⟩, rfl⟩
    · obtain ⟨p', q', hneighbours, hx⟩ := exists_neighbours_of_mem_returnsOf h
      exact ⟨p', q', hneighbours.trans (List.infix_cons List.infix_rfl), hx⟩

namespace Place

/-- The usable prices of a place in a run, oldest first. -/
def prices {α : Type} [Scalar α] (place : Place) (ticks : List (Tick α)) : List α :=
  ticks.filterMap place.usable?

theorem prices_concat {α : Type} [Scalar α] (place : Place) (ticks : List (Tick α))
    (tick : Tick α) :
    place.prices (ticks ++ [tick]) = place.prices ticks ++ (place.usable? tick).toList := by
  simp only [prices, List.filterMap_eq_flatMap_toList, List.flatMap_append, List.flatMap_singleton]

theorem valid_of_mem_prices {place : Place} {ticks : List (Tick ℝ)} {x : ℝ}
    (h : x ∈ place.prices ticks) : isValidPrice x = true := by
  obtain ⟨tick, -, hx⟩ := List.mem_filterMap.mp h
  exact valid_of_usable? hx

/-- The returns of a place in a run, oldest first. -/
noncomputable def returns (place : Place) (ticks : List (Tick ℝ)) : List ℝ :=
  returnsOf (place.prices ticks)

theorem valid_of_cent_le {prices : List ℝ} (h : ∀ x ∈ prices, 1 / 100 ≤ x) :
    ∀ x ∈ prices, isValidPrice x = true :=
  fun x hx => isValidPrice_of_cent_le (h x hx)

/-- Prices of one instrument alone. -/
theorem returns_map_price (instrument : String) {prices : List ℝ}
    (h : ∀ x ∈ prices, isValidPrice x = true) :
    (base instrument).returns (prices.map (.price instrument)) = returnsOf prices :=
  congrArg returnsOf (Tick.pricesOf_map_price instrument h)

end Place

/-! ## What a run tells -/

namespace Hearing

section Returns

variable {α : Type} [Scalar α]

/-- The returns that a place has heard, oldest first. -/
def returns (h : Hearing α) : List α := h.lessons.map Lesson.ret

/-- Nothing is heard of factors that a predictor does not feed. -/
theorem factors_ofRun {c : Settings α} (hc : c.factorShare? = none) (place : Place)
    (ticks : List (Tick α)) : (ofRun c place ticks).factors = {} := by
  induction ticks using List.reverseRecOn with
  | nil => rfl
  | append_singleton ticks tick ih =>
    have hfactors : Predictor.factorsAfter c (ofRun c place ticks).factors tick =
        .ok (ofRun c place ticks).factors := by
      rw [Predictor.factorsAfter, hc]
    rw [ofRun_concat, hear, hfactors]
    cases place.usable? tick with
    | none => exact ih
    | some price => exact (factors_hearPrice _ price).trans ih

/-- The logarithm of a quotient of two usable prices. -/
def IsReturn (r : α) : Prop :=
  ∃ p q : α, isValidPrice p = true ∧ isValidPrice q = true ∧ log? (p / q) = .ok r

theorem isReturn_of_logReturn {price r : α} {last : Option α}
    (h : logReturn price last = .ok (some r)) : IsReturn r := by
  cases last with
  | none => cases h
  | some last =>
    unfold logReturn at h
    simp only at h
    split at h
    · next hvalid =>
      obtain ⟨hlast, hprice⟩ := Bool.and_eq_true_iff.mp hvalid
      obtain ⟨_, hlog, hr⟩ := map_eq_ok h
      cases hr
      exact ⟨price, last, hprice, hlast, hlog⟩
    · cases h

theorem isReturn_of_mem_hearPrice {h : Hearing α} (hh : ∀ r ∈ h.returns, IsReturn r) (price : α) :
    ∀ r ∈ (h.hearPrice price).returns, IsReturn r := by
  unfold hearPrice
  split
  · exact hh
  · exact hh
  · next x hreturn =>
    intro r hr
    rw [returns, List.map_append, List.mem_append] at hr
    rcases hr with hr | hr
    · exact hh r hr
    · rw [List.mem_singleton.mp hr]
      exact isReturn_of_logReturn hreturn

/-- **A place hears nothing but logarithms of quotients of usable prices.** -/
theorem isReturn_of_mem_returns {c : Settings α} {place : Place} {ticks : List (Tick α)} :
    ∀ r ∈ (ofRun c place ticks).returns, IsReturn r := by
  induction ticks using List.reverseRecOn with
  | nil => exact fun r hr => (List.not_mem_nil hr).elim
  | append_singleton ticks tick ih =>
    rw [ofRun_concat, hear]
    split
    · exact ih
    · next factors _ =>
      split
      · exact ih
      · exact isReturn_of_mem_hearPrice (h := { ofRun c place ticks with factors }) ih _

end Returns

variable {c : Settings ℝ} {place : Place} {h : Hearing ℝ} {prices : List ℝ}

/-- A hearing without factors of some prices, and of the returns between them. -/
structure OfPrices (h : Hearing ℝ) (prices : List ℝ) : Prop where
  factors : h.factors = {}
  lastPrice : h.lastPrice = prices.getLast?
  returns : h.lessons.map Lesson.ret = returnsOf prices

/-- The first price is only remembered, and every further one gives a return. -/
theorem OfPrices.hearPrice (hh : h.OfPrices prices)
    (hprices : ∀ x ∈ prices, isValidPrice x = true) {p : ℝ} (hp : isValidPrice p = true) :
    (h.hearPrice p).OfPrices (prices ++ [p]) := by
  unfold Hearing.hearPrice
  rw [hh.lastPrice]
  rcases prices.eq_nil_or_concat' with rfl | ⟨init, last, rfl⟩
  · exact { factors := hh.factors, lastPrice := rfl, returns := hh.returns }
  · have hlast : isValidPrice last = true := hprices last List.mem_concat_self
    have hlog : log? (p / last) = .ok (Real.log (p / last)) :=
      log?_of_pos (div_pos (isValidPrice_pos hp) (isValidPrice_pos hlast))
    have hreturn : logReturn p (init ++ [last]).getLast? = .ok (some (Real.log (p / last))) := by
      rw [List.getLast?_concat]
      simp only [logReturn, hlast, hp, Bool.and_self, if_true, hlog, Except.map]
    rw [hreturn]
    refine { factors := hh.factors, lastPrice := List.getLast?_concat.symm, returns := ?_ }
    rw [List.map_append, hh.returns, returnsOf_concat]
    rfl

theorem OfPrices.hear (hc : c.factorShare? = none) (hh : h.OfPrices prices)
    (hprices : ∀ x ∈ prices, isValidPrice x = true) (tick : Tick ℝ) :
    (h.hear c place tick).OfPrices (prices ++ (place.usable? tick).toList) := by
  have hfactors : Predictor.factorsAfter c h.factors tick = .ok h.factors := by
    rw [Predictor.factorsAfter, hc]
  unfold Hearing.hear
  rw [hfactors]
  cases husable : place.usable? tick with
  | none =>
    rw [Option.toList_none, List.append_nil]
    exact hh
  | some p => exact hh.hearPrice hprices (Place.valid_of_usable? husable)

/-- **Without factors a run tells a place the returns between its usable prices.** -/
theorem ofPrices_ofRun (hc : c.factorShare? = none) (place : Place) (ticks : List (Tick ℝ)) :
    (ofRun c place ticks).OfPrices (place.prices ticks) := by
  induction ticks using List.reverseRecOn with
  | nil => exact { factors := rfl, lastPrice := rfl, returns := rfl }
  | append_singleton ticks tick ih =>
    rw [Place.prices_concat, ofRun_concat]
    exact ih.hear hc (fun _ => Place.valid_of_mem_prices) tick

theorem returns_ofRun (hc : c.factorShare? = none) (place : Place) (ticks : List (Tick ℝ)) :
    (ofRun c place ticks).returns = place.returns ticks :=
  (ofPrices_ofRun hc place ticks).returns

end Hearing

/-! ## What returns leave -/

section States

variable {α σ : Type}

/-- The states that a sequence of returns goes through, the first one after its first return. -/
def statesAfter (seed : α → σ) (next : σ → α → σ) (r : ℕ → α) : ℕ → σ
  | 0 => seed (r 0)
  | n + 1 => next (statesAfter seed next r n) (r (n + 1))

/-- The first `n + 1` returns of a sequence. -/
def firstReturns (r : ℕ → α) (n : ℕ) : List α := (List.range (n + 1)).map r

theorem firstReturns_eq (r : ℕ → α) (n : ℕ) :
    firstReturns r n = r 0 :: (List.range n).map fun t => r (t + 1) := by
  rw [firstReturns, List.range_succ_eq_map, List.map_cons, List.map_map]
  rfl

theorem firstReturns_succ (r : ℕ → α) (n : ℕ) :
    firstReturns r (n + 1) = firstReturns r n ++ [r (n + 1)] := by
  rw [firstReturns, List.range_succ, List.map_append]
  rfl

/-- Every history with a return is the beginning of a sequence. -/
theorem eq_firstReturns {rs : List α} {n : ℕ} (h : rs.length = n + 1) (x : α) :
    rs = firstReturns (rs.getD · x) n := by
  refine List.ext_getElem (by rw [firstReturns, List.length_map, List.length_range, h]) ?_
  intro t ht _
  simp only [firstReturns, List.getElem_map, List.getElem_range]
  exact (List.getD_eq_getElem rs x ht).symm

theorem foldl_eq_statesAfter (seed : α → σ) (next : σ → α → σ) (r : ℕ → α) (n : ℕ) :
    ((List.range n).map fun t => r (t + 1)).foldl next (seed (r 0)) =
      statesAfter seed next r n := by
  induction n with
  | zero => rfl
  | succ n ih => rw [List.range_succ, List.map_append, List.foldl_append, ih]; rfl

/--
A forecaster that looks at returns alone, and never fails on a state with a property that all its
states have.
-/
structure Forecaster.LearnsReturns (f : Forecaster α σ) (seed : α → σ) (next : σ → α → σ)
    (I : σ → Prop) : Prop where
  seed_eq : ∀ r price, f.seed r price = .ok (seed r)
  step_eq : ∀ {s}, I s → ∀ count r price, f.step count s r price = .ok (next s r)
  holds_seed : ∀ r, I (seed r)
  holds_next : ∀ {s}, I s → ∀ r, I (next s r)

namespace Forecaster.LearnsReturns

variable {seed : α → σ} {next : σ → α → σ} {I : σ → Prop}

/-- A forecaster whose steps have nothing that could fail. -/
theorem of_total {f : Forecaster α σ} (hseed : ∀ r price, f.seed r price = .ok (seed r))
    (hstep : ∀ s count r price, f.step count s r price = .ok (next s r)) :
    f.LearnsReturns seed next fun _ => True where
  seed_eq := hseed
  step_eq {s} _ := hstep s
  holds_seed _ := trivial
  holds_next _ _ := trivial

theorem holds {f : Forecaster α σ} (hf : f.LearnsReturns seed next I) (r : ℕ → α) :
    ∀ n, I (statesAfter seed next r n)
  | 0 => hf.holds_seed (r 0)
  | n + 1 => hf.holds_next (hf.holds r n) (r (n + 1))

theorem learnsAs {f : MacroFactors α → Forecaster α σ}
    (hf : ∀ factors, (f factors).LearnsReturns seed next I) :
    LearnsAs f fun first rest => (rest.map Lesson.ret).foldl next (seed first.ret) where
  seed first price := (hf first.factors).seed_eq first.ret price
  step first rest last price := by
    have hlearned : ∀ rs : List α, I (rs.foldl next (seed first.ret)) := by
      intro rs
      induction rs using List.reverseRecOn with
      | nil => exact (hf {}).holds_seed first.ret
      | append_singleton rs r ih =>
        rw [List.foldl_append]
        exact (hf {}).holds_next ih r
    rw [(hf last.factors).step_eq (hlearned _), List.map_append, List.foldl_append]
    rfl

end Forecaster.LearnsReturns

/-! ### Steps that count -/

/-- What returns leave one after the other, where a step also sees how many came before it. -/
def foldCounted (next : ℕ → σ → α → σ) (count : ℕ) (s : σ) : List α → σ
  | [] => s
  | r :: rest => foldCounted next (count + 1) (next count s r) rest

theorem foldCounted_concat (next : ℕ → σ → α → σ) (r : α) : ∀ (rs : List α) (count : ℕ) (s : σ),
    foldCounted next count s (rs ++ [r]) =
      next (count + rs.length) (foldCounted next count s rs) r
  | [], _, _ => rfl
  | x :: rs, count, s => by
    have hlength : count + (x :: rs).length = count + 1 + rs.length := by
      rw [List.length_cons]
      omega
    rw [hlength]
    exact foldCounted_concat next r rs (count + 1) (next count s x)

/-- The states that a sequence of returns goes through, where a step also sees how many it had. -/
def countedStates (seed : α → σ) (next : ℕ → σ → α → σ) (r : ℕ → α) : ℕ → σ
  | 0 => seed (r 0)
  | n + 1 => next (n + 1) (countedStates seed next r n) (r (n + 1))

theorem foldCounted_eq_countedStates (seed : α → σ) (next : ℕ → σ → α → σ) (r : ℕ → α) (n : ℕ) :
    foldCounted next 1 (seed (r 0)) ((List.range n).map fun t => r (t + 1)) =
      countedStates seed next r n := by
  induction n with
  | zero => rfl
  | succ n ih =>
    rw [List.range_succ, List.map_append, List.map_singleton, foldCounted_concat, ih,
      List.length_map, List.length_range, Nat.add_comm 1 n]
    rfl

/-- A forecaster that never fails and looks at returns and their number alone. -/
structure Forecaster.LearnsCounted (f : Forecaster α σ) (seed : α → σ) (next : ℕ → σ → α → σ) :
    Prop where
  seed_eq : ∀ r price, f.seed r price = .ok (seed r)
  step_eq : ∀ count s r price, f.step count s r price = .ok (next count s r)

theorem Forecaster.LearnsCounted.learnsAs {f : MacroFactors α → Forecaster α σ} {seed : α → σ}
    {next : ℕ → σ → α → σ} (hf : ∀ factors, (f factors).LearnsCounted seed next) :
    LearnsAs f fun first rest => foldCounted next 1 (seed first.ret) (rest.map Lesson.ret) where
  seed first price := (hf first.factors).seed_eq first.ret price
  step first rest last price := by
    rw [(hf last.factors).step_eq, List.map_append, List.map_singleton, foldCounted_concat,
      List.length_map, Nat.add_comm 1]

end States

/-! ## Predictors -/

namespace Predictor

/-- A predictor without factors that has this fit at a place. -/
def HasFit {α : Type} [Scalar α] (p : Predictor α) (c : Settings α) (place : Place)
    (fit : Fit c.State) : Prop :=
  ∃ s : Scopes α c.State, p = { settings := c, scopes := s } ∧ (s.trackAt place).fit = some fit

/-- The estimate of the track at a place alone. -/
def estimateAt {α : Type} [Scalar α] (p : Predictor α) (place : Place) (fallback : Estimate α) :
    Except Fault (Estimate α) :=
  (p.scopes.trackAt place).estimate p.forecaster p.minSigma fallback

theorem estimateAt_base {α : Type} [Scalar α] (p : Predictor α) (instrument : String)
    (fallback : Estimate α) :
    p.estimateAt (.base instrument) fallback = p.estimateBase instrument fallback :=
  (Scopes.estimateBase_eq p.forecaster p.minSigma p.scopes instrument fallback).symm

theorem HasFit.estimateAt_eq {α : Type} [Scalar α] {p : Predictor α} {c : Settings α}
    {place : Place} {fit : Fit c.State} (h : p.HasFit c place fit) (fallback : Estimate α) :
    p.estimateAt place fallback =
      ((c.forecaster {}).forecast fit.count fit.state fallback).map (·.floored c.minSigma) := by
  obtain ⟨s, rfl, hfit⟩ := h
  unfold estimateAt Track.estimate Track.forecast
  simp only [hfit]
  rfl

/-- An estimate raises the sigma of the forecast to its floor. -/
theorem HasFit.estimateAt_of_forecast {p : Predictor ℝ} {c : Settings ℝ} {place : Place}
    {fit : Fit c.State} (h : p.HasFit c place fit) {fallback e : Estimate ℝ}
    (hforecast : (c.forecaster {}).forecast fit.count fit.state fallback = .ok e) :
    p.estimateAt place fallback = .ok { mu := e.mu, sigma := max e.sigma c.minSigma } := by
  rw [h.estimateAt_eq fallback, hforecast]
  show Except.ok (e.floored c.minSigma) = _
  rw [Estimate.floored, floorSigma_eq_max]

/-- There is no other fit at a place than what the lessons there have left. -/
theorem HasFit.exists_lessons {α : Type} [Scalar α] {c : Settings α} {place : Place}
    {ticks : List (Tick α)} {fit : Fit c.State}
    (h : ((fresh c).observeAll ticks).HasFit c place fit)
    {state : Lesson α → List (Lesson α) → c.State} (hf : Forecaster.LearnsAs c.forecaster state) :
    ∃ first rest, (Hearing.ofRun c place ticks).lessons = first :: rest ∧
      fit = { count := rest.length + 1, state := state first rest } := by
  obtain ⟨s, hkept, hfit⟩ := h
  obtain ⟨t, hheard, htrack⟩ := heard_observeAll hf place ticks
  have hsame : s = t := by
    rw [hkept] at hheard
    exact eq_of_heq (Predictor.mk.inj hheard).2.1
  rw [hsame, htrack, Hearing.track] at hfit
  cases hlessons : (Hearing.ofRun c place ticks).lessons with
  | nil =>
    rw [hlessons] at hfit
    cases hfit
  | cons first rest =>
    rw [hlessons] at hfit
    exact ⟨first, rest, rfl, (Option.some.inj hfit).symm⟩

/-- What a place has heard leaves what its returns leave, if a forecaster looks at these alone. -/
theorem hasFit_of_heard {α : Type} [Scalar α] {c : Settings α} {place : Place}
    {ticks : List (Tick α)} (state : α → List α → c.State)
    (hf : Forecaster.LearnsAs c.forecaster fun first rest =>
      state first.ret (rest.map Lesson.ret))
    (hc : c.factorShare? = none) {first : α} {rest : List α}
    (hr : (Hearing.ofRun c place ticks).returns = first :: rest) :
    ((fresh c).observeAll ticks).HasFit c place
      { count := rest.length + 1, state := state first rest } := by
  obtain ⟨s, hrun, htrack⟩ := heard_observeAll hf place ticks
  rw [Hearing.factors_ofRun hc] at hrun
  obtain ⟨l, ls, hlessons, rfl, rfl⟩ := List.map_eq_cons_iff.mp hr
  refine ⟨s, hrun, ?_⟩
  rw [htrack, Hearing.track, hlessons, List.length_map]
  rfl

section Returns

variable {c : Settings ℝ} {seed : ℝ → c.State} {next : c.State → ℝ → c.State}
  {I : c.State → Prop} {place : Place} {ticks : List (Tick ℝ)} {r : ℕ → ℝ} {n : ℕ}

/-- What lessons leave is what the returns leave, for a forecaster that looks at these alone. -/
theorem hasFit_of_learnsAs (state : ℝ → List ℝ → c.State)
    (hf : Forecaster.LearnsAs c.forecaster fun first rest =>
      state first.ret (rest.map Lesson.ret))
    (hc : c.factorShare? = none) (hr : place.returns ticks = firstReturns r n) :
    ((fresh c).observeAll ticks).HasFit c place
      { count := n + 1, state := state (r 0) ((List.range n).map fun t => r (t + 1)) } := by
  have hheard : (Hearing.ofRun c place ticks).returns =
      r 0 :: (List.range n).map fun t => r (t + 1) :=
    (Hearing.returns_ofRun hc place ticks).trans (hr.trans (firstReturns_eq r n))
  have hfit := hasFit_of_heard state hf hc hheard
  rwa [List.length_map, List.length_range] at hfit

/-- **A predictor keeps at a place what the returns there have left.** -/
theorem hasFit_of_returns (hf : ∀ factors, (c.forecaster factors).LearnsReturns seed next I)
    (hc : c.factorShare? = none) (hr : place.returns ticks = firstReturns r n) :
    ((fresh c).observeAll ticks).HasFit c place
      { count := n + 1, state := statesAfter seed next r n } := by
  rw [← foldl_eq_statesAfter]
  exact hasFit_of_learnsAs (fun first rest => rest.foldl next (seed first))
    (Forecaster.LearnsReturns.learnsAs hf) hc hr

/-- So does one whose steps count the returns. -/
theorem hasFit_of_counted {next : ℕ → c.State → ℝ → c.State}
    (hf : ∀ factors, (c.forecaster factors).LearnsCounted seed next)
    (hc : c.factorShare? = none) (hr : place.returns ticks = firstReturns r n) :
    ((fresh c).observeAll ticks).HasFit c place
      { count := n + 1, state := countedStates seed next r n } := by
  rw [← foldCounted_eq_countedStates]
  exact hasFit_of_learnsAs (foldCounted next 1 ∘ seed)
    (Forecaster.LearnsCounted.learnsAs hf) hc hr

/-- **The estimate at a place is the forecast of what the returns there have left.** -/
theorem estimateAt_of_returns (hf : ∀ factors, (c.forecaster factors).LearnsReturns seed next I)
    (hc : c.factorShare? = none) (hr : place.returns ticks = firstReturns r n)
    (fallback : Estimate ℝ) : ((fresh c).observeAll ticks).estimateAt place fallback =
      ((c.forecaster {}).forecast (n + 1) (statesAfter seed next r n) fallback).map
        (·.floored c.minSigma) :=
  (hasFit_of_returns hf hc hr).estimateAt_eq fallback

end Returns

end Predictor

end ReturnForecast
