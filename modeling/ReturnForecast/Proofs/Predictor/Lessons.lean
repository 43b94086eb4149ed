import ReturnForecast.Proofs.Predictor.Streams

/-!
# Lessons of a run

A track learns from returns, one at a time, each with the macro factors of its moment. What these
lessons are is settled by the ticks alone: it does not depend on what is made of them.

* `Hearing` — what a run tells one place
* `Forecaster.LearnsAs` — what lessons leave, in closed form
* `heard_observeAll` — every place has the form of its lessons after every run
-/

namespace ReturnForecast

variable {α σ : Type} [Scalar α]

/-! ## Places -/

/-- Where a track is kept: at an instrument, or under a signal key. -/
inductive Place where
  | base (instrument : String)
  | signal (key : String)
deriving DecidableEq, Repr

/-- The usable price that a tick holds for a place. -/
def Place.usable? : Place → Tick α → Option α
  | base instrument => Tick.priceOf? instrument
  | signal key => Tick.signalled? key

theorem Place.valid_of_usable? {place : Place} {tick : Tick α} {x : α}
    (h : place.usable? tick = some x) : isValidPrice x = true := by
  cases place with
  | base instrument =>
    cases tick with
    | price other y => exact Tick.valid_of_usableAt? h
    | signal other tag side y => cases h
  | signal key =>
    cases tick with
    | price other y => cases h
    | signal instrument tag side y =>
      simp only [usable?, Tick.signalled?] at h
      split at h
      · exact Tick.valid_of_usableAt? h
      · cases h

namespace Scopes

/-- The track at a place. -/
def trackAt (s : Scopes α σ) : Place → Track α σ
  | .base instrument => trackOf s.base instrument
  | .signal key => trackOf s.signals key

theorem trackAt_observe (f : Forecaster α σ) (s : Scopes α σ) (place : Place) (tick : Tick α) :
    (s.observe f tick).trackAt place =
      (s.trackAt place).afterAll f (place.usable? tick).toList := by
  cases place with
  | base instrument => exact trackOf_base_observe f s instrument tick
  | signal key => exact trackOf_signals_observe f s key tick

end Scopes

/-! ## Lessons -/

/-- A return as a track learns it, with the macro factors of that moment. -/
structure Lesson (α : Type) where
  ret : α
  factors : MacroFactors α

/-- What a run tells one place: the factors, the last usable price and the lessons, oldest first. -/
structure Hearing (α : Type) where
  factors : MacroFactors α := {}
  lastPrice : Option α := none
  lessons : List (Lesson α) := []

namespace Hearing

/-- A usable price at the place. A return that fails is no lesson, and its price is forgotten. -/
def hearPrice (h : Hearing α) (price : α) : Hearing α :=
  match logReturn price h.lastPrice with
  | .error _ => h
  | .ok none => { h with lastPrice := some price }
  | .ok (some r) =>
    { h with lastPrice := some price, lessons := h.lessons ++ [{ ret := r, factors := h.factors }] }

theorem factors_hearPrice (h : Hearing α) (price : α) :
    (h.hearPrice price).factors = h.factors := by
  unfold hearPrice
  split <;> rfl

/-- A tick: the factors hear it first. -/
def hear (c : Settings α) (place : Place) (h : Hearing α) (tick : Tick α) : Hearing α :=
  match Predictor.factorsAfter c h.factors tick with
  | .error _ => h
  | .ok factors =>
    match place.usable? tick with
    | none => { h with factors }
    | some price => { h with factors }.hearPrice price

/-- What a run tells a place. -/
def ofRun (c : Settings α) (place : Place) (ticks : List (Tick α)) : Hearing α :=
  ticks.foldl (hear c place) {}

theorem ofRun_concat (c : Settings α) (place : Place) (ticks : List (Tick α)) (tick : Tick α) :
    ofRun c place (ticks ++ [tick]) = (ofRun c place ticks).hear c place tick :=
  List.foldl_append

end Hearing

/-! ## Learning -/

/-- The fit after some lessons, where `state` says what a first lesson and further ones leave. -/
def fitAfter (state : Lesson α → List (Lesson α) → σ) : List (Lesson α) → Option (Fit σ)
  | [] => none
  | first :: rest => some { count := rest.length + 1, state := state first rest }

omit [Scalar α] in
theorem map_fitAfter {τ : Type} (view : σ → τ) (state : Lesson α → List (Lesson α) → σ)
    (lessons : List (Lesson α)) : (fitAfter state lessons).map (Fit.map view) =
      fitAfter (fun first rest => view (state first rest)) lessons := by
  cases lessons <;> rfl

/--
A forecaster that never fails, and what its lessons leave in closed form: the first lesson leaves
what the seed is, and a further one takes the form of the earlier ones to the form of all.
-/
structure Forecaster.LearnsAs (f : MacroFactors α → Forecaster α σ)
    (state : Lesson α → List (Lesson α) → σ) : Prop where
  seed : ∀ first price, (f first.factors).seed first.ret price = .ok (state first [])
  step : ∀ first rest (next : Lesson α) price,
    (f next.factors).step (rest.length + 1) (state first rest) next.ret price =
      .ok (state first (rest ++ [next]))

section Learning

variable {f : MacroFactors α → Forecaster α σ} {state : Lesson α → List (Lesson α) → σ}

omit [Scalar α] in
theorem Forecaster.LearnsAs.learn (hf : LearnsAs f state) (lessons : List (Lesson α))
    (next : Lesson α) (price : α) :
    ∃ fit, (f next.factors).learn (fitAfter state lessons) next.ret price = .ok fit ∧
      fitAfter state (lessons ++ [next]) = some fit := by
  cases lessons with
  | nil =>
    refine ⟨{ count := 1, state := state next [] }, ?_, rfl⟩
    simp only [fitAfter, Forecaster.learn, hf.seed, Except.map]
  | cons first rest =>
    refine ⟨{ count := rest.length + 1 + 1, state := state first (rest ++ [next]) }, ?_, ?_⟩
    · simp only [fitAfter, Forecaster.learn, hf.step, Except.map]
    · simp only [List.cons_append, fitAfter, List.length_append, List.length_singleton]

/-- The track that has learned what it heard. -/
def Hearing.track (state : Lesson α → List (Lesson α) → σ) (h : Hearing α) : Track α σ :=
  { lastPrice := h.lastPrice, fit := fitAfter state h.lessons }

theorem Hearing.track_hearPrice (hf : Forecaster.LearnsAs f state) (h : Hearing α) {price : α}
    (hprice : isValidPrice price = true) :
    (h.track state).after (f h.factors) price = (h.hearPrice price).track state := by
  unfold Track.after Track.observe hearPrice
  rw [if_pos hprice]
  simp only [track, bind, Except.bind, pure, Except.pure]
  cases logReturn price h.lastPrice with
  | error fault => rfl
  | ok r =>
    cases r with
    | none => rfl
    | some r =>
      obtain ⟨fit, hlearn, hfit⟩ := hf.learn h.lessons { ret := r, factors := h.factors } price
      simp only at hlearn ⊢
      rw [hlearn, hfit]

end Learning

namespace Predictor

/-- A predictor that has learned at a place what was heard there. -/
def Heard {c : Settings α} (state : Lesson α → List (Lesson α) → c.State) (place : Place)
    (p : Predictor α) (h : Hearing α) : Prop :=
  ∃ s : Scopes α c.State, p = { settings := c, scopes := s, factors := h.factors } ∧
    s.trackAt place = h.track state

variable {c : Settings α} {state : Lesson α → List (Lesson α) → c.State} {place : Place}
  {p : Predictor α} {h : Hearing α}

omit [Scalar α] in
theorem heard_fresh (state : Lesson α → List (Lesson α) → c.State) (place : Place) :
    Heard state place (fresh c) {} := by
  refine ⟨{}, rfl, ?_⟩
  have hempty : ({} : Scopes α c.State).trackAt place = {} := by cases place <;> rfl
  rw [hempty]
  rfl

theorem Heard.observe (hf : Forecaster.LearnsAs c.forecaster state) (hp : Heard state place p h)
    (tick : Tick α) : Heard state place (p.observe tick) (h.hear c place tick) := by
  obtain ⟨s, rfl, htrack⟩ := hp
  rw [observe_eq_factorsAfter]
  unfold Hearing.hear
  cases factorsAfter c h.factors tick with
  | error fault => exact ⟨s, rfl, htrack⟩
  | ok factors =>
    have hat := s.trackAt_observe (c.forecaster factors) place tick
    simp only
    cases husable : place.usable? tick with
    | none =>
      rw [husable] at hat
      exact ⟨_, rfl, hat.trans htrack⟩
    | some price =>
      rw [husable] at hat
      have hlearn := Hearing.track_hearPrice hf { h with factors }
        (Place.valid_of_usable? husable)
      refine ⟨_, by rw [Hearing.factors_hearPrice], hat.trans ?_⟩
      rw [htrack]
      exact hlearn

/-- **After every run every place has the form of its lessons.** -/
theorem heard_observeAll (hf : Forecaster.LearnsAs c.forecaster state) (place : Place)
    (ticks : List (Tick α)) :
    Heard state place ((fresh c).observeAll ticks) (Hearing.ofRun c place ticks) := by
  have hrun : ∀ (ticks : List (Tick α)) {p : Predictor α} {h : Hearing α}, Heard state place p h →
      Heard state place (p.observeAll ticks) (ticks.foldl (Hearing.hear c place) h) := by
    intro ticks
    induction ticks with
    | nil => exact fun hp => hp
    | cons tick rest ih => exact fun hp => ih (hp.observe hf tick)
  exact hrun ticks (heard_fresh state place)

end Predictor

end ReturnForecast
