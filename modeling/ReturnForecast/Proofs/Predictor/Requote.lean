import ReturnForecast.Proofs.Predictor.Streams

/-!
# Two quotations of one market

The same market can be quoted in another way, in another unit or as the price of the other side.
Prices change, and with them log returns and drifts. A forecaster may treat both quotations alike:
it then goes through the same states, seen the other way, and so do tracks, scopes and predictors.

* `Requote` — a change of quotation
* `Forecaster.Commutes` — what a forecaster has to satisfy, one condition for each of its rules
* `Requoted.observeAll` — two predictors stay in step over every run of ticks
* `Requoted.estimateBase` / `Requoted.estimateSignal` — what they then estimate
-/

namespace ReturnForecast

/--
A change of quotation: what becomes of a price, and what becomes of a log return or a drift. The
quotient of two prices tells the return in both quotations, and averages may be taken in either.
-/
structure Requote (α : Type) [Scalar α] where
  price : α → α
  drift : α → α
  log?_div : ∀ {p last : α}, isValidPrice p = true → isValidPrice last = true →
    isValidPrice (price p) = true → isValidPrice (price last) = true →
    log? (price p / price last) = (log? (p / last)).map drift
  drift_ewma : ∀ a b share, ewma (drift a) (drift b) share = drift (ewma a b share)
  drift_blend : ∀ w a b, blend w (drift a) (drift b) = drift (blend w a b)

variable {α σ : Type} [Scalar α] {q : Requote α}

/-- A price that is usable in both quotations. -/
structure Requote.Usable (q : Requote α) (p : α) : Prop where
  before : isValidPrice p = true
  after : isValidPrice (q.price p) = true

/-- A price that is usable in one quotation only is what the two must not meet. -/
theorem Requote.usable_of_valid {p : α} (hvalid : isValidPrice (q.price p) = isValidPrice p)
    (h : isValidPrice p = true) : q.Usable p := ⟨h, hvalid.trans h⟩

/-! ## Estimates -/

/-- An estimate in the other quotation: only its drift changes. -/
def Estimate.requoted (q : Requote α) (e : Estimate α) : Estimate α := { e with mu := q.drift e.mu }

@[simp] theorem Estimate.requoted_sigma (e : Estimate α) : (e.requoted q).sigma = e.sigma := rfl

theorem Estimate.floored_requoted (e : Estimate α) (least : α) :
    (e.requoted q).floored least = (e.floored least).requoted q := rfl

theorem Estimate.pulledTo_requoted (e base : Estimate α) (w : α) :
    (e.requoted q).pulledTo w (base.requoted q) = (e.pulledTo w base).requoted q := by
  simp only [Estimate.pulledTo, Estimate.requoted, q.drift_blend]

/-! ## Forecasters -/

/--
Two forecasters that treat two quotations alike: `g` does in the other quotation what `f` does, to
states that `m` translates.
-/
structure Forecaster.Commutes (q : Requote α) (m : σ → σ) (f g : Forecaster α σ) : Prop where
  seed : ∀ r {p}, q.Usable p → g.seed (q.drift r) (q.price p) = (f.seed r p).map m
  step : ∀ count s r {p}, q.Usable p →
    g.step count (m s) (q.drift r) (q.price p) = (f.step count s r p).map m
  forecast : ∀ count s fallback,
    g.forecast count (m s) (fallback.requoted q) = (f.forecast count s fallback).map (·.requoted q)

theorem Forecaster.Commutes.learn {m : σ → σ} {f g : Forecaster α σ} (h : f.Commutes q m g)
    (fit : Option (Fit σ)) (r : α) {p : α} (hp : q.Usable p) :
    g.learn (fit.map (Fit.map m)) (q.drift r) (q.price p) = (f.learn fit r p).map (Fit.map m) := by
  cases fit with
  | none =>
    simp only [Forecaster.learn, Option.map_none]
    rw [h.seed r hp]
    cases f.seed r p <;> rfl
  | some fit =>
    simp only [Forecaster.learn, Option.map_some, Fit.map]
    rw [h.step fit.count fit.state r hp]
    cases f.step fit.count fit.state r p <;> rfl

/-! ## Tracks -/

namespace Track

/-- A track in the other quotation. -/
def requoted (q : Requote α) (m : σ → σ) (t : Track α σ) : Track α σ :=
  { lastPrice := t.lastPrice.map q.price, fit := t.fit.map (Fit.map m) }

/-- The last price of the track is usable in both quotations. -/
def Quotable (q : Requote α) (t : Track α σ) : Prop := ∀ p ∈ t.lastPrice, q.Usable p

theorem quotable_empty : ({} : Track α σ).Quotable q := fun _ h => nomatch h

theorem requoted_empty (m : σ → σ) : ({} : Track α σ).requoted q m = {} := rfl

theorem count_requoted (m : σ → σ) (t : Track α σ) : (t.requoted q m).count = t.count := by
  unfold count requoted
  cases t.fit <;> rfl

variable {m : σ → σ} {f g : Forecaster α σ} {t : Track α σ} {p : α}

theorem logReturn_requoted {last : Option α} (hlast : ∀ x ∈ last, q.Usable x) (hp : q.Usable p) :
    logReturn (q.price p) (last.map q.price) = (logReturn p last).map (·.map q.drift) := by
  cases last with
  | none => rfl
  | some x =>
    have hx : q.Usable x := hlast x rfl
    simp only [Option.map_some, logReturn, hx.before, hx.after, hp.before, hp.after, Bool.and_self,
      if_true]
    rw [q.log?_div hp.before hx.before hp.after hx.after]
    cases log? (p / x) <;> rfl

theorem Quotable.observe (ht : t.Quotable q) (hvalid : isValidPrice (q.price p) = isValidPrice p)
    {t' : Track α σ} (h : t.observe f p = .ok t') : t'.Quotable q := by
  unfold Track.observe at h
  by_cases hp : isValidPrice p = true
  · have hlast : t'.lastPrice = some p := by
      rw [if_pos hp] at h
      cases hr : logReturn p t.lastPrice with
      | error fault => rw [hr] at h; cases h
      | ok r =>
        rw [hr] at h
        cases r with
        | none => cases h; rfl
        | some r =>
          simp only [bind, Except.bind, pure, Except.pure] at h
          split at h
          · cases h
          · cases h; rfl
    intro x hx
    rw [hlast] at hx
    cases hx
    exact Requote.usable_of_valid hvalid hp
  · rw [if_neg hp] at h
    cases h
    exact ht

/-- One price in both quotations. -/
theorem observe_requoted (hf : f.Commutes q m g) (ht : t.Quotable q)
    (hvalid : isValidPrice (q.price p) = isValidPrice p) :
    (t.requoted q m).observe g (q.price p) = (t.observe f p).map (·.requoted q m) := by
  unfold observe
  by_cases hp : isValidPrice p = true
  · have husable := Requote.usable_of_valid hvalid hp
    rw [if_pos husable.after, if_pos hp]
    show (logReturn (q.price p) (t.lastPrice.map q.price)).bind _ = _
    rw [logReturn_requoted ht husable]
    cases logReturn p t.lastPrice with
    | error fault => rfl
    | ok r =>
      cases r with
      | none => rfl
      | some r =>
        show (g.learn (t.fit.map (Fit.map m)) (q.drift r) (q.price p)).bind _ = _
        rw [hf.learn t.fit r husable]
        show _ = ((f.learn t.fit r p).bind _).map _
        cases f.learn t.fit r p <;> rfl
  · rw [if_neg hp, if_neg (by rw [hvalid]; exact hp)]
    rfl

theorem estimate_requoted (hf : f.Commutes q m g) (minSigma : α) (t : Track α σ)
    (fallback : Estimate α) : (t.requoted q m).estimate g minSigma (fallback.requoted q) =
      (t.estimate f minSigma fallback).map (·.requoted q) := by
  unfold estimate forecast requoted
  cases t.fit with
  | none => rfl
  | some fit =>
    show (g.forecast fit.count (m fit.state) (fallback.requoted q)).map _ = _
    rw [hf.forecast]
    show _ = ((f.forecast fit.count fit.state fallback).map _).map _
    cases f.forecast fit.count fit.state fallback <;> rfl

end Track

/-! ## Values by key -/

namespace Keyed

variable {β γ : Type}

/-- Every value seen another way, under the same keys. -/
def map (h : β → γ) (m : Keyed β) : Keyed γ := ⟨m.entries.map fun entry => (entry.1, h entry.2)⟩

theorem find?_map (h : β → γ) (key : String) (entries : List (String × β)) :
    find? key (entries.map fun entry => (entry.1, h entry.2)) = (find? key entries).map h := by
  induction entries with
  | nil => rfl
  | cons entry rest ih =>
    obtain ⟨k, value⟩ := entry
    simp only [List.map_cons, find?]
    split
    · rfl
    · exact ih

theorem put_map (h : β → γ) (key : String) (value : β) (entries : List (String × β)) :
    put key (h value) (entries.map fun entry => (entry.1, h entry.2)) =
      (put key value entries).map fun entry => (entry.1, h entry.2) := by
  induction entries with
  | nil => rfl
  | cons entry rest ih =>
    obtain ⟨k, old⟩ := entry
    simp only [List.map_cons, put]
    split
    · rfl
    · rw [ih]; rfl

theorem get?_map (h : β → γ) (m : Keyed β) (key : String) :
    (m.map h).get? key = (m.get? key).map h := find?_map h key m.entries

theorem insert_map (h : β → γ) (m : Keyed β) (key : String) (value : β) :
    (m.map h).insert key (h value) = (m.insert key value).map h :=
  congrArg Keyed.mk (put_map h key value m.entries)

theorem size_map (h : β → γ) (m : Keyed β) : (m.map h).size = m.size := List.length_map _

end Keyed

/-! ## Tracks by key -/

section TracksByKey

variable {m : σ → σ} {f g : Forecaster α σ} {tracks : Keyed (Track α σ)} {p : α}

theorem trackOf_requoted (m : σ → σ) (tracks : Keyed (Track α σ)) (key : String) :
    trackOf (tracks.map (Track.requoted q m)) key = (trackOf tracks key).requoted q m := by
  unfold trackOf
  rw [Keyed.get?_map]
  cases tracks.get? key with
  | none => exact (Track.requoted_empty m).symm
  | some t => rfl

theorem quotable_observeAt (h : ∀ key, (trackOf tracks key).Quotable q)
    (hvalid : isValidPrice (q.price p) = isValidPrice p) (key other : String) :
    (trackOf (observeAt f tracks key p).1 other).Quotable q := by
  by_cases hkey : key = other
  · subst hkey
    rw [trackOf_observeAt_self]
    unfold Track.after
    split
    · next hobserve => exact (h key).observe hvalid hobserve
    · exact h key
  · rw [trackOf_observeAt_of_ne f tracks hkey]
    exact h other

/-- A price under a key in both quotations, with the same fault if there is one. -/
theorem observeAt_requoted (hf : f.Commutes q m g) (h : ∀ key, (trackOf tracks key).Quotable q)
    (hvalid : isValidPrice (q.price p) = isValidPrice p) (key : String) :
    observeAt g (tracks.map (Track.requoted q m)) key (q.price p) =
      ((observeAt f tracks key p).1.map (Track.requoted q m), (observeAt f tracks key p).2) := by
  unfold observeAt
  simp only [trackOf_requoted, Track.observe_requoted hf (h key) hvalid]
  cases (trackOf tracks key).observe f p with
  | ok next => exact congrArg (·, none) (Keyed.insert_map _ tracks key next)
  | error fault => exact congrArg (·, some fault) (Keyed.insert_map _ tracks key _)

end TracksByKey

/-! ## Scopes -/

namespace Tick

/-- A tick with another price. -/
def mapQuote (h : α → α) : Tick α → Tick α
  | price instrument x => price instrument (h x)
  | signal instrument tag side x => signal instrument tag side (h x)

end Tick

namespace Scopes

/-- Scopes in the other quotation. -/
def requoted (q : Requote α) (m : σ → σ) (s : Scopes α σ) : Scopes α σ :=
  { base := s.base.map (Track.requoted q m), signals := s.signals.map (Track.requoted q m) }

/-- All last prices are usable in both quotations. -/
structure Quotable (q : Requote α) (s : Scopes α σ) : Prop where
  base : ∀ key, (trackOf s.base key).Quotable q
  signals : ∀ key, (trackOf s.signals key).Quotable q

theorem quotable_empty : ({} : Scopes α σ).Quotable q :=
  ⟨fun _ => Track.quotable_empty, fun _ => Track.quotable_empty⟩

variable {m : σ → σ} {f g : Forecaster α σ} {s : Scopes α σ} {tick : Tick α}

theorem Quotable.observe (h : s.Quotable q)
    (hvalid : isValidPrice (q.price tick.quote) = isValidPrice tick.quote) :
    (s.observe f tick).Quotable q := by
  cases tick with
  | price instrument x => exact ⟨quotable_observeAt h.base hvalid instrument, h.signals⟩
  | signal instrument tag side x =>
    unfold Scopes.observe
    simp only
    split
    · next key hkey => exact ⟨h.base, quotable_observeAt h.signals hvalid key⟩
    · exact h

theorem observe_requoted (hf : f.Commutes q m g) (h : s.Quotable q)
    (hvalid : isValidPrice (q.price tick.quote) = isValidPrice tick.quote) :
    (s.requoted q m).observe g (tick.mapQuote q.price) = (s.observe f tick).requoted q m := by
  cases tick with
  | price instrument x =>
    have hbase := congrArg Prod.fst (observeAt_requoted hf h.base hvalid instrument)
    exact congrArg (fun base => { s.requoted q m with base }) hbase
  | signal instrument tag side x =>
    simp only [Scopes.observe, Tick.mapQuote]
    cases readSignalKey instrument tag side with
    | error fault => rfl
    | ok key =>
      have hsignals := congrArg Prod.fst (observeAt_requoted hf h.signals hvalid key)
      exact congrArg (fun signals => { s.requoted q m with signals }) hsignals

theorem estimateBase_requoted (hf : f.Commutes q m g) (minSigma : α) (s : Scopes α σ)
    (instrument : String) (fallback : Estimate α) :
    (s.requoted q m).estimateBase g minSigma instrument (fallback.requoted q) =
      (s.estimateBase f minSigma instrument fallback).map (·.requoted q) := by
  rw [estimateBase_eq, estimateBase_eq, requoted, trackOf_requoted, Track.estimate_requoted hf]

theorem estimateSignal_requoted (hf : f.Commutes q m g) (minSigma : α) (s : Scopes α σ)
    (key : String) (base : Estimate α) :
    (s.requoted q m).estimateSignal g minSigma key (base.requoted q) =
      (s.estimateSignal f minSigma key base).map (·.requoted q) := by
  rw [estimateSignal_eq, estimateSignal_eq, requoted, trackOf_requoted, Track.count_requoted]
  split
  · rfl
  · rw [Track.estimate_requoted hf]
    cases (trackOf s.signals key).estimate f minSigma base with
    | error fault => rfl
    | ok own =>
      show (shrinkWeight? _ _).bind _ = ((shrinkWeight? _ _).bind _).map _
      cases shrinkWeight? ((trackOf s.signals key).count : α) signalShrinkCount with
      | error fault => rfl
      | ok w =>
        show Except.ok (((own.requoted q).pulledTo w (base.requoted q)).floored minSigma) = _
        rw [Estimate.pulledTo_requoted, Estimate.floored_requoted]
        rfl

end Scopes

/-! ## Macro factors -/

namespace Factor

/-- A factor in the other quotation. -/
def requoted (q : Requote α) (f : Factor α) : Factor α :=
  { lastPrice := f.lastPrice.map q.price, average := f.average.map q.drift }

/-- The last price of the factor is usable in both quotations. -/
def Quotable (q : Requote α) (f : Factor α) : Prop := ∀ p ∈ f.lastPrice, q.Usable p

variable {f : Factor α} {p : α}

theorem observe_requoted (share : α) (hf : f.Quotable q) (hp : q.Usable p) :
    (f.requoted q).observe share (q.price p) = (f.observe share p).map (·.requoted q) := by
  unfold observe requoted
  cases hlast : f.lastPrice with
  | none => rfl
  | some last =>
    have hl : q.Usable last := hf last hlast
    simp only [Option.map_some]
    rw [q.log?_div hp.before hl.before hp.after hl.after]
    cases log? (p / last) with
    | error fault => rfl
    | ok r =>
      cases f.average with
      | none => rfl
      | some average =>
        show Except.ok (Factor.mk (some (q.price p))
          (some (ewma (q.drift average) (q.drift r) share))) = _
        rw [q.drift_ewma]
        rfl

theorem lastPrice_observe {share : α} {f' : Factor α} (h : f.observe share p = .ok f') :
    f'.lastPrice = some p := by
  unfold observe at h
  cases hlast : f.lastPrice with
  | none => rw [hlast] at h; cases h; rfl
  | some last =>
    rw [hlast] at h
    cases hr : log? (p / last) with
    | error fault => simp only [hr, bind, Except.bind] at h; cases h
    | ok r => simp only [hr, bind, Except.bind, pure, Except.pure] at h; cases h; rfl

end Factor

namespace MacroFactors

/-- The factors in the other quotation. -/
def requoted (q : Requote α) (F : MacroFactors α) : MacroFactors α :=
  { equity := F.equity.requoted q, gold := F.gold.requoted q, oil := F.oil.requoted q }

/-- All last prices are usable in both quotations. -/
def Quotable (q : Requote α) (F : MacroFactors α) : Prop := ∀ asset, (F.get asset).Quotable q

theorem quotable_empty : ({} : MacroFactors α).Quotable q := by
  intro asset
  cases asset <;> exact fun _ h => nomatch h

theorem get_requoted (F : MacroFactors α) (asset : Asset) :
    (F.requoted q).get asset = (F.get asset).requoted q := by cases asset <;> rfl

theorem set_requoted (F : MacroFactors α) (asset : Asset) (f : Factor α) :
    (F.requoted q).set asset (f.requoted q) = (F.set asset f).requoted q := by cases asset <;> rfl

variable {F : MacroFactors α} {p : α}

/-- One price at the factors in both quotations. -/
theorem observe_requoted (share : α) (hF : F.Quotable q) (instrument : String)
    (hvalid : isValidPrice (q.price p) = isValidPrice p) :
    (F.requoted q).observe share instrument (q.price p) =
      (F.observe share instrument p).map (·.requoted q) := by
  unfold observe
  by_cases hp : isValidPrice p = true
  · have husable := Requote.usable_of_valid hvalid hp
    rw [if_pos husable.after, if_pos hp]
    cases Asset.ofInstrument? instrument with
    | none => rfl
    | some asset =>
      simp only [get_requoted, Factor.observe_requoted share (hF asset) husable]
      cases (F.get asset).observe share p with
      | error fault => rfl
      | ok next => exact congrArg Except.ok (set_requoted F asset next)
  · rw [if_neg hp, if_neg (by rw [hvalid]; exact hp)]
    rfl

theorem Quotable.observe {share : α} {instrument : String} (hF : F.Quotable q)
    (hvalid : isValidPrice (q.price p) = isValidPrice p) {F' : MacroFactors α}
    (h : F.observe share instrument p = .ok F') : F'.Quotable q := by
  unfold MacroFactors.observe at h
  by_cases hp : isValidPrice p = true
  · rw [if_pos hp] at h
    cases hasset : Asset.ofInstrument? instrument with
    | none => rw [hasset] at h; cases h; exact hF
    | some asset =>
      rw [hasset] at h
      simp only at h
      cases hnext : (F.get asset).observe share p with
      | error fault => rw [hnext] at h; cases h
      | ok next =>
        rw [hnext] at h
        cases h
        intro other x hx
        rw [get_set] at hx
        split at hx
        · rw [Factor.lastPrice_observe hnext] at hx
          cases hx
          exact Requote.usable_of_valid hvalid hp
        · exact hF other x hx
  · rw [if_neg hp] at h
    cases h
    exact hF

end MacroFactors

/-! ## Predictors -/

namespace Predictor

/-- A predictor and the one that has seen the same market in the other quotation. -/
inductive Requoted (q : Requote α) {c : Settings α} (m : c.State → c.State) :
    Predictor α → Predictor α → Prop where
  | intro {s : Scopes α c.State} {F : MacroFactors α} (hs : s.Quotable q) (hF : F.Quotable q) :
    Requoted q m { settings := c, scopes := s, factors := F }
      { settings := c, scopes := s.requoted q m, factors := F.requoted q }

theorem factorsAfter_requoted {c : Settings α} {F : MacroFactors α} (hF : F.Quotable q)
    {tick : Tick α} (hvalid : isValidPrice (q.price tick.quote) = isValidPrice tick.quote) :
    factorsAfter c (F.requoted q) (tick.mapQuote q.price) =
      (factorsAfter c F tick).map (·.requoted q) := by
  unfold factorsAfter
  cases c.factorShare? with
  | none => rfl
  | some share =>
    cases tick with
    | price instrument x => exact MacroFactors.observe_requoted share hF instrument hvalid
    | signal instrument tag side x => exact MacroFactors.observe_requoted share hF instrument hvalid

theorem quotable_factorsAfter {c : Settings α} {F next : MacroFactors α} (hF : F.Quotable q)
    {tick : Tick α} (hvalid : isValidPrice (q.price tick.quote) = isValidPrice tick.quote)
    (h : factorsAfter c F tick = .ok next) : next.Quotable q := by
  unfold factorsAfter at h
  split at h
  · cases h
    exact hF
  · exact hF.observe hvalid h

namespace Requoted

variable {c : Settings α} {m : c.State → c.State} {p p' : Predictor α}

theorem fresh (m : c.State → c.State) : Requoted q m (Predictor.fresh c) (Predictor.fresh c) :=
  .intro Scopes.quotable_empty MacroFactors.quotable_empty

section Commuting

variable (hc : ∀ F : MacroFactors α,
  (c.forecaster F).Commutes q m (c.forecaster (F.requoted q)))
include hc

/-- **One tick keeps two predictors in step.** -/
theorem observe (h : Requoted q m p p') {tick : Tick α}
    (hvalid : isValidPrice (q.price tick.quote) = isValidPrice tick.quote) :
    Requoted q m (p.observe tick) (p'.observe (tick.mapQuote q.price)) := by
  obtain @⟨s, F, hs, hF⟩ := h
  rw [observe_eq_factorsAfter, observe_eq_factorsAfter, factorsAfter_requoted hF hvalid]
  cases hnext : factorsAfter c F tick with
  | error fault => exact .intro hs hF
  | ok next =>
    show Requoted q m _ { settings := c, scopes := (s.requoted q m).observe _ _, factors := _ }
    rw [Scopes.observe_requoted (hc next) hs hvalid]
    exact .intro (hs.observe hvalid) (quotable_factorsAfter hF hvalid hnext)

/-- **Two predictors stay in step** over every run of ticks. -/
theorem observeAll (h : Requoted q m p p') {ticks : List (Tick α)}
    (hvalid : ∀ tick ∈ ticks, isValidPrice (q.price tick.quote) = isValidPrice tick.quote) :
    Requoted q m (p.observeAll ticks) (p'.observeAll (ticks.map (Tick.mapQuote q.price))) := by
  induction ticks generalizing p p' with
  | nil => exact h
  | cons tick rest ih =>
    have hnext := h.observe hc (hvalid tick List.mem_cons_self)
    exact ih hnext fun other hother => hvalid other (List.mem_cons_of_mem tick hother)

theorem estimateBase (h : Requoted q m p p') (instrument : String) (fallback : Estimate α) :
    p'.estimateBase instrument (fallback.requoted q) =
      (p.estimateBase instrument fallback).map (·.requoted q) := by
  obtain @⟨s, F, hs, hF⟩ := h
  exact Scopes.estimateBase_requoted (hc F) c.minSigma s instrument fallback

theorem estimateSignal (h : Requoted q m p p') (instrument tag side : String)
    (fallback : Estimate α) :
    p'.estimateSignal instrument tag side (fallback.requoted q) =
      (p.estimateSignal instrument tag side fallback).map (·.requoted q) := by
  unfold Predictor.estimateSignal
  rw [h.estimateBase hc]
  obtain @⟨s, F, hs, hF⟩ := h
  cases Predictor.estimateBase { settings := c, scopes := s, factors := F } instrument fallback with
  | error fault => rfl
  | ok base =>
    cases readSignalKey instrument tag side with
    | error fault => rfl
    | ok key => exact Scopes.estimateSignal_requoted (hc F) c.minSigma s key base

end Commuting

theorem sampleCount (h : Requoted q m p p') (instrument : String) :
    p'.sampleCount instrument = p.sampleCount instrument := by
  obtain @⟨s, F, hs, hF⟩ := h
  show (trackOf (s.base.map (Track.requoted q m)) instrument).count = _
  rw [trackOf_requoted, Track.count_requoted]
  rfl

theorem scopeCount (h : Requoted q m p p') : p'.scopeCount = p.scopeCount := by
  obtain @⟨s, F, hs, hF⟩ := h
  show (s.base.map _).size + (s.signals.map _).size = s.base.size + s.signals.size
  rw [Keyed.size_map, Keyed.size_map]

end Requoted

end Predictor

end ReturnForecast
