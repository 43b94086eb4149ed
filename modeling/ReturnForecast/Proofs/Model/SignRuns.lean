import ReturnForecast.Proofs.Predictor.ReturnHistory

/-!
# Runs of one sign, and bounded features

The counter of a run is, up to its sign, the length of the longest run that the history ends in: of
returns that are not negative if the last one is not, and of negative ones if it is. Zero counts as
rising. Only the signs of returns are looked at for that, so it holds of doubles as well: no return
is NaN, since no quotient of usable prices is. Over exact reals every feature stays in its interval.

* `runLengths` — the lengths of the runs of one sign that a history ends in
* `isGreatest_runLengths` — the longest of them, and `extendRun_signedRun`, one return more
* `Statistics.Describes` — what statistics tell of a history, and `follows_foldl`
* `Bounded` — the intervals of the features, and `bounded_features`, that they lie there
* `SignedReturns` — number types whose returns have signs
* `statistics_of_returns` — after every run
-/

namespace ReturnForecast

namespace Microstructure

open Predictor

/-! ## Runs -/

section Runs

variable {α : Type}

/-- The length of the longest end of a list that has a property throughout. -/
def endLength (P : α → Prop) [DecidablePred P] (xs : List α) : ℕ :=
  (xs.rtakeWhile fun x => decide (P x)).length

theorem endLength_concat {P : α → Prop} [DecidablePred P] (xs : List α) (x : α) :
    endLength P (xs ++ [x]) = if P x then endLength P xs + 1 else 0 := by
  simp only [endLength, List.rtakeWhile_concat, decide_eq_true_eq]
  split
  · rw [List.length_append, List.length_singleton]
  · rw [List.length_nil]

theorem isGreatest_endLength (P : α → Prop) [DecidablePred P] (xs : List α) :
    IsGreatest {n | ∃ run, run <:+ xs ∧ (∀ x ∈ run, P x) ∧ run.length = n} (endLength P xs) := by
  constructor
  · have hall : ∀ x ∈ xs.rtakeWhile fun x => decide (P x), P x :=
      fun x hx => of_decide_eq_true (List.mem_rtakeWhile_imp (p := fun x => decide (P x)) hx)
    exact ⟨_, List.rtakeWhile_suffix _ xs, hall, rfl⟩
  · rintro _ ⟨run, ⟨before, rfl⟩, hrun, rfl⟩
    have hreverse : ∀ x ∈ run.reverse, decide (P x) = true :=
      fun x hx => decide_eq_true (hrun x (List.mem_reverse.mp hx))
    rw [endLength, List.rtakeWhile, List.reverse_append, List.takeWhile_append_of_pos hreverse,
      List.length_reverse, List.length_append, List.length_reverse]
    exact Nat.le_add_right _ _

variable [Scalar α] {rs : List α} {r : α}

/-- The lengths of the runs that a history ends in, in which no return is negative, or all are. -/
def runLengths (rs : List α) : Set ℕ :=
  {n | ∃ run, run <:+ rs ∧ ((∀ x ∈ run, 0 ≤ x) ∨ ∀ x ∈ run, x < 0) ∧ run.length = n}

/-- The returns at the end that are not negative. -/
def rising (rs : List α) : ℕ := endLength (0 ≤ ·) rs

/-- The negative returns at the end. -/
def falling (rs : List α) : ℕ := endLength (· < 0) rs

/-- The length of the run at the end, negative for a falling one. -/
def signedRun (rs : List α) : ℤ := rising rs - falling rs

theorem isGreatest_runLengths (rs : List α) :
    IsGreatest (runLengths rs) (max (rising rs) (falling rs)) := by
  have heither : runLengths rs =
      {n | ∃ run, run <:+ rs ∧ (∀ x ∈ run, 0 ≤ x) ∧ run.length = n} ∪
        {n | ∃ run, run <:+ rs ∧ (∀ x ∈ run, x < 0) ∧ run.length = n} := by
    ext n
    simp only [runLengths, Set.mem_union, Set.mem_ofPred_eq, or_and_right, and_or_left, exists_or]
  rw [heither]
  exact (isGreatest_endLength (0 ≤ ·) rs).union (isGreatest_endLength (· < 0) rs)

/-- Numbers that are either negative or not. NaN is neither below zero nor above it. -/
def Signed (rs : List α) : Prop := ∀ x ∈ rs, x < 0 ↔ ¬ 0 ≤ x

theorem Signed.last (h : Signed (rs ++ [r])) : r < 0 ↔ ¬ 0 ≤ r := h r List.mem_concat_self

theorem Signed.init (h : Signed (rs ++ [r])) : Signed rs :=
  fun x hx => h x (List.mem_append_left [r] hx)

theorem lengths_concat_of_nonneg (h : Signed (rs ++ [r])) (hr : 0 ≤ r) :
    rising (rs ++ [r]) = rising rs + 1 ∧ falling (rs ++ [r]) = 0 :=
  ⟨(endLength_concat rs r).trans (if_pos hr),
    (endLength_concat rs r).trans (if_neg fun hneg => h.last.mp hneg hr)⟩

theorem lengths_concat_of_neg (h : Signed (rs ++ [r])) (hr : r < 0) :
    rising (rs ++ [r]) = 0 ∧ falling (rs ++ [r]) = falling rs + 1 :=
  ⟨(endLength_concat rs r).trans (if_neg (h.last.mp hr)),
    (endLength_concat rs r).trans (if_pos hr)⟩

/-- A history does not end both ways. -/
theorem Signed.rising_or_falling (h : Signed rs) : rising rs = 0 ∨ falling rs = 0 := by
  rcases rs.eq_nil_or_concat' with rfl | ⟨init, last, rfl⟩
  · exact .inl rfl
  · by_cases hlast : 0 ≤ last
    · exact .inr (lengths_concat_of_nonneg h hlast).2
    · exact .inl (lengths_concat_of_neg h (h.last.mpr hlast)).1

/-- **The counter goes on with a run of the same sign, and starts anew at the other one.** -/
theorem extendRun_signedRun (h : Signed (rs ++ [r])) :
    extendRun (signedRun rs) r = signedRun (rs ++ [r]) := by
  have hone := h.init.rising_or_falling
  unfold extendRun signedRun
  by_cases hr : 0 ≤ r
  · obtain ⟨hrising, hfalling⟩ := lengths_concat_of_nonneg h hr
    rw [if_pos hr, hrising, hfalling]
    split <;> omega
  · obtain ⟨hrising, hfalling⟩ := lengths_concat_of_neg h (h.last.mpr hr)
    rw [if_neg hr, hrising, hfalling]
    split <;> omega

end Runs

/-! ## Statistics -/

section Statistics

variable {α : Type} [Scalar α] {c : Settings α} {s : Statistics α} {rs : List α} {r : α}

/-- Statistics with the counter and the last two returns of a history. -/
structure Statistics.Follows (s : Statistics α) (rs : List α) : Prop where
  run : s.run = signedRun rs
  lastReturn : rs.getLast? = some s.lastReturn
  earlierReturn : s.earlierReturn = rs.dropLast.getLastD 0

/-- What statistics tell of a history. -/
structure Statistics.Describes (s : Statistics α) (rs : List α) : Prop extends s.Follows rs where
  longest : ∃ length : ℕ, IsGreatest (runLengths rs) length ∧
    (0 ≤ s.lastReturn → s.run = length) ∧ (s.lastReturn < 0 → s.run = -length)
  run_ne_zero : s.run ≠ 0

theorem follows_first (h : Signed [r]) : (Statistics.first r).Follows [r] where
  run := by
    have hstart : Signed ([] ++ [r]) := h
    exact extendRun_signedRun hstart
  lastReturn := rfl
  earlierReturn := rfl

theorem Statistics.Follows.next (hs : s.Follows rs) (h : Signed (rs ++ [r])) :
    (s.next c r).Follows (rs ++ [r]) where
  run := (congrArg (extendRun · r) hs.run).trans (extendRun_signedRun h)
  lastReturn := List.getLast?_concat
  earlierReturn := by
    rw [List.dropLast_concat, List.getLastD_eq_getLast?, hs.lastReturn]
    rfl

theorem Statistics.Follows.describes (hs : s.Follows rs) (h : Signed rs) : s.Describes rs := by
  obtain ⟨init, hrs⟩ := List.getLast?_eq_some_iff.mp hs.lastReturn
  have hup (hr : 0 ≤ s.lastReturn) : 0 < rising rs ∧ falling rs = 0 := by
    subst hrs
    obtain ⟨hrising, hfalling⟩ := lengths_concat_of_nonneg h hr
    omega
  have hdown (hr : s.lastReturn < 0) : rising rs = 0 ∧ 0 < falling rs := by
    subst hrs
    obtain ⟨hrising, hfalling⟩ := lengths_concat_of_neg h hr
    omega
  have hrun := hs.run
  unfold signedRun at hrun
  refine { toFollows := hs, longest := ⟨_, isGreatest_runLengths rs, ?_, ?_⟩, run_ne_zero := ?_ }
  · intro hr
    obtain ⟨-, hnone⟩ := hup hr
    omega
  · intro hr
    obtain ⟨hnone, -⟩ := hdown hr
    omega
  · by_cases hr : 0 ≤ s.lastReturn
    · obtain ⟨hpos, hnone⟩ := hup hr
      omega
    · obtain ⟨hnone, hpos⟩ := hdown ((h _ (hrs ▸ List.mem_concat_self)).mpr hr)
      omega

end Statistics

/-! ## Features -/

/-- Features that lie in their intervals. -/
structure Bounded (x : Vector ℝ dim) : Prop where
  constant : x.get 0 = 1
  acceleration : x.get 1 ∈ Set.Icc (-5) 5
  skewness : x.get 2 ∈ Set.Icc (-5) 5
  run : x.get 3 ∈ Set.Ioo (-1) 1
  varianceChange : x.get 4 ∈ Set.Icc (-3) 3
  lagCovariance : x.get 5 ∈ Set.Icc (-1) 1
  returnSize : x.get 6 ∈ Set.Icc 0 5

/-- **Whatever the statistics, their features are bounded.** -/
theorem bounded_features (s : Statistics ℝ) (minSigma : ℝ) : Bounded (features s minSigma) := by
  have hfive : (5.0 : ℝ) = 5 := by norm_num
  have hthree : (3.0 : ℝ) = 3 := by norm_num
  unfold features
  rw [hfive, hthree]
  exact {
    constant := rfl
    acceleration := clamp_mem (by norm_num) _
    skewness := clamp_mem (by norm_num) _
    run := ⟨Real.neg_one_lt_tanh _, Real.tanh_lt_one _⟩
    varianceChange := clamp_mem (by norm_num) _
    lagCovariance := clamp_mem (by norm_num) _
    returnSize := clamp_mem (by norm_num) _ }

/-! ## Predictors -/

section Predictors

variable {α : Type} [Scalar α] {c : Settings α}

theorem learnsReturns (c : Settings α) :
    (forecaster c).LearnsReturns (seed c) (step c) fun _ => True :=
  .of_total (fun _ _ => rfl) fun _ _ _ _ => rfl

/-- The features that are kept are always those of the statistics. -/
theorem features_foldl (c : Settings α) (first : α) (rest : List α) :
    (rest.foldl (step c) (seed c first)).features =
      features (rest.foldl (step c) (seed c first)).statistics c.minSigma := by
  rcases rest.eq_nil_or_concat' with rfl | ⟨rest, r, rfl⟩
  · rfl
  · rw [List.foldl_append]
    rfl

/-- **Along every history the statistics follow it.** -/
theorem follows_foldl {first : α} {rest : List α} (h : Signed (first :: rest)) :
    (rest.foldl (step c) (seed c first)).statistics.Follows (first :: rest) := by
  induction rest using List.reverseRecOn with
  | nil => exact follows_first h
  | append_singleton rest r ih =>
    rw [List.foldl_append]
    exact (ih (Signed.init (r := r) h)).next h

end Predictors

/-- No return over a number type is NaN. -/
def SignedReturns (α : Type) [Scalar α] : Prop := ∀ r : α, Hearing.IsReturn r → (r < 0 ↔ ¬ 0 ≤ r)

theorem signedReturns_real : SignedReturns ℝ := fun _ _ => not_le.symm

/-- Only logarithms that are NaN could give a return that is. -/
theorem signedReturns_double (hlog : ∀ x : Float, 0 < x → (Float.log x).isNaN = false) :
    SignedReturns Float := by
  rintro r ⟨p, q, hp, hq, hr⟩
  unfold log? at hr
  split at hr
  · cases hr
  · next hpos =>
    cases hr
    exact Double.lt_zero_iff (hlog _ (Double.zero_lt_of_not_le (Double.not_isNaN_div hp hq) hpos))

/--
**The counter is the length of the longest run, up to its sign, and the features are bounded.**
After every run of ticks the statistics at a place describe the returns there, and the features are
those of the statistics, over all numbers whose returns have signs: over exact reals, and over
doubles if no positive one has NaN as its logarithm. Over exact reals every feature that is ever
kept lies in its interval.
-/
theorem statistics_of_returns :
    (∀ {α : Type} [Scalar α], SignedReturns α →
      ∀ (c : Settings α) (place : Place) (ticks : List (Tick α)),
        let rs := (Hearing.ofRun (.microstructure c) place ticks).returns
        rs ≠ [] → ∃ s : State α,
          ((fresh (.microstructure c)).observeAll ticks).HasFit (.microstructure c) place
            { count := rs.length, state := s } ∧
          s.statistics.Describes rs ∧ s.features = features s.statistics c.minSigma) ∧
    SignedReturns ℝ ∧
    ((∀ x : Float, 0 < x → (Float.log x).isNaN = false) → SignedReturns Float) ∧
    ∀ (c : Settings ℝ) (place : Place) (ticks : List (Tick ℝ)) (fit : Fit (State ℝ)),
      ((fresh (.microstructure c)).observeAll ticks).HasFit (.microstructure c) place fit →
      Bounded fit.state.features := by
  have hlearns {α : Type} [Scalar α] (c : Settings α) := Forecaster.LearnsReturns.learnsAs
    fun _ : MacroFactors α => learnsReturns c
  refine ⟨?statistics, signedReturns_real, signedReturns_double, ?features⟩
  case statistics =>
    intro α _ hα c place ticks rs hne
    have hsigned : Signed rs := fun r hr => hα r (Hearing.isReturn_of_mem_returns r hr)
    obtain ⟨first, rest, hrs⟩ := List.exists_cons_of_ne_nil hne
    rw [hrs] at hsigned ⊢
    have hfit := hasFit_of_heard (c := .microstructure c)
      (fun first rest => rest.foldl (step c) (seed c first)) (hlearns c) rfl hrs
    exact ⟨_, hfit, (follows_foldl hsigned).describes hsigned, features_foldl c first rest⟩
  case features =>
    intro c place ticks fit hfit
    obtain ⟨first, rest, -, rfl⟩ := hfit.exists_lessons (hlearns c)
    rw [features_foldl]
    exact bounded_features _ _

/-- A price that falls, stands still and rises: two returns that are not negative. -/
theorem statistics_of_returns_standstill :
    let c : Settings ℝ := standard
    ∃ s : State ℝ, ((fresh (.microstructure c)).feed "BTC" [100, 99, 99, 101]).HasFit
        (.microstructure c) (.base "BTC") { count := 3, state := s } ∧
      s.statistics.run = 2 ∧ s.statistics.earlierReturn = 0 ∧ s.features.get 1 ≤ 5 := by
  intro c
  have hvalid := Place.valid_of_cent_le
    (by norm_num : ∀ x ∈ ([100, 99, 99, 101] : List ℝ), 1 / 100 ≤ x)
  have hreturns : (Hearing.ofRun (.microstructure c) (.base "BTC")
      ([100, 99, 99, 101].map (.price "BTC"))).returns =
        [Real.log (99 / 100), Real.log (99 / 99), Real.log (101 / 99)] :=
    (Hearing.returns_ofRun rfl _ _).trans (Place.returns_map_price "BTC" hvalid)
  obtain ⟨s, hfit, hs, -⟩ := statistics_of_returns.1 signedReturns_real c (.base "BTC")
    ([100, 99, 99, 101].map (.price "BTC")) (by rw [hreturns]; exact List.cons_ne_nil _ _)
  have hbound := statistics_of_returns.2.2.2 c (.base "BTC") _ _ hfit
  rw [hreturns] at hfit hs
  have hfalls : Real.log (99 / 100) < 0 := Real.log_neg (by norm_num) (by norm_num)
  have hrises : 0 < Real.log (101 / 99) := Real.log_pos (by norm_num)
  refine ⟨s, hfit, ?_, ?_, hbound.acceleration.2⟩
  · rw [hs.run]
    simp [signedRun, rising, falling, endLength, List.rtakeWhile, hrises.le, hrises.not_gt,
      hfalls.not_ge]
  · exact hs.earlierReturn.trans (by norm_num)

end Microstructure

end ReturnForecast
