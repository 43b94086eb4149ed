import ReturnForecast.Proofs.Scoring.Lane
import ReturnForecast.Scalar.Binary64

/-!
# Predictions that are lost

A prediction is taken off its queue before its score exists. Where the quotient of the prices
vanishes there is no score: the call fails, and it leaves behind what it has done so far. The
prediction is in no queue and in no metrics, those before it are scored but not counted, and those
after it still wait.

* `Book.score_eq` — a score exists unless the quotient vanishes
* `Book.resolveQueue_append` — a front of which every score exists is scored
* `Book.exists_first_lost` — a front with a quotient that vanishes has a first one
* `Book.resolveDue_of_lost` / `Book.resolveDue_of_lasting` — a call with such a quotient, and one
  without
* `Book.failed_call_loses_prediction` — when a call fails, and what a failed call has done
-/

namespace ReturnForecast

variable {α : Type} [Scalar α]

/-- The quotient whose logarithm the score takes is zero or below. -/
def Pending.Vanishes (p : Pending α) (price : α) : Prop := price / p.basePrice ≤ 0

instance (p : Pending α) (price : α) : Decidable (p.Vanishes price) :=
  inferInstanceAs (Decidable (price / p.basePrice ≤ 0))

namespace Book

variable {b b' : Book α} {key : String} {price : α} {nowMs : Int}

/-- The predictions at the front of a queue that are due. -/
def front (nowMs : Int) (queue : List (Pending α)) : List (Pending α) :=
  queue.takeWhile (·.dueMs ≤ nowMs)

omit [Scalar α] in
theorem due_of_mem_front {queue : List (Pending α)} {p : Pending α} (h : p ∈ front nowMs queue) :
    p.dueMs ≤ nowMs := by
  simpa using List.mem_takeWhile_imp h

/-! ## Scoring a queue -/

theorem score_eq (p : Pending α) (price : α) :
    score p price = if p.Vanishes price then .error .mathDomain else .ok (p.pairAt price) := by
  unfold score log?
  by_cases h : price / p.basePrice ≤ 0
  · rw [if_pos h, if_pos (show p.Vanishes price from h)]
    rfl
  · rw [if_neg h, if_neg (show ¬ p.Vanishes price from h)]
    rfl

theorem scoreAll_of_lasting {scored : List (Pending α)}
    (h : ∀ p ∈ scored, ¬ p.Vanishes price) :
    scoreAll price scored = .ok (scored.map (·.pairAt price)) := by
  induction scored with
  | nil => rfl
  | cons p scored ih =>
    have hrest := ih fun q hq => h q (List.mem_cons_of_mem p hq)
    unfold scoreAll at *
    rw [List.mapM_cons, score_eq, if_neg (h p List.mem_cons_self), hrest]
    rfl

/-- A front of which every score exists goes to the metrics, and scoring goes on after it. -/
theorem resolveQueue_append {scored : List (Pending α)} (hdue : ∀ p ∈ scored, p.dueMs ≤ nowMs)
    (hlasting : ∀ p ∈ scored, ¬ p.Vanishes price) (m : Metrics α) (resolved : Nat)
    (rest : List (Pending α)) :
    resolveQueue price nowMs m resolved (scored ++ rest) =
      resolveQueue price nowMs (m.observeAll (scored.map (·.pairAt price)))
        (resolved + scored.length) rest := by
  induction scored generalizing m resolved with
  | nil => rfl
  | cons p scored ih =>
    have hp : score p price = .ok (p.pairAt price) := by
      rw [score_eq, if_neg (hlasting p List.mem_cons_self)]
    rw [List.cons_append, resolveQueue, if_pos (hdue p List.mem_cons_self), hp]
    simp only
    rw [ih (fun q hq => hdue q (List.mem_cons_of_mem p hq))
      fun q hq => hlasting q (List.mem_cons_of_mem p hq)]
    simp only [Metrics.observeAll, List.map_cons, List.foldl_cons, List.length_cons,
      Nat.add_assoc, Nat.add_comm 1]

/-- A prediction that is due and has no score leaves the queue and stops the scoring. -/
theorem resolveQueue_cons_of_vanishes {lost : Pending α} (hdue : lost.dueMs ≤ nowMs)
    (hlost : lost.Vanishes price) (m : Metrics α) (resolved : Nat) (rest : List (Pending α)) :
    resolveQueue price nowMs m resolved (lost :: rest) =
      { queue := rest, metrics := m, resolved, fault := some .mathDomain } := by
  rw [resolveQueue, if_pos hdue, score_eq, if_pos hlost]

/-- Where a quotient of the front vanishes, the queue parts at the first one that does. -/
theorem exists_first_lost {queue : List (Pending α)}
    (h : ∃ p ∈ front nowMs queue, p.Vanishes price) :
    ∃ scored lost rest, queue = scored ++ lost :: rest ∧
      (∀ p ∈ scored, p.dueMs ≤ nowMs ∧ ¬ p.Vanishes price) ∧
      lost.dueMs ≤ nowMs ∧ lost.Vanishes price := by
  obtain ⟨p, hp, hvanishes⟩ := h
  have hfound : ((front nowMs queue).find? fun p => decide (p.Vanishes price)).isSome = true := by
    rw [List.find?_isSome]
    exact ⟨p, hp, decide_eq_true hvanishes⟩
  obtain ⟨lost, hlost⟩ := Option.isSome_iff_exists.mp hfound
  rw [List.find?_eq_some_iff_append] at hlost
  obtain ⟨hlost, scored, others, hfront, hscored⟩ := hlost
  refine ⟨scored, lost, others ++ queue.dropWhile (·.dueMs ≤ nowMs), ?_, ?_, ?_, ?_⟩
  · calc queue = front nowMs queue ++ queue.dropWhile (·.dueMs ≤ nowMs) :=
          List.takeWhile_append_dropWhile.symm
      _ = scored ++ lost :: (others ++ queue.dropWhile (·.dueMs ≤ nowMs)) := by
          rw [hfront, List.append_assoc, List.cons_append]
  · intro q hq
    refine ⟨due_of_mem_front (hfront ▸ List.mem_append_left _ hq), ?_⟩
    simpa using hscored q hq
  · exact due_of_mem_front (hfront ▸ List.mem_append_right _ List.mem_cons_self)
  · exact of_decide_eq_true hlost

/-! ## Calls -/

/--
What a call has done when it stops at a prediction without a score: those before it are in the
metrics, it is nowhere, those after it wait, and no other scope has changed.
-/
structure StopsAt (b b' : Book α) (key : String) (price : α) (nowMs : Int)
    (scored : List (Pending α)) (lost : Pending α) (rest : List (Pending α)) : Prop where
  before : b.queue key = scored ++ lost :: rest
  scored_due : ∀ p ∈ scored, p.dueMs ≤ nowMs ∧ ¬ p.Vanishes price
  lost_due : lost.dueMs ≤ nowMs ∧ lost.Vanishes price
  after : b'.queue key = rest
  metrics : b'.metricsOf key = (b.metricsOf key).observeAll (scored.map (·.pairAt price))
  others : ∀ other, key ≠ other → SameAt b b' other

/-- What a call has done that scores all predictions that are due. -/
structure ScoresAll (b b' : Book α) (key : String) (price : α) (nowMs : Int) (resolved : Nat) :
    Prop where
  before : b.queue key = front nowMs (b.queue key) ++ b'.queue key
  metrics : b'.metricsOf key =
    (b.metricsOf key).observeAll ((front nowMs (b.queue key)).map (·.pairAt price))
  counted : resolved = (front nowMs (b.queue key)).length
  others : ∀ other, key ≠ other → SameAt b b' other

/-- A failed call leaves fewer predictions waiting than there were. -/
theorem StopsAt.pendingCount_lt {scored rest : List (Pending α)} {lost : Pending α}
    (h : StopsAt b b' key price nowMs scored lost rest) :
    b'.pendingCount key < b.pendingCount key := by
  unfold pendingCount
  rw [h.before, h.after, List.length_append, List.length_cons]
  omega

/-- The book that a call leaves behind, at a usable price. -/
theorem lane_resolveDue (b : Book α) (key : String) (hprice : isValidPrice price = true)
    (nowMs : Int) :
    let r := resolveQueue price nowMs (b.metricsOf key) 0 (b.queue key)
    (b.resolveDue key price nowMs).1.lane key = ⟨r.queue, r.metrics⟩ ∧
      (b.resolveDue key price nowMs).2 =
        (match r.fault with | some fault => .error fault | none => .ok r.resolved) := by
  cases hqueue : b.queue key with
  | nil =>
    have hcall : b.resolveDue key price nowMs = (b, .ok 0) := by
      unfold resolveDue
      rw [hqueue, List.isEmpty_nil, Bool.true_or, if_pos rfl]
    rw [hcall]
    exact ⟨by rw [lane, hqueue]; rfl, rfl⟩
  | cons p rest =>
    unfold resolveDue
    rw [hqueue, hprice, if_neg (by simp)]
    refine ⟨?_, rfl⟩
    simp only [lane, queue, metricsOf, Keyed.get?_insert_self, Option.getD_some]

/-- A call stops at the first prediction of which the quotient vanishes. -/
theorem stopsAt_of_queue (hprice : isValidPrice price = true) {scored rest : List (Pending α)}
    {lost : Pending α} (hqueue : b.queue key = scored ++ lost :: rest)
    (hscored : ∀ p ∈ scored, p.dueMs ≤ nowMs ∧ ¬ p.Vanishes price) (hdue : lost.dueMs ≤ nowMs)
    (hlost : lost.Vanishes price) :
    (b.resolveDue key price nowMs).2 = .error .mathDomain ∧
      StopsAt b (b.resolveDue key price nowMs).1 key price nowMs scored lost rest := by
  obtain ⟨hlane, hresult⟩ := b.lane_resolveDue key hprice nowMs
  have hloop : resolveQueue price nowMs (b.metricsOf key) 0 (b.queue key) =
      { queue := rest
        metrics := (b.metricsOf key).observeAll (scored.map (·.pairAt price))
        resolved := 0 + scored.length
        fault := some .mathDomain } := by
    rw [hqueue, resolveQueue_append (fun p hp => (hscored p hp).1) fun p hp => (hscored p hp).2,
      resolveQueue_cons_of_vanishes hdue hlost]
  simp only [hloop] at hlane hresult
  exact ⟨hresult,
    { before := hqueue
      scored_due := hscored
      lost_due := ⟨hdue, hlost⟩
      after := congrArg Lane.queue hlane
      metrics := congrArg Lane.metrics hlane
      others := fun _ hother => b.sameAt_resolveDue hother price nowMs }⟩

/-- So a quotient of the front that vanishes stops the call. -/
theorem resolveDue_of_lost (hprice : isValidPrice price = true)
    (h : ∃ p ∈ front nowMs (b.queue key), p.Vanishes price) :
    (b.resolveDue key price nowMs).2 = .error .mathDomain ∧
      ∃ scored lost rest,
        StopsAt b (b.resolveDue key price nowMs).1 key price nowMs scored lost rest := by
  obtain ⟨scored, lost, rest, hqueue, hscored, hdue, hlost⟩ := exists_first_lost h
  obtain ⟨hfault, hstops⟩ := stopsAt_of_queue hprice hqueue hscored hdue hlost
  exact ⟨hfault, scored, lost, rest, hstops⟩

/-- Without such a quotient the call scores all that is due. -/
theorem resolveDue_of_lasting (hprice : isValidPrice price = true)
    (h : ∀ p ∈ front nowMs (b.queue key), ¬ p.Vanishes price) :
    ∃ resolved, (b.resolveDue key price nowMs).2 = .ok resolved ∧
      ScoresAll b (b.resolveDue key price nowMs).1 key price nowMs resolved := by
  obtain ⟨hlane, hresult⟩ := b.lane_resolveDue key hprice nowMs
  have hloop := resolveQueue_of_scored price nowMs (b.metricsOf key) 0 (scoreAll_of_lasting h)
  simp only [hloop, List.length_map, Nat.zero_add] at hlane hresult
  refine ⟨_, hresult, ?_, congrArg Lane.metrics hlane, rfl,
    fun _ hother => b.sameAt_resolveDue hother price nowMs⟩
  have hrest : (b.resolveDue key price nowMs).1.queue key =
      (b.queue key).dropWhile (·.dueMs ≤ nowMs) := congrArg Lane.queue hlane
  rw [hrest]
  exact List.takeWhile_append_dropWhile.symm

/-! ## Faults -/

/--
**A failed call loses a prediction.** A call fails where the price is usable and the quotient of a
prediction that is due vanishes, and the fault is always the same. It has then scored, and not
counted, what was due before the first such prediction, and dropped that one from its queue. A call
that succeeds at a usable price has scored and counted all that was due.
-/
theorem failed_call_loses_prediction {α : Type} [Scalar α] (b : Book α) (key : String) (price : α)
    (nowMs : Int) :
    let call := b.resolveDue key price nowMs
    ((∃ fault, call.2 = .error fault) ↔
      isValidPrice price = true ∧ ∃ p ∈ front nowMs (b.queue key), p.Vanishes price) ∧
    (∀ fault, call.2 = .error fault →
      fault = .mathDomain ∧ call.1.pendingCount key < b.pendingCount key ∧
        ∃ scored lost rest, StopsAt b call.1 key price nowMs scored lost rest) ∧
    ∀ resolved, call.2 = .ok resolved →
      if isValidPrice price then ScoresAll b call.1 key price nowMs resolved
      else call.1 = b ∧ resolved = 0 := by
  intro call
  cases hprice : isValidPrice price with
  | false =>
    have hcall : call = (b, .ok 0) := resolveDue_of_not_valid b key nowMs hprice
    rw [hcall]
    simp
  | true =>
    by_cases hlost : ∃ p ∈ front nowMs (b.queue key), p.Vanishes price
    · obtain ⟨hfault, scored, lost, rest, hstops⟩ := resolveDue_of_lost hprice hlost
      have hcall : call.2 = .error .mathDomain := hfault
      refine ⟨⟨fun _ => ⟨rfl, hlost⟩, fun _ => ⟨_, hcall⟩⟩, fun fault h => ?_, fun resolved h => ?_⟩
      · rw [hcall] at h
        exact ⟨(Except.error.inj h).symm, hstops.pendingCount_lt, scored, lost, rest, hstops⟩
      · rw [hcall] at h
        cases h
    · obtain ⟨resolved, hresult, hscores⟩ := resolveDue_of_lasting hprice fun p hp hvanishes =>
        hlost ⟨p, hp, hvanishes⟩
      have hcall : call.2 = .ok resolved := hresult
      refine ⟨⟨fun ⟨_, h⟩ => ?_, fun h => (hlost h.2).elim⟩, fun _ h => ?_, fun _ h => ?_⟩
      · rw [hcall] at h
        cases h
      · rw [hcall] at h
        cases h
      · rw [hcall] at h
        cases h
        exact hscores

/--
Three predictions, all due at a price near the smallest that is usable, and the second one made at a
huge price. The call fails: the pair of the first one is in the metrics and is not counted, the
second one is nowhere, and the third one waits.
-/
theorem failed_call_loses_huge_price :
    let key := "BTC::spot::ewma::1m"
    let price : Float := 2.3e-16
    let first : Pending Float := { dueMs := 0, basePrice := 100, mu := 0.01, scale := 1 }
    let huge : Pending Float := { dueMs := 0, basePrice := 1.7e308, mu := 0.02, scale := 1 }
    let third : Pending Float := { dueMs := 0, basePrice := 100, mu := 0.03, scale := 1 }
    let one := ((Book.fresh 1200 1).schedule key 0 0 first.basePrice first.mu 1).1
    let two := (one.schedule key 0 0 huge.basePrice huge.mu 1).1
    let three := (two.schedule key 0 0 third.basePrice third.mu 1).1
    let call := three.resolveDue key price 0
    isValidPrice price = true ∧ three.queue key = [first, huge, third] ∧
      call.2 = .error .mathDomain ∧ call.1.queue key = [third] ∧
      call.1.metricsOf key = (three.metricsOf key).observeAll [first.pairAt price] := by
  intro key price first huge third one two three call
  have hprice : isValidPrice price = true := by decide +kernel
  have hqueue : three.queue key = [first] ++ huge :: [third] := by decide +kernel
  have hlasting : ¬ first.Vanishes price := by decide +kernel
  have hlost : huge.Vanishes price := by decide +kernel
  have hscored : ∀ p ∈ [first], p.dueMs ≤ 0 ∧ ¬ p.Vanishes price := by
    intro p hp
    cases List.mem_singleton.mp hp
    exact ⟨Int.le_refl 0, hlasting⟩
  obtain ⟨hfault, hstops⟩ := stopsAt_of_queue hprice hqueue hscored (Int.le_refl 0) hlost
  exact ⟨hprice, hqueue, hfault, hstops.after, hstops.metrics⟩

end Book

end ReturnForecast
