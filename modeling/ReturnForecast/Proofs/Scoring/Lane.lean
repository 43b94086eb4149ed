import ReturnForecast.Proofs.Scalar.Extended
import ReturnForecast.Proofs.Scoring.Queue
import ReturnForecast.Proofs.Scoring.Window

/-!
# One scope of a book

A book is as many independent lanes as there are scopes: the queue and the metrics of each.

* `Book.resolveQueue_of_scored` — scoring a queue removes its front, hands it to the metrics and
  counts it
* `Book.lane_schedule` / `Book.resolveDue_of_lane` — a call on a book is that call on the lane of
  its key
* `Book.sameAt_schedule` / `Book.sameAt_resolveDue` — and nothing changes at any other key
* `Lane.resolve_of_priced` — over exact numbers a lane of usable prices is always scored
-/

namespace ReturnForecast

/-- The queue and the metrics of one scope. -/
structure Lane (α : Type) where
  queue : List (Pending α)
  metrics : Metrics α

variable {α : Type}

/-! ## The lanes of a book -/

namespace Book

variable {b b' : Book α} {key other : String}

/-- The lane of a key. -/
def lane (b : Book α) (key : String) : Lane α := ⟨b.queue key, b.metricsOf key⟩

theorem queue_lane (b : Book α) (key : String) : (b.lane key).queue = b.queue key := rfl

/-- Two books hold the same at a key. -/
def SameAt (b b' : Book α) (key : String) : Prop :=
  b'.pending.get? key = b.pending.get? key ∧ b'.metrics.get? key = b.metrics.get? key ∧
    b'.window = b.window ∧ b'.r2MinSamples = b.r2MinSamples

theorem SameAt.lane_eq (h : SameAt b b' key) : b'.lane key = b.lane key := by
  obtain ⟨hpending, hmetrics, hwindow, hsamples⟩ := h
  unfold lane queue metricsOf
  rw [hpending, hmetrics, hwindow, hsamples]

theorem lane_touch (b : Book α) (key : String) : (b.touch key).lane key = b.lane key := by
  simp only [touch, lane, queue, metricsOf, Keyed.get?_insert_self, Option.getD_some]

theorem sameAt_touch (b : Book α) (h : key ≠ other) : SameAt b (b.touch key) other :=
  ⟨rfl, Keyed.get?_insert_of_ne _ _ h, rfl, rfl⟩

end Book

variable [Scalar α]

/-- The pairs of predictions that are scored at one price. -/
def Book.scoreAll (price : α) (predictions : List (Pending α)) : Except Fault (List (α × α)) :=
  predictions.mapM (Book.score · price)

/-! ## Scoring a queue -/

theorem Book.scoreAll_cons_ok {price : α} {p : Pending α} {rest : List (Pending α)}
    {pairs : List (α × α)} (h : scoreAll price (p :: rest) = .ok pairs) :
    ∃ pair others, score p price = .ok pair ∧ scoreAll price rest = .ok others ∧
      pairs = pair :: others := by
  unfold scoreAll at h
  rw [List.mapM_cons] at h
  cases hp : score p price with
  | error fault => rw [hp] at h; cases h
  | ok pair =>
    rw [hp] at h
    cases hr : rest.mapM (score · price) with
    | error fault =>
      simp only [bind, Except.bind] at h
      rw [hr] at h
      cases h
    | ok others =>
      simp only [bind, Except.bind] at h
      rw [hr] at h
      exact ⟨pair, others, rfl, hr, (Except.ok.inj h).symm⟩

theorem Book.length_scoreAll {price : α} :
    ∀ {predictions : List (Pending α)} {pairs : List (α × α)},
      scoreAll price predictions = .ok pairs → pairs.length = predictions.length
  | [], _, h => by
    cases Except.ok.inj h
    rfl
  | p :: rest, pairs, h => by
    obtain ⟨pair, others, -, hothers, rfl⟩ := scoreAll_cons_ok h
    rw [List.length_cons, List.length_cons, length_scoreAll hothers]

/-- The front of a queue is scored in order if every score of it exists. -/
theorem Book.resolveQueue_of_scored (price : α) (nowMs : Int) :
    ∀ {queue : List (Pending α)} {pairs : List (α × α)} (m : Metrics α) (resolved : Nat),
      scoreAll price (queue.takeWhile (·.dueMs ≤ nowMs)) = .ok pairs →
      resolveQueue price nowMs m resolved queue =
        { queue := queue.dropWhile (·.dueMs ≤ nowMs)
          metrics := m.observeAll pairs
          resolved := resolved + pairs.length
          fault := none }
  | [], _, _, _, h => by
    cases Except.ok.inj h
    rfl
  | p :: queue, pairs, m, resolved, h => by
    unfold resolveQueue
    by_cases hp : p.dueMs ≤ nowMs
    · rw [List.takeWhile_cons_of_pos (by simpa using hp)] at h
      obtain ⟨pair, others, hpair, hothers, rfl⟩ := scoreAll_cons_ok h
      rw [if_pos hp, hpair, List.dropWhile_cons_of_pos (by simpa using hp)]
      show resolveQueue price nowMs (m.observe pair.1 pair.2) (resolved + 1) queue = _
      rw [resolveQueue_of_scored price nowMs _ _ hothers]
      simp only [Metrics.observeAll, List.foldl_cons, List.length_cons, Nat.add_assoc,
        Nat.add_comm 1]
    · rw [List.takeWhile_cons_of_neg (by simpa using hp)] at h
      cases Except.ok.inj h
      rw [if_neg hp, List.dropWhile_cons_of_neg (by simpa using hp)]
      rfl

/-- Without a fault every score of the front exists. -/
theorem Book.scored_of_fault_eq_none (price : α) (nowMs : Int) :
    ∀ {queue : List (Pending α)} (m : Metrics α) (resolved : Nat),
      (resolveQueue price nowMs m resolved queue).fault = none →
      ∃ pairs, scoreAll price (queue.takeWhile (·.dueMs ≤ nowMs)) = .ok pairs
  | [], _, _, _ => ⟨[], rfl⟩
  | p :: queue, m, resolved, h => by
    unfold resolveQueue at h
    by_cases hp : p.dueMs ≤ nowMs
    · rw [if_pos hp] at h
      cases hpair : score p price with
      | error fault => rw [hpair] at h; cases h
      | ok pair =>
        rw [hpair] at h
        obtain ⟨others, hothers⟩ := scored_of_fault_eq_none price nowMs _ _ h
        refine ⟨pair :: others, ?_⟩
        unfold scoreAll at *
        rw [List.takeWhile_cons_of_pos (by simpa using hp), List.mapM_cons, hpair, hothers]
        rfl
    · rw [List.takeWhile_cons_of_neg (by simpa using hp)]
      exact ⟨[], rfl⟩

/-- A score that does not exist stops the front, with its fault. -/
theorem Book.resolveQueue_of_fault (price : α) (nowMs : Int) :
    ∀ {queue : List (Pending α)} {fault : Fault} (m : Metrics α) (resolved : Nat),
      scoreAll price (queue.takeWhile (·.dueMs ≤ nowMs)) = .error fault →
      (resolveQueue price nowMs m resolved queue).fault = some fault
  | [], _, _, _, h => by cases h
  | p :: queue, fault, m, resolved, h => by
    unfold resolveQueue
    by_cases hp : p.dueMs ≤ nowMs
    · rw [List.takeWhile_cons_of_pos (by simpa using hp)] at h
      unfold scoreAll at h
      rw [List.mapM_cons] at h
      rw [if_pos hp]
      cases hpair : score p price with
      | error other =>
        rw [hpair] at h
        exact congrArg some (Except.error.inj h)
      | ok pair =>
        rw [hpair] at h
        refine resolveQueue_of_fault price nowMs _ _ ?_
        simp only [bind, Except.bind] at h
        unfold scoreAll
        split at h
        · next other hothers => rw [hothers, Except.error.inj h]
        · cases h
    · rw [List.takeWhile_cons_of_neg (by simpa using hp)] at h
      cases h

/-! ## Calls on a lane -/

/-- The prediction that a call to schedule asks for, if it is acceptable. -/
def Book.prediction? (nowMs horizonMs : Int) (basePrice mu scale : α) : Option (Pending α) :=
  if accepts basePrice mu then
    some { dueMs := nowMs + max horizonMs 0, basePrice, mu, scale := usableScale scale }
  else none

theorem Book.prediction?_eq_some {nowMs horizonMs : Int} {basePrice mu scale : α} {p : Pending α}
    (h : prediction? nowMs horizonMs basePrice mu scale = some p) :
    isValidPrice p.basePrice = true ∧ Scalar.isFinite p.mu = true ∧
      p.dueMs = nowMs + max horizonMs 0 ∧ p.scale = usableScale scale := by
  unfold prediction? at h
  split at h
  · next haccept =>
    obtain ⟨hprice, hmu⟩ := Bool.and_eq_true_iff.mp haccept
    cases Option.some.inj h
    exact ⟨hprice, hmu, rfl, rfl⟩
  · cases h

namespace Lane

/-- The lane with a further prediction, if it is accepted. -/
def schedule (l : Lane α) (nowMs horizonMs : Int) (basePrice mu scale : α) : Lane α :=
  match Book.prediction? nowMs horizonMs basePrice mu scale with
  | some p => { l with queue := enqueue p l.queue }
  | none => l

/-- A prediction that is accepted joins the stable sort. -/
theorem schedule_byDue (waiting : List (Pending α)) (m : Metrics α) (nowMs horizonMs : Int)
    (basePrice mu scale : α) :
    (⟨byDue waiting, m⟩ : Lane α).schedule nowMs horizonMs basePrice mu scale =
      ⟨byDue (waiting ++ (Book.prediction? nowMs horizonMs basePrice mu scale).toList), m⟩ := by
  unfold schedule
  split
  · next p h =>
    rw [h, Option.toList_some, enqueue_byDue]
  · next h =>
    rw [h, Option.toList_none, List.append_nil]

/-- The lane after its front has been scored, and the number of predictions in that front. -/
def resolve (l : Lane α) (price : α) (nowMs : Int) : Except Fault (Lane α × Nat) :=
  if isValidPrice price then
    (Book.scoreAll price (l.queue.takeWhile (·.dueMs ≤ nowMs))).map fun pairs =>
      ({ queue := l.queue.dropWhile (·.dueMs ≤ nowMs), metrics := l.metrics.observeAll pairs },
        pairs.length)
  else .ok (l, 0)

end Lane

/-! ## Calls on a book -/

namespace Book

variable {b b' : Book α} {key other : String}

theorem lane_schedule (b : Book α) (key : String) (nowMs horizonMs : Int) (basePrice mu scale : α) :
    (b.schedule key nowMs horizonMs basePrice mu scale).1.lane key =
      (b.lane key).schedule nowMs horizonMs basePrice mu scale := by
  unfold schedule Lane.schedule prediction?
  cases accepts basePrice mu with
  | true =>
    rw [if_pos rfl, if_pos rfl]
    simp only [lane, queue, metricsOf, Keyed.get?_insert_self, Option.getD_some]
  | false => rfl

theorem sameAt_schedule (b : Book α) (h : key ≠ other) (nowMs horizonMs : Int)
    (basePrice mu scale : α) :
    SameAt b (b.schedule key nowMs horizonMs basePrice mu scale).1 other := by
  unfold schedule
  split
  · exact ⟨Keyed.get?_insert_of_ne _ _ h, rfl, rfl, rfl⟩
  · exact ⟨rfl, rfl, rfl, rfl⟩

/-- A price that is not usable scores nothing. -/
theorem resolveDue_of_not_valid (b : Book α) (key : String) {price : α} (nowMs : Int)
    (h : isValidPrice price = false) : b.resolveDue key price nowMs = (b, .ok 0) := by
  unfold resolveDue
  rw [h, Bool.not_false, Bool.or_true, if_pos rfl]

/-- Scoring the due predictions of a book scores the lane of its key. -/
theorem resolveDue_of_lane {price : α} {nowMs : Int} {l : Lane α} {n : Nat}
    (h : (b.lane key).resolve price nowMs = .ok (l, n)) :
    ∃ b', b.resolveDue key price nowMs = (b', .ok n) ∧ b'.lane key = l := by
  unfold Lane.resolve at h
  cases hprice : isValidPrice price with
  | false =>
    rw [hprice] at h
    cases h
    exact ⟨b, resolveDue_of_not_valid b key nowMs hprice, rfl⟩
  | true =>
    rw [hprice, if_pos rfl] at h
    cases hpairs : scoreAll price ((b.queue key).takeWhile (·.dueMs ≤ nowMs)) with
    | error fault => rw [queue_lane, hpairs] at h; cases h
    | ok pairs =>
      rw [queue_lane, hpairs] at h
      obtain ⟨rfl, rfl⟩ := Prod.mk.inj (Except.ok.inj h)
      unfold resolveDue
      cases hqueue : b.queue key with
      | nil =>
        rw [hqueue] at hpairs
        cases Except.ok.inj hpairs
        refine ⟨b, rfl, ?_⟩
        simp only [lane, hqueue, List.dropWhile_nil]
        rfl
      | cons p rest =>
        rw [hqueue] at hpairs
        rw [hprice, if_neg (by simp), resolveQueue_of_scored price nowMs _ _ hpairs, Nat.zero_add]
        refine ⟨_, rfl, ?_⟩
        simp only [lane, queue, metricsOf, Keyed.get?_insert_self, Option.getD_some]

/-- A fault of the lane is one of the book. -/
theorem resolveDue_of_lane_fault {price : α} {nowMs : Int} {fault : Fault}
    (h : (b.lane key).resolve price nowMs = .error fault) :
    ∃ b', b.resolveDue key price nowMs = (b', .error fault) := by
  unfold Lane.resolve at h
  split at h
  · next hprice =>
    have hscores : scoreAll price ((b.queue key).takeWhile (·.dueMs ≤ nowMs)) = .error fault := by
      cases hscores : scoreAll price ((b.queue key).takeWhile (·.dueMs ≤ nowMs)) with
      | error other => rw [queue_lane, hscores] at h; exact congrArg _ (Except.error.inj h)
      | ok pairs => rw [queue_lane, hscores] at h; cases h
    have hqueue : (b.queue key).isEmpty = false := by
      cases hqueue : b.queue key with
      | nil => rw [hqueue] at hscores; cases hscores
      | cons p rest => rfl
    unfold resolveDue
    rw [hqueue, hprice, if_neg (by simp)]
    simp only [resolveQueue_of_fault price nowMs (b.metricsOf key) 0 hscores]
    exact ⟨_, rfl⟩
  · cases h

/-- Where scoring a book succeeds, so does scoring the lane of its key. -/
theorem lane_resolve_of_resolveDue {price : α} {nowMs : Int} {n : Nat}
    (h : b.resolveDue key price nowMs = (b', .ok n)) :
    (b.lane key).resolve price nowMs = .ok (b'.lane key, n) := by
  suffices hl : ∃ l m, (b.lane key).resolve price nowMs = .ok (l, m) by
    obtain ⟨l, m, hl⟩ := hl
    obtain ⟨b₁, h₁, rfl⟩ := resolveDue_of_lane hl
    rw [h] at h₁
    obtain ⟨rfl, hm⟩ := Prod.mk.inj h₁
    rw [hl, Except.ok.inj hm]
  unfold Lane.resolve
  cases hprice : isValidPrice price with
  | false => exact ⟨_, _, rfl⟩
  | true =>
    rw [if_pos rfl]
    suffices hpairs : ∃ pairs,
        scoreAll price ((b.queue key).takeWhile (·.dueMs ≤ nowMs)) = .ok pairs by
      obtain ⟨pairs, hpairs⟩ := hpairs
      rw [queue_lane, hpairs]
      exact ⟨_, _, rfl⟩
    unfold resolveDue at h
    cases hqueue : b.queue key with
    | nil => exact ⟨[], rfl⟩
    | cons p rest =>
      rw [hqueue, hprice, if_neg (by simp)] at h
      refine scored_of_fault_eq_none price nowMs (b.metricsOf key) 0 ?_
      have hfault := (Prod.mk.inj h).2
      split at hfault
      · cases hfault
      · assumption

theorem sameAt_resolveDue (b : Book α) (h : key ≠ other) (price : α) (nowMs : Int) :
    SameAt b (b.resolveDue key price nowMs).1 other := by
  unfold resolveDue
  split
  · exact ⟨rfl, rfl, rfl, rfl⟩
  · exact ⟨Keyed.get?_insert_of_ne _ _ h, Keyed.get?_insert_of_ne _ _ h, rfl, rfl⟩

end Book

/-! ## Exact numbers -/

/-- The pair of a prediction at a later price. -/
def Pending.pairAt (p : Pending α) (price : α) : α × α :=
  (Scalar.log (price / p.basePrice) / p.scale, p.mu / p.scale)

/-- Every prediction that waits was made at a usable price. -/
def Lane.Priced (l : Lane α) : Prop := ∀ p ∈ l.queue, isValidPrice p.basePrice = true

theorem Lane.Priced.schedule {l : Lane α} (h : l.Priced) (nowMs horizonMs : Int)
    (basePrice mu scale : α) : (l.schedule nowMs horizonMs basePrice mu scale).Priced := by
  unfold Lane.schedule
  split
  · next p hprediction =>
    intro q hq
    rcases List.mem_append.mp ((enqueue_perm _ _).mem_iff.mp hq) with hold | hnew
    · exact h q hold
    · rw [List.mem_singleton.mp hnew]
      exact (Book.prediction?_eq_some hprediction).1
  · exact h

theorem Lane.Priced.resolve {l l' : Lane α} (h : l.Priced) {price : α} {nowMs : Int} {n : Nat}
    (hl : l.resolve price nowMs = .ok (l', n)) : l'.Priced := by
  unfold Lane.resolve at hl
  split at hl
  · cases hpairs : Book.scoreAll price (l.queue.takeWhile (·.dueMs ≤ nowMs)) with
    | error fault => rw [hpairs] at hl; cases hl
    | ok pairs =>
      rw [hpairs] at hl
      obtain ⟨rfl, -⟩ := Prod.mk.inj (Except.ok.inj hl)
      exact fun p hp => h p ((List.dropWhile_sublist _).mem hp)
  · obtain ⟨rfl, -⟩ := Prod.mk.inj (Except.ok.inj hl)
    exact h

theorem Book.scoreAll_of_valid {price : Extended} (hprice : isValidPrice price = true) :
    ∀ {predictions : List (Pending Extended)},
      (∀ p ∈ predictions, isValidPrice p.basePrice = true) →
      scoreAll price predictions = .ok (predictions.map (·.pairAt price))
  | [], _ => rfl
  | p :: rest, h => by
    have hrest := scoreAll_of_valid hprice fun q hq => h q (List.mem_cons_of_mem p hq)
    have hlog := (Extended.log?_div hprice (h p List.mem_cons_self)).1
    unfold scoreAll at *
    rw [List.mapM_cons, score, hlog, hrest]
    rfl

/-- Over exact numbers no score of a lane of usable prices fails. -/
theorem Lane.resolve_of_priced {l : Lane Extended} (h : l.Priced) {price : Extended}
    (hprice : isValidPrice price = true) (nowMs : Int) :
    l.resolve price nowMs = .ok
      ({ queue := l.queue.dropWhile (·.dueMs ≤ nowMs)
         metrics := l.metrics.observeAll
          ((l.queue.takeWhile (·.dueMs ≤ nowMs)).map (·.pairAt price)) },
        (l.queue.takeWhile (·.dueMs ≤ nowMs)).length) := by
  unfold Lane.resolve
  rw [if_pos hprice, Book.scoreAll_of_valid hprice fun p hp =>
    h p ((List.takeWhile_sublist _).mem hp)]
  simp only [Except.map, List.length_map]

end ReturnForecast
