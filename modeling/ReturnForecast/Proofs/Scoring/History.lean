import ReturnForecast.Proofs.Scoring.Lane

/-!
# Histories of a book

What the queues of a book hold after any calls that did not fail. A history lists the calls with
their answers, the latest first.

* `serve_served` / `sameAt_serve` — what one call does at its own key, and at no other
* `Run.queue_eq` — a queue is the stable sort of what was accepted and is still outstanding
* `Run.scores_each_once` — both, and that no prediction is lost
-/

namespace ReturnForecast.Book

/-- A call on a book. -/
inductive Call (α : Type) where
  | schedule (key : String) (nowMs horizonMs : Int) (basePrice mu scale : α)
  | resolve (key : String) (price : α) (nowMs : Int)
  | metrics (key : String)

/-- What a call returns. -/
inductive Answer (α : Type) where
  | scheduled (p : Option (Pending α))
  | resolved (n : Nat)
  | metrics (m : Metrics α)

/-- The key that a call is about. -/
def Call.key {α : Type} : Call α → String
  | .schedule key .. => key
  | .resolve key .. => key
  | .metrics key => key

variable {α : Type} [Scalar α]

/-- The book after a call, and the answer. -/
def serve (b : Book α) : Call α → Except Fault (Book α × Answer α)
  | .schedule key nowMs horizonMs basePrice mu scale =>
    let (b', p) := b.schedule key nowMs horizonMs basePrice mu scale
    .ok (b', .scheduled p)
  | .resolve key price nowMs =>
    match b.resolveDue key price nowMs with
    | (b', .ok n) => .ok (b', .resolved n)
    | (_, .error fault) => .error fault
  | .metrics key => .ok (b.touch key, .metrics (b.metricsOf key))

/-- Calls on a fresh book of which none fails, the latest first, and the book that they lead to. -/
inductive Run (window r2MinSamples : Int) : List (Call α × Answer α) → Book α → Prop where
  | start : Run window r2MinSamples [] (.fresh window r2MinSamples)
  | call {history : List (Call α × Answer α)} {b b' : Book α} {c : Call α} {answer : Answer α}
      (before : Run window r2MinSamples history b) (served : b.serve c = .ok (b', answer)) :
      Run window r2MinSamples ((c, answer) :: history) b'

/-! ## What should come of a history -/

/-- The outstanding predictions of a scope after one more call. -/
def after (key : String) : Call α × Answer α → List (Pending α) → List (Pending α)
  | (.schedule other .., .scheduled (some p)), waiting =>
    if other = key then waiting ++ [p] else waiting
  | (.resolve other price nowMs, _), waiting =>
    if other = key ∧ isValidPrice price then notDueBy nowMs waiting else waiting
  | _, waiting => waiting

/-- What a scope has accepted and not yet scored, in the order of scheduling. -/
def outstanding (key : String) (history : List (Call α × Answer α)) : List (Pending α) :=
  history.foldr (after key) []

/-- Was a prediction accepted in a scope? -/
def acceptedAt (key : String) : Call α × Answer α → Bool
  | (.schedule other .., .scheduled (some _)) => other = key
  | _ => false

/-- The number of predictions that a call scored in a scope. -/
def resolvedAt (key : String) : Call α × Answer α → Nat
  | (.resolve other .., .resolved n) => if other = key then n else 0
  | _ => 0

/-- What one call does at its own key. -/
def Served (b : Book α) : Call α → Book α → Answer α → Prop
  | .schedule key nowMs horizonMs basePrice mu scale, b', answer =>
    let p := prediction? nowMs horizonMs basePrice mu scale
    answer = .scheduled p ∧ b'.queue key = byDue (b.queue key ++ p.toList) ∧
      b'.metricsOf key = b.metricsOf key
  | .resolve key price nowMs, b', answer =>
    if isValidPrice price then
      ∃ pairs, scoreAll price (dueBy nowMs (b.queue key)) = .ok pairs ∧
        b'.metricsOf key = (b.metricsOf key).observeAll pairs ∧
        b'.queue key = notDueBy nowMs (b.queue key) ∧
        answer = .resolved (dueBy nowMs (b.queue key)).length
    else b' = b ∧ answer = .resolved 0
  | .metrics key, b', answer =>
    answer = .metrics (b.metricsOf key) ∧ b'.queue key = b.queue key ∧
      b'.metricsOf key = b.metricsOf key

/-! ## One call -/

variable {b b' : Book α} {c : Call α} {answer : Answer α}

theorem serve_resolve_eq_ok {key : String} {price : α} {nowMs : Int}
    (h : b.serve (.resolve key price nowMs) = .ok (b', answer)) :
    ∃ n, b.resolveDue key price nowMs = (b', .ok n) ∧ answer = .resolved n := by
  rw [serve] at h
  split at h
  · next b₁ n hresolve =>
    obtain ⟨rfl, rfl⟩ := Prod.mk.inj (Except.ok.inj h)
    exact ⟨n, hresolve, rfl⟩
  · cases h

/-- A call leaves every other key as it is. -/
theorem sameAt_serve (h : b.serve c = .ok (b', answer)) {other : String} (hkey : c.key ≠ other) :
    SameAt b b' other := by
  cases c with
  | schedule key nowMs horizonMs basePrice mu scale =>
    obtain ⟨rfl, -⟩ := Prod.mk.inj (Except.ok.inj h)
    exact sameAt_schedule b hkey nowMs horizonMs basePrice mu scale
  | resolve key price nowMs =>
    obtain ⟨n, hresolve, -⟩ := serve_resolve_eq_ok h
    have hsame : SameAt b (b.resolveDue key price nowMs).1 other :=
      sameAt_resolveDue b hkey price nowMs
    rwa [hresolve] at hsame
  | metrics key =>
    obtain ⟨rfl, -⟩ := Prod.mk.inj (Except.ok.inj h)
    exact sameAt_touch b hkey

theorem schedule_snd (b : Book α) (key : String) (nowMs horizonMs : Int) (basePrice mu scale : α) :
    (b.schedule key nowMs horizonMs basePrice mu scale).2 =
      prediction? nowMs horizonMs basePrice mu scale := by
  unfold schedule prediction?
  split
  · rfl
  · rfl

theorem metrics_schedule (b : Book α) (key : String) (nowMs horizonMs : Int)
    (basePrice mu scale : α) :
    (b.schedule key nowMs horizonMs basePrice mu scale).1.metricsOf key = b.metricsOf key := by
  unfold schedule
  split
  · rfl
  · rfl

theorem queue_schedule (b : Book α) (key : String) (nowMs horizonMs : Int)
    (basePrice mu scale : α) (hordered : Ordered (b.queue key)) :
    (b.schedule key nowMs horizonMs basePrice mu scale).1.queue key =
      byDue (b.queue key ++ (prediction? nowMs horizonMs basePrice mu scale).toList) := by
  have hlane : b.lane key = ⟨byDue (b.queue key), b.metricsOf key⟩ := by
    rw [byDue_of_ordered hordered]
    rfl
  show ((b.schedule key nowMs horizonMs basePrice mu scale).1.lane key).queue = _
  rw [lane_schedule, hlane, Lane.schedule_byDue]

/-- **One call** on a book whose queue is in order. -/
theorem serve_served (hordered : Ordered (b.queue c.key)) (h : b.serve c = .ok (b', answer)) :
    Served b c b' answer := by
  cases c with
  | schedule key nowMs horizonMs basePrice mu scale =>
    obtain ⟨rfl, rfl⟩ := Prod.mk.inj (Except.ok.inj h)
    refine ⟨?_, queue_schedule b key nowMs horizonMs basePrice mu scale hordered,
      metrics_schedule b key nowMs horizonMs basePrice mu scale⟩
    exact congrArg Answer.scheduled (schedule_snd b key nowMs horizonMs basePrice mu scale)
  | resolve key price nowMs =>
    obtain ⟨n, hresolve, rfl⟩ := serve_resolve_eq_ok h
    rw [Served]
    split
    · next hprice =>
      have hqueue : Ordered (b.queue key) := hordered
      have hlane := lane_resolve_of_resolveDue hresolve
      unfold Lane.resolve at hlane
      rw [if_pos hprice, queue_lane, takeWhile_eq_dueBy nowMs hqueue,
        dropWhile_eq_notDueBy nowMs hqueue] at hlane
      cases hpairs : scoreAll price (dueBy nowMs (b.queue key)) with
      | error fault => rw [hpairs] at hlane; cases hlane
      | ok pairs =>
        rw [hpairs] at hlane
        obtain ⟨hl, rfl⟩ := Prod.mk.inj (Except.ok.inj hlane)
        refine ⟨pairs, rfl, (congrArg Lane.metrics hl).symm, (congrArg Lane.queue hl).symm, ?_⟩
        rw [length_scoreAll hpairs]
    · next hprice =>
      rw [resolveDue_of_not_valid b key nowMs (Bool.eq_false_iff.mpr hprice)] at hresolve
      obtain ⟨rfl, hn⟩ := Prod.mk.inj hresolve
      exact ⟨rfl, congrArg Answer.resolved (Except.ok.inj hn).symm⟩
  | metrics key =>
    obtain ⟨rfl, rfl⟩ := Prod.mk.inj (Except.ok.inj h)
    exact ⟨rfl, rfl, congrArg Lane.metrics (lane_touch b key)⟩

/-! ## A whole history -/

variable {window r2MinSamples : Int} {history : List (Call α × Answer α)}

/-- A call at another key does not count. -/
theorem after_of_ne {key : String} (hkey : c.key ≠ key) (answer : Answer α)
    (waiting : List (Pending α)) :
    after key (c, answer) waiting = waiting ∧ acceptedAt key (c, answer) = false ∧
      resolvedAt key (c, answer) = 0 := by
  refine ⟨?_, ?_, ?_⟩
  · unfold after
    split
    · next heq =>
      obtain ⟨rfl, rfl⟩ := Prod.mk.inj heq
      exact if_neg hkey
    · next heq =>
      obtain ⟨rfl, rfl⟩ := Prod.mk.inj heq
      exact if_neg fun hboth => hkey hboth.1
    · rfl
  · unfold acceptedAt
    split
    · next heq =>
      obtain ⟨rfl, rfl⟩ := Prod.mk.inj heq
      exact decide_eq_false hkey
    · rfl
  · unfold resolvedAt
    split
    · next heq =>
      obtain ⟨rfl, rfl⟩ := Prod.mk.inj heq
      exact if_neg hkey
    · rfl

/-- A call brings the queue from the sort of the outstanding predictions to the next such sort. -/
theorem queue_serve {key : String} {waiting : List (Pending α)} (hq : b.queue key = byDue waiting)
    (h : b.serve c = .ok (b', answer)) : b'.queue key = byDue (after key (c, answer) waiting) := by
  by_cases hkey : c.key = key
  · subst hkey
    have hserved := serve_served (hq ▸ ordered_byDue waiting) h
    cases c with
    | schedule key nowMs horizonMs basePrice mu scale =>
      obtain ⟨rfl, hqueue, -⟩ := hserved
      simp only [Call.key] at hq ⊢
      rw [hqueue, hq, byDue_byDue_append]
      cases prediction? nowMs horizonMs basePrice mu scale with
      | none => simp only [after, Option.toList_none, List.append_nil]
      | some p => simp only [after, Option.toList_some, if_true]
    | resolve key price nowMs =>
      rw [Served] at hserved
      simp only [Call.key] at hq ⊢
      split at hserved
      · next hprice =>
        obtain ⟨pairs, -, -, hqueue, -⟩ := hserved
        rw [hqueue, hq, after, if_pos ⟨rfl, hprice⟩]
        exact filter_byDue _ waiting
      · next hprice =>
        obtain ⟨rfl, -⟩ := hserved
        rw [hq, after, if_neg fun hboth => hprice hboth.2]
    | metrics key =>
      obtain ⟨-, hqueue, -⟩ := hserved
      exact hqueue.trans hq
  · rw [(after_of_ne hkey answer waiting).1, ← hq]
    exact congrArg Lane.queue (sameAt_serve h hkey).lane_eq

/-- A call changes the number of outstanding predictions by what it accepts and scores. -/
theorem length_after {key : String} {waiting : List (Pending α)} (hq : b.queue key = byDue waiting)
    (h : b.serve c = .ok (b', answer)) :
    waiting.length + (if acceptedAt key (c, answer) then 1 else 0) =
      (after key (c, answer) waiting).length + resolvedAt key (c, answer) := by
  by_cases hkey : c.key = key
  · subst hkey
    have hserved := serve_served (hq ▸ ordered_byDue waiting) h
    cases c with
    | schedule key nowMs horizonMs basePrice mu scale =>
      obtain ⟨rfl, -, -⟩ := hserved
      cases prediction? nowMs horizonMs basePrice mu scale with
      | none => rfl
      | some p => simp [Call.key, after, acceptedAt, resolvedAt]
    | resolve key price nowMs =>
      rw [Served] at hserved
      simp only [Call.key] at hq ⊢
      split at hserved
      · next hprice =>
        obtain ⟨pairs, -, -, -, rfl⟩ := hserved
        rw [after, if_pos ⟨rfl, hprice⟩, resolvedAt, if_pos rfl, hq, length_dueBy_byDue,
          ← length_dueBy_add nowMs waiting, Nat.add_comm (dueBy nowMs waiting).length]
        rfl
      · next hprice =>
        obtain ⟨-, rfl⟩ := hserved
        rw [after, if_neg fun hboth => hprice hboth.2, resolvedAt, if_pos rfl]
        rfl
    | metrics key =>
      obtain ⟨rfl, -, -⟩ := hserved
      rfl
  · obtain ⟨hafter, haccepted, hresolved⟩ := after_of_ne hkey answer waiting
    rw [hafter, haccepted, hresolved]
    rfl

/-- **A queue is the stable sort of the outstanding predictions.** -/
theorem Run.queue_eq (h : Run window r2MinSamples history b) (key : String) :
    b.queue key = byDue (outstanding key history) := by
  induction h with
  | start => exact (byDue_of_ordered List.Pairwise.nil).symm
  | call _ served ih => exact queue_serve ih served

/-- Nothing is lost: what a scope accepted is still waiting or was counted as scored. -/
theorem Run.count_eq (h : Run window r2MinSamples history b) (key : String) :
    history.countP (acceptedAt key) =
      (b.queue key).length + (history.map (resolvedAt key)).sum := by
  induction h with
  | start => rfl
  | @call history b b' c answer before served ih =>
    have hlength := length_after (before.queue_eq key) served
    have hbefore := (byDue_perm (outstanding key history)).length_eq
    have hafter := (byDue_perm (outstanding key ((c, answer) :: history))).length_eq
    rw [← before.queue_eq key] at hbefore
    rw [← (before.call served).queue_eq key] at hafter
    rw [show outstanding key ((c, answer) :: history) =
      after key (c, answer) (outstanding key history) from rfl] at hafter
    rw [List.countP_cons, List.map_cons, List.sum_cons]
    omega

/-! ## Exact numbers -/

/-- Over exact numbers no call fails, since only usable prices wait in a queue. -/
theorem serve_of_priced {b : Book Extended} (h : ∀ key, (b.lane key).Priced) (c : Call Extended) :
    ∃ b' answer, b.serve c = .ok (b', answer) ∧ ∀ key, (b'.lane key).Priced := by
  -- It is enough to look at the key of the call: the other lanes are as they were.
  suffices hserve : ∃ b' answer, b.serve c = .ok (b', answer) ∧ (b'.lane c.key).Priced by
    obtain ⟨b', answer, served, hown⟩ := hserve
    refine ⟨b', answer, served, fun key => ?_⟩
    by_cases hkey : c.key = key
    · exact hkey ▸ hown
    · rw [(sameAt_serve served hkey).lane_eq]
      exact h key
  cases c with
  | schedule key nowMs horizonMs basePrice mu scale =>
    refine ⟨(b.schedule key nowMs horizonMs basePrice mu scale).1, _, rfl, ?_⟩
    simp only [Call.key]
    rw [lane_schedule]
    exact (h key).schedule nowMs horizonMs basePrice mu scale
  | resolve key price nowMs =>
    cases hprice : isValidPrice price with
    | false =>
      refine ⟨b, .resolved 0, ?_, h key⟩
      rw [serve, resolveDue_of_not_valid b key nowMs hprice]
    | true =>
      have hlane := Lane.resolve_of_priced (h key) hprice nowMs
      obtain ⟨b', hresolve, hl⟩ := resolveDue_of_lane hlane
      refine ⟨b', _, by rw [serve, hresolve], ?_⟩
      simp only [Call.key]
      rw [hl]
      exact (h key).resolve hlane
  | metrics key =>
    refine ⟨_, _, rfl, ?_⟩
    simp only [Call.key]
    rw [lane_touch]
    exact h key

theorem Run.exists_of_calls (window r2MinSamples : Int) : ∀ calls : List (Call Extended),
    ∃ history b, Run window r2MinSamples history b ∧ history.map (·.1) = calls ∧
      ∀ key, (b.lane key).Priced
  | [] => ⟨[], _, .start, rfl, fun _ _ hp => (List.not_mem_nil hp).elim⟩
  | c :: calls => by
    obtain ⟨history, b, hrun, hcalls, hpriced⟩ := exists_of_calls window r2MinSamples calls
    obtain ⟨b', answer, served, hpriced'⟩ := serve_of_priced hpriced c
    refine ⟨(c, answer) :: history, b', hrun.call served, ?_, hpriced'⟩
    rw [List.map_cons, hcalls]

/-! ## Soundness -/

/-- **Everything about a run:** its queues, its count, and what the next call does. -/
theorem Run.scores_each_once (h : Run window r2MinSamples history b) :
    (∀ key, b.queue key = byDue (outstanding key history)) ∧
    (∀ key, history.countP (acceptedAt key) =
      (b.queue key).length + (history.map (resolvedAt key)).sum) ∧
    ∀ c b' answer, b.serve c = .ok (b', answer) →
      Served b c b' answer ∧ ∀ other, c.key ≠ other → SameAt b b' other := by
  refine ⟨h.queue_eq, h.count_eq, fun c _ _ served => ⟨?_, fun _ => sameAt_serve served⟩⟩
  refine serve_served ?_ served
  rw [h.queue_eq c.key]
  exact ordered_byDue _

/-- Two predictions that are scheduled against the order of their due times, and one that is due. -/
theorem Run.scores_each_once_out_of_order :
    let calls : List (Call Extended) :=
      [.resolve "BTC" 1 5, .schedule "BTC" 3 0 1 1 1, .schedule "BTC" 0 9 1 1 1]
    ∃ history b, history.map (·.1) = calls ∧ Run 2 60 history b ∧
      b.queue "BTC" = byDue (outstanding "BTC" history) ∧
      history.countP (acceptedAt "BTC") =
        (b.queue "BTC").length + (history.map (resolvedAt "BTC")).sum := by
  intro calls
  obtain ⟨history, b, hrun, hcalls, -⟩ := Run.exists_of_calls 2 60 calls
  exact ⟨history, b, hcalls, hrun, hrun.scores_each_once.1 "BTC", hrun.scores_each_once.2.1 "BTC"⟩

end ReturnForecast.Book
