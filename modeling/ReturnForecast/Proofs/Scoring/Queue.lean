import ReturnForecast.Scoring.Book

/-!
# Queues of predictions

A queue is the stable sort of the predictions that wait in it.

* `eq_of_ordered` — an ordered queue is determined by what is due at each time
* `enqueue_byDue` — both ways of joining a queue come to the stable sort
* `takeWhile_eq_dueBy` / `dropWhile_eq_notDueBy` — cutting a queue where the first prediction is not
  due yet takes exactly those that are due
-/

namespace ReturnForecast

variable {α : Type}

/-! ## Order and stability -/

/-- No prediction is due later than one behind it. -/
def Ordered (queue : List (Pending α)) : Prop := queue.Pairwise fun p q => p.dueMs ≤ q.dueMs

theorem dueMs_le_trans (p q r : Pending α) (hpq : decide (p.dueMs ≤ q.dueMs) = true)
    (hqr : decide (q.dueMs ≤ r.dueMs) = true) : decide (p.dueMs ≤ r.dueMs) = true := by
  simp only [decide_eq_true_eq] at *
  omega

theorem dueMs_le_total (p q : Pending α) :
    (decide (p.dueMs ≤ q.dueMs) || decide (q.dueMs ≤ p.dueMs)) = true := by
  simp only [Bool.or_eq_true, decide_eq_true_eq]
  omega

theorem ordered_byDue (queue : List (Pending α)) : Ordered (byDue queue) :=
  (List.pairwise_mergeSort dueMs_le_trans dueMs_le_total queue).imp fun hpq =>
    of_decide_eq_true hpq

theorem byDue_perm (queue : List (Pending α)) : (byDue queue).Perm queue :=
  List.mergeSort_perm _ _

theorem byDue_of_ordered {queue : List (Pending α)} (h : Ordered queue) : byDue queue = queue :=
  List.mergeSort_of_pairwise (h.imp fun hpq => decide_eq_true hpq)

/-- What is due at one time keeps its order. -/
theorem filter_eq_byDue (queue : List (Pending α)) (time : Int) :
    (byDue queue).filter (·.dueMs = time) = queue.filter (·.dueMs = time) := by
  have hpair : (queue.filter (·.dueMs = time)).Pairwise
      fun p q => decide (p.dueMs ≤ q.dueMs) = true := by
    refine List.pairwise_of_forall_mem_list fun p hp q hq => ?_
    have h₁ := of_decide_eq_true (List.mem_filter.mp hp).2
    have h₂ := of_decide_eq_true (List.mem_filter.mp hq).2
    exact decide_eq_true (by omega)
  have hsub : (queue.filter (·.dueMs = time)).Sublist (byDue queue) :=
    List.sublist_mergeSort dueMs_le_trans dueMs_le_total hpair List.filter_sublist
  -- Both filters have as many items, so the sublist is the whole.
  have hsub' := hsub.filter (·.dueMs = time)
  rw [List.filter_filter, show (fun p : Pending α => decide (p.dueMs = time) &&
    decide (p.dueMs = time)) = fun p => decide (p.dueMs = time) by simp] at hsub'
  exact (hsub'.eq_of_length ((byDue_perm queue).filter _).length_eq.symm).symm

/-- An ordered queue is determined by what is due at each time. -/
theorem eq_of_ordered : ∀ {queue other : List (Pending α)}, Ordered queue → Ordered other →
    (∀ time, queue.filter (·.dueMs = time) = other.filter (·.dueMs = time)) → queue = other
  | [], [], _, _, _ => rfl
  | [], q :: _, _, _, h => by simpa using h q.dueMs
  | p :: _, [], _, _, h => by simpa using h p.dueMs
  | p :: queue, q :: other, hp, hq, h => by
    have hple : p.dueMs ≤ q.dueMs := by
      have hmem : q ∈ (p :: queue).filter (·.dueMs = q.dueMs) := by rw [h q.dueMs]; simp
      rcases List.mem_cons.mp (List.mem_filter.mp hmem).1 with heq | hin
      · exact heq ▸ Int.le_refl _
      · exact List.rel_of_pairwise_cons hp hin
    have hqle : q.dueMs ≤ p.dueMs := by
      have hmem : p ∈ (q :: other).filter (·.dueMs = p.dueMs) := by rw [← h p.dueMs]; simp
      rcases List.mem_cons.mp (List.mem_filter.mp hmem).1 with heq | hin
      · exact heq ▸ Int.le_refl _
      · exact List.rel_of_pairwise_cons hq hin
    -- The heads are due together, and each is the first that is due then.
    have heq : p.dueMs = q.dueMs := by omega
    have hhead : p = q := by
      have hfront := h p.dueMs
      rw [List.filter_cons_of_pos (by simp), List.filter_cons_of_pos (by simp [heq])] at hfront
      exact (List.cons.inj hfront).1
    subst hhead
    congr 1
    refine eq_of_ordered hp.of_cons hq.of_cons fun time => ?_
    have ht := h time
    by_cases hd : p.dueMs = time
    · rw [List.filter_cons_of_pos (by simp [hd]), List.filter_cons_of_pos (by simp [hd])] at ht
      exact (List.cons.inj ht).2
    · rwa [List.filter_cons_of_neg (by simp [hd]), List.filter_cons_of_neg (by simp [hd])] at ht

/-! ## Joining a queue -/

theorem byDue_byDue_append (queue rest : List (Pending α)) :
    byDue (byDue queue ++ rest) = byDue (queue ++ rest) := by
  refine eq_of_ordered (ordered_byDue _) (ordered_byDue _) fun time => ?_
  rw [filter_eq_byDue, filter_eq_byDue, List.filter_append, List.filter_append, filter_eq_byDue]

/-- A prediction that is due no sooner than the last one may stand behind it. -/
theorem ordered_append_singleton {queue : List (Pending α)} (h : Ordered queue) {p : Pending α}
    (hlast : ∀ last, queue.getLast? = some last → last.dueMs ≤ p.dueMs) :
    Ordered (queue ++ [p]) := by
  refine List.pairwise_append.mpr ⟨h, List.pairwise_singleton _ _, fun q hq r hr => ?_⟩
  rw [List.mem_singleton.mp hr]
  obtain ⟨front, last, heq⟩ := (List.eq_nil_or_concat queue).resolve_left (List.ne_nil_of_mem hq)
  rw [List.concat_eq_append] at heq
  subst heq
  have hle := hlast last (by simp)
  rcases List.mem_append.mp hq with hin | hin
  · exact Int.le_trans ((List.pairwise_append.mp h).2.2 q hin last (by simp)) hle
  · rw [List.mem_singleton.mp hin]
    exact hle

/-- **Joining a queue comes to the stable sort,** with or without a change of order. -/
theorem enqueue_byDue (p : Pending α) (queue : List (Pending α)) :
    enqueue p (byDue queue) = byDue (queue ++ [p]) := by
  unfold enqueue
  split
  · exact byDue_byDue_append queue [p]
  · next h =>
    -- Nothing in the queue is due later, so it is in order as it stands.
    rw [← byDue_byDue_append]
    refine (byDue_of_ordered (ordered_append_singleton (ordered_byDue queue) ?_)).symm
    intro last hlast
    rw [hlast] at h
    simpa using h

theorem enqueue_perm (p : Pending α) (queue : List (Pending α)) :
    (enqueue p queue).Perm (queue ++ [p]) := by
  unfold enqueue
  split
  · exact byDue_perm _
  · exact List.Perm.refl _

/-! ## Cutting a queue -/

/-- The predictions that are due. -/
def dueBy (nowMs : Int) (queue : List (Pending α)) : List (Pending α) :=
  queue.filter (·.dueMs ≤ nowMs)

/-- The predictions that are not due yet. -/
def notDueBy (nowMs : Int) (queue : List (Pending α)) : List (Pending α) :=
  queue.filter (nowMs < ·.dueMs)

theorem length_dueBy_add (nowMs : Int) (queue : List (Pending α)) :
    (dueBy nowMs queue).length + (notDueBy nowMs queue).length = queue.length := by
  unfold dueBy notDueBy
  rw [← List.countP_eq_length_filter, ← List.countP_eq_length_filter,
    List.length_eq_countP_add_countP (fun p => decide (p.dueMs ≤ nowMs))]
  congr 1
  refine List.countP_congr fun p _ => ?_
  simp

theorem filter_byDue (keep : Pending α → Bool) (queue : List (Pending α)) :
    (byDue queue).filter keep = byDue (queue.filter keep) := by
  refine eq_of_ordered ((ordered_byDue queue).filter _) (ordered_byDue _) fun time => ?_
  have hcomm : ∀ l : List (Pending α), (l.filter keep).filter (·.dueMs = time) =
      (l.filter (·.dueMs = time)).filter keep := fun l => by
    simp only [List.filter_filter, Bool.and_comm]
  rw [filter_eq_byDue, hcomm, filter_eq_byDue, hcomm]

theorem length_dueBy_byDue (nowMs : Int) (queue : List (Pending α)) :
    (dueBy nowMs (byDue queue)).length = (dueBy nowMs queue).length := by
  unfold dueBy
  exact ((byDue_perm queue).filter _).length_eq

/-- Behind a prediction that is not due no other one is. -/
theorem takeWhile_eq_dueBy (nowMs : Int) : ∀ {queue : List (Pending α)}, Ordered queue →
    queue.takeWhile (·.dueMs ≤ nowMs) = dueBy nowMs queue
  | [], _ => rfl
  | p :: queue, h => by
    unfold dueBy
    by_cases hp : p.dueMs ≤ nowMs
    · rw [List.takeWhile_cons_of_pos (by simp [hp]), List.filter_cons_of_pos (by simp [hp])]
      rw [takeWhile_eq_dueBy nowMs h.of_cons]
      rfl
    · rw [List.takeWhile_cons_of_neg (by simp [hp]), eq_comm, List.filter_eq_nil_iff]
      intro q hq
      rcases List.mem_cons.mp hq with heq | hin
      · simpa [heq] using hp
      · have hle := List.rel_of_pairwise_cons h hin
        simp only [decide_eq_true_eq]
        omega

theorem dropWhile_eq_notDueBy (nowMs : Int) : ∀ {queue : List (Pending α)}, Ordered queue →
    queue.dropWhile (·.dueMs ≤ nowMs) = notDueBy nowMs queue
  | [], _ => rfl
  | p :: queue, h => by
    unfold notDueBy
    by_cases hp : p.dueMs ≤ nowMs
    · rw [List.dropWhile_cons_of_pos (by simp [hp]),
        List.filter_cons_of_neg (by simp only [decide_eq_true_eq]; omega)]
      exact dropWhile_eq_notDueBy nowMs h.of_cons
    · rw [List.dropWhile_cons_of_neg (by simp [hp]), eq_comm, List.filter_eq_self]
      intro q hq
      rcases List.mem_cons.mp hq with heq | hin
      · simp only [heq, decide_eq_true_eq]
        omega
      · have hle := List.rel_of_pairwise_cons h hin
        simp only [decide_eq_true_eq]
        omega

end ReturnForecast
