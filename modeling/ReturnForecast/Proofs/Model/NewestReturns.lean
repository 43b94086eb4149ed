import ReturnForecast.Proofs.Predictor.ReturnHistory

/-!
# The newest returns

The ring of recent returns holds the newest ones, each in the slot of its number modulo the
capacity: a write hits the one return that has become too old. Read backwards from the next slot,
across the end of the slots, it gives the last returns of the history. Over exact reals its means
are therefore those of the history's last returns.

* `RecentReturns.Holds` — what a ring holds of a history, and `Holds.push`, one return more
* `RecentReturns.Holds.newest_eq` — what is read backwards
* `RecentReturns.Holds.tells` — its counts, means and features
* `MomentumRegression.ring_of_returns` — after every history, and in every run
-/

namespace ReturnForecast

namespace RecentReturns

variable {α : Type}

/-! ## Slots -/

section Slots

variable {ring : RecentReturns α} {rs : List α}

/-- A write reaches the slot that is next, and no other. -/
theorem get_push (ring : RecentReturns α) (r : α) (i : ℕ) :
    (ring.push r).slots.get (Fin.ofNat capacity i) =
      if ring.next = i % capacity then r else ring.slots.get (Fin.ofNat capacity i) := by
  simp only [push, Vector.get_eq_getElem, Vector.getElem_setIfInBounds, Fin.val_ofNat]

/-- A ring holds the newest returns of a history: each in the slot of its number. -/
structure Holds (ring : RecentReturns α) (rs : List α) : Prop where
  next_eq : ring.next = rs.length % capacity
  filled_eq : ring.filled = min rs.length capacity
  get_eq : ∀ i (hi : i < rs.length), rs.length ≤ i + capacity →
    ring.slots.get (Fin.ofNat capacity i) = rs[i]

/-- The return that is overwritten has become too old. -/
theorem Holds.push (h : Holds ring rs) (r : α) : Holds (ring.push r) (rs ++ [r]) where
  next_eq := by
    show (ring.next + 1) % capacity = _
    rw [h.next_eq, Nat.mod_add_mod, List.length_append, List.length_singleton]
  filled_eq := by
    show min (ring.filled + 1) capacity = _
    rw [h.filled_eq, List.length_append, List.length_singleton]
    omega
  get_eq i hi hrecent := by
    rw [List.length_append, List.length_singleton] at hrecent
    rw [get_push, h.next_eq]
    by_cases hold : i < rs.length
    · -- no two of the newest returns share a slot
      have hslot : rs.length % 24 ≠ i % 24 := by
        have hnew : rs.length + 1 ≤ i + 24 := hrecent
        omega
      rw [if_neg hslot, h.get_eq i hold (by omega), List.getElem_append_left hold]
    · have hlast : i = rs.length := by
        rw [List.length_append, List.length_singleton] at hi
        omega
      subst hlast
      rw [if_pos rfl, List.getElem_concat_length rfl]

/-- Going back, one meets the returns from the newest on. -/
theorem Holds.getElem?_reverse (h : Holds ring rs) {age : ℕ} (hage : age < ring.filled) :
    rs.reverse[age]? = some (ring.back age) := by
  rw [h.filled_eq, lt_min_iff] at hage
  obtain ⟨hlength, hcapacity⟩ := hage
  have hage : age < 24 := hcapacity
  have hi : rs.length - 1 - age < rs.length := by omega
  have hslot : Fin.ofNat capacity (ring.next + (capacity - 1) - age) =
      Fin.ofNat capacity (rs.length - 1 - age) := by
    refine Fin.ext ?_
    rw [h.next_eq]
    show (rs.length % 24 + 23 - age) % 24 = (rs.length - 1 - age) % 24
    omega
  rw [List.getElem?_reverse hlength, List.getElem?_eq_getElem hi, back, hslot,
    h.get_eq _ hi (by omega)]

/-- **The newest returns are the last ones of the history,** as far as slots are filled. -/
theorem Holds.newest_eq (h : Holds ring rs) {m : ℕ} (hm : m ≤ ring.filled) :
    ring.newest m = (rs.rtake m).reverse := by
  rw [List.rtake_eq_reverse_take_reverse, List.reverse_reverse]
  refine List.ext_getElem? fun age => ?_
  rw [newest, List.getElem?_map, List.getElem?_take]
  by_cases hage : age < m
  · rw [if_pos hage, List.getElem?_range hage, h.getElem?_reverse (hage.trans_le hm)]
    rfl
  · rw [if_neg hage, List.getElem?_eq_none (by simpa using hage)]
    rfl

end Slots

/-! ## Histories -/

section Histories

variable [Scalar α]

/-- The ring after a history of returns. -/
def ofHistory (rs : List α) : RecentReturns α := rs.foldl push empty

theorem ofHistory_concat (rs : List α) (r : α) : ofHistory (rs ++ [r]) = (ofHistory rs).push r :=
  List.foldl_append

/-- **After every history the ring holds its newest returns.** -/
theorem holds_ofHistory (rs : List α) : (ofHistory rs).Holds rs := by
  induction rs using List.reverseRecOn with
  | nil =>
    exact { next_eq := rfl, filled_eq := rfl, get_eq := fun _ hi _ => (Nat.not_lt_zero _ hi).elim }
  | append_singleton rs r ih =>
    rw [ofHistory_concat]
    exact ih.push r

end Histories

/-! ## Means -/

/-- The mean of the last returns of a history, of fewer if there are fewer; zero without any. -/
noncomputable def meanOfLast (m : ℕ) (rs : List ℝ) : ℝ :=
  if min m rs.length = 0 then 0 else (rs.rtake m).sum / (min m rs.length : ℕ)

variable {ring : RecentReturns ℝ} {rs : List ℝ}

/-- What a ring tells of a history. -/
structure Tells (ring : RecentReturns ℝ) (rs : List ℝ) : Prop where
  filled : ring.filled = min rs.length capacity
  next : ring.next = rs.length % capacity
  meanLast : ∀ m : ℕ, ring.meanLast m = meanOfLast (min m capacity) rs
  features : MomentumRegression.features ring =
    #v[1, meanOfLast 1 rs, meanOfLast 3 rs, meanOfLast 6 rs, meanOfLast 12 rs]

theorem Holds.meanLast_eq (h : Holds ring rs) (m : ℕ) :
    ring.meanLast m = meanOfLast (min m capacity) rs := by
  have hcount : min (m : ℤ) ring.filled = (min m ring.filled : ℕ) := by omega
  have hmin : min m ring.filled = min (min m capacity) rs.length := by
    rw [h.filled_eq]
    omega
  have htake : rs.rtake (min m ring.filled) = rs.rtake (min m capacity) := by
    rw [hmin]
    unfold List.rtake
    congr 1
    omega
  unfold RecentReturns.meanLast meanOfLast
  simp only [hcount, Nat.cast_eq_zero, Int.toNat_natCast]
  rw [← hmin]
  by_cases hzero : min m ring.filled = 0
  · rw [if_pos hzero, if_pos hzero]
  · have hlength : (ring.newest (min m ring.filled)).length = min m ring.filled := by
      rw [newest, List.length_map, List.length_range]
    rw [if_neg hzero, if_neg hzero, mean, total_eq_sum, hlength, h.newest_eq (Nat.min_le_right m _),
      htake, List.sum_reverse]

theorem Holds.tells (h : Holds ring rs) : ring.Tells rs where
  filled := h.filled_eq
  next := h.next_eq
  meanLast := h.meanLast_eq
  features := by
    have hspan : ∀ m : ℕ, m ≤ capacity → ring.meanLast m = meanOfLast m rs := by
      intro m hm
      rw [h.meanLast_eq, Nat.min_eq_left hm]
    have h1 := hspan 1 (by decide)
    have h3 := hspan 3 (by decide)
    have h6 := hspan 6 (by decide)
    have h12 := hspan 12 (by decide)
    unfold MomentumRegression.features
    rw [← h1, ← h3, ← h6, ← h12]
    rfl

end RecentReturns

/-! ## Predictors -/

namespace MomentumRegression

open Predictor

variable {α : Type} [Scalar α]

theorem learnsCounted (c : TrendRegression.Settings α) :
    (forecaster c).LearnsCounted (seed c) (step c) :=
  ⟨fun _ _ => rfl, fun _ _ _ _ => rfl⟩

/-- The ring of a state holds the returns that led to it, and the features are those of the ring. -/
theorem recent_foldCounted (c : TrendRegression.Settings α) (first : α) (rest : List α) :
    (foldCounted (step c) 1 (seed c first) rest).recent = .ofHistory (first :: rest) ∧
      (foldCounted (step c) 1 (seed c first) rest).features =
        features (.ofHistory (first :: rest)) := by
  induction rest using List.reverseRecOn with
  | nil => exact ⟨rfl, rfl⟩
  | append_singleton rest r ih =>
    rw [foldCounted_concat, ← List.cons_append, RecentReturns.ofHistory_concat, ← ih.1]
    exact ⟨rfl, rfl⟩

/--
**The ring never forgets or repeats a return that it needs.** After every history of returns it
counts them up to its capacity, the next slot is their number modulo the capacity, and its means and
features are those of the last returns. After every run a predictor keeps, wherever there has been a
return, the ring of the returns there and the features of that ring.
-/
theorem ring_of_returns :
    (∀ rs : List ℝ, (RecentReturns.ofHistory rs).Tells rs) ∧
    ∀ (c : TrendRegression.Settings ℝ) (place : Place) (ticks : List (Tick ℝ)),
      place.returns ticks ≠ [] →
      ∃ s : State ℝ, ((fresh (.momentumRegression c)).observeAll ticks).HasFit
          (.momentumRegression c) place { count := (place.returns ticks).length, state := s } ∧
        s.recent.Tells (place.returns ticks) ∧ s.features = features s.recent := by
  refine ⟨fun rs => (RecentReturns.holds_ofHistory rs).tells, fun c place ticks hne => ?_⟩
  obtain ⟨first, rest, hreturns⟩ := List.exists_cons_of_ne_nil hne
  have hheard : (Hearing.ofRun (.momentumRegression c) place ticks).returns = first :: rest :=
    (Hearing.returns_ofRun rfl place ticks).trans hreturns
  have hlearns := Forecaster.LearnsCounted.learnsAs fun _ : MacroFactors ℝ => learnsCounted c
  have hfit := hasFit_of_heard (c := .momentumRegression c) (foldCounted (step c) 1 ∘ seed c)
    hlearns rfl hheard
  obtain ⟨hrecent, hfeatures⟩ := recent_foldCounted c first rest
  rw [hreturns]
  refine ⟨_, hfit, ?_, ?_⟩
  · exact hrecent ▸ (RecentReturns.holds_ofHistory (first :: rest)).tells
  · exact hfeatures.trans (congrArg features hrecent.symm)

/-- Three returns, of which the mean of the last two is taken. -/
theorem ring_of_returns_three :
    let c : TrendRegression.Settings ℝ := TrendRegression.standard
    ∃ s : State ℝ, ((fresh (.momentumRegression c)).feed "BTC" [100, 101, 103, 102]).HasFit
        (.momentumRegression c) (.base "BTC") { count := 3, state := s } ∧
      s.recent.next = 3 ∧
      s.recent.meanLast 2 = (Real.log (103 / 101) + Real.log (102 / 103)) / 2 := by
  intro c
  have hvalid := Place.valid_of_cent_le
    (by norm_num : ∀ x ∈ ([100, 101, 103, 102] : List ℝ), 1 / 100 ≤ x)
  have hreturns := Place.returns_map_price "BTC" hvalid
  obtain ⟨s, hfit, htells, -⟩ := ring_of_returns.2 c (.base "BTC")
    ([100, 101, 103, 102].map (.price "BTC")) (by rw [hreturns]; exact List.cons_ne_nil _ _)
  rw [hreturns] at hfit htells
  refine ⟨s, hfit, htells.next, (htells.meanLast 2).trans ?_⟩
  norm_num [RecentReturns.meanOfLast, List.rtake, returnsOf, RecentReturns.capacity]

end MomentumRegression

end ReturnForecast
