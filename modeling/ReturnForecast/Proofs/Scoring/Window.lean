import ReturnForecast.Scoring.Metrics

/-!
# The window of metrics

Metrics hold the newest finite pairs, as many as the window says.

* `lastItems_append` — cutting to the window early changes nothing
* `observeAll_eq` / `observeAll_fresh` — metrics after any pairs
-/

namespace ReturnForecast

/-! ## The last items of a list -/

section LastItems

variable {β : Type} {count : Int}

theorem lastItems_of_pos (h : 0 < count) (xs : List β) :
    lastItems count xs = xs.drop (xs.length - count.toNat) := if_pos h

/-- What was dropped once would be dropped anyway. -/
theorem lastItems_append (h : 0 < count) (xs ys : List β) :
    lastItems count (lastItems count xs ++ ys) = lastItems count (xs ++ ys) := by
  rw [lastItems_of_pos h, lastItems_of_pos h, lastItems_of_pos h]
  have hle : xs.length - count.toNat ≤ xs.length := Nat.sub_le _ _
  rw [← List.drop_append_of_le_length hle, List.drop_drop]
  congr 1
  rw [List.length_drop, List.length_append]
  omega

theorem lastItems_lastItems (h : 0 < count) (xs : List β) :
    lastItems count (lastItems count xs) = lastItems count xs := by
  have happend := lastItems_append h xs []
  rwa [List.append_nil, List.append_nil] at happend

end LastItems

/-! ## Metrics -/

namespace Metrics

variable {α : Type} [Scalar α]

/-- The metrics after a list of pairs. -/
def observeAll (m : Metrics α) (pairs : List (α × α)) : Metrics α :=
  pairs.foldl (fun m pair => m.observe pair.1 pair.2) m

/-- Are both sides of a pair finite? -/
def finitePair (pair : α × α) : Bool := Scalar.isFinite pair.1 && Scalar.isFinite pair.2

theorem observeAll_append (m : Metrics α) (pairs others : List (α × α)) :
    m.observeAll (pairs ++ others) = (m.observeAll pairs).observeAll others := List.foldl_append

/-- **Metrics hold the newest finite pairs,** however many were observed. -/
theorem observeAll_eq : ∀ (pairs : List (α × α)) {m : Metrics α}, 0 < m.window →
    lastItems m.window m.pairs = m.pairs →
    m.observeAll pairs =
      { m with pairs := lastItems m.window (m.pairs ++ pairs.filter finitePair) }
  | [], m, _, hpairs => by
    rw [List.filter_nil, List.append_nil, hpairs]
    rfl
  | pair :: rest, m, hwindow, hpairs => by
    show (m.observe pair.1 pair.2).observeAll rest = _
    cases hfinite : finitePair pair with
    | false =>
      rw [observe_of_not_finite m hfinite, List.filter_cons_of_neg (Bool.eq_false_iff.mp hfinite)]
      exact observeAll_eq rest hwindow hpairs
    | true =>
      let next : Metrics α := { m with pairs := lastItems m.window (m.pairs ++ [pair]) }
      have hobserve : m.observe pair.1 pair.2 = next := if_pos hfinite
      have hrest := observeAll_eq rest (m := next) hwindow (lastItems_lastItems hwindow _)
      rw [hobserve, hrest, List.filter_cons_of_pos hfinite]
      simp only [next]
      rw [lastItems_append hwindow, List.append_assoc, List.singleton_append]

theorem observeAll_fresh (window r2MinSamples : Int) (pairs : List (α × α)) :
    (fresh window r2MinSamples).observeAll pairs =
      { window := max window 2
        r2MinSamples
        pairs := lastItems (max window 2) (pairs.filter finitePair) } := by
  have hwindow : 0 < (fresh window r2MinSamples : Metrics α).window :=
    Int.lt_of_lt_of_le (by decide : (0 : Int) < 2) (Int.le_max_right window 2)
  have hempty : lastItems (fresh window r2MinSamples : Metrics α).window [] =
      ([] : List (α × α)) := by
    rw [lastItems_of_pos hwindow, List.drop_nil]
  exact observeAll_eq pairs hwindow hempty

end Metrics

end ReturnForecast
