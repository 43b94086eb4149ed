import ReturnForecast.Proofs.Scalar.Averages
import ReturnForecast.Proofs.Predictor.Lessons
import ReturnForecast.Model.LeastSquares

/-!
# Designs of a regression on past lessons

A design names the features that a list of lessons gives. The regression of a design is fed each
return together with the features of the lessons *before* it, and what it forecasts comes from the
features of all lessons. Its errors are those of the weights that had not yet seen the return.

* `Design.observations` — every return with the features of its strict past
* `Design.regression` — the regression, its average squared error and the next features
* `Design.filter_concat` / `residual2_concat` — what one more lesson does to them
-/

namespace ReturnForecast.LeastSquares

variable {α : Type} [Scalar α] {n : Nat}

/-! ## Errors of a regression -/

namespace Filter

/-- The regression after a list of observations. -/
def observeAll (f : Filter α n) (seen : List (Vector α n × α)) : Filter α n :=
  seen.foldl (fun f o => f.observe o.1 o.2) f

/-- The error of each observation, by the weights before it. -/
def errors (f : Filter α n) : List (Vector α n × α) → List α
  | [] => []
  | (x, y) :: later => (y - f.predict x) :: (f.observe x y).errors later

theorem observeAll_concat (f : Filter α n) (seen : List (Vector α n × α)) (x : Vector α n)
    (y : α) : f.observeAll (seen ++ [(x, y)]) = (f.observeAll seen).observe x y :=
  List.foldl_append

theorem errors_concat (x : Vector α n) (y : α) :
    ∀ (f : Filter α n) (seen : List (Vector α n × α)),
      f.errors (seen ++ [(x, y)]) = f.errors seen ++ [y - (f.observeAll seen).predict x]
  | _, [] => rfl
  | f, (x', y') :: later =>
    congrArg ((y' - f.predict x') :: ·) (errors_concat x y (f.observe x' y') later)

theorem length_errors : ∀ (f : Filter α n) (seen : List (Vector α n × α)),
    (f.errors seen).length = seen.length
  | _, [] => rfl
  | f, (x, y) :: later => congrArg (· + 1) (length_errors (f.observe x y) later)

end Filter

/-! ## Designs -/

/-- A regression with its average squared error and the features of the next return. -/
structure Regression (α : Type) (n : Nat) where
  residual2 : α
  filter : Filter α n
  features : Vector α n

/-- How a regression is made from a first lesson and further ones, and how it forecasts. -/
structure Design (α : Type) (n : Nat) where
  /-- The features that some lessons give for the next return. -/
  features : (first : Lesson α) → (rest : List (Lesson α)) → Vector α n
  forgetting : α
  ridge : α
  /-- The share of a new squared error in their average. -/
  errorShare : α
  /-- Does the first return count as an error? The regression has not forecast it. -/
  countsFirst : Bool
  /-- The number of lessons needed for a forecast. -/
  minSamples : Nat := 0
  /-- The number of sigmas that a forecast may be away from zero. -/
  clip : Option α := none
  shrinkCount : α
  minSigma : α

namespace Design

variable (d : Design α n) (first : Lesson α) (rest : List (Lesson α)) (next : Lesson α)

/-- Every further return, with the features of the lessons before it. -/
def observations : List (Vector α n × α) :=
  rest.mapIdx fun t next => (d.features first (rest.take t), next.ret)

/-- The regression after all lessons. -/
def filter : Filter α n :=
  (Filter.fresh n d.forgetting d.ridge).observeAll (d.observations first rest)

/-- The errors so far, each by the weights that had not seen the return. -/
def errors : List α :=
  (if d.countsFirst then [first.ret] else []) ++
    (Filter.fresh n d.forgetting d.ridge).errors (d.observations first rest)

/-- The average squared error. -/
def residual2 : α := smoothed d.errorShare ((d.errors first rest).map fun e => e * e)

/-- What the lessons leave. -/
def regression : Regression α n where
  residual2 := d.residual2 first rest
  filter := d.filter first rest
  features := d.features first rest

/-- A forecast within its bound, if it has one. -/
def bounded (sigma x : α) : α :=
  match d.clip with
  | none => x
  | some k => clamp x (-(k * sigma)) (k * sigma)

/-- The forecast of the lessons, weighed against the fallback by their number. -/
def forecast (fallback : Estimate α) : List (Lesson α) → Except Fault (Estimate α)
  | [] => .ok fallback
  | first :: rest =>
    if rest.length + 1 < d.minSamples then .ok fallback
    else
      let sigma := larger (sqrtPos (d.residual2 first rest)) d.minSigma
      let mu := d.bounded sigma ((d.filter first rest).predict (d.features first rest))
      Estimate.shrunk mu sigma (rest.length + 1) d.shrinkCount fallback d.minSigma

/-! ## One more lesson -/

omit [Scalar α] in
/-- The features of the next return become those of an observation; the earlier ones stay. -/
theorem observations_concat : d.observations first (rest ++ [next]) =
    d.observations first rest ++ [(d.features first rest, next.ret)] := by
  unfold observations
  rw [List.mapIdx_concat, List.take_left']
  · congr 1
    refine List.mapIdx_eq_mapIdx_iff.mpr fun t ht => ?_
    rw [List.take_append_of_le_length (Nat.le_of_lt ht)]
  · rfl

/-- The error of a return, by the lessons before it. -/
def error : α := next.ret - (d.filter first rest).predict (d.features first rest)

theorem filter_concat : d.filter first (rest ++ [next]) =
    (d.filter first rest).observe (d.features first rest) next.ret := by
  unfold filter
  rw [observations_concat, Filter.observeAll_concat]

theorem errors_concat : d.errors first (rest ++ [next]) =
    d.errors first rest ++ [d.error first rest next] := by
  unfold errors error filter
  rw [observations_concat, Filter.errors_concat, List.append_assoc]

theorem length_errors :
    (d.errors first rest).length = (if d.countsFirst then 1 else 0) + rest.length := by
  unfold errors
  rw [List.length_append, Filter.length_errors, observations, List.length_mapIdx]
  split <;> rfl

theorem residual2_concat : d.residual2 first (rest ++ [next]) =
    if (d.errors first rest).length = 0 then d.error first rest next * d.error first rest next
    else ewma (d.residual2 first rest) (d.error first rest next * d.error first rest next)
      d.errorShare := by
  unfold residual2
  rw [errors_concat, List.map_append, List.map_singleton, smoothed_concat, List.length_map]

/-- If the first return counts as an error, every further one joins the average. -/
theorem residual2_concat_of_counts (h : d.countsFirst = true) :
    d.residual2 first (rest ++ [next]) =
      ewma (d.residual2 first rest) (d.error first rest next * d.error first rest next)
        d.errorShare := by
  have hlen : (d.errors first rest).length ≠ 0 := by
    rw [length_errors, h, if_pos rfl]
    omega
  rw [residual2_concat, if_neg hlen]

/-- If it does not, the error of the second return starts the average. -/
theorem residual2_concat_of_not_counts (h : d.countsFirst = false) :
    d.residual2 first (rest ++ [next]) =
      if rest.length + 1 ≤ 1 then d.error first rest next * d.error first rest next
      else ewma (d.residual2 first rest) (d.error first rest next * d.error first rest next)
        d.errorShare := by
  have hlen : (d.errors first rest).length = rest.length := by
    rw [length_errors, h, if_neg Bool.false_ne_true, Nat.zero_add]
  have hstart : rest.length = 0 ↔ rest.length + 1 ≤ 1 := by omega
  rw [residual2_concat, hlen]
  simp only [hstart]

end Design

end ReturnForecast.LeastSquares
