import ReturnForecast.Scalar
import ReturnForecast.Fault

/-!
# Recursive least squares

A linear regression that forgets: each observation updates the weights and the covariance matrix,
and older observations count less by the forgetting factor. The covariance starts as a multiple of
the identity, the inverse of the ridge. An update whose scale `forgetting + xᵀ P x` is not finite or
vanishes is refused.
-/

namespace ReturnForecast.LeastSquares

/-- The state of the regression on `n` features. -/
structure Filter (α : Type) (n : Nat) where
  forgetting : α
  ridge : α
  weights : Vector α n
  covariance : Vector (Vector α n) n

variable {α : Type} [Scalar α] {n : Nat}

/-- The least and the largest forgetting factor. -/
def forgettingBounds : α × α := (0.90, 0.9999)

/-- A scale of an update at or below this one counts as vanished. -/
def scaleFloor : α := 1e-12

/-- The inner product. -/
def dot (x y : Vector α n) : α := (List.ofFn fun i : Fin n => x[i] * y[i]).sum

/-- A matrix times a column. -/
def mulVec (m : Vector (Vector α n) n) (x : Vector α n) : Vector α n :=
  Vector.ofFn fun i => dot m[i] x

/-- A row times a matrix. -/
def vecMul (x : Vector α n) (m : Vector (Vector α n) n) : Vector α n :=
  Vector.ofFn fun j => (List.ofFn fun i : Fin n => x[i] * m[i][j]).sum

/-- The covariance at the start: the inverse of the ridge on the diagonal. -/
def startCovariance (ridge : α) : Vector (Vector α n) n :=
  Vector.ofFn fun i => Vector.ofFn fun j => if i = j then 1 / larger ridge 1e-9 else 0

/-- A regression that has seen nothing. The forgetting factor is moved into its bounds. -/
def Filter.fresh (n : Nat) (forgetting ridge : α) : Filter α n where
  forgetting := clamp forgetting forgettingBounds.1 forgettingBounds.2
  ridge
  weights := Vector.ofFn fun _ => 0
  covariance := startCovariance ridge

namespace Filter

/-- The regression with the covariance of the start and the weights as they are. -/
def reset (f : Filter α n) : Filter α n := { f with covariance := startCovariance f.ridge }

/-- Has the covariance vanished? Its first entry tells. -/
def vanished (f : Filter α n) : Bool :=
  if h : 0 < n then Scalar.abs ((f.covariance.get ⟨0, h⟩).get ⟨0, h⟩) ≤ epsilon else false

/-- The regression with a covariance that has not vanished. -/
def revive (f : Filter α n) : Filter α n := if f.vanished then f.reset else f

/-- The value that the weights give for features. -/
def predict (f : Filter α n) (x : Vector α n) : α := dot f.weights x

/-- The scale of an update, `forgetting + xᵀ P x`. -/
def scale (f : Filter α n) (x : Vector α n) : α := f.forgetting + dot x (mulVec f.covariance x)

/-- Is the scale finite, and not vanishing? -/
def accepts (f : Filter α n) (x : Vector α n) : Bool :=
  Scalar.isFinite (f.scale x) && !decide (Scalar.abs (f.scale x) ≤ scaleFloor)

/-- The regression after an observation `y` at features that it accepts. -/
def absorb (f : Filter α n) (x : Vector α n) (y : α) : Filter α n :=
  let px := mulVec f.covariance x
  let scale := f.scale x
  let gain := Vector.ofFn fun i : Fin n => px[i] / scale
  let error := y - f.predict x
  let row := vecMul x f.covariance
  { f with
    weights := Vector.ofFn fun i => f.weights[i] + gain[i] * error
    covariance := Vector.ofFn fun i => Vector.ofFn fun j =>
      (f.covariance[i][j] - gain[i] * row[j]) / f.forgetting }

/-- The regression after an observation, and whether it was accepted. -/
def update (f : Filter α n) (x : Vector α n) (y : α) : Bool × Filter α n :=
  let f := f.revive
  if f.accepts x then (true, f.absorb x y) else (false, f)

/-- The regression after an observation, accepted or not. -/
def observe (f : Filter α n) (x : Vector α n) (y : α) : Filter α n := (f.update x y).2

/--
An update of a regression that may have no features, in which case there is no first entry to look
at.
-/
def update? (f : Filter α n) (x : Vector α n) (y : α) : Except Fault (Bool × Filter α n) :=
  if n = 0 then .error .badIndex else .ok (f.update x y)

@[simp] theorem predict_reset (f : Filter α n) (x : Vector α n) :
    f.reset.predict x = f.predict x := rfl

/-- The observation reaches only the revived filter. -/
theorem update_of_not_accepts (f : Filter α n) (x : Vector α n) (y : α)
    (h : f.revive.accepts x = false) : f.update x y = (false, f.revive) := by
  simp [update, h]

end Filter

/-- The features as a vector of the expected length. -/
def features? (n : Nat) (xs : List α) : Except Fault (Vector α n) :=
  if h : xs.toArray.size = n then .ok ⟨xs.toArray, h⟩ else .error .shapeMismatch

end ReturnForecast.LeastSquares
