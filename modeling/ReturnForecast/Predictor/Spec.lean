import ReturnForecast.Predictor.Kind
import ReturnForecast.Scalar.Binary64

/-!
# Predictor specifications

A specification is a flat row: a kind and seven numbers, which every kind reads in its own way. It
is read from an untyped mapping and written back to one.
-/

namespace ReturnForecast

/-- A kind and the seven numbers that it interprets. -/
structure Spec (α : Type) where
  kind : Kind
  alphaMean : α
  alphaVar : α
  minSigma : α
  phiClip : α
  betaTrend : α
  processVar : α
  measureVar : α
deriving DecidableEq, Repr

namespace Spec

variable {α : Type}

/-- A row with the numbers used where none are given. -/
def standard [Scalar α] (kind : Kind) : Spec α :=
  { kind, alphaMean := 0.08, alphaVar := 0.08, minSigma := 0.001, phiClip := 0.98
    betaTrend := 0.08, processVar := 1e-6, measureVar := 1e-4 }

/-- The seven numbers. -/
inductive Field where
  | alphaMean
  | alphaVar
  | minSigma
  | phiClip
  | betaTrend
  | processVar
  | measureVar
deriving DecidableEq, Repr

/-- All fields, in the order in which they are written. -/
def Field.all : List Field :=
  [alphaMean, alphaVar, minSigma, phiClip, betaTrend, processVar, measureVar]

/-- The name of a field in a configuration. -/
def Field.name : Field → String
  | alphaMean => "alpha_mean"
  | alphaVar => "alpha_var"
  | minSigma => "min_sigma"
  | phiClip => "phi_clip"
  | betaTrend => "beta_trend"
  | processVar => "process_var"
  | measureVar => "measure_var"

/-- The number in a field. -/
def get (s : Spec α) : Field → α
  | .alphaMean => s.alphaMean
  | .alphaVar => s.alphaVar
  | .minSigma => s.minSigma
  | .phiClip => s.phiClip
  | .betaTrend => s.betaTrend
  | .processVar => s.processVar
  | .measureVar => s.measureVar

/-- The row with another number in a field. -/
def set (s : Spec α) (field : Field) (x : α) : Spec α :=
  match field with
  | .alphaMean => { s with alphaMean := x }
  | .alphaVar => { s with alphaVar := x }
  | .minSigma => { s with minSigma := x }
  | .phiClip => { s with phiClip := x }
  | .betaTrend => { s with betaTrend := x }
  | .processVar => { s with processVar := x }
  | .measureVar => { s with measureVar := x }

theorem get_set (s : Spec α) (a b : Field) (x : α) :
    (s.set a x).get b = if a = b then x else s.get b := by
  cases a <;> cases b <;> rfl

/-- The key of the kind. -/
def kindKey : String := "kind"

/-- The field with a key. -/
def fieldOf? (key : Value) : Option Field :=
  Field.all.find? fun field => key.sameKey (.text field.name)

/-- The row with the numbers of the entries, which all have the key of a field. -/
def readFields (s : Spec Float) : List (Value × Value) → Except Fault (Spec Float)
  | [] => .ok s
  | (key, value) :: rest =>
    match value.toFloat with
    | .ok x =>
      match fieldOf? key with
      | some field => readFields (s.set field x) rest
      | none => readFields s rest
    | .error cause => .error (Fault.ofNumeral .badSpecValue cause)

/-- A fault that lists unknown keys in order; keys that have no order are a fault of their own. -/
def unknownKeysFault (keys : List Value) (toFault : List Value → ConfigFault) : Fault :=
  match Value.sortKeys? keys with
  | some sorted => .report (toFault sorted)
  | none => .wrongType

/-- A row from an untyped value. -/
def ofValue : Value → Except Fault (Spec Float)
  | .map entries => do
    match Value.entry? entries kindKey with
    | none => .error (.config .missingKind)
    | some given =>
      let name ← given.written.mapError fun cause => .config (.badKind cause)
      let kind ← Kind.read name
      let rest := Value.dropEntry entries kindKey
      let unknown := Value.unknownKeys rest (Field.all.map Field.name)
      if unknown.isEmpty then readFields (standard kind) rest
      else .error (unknownKeysFault unknown .unknownSpecFields)
  | other => .error (.config (.specNotMapping other.typeName))

/-- A row as an untyped value. -/
def toValue (s : Spec Float) : Value :=
  .map ((.text kindKey, .text s.kind.name) ::
    Field.all.map fun field => (.text field.name, .real (s.get field)))

end Spec

end ReturnForecast
