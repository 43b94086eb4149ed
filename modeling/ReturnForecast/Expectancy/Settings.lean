import ReturnForecast.Predictor.Spec

/-!
# Settings of the expectancy estimator

Priors, rates and penalties of the estimator, read from an untyped mapping and written back to one.
-/

namespace ReturnForecast.Expectancy

/-- The settings of the expectancy estimator. -/
structure Settings (α : Type) where
  priorA : α
  priorB : α
  tailPriorA : α
  tailPriorB : α
  recencyRate : α
  shrinkCount : α
  lossThreshold : α
  timeoutMs : Int
  tailPenalty : α
  feePenalty : α
  probabilityVersion : String
  version : String
deriving DecidableEq, Repr

namespace Settings

/-- The settings used where none are given. -/
def standard {α : Type} [Scalar α] : Settings α :=
  { priorA := 6.0, priorB := 6.0, tailPriorA := 3.0, tailPriorB := 7.0, recencyRate := 0.08
    shrinkCount := 40.0, lossThreshold := 15.0, timeoutMs := 1800000, tailPenalty := 0.8
    feePenalty := 0, probabilityVersion := "beta-binomial-v1", version := "ev-conservative-v1" }

/-- The settings one by one. -/
inductive Field where
  | priorA
  | priorB
  | tailPriorA
  | tailPriorB
  | recencyRate
  | shrinkCount
  | lossThreshold
  | timeoutMs
  | tailPenalty
  | feePenalty
  | probabilityVersion
  | version
deriving DecidableEq, Repr

/-- All fields, in the order in which they are written. -/
def Field.all : List Field :=
  [priorA, priorB, tailPriorA, tailPriorB, recencyRate, shrinkCount, lossThreshold, timeoutMs,
    tailPenalty, feePenalty, probabilityVersion, version]

/-- The name of a field in a configuration. -/
def Field.name : Field → String
  | priorA => "prior_a"
  | priorB => "prior_b"
  | tailPriorA => "tail_prior_a"
  | tailPriorB => "tail_prior_b"
  | recencyRate => "recency_lambda"
  | shrinkCount => "shrink_k"
  | lossThreshold => "loss_threshold_usdt"
  | timeoutMs => "timeout_ms_default"
  | tailPenalty => "gamma_tail_penalty"
  | feePenalty => "fee_slippage_penalty_usdt"
  | probabilityVersion => "prob_model_version"
  | version => "ev_model_version"

/-- The field with a key. -/
def fieldOf? (key : Value) : Option Field :=
  Field.all.find? fun field => key.sameKey (.text field.name)

/-- The value in a field. -/
def get (s : Settings Float) : Field → Value
  | .priorA => .real s.priorA
  | .priorB => .real s.priorB
  | .tailPriorA => .real s.tailPriorA
  | .tailPriorB => .real s.tailPriorB
  | .recencyRate => .real s.recencyRate
  | .shrinkCount => .real s.shrinkCount
  | .lossThreshold => .real s.lossThreshold
  | .timeoutMs => .int s.timeoutMs
  | .tailPenalty => .real s.tailPenalty
  | .feePenalty => .real s.feePenalty
  | .probabilityVersion => .text s.probabilityVersion
  | .version => .text s.version

/-- The settings with a field read from a value: a number, an integer or a text. -/
def read (s : Settings Float) (field : Field) (value : Value) :
    Except NumeralFault (Settings Float) :=
  match field with
  | .priorA => value.toFloat.map fun x => { s with priorA := x }
  | .priorB => value.toFloat.map fun x => { s with priorB := x }
  | .tailPriorA => value.toFloat.map fun x => { s with tailPriorA := x }
  | .tailPriorB => value.toFloat.map fun x => { s with tailPriorB := x }
  | .recencyRate => value.toFloat.map fun x => { s with recencyRate := x }
  | .shrinkCount => value.toFloat.map fun x => { s with shrinkCount := x }
  | .lossThreshold => value.toFloat.map fun x => { s with lossThreshold := x }
  | .timeoutMs => value.toInt.map fun n => { s with timeoutMs := n }
  | .tailPenalty => value.toFloat.map fun x => { s with tailPenalty := x }
  | .feePenalty => value.toFloat.map fun x => { s with feePenalty := x }
  | .probabilityVersion => value.written.map fun t => { s with probabilityVersion := t }
  | .version => value.written.map fun t => { s with version := t }

/-- The settings with the fields of the entries, which all have the key of a field. -/
def readFields (s : Settings Float) : List (Value × Value) → Except Fault (Settings Float)
  | [] => .ok s
  | (key, value) :: rest =>
    match fieldOf? key with
    | none => readFields s rest
    | some field =>
      match s.read field value with
      | .ok next => readFields next rest
      | .error cause =>
        .error (Fault.ofNumeral (fun _ => .badExpectancyValue field.name value) cause)

/-- The settings of a mapping's entries. -/
def ofEntries (entries : List (Value × Value)) : Except Fault (Settings Float) :=
  let unknown := Value.unknownKeys entries (Field.all.map Field.name)
  if unknown.isEmpty then readFields standard entries
  else .error (Spec.unknownKeysFault unknown .unknownExpectancyFields)

/-- The fault of keys without values: unknown ones are reported, and known ones are no mapping. -/
def faultOfKeys (keys : List Value) : Fault :=
  let entries := keys.foldl (fun acc key => Value.putEntry acc key .null) []
  let unknown := Value.unknownKeys entries (Field.all.map Field.name)
  if unknown.isEmpty then .notMapping
  else Spec.unknownKeysFault unknown .unknownExpectancyFields

/--
The settings of an untyped value; what is not given means the standard settings. The items of a list
and the characters of a text are taken for keys.
-/
def ofValue (value : Value) : Except Fault (Settings Float) :=
  if !value.isGiven then .ok standard
  else match value with
    | .map entries => ofEntries entries
    | .list items => .error (if items.any Value.isCompound then .wrongType else faultOfKeys items)
    | .text s => .error (faultOfKeys (s.toList.map fun c => .text (String.singleton c)))
    | _ => .error .wrongType

/-- The settings as an untyped value. -/
def toValue (s : Settings Float) : Value :=
  .map (Field.all.map fun field => (.text field.name, s.get field))

end Settings

end ReturnForecast.Expectancy
