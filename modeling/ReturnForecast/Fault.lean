import ReturnForecast.Value

/-!
# Faults

Everything that can stop a request, by its cause, with the text that reports it. A fault belongs to
a category, by which callers tell apart a wrong value, a wrong type, a failed division and so on.
-/

namespace ReturnForecast

/-- What is wrong with a configuration. -/
inductive ConfigFault where
  | rootNotMapping
  | unknownSections (keys : List Value)
  | predictorsNotMapping
  | horizonsNotMapping
  | badHorizon (cause : NumeralFault)
  | nonPositiveHorizon
  | badLookback (cause : NumeralFault)
  | badMetrics (cause : NumeralFault)
  | specNotMapping (typeName : String)
  | missingKind
  | badKind (cause : NumeralFault)
  | unknownKind (given : String)
  | unknownSpecFields (keys : List Value)
  | badSpecValue (cause : NumeralFault)
  | unknownExpectancyFields (keys : List Value)
  | badExpectancyValue (field : String) (given : Value)
  | unsupportedKind (given : String)
  | duplicateId (id : String)
  | unreadable
  | invalidYaml

/-- The categories of faults. -/
inductive FaultCategory where
  | badValue
  | badType
  | noAttribute
  | missingKey
  | badIndex
  | overflow
  | divisionByZero
  | breakdown
  | missingFile
  | noData
  | badConfig
  | statsUnavailable
deriving DecidableEq, Repr

/--
The scope of trades that a reader could not load, and what stopped it, if it was not the reader
itself.
-/
structure StatsFault where
  scope : String
  tag : String
  instrument : Option String
  cause : Option FaultCategory
deriving DecidableEq, Repr

/-- What stops a request. -/
inductive Fault where
  | divisionByZero
  /-- A logarithm or a root outside its domain. -/
  | mathDomain
  | numeral (cause : NumeralFault)
  /-- The value names no member of the set. -/
  | badChoice (set : String) (given : Value)
  | missingColumns (names : List String)
  | missingColumn (name : String)
  | missingField (name : String)
  | shapeMismatch
  /-- An item of a list of pairs has another length. -/
  | notPair (position length : Nat)
  | wrongType
  | notText
  | notMapping
  /-- The predictor keeps no such figure. -/
  | noDiagnostic
  | badIndex
  /-- The trade reader broke down. -/
  | breakdown
  | missingFile
  /-- The table has no header line. -/
  | emptyTable
  | config (fault : ConfigFault)
  | stats (fault : StatsFault)

/-- The limit on the digits of integers, as messages tell it. -/
def digitLimitText : String :=
  "Exceeds the limit (" ++ toString Decimal.maxDigits ++ " digits) for integer string conversion"

/-- What messages about the limit advise. -/
def digitLimitAdvice : String := "; use sys.set_int_max_str_digits() to increase the limit"

/-- The text of a fault in reading or writing a number. -/
def NumeralFault.message : NumeralFault → String
  | badInteger s => "invalid literal for int() with base 10: " ++ Text.quote s
  | badDecimal s => "could not convert string to float: " ++ Text.quote s
  | noInteger t =>
    "int() argument must be a string, a bytes-like object or a real number, not " ++ Text.quote t
  | noDecimal t => "float() argument must be a string or a real number, not " ++ Text.quote t
  | nanToInteger => "cannot convert float NaN to integer"
  | infinityToInteger => "cannot convert float infinity to integer"
  | tooLarge => "int too large to convert to float"
  | tooManyDigits count =>
    digitLimitText ++ ": value has " ++ toString count ++ " digits" ++ digitLimitAdvice
  | unwritable => digitLimitText ++ digitLimitAdvice

/-- The category of a fault in reading or writing a number. -/
def NumeralFault.category : NumeralFault → FaultCategory
  | badInteger _ | badDecimal _ | nanToInteger | tooManyDigits _ | unwritable => .badValue
  | noInteger _ | noDecimal _ => .badType
  | infinityToInteger | tooLarge => .overflow

/-- The text of a choice that names no member of a set. -/
def badChoiceMessage (set : String) (given : Value) : String :=
  given.quoted ++ " is not a valid " ++ set

/-- The set of predictor kinds, as messages name it. -/
def kindSetName : String := "PredictorKind"

/-- The text of a fault in a configuration. -/
def ConfigFault.message : ConfigFault → String
  | rootNotMapping => "config root must be a mapping"
  | unknownSections keys => "unknown config sections: " ++ (Value.list keys).quoted
  | predictorsNotMapping => "'predictors' must map predictor ids to specs"
  | horizonsNotMapping => "'horizons' must map labels to milliseconds"
  | badHorizon cause => "bad horizon: " ++ cause.message
  | nonPositiveHorizon => "horizons must be positive"
  | badLookback cause => "bad ev.lookback: " ++ cause.message
  | badMetrics cause => "bad metrics section: " ++ cause.message
  | specNotMapping t => "predictor spec must be a mapping, got " ++ t
  | missingKind => "predictor spec is missing 'kind'"
  | badKind cause => "unknown predictor kind: " ++ cause.message
  | unknownKind given => "unknown predictor kind: " ++ badChoiceMessage kindSetName (.text given)
  | unknownSpecFields keys => "unknown predictor spec fields: " ++ (Value.list keys).quoted
  | badSpecValue cause => "predictor spec values must be numeric: " ++ cause.message
  | unknownExpectancyFields keys => "unknown ev estimator fields: " ++ (Value.list keys).quoted
  | badExpectancyValue field given => "bad value for ev." ++ field ++ ": " ++ given.quoted
  | unsupportedKind given => "unsupported predictor kind: " ++ Text.quote given
  | duplicateId id => "duplicate predictor id: " ++ id
  | unreadable => "cannot read config"
  | invalidYaml => "invalid YAML"

/-- Can the fault be reported? Its text may show keys or a value, and these have to be written. -/
def ConfigFault.isWritable : ConfigFault → Bool
  | unknownSections keys | unknownSpecFields keys | unknownExpectancyFields keys =>
    (Value.list keys).isWritable
  | badExpectancyValue _ given => given.isWritable
  | _ => true

/-- The text of a failed load of trades. -/
def StatsFault.message (f : StatsFault) : String :=
  let target := match f.instrument with
    | some instrument => if instrument.isEmpty then f.tag else f.tag ++ "/" ++ instrument
    | none => f.tag
  "failed to load " ++ f.scope ++ " trade stats for " ++ target

namespace Fault

/-- The category of a fault. -/
def category : Fault → FaultCategory
  | divisionByZero => .divisionByZero
  | mathDomain | badChoice _ _ | missingColumns _ | missingColumn _ | shapeMismatch
  | notPair _ _ => .badValue
  | numeral cause => cause.category
  | missingField _ => .missingKey
  | wrongType => .badType
  | notText | notMapping | noDiagnostic => .noAttribute
  | badIndex => .badIndex
  | breakdown => .breakdown
  | missingFile => .missingFile
  | emptyTable => .noData
  | config _ => .badConfig
  | stats _ => .statsUnavailable

/-- The fault of a configuration, or that its report cannot be written. -/
def report (fault : ConfigFault) : Fault :=
  if fault.isWritable then config fault else numeral .unwritable

/--
The fault of a configuration with a value that is no number; one beyond all numbers is no such
fault.
-/
def ofNumeral (toFault : NumeralFault → ConfigFault) (cause : NumeralFault) : Fault :=
  if cause.category = .overflow then numeral cause else report (toFault cause)

/-- The text of a fault, where its report has one. -/
def message : Fault → String
  | divisionByZero => "division by zero"
  | mathDomain => "math domain error"
  | numeral cause => cause.message
  | badChoice set given => badChoiceMessage set given
  | missingColumns names =>
    "trades frame is missing columns: " ++ (Value.list (names.map .text)).quoted
  | missingColumn name => "column " ++ Text.quote name ++ " not found in CSV"
  | missingField name => Text.quote name
  | shapeMismatch => "shapes do not match"
  | notPair position length =>
    "dictionary update sequence element #" ++ toString position ++ " has length " ++ toString length
      ++ "; 2 is required"
  | wrongType => "a value of another type is needed"
  | notText => "a text is needed"
  | notMapping => "a mapping is needed"
  | noDiagnostic => "the predictor keeps no such figure"
  | badIndex => "index out of range"
  | breakdown => "the reader broke down"
  | missingFile => "no such file"
  | emptyTable => "the table has no header"
  | config fault => fault.message
  | stats fault => fault.message

end Fault

end ReturnForecast
