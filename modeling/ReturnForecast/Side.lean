import ReturnForecast.Fault
import ReturnForecast.Text.Blank
import ReturnForecast.Text.LetterCase

/-!
# Sides and scope keys of signals

A signal has one of three sides. Together with its instrument and the tag of its strategy the side
makes up the key under which conditioned forecasts are kept.
-/

namespace ReturnForecast

/-- The side of a signal. -/
inductive Side where
  | buy
  | sell
  | hold
deriving DecidableEq, Repr

namespace Side

/-- The name of a side. -/
def name : Side → String
  | buy => "buy"
  | sell => "sell"
  | hold => "hold"

/-- The side with exactly this name. -/
def ofName? : String → Option Side
  | "buy" => some buy
  | "sell" => some sell
  | "hold" => some hold
  | _ => none

@[simp] theorem ofName?_name (s : Side) : ofName? s.name = some s := by cases s <;> rfl

/-- The side with exactly this name, or a fault that shows the name. -/
def ofName (name : String) : Except Fault Side :=
  match ofName? name with
  | some side => .ok side
  | none => .error (.badChoice "Side" (.text name))

/-- The side that a text names once it is trimmed and in lower case. -/
def read (s : String) : Except Fault Side := ofName (Text.lower (Text.trim s))

end Side

/-- What stands between the parts of a key. -/
def keySeparator : String := "::"

/-- The key of a conditioned scope: instrument in upper case, tag in lower case, side. -/
def signalKey (instrument tag : String) (side : Side) : String :=
  Text.upper (Text.trim instrument) ++ keySeparator ++ Text.lower (Text.trim tag) ++ keySeparator
    ++ side.name

/-- The key of a conditioned scope whose side is still a text. -/
def readSignalKey (instrument tag side : String) : Except Fault String :=
  (Side.read side).map (signalKey instrument tag)

end ReturnForecast
