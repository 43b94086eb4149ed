import ReturnForecast.Decimal.Numeral

/-!
# Arguments of a command

Options start with two dashes. One that takes a value finds it behind an equals sign or in the next
argument, whatever that looks like; a switch takes none. Options and other arguments may be mixed,
and behind two dashes alone there are no options any more. Of an option that is given again the last
value counts.
-/

namespace ReturnForecast.CommandLine

/-- What is wrong with a command line. -/
inductive Misuse where
  | noCommand
  | unknownCommand (name : String)
  | unknownOption (name : String)
  | noValue (option : String)
  | needlessValue (option : String)
  | badNumber (option given : String)
  | noFile (option path : String)
  | missingArgument (name : String)
  | furtherArguments (given : List String)
  | unknownPredictors (ids : List String)
  | badConfiguration (message : String)
deriving DecidableEq, Repr

/-- The text of a misuse. -/
def Misuse.message : Misuse → String
  | noCommand => "missing command"
  | unknownCommand name => "no such command: " ++ name
  | unknownOption name => "no such option: " ++ name
  | noValue option => option ++ " needs a value"
  | needlessValue option => option ++ " takes no value"
  | badNumber option given => option ++ ": not a number: " ++ given
  | noFile option path => option ++ ": no such file: " ++ path
  | missingArgument name => "missing argument: " ++ name
  | furtherArguments given => "too many arguments: " ++ String.intercalate " " given
  | unknownPredictors ids => "unknown predictor ids: " ++ String.intercalate ", " ids
  | badConfiguration message => message

/-- The options that a command knows. -/
structure Grammar where
  valued : List String
  switches : List String

/-- The option that asks for help. -/
def helpOption : String := "--help"

/-- Arguments, sorted into options with values, switches, and others. -/
structure Arguments where
  values : List (String × String) := []
  switches : List String := []
  others : List String := []
deriving DecidableEq, Repr

namespace Arguments

/-- Is the argument an option? -/
def isOption (arg : String) : Bool := arg.startsWith "-" && arg.length ≠ 1

/-- An option's name, and the value behind its equals sign. -/
def cutAtEquals (arg : String) : String × Option String :=
  match arg.toList.span (· ≠ '=') with
  | (name, _ :: value) => (String.ofList name, some (String.ofList value))
  | (_, []) => (arg, none)

/-- The arguments after some others. -/
def scan (g : Grammar) (seen : Arguments) : List String → Except Misuse Arguments
  | [] => .ok seen
  | arg :: rest =>
    if arg = "--" then .ok { seen with others := seen.others ++ rest }
    else if !isOption arg then scan g { seen with others := seen.others ++ [arg] } rest
    else
      let (name, value) := cutAtEquals arg
      if g.switches.contains name || name = helpOption then
        if value.isSome then .error (.needlessValue name)
        else scan g { seen with switches := seen.switches ++ [name] } rest
      else if g.valued.contains name then
        match value, rest with
        | some value, rest => scan g { seen with values := seen.values ++ [(name, value)] } rest
        | none, value :: rest => scan g { seen with values := seen.values ++ [(name, value)] } rest
        | none, [] => .error (.noValue name)
      else .error (.unknownOption name)

/-- Is help asked for? -/
def asksForHelp (a : Arguments) : Bool := a.switches.contains helpOption

/-- All values of an option. -/
def valuesOf (a : Arguments) (name : String) : List String :=
  (a.values.filter (·.1 = name)).map (·.2)

/-- The value of an option that counts. -/
def value? (a : Arguments) (name : String) : Option String := (a.valuesOf name).getLast?

/-- A text option. -/
def text (a : Arguments) (name standard : String) : String := (a.value? name).getD standard

/-- Is the switch on, where another one turns it off? -/
def isOn (a : Arguments) (on off : String) : Bool :=
  (a.switches.filter fun s => s = on || s = off).getLast? = some on

/-- A number option. -/
def number {β : Type} (read : String → Option β) (a : Arguments) (name : String) (standard : β) :
    Except Misuse β :=
  match a.value? name with
  | none => .ok standard
  | some given => match read given with
    | some x => .ok x
    | none => .error (.badNumber name given)

/-- An integer option. -/
def integer (a : Arguments) (name : String) (standard : Int) : Except Misuse Int :=
  a.number Decimal.readInt? name standard

/-- A double option. -/
def double (a : Arguments) (name : String) (standard : Float) : Except Misuse Float :=
  a.number Decimal.readFloat? name standard

/-- The only argument besides the options. -/
def single (a : Arguments) (name : String) : Except Misuse String :=
  match a.others with
  | [] => .error (.missingArgument name)
  | [only] => .ok only
  | _ :: rest => .error (.furtherArguments rest)

end Arguments

end ReturnForecast.CommandLine
