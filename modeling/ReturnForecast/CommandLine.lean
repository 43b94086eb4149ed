import ReturnForecast.CommandLine.Baseline
import ReturnForecast.CommandLine.Score

/-!
# Command line

Two commands: one scores the predictors of a configuration over the closes of a file, the other one
the running average.
-/

namespace ReturnForecast.CommandLine

/-- A command with its options. -/
inductive Command where
  | score (s : Score)
  | baseline (b : Baseline)
  | help
deriving Repr

namespace Command

/-- A command of its arguments, or help if that is asked for. -/
def ofArguments (g : Grammar) (read : Arguments → Except Misuse Command) (args : List String) :
    Except Misuse Command :=
  match Arguments.scan g {} args with
  | .error misuse => .error misuse
  | .ok a => if a.asksForHelp then .ok help else read a

/-- The command of a command line. -/
def parse : List String → Except Misuse Command
  | [] => .error .noCommand
  | "score" :: args => ofArguments Score.grammar (fun a => (Score.ofArguments a).map score) args
  | "baseline" :: args =>
    ofArguments Baseline.grammar (fun a => (Baseline.ofArguments a).map baseline) args
  | name :: _ =>
    if name = helpOption then .ok help
    else if Arguments.isOption name then .error (.unknownOption name)
    else .error (.unknownCommand name)

/-- The paths of the files that a command reads. -/
def paths : Command → List String
  | score s => s.path :: s.configPath.toList
  | baseline b => [b.path]
  | help => []

/-- What help says. -/
def helpLines : List String :=
  ["score CSV_PATH [OPTIONS]     score predictors on historical closes"
    ++ " (" ++ String.intercalate " " (Score.grammar.valued ++ Score.grammar.switches) ++ ")",
    "baseline CSV_PATH [OPTIONS]  score the running average"
    ++ " (" ++ String.intercalate " " (Baseline.grammar.valued ++ Baseline.grammar.switches) ++ ")"]

/-- How a command ends. -/
def run (files : Files) : Command → Outcome
  | score s => s.run files
  | baseline b => b.run files
  | help => .finished helpLines

end Command

/-- How a command line ends. -/
def run (files : Files) (args : List String) : Outcome :=
  match Command.parse args with
  | .ok command => command.run files
  | .error misuse => .misused misuse

end ReturnForecast.CommandLine
