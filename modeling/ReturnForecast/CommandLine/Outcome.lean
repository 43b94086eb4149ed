import ReturnForecast.CommandLine.Arguments
import ReturnForecast.Fault

/-!
# Outcomes of a command

A command prints lines, or its use is wrong, or it fails.
-/

namespace ReturnForecast.CommandLine

/-- How a command ends. -/
inductive Outcome where
  | finished (lines : List String)
  | misused (misuse : Misuse)
  | failed (fault : Fault)

namespace Outcome

/-- The exit status. -/
def status : Outcome → Nat
  | finished _ => 0
  | misused _ => 2
  | failed _ => 1

/-- The outcome of a run that may fail. -/
def ofRun (lines : Except Fault (List String)) : Outcome :=
  match lines with
  | .ok lines => finished lines
  | .error fault => failed fault

end Outcome

/-- The texts of files by their paths; a path without a text names no file. -/
abbrev Files := String → Option String

/-- The text of a file. -/
def Files.read (files : Files) (path : String) : Except Fault String :=
  match files path with
  | some text => .ok text
  | none => .error .missingFile

end ReturnForecast.CommandLine
