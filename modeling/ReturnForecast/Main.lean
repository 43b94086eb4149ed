import ReturnForecast.CommandLine

/-!
# The program

Reads the files that a command names, runs it, and prints its lines.
-/

namespace ReturnForecast

open ReturnForecast.CommandLine

/-- The text of a file, if there is one. -/
def readText (path : String) : IO (Option String) := do
  try return some (← IO.FS.readFile path) catch _ => return none

/-- The files that a command line names. -/
def readFiles (args : List String) : IO Files := do
  match Command.parse args with
  | .error _ => return fun _ => none
  | .ok command =>
    let texts ← command.paths.mapM fun path => return (path, ← readText path)
    return fun path => (texts.lookup path).join

/-- Prints what a command has to say, and gives its exit status. -/
def report (outcome : Outcome) : IO UInt32 := do
  match outcome with
  | .finished lines => for line in lines do IO.println line
  | .misused misuse => IO.eprintln ("Error: " ++ misuse.message)
  | .failed fault => IO.eprintln ("Error: " ++ fault.message)
  return outcome.status.toUInt32

end ReturnForecast

open ReturnForecast in
def main (args : List String) : IO UInt32 := do
  report (CommandLine.run (← readFiles args) args)
