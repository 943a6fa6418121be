import RowGate.Cli.Program

/-! # The executable

Reads the surroundings, runs the program on them, and prints what it says. It has no connection to a
database of its own, so that every database is out of reach for it.
-/

open RowGate

/-- What is found under a path. -/
def readContents (path : String) : IO FileContents := do
  try
    return .text (← IO.FS.readFile path)
  catch
    | .noFileOrDirectory .. => return .absent
    | _ => return .unreadable

/-- The environment variables that have a say. -/
def readEnvironment : IO (List (String × String)) :=
  (Cli.configVariable :: Config.environmentNames).filterMapM fun name => do
    return (← IO.getEnv name).map fun value => (name, value)

def main (args : List String) : IO UInt32 := do
  let environment ← readEnvironment
  let path := match Cli.Invocation.ofWords (environment.lookup Cli.configVariable) args with
    | .ok i => i.config.getD Config.defaultFile
    | .error _ => Config.defaultFile
  let contents ← readContents path
  let surroundings : Surroundings :=
    { environment, file := fun p => if p = path then contents else .absent }
  let outcome := Cli.run surroundings ⟨.unreachable, {}⟩ args
  IO.print outcome.stdout
  IO.eprint outcome.stderr
  return outcome.code.toUInt32
