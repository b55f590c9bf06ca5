import WikiMarkup.CommandLine.Program
/-!
# The program

The only part that touches the system: it runs the command line on real files.
-/

namespace WikiMarkup.CommandLine

/-- The number by which the system says that a part of a path is no directory. -/
def notDirectoryCode : UInt32 := 20

/-- The number by which the system says that a file is a directory. -/
def isDirectoryCode : UInt32 := 21

/-- The reason behind a number of the system, or another one with its own words. -/
def fileErrorOfCode (code : UInt32) (e : IO.Error) : FileError :=
  if code = notDirectoryCode then .notDirectory
  else if code = isDirectoryCode then .isDirectory
  else .other e.toString

/-- The reason why the system refuses to read or write a file. -/
def fileErrorOf (e : IO.Error) : FileError :=
  match e with
  | .noFileOrDirectory _ _ _ => .notFound
  | .permissionDenied _ _ _ => .permissionDenied
  | .inappropriateType _ code _ => fileErrorOfCode code e
  | _ => .other e.toString

/-- Runs an action, and gives the reason if it fails. -/
def attempt (action : IO α) : IO (Except FileError α) := do
  match ← action.toBaseIO with
  | .ok a => return .ok a
  | .error e => return .error (fileErrorOf e)

/-- The real files that a running program can reach. -/
instance : Host IO where
  workingDirectory := do
    return (FileTree.parts (← IO.currentDir).toString).filter (· ≠ "")
  hasEntry location := do
    if location.name.isEmpty then return false
    ((← IO.currentDir) / location.name).pathExists
  readFile location := attempt (IO.FS.readBinFile location.name)
  writeFile name bytes := attempt (IO.FS.writeBinFile name bytes)
  readInput := attempt do (← IO.getStdin).readBinToEnd

/-- The name of the environment variable with the name of a configuration file. -/
def configVariable : String := "MD2CONFL_CONFIG"

end WikiMarkup.CommandLine

open WikiMarkup.CommandLine in
/-- Runs the program with its arguments. -/
def main (arguments : List String) : IO UInt32 := do
  let outcome ← run (← IO.getEnv configVariable) arguments
  (← IO.getStdout).putStr (String.ofList outcome.stdout)
  (← IO.getStderr).putStr (String.ofList outcome.stderr)
  return outcome.status.toUInt32
