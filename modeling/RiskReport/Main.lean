import RiskReport.Config.EnvFile
import RiskReport.Server

/-!
# The command line

The program reads its variables, adds those of the file `.env` of its directory or of the nearest
directory above that has one, and prepares the server. It has no means to connect to a database, so
it ends with a report on what kept the server from starting.
-/

namespace RiskReport.CommandLine

/-- The text of a file, unless it cannot be read. -/
def readText? (path : String) : IO (Option String) := do
  try
    return some (← IO.FS.readFile path)
  catch _ => return none

/-- The text of the nearest file of variables, from a directory and so many above it. -/
def findEnvFile (directory : String) : (above : Nat) → IO String
  | 0 => return (← readText? (directory ++ ".env")).getD ""
  | n + 1 => do
    match ← readText? (directory ++ ".env") with
    | some text => return text
    | none => findEnvFile (directory ++ "../") n

/-- Those of some variables that are set. -/
def readVariables (names : List String) : IO (List (String × String)) :=
  names.filterMapM fun name => return (← IO.getEnv name).map (name, ·)

/-- Whether there is no file at a path. -/
def isMissing (path : String) : IO Bool := do
  try
    let _ ← IO.FS.readBinFile path
    return false
  catch
    | .noFileOrDirectory .. => return true
    | _ => return false

/-- What keeps the program from connecting to a database. -/
def obstacle (address : Database.Address) : IO Database.ConnectionError := do
  match address.socketFile? with
  | none => return .unsupported
  | some file => return if ← isMissing file then .missing else .unsupported

/-- Report why the server does not start. -/
def refuse (e : StartError) : IO UInt32 := do
  (← IO.getStderr).putStr e.report
  return 1

end RiskReport.CommandLine

open RiskReport CommandLine in
/-- Prepare the server, and report what keeps it from starting. -/
def main : IO UInt32 := do
  let file ← findEnvFile "" (← IO.currentDir).components.length
  let names := AppConfig.variableNames ++ Database.Address.variableNames ++ EnvFile.words file
  let set ← readVariables names.eraseDups
  let vars := EnvFile.extend set file
  match Server.prepare (vars.lookup ·) with
  | .error e => refuse e
  | .ok (_, address) => refuse (.connection (← obstacle address))
