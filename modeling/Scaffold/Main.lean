import Scaffold.CommandLine.Execution

/-! The program: command lines carried out on the files of the machine. -/
namespace Scaffold

private def attempt (action : IO Unit) : IO Bool := do
  try
    action
    return true
  catch _ => return false

instance : FileStore IO where
  read? path := do
    try return some (← IO.FS.readFile path)
    catch _ => return none
  isPresent path := attempt (discard (IO.FS.Handle.mk path .read))
  write path text := attempt do
    let folder := "/".intercalate (Path.segments path).dropLast
    if !folder.isEmpty then IO.FS.createDirAll folder
    IO.FS.writeFile path text

/-- The keys that variables may set. -/
def settingKeys : List String := [
  "SCHEMA_FILE", "INCLUDE_TABLES", "EXCLUDE_TABLES", "NAMESPACE", "DATABASE", "GENERATE_BACKEND",
  "GENERATE_CLIENT", "OUTPUT_DIR", "PARAM_BUDGET", "TRANSACTIONAL_DIVISOR", "BUDGET_POLICY",
  "PARALLEL", "DRY_RUN", "LOG_LEVEL"]

def environment : IO Environment := do
  let found ← settingKeys.mapM fun key => do
    let name := Text.upper Settings.variablePrefix ++ key
    return (← IO.getEnv name).map (name, ·)
  return found.filterMap id

def report (o : CommandLine.Outcome) : IO Unit := do
  match o with
  | .usage => (← IO.getStderr).putStrLn "Error: the arguments do not fit the command line"
  | .finished lines failure? =>
    (← IO.getStdout).putStr (CommandLine.Outcome.text lines)
    if let some failure := failure? then
      (← IO.getStderr).putStrLn ("Error: " ++ failure.message)

end Scaffold

def main (args : List String) : IO UInt32 := do
  let outcome ← Scaffold.CommandLine.run (← Scaffold.environment) args
  Scaffold.report outcome
  return outcome.exitCode.toUInt32
