import WebDispatch.Demo.CommandLine

/-!
# The program

Runs the small application once.
-/

namespace WebDispatch
namespace Demo

/-- The environment variables that the program looks at. -/
def variableNames : List String :=
  ["MVCBRIDGE_MAX_BODY_SIZE", "MVCBRIDGE_MAX_FILE_SIZE", "MVCBRIDGE_FILE_SIZE_THRESHOLD",
    "MVCBRIDGE_UPLOAD_TEMP_DIR"]

/-- The environment of the program. -/
def currentEnvironment : IO Environment := do
  let pairs ← variableNames.mapM fun name => do return (name, ← IO.getEnv name)
  return Dict.ofList (pairs.filterMap fun (name, value) => value.map (name, ·))

end Demo
end WebDispatch

/-- Run the program with its arguments. -/
def main (arguments : List String) : IO UInt32 := do
  let report := WebDispatch.Demo.run (← WebDispatch.Demo.currentEnvironment) arguments
  IO.print report.output
  IO.eprint report.errors
  return UInt32.ofNat report.exitCode
