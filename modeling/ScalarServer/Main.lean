import ScalarServer.CommandLine

/-!
# The program

Reads the command line, the environment and the configuration file, and prints what comes of it.
-/

open ScalarServer

/-- What is found under a path. -/
def readFileContent (path : String) : IO FileContent := do
  try
    return .bytes (← IO.FS.readBinFile path)
  catch error =>
    match error with
    | .noFileOrDirectory _ _ _ => return .missing
    | other => return .unreadable (toString other)

/-- The exit code of a call with a command line that makes no sense. -/
def misuseExitCode : UInt32 := 2

def main (arguments : List String) : IO UInt32 := do
  match CommandLine.parse arguments with
  | none =>
    IO.eprintln "error: unexpected command line"
    return misuseExitCode
  | some invocation =>
    let environment ← IO.getEnv ServerConfig.environmentVariable
    let content ← match ServerConfig.pathInUse invocation.configPath environment with
      | some path => readFileContent path
      | none => pure .missing
    let config := ServerConfig.discover invocation.configPath environment fun _ => content
    let report := CommandLine.run invocation.command config
    report.output.forM fun line => IO.println line
    report.errors.forM fun line => IO.eprintln line
    return report.exitCode.toUInt32
