import FlowTypes.CommandLine
import FlowTypes.Trace.Run

/-!
# The program

Runs the trace file that the arguments name.  What the trace prints goes to the standard output;
the log, the diagnostics and the statistics go to the standard error.
-/

open FlowTypes

/-- Writes diagnostics. -/
def writeDiagnostics (colouring : Colouring) (ds : List Diagnostic) : IO Unit := do
  let stderr ← IO.getStderr
  for d in ds do
    stderr.putStr (d.render colouring)

/-- Reads the text of a file. -/
def readSource (path : String) : IO (Except Trace.ReadFailure String) := do
  try
    return Trace.decodeFile (← IO.FS.readBinFile path)
  catch
    | .noFileOrDirectory .. => return .error .missing
    | e => return .error (.other (toString e))

/-- Runs what a command line asks for. -/
def runCommandLine (c : CommandLine) (path : String) : IO UInt32 := do
  let stderr ← IO.getStderr
  let colouring := c.colour.colouring (← stderr.isTty)
  let options : Options := { spew := c.spew, recordTiming := c.stats }
  let outcome := Trace.runFile path options (← readSource path)
  for line in outcome.printed do
    IO.println line
  match outcome.result with
  | .ok compartment =>
    let (stats, compartment) := compartment.finish
    for line in compartment.logSince 0 do
      stderr.putStrLn line
    if c.stats then
      for line in stats.lines do
        stderr.putStrLn line
    return 0
  | .error errors =>
    for line in outcome.compartment.logSince 0 do
      stderr.putStrLn line
    writeDiagnostics colouring (outcome.diagnostics ++ [Diagnostic.abort errors])
    return 1

def main (arguments : List String) : IO UInt32 := do
  match CommandLine.read arguments with
  | .ok c =>
    match c.path with
    | some path => runCommandLine c path
    | none => return 2
  | .error e =>
    writeDiagnostics .plain [{ level := .error, message := e.message }]
    return 2
