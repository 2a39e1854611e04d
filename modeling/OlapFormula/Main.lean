import OlapFormula.CommandLine.Report

/-!
# The program
-/

open OlapFormula.CommandLine

/-- The text of a file, if it can be read. -/
def readText? (path : String) : IO (Option String) := do
  try return some (← IO.FS.readFile path)
  catch _ => return none

def reportOn (options : Options) : IO Report := do
  match options.modelPath with
  | none => return options.report none
  | some path =>
    match ← readText? path with
    | some text => return options.report (some text)
    | none => return failed "" "" ("Failed to read '" ++ path ++ "'")

def main (arguments : List String) : IO UInt32 := do
  let report ← match Options.parse arguments with
    | .ok options => reportOn options
    | .error problem => pure (misused problem)
  IO.print report.output
  IO.eprint report.errors
  return UInt32.ofNat report.status
