import VmAdmission.CommandLine.Report

/-!
# The command
-/

namespace VmAdmission.CommandLine

/-- The contents of a file, if it can be read. -/
def contents? (path : String) : IO (Option String) := do
  try
    return some (← IO.FS.readFile path)
  catch _ => return none

/-- Runs a command on the files that it names: prints its answer, and returns the exit status. -/
def execute (args : List String) : IO UInt32 := do
  let files ← (paths args).mapM fun path => return (path, ← contents? path)
  let report := run (fun path => (files.lookup path).join) args
  IO.print report.output
  IO.eprint report.complaint
  return report.status

end VmAdmission.CommandLine

/-- Judges the operation of a scenario, and exits with 0 if it is accepted, 2 if it is rejected and
1 if no verdict was reached. -/
def main (args : List String) : IO UInt32 := VmAdmission.CommandLine.execute args
