import VmAdmission.Capabilities.BuiltIn
import VmAdmission.Capabilities.Consistency
import VmAdmission.CommandLine.Arguments
import VmAdmission.Decision
import VmAdmission.Json.Printer
import VmAdmission.Json.Reader
import VmAdmission.Scenario.Schema

/-!
# What the command line answers

A command reads a scenario and, where they are named, capability tables, judges the operation, and
reports the verdict on the standard output and in the exit status. Everything that keeps a verdict
from being reached is a failure, which is reported elsewhere and leaves the standard output empty.
-/

namespace VmAdmission.CommandLine

/-! ## Failures -/

/-- Why a file cannot be used. -/
inductive FileError (ε : Type) where
  | unreadable
  | refused (error : ε)

/-- Why no verdict was reached. -/
inductive Failure where
  /-- The scenario cannot be had from its file, or no file is named. -/
  | scenario (path? : Option String) (error : FileError DecodeError)
  | capabilities (path : String) (error : FileError CapabilitiesError)
  | validation (fault : Fault)

namespace Failure

/-- What could not be done. -/
def message : Failure → String
  | .scenario none _ => "no scenario file given"
  | .scenario (some path) _ => "failed to read " ++ path
  | .capabilities path _ => "failed to load capabilities from " ++ path
  | .validation _ => "validation could not complete"

/-- Why it could not be done, where there is more to say. -/
def cause : Failure → String
  | .scenario none _ => ""
  | .scenario _ .unreadable | .capabilities _ .unreadable => "the file cannot be read"
  | .scenario _ (.refused e) => e.message
  | .capabilities _ (.refused e) => e.message
  | .validation fault => fault.message

end Failure

/-! ## Reports -/

/-- What a command answers. -/
inductive Report where
  /-- The command line is not carried out. -/
  | misused (error : UsageError)
  | schema
  | decided (verdict : Verdict) (asJson : Bool)
  | undecided (failure : Failure)

namespace Report

/-- The lines that show a verdict. -/
def showVerdict : Verdict → String
  | .accepted => "accepted\n"
  | .rejected r =>
    "rejected: " ++ r.reason.code ++ "\n" ++
      String.join (r.params.map fun s => "  " ++ s.render ++ "\n")

/-- What is printed on the standard output. -/
def output : Report → String
  | .misused (.inquiry about) => about.answer
  | .misused _ | .undecided _ => ""
  | .schema => Json.renderLines Scenario.schemaDocument ++ "\n"
  | .decided verdict true => Json.renderLines (Verdict.codec.write verdict) ++ "\n"
  | .decided verdict false => showVerdict verdict

/-- The exit status. -/
def status : Report → UInt32
  | .misused (.inquiry _) | .schema | .decided .accepted _ => 0
  | .undecided _ => 1
  | .misused _ | .decided (.rejected _) _ => 2

/-- What is printed elsewhere than on the standard output. -/
def complaint : Report → String
  | .misused (.inquiry _) => ""
  | .misused e => "error: " ++ e.message ++ "\n"
  | .undecided (.scenario none error) =>
    "Error: " ++ (Failure.scenario none error).message ++ "\n"
  | .undecided failure =>
    "Error: " ++ failure.message ++ "\n\nCaused by:\n    " ++ failure.cause ++ "\n"
  | .schema | .decided _ _ => ""

end Report

/-! ## Commands -/

/-- Reads the scenario in a file. -/
def loadScenario (read : String → Option String) (path : String) : Except Failure Scenario :=
  match read path with
  | none => .error (.scenario (some path) .unreadable)
  | some text => (Json.parse Scenario.codec text).mapError (.scenario (some path) <| .refused ·)

/-- Reads the capability tables in a file, or takes the built-in ones if none is named. -/
def loadCapabilities (read : String → Option String) :
    Option String → Except Failure Capabilities
  | none => .ok .builtIn
  | some path =>
    match read path with
    | none => .error (.capabilities path .unreadable)
    | some text => (Capabilities.parse text).mapError (.capabilities path <| .refused ·)

/-- The verdict on the scenario in a file. -/
def judge (read : String → Option String) (scenario : String) (config : Option String) :
    Except Failure Verdict := do
  let s ← loadScenario read scenario
  let c ← loadCapabilities read config
  (s.operation.judge s.inventory c).mapError .validation

/-- What a command answers, where `read` gives the contents of files. -/
def run (read : String → Option String) (args : List String) : Report :=
  match Arguments.parse args with
  | .error e => .misused e
  | .ok a =>
    if .schema ∈ a.switches then .schema
    else
      match a.scenario with
      | none => .undecided (.scenario none .unreadable)
      | some scenario =>
        match judge read scenario a.config with
        | .error failure => .undecided failure
        | .ok verdict => .decided verdict (.json ∈ a.switches)

/-- The files that a command reads. -/
def paths (args : List String) : List String :=
  match Arguments.parse args with
  | .error _ => []
  | .ok a => a.scenario.toList ++ a.config.toList

end VmAdmission.CommandLine
