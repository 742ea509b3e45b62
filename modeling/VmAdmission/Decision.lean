import VmAdmission.Capabilities.Answers
import VmAdmission.Plan

/-!
# Decisions

An operation is judged by running its plan against the services: `Operation.decision`. The decision
holds the verdict or the fault that stood in its way, what was asked, and what was logged.
-/

namespace VmAdmission

/-- What came of judging an operation. -/
structure Decision where
  result : Except Fault Verdict
  /-- Everything that was asked, the queries before the operation included. -/
  asked : List Query
  log : List LogRecord

namespace Operation

/-- What is known of every event of an operation. -/
def context (op : Operation) : List (String × String) := [("operation", op.kind)]

/-- What is known of the events of an operation's checks: what the operation is about. -/
def checkContext (op : Operation) : List (String × String) :=
  op.context ++
    match op with
    | .updateVm update => [("vm_id", update.vm.id.render)]
    | .attachDisk disk vmId _ => [("disk_id", disk.id.render), ("vm_id", vmId.render)]
    | .updateDisk disk _ => [("disk_id", disk.id.render)]
    | .detachDisk diskId vmId => [("disk_id", diskId.render), ("vm_id", vmId.render)]
    | .removeDisk diskId | .removeDiskSnapshots diskId => [("disk_id", diskId.render)]

end Operation

namespace Step

/-- A rule as a check over what was asked so far. -/
def toCheck (services : Services) (s : Step) : Check (List Query) where
  name := s.name
  applies := s.applies
  body := s.rule.run services

end Step

namespace Plan

/-- Runs a plan behind the queries asked so far: its result, all queries asked, and its events. -/
def run (services : Services) (asked : List Query) :
    Plan → Except Fault Verdict × List Query × List Event
  | .settled verdict => (.ok verdict, asked, [])
  | .checks steps =>
    let progress := Checklist.run (steps.map (Step.toCheck services)) asked
    (progress.result, progress.state, progress.events)

end Plan

namespace Operation

/-- The record of a verdict; a fault leaves none. -/
def closingLog (op : Operation) : Except Fault Verdict → List LogRecord
  | .ok verdict => [⟨op.context, .ofVerdict verdict⟩]
  | .error _ => []

/-- The decision on an operation behind the queries asked so far. -/
def decision (op : Operation) (services : Services) (asked : List Query) : Decision :=
  match op.plan.run services asked with
  | (.error fault, asked) => ⟨.error fault, asked, []⟩
  | (.ok plan, asked) =>
    let (result, asked, events) := plan.run services asked
    ⟨result, asked, events.map (⟨op.checkContext, ·⟩) ++ op.closingLog result⟩

/-- The result of judging an operation by an inventory and capability tables. -/
def judge (op : Operation) (inv : Inventory) (c : Capabilities) : Except Fault Verdict :=
  (op.decision (Answers.ofTables inv c).toServices []).result

end Operation

end VmAdmission
