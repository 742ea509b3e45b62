import VmAdmission.Fault
import VmAdmission.Verdict

/-!
# The log

What is logged while an operation is judged. An event carries values; `Event.level`,
`Event.message` and `Event.fields` say how it reads.
-/

namespace VmAdmission

/-- Something worth logging. -/
inductive Event where
  /-- A check is about to run. -/
  | running (check : String)
  /-- A check has rejected the operation. -/
  | objected (check : String) (reason : Reason)
  /-- A check could not come to a verdict. -/
  | incomplete (check : String) (fault : Fault)
  /-- The operation is accepted. -/
  | accepted
  /-- The operation is rejected. -/
  | rejected (reason : Reason)
deriving DecidableEq

namespace Event

/-- How much an event matters. -/
def level : Event → String
  | .running _ => "DEBUG"
  | .objected _ _ | .accepted | .rejected _ => "INFO"
  | .incomplete _ _ => "WARNING"

/-- The wording of an event. -/
def message : Event → String
  | .running _ => "running check"
  | .objected _ _ => "check rejected operation"
  | .incomplete _ _ => "check could not complete"
  | .accepted => "operation accepted"
  | .rejected _ => "operation rejected"

/-- The values of an event, by name. -/
def fields : Event → List (String × String)
  | .running check => [("check", check)]
  | .objected check reason => [("check", check), ("reason", "Some(" ++ reason.label ++ ")")]
  | .incomplete check fault => [("check", check), ("error", fault.message)]
  | .accepted => []
  | .rejected reason => [("reason", reason.code)]

/-- The last event of an operation with a verdict. -/
def ofVerdict : Verdict → Event
  | .accepted => .accepted
  | .rejected r => .rejected r.reason

end Event

/-- An event, and what was known when it was logged. -/
structure LogRecord where
  context : List (String × String)
  event : Event
deriving DecidableEq

/-- The values of a record, by name. -/
def LogRecord.fields (r : LogRecord) : List (String × String) := r.context ++ r.event.fields

end VmAdmission
