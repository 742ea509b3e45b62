import VmAdmission.Consult
import VmAdmission.Query.Trace

/-!
# Outages

Services that fail on purpose, to see what becomes of an operation when they do.
-/

namespace VmAdmission

/-- A failure on the queries of one name, from the one behind the skipped ones on. -/
structure Outage where
  traceName : String
  skipped : Nat
  text : String

namespace Outage

/-- Whether the outage strikes a query behind those asked before it. -/
def strikes (o : Outage) (asked : List Query) (q : Query) : Bool :=
  o.traceName = q.traceName && o.skipped ≤ asked.countP (·.traceName = q.traceName)

end Outage

/-- The services with outages. -/
def Services.withOutages (services : Services) (outages : List Outage) : Services :=
  fun asked q =>
    match outages.find? (·.strikes asked q) with
    | some o => .error (.outage q.service o.text)
    | none => services asked q

end VmAdmission
