import VmAdmission.Capabilities
import VmAdmission.Toml.Document

/-!
# Consistent capability tables

Tables are taken in only if no operating system is entered twice and none asks for more memory than
it allows. `Capabilities.parse` reads them from a TOML text, and reports the first entry at fault.
-/

namespace VmAdmission

/-- Why capability tables are refused. -/
inductive CapabilitiesError where
  | undecodable (error : DecodeError)
  | duplicateOs (id : OsId)
  | memoryBoundsInverted (id : OsId) (least greatest : UInt64)
deriving DecidableEq

/-- The wording of a refusal. -/
def CapabilitiesError.message : CapabilitiesError → String
  | .undecodable error => error.message
  | .duplicateOs id => "OS id " ++ id.toNat.repr ++ " is defined more than once"
  | .memoryBoundsInverted id least greatest =>
    "OS " ++ id.toNat.repr ++ " allows " ++ least.toNat.repr ++
      " MiB minimum memory but only " ++ greatest.toNat.repr ++ " MiB maximum"

namespace Capabilities

/-- The first fault of the entries behind those with the given numbers: an entry whose number is
taken, or else one whose least memory is above its greatest. Overrides are not looked at. -/
def firstFault? (taken : List OsId) : List OsEntry → Option CapabilitiesError
  | [] => none
  | os :: entries =>
    if os.id ∈ taken then some (.duplicateOs os.id)
    else if os.maxMemoryMb < os.minMemoryMb then
      some (.memoryBoundsInverted os.id os.minMemoryMb os.maxMemoryMb)
    else firstFault? (os.id :: taken) entries

/-- The tables, unless an entry is at fault. -/
def checked (c : Capabilities) : Except CapabilitiesError Capabilities :=
  match firstFault? [] c.operatingSystems with
  | some fault => .error fault
  | none => .ok c

/-- Reads the tables from a datum of a TOML document. -/
def ofDatum (datum : Datum) : Except CapabilitiesError Capabilities :=
  match codec.read .toml datum with
  | .error e => .error (.undecodable e)
  | .ok c => c.checked

/-- Reads the tables from a TOML text. -/
def parse (text : String) : Except CapabilitiesError Capabilities :=
  match Toml.read? text with
  | none => .error (.undecodable .invalid)
  | some datum => ofDatum datum

end Capabilities

end VmAdmission
