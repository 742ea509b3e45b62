import VmAdmission.Capabilities

/-!
# Faults

The rules consult three services. A service may fail to answer, and then no verdict is reached: a
fault is neither an acceptance nor a rejection. A service that fails names what failed as it likes,
be it itself or something that it relies on.
-/

namespace VmAdmission

/-- A service, by its name in messages. -/
structure Service where
  name : String
deriving DecidableEq

namespace Service

/-- The service that loads the rows. -/
def inventory : Service := ⟨"inventory"⟩

/-- The catalog of operating systems. -/
def os : Service := ⟨"os"⟩

/-- The settings. -/
def settings : Service := ⟨"settings"⟩

/-- The services that the rules consult. -/
def all : List Service := [inventory, os, settings]

/-- The service with a name. -/
def ofName? (s : String) : Option Service := all.find? (·.name = s)

end Service

/-- Why a service could not answer. -/
inductive Fault where
  /-- The catalog has no such operating system. -/
  | unknownOs (id : OsId)
  /-- A limit has no value at a version. -/
  | missingSetting (setting : VersionedSetting) (version : Version)
  /-- An attachment names a machine that the inventory does not hold. -/
  | missingVm (id : Uuid)
  /-- An attachment names a disk that the inventory does not hold. -/
  | missingDisk (id : Uuid)
  /-- A service failed by itself; it need not be one of those that the rules consult. -/
  | outage (service : Service) (text : String)
deriving DecidableEq

namespace Fault

/-- The wording of a service's own failure. -/
def failure (service : Service) (text : String) : String := service.name ++ " failed: " ++ text

/-- The wording of a fault. -/
def message : Fault → String
  | .unknownOs id => "guest OS " ++ id.toNat.repr ++ " is not in the OS catalog"
  | .missingSetting setting version =>
    "no value for " ++ setting.label ++ " at compatibility version " ++ version.render
  | .missingVm id => failure .inventory ("attachment refers to missing VM " ++ id.render)
  | .missingDisk id => failure .inventory ("attachment refers to missing disk " ++ id.render)
  | .outage service text => failure service text

end Fault

end VmAdmission
