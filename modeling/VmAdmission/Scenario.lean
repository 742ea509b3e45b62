import VmAdmission.Inventory
import VmAdmission.Operation

/-!
# Scenarios

A state of the world, and an operation proposed against it.
-/

namespace VmAdmission

/-- A state of the world and a proposed operation. -/
structure Scenario where
  inventory : Inventory
  operation : Operation
deriving DecidableEq

namespace Scenario

/-- The fields of a scenario. -/
def fields : Codec.Fields Scenario [Inventory, Operation] :=
  .cons (.defaulting "inventory" Inventory.codec Scenario.inventory .empty) <|
  .cons (.required "operation" Operation.codec Scenario.operation) .nil

/-- The codec of scenarios. -/
def codec : Codec Scenario :=
  .record true fields fun (inventory, operation, _) => { inventory, operation }

end Scenario

end VmAdmission
