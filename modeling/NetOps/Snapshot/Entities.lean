import Mathlib.Init

/-!
# Snapshot.Entities

The immutable entities of a live inventory snapshot (`snapshot/entities.py`), with all their
fields; `Inventory.Entities` has what the comparison reads of them. Timestamps and floats are
parameters: nothing but their texts is looked at.
-/

namespace NetOps
namespace Snapshot
namespace Entities

/-- `SNAPSHOT_SCHEMA_VERSION`. -/
def schemaVersion : String := "1.0.0"

variable (T F : Type)

structure InterfaceSnapshot where
  deviceId : String
  name : String
  capturedAt : T
  version : String := schemaVersion
  adminStatus : Option String := none
  operStatus : Option String := none
  description : Option String := none
  macAddress : Option String := none
  speedMbps : Option Int := none
  poeStatus : Option String := none

structure VLANSnapshot where
  vlanId : Int
  name : String
  capturedAt : T
  version : String := schemaVersion
  deviceId : Option String := none
  status : Option String := none

structure MACTableSnapshot where
  macAddress : String
  deviceId : String
  interfaceName : String
  capturedAt : T
  version : String := schemaVersion
  vlanId : Option Int := none
  lastSeen : Option T := none

structure NeighborSnapshot where
  localDeviceId : String
  localInterface : String
  remoteDeviceId : String
  remoteInterface : Option String := none
  protocol : Option String := none
  capturedAt : T
  version : String := schemaVersion

structure PowerSnapshot where
  deviceId : String
  source : String
  capturedAt : T
  version : String := schemaVersion
  status : Option String := none
  availableWatts : Option F := none
  consumedWatts : Option F := none
  poeEnabled : Option Bool := none

structure DeviceSnapshot where
  deviceId : String
  name : String
  capturedAt : T
  version : String := schemaVersion
  manufacturer : Option String := none
  model : Option String := none
  serialNumber : Option String := none
  productId : Option String := none
  managementIp : Option String := none
  baseMac : Option String := none
  softwareVersion : Option String := none
  uptime : Option String := none
  hardwareRevision : Option String := none
  platform : Option String := none
  stackMembers : List String := []
  interfaces : List (InterfaceSnapshot T) := []
  vlans : List (VLANSnapshot T) := []
  macTable : List (MACTableSnapshot T) := []
  neighbors : List (NeighborSnapshot T) := []
  power : Option (PowerSnapshot T F) := none

structure InventorySnapshot where
  devices : List (DeviceSnapshot T F) := []
  snapshotId : Nat
  capturedAt : T
  version : String := schemaVersion
  source : Option String := none

end Entities
end Snapshot
end NetOps
