import Mathlib.Init

/-!
# Inventory.Entities

The two forms of an inventory: the canonical objects of NetBox (`inventory/entities.py` and
`inventory/dto.py`), and what a live snapshot has of its devices (`snapshot/entities.py`), as far
as the comparison of the two reads them.
-/

namespace NetOps

/-! ## Canonical objects -/

namespace Inventory

structure Manufacturer where
  name : String
  slug : String
  deriving DecidableEq

structure DeviceType where
  manufacturer : Manufacturer
  model : String
  slug : String
  deriving DecidableEq

structure Platform where
  name : String
  slug : String
  deriving DecidableEq

structure Role where
  name : String
  slug : String
  deriving DecidableEq

structure Interface where
  name : String
  deviceName : String
  type : Option String := none
  enabled : Bool := true
  macAddress : Option String := none
  description : Option String := none
  deriving DecidableEq

structure VLAN where
  vid : Int
  name : String
  siteName : Option String := none
  status : Option String := none
  role : Option String := none
  deriving DecidableEq

structure Device where
  name : String
  siteName : Option String := none
  rackName : Option String := none
  deviceType : DeviceType
  role : Option Role := none
  platform : Option Platform := none
  serial : Option String := none
  status : Option String := none
  primaryIp : Option String := none
  interfaces : List Interface := []
  deriving DecidableEq

structure InventorySnapshot where
  devices : List Device := []
  interfaces : List Interface := []
  vlans : List VLAN := []

end Inventory

/-! ## Live snapshots -/

namespace Snapshot

structure InterfaceSnapshot where
  name : String
  adminStatus : Option String := none
  description : Option String := none
  macAddress : Option String := none
  deriving DecidableEq

structure VLANSnapshot where
  vlanId : Int
  name : String
  status : Option String := none
  deriving DecidableEq

structure NeighborSnapshot where
  localInterface : String
  remoteDeviceId : String
  deriving DecidableEq

structure DeviceSnapshot where
  deviceId : String
  name : String
  model : Option String := none
  serialNumber : Option String := none
  managementIp : Option String := none
  platform : Option String := none
  interfaces : List InterfaceSnapshot := []
  vlans : List VLANSnapshot := []
  neighbors : List NeighborSnapshot := []
  deriving DecidableEq

structure InventorySnapshot where
  devices : List DeviceSnapshot := []

end Snapshot
end NetOps
