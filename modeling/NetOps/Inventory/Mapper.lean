import NetOps.Inventory.Entities

/-!
# Inventory.Mapper

From the payloads of NetBox (`integrations/netbox/models.py`) to canonical inventory
(`integrations/netbox/mapper.py`, `inventory/mapper.py`), for the collections the comparison reads:
devices, interfaces and VLANs.
-/

namespace NetOps

/-! ## Payloads -/

structure NetBoxChoice where
  value : String
  label : String

structure NetBoxObjectReference where
  id : Int
  name : Option String := none
  slug : Option String := none
  display : Option String := none

structure NetBoxIPAddressReference where
  id : Int
  address : String

structure NetBoxDeviceTypeReference where
  id : Int
  model : String
  slug : Option String := none
  manufacturer : Option NetBoxObjectReference := none

structure NetBoxDevice where
  id : Int
  name : String
  deviceType : NetBoxDeviceTypeReference
  site : Option NetBoxObjectReference := none
  rack : Option NetBoxObjectReference := none
  role : Option NetBoxObjectReference := none
  platform : Option NetBoxObjectReference := none
  serial : Option String := none
  status : Option NetBoxChoice := none
  primaryIp4 : Option NetBoxIPAddressReference := none
  primaryIp6 : Option NetBoxIPAddressReference := none

structure NetBoxInterface where
  id : Int
  name : String
  device : NetBoxObjectReference
  type : Option String := none
  enabled : Bool := true
  macAddress : Option String := none
  description : Option String := none

structure NetBoxVLAN where
  id : Int
  vid : Int
  name : String
  site : Option NetBoxObjectReference := none
  status : Option NetBoxChoice := none
  role : Option NetBoxObjectReference := none

structure NetBoxInventoryDataset where
  devices : List NetBoxDevice := []
  interfaces : List NetBoxInterface := []
  vlans : List NetBoxVLAN := []

/-! ## Mapping -/

/-- `a or b or … or other`. -/
def firstGiven (values : List (Option String)) (other : String) : String :=
  (values.reduceOption.find? (· ≠ "")).getD other

/-- `_reference_name` of a reference. -/
def referenceName (reference : NetBoxObjectReference) : String :=
  firstGiven [reference.name, reference.slug] (toString reference.id)

namespace NetBoxInventoryMapper

open Inventory (Manufacturer DeviceType Platform Role Interface VLAN Device)

def interface (payload : NetBoxInterface) : Interface where
  name := payload.name
  deviceName := referenceName payload.device
  type := payload.type
  enabled := payload.enabled
  macAddress := payload.macAddress
  description := payload.description

def vlan (payload : NetBoxVLAN) : VLAN where
  vid := payload.vid
  name := payload.name
  siteName := payload.site.map referenceName
  status := payload.status.map (·.value)
  role := payload.role.map referenceName

/-- The manufacturer of a device, from its device type. -/
def manufacturer (payload : NetBoxDeviceTypeReference) : Manufacturer :=
  match payload.manufacturer with
  | none => { name := payload.model, slug := firstGiven [payload.slug] payload.model }
  | some m =>
    { name := firstGiven [m.name, m.display] payload.model
      slug := firstGiven [m.slug, m.name, m.display] payload.model }

def role (payload : NetBoxObjectReference) : Role where
  name := referenceName payload
  slug := firstGiven [payload.slug, some (referenceName payload)] ""

def platform (payload : NetBoxObjectReference) : Platform where
  name := firstGiven [payload.name, some (referenceName payload)] ""
  slug := firstGiven [payload.slug, some (referenceName payload)] ""

/-- The canonical device. Its interfaces are not set. -/
def device (payload : NetBoxDevice) : Device where
  name := payload.name
  siteName := payload.site.map referenceName
  rackName := payload.rack.map referenceName
  deviceType :=
    { manufacturer := manufacturer payload.deviceType
      model := payload.deviceType.model
      slug := firstGiven [payload.deviceType.slug] payload.deviceType.model }
  role := payload.role.map role
  platform := payload.platform.map platform
  serial := payload.serial
  status := payload.status.map (·.value)
  primaryIp := match payload.primaryIp4 with
    | some ip => some ip.address
    | none => payload.primaryIp6.map (·.address)

end NetBoxInventoryMapper

/-- `InventoryMapper.to_snapshot`. -/
def InventoryMapper.toSnapshot (dataset : NetBoxInventoryDataset) :
    Inventory.InventorySnapshot where
  devices := dataset.devices.map NetBoxInventoryMapper.device
  interfaces := dataset.interfaces.map NetBoxInventoryMapper.interface
  vlans := dataset.vlans.map NetBoxInventoryMapper.vlan

namespace SnapshotRepository

/-- `add_netbox_snapshot`: the interfaces of each device, grouped by their device's name. -/
def interfacesOf (snapshot : Inventory.InventorySnapshot) (device : Inventory.Device) :
    List Inventory.Interface :=
  snapshot.interfaces.filter fun i => i.deviceName ≠ "" ∧ i.deviceName = device.name

end SnapshotRepository
end NetOps
