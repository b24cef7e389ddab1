import NetOps.Clock.Stamps
import NetOps.Discovery.Uuids
import NetOps.Json.Text
import NetOps.Snapshot.Entities

/-!
# Snapshot.Models

The models of a live inventory snapshot (`snapshot/models.py`), their validation and their dumps,
the dicts of the entities (`dataclasses.asdict`) and the mapper between the two
(`snapshot/mapper.py`).

Validation is `pydantic`'s: a field takes a value of its own type, a datetime or an id also its
text, and no model takes a key it has no field for. What becomes of a value of another type is a
parameter (`Lax`).
-/

namespace NetOps
namespace Snapshot
namespace Models

open Clock Entities
open Discovery (UUID textOfUuid uuidOfText)
open Json (Scalar Doc)

/-- What stands at the leaves of a dict of Python values. -/
inductive Atom (F : Type) where
  | json (a : Scalar F)
  | datetime (t : Stamp)
  | uuid (id : UUID)

abbrev Value (F : Type) : Type := Doc (Atom F)

abbrev Members (F : Type) : Type := List (String × Value F)

variable {F α : Type}

/-! ## Values -/

def null : Value F := .leaf (.json .null)

def str (s : String) : Value F := .leaf (.json (.str s))

def int (n : Int) : Value F := .leaf (.json (.int n))

def float (x : F) : Value F := .leaf (.json (.float x))

def bool (b : Bool) : Value F := .leaf (.json (.bool b))

def datetime (t : Stamp) : Value F := .leaf (.datetime t)

def uuid (id : UUID) : Value F := .leaf (.uuid id)

def optional (write : α → Value F) : Option α → Value F
  | none => null
  | some a => write a

def tuple (write : α → Value F) (items : List α) : Value F := .arr (items.map write)

/-! ## Validation of fields -/

/-- What `pydantic` makes of a value that is not of the type of its field. -/
structure Lax (F : Type) where
  str : Value F → Option String
  int : Value F → Option Int
  float : Value F → Option F
  bool : Value F → Option Bool
  datetime : Value F → Option Stamp
  uuid : Value F → Option UUID
  items : Value F → Option (List (Value F))
  members : Value F → Option (Members F)

namespace Lax

variable (lax : Lax F)

def readStr : Value F → Option String
  | .leaf (.json (.str s)) => some s
  | v => lax.str v

def readInt : Value F → Option Int
  | .leaf (.json (.int n)) => some n
  | v => lax.int v

def readFloat : Value F → Option F
  | .leaf (.json (.float x)) => some x
  | v => lax.float v

def readBool : Value F → Option Bool
  | .leaf (.json (.bool b)) => some b
  | v => lax.bool v

def readDatetime : Value F → Option Stamp
  | .leaf (.datetime t) => some t
  | .leaf (.json (.str s)) =>
    (Stamp.ofText s.toList).or (lax.datetime (.leaf (.json (.str s))))
  | v => lax.datetime v

def readUuid : Value F → Option UUID
  | .leaf (.uuid id) => some id
  | .leaf (.json (.str s)) => (uuidOfText s).or (lax.uuid (.leaf (.json (.str s))))
  | v => lax.uuid v

def readOptional (read : Value F → Option α) : Value F → Option (Option α)
  | .leaf (.json .null) => some none
  | v => (read v).map some

def readTuple (read : Value F → Option α) : Value F → Option (List α)
  | .arr items => items.mapM read
  | v => (lax.items v).bind fun items => items.mapM read

/-- The members of a model's value, when each is of one of the model's fields
(`extra="forbid"`). -/
def readMembers (keys : List String) (v : Value F) : Option (Members F) :=
  (match v with
    | .obj members => some members
    | v => lax.members v).filter fun members => members.all fun member => keys.contains member.1

end Lax

/-- A field without a default. -/
def required (read : Value F → Option α) (key : String) (members : Members F) : Option α :=
  (Doc.get? key members).bind read

/-- A field with a default. -/
def defaulted (read : Value F → Option α) (key : String) (default : α) (members : Members F) :
    Option α :=
  match Doc.get? key members with
  | none => some default
  | some v => read v

/-! ## Interfaces -/

structure InterfaceSnapshotModel where
  deviceId : String
  name : String
  capturedAt : Stamp
  version : String := schemaVersion
  adminStatus : Option String := none
  operStatus : Option String := none
  description : Option String := none
  macAddress : Option String := none
  speedMbps : Option Int := none
  poeStatus : Option String := none

namespace InterfaceSnapshotModel

def keys : List String :=
  ["device_id", "name", "captured_at", "version", "admin_status", "oper_status", "description",
  "mac_address", "speed_mbps", "poe_status"]

def validate (lax : Lax F) (v : Value F) : Option InterfaceSnapshotModel := do
  let members ← lax.readMembers keys v
  let deviceId ← required lax.readStr "device_id" members
  let name ← required lax.readStr "name" members
  let capturedAt ← required lax.readDatetime "captured_at" members
  let version ← defaulted lax.readStr "version" schemaVersion members
  let adminStatus ← defaulted (Lax.readOptional lax.readStr) "admin_status" none members
  let operStatus ← defaulted (Lax.readOptional lax.readStr) "oper_status" none members
  let description ← defaulted (Lax.readOptional lax.readStr) "description" none members
  let macAddress ← defaulted (Lax.readOptional lax.readStr) "mac_address" none members
  let speedMbps ← defaulted (Lax.readOptional lax.readInt) "speed_mbps" none members
  let poeStatus ← defaulted (Lax.readOptional lax.readStr) "poe_status" none members
  return { deviceId, name, capturedAt, version, adminStatus, operStatus, description, macAddress,
           speedMbps, poeStatus }

def dump (m : InterfaceSnapshotModel) : Value F :=
  .obj [("device_id", str m.deviceId), ("name", str m.name), ("captured_at", datetime m.capturedAt),
    ("version", str m.version), ("admin_status", optional str m.adminStatus),
    ("oper_status", optional str m.operStatus), ("description", optional str m.description),
    ("mac_address", optional str m.macAddress), ("speed_mbps", optional int m.speedMbps),
    ("poe_status", optional str m.poeStatus)]

end InterfaceSnapshotModel

/-- `asdict(snapshot)`. -/
def InterfaceSnapshot.asdict (s : Entities.InterfaceSnapshot Stamp) : Value F :=
  .obj [("device_id", str s.deviceId), ("name", str s.name), ("captured_at", datetime s.capturedAt),
    ("version", str s.version), ("admin_status", optional str s.adminStatus),
    ("oper_status", optional str s.operStatus), ("description", optional str s.description),
    ("mac_address", optional str s.macAddress), ("speed_mbps", optional int s.speedMbps),
    ("poe_status", optional str s.poeStatus)]

/-! ## VLANs -/

structure VLANSnapshotModel where
  vlanId : Int
  name : String
  capturedAt : Stamp
  version : String := schemaVersion
  deviceId : Option String := none
  status : Option String := none

namespace VLANSnapshotModel

def keys : List String :=
  ["vlan_id", "name", "captured_at", "version", "device_id", "status"]

def validate (lax : Lax F) (v : Value F) : Option VLANSnapshotModel := do
  let members ← lax.readMembers keys v
  let vlanId ← required lax.readInt "vlan_id" members
  let name ← required lax.readStr "name" members
  let capturedAt ← required lax.readDatetime "captured_at" members
  let version ← defaulted lax.readStr "version" schemaVersion members
  let deviceId ← defaulted (Lax.readOptional lax.readStr) "device_id" none members
  let status ← defaulted (Lax.readOptional lax.readStr) "status" none members
  return { vlanId, name, capturedAt, version, deviceId, status }

def dump (m : VLANSnapshotModel) : Value F :=
  .obj [("vlan_id", int m.vlanId), ("name", str m.name), ("captured_at", datetime m.capturedAt),
    ("version", str m.version), ("device_id", optional str m.deviceId),
    ("status", optional str m.status)]

end VLANSnapshotModel

def VLANSnapshot.asdict (s : Entities.VLANSnapshot Stamp) : Value F :=
  .obj [("vlan_id", int s.vlanId), ("name", str s.name), ("captured_at", datetime s.capturedAt),
    ("version", str s.version), ("device_id", optional str s.deviceId),
    ("status", optional str s.status)]

/-! ## MAC tables -/

structure MACTableSnapshotModel where
  macAddress : String
  deviceId : String
  interfaceName : String
  capturedAt : Stamp
  version : String := schemaVersion
  vlanId : Option Int := none
  lastSeen : Option Stamp := none

namespace MACTableSnapshotModel

def keys : List String :=
  ["mac_address", "device_id", "interface_name", "captured_at", "version", "vlan_id", "last_seen"]

def validate (lax : Lax F) (v : Value F) : Option MACTableSnapshotModel := do
  let members ← lax.readMembers keys v
  let macAddress ← required lax.readStr "mac_address" members
  let deviceId ← required lax.readStr "device_id" members
  let interfaceName ← required lax.readStr "interface_name" members
  let capturedAt ← required lax.readDatetime "captured_at" members
  let version ← defaulted lax.readStr "version" schemaVersion members
  let vlanId ← defaulted (Lax.readOptional lax.readInt) "vlan_id" none members
  let lastSeen ← defaulted (Lax.readOptional lax.readDatetime) "last_seen" none members
  return { macAddress, deviceId, interfaceName, capturedAt, version, vlanId, lastSeen }

def dump (m : MACTableSnapshotModel) : Value F :=
  .obj [("mac_address", str m.macAddress), ("device_id", str m.deviceId),
    ("interface_name", str m.interfaceName), ("captured_at", datetime m.capturedAt),
    ("version", str m.version), ("vlan_id", optional int m.vlanId),
    ("last_seen", optional datetime m.lastSeen)]

end MACTableSnapshotModel

def MACTableSnapshot.asdict (s : Entities.MACTableSnapshot Stamp) : Value F :=
  .obj [("mac_address", str s.macAddress), ("device_id", str s.deviceId),
    ("interface_name", str s.interfaceName), ("captured_at", datetime s.capturedAt),
    ("version", str s.version), ("vlan_id", optional int s.vlanId),
    ("last_seen", optional datetime s.lastSeen)]

/-! ## Neighbors -/

structure NeighborSnapshotModel where
  localDeviceId : String
  localInterface : String
  remoteDeviceId : String
  remoteInterface : Option String := none
  protocol : Option String := none
  capturedAt : Stamp
  version : String := schemaVersion

namespace NeighborSnapshotModel

def keys : List String :=
  ["local_device_id", "local_interface", "remote_device_id", "remote_interface", "protocol",
  "captured_at", "version"]

def validate (lax : Lax F) (v : Value F) : Option NeighborSnapshotModel := do
  let members ← lax.readMembers keys v
  let localDeviceId ← required lax.readStr "local_device_id" members
  let localInterface ← required lax.readStr "local_interface" members
  let remoteDeviceId ← required lax.readStr "remote_device_id" members
  let remoteInterface ← defaulted (Lax.readOptional lax.readStr) "remote_interface" none members
  let protocol ← defaulted (Lax.readOptional lax.readStr) "protocol" none members
  let capturedAt ← required lax.readDatetime "captured_at" members
  let version ← defaulted lax.readStr "version" schemaVersion members
  return { localDeviceId, localInterface, remoteDeviceId, remoteInterface, protocol, capturedAt,
           version }

def dump (m : NeighborSnapshotModel) : Value F :=
  .obj [("local_device_id", str m.localDeviceId), ("local_interface", str m.localInterface),
    ("remote_device_id", str m.remoteDeviceId),
    ("remote_interface", optional str m.remoteInterface), ("protocol", optional str m.protocol),
    ("captured_at", datetime m.capturedAt), ("version", str m.version)]

end NeighborSnapshotModel

def NeighborSnapshot.asdict (s : Entities.NeighborSnapshot Stamp) : Value F :=
  .obj [("local_device_id", str s.localDeviceId), ("local_interface", str s.localInterface),
    ("remote_device_id", str s.remoteDeviceId),
    ("remote_interface", optional str s.remoteInterface), ("protocol", optional str s.protocol),
    ("captured_at", datetime s.capturedAt), ("version", str s.version)]

/-! ## Power -/

structure PowerSnapshotModel (F : Type) where
  deviceId : String
  source : String
  capturedAt : Stamp
  version : String := schemaVersion
  status : Option String := none
  availableWatts : Option F := none
  consumedWatts : Option F := none
  poeEnabled : Option Bool := none

namespace PowerSnapshotModel

def keys : List String :=
  ["device_id", "source", "captured_at", "version", "status", "available_watts", "consumed_watts",
  "poe_enabled"]

def validate (lax : Lax F) (v : Value F) : Option (PowerSnapshotModel F) := do
  let members ← lax.readMembers keys v
  let deviceId ← required lax.readStr "device_id" members
  let source ← required lax.readStr "source" members
  let capturedAt ← required lax.readDatetime "captured_at" members
  let version ← defaulted lax.readStr "version" schemaVersion members
  let status ← defaulted (Lax.readOptional lax.readStr) "status" none members
  let availableWatts ← defaulted (Lax.readOptional lax.readFloat) "available_watts" none members
  let consumedWatts ← defaulted (Lax.readOptional lax.readFloat) "consumed_watts" none members
  let poeEnabled ← defaulted (Lax.readOptional lax.readBool) "poe_enabled" none members
  return { deviceId, source, capturedAt, version, status, availableWatts, consumedWatts,
           poeEnabled }

def dump (m : PowerSnapshotModel F) : Value F :=
  .obj [("device_id", str m.deviceId), ("source", str m.source),
    ("captured_at", datetime m.capturedAt), ("version", str m.version),
    ("status", optional str m.status), ("available_watts", optional float m.availableWatts),
    ("consumed_watts", optional float m.consumedWatts),
    ("poe_enabled", optional bool m.poeEnabled)]

end PowerSnapshotModel

def PowerSnapshot.asdict (s : Entities.PowerSnapshot Stamp F) : Value F :=
  .obj [("device_id", str s.deviceId), ("source", str s.source),
    ("captured_at", datetime s.capturedAt), ("version", str s.version),
    ("status", optional str s.status), ("available_watts", optional float s.availableWatts),
    ("consumed_watts", optional float s.consumedWatts),
    ("poe_enabled", optional bool s.poeEnabled)]

/-! ## Devices -/

structure DeviceSnapshotModel (F : Type) where
  deviceId : String
  name : String
  capturedAt : Stamp
  version : String := schemaVersion
  manufacturer : Option String := none
  model : Option String := none
  serialNumber : Option String := none
  productId : Option String := none
  managementIp : Option String := none
  baseMac : Option String := none
  softwareVersion : Option String := none
  uptime : Option String := none
  hardwareRevision : Option String := none
  platform : Option String := none
  stackMembers : List String := []
  interfaces : List InterfaceSnapshotModel := []
  vlans : List VLANSnapshotModel := []
  macTable : List MACTableSnapshotModel := []
  neighbors : List NeighborSnapshotModel := []
  power : Option (PowerSnapshotModel F) := none

namespace DeviceSnapshotModel

def keys : List String :=
  ["device_id", "name", "captured_at", "version", "manufacturer", "model", "serial_number",
  "product_id", "management_ip", "base_mac", "software_version", "uptime", "hardware_revision",
  "platform", "stack_members", "interfaces", "vlans", "mac_table", "neighbors", "power"]

def validate (lax : Lax F) (v : Value F) : Option (DeviceSnapshotModel F) := do
  let members ← lax.readMembers keys v
  let deviceId ← required lax.readStr "device_id" members
  let name ← required lax.readStr "name" members
  let capturedAt ← required lax.readDatetime "captured_at" members
  let version ← defaulted lax.readStr "version" schemaVersion members
  let manufacturer ← defaulted (Lax.readOptional lax.readStr) "manufacturer" none members
  let model ← defaulted (Lax.readOptional lax.readStr) "model" none members
  let serialNumber ← defaulted (Lax.readOptional lax.readStr) "serial_number" none members
  let productId ← defaulted (Lax.readOptional lax.readStr) "product_id" none members
  let managementIp ← defaulted (Lax.readOptional lax.readStr) "management_ip" none members
  let baseMac ← defaulted (Lax.readOptional lax.readStr) "base_mac" none members
  let softwareVersion ← defaulted (Lax.readOptional lax.readStr) "software_version" none members
  let uptime ← defaulted (Lax.readOptional lax.readStr) "uptime" none members
  let hardwareRevision ← defaulted (Lax.readOptional lax.readStr) "hardware_revision" none members
  let platform ← defaulted (Lax.readOptional lax.readStr) "platform" none members
  let stackMembers ← defaulted (lax.readTuple lax.readStr) "stack_members" [] members
  let interfaces ← defaulted (lax.readTuple (InterfaceSnapshotModel.validate lax))
    "interfaces" [] members
  let vlans ← defaulted (lax.readTuple (VLANSnapshotModel.validate lax)) "vlans" [] members
  let macTable ← defaulted (lax.readTuple (MACTableSnapshotModel.validate lax))
    "mac_table" [] members
  let neighbors ← defaulted (lax.readTuple (NeighborSnapshotModel.validate lax))
    "neighbors" [] members
  let power ← defaulted (Lax.readOptional (PowerSnapshotModel.validate lax)) "power" none members
  return { deviceId, name, capturedAt, version, manufacturer, model, serialNumber, productId,
           managementIp, baseMac, softwareVersion, uptime, hardwareRevision, platform,
           stackMembers, interfaces, vlans, macTable, neighbors, power }

def dump (m : DeviceSnapshotModel F) : Value F :=
  .obj [("device_id", str m.deviceId), ("name", str m.name), ("captured_at", datetime m.capturedAt),
    ("version", str m.version), ("manufacturer", optional str m.manufacturer),
    ("model", optional str m.model), ("serial_number", optional str m.serialNumber),
    ("product_id", optional str m.productId), ("management_ip", optional str m.managementIp),
    ("base_mac", optional str m.baseMac), ("software_version", optional str m.softwareVersion),
    ("uptime", optional str m.uptime), ("hardware_revision", optional str m.hardwareRevision),
    ("platform", optional str m.platform), ("stack_members", tuple str m.stackMembers),
    ("interfaces", tuple InterfaceSnapshotModel.dump m.interfaces),
    ("vlans", tuple VLANSnapshotModel.dump m.vlans),
    ("mac_table", tuple MACTableSnapshotModel.dump m.macTable),
    ("neighbors", tuple NeighborSnapshotModel.dump m.neighbors),
    ("power", optional PowerSnapshotModel.dump m.power)]

end DeviceSnapshotModel

def DeviceSnapshot.asdict (s : Entities.DeviceSnapshot Stamp F) : Value F :=
  .obj [("device_id", str s.deviceId), ("name", str s.name), ("captured_at", datetime s.capturedAt),
    ("version", str s.version), ("manufacturer", optional str s.manufacturer),
    ("model", optional str s.model), ("serial_number", optional str s.serialNumber),
    ("product_id", optional str s.productId), ("management_ip", optional str s.managementIp),
    ("base_mac", optional str s.baseMac), ("software_version", optional str s.softwareVersion),
    ("uptime", optional str s.uptime), ("hardware_revision", optional str s.hardwareRevision),
    ("platform", optional str s.platform), ("stack_members", tuple str s.stackMembers),
    ("interfaces", tuple InterfaceSnapshot.asdict s.interfaces),
    ("vlans", tuple VLANSnapshot.asdict s.vlans),
    ("mac_table", tuple MACTableSnapshot.asdict s.macTable),
    ("neighbors", tuple NeighborSnapshot.asdict s.neighbors),
    ("power", optional PowerSnapshot.asdict s.power)]

/-! ## Inventories -/

structure InventorySnapshotModel (F : Type) where
  devices : List (DeviceSnapshotModel F) := []
  snapshotId : UUID
  capturedAt : Stamp
  version : String := schemaVersion
  source : Option String := none

namespace InventorySnapshotModel

def keys : List String :=
  ["devices", "snapshot_id", "captured_at", "version", "source"]

/-- `fresh` is the id that `uuid4` makes where there is none. -/
def validate (lax : Lax F) (fresh : UUID) (v : Value F) : Option (InventorySnapshotModel F) := do
  let members ← lax.readMembers keys v
  let devices ← defaulted (lax.readTuple (DeviceSnapshotModel.validate lax)) "devices" [] members
  let snapshotId ← defaulted lax.readUuid "snapshot_id" fresh members
  let capturedAt ← required lax.readDatetime "captured_at" members
  let version ← defaulted lax.readStr "version" schemaVersion members
  let source ← defaulted (Lax.readOptional lax.readStr) "source" none members
  return { devices, snapshotId, capturedAt, version, source }

def dump (m : InventorySnapshotModel F) : Value F :=
  .obj [("devices", tuple DeviceSnapshotModel.dump m.devices), ("snapshot_id", uuid m.snapshotId),
    ("captured_at", datetime m.capturedAt), ("version", str m.version),
    ("source", optional str m.source)]

end InventorySnapshotModel

def InventorySnapshot.asdict (s : Entities.InventorySnapshot Stamp F) : Value F :=
  .obj [("devices", tuple DeviceSnapshot.asdict s.devices), ("snapshot_id", uuid s.snapshotId),
    ("captured_at", datetime s.capturedAt), ("version", str s.version),
    ("source", optional str s.source)]

/-! ## The mapper -/

namespace SnapshotMapper

/-- `to_model`. -/
def toModel (lax : Lax F) (fresh : UUID) (s : Entities.InventorySnapshot Stamp F) :
    Option (InventorySnapshotModel F) :=
  InventorySnapshotModel.validate lax fresh (InventorySnapshot.asdict s)

/-- The entities of the parts of a device, as `_device_entity` makes them. -/
def interfaceEntity (m : InterfaceSnapshotModel) : Entities.InterfaceSnapshot Stamp where
  deviceId := m.deviceId
  name := m.name
  capturedAt := m.capturedAt
  version := m.version
  adminStatus := m.adminStatus
  operStatus := m.operStatus
  description := m.description
  macAddress := m.macAddress
  speedMbps := m.speedMbps
  poeStatus := m.poeStatus

def vlanEntity (m : VLANSnapshotModel) : Entities.VLANSnapshot Stamp where
  vlanId := m.vlanId
  name := m.name
  capturedAt := m.capturedAt
  version := m.version
  deviceId := m.deviceId
  status := m.status

def macTableEntity (m : MACTableSnapshotModel) : Entities.MACTableSnapshot Stamp where
  macAddress := m.macAddress
  deviceId := m.deviceId
  interfaceName := m.interfaceName
  capturedAt := m.capturedAt
  version := m.version
  vlanId := m.vlanId
  lastSeen := m.lastSeen

def neighborEntity (m : NeighborSnapshotModel) : Entities.NeighborSnapshot Stamp where
  localDeviceId := m.localDeviceId
  localInterface := m.localInterface
  remoteDeviceId := m.remoteDeviceId
  remoteInterface := m.remoteInterface
  protocol := m.protocol
  capturedAt := m.capturedAt
  version := m.version

def powerEntity (m : PowerSnapshotModel F) : Entities.PowerSnapshot Stamp F where
  deviceId := m.deviceId
  source := m.source
  capturedAt := m.capturedAt
  version := m.version
  status := m.status
  availableWatts := m.availableWatts
  consumedWatts := m.consumedWatts
  poeEnabled := m.poeEnabled

/-- `_device_entity`. -/
def deviceEntity (m : DeviceSnapshotModel F) : Entities.DeviceSnapshot Stamp F where
  deviceId := m.deviceId
  name := m.name
  capturedAt := m.capturedAt
  version := m.version
  manufacturer := m.manufacturer
  model := m.model
  serialNumber := m.serialNumber
  productId := m.productId
  managementIp := m.managementIp
  baseMac := m.baseMac
  softwareVersion := m.softwareVersion
  uptime := m.uptime
  hardwareRevision := m.hardwareRevision
  platform := m.platform
  stackMembers := m.stackMembers
  interfaces := m.interfaces.map interfaceEntity
  vlans := m.vlans.map vlanEntity
  macTable := m.macTable.map macTableEntity
  neighbors := m.neighbors.map neighborEntity
  power := m.power.map powerEntity

/-- `to_entity`. -/
def toEntity (m : InventorySnapshotModel F) : Entities.InventorySnapshot Stamp F where
  devices := m.devices.map deviceEntity
  snapshotId := m.snapshotId
  capturedAt := m.capturedAt
  version := m.version
  source := m.source

end SnapshotMapper

end Models
end Snapshot
end NetOps
