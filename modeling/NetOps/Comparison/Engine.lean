import Mathlib.Data.List.Sort
import NetOps.Comparison.Differences
import NetOps.Inventory.Entities

/-!
# Comparison.Engine

The comparison of NetBox inventory with a live snapshot (`comparison/matcher.py`,
`comparison/comparator.py`, `comparison/engine.py`). Names are compared after `strip` and
`casefold`; the latter is a parameter, since nothing but its being a function is used.
-/

namespace NetOps
namespace Comparison

open Inventory (Device Interface VLAN)
open Snapshot (DeviceSnapshot InterfaceSnapshot VLANSnapshot NeighborSnapshot)

variable (casefold : String → String)

/-- `_normalize`. -/
def normalize (value : String) : String := casefold (Text.strip value)

/-- `_normalize` of a value that may be `None`. -/
def normalizeOption (value : Option String) : String := (value.map (normalize casefold)).getD ""

/-! ## Matching -/

structure InventoryMatch where
  matchedDevices : List (Device × DeviceSnapshot)
  missingDevices : List Device
  unexpectedDevices : List DeviceSnapshot
  duplicateNetboxDeviceNames : List String
  duplicateLiveDeviceNames : List String

namespace InventoryMatcher

/-- `_live_by_name`. -/
def liveByName (devices : List DeviceSnapshot) : Dict String DeviceSnapshot :=
  Dict.byKey (fun d => normalize casefold d.name) devices

/-- `_live_by_serial`. -/
def liveBySerial (devices : List DeviceSnapshot) (serial : String) : Option DeviceSnapshot :=
  devices.find? fun d => normalizeOption casefold d.serialNumber = normalize casefold serial

/-- The live device of a NetBox device. -/
def findLive (devices : List DeviceSnapshot) (device : Device) : Option DeviceSnapshot :=
  match (liveByName casefold devices).get? (normalize casefold device.name) with
  | some live => some live
  | none =>
    match device.serial with
    | none => none
    | some serial => if serial = "" then none else liveBySerial casefold devices serial

/-- The loop of `_duplicates`. -/
def duplicatesFrom (seen duplicates : List String) : List String → List String
  | [] => duplicates
  | value :: values =>
    if value = "" then duplicatesFrom seen duplicates values
    else duplicatesFrom (value :: seen)
      (if value ∈ seen then duplicates.insert value else duplicates) values

/-- `_duplicates`. -/
def duplicates (values : List String) : List String :=
  (duplicatesFrom [] [] values).insertionSort (· ≤ ·)

/-- `match`. A live device stays unexpected while no device that was matched has its id. -/
def «match» (netbox : Inventory.InventorySnapshot) (live : Snapshot.InventorySnapshot) :
    InventoryMatch :=
  let matched := netbox.devices.filterMap fun device =>
    (findLive casefold live.devices device).map fun l => (device, l)
  { matchedDevices := matched
    missingDevices := netbox.devices.filter fun device =>
      (findLive casefold live.devices device).isNone
    unexpectedDevices := live.devices.filter fun d => matched.all fun m => m.2.deviceId ≠ d.deviceId
    duplicateNetboxDeviceNames := duplicates (netbox.devices.map fun d => normalize casefold d.name)
    duplicateLiveDeviceNames := duplicates (live.devices.map fun d => normalize casefold d.name) }

/-- The identity attribute by which two devices are one. -/
inductive IdentityMethod where
  | name
  | serial
  deriving DecidableEq

/-- Both values are given, and the same. -/
def agree (expected observed : Option String) : Bool :=
  match expected, observed with
  | some e, some o => e ≠ "" && o ≠ "" && normalize casefold e = normalize casefold o
  | _, _ => false

/-- `identity_match_method`. -/
def identityMatchMethod (expectedName expectedSerial observedName observedSerial : Option String) :
    Option IdentityMethod :=
  if agree casefold expectedName observedName then some .name
  else if agree casefold expectedSerial observedSerial then some .serial
  else none

/-- `identities_match`. -/
def identitiesMatch (expectedName expectedSerial observedName observedSerial : Option String) :
    Bool :=
  (identityMatchMethod casefold expectedName expectedSerial observedName observedSerial).isSome

end InventoryMatcher

/-! ## Comparators -/

namespace IdentityComparator

def netboxDuplicate (name : String) : Difference :=
  DifferenceBuilder.duplicate "device" name name
    s!"NetBox contains duplicate device identity {name}."

def liveDuplicate (name : String) : Difference :=
  DifferenceBuilder.duplicate "device" name name
    s!"Live snapshot contains duplicate device identity {name}."

def compare (m : InventoryMatch) : List Difference :=
  m.duplicateNetboxDeviceNames.map netboxDuplicate ++ m.duplicateLiveDeviceNames.map liveDuplicate

end IdentityComparator

namespace DeviceComparator

def missingDevice (device : Device) : Difference :=
  DifferenceBuilder.missing "device" device.name device.name
    s!"NetBox device {device.name} is missing live."

def unexpectedDevice (live : DeviceSnapshot) : Difference :=
  DifferenceBuilder.unexpected "device" live.name live.name
    s!"Live device {live.name} is not present in NetBox."

/-- `_append_modified`. -/
def modified (subjectId fieldName : String) (expected observed : Option String) :
    List Difference :=
  if normalizeOption casefold expected = "" || normalizeOption casefold observed = "" ||
      normalizeOption casefold expected = normalizeOption casefold observed then []
  else [DifferenceBuilder.modified "device" subjectId fieldName (.ofOption expected)
    (.ofOption observed)]

/-- `_compare_matched_device`. -/
def compareMatchedDevice (m : Device × DeviceSnapshot) : List Difference :=
  modified casefold m.1.name "serial" m.1.serial m.2.serialNumber ++
    modified casefold m.1.name "primary_ip" m.1.primaryIp m.2.managementIp ++
    modified casefold m.1.name "model" (some m.1.deviceType.model) m.2.model

def compare (m : InventoryMatch) : List Difference :=
  m.missingDevices.map missingDevice ++ m.unexpectedDevices.map unexpectedDevice ++
    m.matchedDevices.flatMap (compareMatchedDevice casefold)

end DeviceComparator

namespace PlatformComparator

/-- `_matches`. -/
def «matches» (expected observed : Option String) : Bool :=
  match expected, observed with
  | some expected, some observed =>
    Text.hasPart (normalize casefold expected) (normalize casefold observed)
  | _, _ => true

def comparePlatform (m : Device × DeviceSnapshot) : List Difference :=
  let expected := m.1.platform.map (·.name)
  if «matches» casefold expected m.2.platform then []
  else [DifferenceBuilder.modified "platform" m.1.name "platform" (.ofOption expected)
    (.ofOption m.2.platform)]

def compare (m : InventoryMatch) : List Difference :=
  m.matchedDevices.flatMap (comparePlatform casefold)

end PlatformComparator

namespace InterfaceComparator

/-- The interfaces of a NetBox device by name: of one name, the last. -/
def netboxInterfaces (device : Device) : Dict String Interface :=
  Dict.byKey (fun i => normalize casefold i.name) device.interfaces

def liveInterfaces (live : DeviceSnapshot) : Dict String InterfaceSnapshot :=
  Dict.byKey (fun i => normalize casefold i.name) live.interfaces

def missingInterface (device : Device) (interface : Interface) : Difference :=
  DifferenceBuilder.missing "interface" s!"{device.name}:{interface.name}" interface.name
    s!"NetBox interface {device.name}:{interface.name} is missing live."

def unexpectedInterface (device : Device) (interface : InterfaceSnapshot) : Difference :=
  DifferenceBuilder.unexpected "interface" s!"{device.name}:{interface.name}" interface.name
    s!"Live interface {interface.name} is not in NetBox."

/-- The text of an optional value; `""` counts as no value. -/
def given (value : Option String) : Option String := value.filter (· ≠ "")

/-- `_append_field`. -/
def field (subjectId fieldName : String) (expected observed : Option String) : List Difference :=
  match given expected, given observed with
  | some e, some o =>
    if normalize casefold e = normalize casefold o then []
    else [DifferenceBuilder.modified "interface" subjectId fieldName (.text e) (.text o)]
  | _, _ => []

/-- The administrative status of a live interface against the flag of NetBox. -/
def enabled (subjectId : String) (netbox : Interface) (live : InterfaceSnapshot) :
    List Difference :=
  match given live.adminStatus with
  | some status =>
    if status = (if netbox.enabled then "up" else "down") then []
    else [DifferenceBuilder.modified "interface" subjectId "enabled" (.flag netbox.enabled)
      (.text status)]
  | none => []

/-- `_compare_interface`. -/
def compareInterface (device : Device) (netbox : Interface) (live : InterfaceSnapshot) :
    List Difference :=
  let subjectId := s!"{device.name}:{netbox.name}"
  enabled subjectId netbox live ++
    field casefold subjectId "mac_address" netbox.macAddress live.macAddress ++
    field casefold subjectId "description" netbox.description live.description

/-- What the NetBox interface of a name says of the live one. -/
def compareEntry (m : Device × DeviceSnapshot) (e : String × Interface) : List Difference :=
  match (liveInterfaces casefold m.2).get? e.1 with
  | none => [missingInterface m.1 e.2]
  | some live => compareInterface casefold m.1 e.2 live

def compareDevice (m : Device × DeviceSnapshot) : List Difference :=
  (netboxInterfaces casefold m.1).items.flatMap (compareEntry casefold m) ++
    ((liveInterfaces casefold m.2).items.filter fun e =>
      ((netboxInterfaces casefold m.1).get? e.1).isNone).map fun e => unexpectedInterface m.1 e.2

def compare (m : InventoryMatch) : List Difference :=
  m.matchedDevices.flatMap (compareDevice casefold)

end InterfaceComparator

namespace VLANComparator

/-- The VLANs of NetBox by id: of one id, the last. -/
def netboxVlans (netbox : Inventory.InventorySnapshot) : Dict Int VLAN :=
  Dict.byKey (·.vid) netbox.vlans

/-- The VLANs of all live devices by id: of one id, the last. -/
def liveVlans (live : Snapshot.InventorySnapshot) : Dict Int VLANSnapshot :=
  Dict.byKey (·.vlanId) (live.devices.flatMap (·.vlans))

def missingVlan (vid : Int) (netbox : VLAN) : Difference :=
  DifferenceBuilder.missing "vlan" (toString vid) netbox.name s!"NetBox VLAN {vid} is missing live."

def unexpectedVlan (vid : Int) (live : VLANSnapshot) : Difference :=
  DifferenceBuilder.unexpected "vlan" (toString vid) live.name
    s!"Live VLAN {vid} is not present in NetBox."

/-- The status of a live VLAN against that of NetBox. -/
def status (netbox : VLAN) (live : VLANSnapshot) : List Difference :=
  match InterfaceComparator.given netbox.status, InterfaceComparator.given live.status with
  | some e, some o =>
    if normalize casefold e = normalize casefold o then []
    else [DifferenceBuilder.modified "vlan" (toString netbox.vid) "status" (.text e) (.text o)]
  | _, _ => []

/-- `_compare_vlan`. -/
def compareVlan (netbox : VLAN) (live : VLANSnapshot) : List Difference :=
  (if normalize casefold netbox.name = normalize casefold live.name then []
    else [DifferenceBuilder.modified "vlan" (toString netbox.vid) "name" (.text netbox.name)
      (.text live.name)]) ++ status casefold netbox live

/-- What the NetBox VLAN of an id says of the live one. -/
def compareEntry (live : Snapshot.InventorySnapshot) (e : Int × VLAN) : List Difference :=
  match (liveVlans live).get? e.1 with
  | none => [missingVlan e.1 e.2]
  | some v => compareVlan casefold e.2 v

def compare (netbox : Inventory.InventorySnapshot) (live : Snapshot.InventorySnapshot) :
    List Difference :=
  (netboxVlans netbox).items.flatMap (compareEntry casefold live) ++
    ((liveVlans live).items.filter fun e => ((netboxVlans netbox).get? e.1).isNone).map
      fun e => unexpectedVlan e.1 e.2

end VLANComparator

namespace NeighborComparator

/-- `_unsupported_neighbor`. -/
def unsupportedNeighbor (deviceName : String) (neighbor : NeighborSnapshot) : Difference :=
  DifferenceBuilder.unsupported "neighbor"
    s!"{deviceName}:{neighbor.localInterface}:{neighbor.remoteDeviceId}" neighbor.remoteDeviceId
    ("Live neighbor was observed, but canonical NetBox neighbor " ++
      "inventory is not modeled yet.")

def compare (live : Snapshot.InventorySnapshot) : List Difference :=
  live.devices.flatMap fun device => device.neighbors.map (unsupportedNeighbor device.name)

end NeighborComparator

/-! ## The engine -/

structure InventoryComparisonResult where
  differences : List Difference
  metrics : ComparisonMetrics

namespace ComparisonEngine

/-- What the comparators find, in the order the engine registers it. -/
def found (netbox : Inventory.InventorySnapshot) (live : Snapshot.InventorySnapshot) :
    List Difference :=
  let m := InventoryMatcher.«match» casefold netbox live
  IdentityComparator.compare m ++ DeviceComparator.compare casefold m ++
    InterfaceComparator.compare casefold m ++ VLANComparator.compare casefold netbox live ++
    NeighborComparator.compare live ++ PlatformComparator.compare casefold m

def compare (filter : Option DifferenceFilter) (netbox : Inventory.InventorySnapshot)
    (live : Snapshot.InventorySnapshot) : InventoryComparisonResult :=
  let differences := registered (found casefold netbox live)
  let differences := match filter with
    | some f => f.apply differences
    | none => differences
  { differences := differences
    metrics := ComparisonMetrics.fromDifferences differences }

end ComparisonEngine
end Comparison
end NetOps
