import NetOps.Collectors.CiscoInventory
import NetOps.Digits
import NetOps.Snapshot.Entities

/-!
# Normalization.Mapper

From parsed records to a snapshot (`normalization/mapper.py`, `normalization/validator.py`). The
records of a device are those that name it. The times at which the entities are made are a
parameter, as is Python's `float`. What stands here is made of values that have a text;
`Normalization.Loops` has what the mapper raises for others.
-/

namespace NetOps
namespace Normalization

open Discovery (Exn PyVal PyDict)
open Collectors.Cisco (ParsedRecord ParserResult)
open Snapshot.Entities

variable {T F : Type}

namespace NormalizationMapper

mutual

/-- Whether a value has a text: an `int` of too many digits has none, and no container with one
has. -/
def writable : PyVal → Bool
  | .int n => decide (n.natAbs < 10 ^ Digits.maxStrDigits)
  | .list items _ => allWritable items
  | .other _ text _ => text.isSome
  | _ => true

def allWritable : List PyVal → Bool
  | [] => true
  | value :: values => writable value && allWritable values

end

/-- `str(value)`. -/
@[irreducible] def str (value : PyVal) : Except Digits.IntError String :=
  if writable value then .ok value.text else .error .valueError

/-- `str(payload.get(key, default)).strip()`. -/
def textOr (default : String) (payload : PyDict) (key : String) : String :=
  Text.strip ((payload.get? key).getD (.str default)).text

/-- `_optional_text`. -/
def optionalText : PyVal → Option String
  | .none => none
  | value => if Text.strip value.text = "" then none else some (Text.strip value.text)

/-- `_optional_int`. -/
def optionalInt : PyVal → Option Int
  | .none => none
  | value => ((str value).bind fun text => Digits.int (Text.strip text)).toOption

/-- `_optional_float`. -/
def optionalFloat (float : String → Option F) : PyVal → Option F
  | .none => none
  | value => (str value).toOption.bind fun text => float (Text.strip text)

/-- `_optional_bool`. -/
def optionalBool : PyVal → Option Bool
  | .bool value => some value
  | .none => none
  | value =>
    let normalized := Text.lower (Text.strip value.text)
    if ["true", "yes", "enabled", "on", "1"].contains normalized then some true
    else if ["false", "no", "disabled", "off", "0"].contains normalized then some false
    else none

/-- `_stack_members`. -/
def stackMembers : PyVal → List String
  | .str value => if Text.strip value = "" then [] else [Text.strip value]
  | .list items _ => (items.map fun item => Text.strip item.text).filter (· ≠ "")
  | .other _ _ (some keys) => (keys.map fun key => Text.strip (key.getD "")).filter (· ≠ "")
  | _ => []

variable (float : String → Option F) (clock : ParsedRecord → T)

/-- The records of a kind that name a device under a key. -/
def recordsOf (records : List ParsedRecord) (kind key deviceId : String) : List ParsedRecord :=
  records.filter fun r => r.kind = kind && textOr "" r.payload key = deviceId

def interface (deviceId : String) (r : ParsedRecord) : Option (InterfaceSnapshot T) :=
  let name := textOr "" r.payload "name"
  if name = "" then none
  else some {
    deviceId := deviceId
    name := name
    capturedAt := clock r
    adminStatus := optionalText (r.payload.getD "admin_status")
    operStatus := optionalText (r.payload.getD "oper_status")
    description := optionalText (r.payload.getD "description")
    macAddress := optionalText (r.payload.getD "mac_address")
    speedMbps := optionalInt (r.payload.getD "speed_mbps")
    poeStatus := optionalText (r.payload.getD "poe_status") }

/-- `_interfaces`. -/
def interfaces (records : List ParsedRecord) (deviceId : String) : List (InterfaceSnapshot T) :=
  (recordsOf records "interface" "device_id" deviceId).filterMap (interface clock deviceId)

def vlan (deviceId : String) (r : ParsedRecord) : Option (VLANSnapshot T) :=
  let name := textOr "" r.payload "name"
  match optionalInt (r.payload.getD "vlan_id") with
  | some vlanId =>
    if name = "" then none
    else some {
      vlanId := vlanId
      name := name
      capturedAt := clock r
      deviceId := some deviceId
      status := optionalText (r.payload.getD "status") }
  | none => none

/-- `_vlans`. -/
def vlans (records : List ParsedRecord) (deviceId : String) : List (VLANSnapshot T) :=
  (recordsOf records "vlan" "device_id" deviceId).filterMap (vlan clock deviceId)

def neighbor (deviceId : String) (r : ParsedRecord) : Option (NeighborSnapshot T) :=
  let localInterface := textOr "" r.payload "local_interface"
  let remoteDeviceId := textOr "" r.payload "remote_device_id"
  if localInterface = "" || remoteDeviceId = "" then none
  else some {
    localDeviceId := deviceId
    localInterface := localInterface
    remoteDeviceId := remoteDeviceId
    remoteInterface := optionalText (r.payload.getD "remote_interface")
    protocol := optionalText (r.payload.getD "protocol")
    capturedAt := clock r }

/-- `_neighbors`. -/
def neighbors (records : List ParsedRecord) (deviceId : String) : List (NeighborSnapshot T) :=
  (recordsOf records "neighbor" "local_device_id" deviceId).filterMap (neighbor clock deviceId)

/-- `_power`: of the first record. -/
def power (records : List ParsedRecord) (deviceId : String) : Option (PowerSnapshot T F) :=
  (recordsOf records "power" "device_id" deviceId).head?.map fun r => {
    deviceId := deviceId
    source := Text.orElse (textOr "poe" r.payload "source") "poe"
    capturedAt := clock r
    status := optionalText (r.payload.getD "status")
    availableWatts := optionalFloat float (r.payload.getD "available_watts")
    consumedWatts := optionalFloat float (r.payload.getD "consumed_watts")
    poeEnabled := optionalBool (r.payload.getD "poe_enabled") }

/-- The device of a device record. -/
def device (records : List ParsedRecord) (r : ParsedRecord) : DeviceSnapshot T F :=
  let deviceId := textOr "" r.payload "device_id"
  { deviceId := deviceId
    name := textOr "" r.payload "name"
    capturedAt := clock r
    manufacturer := optionalText (r.payload.getD "manufacturer")
    model := optionalText (r.payload.getD "model")
    serialNumber := optionalText (r.payload.getD "serial_number")
    productId := optionalText (r.payload.getD "product_id")
    managementIp := optionalText (r.payload.getD "management_ip")
    baseMac := optionalText (r.payload.getD "base_mac")
    softwareVersion := optionalText (r.payload.getD "software_version")
    uptime := optionalText (r.payload.getD "uptime")
    hardwareRevision := optionalText (r.payload.getD "hardware_revision")
    platform := optionalText (r.payload.getD "platform")
    stackMembers := stackMembers (r.payload.getD "stack_members")
    interfaces := interfaces clock records deviceId
    vlans := vlans clock records deviceId
    neighbors := neighbors clock records deviceId
    power := power float clock records deviceId }

/-- `to_snapshot`, of a result with its time and a new id. -/
def toSnapshot (capturedAt : T) (snapshotId : Nat) (result : ParserResult) :
    InventorySnapshot T F where
  devices := (result.records.filter fun r => r.kind = "device").map
    (device float clock result.records)
  snapshotId := snapshotId
  capturedAt := capturedAt
  source := some result.source

end NormalizationMapper

namespace NormalizationValidator

/-- The loop of `validate_snapshot`. -/
def validateDevices (seen : List String) : List (DeviceSnapshot T F) → Except Exn Unit
  | [] => .ok ()
  | d :: ds =>
    if Text.strip d.deviceId = "" then
      .error (.raised "Normalized snapshot contains an empty device id.")
    else if d.deviceId ∈ seen then
      .error (.raised s!"Normalized snapshot contains duplicate device id: {d.deviceId}")
    else validateDevices (d.deviceId :: seen) ds

end NormalizationValidator

/-- `NormalizationEngine.normalize`, without rules, of a result that has its records now. -/
def normalize (float : String → Option F) (clock : ParsedRecord → T) (capturedAt : T)
    (snapshotId : Nat) (result : ParserResult) : Except Exn (InventorySnapshot T F) :=
  let snapshot := NormalizationMapper.toSnapshot float clock capturedAt snapshotId result
  if result.records = [] then
    .error (.raised "Parser result must contain at least one record.")
  else match NormalizationValidator.validateDevices [] snapshot.devices with
    | .ok () => .ok snapshot
    | .error e => .error e

/-! ## What is normalized -/

variable {float : String → Option F} {clock : ParsedRecord → T} {capturedAt : T}
  {snapshotId : Nat} {result : ParserResult} {snapshot : InventorySnapshot T F}

/-- Every record of a device bears its id. -/
structure Attached (d : DeviceSnapshot T F) : Prop where
  interfaces : ∀ i ∈ d.interfaces, i.deviceId = d.deviceId
  vlans : ∀ v ∈ d.vlans, v.deviceId = some d.deviceId
  neighbors : ∀ n ∈ d.neighbors, n.localDeviceId = d.deviceId
  power : ∀ p ∈ d.power, p.deviceId = d.deviceId

theorem device_attached (records : List ParsedRecord) (r : ParsedRecord) :
    Attached (NormalizationMapper.device float clock records r) := by
  constructor
  · intro i hi
    obtain ⟨r', _, h⟩ := List.mem_filterMap.1 hi
    unfold NormalizationMapper.interface at h
    dsimp only at h
    split at h
    · cases h
    · cases h
      rfl
  · intro v hv
    obtain ⟨r', _, h⟩ := List.mem_filterMap.1 hv
    unfold NormalizationMapper.vlan at h
    dsimp only at h
    split at h
    · split at h
      · cases h
      · cases h
        rfl
    · cases h
  · intro n hn
    obtain ⟨r', _, h⟩ := List.mem_filterMap.1 hn
    unfold NormalizationMapper.neighbor at h
    dsimp only at h
    split at h
    · cases h
    · cases h
      rfl
  · intro p hp
    obtain ⟨r', _, rfl⟩ := Option.map_eq_some_iff.1 hp
    rfl

theorem normalize_ok
    (h : normalize float clock capturedAt snapshotId result = .ok snapshot) :
    snapshot = NormalizationMapper.toSnapshot float clock capturedAt snapshotId result ∧
      NormalizationValidator.validateDevices [] snapshot.devices = .ok () := by
  unfold normalize at h
  split at h
  · cases h
  · dsimp only at h
    split at h
    · rename_i hvalid
      cases h
      exact ⟨rfl, hvalid⟩
    · cases h

/-- The id of the first device is not blank. -/
theorem validateDevices_cons {seen : List String} {d : DeviceSnapshot T F}
    {ds : List (DeviceSnapshot T F)}
    (h : NormalizationValidator.validateDevices seen (d :: ds) = .ok ()) :
    Text.strip d.deviceId ≠ "" := by
  unfold NormalizationValidator.validateDevices at h
  split at h
  · cases h
  · assumption

end Normalization
end NetOps
