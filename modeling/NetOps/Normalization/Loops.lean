import NetOps.Normalization.Mapper
import NetOps.Outcomes

/-!
# Normalization.Loops

`to_snapshot` as it runs (`normalization/mapper.py`): its loops, and the `ValueError` of `str`,
which only `_optional_int` and `_optional_float` catch.

* `scan_gives`: the loop of a kind, by induction on the records that are left.
* `readSnapshot_gives`: unless a value of a record has no text, the loops give `toSnapshot`.
-/

namespace NetOps
namespace Normalization

open Discovery (PyVal PyDict)
open Collectors.Cisco (ParsedRecord ParserResult)
open Snapshot.Entities
open Digits (IntError)
open Outcomes (Gives)

variable {T F : Type}

namespace NormalizationMapper

/-! ## The code -/

/-- `str(payload.get(key, default)).strip()`. -/
def readText (default : String) (payload : PyDict) (key : String) : Except IntError String :=
  (str ((payload.get? key).getD (.str default))).map Text.strip

/-- `_optional_text`. -/
def readOptionalText : PyVal → Except IntError (Option String)
  | .none => .ok none
  | value => (str value).map fun text =>
    if Text.strip text = "" then none else some (Text.strip text)

/-- `_optional_bool`. -/
def readOptionalBool : PyVal → Except IntError (Option Bool)
  | .bool value => .ok (some value)
  | .none => .ok none
  | value => (str value).map fun text =>
    let normalized := Text.lower (Text.strip text)
    if ["true", "yes", "enabled", "on", "1"].contains normalized then some true
    else if ["false", "no", "disabled", "off", "0"].contains normalized then some false
    else none

/-- `str(item)` of what an object is iterated into. -/
def itemText : Option String → Except IntError String
  | some text => .ok text
  | none => .error .valueError

/-- `_stack_members`. -/
def readStackMembers : PyVal → Except IntError (List String)
  | .str value => .ok (if Text.strip value = "" then [] else [Text.strip value])
  | .list items _ => (items.mapM str).map fun texts => (texts.map Text.strip).filter (· ≠ "")
  | .other _ _ (some keys) =>
    (keys.mapM itemText).map fun texts => (texts.map Text.strip).filter (· ≠ "")
  | _ => .ok []

variable (float : String → Option F) (clock : ParsedRecord → T)

/-- The loop of `_interfaces`, `_vlans` and `_neighbors`: what has been made so far, and what is
made of each record of the kind that names the device. -/
def scan {E : Type} (kind key deviceId : String)
    (make : ParsedRecord → Except IntError (Option E)) (made : List E) :
    List ParsedRecord → Except IntError (List E)
  | [] => .ok made
  | r :: rs =>
    if r.kind ≠ kind then scan kind key deviceId make made rs
    else do
      let named ← readText "" r.payload key
      if named ≠ deviceId then scan kind key deviceId make made rs
      else
        match ← make r with
        | none => scan kind key deviceId make made rs
        | some entry => scan kind key deviceId make (made ++ [entry]) rs

def readInterface (deviceId : String) (r : ParsedRecord) :
    Except IntError (Option (InterfaceSnapshot T)) := do
  let name ← readText "" r.payload "name"
  if name = "" then return none
  let adminStatus ← readOptionalText (r.payload.getD "admin_status")
  let operStatus ← readOptionalText (r.payload.getD "oper_status")
  let description ← readOptionalText (r.payload.getD "description")
  let macAddress ← readOptionalText (r.payload.getD "mac_address")
  let poeStatus ← readOptionalText (r.payload.getD "poe_status")
  return some {
    deviceId := deviceId
    name := name
    capturedAt := clock r
    adminStatus := adminStatus
    operStatus := operStatus
    description := description
    macAddress := macAddress
    speedMbps := optionalInt (r.payload.getD "speed_mbps")
    poeStatus := poeStatus }

/-- `_interfaces`. -/
def readInterfaces (records : List ParsedRecord) (deviceId : String) :
    Except IntError (List (InterfaceSnapshot T)) :=
  scan "interface" "device_id" deviceId (readInterface clock deviceId) [] records

def readVlan (deviceId : String) (r : ParsedRecord) :
    Except IntError (Option (VLANSnapshot T)) := do
  let name ← readText "" r.payload "name"
  match optionalInt (r.payload.getD "vlan_id") with
  | none => return none
  | some vlanId =>
    if name = "" then return none
    let status ← readOptionalText (r.payload.getD "status")
    return some {
      vlanId := vlanId
      name := name
      capturedAt := clock r
      deviceId := some deviceId
      status := status }

/-- `_vlans`. -/
def readVlans (records : List ParsedRecord) (deviceId : String) :
    Except IntError (List (VLANSnapshot T)) :=
  scan "vlan" "device_id" deviceId (readVlan clock deviceId) [] records

def readNeighbor (deviceId : String) (r : ParsedRecord) :
    Except IntError (Option (NeighborSnapshot T)) := do
  let localInterface ← readText "" r.payload "local_interface"
  let remoteDeviceId ← readText "" r.payload "remote_device_id"
  if localInterface = "" || remoteDeviceId = "" then return none
  let remoteInterface ← readOptionalText (r.payload.getD "remote_interface")
  let protocol ← readOptionalText (r.payload.getD "protocol")
  return some {
    localDeviceId := deviceId
    localInterface := localInterface
    remoteDeviceId := remoteDeviceId
    remoteInterface := remoteInterface
    protocol := protocol
    capturedAt := clock r }

/-- `_neighbors`. -/
def readNeighbors (records : List ParsedRecord) (deviceId : String) :
    Except IntError (List (NeighborSnapshot T)) :=
  scan "neighbor" "local_device_id" deviceId (readNeighbor clock deviceId) [] records

/-- `_power`. -/
def readPower (deviceId : String) :
    List ParsedRecord → Except IntError (Option (PowerSnapshot T F))
  | [] => .ok none
  | r :: rs =>
    if r.kind ≠ "power" then readPower deviceId rs
    else do
      let named ← readText "" r.payload "device_id"
      if named ≠ deviceId then readPower deviceId rs
      else
        let source ← readText "poe" r.payload "source"
        let status ← readOptionalText (r.payload.getD "status")
        let poeEnabled ← readOptionalBool (r.payload.getD "poe_enabled")
        return some {
          deviceId := deviceId
          source := Text.orElse source "poe"
          capturedAt := clock r
          status := status
          availableWatts := optionalFloat float (r.payload.getD "available_watts")
          consumedWatts := optionalFloat float (r.payload.getD "consumed_watts")
          poeEnabled := poeEnabled }

def readDevice (records : List ParsedRecord) (r : ParsedRecord) :
    Except IntError (DeviceSnapshot T F) := do
  let deviceId ← readText "" r.payload "device_id"
  let name ← readText "" r.payload "name"
  let manufacturer ← readOptionalText (r.payload.getD "manufacturer")
  let model ← readOptionalText (r.payload.getD "model")
  let serialNumber ← readOptionalText (r.payload.getD "serial_number")
  let productId ← readOptionalText (r.payload.getD "product_id")
  let managementIp ← readOptionalText (r.payload.getD "management_ip")
  let baseMac ← readOptionalText (r.payload.getD "base_mac")
  let softwareVersion ← readOptionalText (r.payload.getD "software_version")
  let uptime ← readOptionalText (r.payload.getD "uptime")
  let hardwareRevision ← readOptionalText (r.payload.getD "hardware_revision")
  let platform ← readOptionalText (r.payload.getD "platform")
  let stackMembers ← readStackMembers (r.payload.getD "stack_members")
  let interfaces ← readInterfaces clock records deviceId
  let vlans ← readVlans clock records deviceId
  let neighbors ← readNeighbors clock records deviceId
  let power ← readPower float clock deviceId records
  return {
    deviceId := deviceId
    name := name
    capturedAt := clock r
    manufacturer := manufacturer
    model := model
    serialNumber := serialNumber
    productId := productId
    managementIp := managementIp
    baseMac := baseMac
    softwareVersion := softwareVersion
    uptime := uptime
    hardwareRevision := hardwareRevision
    platform := platform
    stackMembers := stackMembers
    interfaces := interfaces
    vlans := vlans
    neighbors := neighbors
    power := power }

/-- The loop of `to_snapshot`. -/
def readDevices (records : List ParsedRecord) (made : List (DeviceSnapshot T F)) :
    List ParsedRecord → Except IntError (List (DeviceSnapshot T F))
  | [] => .ok made
  | r :: rs =>
    if r.kind ≠ "device" then readDevices records made rs
    else do
      let device ← readDevice float clock records r
      readDevices records (made ++ [device]) rs

/-- `to_snapshot`. -/
def readSnapshot (capturedAt : T) (snapshotId : Nat) (result : ParserResult) :
    Except IntError (InventorySnapshot T F) := do
  let devices ← readDevices float clock result.records [] result.records
  return {
    devices := devices
    snapshotId := snapshotId
    capturedAt := capturedAt
    source := some result.source }

/-! ## What makes it raise -/

/-- What an object is iterated into has texts. -/
def itemsWritable : PyVal → Bool
  | .other _ _ (some keys) => keys.all Option.isSome
  | _ => true

/-- A value has no text, or an item it is iterated into has none. -/
def Unwritable (value : PyVal) : Prop := writable value = false ∨ itemsWritable value = false

/-- A value of the record has no text, or an item it is iterated into has none. -/
def HasUnwritable (r : ParsedRecord) : Prop :=
  ∃ key value, r.payload.get? key = some value ∧ Unwritable value

theorem str_gives (value : PyVal) : Gives (writable value = false) (str value) value.text := by
  unfold str
  split
  · exact Gives.ok _
  · rename_i h
    exact Bool.eq_false_iff.2 h

theorem not_unwritable_str (text : String) : ¬ Unwritable (.str text) := by
  rintro (h | h) <;> simp [writable, itemsWritable] at h

theorem not_unwritable_none : ¬ Unwritable .none := by
  rintro (h | h) <;> simp [writable, itemsWritable] at h

theorem hasUnwritable_of_getD {r : ParsedRecord} {key : String} {default : PyVal}
    (hdefault : ¬ Unwritable default) (h : Unwritable ((r.payload.get? key).getD default)) :
    HasUnwritable r := by
  cases hget : r.payload.get? key with
  | none =>
    rw [hget, Option.getD_none] at h
    exact absurd h hdefault
  | some value =>
    rw [hget] at h
    exact ⟨key, value, hget, h⟩

theorem readText_gives (default : String) (r : ParsedRecord) (key : String) :
    Gives (HasUnwritable r) (readText default r.payload key) (textOr default r.payload key) :=
  Gives.map
    ((str_gives _).mono fun h => hasUnwritable_of_getD (not_unwritable_str default) (.inl h))
    Text.strip

theorem readOptionalText_gives (value : PyVal) :
    Gives (Unwritable value) (readOptionalText value) (optionalText value) := by
  cases value with
  | none => exact Gives.ok _
  | _ => exact ((str_gives _).mono .inl).map fun text => optionalText (.str text)

theorem readOptionalBool_gives (value : PyVal) :
    Gives (Unwritable value) (readOptionalBool value) (optionalBool value) := by
  cases value with
  | none => exact Gives.ok _
  | bool value => exact Gives.ok _
  | _ => exact ((str_gives _).mono .inl).map fun text => optionalBool (.str text)

theorem allWritable_of_mem {values : List PyVal} {value : PyVal} (h : value ∈ values)
    (hvalue : writable value = false) : allWritable values = false := by
  induction values with
  | nil => cases h
  | cons first values ih =>
    rw [allWritable, Bool.and_eq_false_iff]
    rcases List.mem_cons.1 h with rfl | h
    · exact .inl hvalue
    · exact .inr (ih h)

theorem readStackMembers_gives (value : PyVal) :
    Gives (Unwritable value) (readStackMembers value) (stackMembers value) := by
  cases value with
  | list items text =>
    have hitems : Gives (Unwritable (.list items text)) (items.mapM str)
        (items.map PyVal.text) := Gives.mapM fun item hitem =>
      (str_gives item).mono fun hvalue => .inl (allWritable_of_mem hitem hvalue)
    have hmade := hitems.map fun texts => (texts.map Text.strip).filter (· ≠ "")
    rwa [List.map_map] at hmade
  | other truthy text keys =>
    cases keys with
    | none => exact Gives.ok _
    | some keys =>
      have hitems : Gives (Unwritable (.other truthy text (some keys))) (keys.mapM itemText)
          (keys.map (·.getD "")) := Gives.mapM fun key hkey => by
        cases key with
        | some text => exact Gives.ok text
        | none => exact .inr (List.all_eq_false.2 ⟨none, hkey, nofun⟩)
      have hmade := hitems.map fun texts => (texts.map Text.strip).filter (· ≠ "")
      rwa [List.map_map] at hmade
  | _ => exact Gives.ok _

/-- What is read of the value of a key. -/
theorem gives_getD {E : Type} {read : PyVal → Except IntError E} {total : PyVal → E}
    (h : ∀ value, Gives (Unwritable value) (read value) (total value)) (r : ParsedRecord)
    (key : String) :
    Gives (HasUnwritable r) (read (r.payload.getD key)) (total (r.payload.getD key)) :=
  (h _).mono (hasUnwritable_of_getD not_unwritable_none)

/-! ## The loops -/

variable {float : String → Option F} {clock : ParsedRecord → T}

theorem readInterface_gives (deviceId : String) (r : ParsedRecord) :
    Gives (HasUnwritable r) (readInterface clock deviceId r) (interface clock deviceId r) := by
  refine Gives.bind (readText_gives "" r "name") ?_
  unfold interface
  dsimp only
  split
  · exact Gives.ok _
  · refine Gives.bind (gives_getD readOptionalText_gives r "admin_status") ?_
    refine Gives.bind (gives_getD readOptionalText_gives r "oper_status") ?_
    refine Gives.bind (gives_getD readOptionalText_gives r "description") ?_
    refine Gives.bind (gives_getD readOptionalText_gives r "mac_address") ?_
    refine Gives.bind (gives_getD readOptionalText_gives r "poe_status") ?_
    exact Gives.ok _

theorem readVlan_gives (deviceId : String) (r : ParsedRecord) :
    Gives (HasUnwritable r) (readVlan clock deviceId r) (vlan clock deviceId r) := by
  refine Gives.bind (readText_gives "" r "name") ?_
  unfold vlan
  dsimp only
  cases optionalInt (r.payload.getD "vlan_id") with
  | none => exact Gives.ok _
  | some vlanId =>
    dsimp only
    split
    · exact Gives.ok _
    · refine Gives.bind (gives_getD readOptionalText_gives r "status") ?_
      exact Gives.ok _

theorem readNeighbor_gives (deviceId : String) (r : ParsedRecord) :
    Gives (HasUnwritable r) (readNeighbor clock deviceId r) (neighbor clock deviceId r) := by
  refine Gives.bind (readText_gives "" r "local_interface") ?_
  refine Gives.bind (readText_gives "" r "remote_device_id") ?_
  unfold neighbor
  dsimp only
  split
  · exact Gives.ok _
  · refine Gives.bind (gives_getD readOptionalText_gives r "remote_interface") ?_
    refine Gives.bind (gives_getD readOptionalText_gives r "protocol") ?_
    exact Gives.ok _

theorem recordsOf_cons (r : ParsedRecord) (rs : List ParsedRecord) (kind key deviceId : String) :
    recordsOf (r :: rs) kind key deviceId =
      if r.kind = kind ∧ textOr "" r.payload key = deviceId then r :: recordsOf rs kind key deviceId
      else recordsOf rs kind key deviceId := by
  simp only [recordsOf, List.filter_cons, Bool.and_eq_true, decide_eq_true_eq]

section Records

variable {E : Type} {r : ParsedRecord} {rs : List ParsedRecord} {x : Except IntError E} {a : E}

theorem gives_head (h : Gives (HasUnwritable r) x a) :
    Gives (∃ r' ∈ r :: rs, HasUnwritable r') x a :=
  h.mono fun hr => ⟨r, List.mem_cons_self, hr⟩

theorem gives_tail (h : Gives (∃ r' ∈ rs, HasUnwritable r') x a) :
    Gives (∃ r' ∈ r :: rs, HasUnwritable r') x a := by
  refine h.mono ?_
  rintro ⟨r', hr', hunwritable⟩
  exact ⟨r', List.mem_cons_of_mem r hr', hunwritable⟩

end Records

/-- The loop adds what is made of the records that name the device, in their order. -/
theorem scan_gives {E : Type} {kind key deviceId : String}
    {make : ParsedRecord → Except IntError (Option E)} {total : ParsedRecord → Option E}
    (hmake : ∀ r, Gives (HasUnwritable r) (make r) (total r)) (made : List E)
    (records : List ParsedRecord) :
    Gives (∃ r ∈ records, HasUnwritable r) (scan kind key deviceId make made records)
      (made ++ (recordsOf records kind key deviceId).filterMap total) := by
  induction records generalizing made with
  | nil =>
    rw [recordsOf, List.filter_nil, List.filterMap_nil, List.append_nil]
    exact Gives.ok made
  | cons r rs ih =>
    rw [scan, recordsOf_cons]
    by_cases hkind : r.kind = kind
    · rw [if_neg (not_not.2 hkind)]
      refine Gives.bind (gives_head (readText_gives "" r key)) ?_
      by_cases hnamed : textOr "" r.payload key = deviceId
      · rw [if_neg (not_not.2 hnamed), if_pos ⟨hkind, hnamed⟩]
        refine Gives.bind (gives_head (hmake r)) ?_
        cases hentry : total r with
        | none =>
          rw [List.filterMap_cons_none hentry]
          exact gives_tail (ih made)
        | some entry =>
          rw [List.filterMap_cons_some hentry, List.append_cons]
          exact gives_tail (ih (made ++ [entry]))
      · rw [if_pos hnamed, if_neg fun h => hnamed h.2]
        exact gives_tail (ih made)
    · rw [if_pos hkind, if_neg fun h => hkind h.1]
      exact gives_tail (ih made)

/-- The loop of `_power` stops at the first record that names the device. -/
theorem readPower_gives (deviceId : String) (records : List ParsedRecord) :
    Gives (∃ r ∈ records, HasUnwritable r) (readPower float clock deviceId records)
      (power float clock records deviceId) := by
  induction records with
  | nil => exact Gives.ok none
  | cons r rs ih =>
    rw [readPower, power, recordsOf_cons]
    by_cases hkind : r.kind = "power"
    · rw [if_neg (not_not.2 hkind)]
      refine Gives.bind (gives_head (readText_gives "" r "device_id")) ?_
      by_cases hnamed : textOr "" r.payload "device_id" = deviceId
      · rw [if_neg (not_not.2 hnamed), if_pos ⟨hkind, hnamed⟩]
        refine Gives.bind (gives_head (readText_gives "poe" r "source")) ?_
        refine Gives.bind (gives_head (gives_getD readOptionalText_gives r "status")) ?_
        refine Gives.bind (gives_head (gives_getD readOptionalBool_gives r "poe_enabled")) ?_
        exact Gives.ok _
      · rw [if_pos hnamed, if_neg fun h => hnamed h.2]
        exact gives_tail ih
    · rw [if_pos hkind, if_neg fun h => hkind h.1]
      exact gives_tail ih

theorem readDevice_gives {records : List ParsedRecord} {r : ParsedRecord} (hr : r ∈ records) :
    Gives (∃ r ∈ records, HasUnwritable r) (readDevice float clock records r)
      (device float clock records r) := by
  have hown : HasUnwritable r → ∃ r ∈ records, HasUnwritable r := fun h => ⟨r, hr, h⟩
  have htext (key : String) := (gives_getD readOptionalText_gives r key).mono hown
  refine Gives.bind ((readText_gives "" r "device_id").mono hown) ?_
  refine Gives.bind ((readText_gives "" r "name").mono hown) ?_
  refine Gives.bind (htext "manufacturer") (Gives.bind (htext "model") ?_)
  refine Gives.bind (htext "serial_number") (Gives.bind (htext "product_id") ?_)
  refine Gives.bind (htext "management_ip") (Gives.bind (htext "base_mac") ?_)
  refine Gives.bind (htext "software_version") (Gives.bind (htext "uptime") ?_)
  refine Gives.bind (htext "hardware_revision") (Gives.bind (htext "platform") ?_)
  refine Gives.bind ((gives_getD readStackMembers_gives r "stack_members").mono hown) ?_
  refine Gives.bind (scan_gives (readInterface_gives _) [] records) ?_
  refine Gives.bind (scan_gives (readVlan_gives _) [] records) ?_
  refine Gives.bind (scan_gives (readNeighbor_gives _) [] records) ?_
  exact Gives.bind (readPower_gives _ records) (Gives.ok _)

theorem readDevices_gives {records rs : List ParsedRecord} (hrs : ∀ r ∈ rs, r ∈ records)
    (made : List (DeviceSnapshot T F)) :
    Gives (∃ r ∈ records, HasUnwritable r) (readDevices float clock records made rs)
      (made ++ (rs.filter fun r => r.kind = "device").map (device float clock records)) := by
  induction rs generalizing made with
  | nil =>
    rw [List.filter_nil, List.map_nil, List.append_nil]
    exact Gives.ok made
  | cons r rs ih =>
    have hrest := ih fun r' hr' => hrs r' (List.mem_cons_of_mem r hr')
    rw [readDevices, List.filter_cons]
    by_cases hkind : r.kind = "device"
    · rw [if_neg (not_not.2 hkind), if_pos (decide_eq_true hkind), List.map_cons, List.append_cons]
      exact Gives.bind (readDevice_gives (hrs r List.mem_cons_self)) (hrest _)
    · rw [if_pos hkind, if_neg (by simpa using hkind)]
      exact hrest made

/-- The loops give the snapshot, unless a value of a record has no text. -/
theorem readSnapshot_gives (capturedAt : T) (snapshotId : Nat) (result : ParserResult) :
    Gives (∃ r ∈ result.records, HasUnwritable r)
      (readSnapshot float clock capturedAt snapshotId result)
      (toSnapshot float clock capturedAt snapshotId result) :=
  Gives.bind (readDevices_gives (fun _ h => h) []) (Gives.ok _)

end NormalizationMapper
end Normalization
end NetOps
