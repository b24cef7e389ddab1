import NetOps.Normalization.Loops

/-!
# Normalization.Images

What the mapper keeps: of every record that names a device and has its required fields one entry of
that device, in the order of the records.

* `device_entry`: the entries of one device.
* `readSnapshot_images`: the snapshot of a result, if no value makes the mapper raise.
* `optionalInt_int`: an `int` that has a text is read as itself.
-/

namespace NetOps
namespace Normalization

open Discovery (PyVal PyDict)
open Collectors.Cisco (ParsedRecord ParserResult)
open Snapshot.Entities
open Outcomes (Gives)

variable {T F : Type} {float : String → Option F} {clock : ParsedRecord → T}

namespace NormalizationMapper

/-! ## The entries of a device -/

/-- An interface of the device that has a name. -/
def isInterface (deviceId : String) (r : ParsedRecord) : Bool :=
  r.kind = "interface" && textOr "" r.payload "device_id" = deviceId &&
    textOr "" r.payload "name" ≠ ""

def interfaceImage (clock : ParsedRecord → T) (r : ParsedRecord) : InterfaceSnapshot T where
  deviceId := textOr "" r.payload "device_id"
  name := textOr "" r.payload "name"
  capturedAt := clock r
  adminStatus := optionalText (r.payload.getD "admin_status")
  operStatus := optionalText (r.payload.getD "oper_status")
  description := optionalText (r.payload.getD "description")
  macAddress := optionalText (r.payload.getD "mac_address")
  speedMbps := optionalInt (r.payload.getD "speed_mbps")
  poeStatus := optionalText (r.payload.getD "poe_status")

/-- A VLAN of the device that has a number and a name. -/
def isVlan (deviceId : String) (r : ParsedRecord) : Bool :=
  r.kind = "vlan" && textOr "" r.payload "device_id" = deviceId &&
    ((optionalInt (r.payload.getD "vlan_id")).isSome && textOr "" r.payload "name" ≠ "")

def vlanImage (clock : ParsedRecord → T) (r : ParsedRecord) : Option (VLANSnapshot T) :=
  (optionalInt (r.payload.getD "vlan_id")).map fun vlanId => {
    vlanId := vlanId
    name := textOr "" r.payload "name"
    capturedAt := clock r
    deviceId := some (textOr "" r.payload "device_id")
    status := optionalText (r.payload.getD "status") }

/-- A neighbor of the device that has an interface and a device on the other side. -/
def isNeighbor (deviceId : String) (r : ParsedRecord) : Bool :=
  r.kind = "neighbor" && textOr "" r.payload "local_device_id" = deviceId &&
    (textOr "" r.payload "local_interface" ≠ "" && textOr "" r.payload "remote_device_id" ≠ "")

def neighborImage (clock : ParsedRecord → T) (r : ParsedRecord) : NeighborSnapshot T where
  localDeviceId := textOr "" r.payload "local_device_id"
  localInterface := textOr "" r.payload "local_interface"
  remoteDeviceId := textOr "" r.payload "remote_device_id"
  remoteInterface := optionalText (r.payload.getD "remote_interface")
  protocol := optionalText (r.payload.getD "protocol")
  capturedAt := clock r

/-- The device has the id of its record, and one entry for each record that is its own. -/
structure DeviceEntry (clock : ParsedRecord → T) (records : List ParsedRecord) (r : ParsedRecord)
    (d : DeviceSnapshot T F) : Prop where
  deviceId : d.deviceId = textOr "" r.payload "device_id"
  interfaces : d.interfaces = (records.filter (isInterface d.deviceId)).map (interfaceImage clock)
  vlans : List.Forall₂ (fun r v => vlanImage clock r = some v) (records.filter (isVlan d.deviceId))
    d.vlans
  neighbors : d.neighbors = (records.filter (isNeighbor d.deviceId)).map (neighborImage clock)

/-- Whether a record is kept, and what stands for it. -/
def KeptAs {A B : Type} (image : A → Option B) (R : A → B → Prop) (required : Bool) (a : A) :
    Prop :=
  (required = true ∧ ∃ b, image a = some b ∧ R a b) ∨ (required = false ∧ image a = none)

/-- What an image keeps of some records stands for them in their order. -/
theorem forall₂_filterMap {A B : Type} {named required : A → Bool} {image : A → Option B}
    {R : A → B → Prop} (himage : ∀ a, named a = true → KeptAs image R (required a) a)
    (as : List A) :
    List.Forall₂ R (as.filter fun a => named a && required a)
      ((as.filter named).filterMap image) := by
  induction as with
  | nil => exact .nil
  | cons a as ih =>
    rw [List.filter_cons, List.filter_cons]
    cases hnamed : named a with
    | false => exact ih
    | true =>
      rw [Bool.true_and, if_pos rfl]
      rcases himage a hnamed with ⟨hkept, b, hb, hR⟩ | ⟨hleft, hnone⟩
      · rw [if_pos hkept, List.filterMap_cons_some hb]
        exact .cons hR ih
      · rw [if_neg (by rw [hleft]; exact Bool.false_ne_true), List.filterMap_cons_none hnone]
        exact ih

theorem interface_image (deviceId : String) (r : ParsedRecord)
    (h : (r.kind = "interface" && textOr "" r.payload "device_id" = deviceId) = true) :
    KeptAs (interface clock deviceId) (fun r i => interfaceImage clock r = i)
      (textOr "" r.payload "name" ≠ "") r := by
  rw [Bool.and_eq_true, decide_eq_true_eq, decide_eq_true_eq] at h
  by_cases hname : textOr "" r.payload "name" = ""
  · refine .inr ⟨by simpa using hname, ?_⟩
    rw [interface]
    exact if_pos hname
  · refine .inl ⟨by simpa using hname, interfaceImage clock r, ?_, rfl⟩
    rw [interface, interfaceImage, h.2]
    exact if_neg hname

theorem vlan_image (deviceId : String) (r : ParsedRecord)
    (h : (r.kind = "vlan" && textOr "" r.payload "device_id" = deviceId) = true) :
    KeptAs (vlan clock deviceId) (fun r v => vlanImage clock r = some v)
      ((optionalInt (r.payload.getD "vlan_id")).isSome && textOr "" r.payload "name" ≠ "") r := by
  rw [Bool.and_eq_true, decide_eq_true_eq, decide_eq_true_eq] at h
  unfold KeptAs vlan vlanImage
  dsimp only
  rw [h.2]
  cases optionalInt (r.payload.getD "vlan_id") with
  | none => exact .inr ⟨rfl, rfl⟩
  | some vlanId =>
    by_cases hname : textOr "" r.payload "name" = ""
    · exact .inr ⟨by simpa using hname, if_pos hname⟩
    · exact .inl ⟨by simpa using hname, _, if_neg hname, rfl⟩

theorem neighbor_image (deviceId : String) (r : ParsedRecord)
    (h : (r.kind = "neighbor" && textOr "" r.payload "local_device_id" = deviceId) = true) :
    KeptAs (neighbor clock deviceId) (fun r n => neighborImage clock r = n)
      (textOr "" r.payload "local_interface" ≠ "" && textOr "" r.payload "remote_device_id" ≠ "")
      r := by
  rw [Bool.and_eq_true, decide_eq_true_eq, decide_eq_true_eq] at h
  cases hblank : textOr "" r.payload "local_interface" = "" ||
      textOr "" r.payload "remote_device_id" = "" with
  | true =>
    refine .inr ⟨by simpa [Classical.or_iff_not_imp_left] using hblank, ?_⟩
    rw [neighbor]
    exact if_pos hblank
  | false =>
    refine .inl ⟨by simpa using hblank, neighborImage clock r, ?_, rfl⟩
    rw [neighbor, neighborImage, h.2]
    exact if_neg (by rw [hblank]; exact Bool.false_ne_true)

theorem eq_map_of_forall₂ {A B : Type} {image : A → B} {as : List A} {bs : List B}
    (h : List.Forall₂ (fun a b => image a = b) as bs) : bs = as.map image := by
  rw [← List.forall₂_map_left_iff, List.forall₂_eq_eq_eq] at h
  exact h.symm

theorem interfaces_eq (records : List ParsedRecord) (deviceId : String) :
    interfaces clock records deviceId =
      (records.filter (isInterface deviceId)).map (interfaceImage clock) :=
  eq_map_of_forall₂ (forall₂_filterMap (interface_image deviceId) records)

theorem neighbors_eq (records : List ParsedRecord) (deviceId : String) :
    neighbors clock records deviceId =
      (records.filter (isNeighbor deviceId)).map (neighborImage clock) :=
  eq_map_of_forall₂ (forall₂_filterMap (neighbor_image deviceId) records)

theorem device_entry (records : List ParsedRecord) (r : ParsedRecord) :
    DeviceEntry clock records r (device float clock records r) where
  deviceId := rfl
  interfaces := interfaces_eq records _
  vlans := forall₂_filterMap (vlan_image _) records
  neighbors := neighbors_eq records _

/-! ## The snapshot of a result -/

variable (float clock) in
/-- The mapper makes one entry of each device record, in their order. -/
def Maps (capturedAt : T) (snapshotId : Nat) (result : ParserResult) : Prop :=
  ∃ snapshot, readSnapshot float clock capturedAt snapshotId result = .ok snapshot ∧
    List.Forall₂ (DeviceEntry clock result.records)
      (result.records.filter fun r => r.kind = "device") snapshot.devices

/-- Nothing is lost or invented, unless a value without a text makes the mapper raise. -/
theorem readSnapshot_images (float : String → Option F) (clock : ParsedRecord → T) (capturedAt : T)
    (snapshotId : Nat) (result : ParserResult) :
    Maps float clock capturedAt snapshotId result ∨
      (readSnapshot float clock capturedAt snapshotId result = .error .valueError ∧
        ∃ r ∈ result.records, HasUnwritable r) := by
  have hgives : Gives _ (readSnapshot float clock capturedAt snapshotId result)
      (toSnapshot float clock capturedAt snapshotId result) :=
    readSnapshot_gives capturedAt snapshotId result
  cases hread : readSnapshot float clock capturedAt snapshotId result with
  | error e =>
    rw [hread] at hgives
    exact .inr ⟨rfl, hgives⟩
  | ok snapshot =>
    rw [hread] at hgives
    cases hgives
    refine .inl ⟨_, hread, ?_⟩
    rw [toSnapshot, List.forall₂_map_right_iff, List.forall₂_same]
    exact fun r _ => device_entry result.records r

/-- A device whose model is a number of too many digits. -/
def longModel : ParserResult where
  source := "import"
  records := [⟨"device", [("device_id", .str "sw1"),
    ("model", .int ((10 ^ Digits.maxStrDigits : Nat) : Int))]⟩]

theorem not_maps_longModel : ¬ Maps (fun _ => (none : Option Nat)) (fun _ => 0) 0 0 longModel := by
  have hlong : str (.int ((10 ^ Digits.maxStrDigits : Nat) : Int)) = .error .valueError := by
    rw [str, writable, Int.natAbs_natCast, decide_eq_false (lt_irrefl _)]
    rfl
  rintro ⟨snapshot, hread, -⟩
  obtain ⟨devices, hdevices, -⟩ := Outcomes.bind_ok hread
  rw [longModel, readDevices, if_neg (not_not.2 rfl)] at hdevices
  obtain ⟨d, hdevice, -⟩ := Outcomes.bind_ok hdevices
  obtain ⟨deviceId, -, hdevice⟩ := Outcomes.bind_ok hdevice
  obtain ⟨name, -, hdevice⟩ := Outcomes.bind_ok hdevice
  obtain ⟨manufacturer, -, hdevice⟩ := Outcomes.bind_ok hdevice
  obtain ⟨model, hmodel, -⟩ := Outcomes.bind_ok hdevice
  change (str (.int ((10 ^ Digits.maxStrDigits : Nat) : Int))).map _ = _ at hmodel
  rw [hlong] at hmodel
  cases hmodel

end NormalizationMapper
end Normalization
end NetOps
