import NetOps.Snapshot.Merge
import NetOps.Text

/-!
# Snapshot.Integrity

The checks of a snapshot before it is stored (`snapshot/validation.py`), as of a time `now` in
microseconds. The model that is checked has the fields of the entity it was mapped from.

* `integrity_ok_iff`: what the checks ask for, and that no two devices have one id.
* `merge_nodup`: a merge never fails the last check.
-/

namespace NetOps
namespace Snapshot
namespace Integrity

open Clock (Datetime)

variable {F : Type}

structure SnapshotValidationError where
  message : String
  deriving DecidableEq

/-! ## Checks -/

section

variable (now : Int)

def validateTimestamp (timestamp : Datetime) (context : String) :
    Except SnapshotValidationError Unit :=
  if timestamp.aware = false then .error ⟨s!"{context} must be timezone-aware."⟩
  else if now + 1000000 < timestamp.instant then .error ⟨s!"{context} cannot be in the future."⟩
  else .ok ()

def validateDeviceIdentity (deviceId context : String) : Except SnapshotValidationError Unit :=
  if Text.strip deviceId = "" then .error ⟨s!"{context} must include a device identity."⟩
  else .ok ()

/-- `repr` is the one of texts. -/
def validateVersion (repr : String → String) (expectedVersion actualVersion context : String) :
    Except SnapshotValidationError Unit :=
  if actualVersion ≠ expectedVersion then
    .error ⟨s!"{context} expected version {repr expectedVersion} but received " ++
      s!"{repr actualVersion}."⟩
  else .ok ()

/-- One check after another, for every element. -/
def validateAll {A : Type} (check : A → Except SnapshotValidationError Unit) :
    List A → Except SnapshotValidationError Unit
  | [] => .ok ()
  | a :: rest => do
    check a
    validateAll check rest

def validateInterface (s : Entities.InterfaceSnapshot Datetime) :
    Except SnapshotValidationError Unit := do
  validateDeviceIdentity s.deviceId "Interface snapshot"
  validateTimestamp now s.capturedAt "Interface snapshot timestamp"

def validateVlan (s : Entities.VLANSnapshot Datetime) : Except SnapshotValidationError Unit :=
  validateTimestamp now s.capturedAt "VLAN snapshot timestamp"

def validateMacTable (s : Entities.MACTableSnapshot Datetime) :
    Except SnapshotValidationError Unit := do
  validateDeviceIdentity s.deviceId "MAC table snapshot"
  validateTimestamp now s.capturedAt "MAC table snapshot timestamp"

def validateNeighbor (s : Entities.NeighborSnapshot Datetime) :
    Except SnapshotValidationError Unit := do
  validateDeviceIdentity s.localDeviceId "Neighbor snapshot"
  validateDeviceIdentity s.remoteDeviceId "Neighbor snapshot"
  validateTimestamp now s.capturedAt "Neighbor snapshot timestamp"

def validatePower (s : Entities.PowerSnapshot Datetime F) :
    Except SnapshotValidationError Unit := do
  validateDeviceIdentity s.deviceId "Power snapshot"
  validateTimestamp now s.capturedAt "Power snapshot timestamp"

def validateDevice (s : Entities.DeviceSnapshot Datetime F) :
    Except SnapshotValidationError Unit := do
  validateDeviceIdentity s.deviceId "Device snapshot"
  validateTimestamp now s.capturedAt "Device snapshot timestamp"
  validateAll (validateInterface now) s.interfaces
  validateAll (validateVlan now) s.vlans
  validateAll (validateMacTable now) s.macTable
  validateAll (validateNeighbor now) s.neighbors
  validateAll (validatePower now) s.power.toList

/-- The loop over the devices, of which some ids have been seen. -/
def validateDevices (seenDeviceIds : List String) :
    List (Entities.DeviceSnapshot Datetime F) → Except SnapshotValidationError Unit
  | [] => .ok ()
  | device :: rest => do
    validateDevice now device
    if device.deviceId ∈ seenDeviceIds then
      throw ⟨s!"Inventory snapshot contains duplicate device identity: {device.deviceId}"⟩
    validateDevices (device.deviceId :: seenDeviceIds) rest

def validateSnapshotIntegrity (repr : String → String)
    (s : Entities.InventorySnapshot Datetime F) : Except SnapshotValidationError Unit := do
  validateVersion repr Entities.schemaVersion s.version "Inventory snapshot"
  validateTimestamp now s.capturedAt "Inventory snapshot timestamp"
  validateDevices now [] s.devices

end

/-! ## What they ask for -/

/-- Of a time with a zone, no later than a second from now. -/
def Timely (now : Int) (timestamp : Datetime) : Prop :=
  timestamp.aware = true ∧ timestamp.instant ≤ now + 1000000

def Named (deviceId : String) : Prop := Text.strip deviceId ≠ ""

/-- A device of which the parts are named and timely, too. -/
structure Sound (now : Int) (s : Entities.DeviceSnapshot Datetime F) : Prop where
  named : Named s.deviceId
  timely : Timely now s.capturedAt
  interfaces : ∀ i ∈ s.interfaces, Named i.deviceId ∧ Timely now i.capturedAt
  vlans : ∀ v ∈ s.vlans, Timely now v.capturedAt
  macTable : ∀ m ∈ s.macTable, Named m.deviceId ∧ Timely now m.capturedAt
  neighbors : ∀ n ∈ s.neighbors,
    Named n.localDeviceId ∧ Named n.remoteDeviceId ∧ Timely now n.capturedAt
  power : ∀ p ∈ s.power, Named p.deviceId ∧ Timely now p.capturedAt

structure Integral (now : Int) (s : Entities.InventorySnapshot Datetime F) : Prop where
  version : s.version = Entities.schemaVersion
  timely : Timely now s.capturedAt
  devices : ∀ d ∈ s.devices, Sound now d

variable {now : Int}

theorem bind_ok_iff {ε : Type} {x y : Except ε Unit} :
    (x >>= fun _ => y) = .ok () ↔ x = .ok () ∧ y = .ok () := by
  cases x with
  | error e => exact ⟨nofun, fun h => nomatch h.1⟩
  | ok u => exact ⟨fun h => ⟨rfl, h⟩, fun h => h.2⟩

theorem validateTimestamp_ok_iff {timestamp : Datetime} {context : String} :
    validateTimestamp now timestamp context = .ok () ↔ Timely now timestamp := by
  rw [validateTimestamp, Timely]
  cases timestamp.aware with
  | false => simp
  | true =>
    rw [if_neg (by decide)]
    split
    · next hfuture => exact ⟨nofun, fun h => absurd hfuture (Int.not_lt.2 h.2)⟩
    · next hfuture => exact ⟨fun _ => ⟨rfl, Int.not_lt.1 hfuture⟩, fun _ => rfl⟩

theorem validateDeviceIdentity_ok_iff {deviceId context : String} :
    validateDeviceIdentity deviceId context = .ok () ↔ Named deviceId := by
  rw [validateDeviceIdentity, Named]
  split <;> simp [*]

theorem validateVersion_ok_iff {repr : String → String} {expected actual context : String} :
    validateVersion repr expected actual context = .ok () ↔ actual = expected := by
  rw [validateVersion]
  split <;> simp_all

theorem validateAll_ok_iff {A : Type} {check : A → Except SnapshotValidationError Unit}
    {P : A → Prop} (hcheck : ∀ a, check a = .ok () ↔ P a) {as : List A} :
    validateAll check as = .ok () ↔ ∀ a ∈ as, P a := by
  induction as with
  | nil => simp [validateAll]
  | cons a as ih => rw [validateAll, bind_ok_iff, ih, hcheck, List.forall_mem_cons]

theorem validateDevice_ok_iff {s : Entities.DeviceSnapshot Datetime F} :
    validateDevice now s = .ok () ↔ Sound now s := by
  have hinterface : ∀ i, validateInterface now i = .ok () ↔
      Named i.deviceId ∧ Timely now i.capturedAt := fun i => by
    rw [validateInterface, bind_ok_iff, validateDeviceIdentity_ok_iff, validateTimestamp_ok_iff]
  have hmac : ∀ m, validateMacTable now m = .ok () ↔
      Named m.deviceId ∧ Timely now m.capturedAt := fun m => by
    rw [validateMacTable, bind_ok_iff, validateDeviceIdentity_ok_iff, validateTimestamp_ok_iff]
  have hneighbor : ∀ n, validateNeighbor now n = .ok () ↔
      Named n.localDeviceId ∧ Named n.remoteDeviceId ∧ Timely now n.capturedAt := fun n => by
    rw [validateNeighbor, bind_ok_iff, bind_ok_iff, validateDeviceIdentity_ok_iff,
      validateDeviceIdentity_ok_iff, validateTimestamp_ok_iff]
  have hpower : ∀ p : Entities.PowerSnapshot Datetime F, validatePower now p = .ok () ↔
      Named p.deviceId ∧ Timely now p.capturedAt := fun p => by
    rw [validatePower, bind_ok_iff, validateDeviceIdentity_ok_iff, validateTimestamp_ok_iff]
  have hvlan : ∀ v, validateVlan now v = .ok () ↔ Timely now v.capturedAt :=
    fun v => validateTimestamp_ok_iff
  rw [validateDevice, bind_ok_iff, bind_ok_iff, bind_ok_iff, bind_ok_iff, bind_ok_iff, bind_ok_iff,
    validateDeviceIdentity_ok_iff, validateTimestamp_ok_iff, validateAll_ok_iff hinterface,
    validateAll_ok_iff hvlan, validateAll_ok_iff hmac, validateAll_ok_iff hneighbor,
    validateAll_ok_iff hpower]
  simp only [Option.mem_toList]
  constructor
  · rintro ⟨h₁, h₂, h₃, h₄, h₅, h₆, h₇⟩
    exact ⟨h₁, h₂, h₃, h₄, h₅, h₆, h₇⟩
  · rintro ⟨h₁, h₂, h₃, h₄, h₅, h₆, h₇⟩
    exact ⟨h₁, h₂, h₃, h₄, h₅, h₆, h₇⟩

theorem validateDevices_ok_iff {seen : List String}
    {devices : List (Entities.DeviceSnapshot Datetime F)} :
    validateDevices now seen devices = .ok () ↔ (∀ d ∈ devices, Sound now d) ∧
      (devices.map (·.deviceId)).Nodup ∧ ∀ d ∈ devices, d.deviceId ∉ seen := by
  induction devices generalizing seen with
  | nil => simp [validateDevices]
  | cons device rest ih =>
    rw [validateDevices, bind_ok_iff, validateDevice_ok_iff]
    by_cases hseen : device.deviceId ∈ seen
    · rw [if_pos hseen]
      constructor
      · rintro ⟨-, h⟩
        cases h
      · rintro ⟨-, -, h⟩
        exact absurd hseen (h device List.mem_cons_self)
    · rw [if_neg hseen]
      refine Iff.trans (and_congr_right fun _ => ih) ?_
      rw [List.forall_mem_cons, List.forall_mem_cons, List.map_cons, List.nodup_cons, List.mem_map]
      constructor
      · rintro ⟨hfirst, hrest, hnodup, hnew⟩
        refine ⟨⟨hfirst, hrest⟩, ⟨?_, hnodup⟩, hseen, fun d hd hmem => ?_⟩
        · rintro ⟨d, hd, hsame⟩
          exact hnew d hd (hsame ▸ List.mem_cons_self)
        · exact hnew d hd (List.mem_cons_of_mem _ hmem)
      · rintro ⟨⟨hfirst, hrest⟩, ⟨hother, hnodup⟩, -, hnew⟩
        refine ⟨hfirst, hrest, hnodup, fun d hd hmem => ?_⟩
        rcases List.mem_cons.1 hmem with hsame | hmem
        · exact hother ⟨d, hd, hsame⟩
        · exact hnew d hd hmem

theorem integrity_ok_iff {repr : String → String} {s : Entities.InventorySnapshot Datetime F} :
    validateSnapshotIntegrity now repr s = .ok () ↔
      Integral now s ∧ (s.devices.map (·.deviceId)).Nodup := by
  rw [validateSnapshotIntegrity, bind_ok_iff, bind_ok_iff, validateVersion_ok_iff,
    validateTimestamp_ok_iff, validateDevices_ok_iff]
  constructor
  · rintro ⟨hversion, htimely, hdevices, hnodup, -⟩
    exact ⟨⟨hversion, htimely, hdevices⟩, hnodup⟩
  · rintro ⟨⟨hversion, htimely, hdevices⟩, hnodup⟩
    exact ⟨hversion, htimely, hdevices, hnodup, fun d _ => List.not_mem_nil⟩

/-- The devices of a merge have different ids. -/
theorem merge_nodup {defaults : Merge.Defaults}
    {ss : List (Entities.InventorySnapshot Datetime F)} {r : Entities.InventorySnapshot Datetime F}
    (h : Merge.InventorySnapshot.merge defaults ss = .ok r) :
    (r.devices.map (·.deviceId)).Nodup := by
  cases ss with
  | nil =>
    cases h
    exact .nil
  | cons s rest =>
    obtain ⟨m, -, rfl⟩ := Merge.merge_summary (List.cons_ne_nil s rest) h
    have hkeys : m.devices.values.map (·.deviceId) = m.devices.items.map Prod.fst := by
      rw [Dict.values, List.map_map]
      exact List.map_congr_left m.keyed
    rw [Merge.Merged.snapshot, hkeys]
    exact m.devices.nodup

end Integrity
end Snapshot
end NetOps
