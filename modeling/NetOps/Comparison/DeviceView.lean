import Mathlib.Data.List.Find
import NetOps.Comparison.Counts
import NetOps.Comparison.Matching
import NetOps.Discovery.Contracts

/-!
# Comparison.DeviceView

The comparison of a single device (`compare_device` in `api/v1/devices.py`), from the rows that the
snapshots and the comparison were stored as.

The view looks the pair up anew, by the first row of an id, a name or a serial number where the
matcher takes the last device of a name, and selects findings by the text of their subject. It shows
a matched pair and what was found of it if and only if the first rows are those of the pair, nothing
of it is missing, and the subjects of its findings, and of no others, are called by its names
(`view_agrees_iff`).
-/

namespace NetOps
namespace Comparison

open Discovery (UUID)
open Inventory (Device)
open Snapshot (DeviceSnapshot)

/-! ## Rows -/

/-- A row of `snapshot_devices`, as far as a canonical device and a live one have its columns. -/
structure SnapshotDeviceRecord where
  id : UUID
  deviceId : String
  name : String
  model : Option String
  serialNumber : Option String
  managementIp : Option String
  platform : Option String
  deriving DecidableEq

/-- `_netbox_device_record`. -/
def netboxDeviceRecord (id : UUID) (device : Device) : SnapshotDeviceRecord where
  id := id
  deviceId := device.name
  name := device.name
  model := some device.deviceType.model
  serialNumber := device.serial
  managementIp := device.primaryIp
  platform := device.platform.map (·.name)

/-- `_device_record`. -/
def deviceRecord (id : UUID) (device : DeviceSnapshot) : SnapshotDeviceRecord where
  id := id
  deviceId := device.deviceId
  name := device.name
  model := device.model
  serialNumber := device.serialNumber
  managementIp := device.managementIp
  platform := device.platform

/-- A row of `findings`: the values of its states, the type in the observed one, and the details of
its evidence. -/
structure FindingRecord where
  expectedValue : Value
  observedValue : Value
  differenceType : String
  subjectType : String
  subjectId : String
  fieldName : Option String
  deriving DecidableEq

/-- `_finding_from_difference`, as it is stored. -/
def findingRecord (d : Difference) : FindingRecord where
  expectedValue := d.expected
  observedValue := d.observed
  differenceType := d.differenceType.value
  subjectType := d.subjectType
  subjectId := d.subjectId
  fieldName := d.fieldName

/-- What the repositories return for a comparison: its findings, the devices of its two snapshots,
and those of all live snapshots. -/
structure Repositories where
  findings : List FindingRecord
  expectedDevices : Option (List SnapshotDeviceRecord)
  observedDevices : Option (List SnapshotDeviceRecord)
  latestLiveDevices : List SnapshotDeviceRecord

/-! ## The view -/

structure ComparisonState where
  deviceId : String
  name : String
  model : Option String
  serialNumber : Option String
  managementIp : Option String
  platform : Option String
  deriving DecidableEq

def SnapshotDeviceRecord.state (r : SnapshotDeviceRecord) : ComparisonState where
  deviceId := r.deviceId
  name := r.name
  model := r.model
  serialNumber := r.serialNumber
  managementIp := r.managementIp
  platform := r.platform

structure VarianceSummary where
  fieldName : String
  expectedValue : Value
  observedValue : Value
  differenceType : String
  deriving DecidableEq

structure DeviceComparisonResponse where
  deviceId : String
  expectedState : Option ComparisonState
  observedState : Option ComparisonState
  variances : List VarianceSummary
  deriving DecidableEq

namespace DeviceView

variable (casefold : String → String)

/-- `_match_device_by_identity`. -/
def matchDeviceByIdentity (devices : List SnapshotDeviceRecord)
    (deviceId name serialNumber : Option String) : Option SnapshotDeviceRecord :=
  (deviceId.bind fun value => devices.find? fun d => d.deviceId = value) <|>
  (name.bind fun value => devices.find? fun d =>
    normalize casefold d.name = normalize casefold value) <|>
  serialNumber.bind fun value => devices.find? fun d =>
    normalizeOption casefold d.serialNumber = normalize casefold value

def expectedDevice (repos : Repositories) (deviceId : String) : Option SnapshotDeviceRecord :=
  repos.expectedDevices.bind fun devices =>
    matchDeviceByIdentity casefold devices (some deviceId) (some deviceId) none

/-- The device of a list of live ones: by the id it was asked for first, then without. -/
def observedAmong (devices : List SnapshotDeviceRecord) (deviceId : String)
    (expected : Option SnapshotDeviceRecord) : Option SnapshotDeviceRecord :=
  matchDeviceByIdentity casefold devices (some deviceId)
      (some ((expected.map (·.name)).getD deviceId)) (expected.bind (·.serialNumber)) <|>
  expected.bind fun e => matchDeviceByIdentity casefold devices none (some e.name) e.serialNumber

def observedDevice (repos : Repositories) (deviceId : String)
    (expected : Option SnapshotDeviceRecord) : Option SnapshotDeviceRecord :=
  (repos.observedDevices.bind fun devices => observedAmong casefold devices deviceId expected) <|>
  observedAmong casefold repos.latestLiveDevices deviceId expected

/-- `target_names`. -/
def targetNames (deviceId : String) (expected observed : Option SnapshotDeviceRecord) :
    List String :=
  normalize casefold deviceId ::
    ([expected, observed].filterMap fun r => r.map fun r => normalize casefold r.name)

/-- A subject is called by a name, or by a name and what follows a colon. -/
def isNamed (names : List String) (subjectId : String) : Bool :=
  normalize casefold subjectId ≠ "" && names.any fun name =>
    normalize casefold subjectId = name ||
      Text.hasPrefix (name ++ ":") (normalize casefold subjectId)

/-- The findings variances are made of: where a device was observed, nothing missing. -/
def shownFindings (repos : Repositories) (deviceId : String)
    (expected observed : Option SnapshotDeviceRecord) : List FindingRecord :=
  (repos.findings.filter fun f =>
    isNamed casefold (targetNames casefold deviceId expected observed) f.subjectId).filter fun f =>
      !(observed.isSome && Text.lower (Text.orElse f.differenceType "UNKNOWN") = "missing")

def varianceOf (f : FindingRecord) : VarianceSummary where
  fieldName := Text.orElse (f.fieldName.getD "") "unknown"
  expectedValue := f.expectedValue
  observedValue := f.observedValue
  differenceType := Text.orElse f.differenceType "UNKNOWN"

/-- The variance of an attribute that no finding is about. -/
def attributeVariance (existingFields names : List String) (fieldName : String)
    (expected observed : Option String) : List VarianceSummary :=
  match InterfaceComparator.given expected, InterfaceComparator.given observed with
  | some e, some o =>
    if normalize casefold e ≠ normalize casefold o && names.all fun n => !existingFields.contains n
    then [{ fieldName := fieldName, expectedValue := .text e, observedValue := .text o
            differenceType := "modified" }]
    else []
  | _, _ => []

def variances (repos : Repositories) (deviceId : String)
    (expected observed : Option SnapshotDeviceRecord) : List VarianceSummary :=
  let found := (shownFindings casefold repos deviceId expected observed).map varianceOf
  match expected, observed with
  | some e, some o =>
    let existingFields := found.map (·.fieldName)
    found ++
      attributeVariance casefold existingFields ["serial_number", "serial"] "serial_number"
        e.serialNumber o.serialNumber ++
      attributeVariance casefold existingFields ["model"] "model" e.model o.model
  | _, some _ => found
  | _, none =>
    if found = [] then
      [{ fieldName := "device"
         expectedValue := .text ((expected.map (·.name)).getD deviceId)
         observedValue := .none, differenceType := "missing" }]
    else found

/-- `compare_device` of a comparison; `none` if the device is in no snapshot. -/
def compareDevice (repos : Repositories) (deviceId : String) : Option DeviceComparisonResponse :=
  let expected := expectedDevice casefold repos deviceId
  let observed := observedDevice casefold repos deviceId expected
  if expected.isNone && observed.isNone then none
  else some {
    deviceId := deviceId
    expectedState := expected.map (·.state)
    observedState := observed.map (·.state)
    variances := variances casefold repos deviceId expected observed }

end DeviceView

/-! ## A pair in the view -/

section Pairs

variable (casefold : String → String) (netbox : Inventory.InventorySnapshot)
  (live : Snapshot.InventorySnapshot) (expectedId observedId : Nat → UUID) (repos : Repositories)

/-- A comparison as it was stored: each device under an id of its own, and the rows in any order. -/
structure Stored : Prop where
  expected : ∃ rows, repos.expectedDevices = some rows ∧
    rows.Perm (netbox.devices.zipIdx.map fun d => netboxDeviceRecord (expectedId d.2) d.1)
  observed : ∃ rows, repos.observedDevices = some rows ∧
    rows.Perm ((entries live).map fun e => deviceRecord (observedId e.2) e.1)
  findings : repos.findings.Perm
    ((ComparisonEngine.compare casefold none netbox live).differences.map findingRecord)

/-- What was found of a matched pair: of its fields and its interfaces, and that its name is that of
several devices. -/
def AboutPair (m : Device × DeviceSnapshot) (x : Difference) : Prop :=
  x ∈ DeviceComparator.compareMatchedDevice casefold m ∨
    x ∈ InterfaceComparator.compareDevice casefold m ∨
    x ∈ PlatformComparator.comparePlatform casefold m ∨
    x ∈ IdentityComparator.compare (InventoryMatcher.«match» casefold netbox live) ∧
      x.subjectId ∈ [normalize casefold m.1.name, normalize casefold m.2.name]

/-- What was found of another device, or of the interfaces or neighbors of another. -/
def AboutAnother (m : Device × DeviceSnapshot) (x : Difference) : Prop :=
  x.subjectType ≠ "vlan" ∧ ¬AboutPair casefold netbox live m x ∧
    x ∉ m.2.neighbors.map (NeighborComparator.unsupportedNeighbor m.2.name)

/-- The view of a NetBox device shows the pair it was matched in: both devices, what was found of
them, and nothing of another. -/
structure ViewAgrees (d : Device × Nat) (e : Entry) : Prop where
  answer : ∃ r, DeviceView.compareDevice casefold repos d.1.name = some r ∧
    r.expectedState = some (netboxDeviceRecord (expectedId d.2) d.1).state ∧
    r.observedState = some (deviceRecord (observedId e.2) e.1).state ∧
    ∀ x ∈ (ComparisonEngine.compare casefold none netbox live).differences,
      AboutPair casefold netbox live (d.1, e.1) x →
        DeviceView.varianceOf (findingRecord x) ∈ r.variances
  expected : DeviceView.expectedDevice casefold repos d.1.name =
    some (netboxDeviceRecord (expectedId d.2) d.1)
  observed : DeviceView.observedDevice casefold repos d.1.name
    (DeviceView.expectedDevice casefold repos d.1.name) = some (deviceRecord (observedId e.2) e.1)
  all : ∀ x ∈ (ComparisonEngine.compare casefold none netbox live).differences,
    AboutPair casefold netbox live (d.1, e.1) x →
      findingRecord x ∈ DeviceView.shownFindings casefold repos d.1.name
        (some (netboxDeviceRecord (expectedId d.2) d.1))
        (some (deviceRecord (observedId e.2) e.1))
  only : ∀ x ∈ (ComparisonEngine.compare casefold none netbox live).differences,
    AboutAnother casefold netbox live (d.1, e.1) x →
      findingRecord x ∉ DeviceView.shownFindings casefold repos d.1.name
        (some (netboxDeviceRecord (expectedId d.2) d.1))
        (some (deviceRecord (observedId e.2) e.1))

/-- The first row of a snapshot that has a property. -/
def first (rows : Option (List SnapshotDeviceRecord)) (p : SnapshotDeviceRecord → Bool) :
    Option SnapshotDeviceRecord :=
  rows.bind fun rows => rows.find? p

/-- The names of a pair. -/
def pairNames (m : Device × DeviceSnapshot) : List String :=
  [normalize casefold m.1.name, normalize casefold m.2.name]

/-- The first row the view takes is that of a live device: of those with the name as their id if
there are any, else of those of the name, else of those of the serial number. -/
def TakenFirst (d : Device) (row : SnapshotDeviceRecord) : Prop :=
  if ∃ l ∈ live.devices, l.deviceId = d.name then
    first repos.observedDevices (fun r => r.deviceId = d.name) = some row
  else if ∃ l ∈ live.devices, normalize casefold l.name = normalize casefold d.name then
    first repos.observedDevices
      (fun r => normalize casefold r.name = normalize casefold d.name) = some row
  else
    first repos.observedDevices
      (fun r => some (normalizeOption casefold r.serialNumber) = serialKey casefold d) = some row

/-- The rows of the pair come first, nothing that was found of it is missing, and of all that is not
missing its own is called by its names, and that of other devices is not. -/
structure PairFirst (d : Device × Nat) (e : Entry) : Prop where
  expected : first repos.expectedDevices (fun r => r.name = d.1.name) =
    some (netboxDeviceRecord (expectedId d.2) d.1)
  observed : TakenFirst casefold live repos d.1 (deviceRecord (observedId e.2) e.1)
  present : ∀ x ∈ (ComparisonEngine.compare casefold none netbox live).differences,
    AboutPair casefold netbox live (d.1, e.1) x → x.differenceType ≠ .missing
  named : ∀ x ∈ (ComparisonEngine.compare casefold none netbox live).differences,
    AboutPair casefold netbox live (d.1, e.1) x →
      DeviceView.isNamed casefold (pairNames casefold (d.1, e.1)) x.subjectId = true
  others : ∀ x ∈ (ComparisonEngine.compare casefold none netbox live).differences,
    AboutAnother casefold netbox live (d.1, e.1) x → x.differenceType ≠ .missing →
      DeviceView.isNamed casefold (pairNames casefold (d.1, e.1)) x.subjectId = false

variable {casefold netbox live expectedId observedId repos}

/-! ## What the view selects -/

theorem first_isSome {rows : List SnapshotDeviceRecord} {p : SnapshotDeviceRecord → Bool}
    {r : SnapshotDeviceRecord} (hr : r ∈ rows) (hp : p r = true) :
    ∃ r', rows.find? p = some r' := Option.isSome_iff_exists.1 (List.find?_isSome.2 ⟨r, hr, hp⟩)

/-- A NetBox device is stored under its name as id, so the view finds the first of the name. -/
theorem expectedDevice_eq (h : Stored casefold netbox live expectedId observedId repos)
    {d : Device × Nat} (hd : d ∈ netbox.devices.zipIdx) :
    DeviceView.expectedDevice casefold repos d.1.name =
      first repos.expectedDevices (fun r => r.name = d.1.name) := by
  obtain ⟨rows, hrows, hperm⟩ := h.expected
  have hid : ∀ r ∈ rows, r.deviceId = r.name := by
    intro r hr
    obtain ⟨d', _, rfl⟩ := List.mem_map.1 (hperm.mem_iff.1 hr)
    rfl
  have hfind : rows.find? (fun r => r.deviceId = d.1.name) =
      rows.find? (fun r => r.name = d.1.name) :=
    List.find?_congr fun r hr => by rw [hid r hr]
  have hmem : netboxDeviceRecord (expectedId d.2) d.1 ∈ rows :=
    hperm.mem_iff.2 (List.mem_map_of_mem hd)
  obtain ⟨r, hr⟩ := first_isSome (p := fun r => r.name = d.1.name) hmem (decide_eq_true rfl)
  unfold DeviceView.expectedDevice first DeviceView.matchDeviceByIdentity
  rw [hrows]
  simp only [Option.bind_some, hfind, hr]
  rfl

section Matching

variable {rows : List SnapshotDeviceRecord} {deviceId name : String} {serial : Option String}
  {row : SnapshotDeviceRecord}

theorem match_id (h : rows.find? (fun r => r.deviceId = deviceId) = some row) :
    DeviceView.matchDeviceByIdentity casefold rows (some deviceId) (some name) serial =
      some row := by
  unfold DeviceView.matchDeviceByIdentity
  rw [Option.bind_some, h]
  rfl

theorem match_name (hid : rows.find? (fun r => r.deviceId = deviceId) = none)
    (h : rows.find? (fun r => normalize casefold r.name = normalize casefold name) = some row) :
    DeviceView.matchDeviceByIdentity casefold rows (some deviceId) (some name) serial =
      some row := by
  unfold DeviceView.matchDeviceByIdentity
  rw [Option.bind_some, Option.bind_some, hid, h]
  rfl

theorem match_serial (hid : rows.find? (fun r => r.deviceId = deviceId) = none)
    (hname : rows.find? (fun r => normalize casefold r.name = normalize casefold name) = none)
    {value : String} (hserial : serial = some value)
    (h : rows.find? (fun r =>
      normalizeOption casefold r.serialNumber = normalize casefold value) = some row) :
    DeviceView.matchDeviceByIdentity casefold rows (some deviceId) (some name) serial =
      some row := by
  unfold DeviceView.matchDeviceByIdentity
  rw [Option.bind_some, Option.bind_some, hid, hname, hserial, Option.bind_some, h]
  rfl

end Matching

/-- What the identity says of the observed rows is what the view takes. -/
theorem observedDevice_of_match {rows : List SnapshotDeviceRecord} {d : Device} {id : UUID}
    {row : SnapshotDeviceRecord} (hrows : repos.observedDevices = some rows)
    (h : DeviceView.matchDeviceByIdentity casefold rows (some d.name) (some d.name) d.serial =
      some row) :
    DeviceView.observedDevice casefold repos d.name (some (netboxDeviceRecord id d)) =
      some row := by
  have hexpected : (netboxDeviceRecord id d).name = d.name ∧
      (netboxDeviceRecord id d).serialNumber = d.serial := ⟨rfl, rfl⟩
  unfold DeviceView.observedDevice DeviceView.observedAmong
  simp only [hrows, Option.bind_some, Option.map_some, Option.getD_some, hexpected, h]
  rfl

/-- The observed rows are those of the live devices. -/
theorem Stored.observedRows (h : Stored casefold netbox live expectedId observedId repos) :
    ∃ rows, repos.observedDevices = some rows ∧
      (∀ e ∈ entries live, deviceRecord (observedId e.2) e.1 ∈ rows) ∧
      ∀ r ∈ rows, ∃ e ∈ entries live, r = deviceRecord (observedId e.2) e.1 := by
  obtain ⟨rows, hrows, hperm⟩ := h.observed
  refine ⟨rows, hrows, fun e he => hperm.mem_iff.2 (List.mem_map_of_mem he), fun r hr => ?_⟩
  obtain ⟨e, he, rfl⟩ := List.mem_map.1 (hperm.mem_iff.1 hr)
  exact ⟨e, he, rfl⟩

/-- A matched device whose name no live device has was matched by its serial number. -/
theorem serial_of_nameless {d : Device} {e : Entry} (hnameless : Nameless casefold live d)
    (he : findEntry casefold live d = some e) :
    ∃ value, d.serial = some value ∧ serialKey casefold d = some (normalize casefold value) ∧
      normalizeOption casefold e.1.serialNumber = normalize casefold value := by
  obtain ⟨hmem, hfound⟩ := findEntry_some he
  rcases hfound with hsame | ⟨_, k, hk, _, hserial⟩
  · exact absurd hsame (hnameless e.1 (entry_device hmem))
  · obtain ⟨value, hvalue, rfl⟩ := Option.map_eq_some_iff.1 hk
    exact ⟨value, (Option.filter_eq_some_iff.1 hvalue).1, hk, hserial⟩

/-- Of a matched device with its own row as the expected one, the view finds the first row of the
id, the name or the serial number, in the observed snapshot. -/
theorem observedDevice_iff (h : Stored casefold netbox live expectedId observedId repos)
    {d : Device × Nat} {e : Entry} (he : findEntry casefold live d.1 = some e)
    (row : SnapshotDeviceRecord) :
    DeviceView.observedDevice casefold repos d.1.name
        (some (netboxDeviceRecord (expectedId d.2) d.1)) = some row ↔
      TakenFirst casefold live repos d.1 row := by
  obtain ⟨rows, hrows, hrow, hlive⟩ := h.observedRows
  unfold TakenFirst first
  rw [hrows, Option.bind_some, Option.bind_some, Option.bind_some]
  by_cases hid : ∃ l ∈ live.devices, l.deviceId = d.1.name
  · rw [if_pos hid]
    obtain ⟨l, hl, hname⟩ := hid
    obtain ⟨e', he', rfl⟩ := mem_entries hl
    obtain ⟨r, hr⟩ := first_isSome (p := fun r => r.deviceId = d.1.name) (hrow e' he')
      (decide_eq_true hname)
    rw [observedDevice_of_match hrows (match_id hr), hr]
  · have hnone : rows.find? (fun r => r.deviceId = d.1.name) = none := by
      refine List.find?_eq_none.2 fun r hr heq => hid ?_
      obtain ⟨e', he', rfl⟩ := hlive r hr
      exact ⟨e'.1, entry_device he', of_decide_eq_true heq⟩
    rw [if_neg hid]
    by_cases hname : ∃ l ∈ live.devices, normalize casefold l.name = normalize casefold d.1.name
    · rw [if_pos hname]
      obtain ⟨l, hl, hsame⟩ := hname
      obtain ⟨e', he', rfl⟩ := mem_entries hl
      obtain ⟨r, hr⟩ := first_isSome
        (p := fun r => normalize casefold r.name = normalize casefold d.1.name) (hrow e' he')
        (decide_eq_true hsame)
      rw [observedDevice_of_match hrows (match_name hnone hr), hr]
    · rw [if_neg hname]
      have hnameless : Nameless casefold live d.1 := fun l hl hsame => hname ⟨l, hl, hsame⟩
      have hnoname : rows.find?
          (fun r => normalize casefold r.name = normalize casefold d.1.name) = none := by
        refine List.find?_eq_none.2 fun r hr heq => ?_
        obtain ⟨e', he', rfl⟩ := hlive r hr
        exact hnameless e'.1 (entry_device he') (of_decide_eq_true heq)
      -- the matcher has found the device by its serial number
      obtain ⟨value, hnumber, hkey, hserial⟩ := serial_of_nameless hnameless he
      obtain ⟨r, hr⟩ := first_isSome (p := fun r =>
        normalizeOption casefold r.serialNumber = normalize casefold value)
        (hrow e (findEntry_some he).1) (decide_eq_true hserial)
      simp only [hkey, Option.some.injEq]
      rw [observedDevice_of_match hrows (match_serial hnone hnoname hnumber hr), hr]

theorem findingRecord_missing (x : Difference) :
    Text.lower (Text.orElse (findingRecord x).differenceType "UNKNOWN") = "missing" ↔
      x.differenceType = .missing := by
  unfold findingRecord
  dsimp only
  cases x.differenceType <;> decide

/-- The name that is asked for is that of the NetBox device. -/
theorem isNamed_targetNames (d : Device) (l : DeviceSnapshot) (id id' : UUID) (subjectId : String) :
    DeviceView.isNamed casefold (DeviceView.targetNames casefold d.name
        (some (netboxDeviceRecord id d)) (some (deviceRecord id' l))) subjectId =
      DeviceView.isNamed casefold (pairNames casefold (d, l)) subjectId := by
  have htargets : DeviceView.targetNames casefold d.name (some (netboxDeviceRecord id d))
      (some (deviceRecord id' l)) = normalize casefold d.name :: pairNames casefold (d, l) := rfl
  rw [htargets]
  unfold DeviceView.isNamed pairNames
  simp only [List.any_cons, Bool.or_self_left]

/-- A finding is shown if it is not missing and is called by a name of the pair. -/
theorem mem_shownFindings (h : Stored casefold netbox live expectedId observedId repos)
    {d : Device × Nat} {e : Entry} {x : Difference}
    (hx : x ∈ (ComparisonEngine.compare casefold none netbox live).differences) :
    findingRecord x ∈ DeviceView.shownFindings casefold repos d.1.name
        (some (netboxDeviceRecord (expectedId d.2) d.1))
        (some (deviceRecord (observedId e.2) e.1)) ↔
      x.differenceType ≠ .missing ∧
        DeviceView.isNamed casefold (pairNames casefold (d.1, e.1)) x.subjectId = true := by
  have hmem : findingRecord x ∈ repos.findings := h.findings.mem_iff.2 (List.mem_map_of_mem hx)
  have hmissing := findingRecord_missing x
  unfold DeviceView.shownFindings
  rw [List.mem_filter, List.mem_filter]
  change (findingRecord x ∈ repos.findings ∧ DeviceView.isNamed casefold _ x.subjectId = true) ∧
    _ ↔ _
  rw [isNamed_targetNames]
  by_cases htype : x.differenceType = .missing
  · simp [hmissing, htype]
  · simp [hmissing, htype, hmem]

/-- With both devices found, the answer has their states and a variance of every finding shown. -/
theorem compareDevice_variances {deviceId : String} {expected observed : SnapshotDeviceRecord}
    (hexpected : DeviceView.expectedDevice casefold repos deviceId = some expected)
    (hobserved : DeviceView.observedDevice casefold repos deviceId (some expected) =
      some observed) :
    ∃ r, DeviceView.compareDevice casefold repos deviceId = some r ∧
      r.expectedState = some expected.state ∧ r.observedState = some observed.state ∧
      ∀ f ∈ DeviceView.shownFindings casefold repos deviceId (some expected) (some observed),
        DeviceView.varianceOf f ∈ r.variances := by
  unfold DeviceView.compareDevice
  rw [hexpected]
  dsimp only
  rw [hobserved]
  refine ⟨_, rfl, rfl, rfl, fun f hf => ?_⟩
  unfold DeviceView.variances
  dsimp only
  rw [List.append_assoc]
  exact List.mem_append_left _ (List.mem_map_of_mem hf)

/-- The view of a device that was matched shows its pair if and only if the pair comes first: its
rows, and its names in what was found. -/
theorem view_agrees_iff (casefold : String → String) (netbox : Inventory.InventorySnapshot)
    (live : Snapshot.InventorySnapshot) (expectedId observedId : Nat → UUID) (repos : Repositories)
    (h : Stored casefold netbox live expectedId observedId repos) (d : Device × Nat)
    (hd : d ∈ netbox.devices.zipIdx) (e : Entry) (he : findEntry casefold live d.1 = some e) :
    ViewAgrees casefold netbox live expectedId observedId repos d e ↔
      PairFirst casefold netbox live expectedId observedId repos d e := by
  have hexpected := expectedDevice_eq h hd
  constructor
  · intro hview
    have hobserved := hview.observed
    rw [hview.expected] at hobserved
    exact {
      expected := hexpected.symm.trans hview.expected
      observed := (observedDevice_iff h he _).1 hobserved
      present := fun x hx habout => ((mem_shownFindings h hx).1 (hview.all x hx habout)).1
      named := fun x hx habout => ((mem_shownFindings h hx).1 (hview.all x hx habout)).2
      others := fun x hx habout htype => Bool.eq_false_iff.2 fun hnamed =>
        hview.only x hx habout ((mem_shownFindings h hx).2 ⟨htype, hnamed⟩) }
  · intro hfirst
    have hown := hexpected.trans hfirst.expected
    have hlive := (observedDevice_iff h he _).2 hfirst.observed
    have hall : ∀ x ∈ (ComparisonEngine.compare casefold none netbox live).differences,
        AboutPair casefold netbox live (d.1, e.1) x →
          findingRecord x ∈ DeviceView.shownFindings casefold repos d.1.name
            (some (netboxDeviceRecord (expectedId d.2) d.1))
            (some (deviceRecord (observedId e.2) e.1)) := fun x hx habout =>
      (mem_shownFindings h hx).2 ⟨hfirst.present x hx habout, hfirst.named x hx habout⟩
    obtain ⟨r, hr, hstate, hstate', hvariances⟩ := compareDevice_variances hown hlive
    refine {
      answer := ⟨r, hr, hstate, hstate', fun x hx habout => hvariances _ (hall x hx habout)⟩
      expected := hown
      observed := by rw [hown, hlive]
      all := hall
      only := ?_ }
    intro x hx habout hshown
    obtain ⟨htype, hnamed⟩ := (mem_shownFindings h hx).1 hshown
    rw [hfirst.others x hx habout htype] at hnamed
    cases hnamed

/-- A router with two interfaces, of which one is live. -/
def hubDevice : Device where
  name := "rtr1"
  deviceType := { manufacturer := { name := "Cisco", slug := "cisco" }
                  model := "C8300", slug := "c8300" }
  interfaces := [{ name := "Gi0/0", deviceName := "rtr1" },
    { name := "Gi0/1", deviceName := "rtr1" }]

def hubRouter : DeviceSnapshot where
  deviceId := "9"
  name := "rtr1"
  interfaces := [{ name := "Gi0/0" }]

def hubNetbox : Inventory.InventorySnapshot where
  devices := [hubDevice]

def hubLive : Snapshot.InventorySnapshot where
  devices := [hubRouter]

def hubRepositories : Repositories where
  findings := (ComparisonEngine.compare Text.lower none hubNetbox hubLive).differences.map
    findingRecord
  expectedDevices := some [netboxDeviceRecord 1 hubDevice]
  observedDevices := some [deviceRecord 2 hubRouter]
  latestLiveDevices := [deviceRecord 2 hubRouter]

theorem hub_stored :
    Stored Text.lower hubNetbox hubLive (fun _ => 1) (fun _ => 2) hubRepositories where
  expected := ⟨_, rfl, .refl _⟩
  observed := ⟨_, rfl, .refl _⟩
  findings := .refl _

theorem view_agrees_iff_hub :
    ViewAgrees Text.lower hubNetbox hubLive (fun _ => 1) (fun _ => 2) hubRepositories
        (hubDevice, 0) (hubRouter, 0) ↔
      PairFirst Text.lower hubNetbox hubLive (fun _ => 1) (fun _ => 2) hubRepositories
        (hubDevice, 0) (hubRouter, 0) :=
  view_agrees_iff Text.lower hubNetbox hubLive (fun _ => 1) (fun _ => 2) hubRepositories hub_stored
    (hubDevice, 0) (by decide) (hubRouter, 0) (by decide)

/-- The interface that is missing live is not shown. -/
theorem missing_interface_is_hidden :
    ¬∀ (casefold : String → String) (netbox : Inventory.InventorySnapshot)
      (live : Snapshot.InventorySnapshot) (expectedId observedId : Nat → UUID)
      (repos : Repositories), Stored casefold netbox live expectedId observedId repos →
        ∀ d ∈ netbox.devices.zipIdx, ∀ e, findEntry casefold live d.1 = some e →
          ViewAgrees casefold netbox live expectedId observedId repos d e := by
  intro hall
  have hview := hall Text.lower hubNetbox hubLive (fun _ => 1) (fun _ => 2) hubRepositories
    hub_stored (hubDevice, 0) (by decide) (hubRouter, 0) (by decide)
  have hfound : InterfaceComparator.missingInterface hubDevice
      { name := "Gi0/1", deviceName := "rtr1" } ∈
        (ComparisonEngine.compare Text.lower none hubNetbox hubLive).differences := by
    decide
  have habout : InterfaceComparator.missingInterface hubDevice
      { name := "Gi0/1", deviceName := "rtr1" } ∈
        InterfaceComparator.compareDevice Text.lower (hubDevice, hubRouter) := by
    decide
  have hhidden : DeviceView.shownFindings Text.lower hubRepositories "rtr1"
      (some (netboxDeviceRecord 1 hubDevice)) (some (deviceRecord 2 hubRouter)) = [] := by
    decide
  have hshown := hview.all _ hfound (.inr (.inl habout))
  rw [show (hubDevice, 0).1.name = "rtr1" from rfl, hhidden] at hshown
  cases hshown

end Pairs

end Comparison
end NetOps
