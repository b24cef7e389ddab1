import NetOps.Comparison.Drift
import NetOps.Inventory.Mapper

/-!
# Comparison.Interfaces

The interfaces of a NetBox dataset on their way to the comparison.

NetBox lists interfaces beside the devices and `to_snapshot` keeps them so; the comparator reads
them from the devices, where the mapper leaves none. So against a live snapshot that carries
exactly the interfaces of the dataset, every interface that is looked at is unexpected, and the
comparison is free of interface differences if and only if it looks at none
(`no_interface_drift_iff`).
-/

namespace NetOps
namespace Comparison

open Inventory (Device Interface)
open Snapshot (DeviceSnapshot InterfaceSnapshot)

/-- What a live device shows of an interface that is as NetBox has it. -/
def mirror (i : NetBoxInterface) : InterfaceSnapshot where
  name := i.name
  adminStatus := some (if i.enabled then "up" else "down")
  description := i.description
  macAddress := i.macAddress

def interfacesOf (dataset : NetBoxInventoryDataset) (name : String) : List NetBoxInterface :=
  dataset.interfaces.filter fun i => referenceName i.device = name

/-- The live devices carry exactly the interfaces of the dataset. -/
structure Mirrors (dataset : NetBoxInventoryDataset) (live : Snapshot.InventorySnapshot) :
    Prop where
  named : ∀ i ∈ dataset.interfaces, ∃ d ∈ dataset.devices, d.name = referenceName i.device
  present : ∀ d ∈ dataset.devices, ∃ l ∈ live.devices, l.name = d.name
  carried : ∀ l ∈ live.devices, l.interfaces.Perm ((interfacesOf dataset l.name).map mirror)

def NoInterfaceDrift (result : InventoryComparisonResult) : Prop :=
  ∀ d ∈ result.differences, d.subjectType = "interface" →
    d.differenceType ∉ [.missing, .unexpected, .modified]

/-- The last live device of every dataset device's name is one no interface refers to. -/
def Unlooked (casefold : String → String) (dataset : NetBoxInventoryDataset)
    (live : Snapshot.InventorySnapshot) : Prop :=
  ∀ d ∈ dataset.devices, ∀ l,
    (live.devices.filter fun l => normalize casefold l.name = normalize casefold d.name).getLast? =
      some l →
    ∀ i ∈ dataset.interfaces, referenceName i.device ≠ l.name

variable {casefold : String → String} {dataset : NetBoxInventoryDataset}
  {live : Snapshot.InventorySnapshot}

/-! ## What the mapper leaves of interfaces -/

theorem device_interfaces (payload : NetBoxDevice) :
    (NetBoxInventoryMapper.device payload).interfaces = [] := rfl

/-- Without NetBox interfaces, all of a live device's are unexpected. -/
theorem mem_compareDevice_bare {m : Device × DeviceSnapshot} (hbare : m.1.interfaces = [])
    {d : Difference} (h : d ∈ InterfaceComparator.compareDevice casefold m) :
    ∃ j ∈ m.2.interfaces, d = InterfaceComparator.unexpectedInterface m.1 j := by
  rcases mem_compareDevice.1 h with ⟨i, hi, _⟩ | ⟨j, hj, _, hd⟩
  · rw [hbare] at hi
    cases hi
  · exact ⟨j, (mem_unknownInterfaces.1 hj).1, hd⟩

theorem unexpected_of_bare (casefold : String → String) {m : Device × DeviceSnapshot}
    (hbare : m.1.interfaces = [])
    {j : InterfaceSnapshot} (hj : j ∈ m.2.interfaces) :
    ∃ j', InterfaceComparator.unexpectedInterface m.1 j' ∈
      InterfaceComparator.compareDevice casefold m := by
  obtain ⟨j', hget⟩ := Dict.get?_byKey_isSome
    (fun j : InterfaceSnapshot => normalize casefold j.name) hj
  obtain ⟨hmem, hkey⟩ := Dict.get?_byKey hget
  refine ⟨j', mem_compareDevice.2 (.inr ⟨j', ?_, ?_, rfl⟩)⟩
  · rw [mem_unknownInterfaces]
    refine ⟨hmem, ?_⟩
    unfold InterfaceComparator.netboxInterfaces
    rw [hbare]
    rfl
  · rw [hkey]
    exact hget

/-! ## Which live devices are looked at -/

/-- In a mirrored snapshot every dataset device is matched, by name. -/
theorem mem_matched (h : Mirrors dataset live) {m : Device × DeviceSnapshot} :
    m ∈ matched casefold (InventoryMapper.toSnapshot dataset) live ↔
      ∃ d ∈ dataset.devices, m.1 = NetBoxInventoryMapper.device d ∧
        (live.devices.filter fun l =>
          normalize casefold l.name = normalize casefold d.name).getLast? = some m.2 := by
  have hfind : ∀ d ∈ dataset.devices,
      InventoryMatcher.findLive casefold live.devices (NetBoxInventoryMapper.device d) =
        (live.devices.filter fun l =>
          normalize casefold l.name = normalize casefold d.name).getLast? := by
    intro d hd
    obtain ⟨l, hl, hname⟩ := h.present d hd
    obtain ⟨l', hget⟩ := Dict.get?_byKey_isSome
      (fun l : DeviceSnapshot => normalize casefold l.name) hl
    rw [hname] at hget
    unfold InventoryMatcher.findLive InventoryMatcher.liveByName
    dsimp only [NetBoxInventoryMapper.device]
    rw [hget]
    dsimp only
    rw [← hget, Dict.get?_byKey_eq_getLast?]
  unfold matched InventoryMatcher.«match» InventoryMapper.toSnapshot
  dsimp only
  rw [List.mem_filterMap]
  constructor
  · rintro ⟨device, hdevice, hm⟩
    obtain ⟨d, hd, rfl⟩ := List.mem_map.1 hdevice
    obtain ⟨l, hl, rfl⟩ := Option.map_eq_some_iff.1 hm
    rw [hfind d hd] at hl
    exact ⟨d, hd, rfl, hl⟩
  · rintro ⟨d, hd, hdevice, hl⟩
    refine ⟨NetBoxInventoryMapper.device d, List.mem_map_of_mem hd, ?_⟩
    rw [hfind d hd, hl, ← hdevice]
    rfl

theorem bare_of_matched {m : Device × DeviceSnapshot}
    (hm : m ∈ matched casefold (InventoryMapper.toSnapshot dataset) live) :
    m.1.interfaces = [] := by
  unfold matched InventoryMatcher.«match» InventoryMapper.toSnapshot at hm
  obtain ⟨device, hdevice, hm⟩ := List.mem_filterMap.1 hm
  obtain ⟨d, _, rfl⟩ := List.mem_map.1 hdevice
  obtain ⟨l, _, rfl⟩ := Option.map_eq_some_iff.1 hm
  exact device_interfaces d

/-- A live device has no interfaces if no interface of the dataset refers to it. -/
theorem interfaces_eq_nil (h : Mirrors dataset live) {l : DeviceSnapshot}
    (hl : l ∈ live.devices) :
    l.interfaces = [] ↔ ∀ i ∈ dataset.interfaces, referenceName i.device ≠ l.name := by
  have hperm := h.carried l hl
  constructor
  · intro hnil
    rw [hnil, List.nil_perm, List.map_eq_nil_iff] at hperm
    unfold interfacesOf at hperm
    simpa using hperm
  · intro hnone
    have hnil : interfacesOf dataset l.name = [] := by
      unfold interfacesOf
      simpa using hnone
    rw [hnil] at hperm
    exact List.perm_nil.1 hperm

theorem unlooked_iff (h : Mirrors dataset live) :
    Unlooked casefold dataset live ↔
      ∀ m ∈ matched casefold (InventoryMapper.toSnapshot dataset) live, m.2.interfaces = [] := by
  have hmem : ∀ {d : NetBoxDevice} {l : DeviceSnapshot},
      (live.devices.filter fun l =>
        normalize casefold l.name = normalize casefold d.name).getLast? = some l →
      l ∈ live.devices := by
    intro d l hl
    exact (List.mem_filter.1 (List.mem_of_getLast? hl)).1
  constructor
  · intro hall m hm
    obtain ⟨d, hd, _, hl⟩ := (mem_matched h).1 hm
    exact (interfaces_eq_nil h (hmem hl)).2 (hall d hd m.2 hl)
  · intro hall d hd l hl
    have hm := hall (NetBoxInventoryMapper.device d, l) ((mem_matched h).2 ⟨d, hd, rfl, hl⟩)
    exact (interfaces_eq_nil h (hmem hl)).1 hm

/-! ## The reported differences -/

/-- Interface differences are reported if and only if a matched live device has interfaces. -/
theorem noInterfaceDrift_iff_matched :
    NoInterfaceDrift
        (ComparisonEngine.compare casefold none (InventoryMapper.toSnapshot dataset) live) ↔
      ∀ m ∈ matched casefold (InventoryMapper.toSnapshot dataset) live, m.2.interfaces = [] := by
  constructor
  · intro hnone m hm
    refine List.eq_nil_iff_forall_not_mem.2 fun j hj => ?_
    obtain ⟨j', hcompared⟩ := unexpected_of_bare casefold (bare_of_matched hm) hj
    have hfound := mem_found.2 (.inr (.inr (.inl ⟨m, hm, hcompared⟩)))
    obtain ⟨d, hkept, hd, hkey⟩ := registered_of_mem hfound
    obtain ⟨htype, hsubject⟩ := key_subject hkey (subject_plain (subject_of_found hd))
      (subject_plain (subject_of_found hfound))
    have hunexpected : d.differenceType = .unexpected := htype
    refine hnone d hkept hsubject ?_
    rw [hunexpected]
    decide
  · intro hall d hd hsubject _
    have hinterface := found_by_subject (mem_of_mem_registered hd)
    simp only [hsubject, String.reduceEq, true_and, false_and, or_false, false_or] at hinterface
    obtain ⟨m, hm, hcompared⟩ := hinterface
    obtain ⟨j, hj, _⟩ := mem_compareDevice_bare (bare_of_matched hm) hcompared
    rw [hall m hm] at hj
    cases hj

/-- Mapped and compared with a live snapshot that carries exactly its interfaces, a dataset is
without interface differences if and only if none of the interfaces is looked at. -/
theorem no_interface_drift_iff (casefold : String → String) {dataset : NetBoxInventoryDataset}
    {live : Snapshot.InventorySnapshot} (h : Mirrors dataset live) :
    NoInterfaceDrift
        (ComparisonEngine.compare casefold none (InventoryMapper.toSnapshot dataset) live) ↔
      Unlooked casefold dataset live := by
  rw [unlooked_iff h]
  exact noInterfaceDrift_iff_matched

/-- A router with one interface. -/
def routerDataset : NetBoxInventoryDataset where
  devices := [{ id := 1, name := "rtr1", deviceType := { id := 1, model := "C8300" } }]
  interfaces := [{ id := 1, name := "Gi0/0", device := { id := 1, name := some "rtr1" } }]

def routerLive : Snapshot.InventorySnapshot where
  devices := [
    { deviceId := "1", name := "rtr1",
      interfaces := [{ name := "Gi0/0", adminStatus := some "up" }] }]

theorem routerLive_mirrors : Mirrors routerDataset routerLive := by
  have hname : referenceName { id := 1, name := some "rtr1" } = "rtr1" := by decide
  have hinterfaces : interfacesOf routerDataset "rtr1" = routerDataset.interfaces := by
    simp [interfacesOf, routerDataset, hname]
  constructor
  · intro i hi
    simp only [routerDataset, List.mem_singleton] at hi
    subst hi
    exact ⟨_, List.mem_singleton_self _, hname.symm⟩
  · intro d hd
    simp only [routerDataset, List.mem_singleton] at hd
    subst hd
    exact ⟨_, List.mem_singleton_self _, rfl⟩
  · intro l hl
    simp only [routerLive, List.mem_singleton] at hl
    subst hl
    rw [hinterfaces]
    exact List.Perm.refl _

theorem no_interface_drift_iff_router :
    NoInterfaceDrift
        (ComparisonEngine.compare Text.lower none (InventoryMapper.toSnapshot routerDataset)
          routerLive) ↔
      Unlooked Text.lower routerDataset routerLive :=
  no_interface_drift_iff Text.lower routerLive_mirrors

/-- The router's only interface is as NetBox has it, and unexpected. -/
theorem interface_drift_is_reported :
    Mirrors routerDataset routerLive ∧
      ¬NoInterfaceDrift
        (ComparisonEngine.compare Text.lower none (InventoryMapper.toSnapshot routerDataset)
          routerLive) := by
  refine ⟨routerLive_mirrors, fun hnone => ?_⟩
  have hreported : DifferenceBuilder.unexpected "interface" "rtr1:Gi0/0" "Gi0/0"
      "Live interface Gi0/0 is not in NetBox." ∈
        (ComparisonEngine.compare Text.lower none (InventoryMapper.toSnapshot routerDataset)
          routerLive).differences := by
    decide
  exact hnone _ hreported rfl (by decide)

end Comparison
end NetOps
