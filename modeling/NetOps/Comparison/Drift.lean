import Mathlib.Data.List.Dedup
import Mathlib.Data.List.Pairwise
import NetOps.Comparison.Engine

/-!
# Comparison.Drift

What a comparison of two snapshots has to report, and when it does.

`drifts` lists every discrepancy between the objects of the two snapshots, one by one. The engine
loses some on three ways: the registry keeps one difference of a key; the comparators put
interfaces and VLANs into dictionaries, where the last of a name or an id hides the others; and the
matcher drops live devices by the id of a matched one. No drift is lost if and only if none of the
three happens (`no_drift_lost_iff`).
-/

namespace NetOps
namespace Comparison

open Inventory (Device Interface VLAN)
open Snapshot (DeviceSnapshot InterfaceSnapshot VLANSnapshot)

variable (casefold : String → String) (netbox : Inventory.InventorySnapshot)
  (live : Snapshot.InventorySnapshot)

/-! ## Drift -/

/-- The pairs of devices the matcher finds. -/
def matched : List (Device × DeviceSnapshot) :=
  (InventoryMatcher.«match» casefold netbox live).matchedDevices

/-- The names, blank ones aside, that more than one device has. -/
def duplicatedNames (names : List String) : List String :=
  names.dedup.filter fun name => name ≠ "" ∧ 2 ≤ names.count name

/-- The live devices that no NetBox device is matched with. -/
def unmatchedLive : List DeviceSnapshot :=
  live.devices.filter fun l => ∀ m ∈ matched casefold netbox live, m.2 ≠ l

def identityDrift : List Difference :=
  (duplicatedNames (netbox.devices.map fun d => normalize casefold d.name)).map
      IdentityComparator.netboxDuplicate ++
    (duplicatedNames (live.devices.map fun d => normalize casefold d.name)).map
      IdentityComparator.liveDuplicate

def deviceDrift : List Difference :=
  (InventoryMatcher.«match» casefold netbox live).missingDevices.map
      DeviceComparator.missingDevice ++
    (unmatchedLive casefold netbox live).map DeviceComparator.unexpectedDevice ++
    (matched casefold netbox live).flatMap (DeviceComparator.compareMatchedDevice casefold)

/-- The live interfaces of the name of a NetBox one. -/
def counterparts (m : Device × DeviceSnapshot) (i : Interface) : List InterfaceSnapshot :=
  m.2.interfaces.filter fun j => normalize casefold j.name = normalize casefold i.name

/-- What is to be said of one interface of a NetBox device. -/
def netboxInterfaceDrift (m : Device × DeviceSnapshot) (i : Interface) : List Difference :=
  if counterparts casefold m i = [] then [InterfaceComparator.missingInterface m.1 i]
  else (counterparts casefold m i).flatMap (InterfaceComparator.compareInterface casefold m.1 i)

/-- The live interfaces that have no name of a NetBox one. -/
def unknownInterfaces (m : Device × DeviceSnapshot) : List InterfaceSnapshot :=
  m.2.interfaces.filter fun j =>
    ∀ i ∈ m.1.interfaces, normalize casefold i.name ≠ normalize casefold j.name

def interfaceDrift (m : Device × DeviceSnapshot) : List Difference :=
  m.1.interfaces.flatMap (netboxInterfaceDrift casefold m) ++
    (unknownInterfaces casefold m).map (InterfaceComparator.unexpectedInterface m.1)

/-- What is to be said of the live VLANs that have the id of a NetBox one. -/
def netboxVlanDrift (n : VLAN) : List Difference :=
  ((live.devices.flatMap (·.vlans)).filter fun v => v.vlanId = n.vid).flatMap
    (VLANComparator.compareVlan casefold n)

/-- Every drift between the two snapshots. -/
def drifts : List Difference :=
  identityDrift casefold netbox live ++ deviceDrift casefold netbox live ++
    (matched casefold netbox live).flatMap (interfaceDrift casefold) ++
    netbox.vlans.flatMap (netboxVlanDrift casefold live) ++
    (matched casefold netbox live).flatMap (PlatformComparator.comparePlatform casefold)

/-- The comparison reports every drift, each by a difference of its own, and counts it. -/
def NoDriftLost (result : InventoryComparisonResult) : Prop :=
  (drifts casefold netbox live).Subperm result.differences ∧
    ∀ t, ((drifts casefold netbox live).countP fun d => d.differenceType = t) ≤
      result.metrics.count t

/-! ## What hides a drift -/

/-- Of the interfaces of a matched pair, the ones with drift are the last of their names. -/
structure InterfacesVisible (m : Device × DeviceSnapshot) : Prop where
  missing : ∀ i ∈ m.1.interfaces, counterparts casefold m i = [] →
    (InterfaceComparator.netboxInterfaces casefold m.1).get? (normalize casefold i.name) = some i
  differing : ∀ i ∈ m.1.interfaces, ∀ j ∈ counterparts casefold m i,
    InterfaceComparator.compareInterface casefold m.1 i j ≠ [] →
      (InterfaceComparator.netboxInterfaces casefold m.1).get? (normalize casefold i.name) =
        some i ∧
      (InterfaceComparator.liveInterfaces casefold m.2).get? (normalize casefold i.name) = some j
  unexpected : ∀ j ∈ unknownInterfaces casefold m,
    (InterfaceComparator.liveInterfaces casefold m.2).get? (normalize casefold j.name) = some j

/-- Nothing hides a drift of the two snapshots. -/
structure Unhidden : Prop where
  keys : ((drifts casefold netbox live).map Difference.key).Nodup
  ids : ∀ l ∈ unmatchedLive casefold netbox live, ∀ m ∈ matched casefold netbox live,
    m.2.deviceId ≠ l.deviceId
  interfaces : ∀ m ∈ matched casefold netbox live, InterfacesVisible casefold m
  vlans : ∀ n ∈ netbox.vlans, ∀ v ∈ live.devices.flatMap (·.vlans), v.vlanId = n.vid →
    VLANComparator.compareVlan casefold n v ≠ [] →
      (VLANComparator.netboxVlans netbox).get? n.vid = some n ∧
      (VLANComparator.liveVlans live).get? n.vid = some v

/-! ## Lists with keys -/

section Keys

variable {α β κ : Type} {key : β → κ}

/-- A list is among another whose keys differ if its keys differ and its members are there. -/
theorem subperm_iff_of_keys {l l' : List β} (hl' : (l'.map key).Nodup) :
    l.Subperm l' ↔ (l.map key).Nodup ∧ ∀ b ∈ l, b ∈ l' := by
  constructor
  · rintro ⟨l'', hperm, hsub⟩
    refine ⟨?_, fun b hb => hsub.subset (hperm.mem_iff.2 hb)⟩
    exact (hperm.map key).nodup_iff.1 (hl'.sublist (hsub.map key))
  · rintro ⟨hnodup, hmem⟩
    exact List.subperm_of_subset hnodup.of_map hmem

theorem eq_of_nodup_keys {l : List β} (h : (l.map key).Nodup) {a b : β} (ha : a ∈ l) (hb : b ∈ l)
    (hkey : key a = key b) : a = b :=
  List.inj_on_of_nodup_map h ha hb hkey

/-- Parts that share a member are the same part, if the keys of all parts differ. -/
theorem eq_of_nodup_flatMap {f : α → List β} {l : List α} (h : ((l.flatMap f).map key).Nodup)
    {x y : α} (hx : x ∈ l) (hy : y ∈ l) {b : β} (hbx : b ∈ f x) (hby : b ∈ f y) : x = y := by
  by_contra hne
  rw [List.map_flatMap, List.nodup_flatMap] at h
  have hsymm : Std.Symm (Function.onFun List.Disjoint fun a => (f a).map key) :=
    ⟨fun _ _ hab => List.Disjoint.symm hab⟩
  exact h.2.forall hx hy hne (List.mem_map_of_mem hbx) (List.mem_map_of_mem hby)

theorem nodup_part {f : α → List β} {l : List α} (h : ((l.flatMap f).map key).Nodup) {x : α}
    (hx : x ∈ l) : ((f x).map key).Nodup := by
  rw [List.map_flatMap, List.nodup_flatMap] at h
  exact h.1 x hx

end Keys

/-- A filter looks at the type and the subject of a difference. -/
theorem differences_admitted (filter : Option DifferenceFilter) :
    (ComparisonEngine.compare casefold filter netbox live).differences =
      (registered (ComparisonEngine.found casefold netbox live)).filter fun d =>
        admits filter d.differenceType d.subjectType := by
  cases filter with
  | none =>
    unfold ComparisonEngine.compare admits
    exact (List.filter_true _).symm
  | some f => rfl

variable {casefold netbox live}

/-! ## Interfaces -/

theorem mem_field {subjectId fieldName : String} {expected observed : Option String}
    {d : Difference}
    (h : d ∈ InterfaceComparator.field casefold subjectId fieldName expected observed) :
    d.differenceType = .modified ∧ d.subjectType = "interface" := by
  unfold InterfaceComparator.field at h
  split at h
  · split at h
    · cases h
    · rw [List.mem_singleton.1 h]
      exact ⟨rfl, rfl⟩
  · cases h

theorem eq_of_enabled {subjectId : String} {i : Interface} {j : InterfaceSnapshot}
    {d : Difference} (h : d ∈ InterfaceComparator.enabled subjectId i j) :
    ∃ status, d = DifferenceBuilder.modified "interface" subjectId "enabled" (.flag i.enabled)
      (.text status) := by
  unfold InterfaceComparator.enabled at h
  split at h
  · rename_i status _
    by_cases hstatus : status = (if i.enabled then "up" else "down")
    · rw [if_pos hstatus] at h
      cases h
    · rw [if_neg hstatus] at h
      exact ⟨status, List.mem_singleton.1 h⟩
  · cases h

theorem mem_enabled {subjectId : String} {i : Interface} {j : InterfaceSnapshot} {d : Difference}
    (h : d ∈ InterfaceComparator.enabled subjectId i j) :
    d.differenceType = .modified ∧ d.subjectType = "interface" := by
  obtain ⟨status, rfl⟩ := eq_of_enabled h
  exact ⟨rfl, rfl⟩

theorem mem_compareInterface {device : Device} {i : Interface} {j : InterfaceSnapshot}
    {d : Difference} (h : d ∈ InterfaceComparator.compareInterface casefold device i j) :
    d.differenceType = .modified ∧ d.subjectType = "interface" := by
  unfold InterfaceComparator.compareInterface at h
  rw [List.mem_append, List.mem_append] at h
  rcases h with (h | h) | h
  · exact mem_enabled h
  · exact mem_field h
  · exact mem_field h

theorem mem_counterparts {m : Device × DeviceSnapshot} {i : Interface} {j : InterfaceSnapshot} :
    j ∈ counterparts casefold m i ↔
      j ∈ m.2.interfaces ∧ normalize casefold j.name = normalize casefold i.name := by
  simp [counterparts]

theorem counterparts_eq_nil {m : Device × DeviceSnapshot} {i : Interface} :
    counterparts casefold m i = [] ↔
      (InterfaceComparator.liveInterfaces casefold m.2).get? (normalize casefold i.name) =
        none := by
  unfold InterfaceComparator.liveInterfaces
  rw [Dict.get?_byKey_eq_none]
  simp [counterparts]

theorem mem_unknownInterfaces {m : Device × DeviceSnapshot} {j : InterfaceSnapshot} :
    j ∈ unknownInterfaces casefold m ↔ j ∈ m.2.interfaces ∧
      (InterfaceComparator.netboxInterfaces casefold m.1).get? (normalize casefold j.name) =
        none := by
  unfold InterfaceComparator.netboxInterfaces
  rw [Dict.get?_byKey_eq_none]
  simp [unknownInterfaces]

/-- What a matched pair's interfaces are found to differ in, by the interface that is found. -/
theorem mem_compareDevice {m : Device × DeviceSnapshot} {d : Difference} :
    d ∈ InterfaceComparator.compareDevice casefold m ↔
      (∃ i ∈ m.1.interfaces,
        (InterfaceComparator.netboxInterfaces casefold m.1).get? (normalize casefold i.name) =
          some i ∧
        (counterparts casefold m i = [] ∧ d = InterfaceComparator.missingInterface m.1 i ∨
          ∃ j ∈ counterparts casefold m i,
            (InterfaceComparator.liveInterfaces casefold m.2).get? (normalize casefold i.name) =
              some j ∧ d ∈ InterfaceComparator.compareInterface casefold m.1 i j)) ∨
      ∃ j ∈ unknownInterfaces casefold m,
        (InterfaceComparator.liveInterfaces casefold m.2).get? (normalize casefold j.name) =
          some j ∧ d = InterfaceComparator.unexpectedInterface m.1 j := by
  unfold InterfaceComparator.compareDevice
  rw [List.mem_append, List.mem_flatMap, List.mem_map]
  refine or_congr ?_ ?_
  · constructor
    · rintro ⟨e, he, hd⟩
      obtain ⟨hmem, hkey, hget⟩ := Dict.mem_items_byKey he
      refine ⟨e.2, hmem, hget, ?_⟩
      unfold InterfaceComparator.compareEntry at hd
      rw [← hkey] at hd
      split at hd
      · rename_i hnone
        exact .inl ⟨counterparts_eq_nil.2 hnone, List.mem_singleton.1 hd⟩
      · rename_i j hsome
        exact .inr ⟨j, mem_counterparts.2 (Dict.get?_byKey hsome), hsome, hd⟩
    · rintro ⟨i, hi, hget, hcases⟩
      refine ⟨(normalize casefold i.name, i), Dict.mem_items.2 hget, ?_⟩
      unfold InterfaceComparator.compareEntry
      rcases hcases with ⟨hnone, rfl⟩ | ⟨j, _, hsome, hd⟩
      · rw [counterparts_eq_nil.1 hnone]
        exact List.mem_singleton_self _
      · rw [hsome]
        exact hd
  · constructor
    · rintro ⟨e, he, rfl⟩
      obtain ⟨hitem, hnone⟩ := List.mem_filter.1 he
      obtain ⟨hmem, hkey, hget⟩ := Dict.mem_items_byKey hitem
      refine ⟨e.2, mem_unknownInterfaces.2 ⟨hmem, ?_⟩, hget, rfl⟩
      rw [hkey]
      exact Option.isNone_iff_eq_none.1 hnone
    · rintro ⟨j, hj, hget, rfl⟩
      refine ⟨(normalize casefold j.name, j), ?_, rfl⟩
      rw [List.mem_filter]
      refine ⟨Dict.mem_items.2 hget, ?_⟩
      dsimp only
      rw [(mem_unknownInterfaces.1 hj).2]
      rfl

theorem mem_interfaceDrift {m : Device × DeviceSnapshot} {d : Difference} :
    d ∈ interfaceDrift casefold m ↔
      (∃ i ∈ m.1.interfaces, d ∈ netboxInterfaceDrift casefold m i) ∨
      ∃ j ∈ unknownInterfaces casefold m, d = InterfaceComparator.unexpectedInterface m.1 j := by
  simp [interfaceDrift, List.mem_flatMap, eq_comm]

theorem mem_netboxInterfaceDrift {m : Device × DeviceSnapshot} {i : Interface} {d : Difference} :
    d ∈ netboxInterfaceDrift casefold m i ↔
      counterparts casefold m i = [] ∧ d = InterfaceComparator.missingInterface m.1 i ∨
      ∃ j ∈ counterparts casefold m i,
        d ∈ InterfaceComparator.compareInterface casefold m.1 i j := by
  unfold netboxInterfaceDrift
  split
  · rename_i hnil
    simp [hnil]
  · rename_i hne
    simp [hne, List.mem_flatMap]

/-- What is found is drift. -/
theorem interfaceDrift_of_found {m : Device × DeviceSnapshot} {d : Difference}
    (h : d ∈ InterfaceComparator.compareDevice casefold m) : d ∈ interfaceDrift casefold m := by
  rw [mem_interfaceDrift]
  rcases mem_compareDevice.1 h with ⟨i, hi, _, hcases⟩ | ⟨j, hj, _, hd⟩
  · refine .inl ⟨i, hi, mem_netboxInterfaceDrift.2 ?_⟩
    rcases hcases with hmissing | ⟨j, hj, _, hd⟩
    · exact .inl hmissing
    · exact .inr ⟨j, hj, hd⟩
  · exact .inr ⟨j, hj, hd⟩

/-- Visible drift is found. -/
theorem found_of_interfaceDrift {m : Device × DeviceSnapshot} {d : Difference}
    (hvisible : InterfacesVisible casefold m) (h : d ∈ interfaceDrift casefold m) :
    d ∈ InterfaceComparator.compareDevice casefold m := by
  rw [mem_compareDevice]
  rcases mem_interfaceDrift.1 h with ⟨i, hi, hd⟩ | ⟨j, hj, hd⟩
  · rcases mem_netboxInterfaceDrift.1 hd with ⟨hnone, rfl⟩ | ⟨j, hj, hd⟩
    · exact .inl ⟨i, hi, hvisible.missing i hi hnone, .inl ⟨hnone, rfl⟩⟩
    · obtain ⟨hnetbox, hlive⟩ := hvisible.differing i hi j hj (List.ne_nil_of_mem hd)
      exact .inl ⟨i, hi, hnetbox, .inr ⟨j, hj, hlive, hd⟩⟩
  · exact .inr ⟨j, hj, hvisible.unexpected j hj, hd⟩

/-- If all drift of a pair is found and its keys differ, all of it is visible. -/
theorem visible_of_found {m : Device × DeviceSnapshot}
    (hkeys : ((interfaceDrift casefold m).map Difference.key).Nodup)
    (hfound : ∀ d ∈ interfaceDrift casefold m, d ∈ InterfaceComparator.compareDevice casefold m) :
    InterfacesVisible casefold m := by
  rw [interfaceDrift, List.map_append, List.nodup_append] at hkeys
  obtain ⟨hnetbox, hunknown, _⟩ := hkeys
  -- the entry that a drift of a NetBox interface is found by is that interface's own
  have hown : ∀ i ∈ m.1.interfaces, ∀ d ∈ netboxInterfaceDrift casefold m i,
      d.differenceType ≠ .unexpected →
      (InterfaceComparator.netboxInterfaces casefold m.1).get? (normalize casefold i.name) =
        some i ∧
      (counterparts casefold m i = [] ∧ d = InterfaceComparator.missingInterface m.1 i ∨
        ∃ j ∈ counterparts casefold m i,
          (InterfaceComparator.liveInterfaces casefold m.2).get? (normalize casefold i.name) =
            some j ∧ d ∈ InterfaceComparator.compareInterface casefold m.1 i j) := by
    intro i hi d hd htype
    rcases mem_compareDevice.1 (hfound d (mem_interfaceDrift.2 (.inl ⟨i, hi, hd⟩))) with
      ⟨i', hi', hget, hcases⟩ | ⟨j, _, _, rfl⟩
    · have hd' : d ∈ netboxInterfaceDrift casefold m i' := by
        rw [mem_netboxInterfaceDrift]
        rcases hcases with hmissing | ⟨j, hj, _, hd'⟩
        · exact .inl hmissing
        · exact .inr ⟨j, hj, hd'⟩
      rw [eq_of_nodup_flatMap hnetbox hi hi' hd hd']
      exact ⟨hget, hcases⟩
    · exact absurd rfl htype
  constructor
  · intro i hi hnone
    have hdrift : InterfaceComparator.missingInterface m.1 i ∈ netboxInterfaceDrift casefold m i :=
      mem_netboxInterfaceDrift.2 (.inl ⟨hnone, rfl⟩)
    have htype : (InterfaceComparator.missingInterface m.1 i).differenceType = .missing := rfl
    exact (hown i hi _ hdrift (by rw [htype]; decide)).1
  · intro i hi j hj hne
    obtain ⟨d, hd⟩ := List.exists_mem_of_ne_nil _ hne
    have hdrift : d ∈ netboxInterfaceDrift casefold m i :=
      mem_netboxInterfaceDrift.2 (.inr ⟨j, hj, hd⟩)
    obtain ⟨hget, hcases⟩ := hown i hi d hdrift (by rw [(mem_compareInterface hd).1]; decide)
    refine ⟨hget, ?_⟩
    rcases hcases with ⟨hnone, _⟩ | ⟨j', hj', hlive, hd'⟩
    · rw [hnone] at hj
      cases hj
    · have hpart := nodup_part hnetbox hi
      rw [netboxInterfaceDrift, if_neg (List.ne_nil_of_mem hj)] at hpart
      rw [eq_of_nodup_flatMap hpart hj hj' hd hd']
      exact hlive
  · intro j hj
    have hdrift : InterfaceComparator.unexpectedInterface m.1 j ∈ interfaceDrift casefold m :=
      mem_interfaceDrift.2 (.inr ⟨j, hj, rfl⟩)
    have htype : (InterfaceComparator.unexpectedInterface m.1 j).differenceType = .unexpected := rfl
    rcases mem_compareDevice.1 (hfound _ hdrift) with ⟨i, _, _, hcases⟩ | ⟨j', hj', hget, heq⟩
    · rcases hcases with ⟨_, heq⟩ | ⟨_, _, _, hd⟩
      · rw [heq] at htype
        cases htype
      · rw [(mem_compareInterface hd).1] at htype
        cases htype
    · rw [List.map_map] at hunknown
      rw [List.inj_on_of_nodup_map hunknown hj hj' (congrArg Difference.key heq)]
      exact hget

/-! ## VLANs -/

theorem mem_status {n : VLAN} {v : VLANSnapshot} {d : Difference}
    (h : d ∈ VLANComparator.status casefold n v) :
    d.differenceType = .modified ∧ d.subjectType = "vlan" := by
  unfold VLANComparator.status at h
  split at h
  · split at h
    · cases h
    · rw [List.mem_singleton.1 h]
      exact ⟨rfl, rfl⟩
  · cases h

theorem mem_compareVlan {n : VLAN} {v : VLANSnapshot} {d : Difference}
    (h : d ∈ VLANComparator.compareVlan casefold n v) :
    d.differenceType = .modified ∧ d.subjectType = "vlan" := by
  unfold VLANComparator.compareVlan at h
  rw [List.mem_append] at h
  rcases h with h | h
  · split at h
    · cases h
    · rw [List.mem_singleton.1 h]
      exact ⟨rfl, rfl⟩
  · exact mem_status h

theorem mem_netboxVlanDrift {n : VLAN} {d : Difference} :
    d ∈ netboxVlanDrift casefold live n ↔
      ∃ v ∈ live.devices.flatMap (·.vlans), v.vlanId = n.vid ∧
        d ∈ VLANComparator.compareVlan casefold n v := by
  unfold netboxVlanDrift
  rw [List.mem_flatMap]
  constructor
  · rintro ⟨v, hv, hd⟩
    obtain ⟨hmem, hid⟩ := List.mem_filter.1 hv
    exact ⟨v, hmem, of_decide_eq_true hid, hd⟩
  · rintro ⟨v, hmem, hid, hd⟩
    exact ⟨v, List.mem_filter.2 ⟨hmem, decide_eq_true hid⟩, hd⟩

theorem subject_of_compareVlans {d : Difference}
    (h : d ∈ VLANComparator.compare casefold netbox live) : d.subjectType = "vlan" := by
  unfold VLANComparator.compare at h
  rw [List.mem_append, List.mem_flatMap, List.mem_map] at h
  rcases h with ⟨e, _, hd⟩ | ⟨e, _, rfl⟩
  · unfold VLANComparator.compareEntry at hd
    split at hd
    · rw [List.mem_singleton.1 hd]
      rfl
    · exact (mem_compareVlan hd).2
  · rfl

/-- The modified VLANs that are found, by the instances that are found. -/
theorem mem_compareVlans {d : Difference} (hmodified : d.differenceType = .modified) :
    d ∈ VLANComparator.compare casefold netbox live ↔
      ∃ n ∈ netbox.vlans, ∃ v ∈ live.devices.flatMap (·.vlans), v.vlanId = n.vid ∧
        (VLANComparator.netboxVlans netbox).get? n.vid = some n ∧
        (VLANComparator.liveVlans live).get? n.vid = some v ∧
        d ∈ VLANComparator.compareVlan casefold n v := by
  unfold VLANComparator.compare
  rw [List.mem_append, List.mem_flatMap, List.mem_map]
  constructor
  · rintro (⟨e, he, hd⟩ | ⟨e, _, rfl⟩)
    · obtain ⟨hmem, hkey, hget⟩ := Dict.mem_items_byKey he
      unfold VLANComparator.compareEntry at hd
      split at hd
      · rw [List.mem_singleton.1 hd] at hmodified
        cases hmodified
      · rename_i v hsome
        rw [← hkey] at hsome
        obtain ⟨hv, hid⟩ := Dict.get?_byKey hsome
        exact ⟨e.2, hmem, v, hv, hid, hget, hsome, hd⟩
    · cases hmodified
  · rintro ⟨n, _, v, _, _, hnetbox, hlive, hd⟩
    refine .inl ⟨(n.vid, n), Dict.mem_items.2 hnetbox, ?_⟩
    unfold VLANComparator.compareEntry
    rw [hlive]
    exact hd

/-! ## Identities, devices and platforms -/

/-- After the loop: what was a duplicate before, and what is met a second time. -/
theorem mem_duplicatesFrom {seen duplicates values : List String} {name : String} :
    name ∈ InventoryMatcher.duplicatesFrom seen duplicates values ↔
      name ∈ duplicates ∨ name ≠ "" ∧
        (name ∈ seen ∧ name ∈ values ∨ 2 ≤ values.count name) := by
  induction values generalizing seen duplicates with
  | nil => simp [InventoryMatcher.duplicatesFrom]
  | cons value values ih =>
    unfold InventoryMatcher.duplicatesFrom
    by_cases hblank : value = ""
    · rw [if_pos hblank, ih]
      by_cases hname : name = ""
      · simp [hname]
      · have hne : name ≠ value := fun h => hname (h.trans hblank)
        simp [hname, hne, List.count_cons_of_ne hne.symm]
    · rw [if_neg hblank, ih]
      by_cases hvalue : name = value
      · subst hvalue
        have hcount : 2 ≤ values.count name + 1 ↔ name ∈ values := by
          rw [← List.one_le_count_iff]
          omega
        by_cases hseen : name ∈ seen
        · simp [hseen, hblank]
        · simp only [hseen, if_false, List.mem_cons, true_or, true_and, false_and, false_or,
            List.count_cons_self, hcount]
          have hmem : 2 ≤ values.count name → name ∈ values := fun h =>
            List.one_le_count_iff.1 (by omega)
          tauto
      · have hdup : name ∈ (if value ∈ seen then duplicates.insert value else duplicates) ↔
            name ∈ duplicates := by
          split
          · simp [hvalue]
          · rfl
        simp [hdup, hvalue, List.count_cons_of_ne (Ne.symm hvalue)]

theorem mem_duplicates {values : List String} {name : String} :
    name ∈ InventoryMatcher.duplicates values ↔ name ∈ duplicatedNames values := by
  unfold InventoryMatcher.duplicates duplicatedNames
  rw [List.mem_insertionSort, mem_duplicatesFrom, List.mem_filter, List.mem_dedup]
  have hmem : 2 ≤ values.count name → name ∈ values := fun h =>
    List.one_le_count_iff.1 (by omega)
  simp only [List.not_mem_nil, false_or, false_and, decide_eq_true_eq]
  tauto

theorem mem_identityDrift {d : Difference} :
    d ∈ IdentityComparator.compare (InventoryMatcher.«match» casefold netbox live) ↔
      d ∈ identityDrift casefold netbox live := by
  unfold IdentityComparator.compare identityDrift
  simp only [List.mem_append, List.mem_map]
  unfold InventoryMatcher.«match»
  simp only [mem_duplicates]

theorem subject_of_identity {m : InventoryMatch} {d : Difference}
    (h : d ∈ IdentityComparator.compare m) :
    d.subjectType = "device" ∧ d.differenceType = .duplicate := by
  unfold IdentityComparator.compare at h
  rw [List.mem_append, List.mem_map, List.mem_map] at h
  rcases h with ⟨name, _, rfl⟩ | ⟨name, _, rfl⟩
  · exact ⟨rfl, rfl⟩
  · exact ⟨rfl, rfl⟩

theorem mem_modified {subjectId fieldName : String} {expected observed : Option String}
    {d : Difference}
    (h : d ∈ DeviceComparator.modified casefold subjectId fieldName expected observed) :
    d.subjectType = "device" ∧ d.differenceType = .modified := by
  unfold DeviceComparator.modified at h
  split at h
  · cases h
  · rw [List.mem_singleton.1 h]
    exact ⟨rfl, rfl⟩

theorem mem_compareMatchedDevice {m : Device × DeviceSnapshot} {d : Difference}
    (h : d ∈ DeviceComparator.compareMatchedDevice casefold m) :
    d.subjectType = "device" ∧ d.differenceType = .modified := by
  unfold DeviceComparator.compareMatchedDevice at h
  rw [List.mem_append, List.mem_append] at h
  rcases h with (h | h) | h
  · exact mem_modified h
  · exact mem_modified h
  · exact mem_modified h

theorem mem_unexpectedDevices {l : DeviceSnapshot} :
    l ∈ (InventoryMatcher.«match» casefold netbox live).unexpectedDevices ↔
      l ∈ live.devices ∧ ∀ m ∈ matched casefold netbox live, m.2.deviceId ≠ l.deviceId := by
  unfold matched
  rw [InventoryMatcher.«match», List.mem_filter, List.all_eq_true]
  simp only [decide_eq_true_eq]

theorem mem_unmatchedLive {l : DeviceSnapshot} :
    l ∈ unmatchedLive casefold netbox live ↔
      l ∈ live.devices ∧ ∀ m ∈ matched casefold netbox live, m.2 ≠ l := by
  unfold unmatchedLive
  rw [List.mem_filter, decide_eq_true_eq]

theorem unmatchedLive_of_unexpected {l : DeviceSnapshot}
    (h : l ∈ (InventoryMatcher.«match» casefold netbox live).unexpectedDevices) :
    l ∈ unmatchedLive casefold netbox live := by
  obtain ⟨hmem, hids⟩ := mem_unexpectedDevices.1 h
  refine mem_unmatchedLive.2 ⟨hmem, fun m hm heq => hids m hm ?_⟩
  rw [heq]

theorem mem_compareDevices {m : InventoryMatch} {d : Difference} :
    d ∈ DeviceComparator.compare casefold m ↔
      (∃ device ∈ m.missingDevices, DeviceComparator.missingDevice device = d) ∨
      (∃ l ∈ m.unexpectedDevices, DeviceComparator.unexpectedDevice l = d) ∨
      ∃ p ∈ m.matchedDevices, d ∈ DeviceComparator.compareMatchedDevice casefold p := by
  unfold DeviceComparator.compare
  rw [List.mem_append, List.mem_append, List.mem_map, List.mem_map, List.mem_flatMap, or_assoc]

theorem mem_deviceDrift {d : Difference} :
    d ∈ deviceDrift casefold netbox live ↔
      (∃ device ∈ (InventoryMatcher.«match» casefold netbox live).missingDevices,
        DeviceComparator.missingDevice device = d) ∨
      (∃ l ∈ unmatchedLive casefold netbox live, DeviceComparator.unexpectedDevice l = d) ∨
      ∃ p ∈ matched casefold netbox live,
        d ∈ DeviceComparator.compareMatchedDevice casefold p := by
  unfold deviceDrift
  rw [List.mem_append, List.mem_append, List.mem_map, List.mem_map, List.mem_flatMap, or_assoc]

theorem subject_of_compareDevices {m : InventoryMatch} {d : Difference}
    (h : d ∈ DeviceComparator.compare casefold m) : d.subjectType = "device" := by
  rcases mem_compareDevices.1 h with ⟨_, _, rfl⟩ | ⟨_, _, rfl⟩ | ⟨_, _, hd⟩
  · rfl
  · rfl
  · exact (mem_compareMatchedDevice hd).1

theorem eq_of_comparePlatform {m : Device × DeviceSnapshot} {d : Difference}
    (h : d ∈ PlatformComparator.comparePlatform casefold m) :
    d = DifferenceBuilder.modified "platform" m.1.name "platform"
      (.ofOption (m.1.platform.map (·.name))) (.ofOption m.2.platform) := by
  unfold PlatformComparator.comparePlatform at h
  dsimp only at h
  split at h
  · cases h
  · exact List.mem_singleton.1 h

theorem subject_of_comparePlatform {m : Device × DeviceSnapshot} {d : Difference}
    (h : d ∈ PlatformComparator.comparePlatform casefold m) : d.subjectType = "platform" := by
  rw [eq_of_comparePlatform h]
  rfl

/-! ## All comparators -/

theorem mem_found {d : Difference} :
    d ∈ ComparisonEngine.found casefold netbox live ↔
      d ∈ identityDrift casefold netbox live ∨
      d ∈ DeviceComparator.compare casefold (InventoryMatcher.«match» casefold netbox live) ∨
      (∃ m ∈ matched casefold netbox live, d ∈ InterfaceComparator.compareDevice casefold m) ∨
      d ∈ VLANComparator.compare casefold netbox live ∨
      d ∈ NeighborComparator.compare live ∨
      ∃ m ∈ matched casefold netbox live, d ∈ PlatformComparator.comparePlatform casefold m := by
  unfold ComparisonEngine.found matched InterfaceComparator.compare PlatformComparator.compare
  simp only [List.mem_append, mem_identityDrift, List.mem_flatMap, or_assoc]

theorem mem_drifts {d : Difference} :
    d ∈ drifts casefold netbox live ↔
      d ∈ identityDrift casefold netbox live ∨ d ∈ deviceDrift casefold netbox live ∨
      (∃ m ∈ matched casefold netbox live, d ∈ interfaceDrift casefold m) ∨
      (∃ n ∈ netbox.vlans, d ∈ netboxVlanDrift casefold live n) ∨
      ∃ m ∈ matched casefold netbox live, d ∈ PlatformComparator.comparePlatform casefold m := by
  unfold drifts
  simp only [List.mem_append, List.mem_flatMap, or_assoc]

theorem subject_of_neighbor {d : Difference} (h : d ∈ NeighborComparator.compare live) :
    d.subjectType = "neighbor" := by
  unfold NeighborComparator.compare at h
  rw [List.mem_flatMap] at h
  obtain ⟨device, _, hd⟩ := h
  obtain ⟨neighbor, _, rfl⟩ := List.mem_map.1 hd
  rfl

theorem subject_of_interface {m : Device × DeviceSnapshot} {d : Difference}
    (h : d ∈ interfaceDrift casefold m) : d.subjectType = "interface" := by
  rcases mem_interfaceDrift.1 h with ⟨i, _, hd⟩ | ⟨j, _, rfl⟩
  · rcases mem_netboxInterfaceDrift.1 hd with ⟨_, rfl⟩ | ⟨j, _, hd⟩
    · rfl
    · exact (mem_compareInterface hd).2
  · rfl

/-- Every finding is of the comparator of its subject. -/
theorem found_by_subject {d : Difference} (h : d ∈ ComparisonEngine.found casefold netbox live) :
    d.subjectType = "device" ∧ (d ∈ identityDrift casefold netbox live ∨
      d ∈ DeviceComparator.compare casefold (InventoryMatcher.«match» casefold netbox live)) ∨
    d.subjectType = "interface" ∧
      (∃ m ∈ matched casefold netbox live, d ∈ InterfaceComparator.compareDevice casefold m) ∨
    d.subjectType = "vlan" ∧ d ∈ VLANComparator.compare casefold netbox live ∨
    d.subjectType = "neighbor" ∨ d.subjectType = "platform" := by
  rcases mem_found.1 h with h | h | ⟨m, hm, h⟩ | h | h | ⟨m, _, h⟩
  · exact .inl ⟨(subject_of_identity (mem_identityDrift.2 h)).1, .inl h⟩
  · exact .inl ⟨subject_of_compareDevices h, .inr h⟩
  · exact .inr (.inl ⟨subject_of_interface (interfaceDrift_of_found h), m, hm, h⟩)
  · exact .inr (.inr (.inl ⟨subject_of_compareVlans h, h⟩))
  · exact .inr (.inr (.inr (.inl (subject_of_neighbor h))))
  · exact .inr (.inr (.inr (.inr (subject_of_comparePlatform h))))

theorem subject_of_found {d : Difference} (h : d ∈ ComparisonEngine.found casefold netbox live) :
    d.subjectType ∈ ["device", "interface", "vlan", "neighbor", "platform"] := by
  rcases found_by_subject h with ⟨h, _⟩ | ⟨h, _⟩ | ⟨h, _⟩ | h | h <;> simp [h]

theorem subject_plain {s : String}
    (h : s ∈ ["device", "interface", "vlan", "neighbor", "platform"]) : ':' ∉ s.toList := by
  simp only [List.mem_cons, List.not_mem_nil, or_false] at h
  rcases h with rfl | rfl | rfl | rfl | rfl <;> decide

/-- What drift is about: VLANs only where the two sides have one. -/
def OfDrift (d : Difference) : Prop :=
  d.subjectType ≠ "neighbor" ∧ (d.subjectType = "vlan" → d.differenceType = .modified)

theorem ofDrift_of_drift {d : Difference} (h : d ∈ drifts casefold netbox live) : OfDrift d := by
  unfold OfDrift
  rcases mem_drifts.1 h with h | h | ⟨m, _, h⟩ | ⟨n, _, h⟩ | ⟨m, _, h⟩
  · simp [(subject_of_identity (mem_identityDrift.2 h)).1]
  · rcases mem_deviceDrift.1 h with ⟨_, _, rfl⟩ | ⟨_, _, rfl⟩ | ⟨_, _, hd⟩
    · simp [DeviceComparator.missingDevice, DifferenceBuilder.missing]
    · simp [DeviceComparator.unexpectedDevice, DifferenceBuilder.unexpected]
    · simp [(mem_compareMatchedDevice hd).1]
  · simp [subject_of_interface h]
  · obtain ⟨v, _, _, hd⟩ := mem_netboxVlanDrift.1 h
    simp [mem_compareVlan hd]
  · simp [subject_of_comparePlatform h]

/-- What is found of the kinds of drift is drift. -/
theorem drift_of_found {d : Difference} (hkind : OfDrift d)
    (h : d ∈ ComparisonEngine.found casefold netbox live) : d ∈ drifts casefold netbox live := by
  rw [mem_drifts]
  rcases mem_found.1 h with h | h | ⟨m, hm, h⟩ | h | h | ⟨m, hm, h⟩
  · exact .inl h
  · refine .inr (.inl (mem_deviceDrift.2 ?_))
    rcases mem_compareDevices.1 h with hmissing | ⟨l, hl, hd⟩ | hmatched
    · exact .inl hmissing
    · exact .inr (.inl ⟨l, unmatchedLive_of_unexpected hl, hd⟩)
    · exact .inr (.inr hmatched)
  · exact .inr (.inr (.inl ⟨m, hm, interfaceDrift_of_found h⟩))
  · have hmodified := hkind.2 (subject_of_compareVlans h)
    obtain ⟨n, hn, v, hv, hid, _, _, hd⟩ := (mem_compareVlans hmodified).1 h
    exact .inr (.inr (.inr (.inl ⟨n, hn, mem_netboxVlanDrift.2 ⟨v, hv, hid, hd⟩⟩)))
  · exact absurd (subject_of_neighbor h) hkind.1
  · exact .inr (.inr (.inr (.inr ⟨m, hm, h⟩)))

/-- Drift that nothing hides is found. -/
theorem found_of_drift (hvisible : Unhidden casefold netbox live) {d : Difference}
    (h : d ∈ drifts casefold netbox live) : d ∈ ComparisonEngine.found casefold netbox live := by
  rw [mem_found]
  rcases mem_drifts.1 h with h | h | ⟨m, hm, h⟩ | ⟨n, hn, h⟩ | ⟨m, hm, h⟩
  · exact .inl h
  · refine .inr (.inl (mem_compareDevices.2 ?_))
    rcases mem_deviceDrift.1 h with hmissing | ⟨l, hl, hd⟩ | hmatched
    · exact .inl hmissing
    · have hmem := (mem_unmatchedLive.1 hl).1
      exact .inr (.inl ⟨l, mem_unexpectedDevices.2 ⟨hmem, hvisible.ids l hl⟩, hd⟩)
    · exact .inr (.inr hmatched)
  · exact .inr (.inr (.inl ⟨m, hm, found_of_interfaceDrift (hvisible.interfaces m hm) h⟩))
  · obtain ⟨v, hv, hid, hd⟩ := mem_netboxVlanDrift.1 h
    obtain ⟨hnetbox, hlive⟩ := hvisible.vlans n hn v hv hid (List.ne_nil_of_mem hd)
    have hfound := (mem_compareVlans (mem_compareVlan hd).1).2
      ⟨n, hn, v, hv, hid, hnetbox, hlive, hd⟩
    exact .inr (.inr (.inr (.inl hfound)))
  · exact .inr (.inr (.inr (.inr (.inr ⟨m, hm, h⟩))))

/-! ## What the registry keeps -/

/-- The metrics count what is reported, so they count the drift that is. -/
theorem noDriftLost_iff_subperm :
    NoDriftLost casefold netbox live (ComparisonEngine.compare casefold none netbox live) ↔
      (drifts casefold netbox live).Subperm
        (registered (ComparisonEngine.found casefold netbox live)) := by
  constructor
  · exact fun h => h.1
  · intro h
    exact ⟨h, fun t => h.countP_le _⟩

/-- The registry keeps drift whose keys differ, if it is found. -/
theorem registered_of_drift (hvisible : Unhidden casefold netbox live) {d : Difference}
    (h : d ∈ drifts casefold netbox live) :
    d ∈ registered (ComparisonEngine.found casefold netbox live) := by
  have hfound := found_of_drift hvisible h
  obtain ⟨e, hkept, he, hkey⟩ := registered_of_mem hfound
  obtain ⟨htype, hsubject⟩ := key_subject hkey (subject_plain (subject_of_found he))
    (subject_plain (subject_of_found hfound))
  have hkind : OfDrift e := by
    unfold OfDrift
    rw [htype, hsubject]
    exact ofDrift_of_drift h
  rw [← eq_of_nodup_keys hvisible.keys (drift_of_found hkind he) h hkey]
  exact hkept

section Converse

variable (hkeys : ((drifts casefold netbox live).map Difference.key).Nodup)
  (hfound : ∀ d ∈ drifts casefold netbox live, d ∈ ComparisonEngine.found casefold netbox live)

include hkeys

/-- The keys of the interface drift of all pairs, of the VLANs and of the unmatched differ. -/
theorem keys_parts :
    (((unmatchedLive casefold netbox live).map DeviceComparator.unexpectedDevice).map
      Difference.key).Nodup ∧
    (((matched casefold netbox live).flatMap (interfaceDrift casefold)).map
      Difference.key).Nodup ∧
    ((netbox.vlans.flatMap (netboxVlanDrift casefold live)).map Difference.key).Nodup := by
  unfold drifts deviceDrift at hkeys
  simp only [List.map_append, List.nodup_append] at hkeys
  exact ⟨hkeys.1.1.1.2.1.1.2.1, hkeys.1.1.2.1, hkeys.1.2.1⟩

include hfound

theorem ids_of_found {l : DeviceSnapshot} (hl : l ∈ unmatchedLive casefold netbox live) :
    ∀ m ∈ matched casefold netbox live, m.2.deviceId ≠ l.deviceId := by
  have hdrift : DeviceComparator.unexpectedDevice l ∈ drifts casefold netbox live :=
    mem_drifts.2 (.inr (.inl (mem_deviceDrift.2 (.inr (.inl ⟨l, hl, rfl⟩)))))
  have hsubject : (DeviceComparator.unexpectedDevice l).subjectType = "device" := rfl
  have htype : (DeviceComparator.unexpectedDevice l).differenceType = .unexpected := rfl
  have hdevice := found_by_subject (hfound _ hdrift)
  simp only [hsubject, String.reduceEq, true_and, false_and, or_false] at hdevice
  rcases hdevice with h | h
  · rw [(subject_of_identity (mem_identityDrift.2 h)).2] at htype
    cases htype
  · rcases mem_compareDevices.1 h with ⟨device, _, heq⟩ | ⟨l', hl', heq⟩ | ⟨p, _, hd⟩
    · rw [← heq] at htype
      cases htype
    · have hnodup := (keys_parts hkeys).1
      rw [List.map_map] at hnodup
      have hsame : l' = l := eq_of_nodup_keys hnodup (unmatchedLive_of_unexpected hl') hl
        (congrArg Difference.key heq)
      rw [← hsame]
      exact (mem_unexpectedDevices.1 hl').2
    · rw [(mem_compareMatchedDevice hd).2] at htype
      cases htype

theorem interfaces_of_found {m : Device × DeviceSnapshot}
    (hm : m ∈ matched casefold netbox live) : InterfacesVisible casefold m := by
  have hnodup := (keys_parts hkeys).2.1
  refine visible_of_found (nodup_part hnodup hm) fun d hd => ?_
  have hdrift : d ∈ drifts casefold netbox live :=
    mem_drifts.2 (.inr (.inr (.inl ⟨m, hm, hd⟩)))
  have hinterface := found_by_subject (hfound d hdrift)
  simp only [subject_of_interface hd, String.reduceEq, true_and, false_and, or_false,
    false_or] at hinterface
  -- the pair it is found in is the pair it is of
  obtain ⟨m', hm', h⟩ := hinterface
  rw [eq_of_nodup_flatMap hnodup hm hm' hd (interfaceDrift_of_found h)]
  exact h

theorem vlans_of_found {n : VLAN} (hn : n ∈ netbox.vlans) {v : VLANSnapshot}
    (hv : v ∈ live.devices.flatMap (·.vlans)) (hid : v.vlanId = n.vid)
    (hne : VLANComparator.compareVlan casefold n v ≠ []) :
    (VLANComparator.netboxVlans netbox).get? n.vid = some n ∧
      (VLANComparator.liveVlans live).get? n.vid = some v := by
  have hnodup := (keys_parts hkeys).2.2
  obtain ⟨d, hd⟩ := List.exists_mem_of_ne_nil _ hne
  have hmem : d ∈ netboxVlanDrift casefold live n := mem_netboxVlanDrift.2 ⟨v, hv, hid, hd⟩
  have hdrift : d ∈ drifts casefold netbox live :=
    mem_drifts.2 (.inr (.inr (.inr (.inl ⟨n, hn, hmem⟩))))
  have hvlan := found_by_subject (hfound d hdrift)
  simp only [(mem_compareVlan hd).2, String.reduceEq, true_and, false_and, or_false,
    false_or] at hvlan
  obtain ⟨n', hn', v', hv', hid', hnetbox, hlive, hd'⟩ :=
    (mem_compareVlans (mem_compareVlan hd).1).1 hvlan
  have hsame : n = n' := eq_of_nodup_flatMap hnodup hn hn' hmem
    (mem_netboxVlanDrift.2 ⟨v', hv', hid', hd'⟩)
  subst hsame
  have hpart := nodup_part hnodup hn
  unfold netboxVlanDrift at hpart
  have hinstance : v = v' := eq_of_nodup_flatMap hpart
    (List.mem_filter.2 ⟨hv, decide_eq_true hid⟩) (List.mem_filter.2 ⟨hv', decide_eq_true hid'⟩)
    hd hd'
  rw [hinstance]
  exact ⟨hnetbox, hlive⟩

end Converse

/-- The comparison without a filter reports and counts every drift, each by a difference of its
own, if and only if nothing hides one. -/
theorem no_drift_lost_iff (casefold : String → String) (netbox : Inventory.InventorySnapshot)
    (live : Snapshot.InventorySnapshot) :
    NoDriftLost casefold netbox live (ComparisonEngine.compare casefold none netbox live) ↔
      Unhidden casefold netbox live := by
  rw [noDriftLost_iff_subperm, subperm_iff_of_keys (nodup_registered _)]
  constructor
  · rintro ⟨hkeys, hkept⟩
    have hfound : ∀ d ∈ drifts casefold netbox live,
        d ∈ ComparisonEngine.found casefold netbox live :=
      fun d hd => mem_of_mem_registered (hkept d hd)
    exact {
      keys := hkeys
      ids := fun l hl => ids_of_found hkeys hfound hl
      interfaces := fun m hm => interfaces_of_found hkeys hfound hm
      vlans := fun n hn v hv => vlans_of_found hkeys hfound hn hv }
  · intro hvisible
    exact ⟨hvisible.keys, fun d hd => registered_of_drift hvisible hd⟩

/-- One VLAN in NetBox, and two switches that have it. -/
def officeNetbox : Inventory.InventorySnapshot where
  vlans := [{ vid := 10, name := "office" }]

def officeLive : Snapshot.InventorySnapshot where
  devices := [
    { deviceId := "1", name := "sw1", vlans := [{ vlanId := 10, name := "guests" }] },
    { deviceId := "2", name := "sw2", vlans := [{ vlanId := 10, name := "office" }] }]

/-- The second switch hides that the first one has another name for the VLAN. -/
theorem drift_is_lost :
    ¬NoDriftLost Text.lower officeNetbox officeLive
      (ComparisonEngine.compare Text.lower none officeNetbox officeLive) := by
  rintro ⟨hreported, _⟩
  have hdrift : DifferenceBuilder.modified "vlan" "10" "name" (.text "office") (.text "guests") ∈
      drifts Text.lower officeNetbox officeLive := by
    decide
  have hlost : DifferenceBuilder.modified "vlan" "10" "name" (.text "office") (.text "guests") ∉
      (ComparisonEngine.compare Text.lower none officeNetbox officeLive).differences := by
    decide
  exact hlost (hreported.subset hdrift)

end Comparison
end NetOps
