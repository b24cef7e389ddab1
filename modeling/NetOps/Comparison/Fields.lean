import NetOps.Comparison.Drift

/-!
# Comparison.Fields

The fields two matched objects differ in. Their names have no separator, so that the key of a
modified field tells its subject (`key_field`), and a field is reported if and only if it is found
and the filter lets it through (`fieldReported_iff`).
-/

namespace NetOps
namespace Comparison

open Inventory (Device Interface)
open Snapshot (DeviceSnapshot InterfaceSnapshot)

/-- A difference of a field of a subject is reported. -/
def FieldReported (result : InventoryComparisonResult) (subjectType subjectId fieldName : String) :
    Prop :=
  ∃ d ∈ result.differences, d.differenceType = .modified ∧ d.subjectType = subjectType ∧
    d.subjectId = subjectId ∧ d.fieldName = some fieldName

variable (casefold : String → String) (filter : Option DifferenceFilter)
  (netbox : Inventory.InventorySnapshot) (live : Snapshot.InventorySnapshot)

/-- Two fields are the same text but for the spaces around it and the case of letters, or one is
blank. -/
def SameText (expected observed : Option String) : Prop :=
  normalizeOption casefold expected = "" ∨ normalizeOption casefold observed = "" ∨
    normalizeOption casefold expected = normalizeOption casefold observed

/-- One of two fields is empty, or they are the same text but for the spaces around it and the case
of letters. -/
def SameGiven (expected observed : Option String) : Prop :=
  ∀ e ∈ InterfaceComparator.given expected, ∀ o ∈ InterfaceComparator.given observed,
    normalize casefold e = normalize casefold o

/-- A NetBox interface of a matched pair, and the live one it is compared with. -/
def ComparedInterfaces (m : Device × DeviceSnapshot) (i : Interface) (j : InterfaceSnapshot) :
    Prop :=
  ∃ key, (InterfaceComparator.netboxInterfaces casefold m.1).get? key = some i ∧
    (InterfaceComparator.liveInterfaces casefold m.2).get? key = some j

variable {casefold filter netbox live}

/-! ## Differing fields -/

theorem modified_iff {subjectId fieldName : String} {expected observed : Option String}
    {d : Difference} :
    d ∈ DeviceComparator.modified casefold subjectId fieldName expected observed ↔
      ¬SameText casefold expected observed ∧
        d = DifferenceBuilder.modified "device" subjectId fieldName (.ofOption expected)
          (.ofOption observed) := by
  unfold DeviceComparator.modified SameText
  simp only [Bool.or_eq_true, decide_eq_true_eq, or_assoc]
  split
  · rename_i hsame
    simp [hsame]
  · rename_i hsame
    simp [hsame]

theorem field_iff {subjectId fieldName : String} {expected observed : Option String}
    {d : Difference} :
    d ∈ InterfaceComparator.field casefold subjectId fieldName expected observed ↔
      ∃ e ∈ InterfaceComparator.given expected, ∃ o ∈ InterfaceComparator.given observed,
        normalize casefold e ≠ normalize casefold o ∧
          d = DifferenceBuilder.modified "interface" subjectId fieldName (.text e) (.text o) := by
  unfold InterfaceComparator.field
  cases InterfaceComparator.given expected with
  | none => simp
  | some e =>
    cases InterfaceComparator.given observed with
    | none => simp
    | some o =>
      by_cases hsame : normalize casefold e = normalize casefold o
      · simp [hsame]
      · simp [hsame]

theorem enabled_field {subjectId : String} {i : Interface} {j : InterfaceSnapshot}
    {d : Difference} (h : d ∈ InterfaceComparator.enabled subjectId i j) :
    d.fieldName = some "enabled" := by
  obtain ⟨status, rfl⟩ := eq_of_enabled h
  rfl

theorem compareVlan_field {n : Inventory.VLAN} {v : Snapshot.VLANSnapshot} {d : Difference}
    (h : d ∈ VLANComparator.compareVlan casefold n v) :
    d.fieldName = some "name" ∨ d.fieldName = some "status" := by
  unfold VLANComparator.compareVlan at h
  rcases List.mem_append.1 h with h | h
  · split at h
    · cases h
    · rw [List.mem_singleton.1 h]
      exact .inl rfl
  · unfold VLANComparator.status at h
    split at h
    · split at h
      · cases h
      · rw [List.mem_singleton.1 h]
        exact .inr rfl
    · cases h

theorem comparePlatform_field {m : Device × DeviceSnapshot} {d : Difference}
    (h : d ∈ PlatformComparator.comparePlatform casefold m) : d.fieldName = some "platform" := by
  rw [eq_of_comparePlatform h]
  rfl

/-- The modified device fields that are found. -/
theorem device_modified_found {d : Difference} (hmodified : d.differenceType = .modified)
    (hsubject : d.subjectType = "device") :
    d ∈ ComparisonEngine.found casefold netbox live ↔
      ∃ m ∈ matched casefold netbox live, d ∈ DeviceComparator.compareMatchedDevice casefold m := by
  constructor
  · intro h
    have hdevice := found_by_subject h
    simp only [hsubject, String.reduceEq, true_and, false_and, or_false] at hdevice
    rcases hdevice with h | h
    · rw [(subject_of_identity (mem_identityDrift.2 h)).2] at hmodified
      cases hmodified
    · rcases mem_compareDevices.1 h with ⟨_, _, rfl⟩ | ⟨_, _, rfl⟩ | hpair
      · cases hmodified
      · cases hmodified
      · exact hpair
  · rintro hpair
    exact mem_found.2 (.inr (.inl (mem_compareDevices.2 (.inr (.inr hpair)))))

/-- The modified interface fields that are found. -/
theorem interface_modified_found {d : Difference} (hmodified : d.differenceType = .modified)
    (hsubject : d.subjectType = "interface") :
    d ∈ ComparisonEngine.found casefold netbox live ↔
      ∃ m ∈ matched casefold netbox live, ∃ i j, ComparedInterfaces casefold m i j ∧
        d ∈ InterfaceComparator.compareInterface casefold m.1 i j := by
  constructor
  · intro h
    have hinterface := found_by_subject h
    simp only [hsubject, String.reduceEq, true_and, false_and, or_false, false_or] at hinterface
    obtain ⟨m, hm, hcompared⟩ := hinterface
    rcases mem_compareDevice.1 hcompared with ⟨i, _, hi, ⟨_, rfl⟩ | ⟨j, _, hj, hd⟩⟩ | ⟨_, _, _, rfl⟩
    · cases hmodified
    · exact ⟨m, hm, i, j, ⟨_, hi, hj⟩, hd⟩
    · cases hmodified
  · rintro ⟨m, hm, i, j, ⟨key, hi, hj⟩, hd⟩
    refine mem_found.2 (.inr (.inr (.inl ⟨m, hm, mem_compareDevice.2 (.inl ?_)⟩)))
    obtain ⟨himem, rfl⟩ := Dict.get?_byKey hi
    obtain ⟨hjmem, hjname⟩ := Dict.get?_byKey hj
    exact ⟨i, himem, hi, .inr ⟨j, mem_counterparts.2 ⟨hjmem, hjname⟩, hj, hd⟩⟩

theorem compareMatchedDevice_field {m : Device × DeviceSnapshot} {d : Difference}
    (h : d ∈ DeviceComparator.compareMatchedDevice casefold m) :
    d.fieldName = some "serial" ∨ d.fieldName = some "primary_ip" ∨ d.fieldName = some "model" := by
  unfold DeviceComparator.compareMatchedDevice at h
  rcases List.mem_append.1 h with h | h
  · rcases List.mem_append.1 h with h | h
    · rw [(modified_iff.1 h).2]
      exact .inl rfl
    · rw [(modified_iff.1 h).2]
      exact .inr (.inl rfl)
  · rw [(modified_iff.1 h).2]
    exact .inr (.inr rfl)

theorem compareInterface_field {device : Device} {i : Interface} {j : InterfaceSnapshot}
    {d : Difference} (h : d ∈ InterfaceComparator.compareInterface casefold device i j) :
    d.fieldName = some "enabled" ∨ d.fieldName = some "mac_address" ∨
      d.fieldName = some "description" := by
  unfold InterfaceComparator.compareInterface at h
  rcases List.mem_append.1 h with h | h
  · rcases List.mem_append.1 h with h | h
    · exact .inl (enabled_field h)
    · obtain ⟨e, _, o, _, _, rfl⟩ := field_iff.1 h
      exact .inr (.inl rfl)
  · obtain ⟨e, _, o, _, _, rfl⟩ := field_iff.1 h
    exact .inr (.inr rfl)

theorem unsupported_of_neighbor {d : Difference} (h : d ∈ NeighborComparator.compare live) :
    d.differenceType = .unsupported := by
  unfold NeighborComparator.compare at h
  obtain ⟨device, _, hd⟩ := List.mem_flatMap.1 h
  obtain ⟨neighbor, _, rfl⟩ := List.mem_map.1 hd
  rfl

/-- Modified fields have names without separators. -/
theorem field_of_found {d : Difference} (h : d ∈ ComparisonEngine.found casefold netbox live)
    (hmodified : d.differenceType = .modified) : ':' ∉ (d.fieldName.getD "").toList := by
  have hfields : d.fieldName ∈ [some "serial", some "primary_ip", some "model", some "enabled",
      some "mac_address", some "description", some "name", some "status", some "platform"] := by
    rcases mem_found.1 h with hidentity | hdevice | ⟨m, hm, hinterface⟩ | hvlan | hneighbor |
      ⟨m, _, hplatform⟩
    · rw [(subject_of_identity (mem_identityDrift.2 hidentity)).2] at hmodified
      cases hmodified
    · obtain ⟨m, _, hd⟩ :=
        (device_modified_found hmodified (subject_of_compareDevices hdevice)).1 h
      rcases compareMatchedDevice_field hd with hd | hd | hd <;> simp [hd]
    · have hsubject := subject_of_interface (interfaceDrift_of_found hinterface)
      obtain ⟨m, _, i, j, _, hd⟩ := (interface_modified_found hmodified hsubject).1 h
      rcases compareInterface_field hd with hd | hd | hd <;> simp [hd]
    · obtain ⟨n, _, v, _, _, _, _, hd⟩ := (mem_compareVlans hmodified).1 hvlan
      rcases compareVlan_field hd with hd | hd <;> simp [hd]
    · rw [unsupported_of_neighbor hneighbor] at hmodified
      cases hmodified
    · simp [comparePlatform_field hplatform]
  revert hfields
  generalize d.fieldName = fieldName
  simp only [List.mem_cons, List.not_mem_nil, or_false]
  rintro (rfl | rfl | rfl | rfl | rfl | rfl | rfl | rfl | rfl) <;> decide

/-- Of modified fields the key tells which. -/
theorem key_field {d d' : Difference} (h : d.key = d'.key) (hd : ':' ∉ d.subjectType.toList)
    (hd' : ':' ∉ d'.subjectType.toList) (hf : ':' ∉ (d.fieldName.getD "").toList)
    (hf' : ':' ∉ (d'.fieldName.getD "").toList) :
    d.subjectId = d'.subjectId ∧ d.fieldName.getD "" = d'.fieldName.getD "" := by
  obtain ⟨htype, hsubject⟩ := key_subject h hd hd'
  have hlist := congrArg String.toList h
  have hsep : ":".toList = [':'] := by decide
  simp only [Difference.key, String.toList_append, hsep, htype, hsubject, List.append_assoc,
    List.singleton_append, List.append_cancel_left_eq] at hlist
  -- the field is what follows the last separator
  have hreversed := congrArg List.reverse hlist
  simp only [List.reverse_append, List.reverse_cons, List.append_assoc,
    List.singleton_append] at hreversed
  obtain ⟨hfield, hid⟩ := append_separator_inj (mt List.mem_reverse.1 hf)
    (mt List.mem_reverse.1 hf') hreversed
  exact ⟨String.toList_inj.1 (List.reverse_injective (List.append_cancel_right hid)),
    String.toList_inj.1 (List.reverse_injective hfield)⟩

theorem fieldReported_iff {subjectType subjectId fieldName : String} (hfield : fieldName ≠ "") :
    FieldReported (ComparisonEngine.compare casefold filter netbox live) subjectType subjectId
        fieldName ↔
      admits filter .modified subjectType = true ∧
        ∃ d ∈ ComparisonEngine.found casefold netbox live, d.differenceType = .modified ∧
          d.subjectType = subjectType ∧ d.subjectId = subjectId ∧
          d.fieldName = some fieldName := by
  unfold FieldReported
  rw [differences_admitted]
  constructor
  · rintro ⟨d, hd, htype, hsubject, hid, hname⟩
    obtain ⟨hregistered, hadmitted⟩ := List.mem_filter.1 hd
    rw [htype, hsubject] at hadmitted
    exact ⟨hadmitted, d, mem_of_mem_registered hregistered, htype, hsubject, hid, hname⟩
  · rintro ⟨hadmitted, d, hd, htype, hsubject, hid, hname⟩
    obtain ⟨d', hkept, hd', hkey⟩ := registered_of_mem hd
    have hplain := subject_plain (subject_of_found hd)
    have hplain' := subject_plain (subject_of_found hd')
    obtain ⟨htype', hsubject'⟩ := key_subject hkey hplain' hplain
    rw [htype] at htype'
    rw [hsubject] at hsubject'
    obtain ⟨hid', hname'⟩ := key_field hkey hplain' hplain (field_of_found hd' htype')
      (field_of_found hd htype)
    refine ⟨d', List.mem_filter.2 ⟨hkept, ?_⟩, htype', hsubject', hid'.trans hid, ?_⟩
    · rw [htype', hsubject']
      exact hadmitted
    · rw [hname, Option.getD_some] at hname'
      cases hsome : d'.fieldName with
      | none =>
        rw [hsome] at hname'
        exact absurd hname'.symm hfield
      | some name =>
        rw [hsome] at hname'
        rw [← hname', Option.getD_some]

end Comparison
end NetOps
