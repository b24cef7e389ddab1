import Mathlib.Data.Finset.Card
import NetOps.Comparison.Fields

/-!
# Comparison.Counts

How many differences of a list the registry keeps: one of every key (`kept_eq`). Differences of
different types or subject types have different keys, so those are counted apart
(`count_eq`, `kept_append`).
-/

namespace NetOps
namespace Comparison

/-- How many differences of a list are kept. -/
def kept (ds : List Difference) : Nat := (registered ds).length

theorem mem_keys_registered {ds : List Difference} {k : String} :
    k ∈ (registered ds).map Difference.key ↔ k ∈ ds.map Difference.key := by
  rw [List.mem_map, List.mem_map]
  constructor
  · rintro ⟨d, hd, rfl⟩
    exact ⟨d, mem_of_mem_registered hd, rfl⟩
  · rintro ⟨d, hd, rfl⟩
    obtain ⟨d', hd', _, hkey⟩ := registered_of_mem hd
    exact ⟨d', hd', hkey⟩

theorem kept_eq (ds : List Difference) : kept ds = (ds.map Difference.key).toFinset.card := by
  have hkeys : (ds.map Difference.key).toFinset =
      ((registered ds).map Difference.key).toFinset := by
    ext k
    rw [List.mem_toFinset, List.mem_toFinset, mem_keys_registered]
  rw [hkeys, List.toFinset_card_of_nodup (nodup_registered ds), List.length_map]
  rfl

/-- What is kept depends on what there is, not on the order or on how often. -/
theorem kept_congr {ds es : List Difference} (h : ∀ d, d ∈ ds ↔ d ∈ es) : kept ds = kept es := by
  rw [kept_eq, kept_eq]
  congr 1
  ext k
  simp only [List.mem_toFinset, List.mem_map, h]

theorem kept_le (ds : List Difference) : kept ds ≤ ds.length := by
  rw [kept_eq]
  calc (ds.map Difference.key).toFinset.card ≤ (ds.map Difference.key).length :=
        List.toFinset_card_le _
    _ = ds.length := List.length_map _

theorem kept_of_nodup {ds : List Difference} (h : (ds.map Difference.key).Nodup) :
    kept ds = ds.length := by
  rw [kept_eq, List.toFinset_card_of_nodup h, List.length_map]

theorem kept_eq_zero {ds : List Difference} : kept ds = 0 ↔ ds = [] := by
  rw [kept_eq, Finset.card_eq_zero, List.toFinset_eq_empty_iff, List.map_eq_nil_iff]

@[simp] theorem kept_nil : kept [] = 0 := kept_eq_zero.2 rfl

theorem kept_append {ds es : List Difference} (h : ∀ d ∈ ds, ∀ e ∈ es, d.key ≠ e.key) :
    kept (ds ++ es) = kept ds + kept es := by
  rw [kept_eq, kept_eq, kept_eq, List.map_append, List.toFinset_append]
  refine Finset.card_union_of_disjoint (Finset.disjoint_left.2 fun k hk hk' => ?_)
  obtain ⟨d, hd, rfl⟩ := List.mem_map.1 (List.mem_toFinset.1 hk)
  obtain ⟨e, he, hkey⟩ := List.mem_map.1 (List.mem_toFinset.1 hk')
  exact h d hd e he hkey.symm

/-- If the key tells whether a difference counts, as many are counted as are kept of those. -/
theorem countP_registered {ds : List Difference} {p : Difference → Bool}
    (hp : ∀ d ∈ ds, ∀ d' ∈ ds, d.key = d'.key → p d = p d') :
    (registered ds).countP p = kept (ds.filter p) := by
  have hkeys : ((ds.filter p).map Difference.key).toFinset =
      (((registered ds).filter p).map Difference.key).toFinset := by
    ext k
    simp only [List.mem_toFinset, List.mem_map, List.mem_filter]
    constructor
    · rintro ⟨d, ⟨hd, hpd⟩, rfl⟩
      obtain ⟨d', hkept, hd', hkey⟩ := registered_of_mem hd
      exact ⟨d', ⟨hkept, (hp d' hd' d hd hkey).trans hpd⟩, hkey⟩
    · rintro ⟨d, ⟨hd, hpd⟩, rfl⟩
      exact ⟨d, ⟨mem_of_mem_registered hd, hpd⟩, rfl⟩
  have hnodup := (nodup_registered ds).sublist
    (List.Sublist.map Difference.key (List.filter_sublist (p := p)))
  rw [kept_eq, hkeys, List.toFinset_card_of_nodup hnodup, List.length_map,
    List.countP_eq_length_filter]

/-! ## By type -/

/-- The differences of a type. -/
def ofType (t : DifferenceType) (ds : List Difference) : List Difference :=
  ds.filter fun d => d.differenceType = t

theorem mem_ofType {t : DifferenceType} {ds : List Difference} {d : Difference} :
    d ∈ ofType t ds ↔ d ∈ ds ∧ d.differenceType = t := by
  unfold ofType
  rw [List.mem_filter, decide_eq_true_eq]

variable {casefold : String → String} {netbox : Inventory.InventorySnapshot}
  {live : Snapshot.InventorySnapshot}

/-- Without a filter, the metrics count what is kept of the differences of a type. -/
theorem count_eq (t : DifferenceType) :
    (ComparisonEngine.compare casefold none netbox live).metrics.count t =
      kept (ofType t (ComparisonEngine.found casefold netbox live)) := by
  refine countP_registered fun d hd d' hd' hkey => ?_
  obtain ⟨htype, _⟩ := key_subject hkey (subject_plain (subject_of_found hd))
    (subject_plain (subject_of_found hd'))
  rw [htype]

/-- The modified fields of a matched pair. -/
def modifiedOf (casefold : String → String) (m : Inventory.Device × Snapshot.DeviceSnapshot) :
    List Difference :=
  DeviceComparator.compareMatchedDevice casefold m ++
    ofType .modified (InterfaceComparator.compareDevice casefold m) ++
    PlatformComparator.comparePlatform casefold m

theorem modified_of_platform {m : Inventory.Device × Snapshot.DeviceSnapshot} {d : Difference}
    (h : d ∈ PlatformComparator.comparePlatform casefold m) : d.differenceType = .modified := by
  rw [eq_of_comparePlatform h]
  rfl

theorem mem_modifiedOf {m : Inventory.Device × Snapshot.DeviceSnapshot} {d : Difference}
    (h : d ∈ modifiedOf casefold m) : d.differenceType = .modified ∧
      (d.subjectType = "device" ∨ d.subjectType = "interface" ∨ d.subjectType = "platform") := by
  unfold modifiedOf at h
  rw [List.mem_append, List.mem_append, mem_ofType] at h
  rcases h with (h | ⟨h, htype⟩) | h
  · exact ⟨(mem_compareMatchedDevice h).2, .inl (mem_compareMatchedDevice h).1⟩
  · exact ⟨htype, .inr (.inl (subject_of_interface (interfaceDrift_of_found h)))⟩
  · exact ⟨modified_of_platform h, .inr (.inr (subject_of_comparePlatform h))⟩

theorem mem_interfaces {d : Difference} :
    d ∈ InterfaceComparator.compare casefold (InventoryMatcher.«match» casefold netbox live) ↔
      ∃ m ∈ matched casefold netbox live, d ∈ InterfaceComparator.compareDevice casefold m := by
  unfold InterfaceComparator.compare matched
  rw [List.mem_flatMap]

theorem mem_platforms {d : Difference} :
    d ∈ PlatformComparator.compare casefold (InventoryMatcher.«match» casefold netbox live) ↔
      ∃ m ∈ matched casefold netbox live, d ∈ PlatformComparator.comparePlatform casefold m := by
  unfold PlatformComparator.compare matched
  rw [List.mem_flatMap]

/-- Differences other than duplicates and unsupported ones are found by four of the comparators. -/
theorem mem_ofType_found {t : DifferenceType} (hduplicate : t ≠ .duplicate)
    (hunsupported : t ≠ .unsupported) {d : Difference} :
    d ∈ ofType t (ComparisonEngine.found casefold netbox live) ↔
      d ∈ ofType t (DeviceComparator.compare casefold
        (InventoryMatcher.«match» casefold netbox live)) ∨
      d ∈ ofType t (InterfaceComparator.compare casefold
        (InventoryMatcher.«match» casefold netbox live)) ∨
      d ∈ ofType t (VLANComparator.compare casefold netbox live) ∨
      d ∈ ofType t (PlatformComparator.compare casefold
        (InventoryMatcher.«match» casefold netbox live)) := by
  simp only [mem_ofType, mem_interfaces, mem_platforms]
  rw [mem_found]
  constructor
  · rintro ⟨h | h | h | h | h | h, rfl⟩
    · exact absurd (subject_of_identity (mem_identityDrift.2 h)).2 hduplicate
    · exact .inl ⟨h, rfl⟩
    · exact .inr (.inl ⟨h, rfl⟩)
    · exact .inr (.inr (.inl ⟨h, rfl⟩))
    · exact absurd (unsupported_of_neighbor h) hunsupported
    · exact .inr (.inr (.inr ⟨h, rfl⟩))
  · rintro (⟨h, rfl⟩ | ⟨h, rfl⟩ | ⟨h, rfl⟩ | ⟨h, rfl⟩)
    · exact ⟨.inr (.inl h), rfl⟩
    · exact ⟨.inr (.inr (.inl h)), rfl⟩
    · exact ⟨.inr (.inr (.inr (.inl h))), rfl⟩
    · exact ⟨.inr (.inr (.inr (.inr (.inr h)))), rfl⟩

theorem ofType_platforms {t : DifferenceType} (ht : t ≠ .modified) {m : InventoryMatch} :
    ofType t (PlatformComparator.compare casefold m) = [] := by
  refine List.filter_eq_nil_iff.2 fun d hd htype => ht ?_
  obtain ⟨p, _, hp⟩ := List.mem_flatMap.1 hd
  rw [← of_decide_eq_true htype, modified_of_platform hp]

theorem mem_missing_devices {m : InventoryMatch} {d : Difference} :
    d ∈ ofType .missing (DeviceComparator.compare casefold m) ↔
      d ∈ m.missingDevices.map DeviceComparator.missingDevice := by
  rw [mem_ofType, mem_compareDevices, List.mem_map]
  constructor
  · rintro ⟨h | ⟨_, _, rfl⟩ | ⟨_, _, hd⟩, htype⟩
    · exact h
    · cases htype
    · rw [(mem_compareMatchedDevice hd).2] at htype
      cases htype
  · rintro ⟨device, hdevice, rfl⟩
    exact ⟨.inl ⟨device, hdevice, rfl⟩, rfl⟩

theorem mem_unexpected_devices {m : InventoryMatch} {d : Difference} :
    d ∈ ofType .unexpected (DeviceComparator.compare casefold m) ↔
      d ∈ m.unexpectedDevices.map DeviceComparator.unexpectedDevice := by
  rw [mem_ofType, mem_compareDevices, List.mem_map]
  constructor
  · rintro ⟨⟨_, _, rfl⟩ | h | ⟨_, _, hd⟩, htype⟩
    · cases htype
    · exact h
    · rw [(mem_compareMatchedDevice hd).2] at htype
      cases htype
  · rintro ⟨l, hl, rfl⟩
    exact ⟨.inr (.inl ⟨l, hl, rfl⟩), rfl⟩

theorem mem_modified_devices {d : Difference} :
    d ∈ ofType .modified (DeviceComparator.compare casefold
        (InventoryMatcher.«match» casefold netbox live)) ↔
      ∃ m ∈ matched casefold netbox live, d ∈ DeviceComparator.compareMatchedDevice casefold m := by
  rw [mem_ofType, mem_compareDevices]
  constructor
  · rintro ⟨⟨_, _, rfl⟩ | ⟨_, _, rfl⟩ | h, htype⟩
    · cases htype
    · cases htype
    · exact h
  · rintro ⟨m, hm, hd⟩
    exact ⟨.inr (.inr ⟨m, hm, hd⟩), (mem_compareMatchedDevice hd).2⟩

/-- Differences of other subject types are kept apart. -/
theorem kept_append_subject {ds es : List Difference} {s : String} (hs : ':' ∉ s.toList)
    (hds : ∀ d ∈ ds, d.subjectType ≠ s ∧ ':' ∉ d.subjectType.toList)
    (hes : ∀ e ∈ es, e.subjectType = s) : kept (ds ++ es) = kept ds + kept es := by
  refine kept_append fun d hd e he hkey => (hds d hd).1 ?_
  rw [← hes e he]
  exact (key_subject hkey (hds d hd).2 (by rw [hes e he]; exact hs)).2

/-- Of a type that is not found of fields, devices, interfaces and VLANs are counted. -/
theorem count_of_devices {t : DifferenceType} (hduplicate : t ≠ .duplicate)
    (hunsupported : t ≠ .unsupported) (hmodified : t ≠ .modified) {devices : List Difference}
    (hdevices : ∀ {d}, d ∈ ofType t (DeviceComparator.compare casefold
      (InventoryMatcher.«match» casefold netbox live)) ↔ d ∈ devices) :
    (ComparisonEngine.compare casefold none netbox live).metrics.count t =
      kept devices +
        kept (ofType t (InterfaceComparator.compare casefold
          (InventoryMatcher.«match» casefold netbox live))) +
        kept (ofType t (VLANComparator.compare casefold netbox live)) := by
  have hdevice : ∀ d ∈ devices, d.subjectType = "device" := fun d hd =>
    subject_of_compareDevices (mem_ofType.1 (hdevices.2 hd)).1
  have hinterface : ∀ d ∈ ofType t (InterfaceComparator.compare casefold
      (InventoryMatcher.«match» casefold netbox live)), d.subjectType = "interface" := by
    intro d hd
    obtain ⟨m, _, hm⟩ := mem_interfaces.1 (mem_ofType.1 hd).1
    exact subject_of_interface (interfaceDrift_of_found hm)
  have hvlan : ∀ d ∈ ofType t (VLANComparator.compare casefold netbox live),
      d.subjectType = "vlan" := fun d hd => subject_of_compareVlans (mem_ofType.1 hd).1
  rw [count_eq, ← kept_append_subject (s := "interface") (by decide) _ hinterface,
    ← kept_append_subject (s := "vlan") (by decide) _ hvlan]
  · refine kept_congr fun d => ?_
    rw [mem_ofType_found hduplicate hunsupported, ofType_platforms hmodified, hdevices,
      List.mem_append, List.mem_append]
    simp only [List.not_mem_nil, or_false, or_assoc]
  · intro d hd
    rcases List.mem_append.1 hd with hd | hd
    · rw [hdevice d hd]
      decide
    · rw [hinterface d hd]
      decide
  · intro d hd
    rw [hdevice d hd]
    decide

theorem mem_modifiedOf_matched {d : Difference} :
    d ∈ (matched casefold netbox live).flatMap (modifiedOf casefold) ↔
      d ∈ ofType .modified (DeviceComparator.compare casefold
        (InventoryMatcher.«match» casefold netbox live)) ∨
      d ∈ ofType .modified (InterfaceComparator.compare casefold
        (InventoryMatcher.«match» casefold netbox live)) ∨
      d ∈ ofType .modified (PlatformComparator.compare casefold
        (InventoryMatcher.«match» casefold netbox live)) := by
  rw [mem_modified_devices, mem_ofType, mem_ofType, mem_interfaces, mem_platforms, List.mem_flatMap]
  unfold modifiedOf
  simp only [List.mem_append, mem_ofType]
  constructor
  · rintro ⟨m, hm, (h | ⟨h, htype⟩) | h⟩
    · exact .inl ⟨m, hm, h⟩
    · exact .inr (.inl ⟨⟨m, hm, h⟩, htype⟩)
    · exact .inr (.inr ⟨⟨m, hm, h⟩, modified_of_platform h⟩)
  · rintro (⟨m, hm, h⟩ | ⟨⟨m, hm, h⟩, htype⟩ | ⟨⟨m, hm, h⟩, _⟩)
    · exact ⟨m, hm, .inl (.inl h)⟩
    · exact ⟨m, hm, .inl (.inr ⟨h, htype⟩)⟩
    · exact ⟨m, hm, .inr h⟩

/-- The fields of matched pairs and those of VLANs are counted as modified. -/
theorem count_modified :
    (ComparisonEngine.compare casefold none netbox live).metrics.count .modified =
      kept ((matched casefold netbox live).flatMap (modifiedOf casefold)) +
        kept (ofType .modified (VLANComparator.compare casefold netbox live)) := by
  have hvlan : ∀ d ∈ ofType .modified (VLANComparator.compare casefold netbox live),
      d.subjectType = "vlan" := fun d hd => subject_of_compareVlans (mem_ofType.1 hd).1
  rw [count_eq, ← kept_append_subject (s := "vlan") (by decide) _ hvlan]
  · refine kept_congr fun d => ?_
    rw [mem_ofType_found (by decide) (by decide), List.mem_append, mem_modifiedOf_matched]
    tauto
  · intro d hd
    obtain ⟨m, _, hm⟩ := List.mem_flatMap.1 hd
    rcases (mem_modifiedOf hm).2 with h | h | h
    · rw [h]
      decide
    · rw [h]
      decide
    · rw [h]
      decide

end Comparison
end NetOps
