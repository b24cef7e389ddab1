import Mathlib.Data.Rat.Lemmas
import Mathlib.Tactic.FieldSimp
import Mathlib.Tactic.Linarith
import Mathlib.Tactic.Ring
import NetOps.Comparison.Counts
import NetOps.Comparison.Matching
import NetOps.Reporting.Statistics

/-!
# Reporting.DeviceCounts

What the device counts of a report count.

`missing_devices`, `extra_devices` and `changed_devices` are the totals of a comparison over all
subjects, so interfaces, VLANs and further fields of one device are counted as devices; live devices
that share their id or their name with another are not counted. The figures are those of the devices
if and only if the two make up for each other (`counts_devices_iff`). The dashboard relates the same
totals to the devices of the latest live snapshot, the report to those of NetBox.
-/

namespace NetOps
namespace Reporting

open Comparison
open Inventory (Device Interface VLAN)
open Snapshot (DeviceSnapshot)

variable (casefold : String → String) (netbox : Inventory.InventorySnapshot)
  (live : Snapshot.InventorySnapshot)

/-! ## Devices -/

/-- The NetBox devices without a live match. -/
def missingDevices : List Device :=
  (InventoryMatcher.«match» casefold netbox live).missingDevices

/-- The live devices without a NetBox match. -/
def extraDevices : List Entry :=
  (entries live).filter fun e => ∀ d ∈ netbox.devices, findEntry casefold live d ≠ some e

/-- The matched devices with a modified difference. -/
def changedDevices : List (Device × DeviceSnapshot) :=
  (matched casefold netbox live).filter fun m => modifiedOf casefold m ≠ []

/-- The matched devices without a missing or a modified difference. -/
def accurateDevices : List (Device × DeviceSnapshot) :=
  (matched casefold netbox live).filter fun m => modifiedOf casefold m = [] ∧
    ofType .missing (InterfaceComparator.compareDevice casefold m) = []

/-- The dashboard shows what the report does. -/
structure KpisAgree (statistics : ReportStatistics) (kpis : DashboardKpiSummary) : Prop where
  missing : kpis.missingDevices = some (statistics.missingDevices : Int)
  extra : kpis.extraDevices = some (statistics.extraDevices : Int)
  changed : kpis.modifiedDevices = some (statistics.changedDevices : Int)
  accuracy : kpis.netboxAccuracyPct = some statistics.netboxAccuracyPct

/-- The figures of a report are those of the devices, and those of the dashboard agree. -/
structure CountsDevices (statistics : ReportStatistics) (kpis : DashboardKpiSummary) : Prop where
  missing : statistics.missingDevices = (missingDevices casefold netbox live).length
  extra : statistics.extraDevices = (extraDevices casefold netbox live).length
  changed : statistics.changedDevices = (changedDevices casefold netbox live).length
  accuracy : netbox.devices ≠ [] → statistics.netboxAccuracyPct =
    100 * (accurateDevices casefold netbox live).length / netbox.devices.length
  kpis : KpisAgree statistics kpis

/-! ## What is counted besides -/

/-- The live interfaces and VLANs that NetBox does not have. -/
def extraObjects : Nat :=
  kept (ofType .unexpected
    (InterfaceComparator.compare casefold (InventoryMatcher.«match» casefold netbox live))) +
  kept (ofType .unexpected (VLANComparator.compare casefold netbox live))

/-- The live devices without a match that are not reported: one with the id of a matched one, and
all of a name but one. -/
def hiddenDevices : Nat :=
  (extraDevices casefold netbox live).length -
    kept ((InventoryMatcher.«match» casefold netbox live).unexpectedDevices.map
      DeviceComparator.unexpectedDevice)

/-- The modified fields of VLANs, and those of matched devices beyond the first of each. -/
def furtherFields : Nat :=
  ((matched casefold netbox live).map fun m => (modifiedOf casefold m).length - 1).sum +
    kept (ofType .modified (VLANComparator.compare casefold netbox live))

/-- The modified fields that are not reported, for another of the same key. -/
def hiddenFields : Nat :=
  ((matched casefold netbox live).flatMap (modifiedOf casefold)).length -
    kept ((matched casefold netbox live).flatMap (modifiedOf casefold))

/-- Besides devices nothing is missing, and what else is counted is made up for by what is hidden.
The latest live snapshot has as many devices as NetBox, or the accuracy is 0 or 100 for both. -/
structure OnlyDevices (liveSnapshots : List Snapshot.InventorySnapshot) : Prop where
  interfaces : ∀ m ∈ matched casefold netbox live, ∀ i ∈ m.1.interfaces,
    counterparts casefold m i ≠ []
  vlans : ∀ n ∈ netbox.vlans, ∃ v ∈ live.devices.flatMap (·.vlans), v.vlanId = n.vid
  extra : extraObjects casefold netbox live = hiddenDevices casefold netbox live
  changed : furtherFields casefold netbox live = hiddenFields casefold netbox live
  dashboard : ∃ latest ∈ liveSnapshots.head?, latest.devices ≠ [] ∧
    (missingDevices casefold netbox live = [] ∧ changedDevices casefold netbox live = [] ∨
      latest.devices.length = netbox.devices.length ∨
      netbox.devices.length ≤ (missingDevices casefold netbox live).length +
        (changedDevices casefold netbox live).length ∧
      latest.devices.length ≤ (missingDevices casefold netbox live).length +
        (changedDevices casefold netbox live).length)

variable {casefold netbox live}

/-! ## Missing -/

theorem missing_interfaces_iff :
    ofType .missing
        (InterfaceComparator.compare casefold
          (InventoryMatcher.«match» casefold netbox live)) = [] ↔
      ∀ m ∈ matched casefold netbox live, ∀ i ∈ m.1.interfaces, counterparts casefold m i ≠ [] := by
  rw [List.eq_nil_iff_forall_not_mem]
  constructor
  · intro hnone m hm i hi hno
    -- of the interfaces of its name, the last is missing
    obtain ⟨i', hget⟩ := Dict.get?_byKey_isSome
      (fun i : Interface => normalize casefold i.name) hi
    obtain ⟨hi', hname⟩ := Dict.get?_byKey hget
    rw [← hname] at hget
    refine hnone (InterfaceComparator.missingInterface m.1 i') (mem_ofType.2 ⟨?_, rfl⟩)
    refine mem_interfaces.2 ⟨m, hm, mem_compareDevice.2 (.inl ⟨i', hi', hget, .inl ⟨?_, rfl⟩⟩)⟩
    unfold counterparts at hno ⊢
    rw [hname]
    exact hno
  · intro hall d hd
    obtain ⟨hfound, htype⟩ := mem_ofType.1 hd
    obtain ⟨m, hm, hcompared⟩ := mem_interfaces.1 hfound
    rcases mem_compareDevice.1 hcompared with
      ⟨i, hi, _, ⟨hno, _⟩ | ⟨j, _, _, hj⟩⟩ | ⟨j, _, _, rfl⟩
    · exact hall m hm i hi hno
    · rw [(mem_compareInterface hj).1] at htype
      cases htype
    · cases htype

theorem missing_vlans_iff :
    ofType .missing (VLANComparator.compare casefold netbox live) = [] ↔
      ∀ n ∈ netbox.vlans, ∃ v ∈ live.devices.flatMap (·.vlans), v.vlanId = n.vid := by
  have hlive : ∀ vid : Int, (VLANComparator.liveVlans live).get? vid = none ↔
      ∀ v ∈ live.devices.flatMap (·.vlans), v.vlanId ≠ vid := fun vid => Dict.get?_byKey_eq_none
  rw [List.eq_nil_iff_forall_not_mem]
  constructor
  · intro hnone n hn
    by_contra hno
    simp only [not_exists, not_and] at hno
    obtain ⟨n', hget⟩ := Dict.get?_byKey_isSome (fun n : VLAN => n.vid) hn
    refine hnone (VLANComparator.missingVlan n.vid n') (mem_ofType.2 ⟨?_, rfl⟩)
    unfold VLANComparator.compare
    refine List.mem_append_left _ (List.mem_flatMap.2 ⟨(n.vid, n'), Dict.mem_items.2 hget, ?_⟩)
    unfold VLANComparator.compareEntry
    rw [(hlive n.vid).2 hno]
    exact List.mem_singleton_self _
  · intro hall d hd
    obtain ⟨hfound, htype⟩ := mem_ofType.1 hd
    unfold VLANComparator.compare at hfound
    rw [List.mem_append, List.mem_flatMap, List.mem_map] at hfound
    rcases hfound with ⟨e, he, hentry⟩ | ⟨e, _, rfl⟩
    · obtain ⟨hmem, hkey, _⟩ := Dict.mem_items_byKey he
      unfold VLANComparator.compareEntry at hentry
      split at hentry
      · rename_i hnone
        obtain ⟨v, hv, hid⟩ := hall e.2 hmem
        exact (hlive e.1).1 hnone v hv (hid.trans hkey)
      · rw [(mem_compareVlan hentry).1] at htype
        cases htype
    · cases htype

theorem key_missingDevice_inj {d d' : Device}
    (h : (DeviceComparator.missingDevice d).key = (DeviceComparator.missingDevice d').key) :
    d.name = d'.name := by
  have hdevice : ':' ∉ "device".toList := by decide
  have hnone : ':' ∉ "".toList := by decide
  exact (key_field h hdevice hdevice hnone hnone).1

/-- Devices of different names are all counted. -/
theorem missing_eq (hnames : (netbox.devices.map (·.name)).Nodup) :
    (ComparisonEngine.compare casefold none netbox live).metrics.count .missing =
      (missingDevices casefold netbox live).length +
        kept (ofType .missing
          (InterfaceComparator.compare casefold (InventoryMatcher.«match» casefold netbox live))) +
        kept (ofType .missing (VLANComparator.compare casefold netbox live)) := by
  have hnodup : (((missingDevices casefold netbox live).map
      DeviceComparator.missingDevice).map Difference.key).Nodup := by
    have hsub : ((missingDevices casefold netbox live).map (·.name)).Nodup :=
      hnames.sublist (List.filter_sublist.map _)
    rw [List.map_map, List.Nodup, List.pairwise_map]
    rw [List.Nodup, List.pairwise_map] at hsub
    exact hsub.imp fun hne hkey => hne (key_missingDevice_inj hkey)
  rw [count_of_devices (by decide) (by decide) (by decide) mem_missing_devices]
  have hkept := kept_of_nodup hnodup
  rw [List.length_map] at hkept
  unfold missingDevices at hkept ⊢
  rw [hkept]

theorem missing_iff (hnames : (netbox.devices.map (·.name)).Nodup) :
    (ComparisonEngine.compare casefold none netbox live).metrics.count .missing =
        (missingDevices casefold netbox live).length ↔
      (∀ m ∈ matched casefold netbox live, ∀ i ∈ m.1.interfaces, counterparts casefold m i ≠ []) ∧
      ∀ n ∈ netbox.vlans, ∃ v ∈ live.devices.flatMap (·.vlans), v.vlanId = n.vid := by
  rw [← missing_interfaces_iff, ← @missing_vlans_iff casefold netbox live, ← kept_eq_zero,
    ← kept_eq_zero, missing_eq hnames]
  omega

/-! ## Unexpected -/

/-- The reported live devices are among those without a match. -/
theorem reported_le :
    kept ((InventoryMatcher.«match» casefold netbox live).unexpectedDevices.map
      DeviceComparator.unexpectedDevice) ≤ (extraDevices casefold netbox live).length := by
  have hle : (unexpectedEntries casefold netbox live).length ≤
      (extraDevices casefold netbox live).length := by
    unfold unexpectedEntries extraDevices
    rw [← List.countP_eq_length_filter, ← List.countP_eq_length_filter]
    refine List.countP_mono_left fun e _ hall => decide_eq_true fun d hd hfound => ?_
    have hid := List.all_eq_true.1 hall (d, e) (mem_matchedEntries.2 ⟨hd, hfound⟩)
    exact of_decide_eq_true hid rfl
  calc kept _ ≤ _ := kept_le _
    _ = (unexpectedEntries casefold netbox live).length := by
      rw [List.length_map, unexpectedDevices_eq, List.length_map]
    _ ≤ _ := hle

theorem extra_iff :
    (ComparisonEngine.compare casefold none netbox live).metrics.count .unexpected =
        (extraDevices casefold netbox live).length ↔
      extraObjects casefold netbox live = hiddenDevices casefold netbox live := by
  have hle := @reported_le casefold netbox live
  rw [count_of_devices (by decide) (by decide) (by decide) mem_unexpected_devices]
  unfold extraObjects hiddenDevices
  omega

/-! ## Modified -/

/-- Of a list of lists, the members are as many as the lists that are not empty and what these have
beyond their first. -/
theorem length_flatMap_further {α β : Type} (f : α → List β) (xs : List α)
    [DecidablePred fun x => f x ≠ []] :
    (xs.flatMap f).length =
      (xs.map fun x => (f x).length - 1).sum + (xs.filter fun x => f x ≠ []).length := by
  induction xs with
  | nil => rfl
  | cons x xs ih =>
    rw [List.flatMap_cons, List.length_append, List.map_cons, List.sum_cons, List.filter_cons, ih]
    by_cases hx : f x = []
    · simp [hx]
    · have hpos := List.length_pos_iff.2 hx
      rw [if_pos (decide_eq_true hx), List.length_cons]
      omega

theorem changed_iff :
    (ComparisonEngine.compare casefold none netbox live).metrics.count .modified =
        (changedDevices casefold netbox live).length ↔
      furtherFields casefold netbox live = hiddenFields casefold netbox live := by
  have hle := kept_le ((matched casefold netbox live).flatMap (modifiedOf casefold))
  have hlength := length_flatMap_further (modifiedOf casefold) (matched casefold netbox live)
  rw [count_modified]
  unfold changedDevices furtherFields hiddenFields
  omega

/-! ## Accuracy -/

/-- Every NetBox device is matched or missing. -/
theorem devices_length :
    (matched casefold netbox live).length + (missingDevices casefold netbox live).length =
      netbox.devices.length := by
  have hlength := (@netbox_partition casefold netbox live).1.length_eq
  rw [List.length_append, List.length_map] at hlength
  exact hlength

/-- Where no interface is missing, the matched devices are changed or accurate. -/
theorem accurate_length
    (h : ∀ m ∈ matched casefold netbox live, ∀ i ∈ m.1.interfaces, counterparts casefold m i ≠ []) :
    (accurateDevices casefold netbox live).length + (changedDevices casefold netbox live).length =
      (matched casefold netbox live).length := by
  have hnone : ∀ m ∈ matched casefold netbox live,
      ofType .missing (InterfaceComparator.compareDevice casefold m) = [] := by
    intro m hm
    refine List.filter_eq_nil_iff.2 fun d hd htype => ?_
    have hmem : d ∈ ofType .missing (InterfaceComparator.compare casefold
        (InventoryMatcher.«match» casefold netbox live)) :=
      mem_ofType.2 ⟨mem_interfaces.2 ⟨m, hm, hd⟩, of_decide_eq_true htype⟩
    rw [missing_interfaces_iff.2 h] at hmem
    cases hmem
  have haccurate : accurateDevices casefold netbox live =
      (matched casefold netbox live).filter fun m => !decide (modifiedOf casefold m ≠ []) := by
    refine List.filter_congr fun m hm => ?_
    simp [hnone m hm]
  rw [haccurate]
  unfold changedDevices
  have hlength := List.length_eq_length_filter_add (l := matched casefold netbox live)
    fun m => decide (modifiedOf casefold m ≠ [])
  omega

/-- The share of `count - drift` in `count`, in percent. -/
def share (count drift : Nat) : ℚ := (max ((count : Int) - drift) 0 : Int) / count * 100

theorem share_add (count a b : Nat) :
    share count (a + b) = (max ((count : Int) - a - b) 0 : Int) / count * 100 := by
  unfold share
  rw [Nat.cast_add, sub_sub]

theorem share_of_le {count drift : Nat} (h : drift ≤ count) :
    share count drift = 100 * (count - drift : Nat) / count := by
  unfold share
  rw [max_eq_left (by omega), ← Int.ofNat_sub h]
  push_cast
  ring

/-- The same drift leaves the same share of two counts if there is none, the counts are the same or
it exceeds both. -/
theorem share_eq_iff {m n drift : Nat} (hm : 0 < m) (hn : 0 < n) :
    share m drift = share n drift ↔ drift = 0 ∨ m = n ∨ n ≤ drift ∧ m ≤ drift := by
  have hm' : (m : ℚ) ≠ 0 := by exact_mod_cast hm.ne'
  have hn' : (n : ℚ) ≠ 0 := by exact_mod_cast hn.ne'
  have hcross : share m drift = share n drift ↔
      max ((m : Int) - drift) 0 * n = max ((n : Int) - drift) 0 * m := by
    unfold share
    rw [mul_left_inj' (by norm_num), div_eq_div_iff hm' hn']
    exact_mod_cast Iff.rfl
  rw [hcross]
  rcases Nat.lt_or_ge drift m with hlt | hge
  · rcases Nat.lt_or_ge drift n with hlt' | hge'
    · rw [max_eq_left (by omega), max_eq_left (by omega)]
      have hfactor : ((m : Int) - drift) * n = ((n : Int) - drift) * m ↔
          (drift : Int) * (m - n) = 0 := by
        constructor
        · intro h
          linarith
        · intro h
          linarith
      rw [hfactor, mul_eq_zero]
      omega
    · rw [max_eq_left (by omega), max_eq_right (by omega)]
      have hpos : 0 < ((m : Int) - drift) * n := Int.mul_pos (by omega) (by omega)
      omega
  · rcases Nat.lt_or_ge drift n with hlt' | hge'
    · rw [max_eq_right (by omega), max_eq_left (by omega)]
      have hpos : 0 < ((n : Int) - drift) * m := Int.mul_pos (by omega) (by omega)
      omega
    · rw [max_eq_right (by omega), max_eq_right (by omega)]
      omega

/-! ## The figures -/

/-- The statistics of a report on two snapshots and their comparison. -/
def statistics (casefold : String → String) (netbox : Inventory.InventorySnapshot)
    (live : Snapshot.InventorySnapshot) (context : ReportContext) : ReportStatistics :=
  StatisticsCalculator.calculate { context with
    netboxInventory := some netbox
    liveSnapshot := some live
    comparisonResult := some (ComparisonEngine.compare casefold none netbox live) }

/-- The KPIs after the comparison was stored. -/
def kpis (casefold : String → String) (netbox : Inventory.InventorySnapshot)
    (live : Snapshot.InventorySnapshot) (liveSnapshots : List Snapshot.InventorySnapshot) :
    DashboardKpiSummary :=
  DashboardService.currentKpis liveSnapshots
    (some (asdict (ComparisonEngine.compare casefold none netbox live).metrics))

variable {context : ReportContext} {liveSnapshots : List Snapshot.InventorySnapshot}

theorem asdict_missing (metrics : ComparisonMetrics) :
    (asdict metrics).get? "missing" = some (metrics.count .missing : Int) := rfl

theorem asdict_unexpected (metrics : ComparisonMetrics) :
    (asdict metrics).get? "unexpected" = some (metrics.count .unexpected : Int) := rfl

theorem asdict_modified (metrics : ComparisonMetrics) :
    (asdict metrics).get? "modified" = some (metrics.count .modified : Int) := rfl

/-- The statistics count the differences of a type. -/
theorem statistics_counts :
    (statistics casefold netbox live context).missingDevices =
        (ComparisonEngine.compare casefold none netbox live).metrics.count .missing ∧
      (statistics casefold netbox live context).extraDevices =
        (ComparisonEngine.compare casefold none netbox live).metrics.count .unexpected ∧
      (statistics casefold netbox live context).changedDevices =
        (ComparisonEngine.compare casefold none netbox live).metrics.count .modified := by
  unfold statistics StatisticsCalculator.calculate
  generalize ComparisonEngine.compare casefold none netbox live = comparison
  exact ⟨rfl, rfl, rfl⟩

/-- The dashboard shows the same totals as the report. -/
theorem kpisAgree_iff :
    KpisAgree (statistics casefold netbox live context) (kpis casefold netbox live liveSnapshots) ↔
      (kpis casefold netbox live liveSnapshots).netboxAccuracyPct =
        some (statistics casefold netbox live context).netboxAccuracyPct := by
  constructor
  · intro h
    exact h.accuracy
  · intro h
    obtain ⟨hmissing, hextra, hchanged⟩ := @statistics_counts casefold netbox live context
    refine ⟨?_, ?_, ?_, h⟩
    · rw [hmissing]
      exact asdict_missing _
    · rw [hextra]
      exact asdict_unexpected _
    · rw [hchanged]
      exact asdict_modified _

theorem statistics_accuracy {drift : Nat}
    (hdrift : (ComparisonEngine.compare casefold none netbox live).metrics.count .missing +
      (ComparisonEngine.compare casefold none netbox live).metrics.count .modified = drift) :
    (statistics casefold netbox live context).netboxAccuracyPct =
      if netbox.devices.length = 0 then 100 else share netbox.devices.length drift := by
  rw [← hdrift, share_add]
  rfl

theorem kpis_accuracy {drift : Nat}
    (hdrift : (ComparisonEngine.compare casefold none netbox live).metrics.count .missing +
      (ComparisonEngine.compare casefold none netbox live).metrics.count .modified = drift) :
    (kpis casefold netbox live liveSnapshots).netboxAccuracyPct =
      liveSnapshots.head?.bind fun latest =>
        if latest.devices.length = 0 then none else some (share latest.devices.length drift) := by
  subst hdrift
  simp only [share_add]
  unfold kpis DashboardService.currentKpis
  dsimp only
  unfold DashboardService.netboxAccuracyFromComparison
  rw [asdict_missing, asdict_modified]
  cases liveSnapshots <;> rfl

/-- The accuracy of the report is that of the dashboard for a latest live snapshot of as many
devices, and where there is none or only drift. -/
theorem accuracy_agrees_iff
    (hdrift : (ComparisonEngine.compare casefold none netbox live).metrics.count .missing +
      (ComparisonEngine.compare casefold none netbox live).metrics.count .modified =
        (missingDevices casefold netbox live).length +
          (changedDevices casefold netbox live).length) :
    (kpis casefold netbox live liveSnapshots).netboxAccuracyPct =
        some (statistics casefold netbox live context).netboxAccuracyPct ↔
      ∃ latest ∈ liveSnapshots.head?, latest.devices ≠ [] ∧
        (missingDevices casefold netbox live = [] ∧ changedDevices casefold netbox live = [] ∨
          latest.devices.length = netbox.devices.length ∨
          netbox.devices.length ≤ (missingDevices casefold netbox live).length +
            (changedDevices casefold netbox live).length ∧
          latest.devices.length ≤ (missingDevices casefold netbox live).length +
            (changedDevices casefold netbox live).length) := by
  have hlength := @devices_length casefold netbox live
  have hchanged : (changedDevices casefold netbox live).length ≤
      (matched casefold netbox live).length := List.length_filter_le _ _
  rw [kpis_accuracy hdrift, statistics_accuracy hdrift, Option.bind_eq_some_iff]
  refine exists_congr fun latest => and_congr_right fun _ => ?_
  rw [← List.length_pos_iff, ← List.length_eq_zero_iff, ← List.length_eq_zero_iff,
    ← Nat.add_eq_zero_iff]
  by_cases hlatest : latest.devices.length = 0
  · simp [hlatest]
  · rw [if_neg hlatest, Option.some.injEq]
    by_cases hnetbox : netbox.devices.length = 0
    · -- without NetBox devices both are 100
      have hnone : (missingDevices casefold netbox live).length +
          (changedDevices casefold netbox live).length = 0 := by omega
      rw [if_pos hnetbox, hnone, share_of_le (Nat.zero_le _)]
      have hne : (latest.devices.length : ℚ) ≠ 0 := by exact_mod_cast hlatest
      rw [Nat.sub_zero, mul_div_assoc, div_self hne]
      simp [Nat.pos_of_ne_zero hlatest]
    · rw [if_neg hnetbox, share_eq_iff (Nat.pos_of_ne_zero hlatest) (Nat.pos_of_ne_zero hnetbox)]
      simp [Nat.pos_of_ne_zero hlatest]

/-- Where only devices are missing and modified, the accuracy is the share of the accurate ones. -/
theorem accuracy_eq
    (h : ∀ m ∈ matched casefold netbox live, ∀ i ∈ m.1.interfaces, counterparts casefold m i ≠ [])
    (hdrift : (ComparisonEngine.compare casefold none netbox live).metrics.count .missing +
      (ComparisonEngine.compare casefold none netbox live).metrics.count .modified =
        (missingDevices casefold netbox live).length +
          (changedDevices casefold netbox live).length) (hne : netbox.devices ≠ []) :
    (statistics casefold netbox live context).netboxAccuracyPct =
      100 * (accurateDevices casefold netbox live).length / netbox.devices.length := by
  have hlength := @devices_length casefold netbox live
  have haccurate := accurate_length h
  have hpos := List.length_pos_iff.2 hne
  have hrest : netbox.devices.length - ((missingDevices casefold netbox live).length +
      (changedDevices casefold netbox live).length) =
        (accurateDevices casefold netbox live).length := by
    omega
  rw [statistics_accuracy hdrift, if_neg hpos.ne', share_of_le (by omega), hrest]

/-- The figures of a report on NetBox devices of different names are those of the devices, and those
of the dashboard agree, if and only if nothing else is counted that is not made up for. -/
theorem counts_devices_iff (casefold : String → String) (netbox : Inventory.InventorySnapshot)
    (live : Snapshot.InventorySnapshot) (hnames : (netbox.devices.map (·.name)).Nodup)
    (context : ReportContext) (liveSnapshots : List Snapshot.InventorySnapshot) :
    CountsDevices casefold netbox live (statistics casefold netbox live context)
        (kpis casefold netbox live liveSnapshots) ↔
      OnlyDevices casefold netbox live liveSnapshots := by
  obtain ⟨hmissings, hextras, hchanges⟩ := @statistics_counts casefold netbox live context
  constructor
  · intro h
    have hmissing := hmissings.symm.trans h.missing
    have hchanged := hchanges.symm.trans h.changed
    obtain ⟨hinterfaces, hvlans⟩ := (missing_iff hnames).1 hmissing
    exact {
      interfaces := hinterfaces
      vlans := hvlans
      extra := extra_iff.1 (hextras.symm.trans h.extra)
      changed := changed_iff.1 hchanged
      dashboard := (accuracy_agrees_iff (by rw [hmissing, hchanged])).1 h.kpis.accuracy }
  · intro h
    have hmissing := (missing_iff hnames).2 ⟨h.interfaces, h.vlans⟩
    have hchanged := changed_iff.2 h.changed
    have hdrift : (ComparisonEngine.compare casefold none netbox live).metrics.count .missing +
        (ComparisonEngine.compare casefold none netbox live).metrics.count .modified =
          (missingDevices casefold netbox live).length +
            (changedDevices casefold netbox live).length := by
      rw [hmissing, hchanged]
    exact {
      missing := hmissings.trans hmissing
      extra := hextras.trans (extra_iff.2 h.extra)
      changed := hchanges.trans hchanged
      accuracy := fun hne => accuracy_eq h.interfaces hdrift hne
      kpis := kpisAgree_iff.2 ((accuracy_agrees_iff hdrift).2 h.dashboard) }

/-- A router that is as NetBox has it, and a VLAN that is not live. -/
def branchNetbox : Inventory.InventorySnapshot where
  devices := [{ name := "rtr1"
                deviceType := { manufacturer := { name := "Cisco", slug := "cisco" }
                                model := "C8300", slug := "c8300" } }]
  vlans := [{ vid := 10, name := "office" }]

def branchLive : Snapshot.InventorySnapshot where
  devices := [{ deviceId := "1", name := "rtr1" }]

theorem counts_devices_iff_branch :
    CountsDevices Text.lower branchNetbox branchLive
        (statistics Text.lower branchNetbox branchLive {})
        (kpis Text.lower branchNetbox branchLive [branchLive]) ↔
      OnlyDevices Text.lower branchNetbox branchLive [branchLive] :=
  counts_devices_iff Text.lower branchNetbox branchLive (by decide) {} [branchLive]

/-- The VLAN is reported as a missing device. -/
theorem vlan_is_missing_device :
    ¬∀ (casefold : String → String) (netbox : Inventory.InventorySnapshot)
      (live : Snapshot.InventorySnapshot), (netbox.devices.map (·.name)).Nodup →
        ∀ (context : ReportContext) (liveSnapshots : List Snapshot.InventorySnapshot),
          liveSnapshots.head? = some live →
            CountsDevices casefold netbox live (statistics casefold netbox live context)
              (kpis casefold netbox live liveSnapshots) := by
  intro hall
  have hcounts := hall Text.lower branchNetbox branchLive (by decide) {} [branchLive] rfl
  have hreported : (statistics Text.lower branchNetbox branchLive {}).missingDevices = 1 := by
    decide
  have hnone : (missingDevices Text.lower branchNetbox branchLive).length = 0 := by decide
  have hmissing := hcounts.missing
  rw [hreported, hnone] at hmissing
  exact absurd hmissing (by decide)

end Reporting
end NetOps
