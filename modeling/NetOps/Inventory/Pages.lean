import Mathlib.Data.List.Dedup
import Mathlib.Data.String.Basic
import NetOps.Discovery.Records
import NetOps.Paging
import NetOps.Text

/-!
# Inventory.Pages

The listing of a stored inventory by pages (`api/v1/inventory.py`). The devices of the snapshot are
selected anew for every page, in any order (`get_snapshot_devices` has no `ORDER BY`), and sorted by
one column before the page is cut.

* `readAll_eq`: a client that goes on while there is a next page reads all of them, whatever the
  orders.
* `pages_once_iff`: it reads every matching device once, whatever the orders, exactly when devices
  whose columns have equal casefolded texts are on one page.
-/

namespace NetOps
namespace Inventory
namespace Pages

open Discovery (UUID DateTime)
open Paging

/-! ## Devices -/

structure SnapshotDeviceRecord where
  id : UUID
  deviceId : String
  name : String
  manufacturer : Option String := none
  model : Option String := none
  serialNumber : Option String := none
  productId : Option String := none
  managementIp : Option String := none
  platform : Option String := none
  deriving DecidableEq

structure DeviceSnapshotItem where
  deviceId : String
  name : String
  manufacturer : Option String
  model : Option String
  serialNumber : Option String
  productId : Option String
  managementIp : Option String
  platform : Option String
  deriving DecidableEq

def SnapshotDeviceRecord.item (d : SnapshotDeviceRecord) : DeviceSnapshotItem where
  deviceId := d.deviceId
  name := d.name
  manufacturer := d.manufacturer
  model := d.model
  serialNumber := d.serialNumber
  productId := d.productId
  managementIp := d.managementIp
  platform := d.platform

/-- A stored snapshot, with its devices by their primary key. -/
structure StoredSnapshot where
  id : UUID
  source : String
  capturedAt : DateTime
  devices : List SnapshotDeviceRecord
  devices_nodup : (devices.map SnapshotDeviceRecord.id).Nodup

/-! ## Queries -/

inductive InventorySortField where
  | name
  | model
  | serialNumber
  | platform
  | managementIp
  deriving DecidableEq

inductive SortDirection where
  | asc
  | desc
  deriving DecidableEq

/-- What is asked of every page. -/
structure InventoryQuery where
  pageSize : Nat := 50
  search : Option String := none
  manufacturer : Option String := none
  platform : Option String := none
  sortBy : InventorySortField := .name
  sortDirection : SortDirection := .asc
  pageSize_pos : 1 ≤ pageSize := by decide
  pageSize_le : pageSize ≤ 200 := by decide

/-- `getattr(device, sort_by)`. -/
def InventorySortField.get (d : SnapshotDeviceRecord) : InventorySortField → Option String
  | .name => some d.name
  | .model => d.model
  | .serialNumber => d.serialNumber
  | .platform => d.platform
  | .managementIp => d.managementIp

/-! ## Responses -/

structure InventoryListResponse where
  source : String
  snapshotId : UUID
  snapshotCapturedAt : DateTime
  deviceCount : Nat
  items : List DeviceSnapshotItem
  page : Nat
  pageSize : Nat
  total : Nat
  hasNext : Bool
  manufacturers : List String
  platforms : List String

section

variable (casefold : String → String) (query : InventoryQuery)

/-- `value.strip().casefold() if value else ""`. -/
def normalized : Option String → String
  | none => ""
  | some value => if value = "" then "" else casefold (Text.strip value)

/-- `(value or "").casefold()`. -/
def folded (value : Option String) : String := casefold (value.getD "")

/-- The columns that are searched. -/
def searchedValues (d : SnapshotDeviceRecord) : List (Option String) :=
  [some d.deviceId, some d.name, d.manufacturer, d.model, d.serialNumber, d.productId,
    d.managementIp, d.platform]

/-- `matches`. -/
def Matches (d : SnapshotDeviceRecord) : Bool :=
  let normalizedSearch := normalized casefold query.search
  let normalizedManufacturer := normalized casefold query.manufacturer
  let normalizedPlatform := normalized casefold query.platform
  (normalizedSearch = "" ||
    (searchedValues d).any fun value => Text.hasPart normalizedSearch (folded casefold value)) &&
  (normalizedManufacturer = "" || folded casefold d.manufacturer = normalizedManufacturer) &&
  (normalizedPlatform = "" || folded casefold d.platform = normalizedPlatform)

/-- The order of the listing. -/
def sortOrder : SortOrder SnapshotDeviceRecord :=
  ((SortOrder.ofLinearOrder String).directed (query.sortDirection = .asc)).comap fun d =>
    folded casefold (query.sortBy.get d)

/-- `sorted({value for value in values if value})`. -/
def facet (values : List (Option String)) : List String :=
  ((values.filterMap id).filter (· ≠ "")).dedup.mergeSort fun a b => decide (a ≤ b)

/-- `filtered_devices`, sorted. -/
def filteredDevices (devices : List SnapshotDeviceRecord) : List SnapshotDeviceRecord :=
  (devices.filter (Matches casefold query)).mergeSort (sortOrder casefold query).le

/-- The devices whose items are on a page. -/
def pageDevices (devices : List SnapshotDeviceRecord) (page : Nat) : List SnapshotDeviceRecord :=
  ((filteredDevices casefold query devices).drop ((page - 1) * query.pageSize)).take query.pageSize

/-- `_inventory_response`, for the devices as they were selected. -/
def inventoryResponse (snapshot : StoredSnapshot) (devices : List SnapshotDeviceRecord)
    (page : Nat) : InventoryListResponse where
  source := snapshot.source
  snapshotId := snapshot.id
  snapshotCapturedAt := snapshot.capturedAt
  deviceCount := devices.length
  items := (pageDevices casefold query devices page).map SnapshotDeviceRecord.item
  page := page
  pageSize := query.pageSize
  total := (filteredDevices casefold query devices).length
  hasNext := (page - 1) * query.pageSize + query.pageSize <
    (filteredDevices casefold query devices).length
  manufacturers := facet (devices.map (·.manufacturer))
  platforms := facet (devices.map (·.platform))

/-- The devices that a client reads from a page on, as long as there is a next page; `none` if there
are more pages than that. -/
def readAll (snapshot : StoredSnapshot) (answers : Nat → List SnapshotDeviceRecord) :
    Nat → Nat → Option (List SnapshotDeviceRecord)
  | 0, _ => none
  | fuel + 1, page =>
    let devices := pageDevices casefold query (answers page) page
    if (inventoryResponse casefold query snapshot (answers page) page).hasNext then
      (readAll snapshot answers fuel (page + 1)).map (devices ++ ·)
    else some devices

end

/-! ## All pages -/

variable {casefold : String → String} {query : InventoryQuery} {snapshot : StoredSnapshot}
  {answers : Nat → List SnapshotDeviceRecord} {devices : List SnapshotDeviceRecord}

/-- The devices that the listing is of. -/
def matching (casefold : String → String) (query : InventoryQuery) (snapshot : StoredSnapshot) :
    List SnapshotDeviceRecord :=
  snapshot.devices.filter (Matches casefold query)

/-- How many pages there are. -/
def pageCount (total pageSize : Nat) : Nat := (total - 1) / pageSize + 1

theorem answer_filteredDevices (h : devices.Perm snapshot.devices) :
    (sortOrder casefold query).Answer (matching casefold query snapshot)
      (filteredDevices casefold query devices) where
  perm := (List.mergeSort_perm _ _).trans (h.filter _)
  sorted :=
    List.pairwise_mergeSort (sortOrder casefold query).trans (sortOrder casefold query).total _

theorem filteredDevices_length (h : devices.Perm snapshot.devices) :
    (filteredDevices casefold query devices).length =
      (matching casefold query snapshot).length :=
  (answer_filteredDevices h).perm.length_eq

theorem hasNext_iff (h : devices.Perm snapshot.devices) (k : Nat) :
    (inventoryResponse casefold query snapshot devices (k + 1)).hasNext = true ↔
      k + 1 < pageCount (matching casefold query snapshot).length query.pageSize := by
  rw [inventoryResponse, filteredDevices_length h, decide_eq_true_eq, pageCount,
    Nat.add_sub_cancel, Nat.add_lt_add_iff_right, ← Nat.add_one_mul]
  refine Iff.trans ?_ (Nat.le_div_iff_mul_le query.pageSize_pos (x := k + 1)).symm
  have hstep : 0 < (k + 1) * query.pageSize := Nat.mul_pos (Nat.succ_pos k) query.pageSize_pos
  omega

/-- From page `k + 1` on, the pages that are left. -/
theorem readAll_from (hanswers : ∀ page, (answers page).Perm snapshot.devices) {fuel k : Nat}
    (hk : k < pageCount (matching casefold query snapshot).length query.pageSize)
    (hfuel : pageCount (matching casefold query snapshot).length query.pageSize ≤ k + fuel) :
    readAll casefold query snapshot answers fuel (k + 1) =
      some ((List.range' k (pageCount (matching casefold query snapshot).length query.pageSize - k)
        ).flatMap fun j => pageDevices casefold query (answers (j + 1)) (j + 1)) := by
  induction fuel generalizing k with
  | zero => omega
  | succ fuel ih =>
    have hsplit : pageCount (matching casefold query snapshot).length query.pageSize - k =
        pageCount (matching casefold query snapshot).length query.pageSize - (k + 1) + 1 := by omega
    rw [readAll, hsplit, List.range'_succ, List.flatMap_cons]
    by_cases hnext : k + 1 < pageCount (matching casefold query snapshot).length query.pageSize
    · rw [if_pos ((hasNext_iff (hanswers (k + 1)) k).2 hnext), ih hnext (by omega)]
      rfl
    · have hlast :
          pageCount (matching casefold query snapshot).length query.pageSize - (k + 1) = 0 :=
        by omega
      rw [if_neg (mt (hasNext_iff (hanswers (k + 1)) k).1 hnext), hlast]
      simp

theorem readAll_mono {fuel fuel' page : Nat} {read : List SnapshotDeviceRecord}
    (h : readAll casefold query snapshot answers fuel page = some read) (hle : fuel ≤ fuel') :
    readAll casefold query snapshot answers fuel' page = some read := by
  induction fuel generalizing fuel' page read with
  | zero => cases h
  | succ fuel ih =>
    obtain ⟨fuel', rfl⟩ := Nat.exists_eq_succ_of_ne_zero (by omega : fuel' ≠ 0)
    rw [readAll] at h ⊢
    split at h
    · next hnext =>
      obtain ⟨rest, hrest, rfl⟩ := Option.map_eq_some_iff.1 h
      rw [if_pos hnext, ih hrest (by omega)]
      rfl
    · next hlast => rwa [if_neg hlast]

/-- A client that goes on while there is a next page reads all pages. -/
theorem readAll_eq (hanswers : ∀ page, (answers page).Perm snapshot.devices) {fuel : Nat}
    (hfuel : pageCount (matching casefold query snapshot).length query.pageSize ≤ fuel) :
    readAll casefold query snapshot answers fuel 1 =
      some (listing query.pageSize (pageCount (matching casefold query snapshot).length
        query.pageSize) fun k => filteredDevices casefold query (answers (k + 1))) := by
  rw [listing, List.range_eq_range']
  exact readAll_from (k := 0) hanswers (Nat.succ_pos _) (by omega)

/-- The pages hold every matching device once, however the devices of each are selected. -/
def PagesOnce (casefold : String → String) (query : InventoryQuery) (snapshot : StoredSnapshot) :
    Prop :=
  ∀ answers : Nat → List SnapshotDeviceRecord, (∀ page, (answers page).Perm snapshot.devices) →
    ∃ fuel read, readAll casefold query snapshot answers fuel 1 = some read ∧
      read.Perm (matching casefold query snapshot)

/-- The first place, from 0, that a device may stand at. -/
def firstPlace (casefold : String → String) (query : InventoryQuery) (snapshot : StoredSnapshot)
    (d : SnapshotDeviceRecord) : Nat :=
  (sortOrder casefold query).before (matching casefold query snapshot) d

/-- The last one. -/
def lastPlace (casefold : String → String) (query : InventoryQuery) (snapshot : StoredSnapshot)
    (d : SnapshotDeviceRecord) : Nat :=
  (sortOrder casefold query).upto (matching casefold query snapshot) d - 1

theorem matching_nodup : (matching casefold query snapshot).Nodup :=
  (snapshot.devices_nodup.of_map _).filter _

theorem le_pageCount (total : Nat) {pageSize : Nat} (h : 1 ≤ pageSize) :
    total ≤ pageCount total pageSize * pageSize := by
  have hlt := Nat.lt_div_mul_add h (a := total - 1)
  rw [pageCount, Nat.succ_mul]
  omega

/-- Devices in some order, selected so that sorting leaves them. -/
theorem exists_selected {answer : List SnapshotDeviceRecord}
    (h : (sortOrder casefold query).Answer (matching casefold query snapshot) answer) :
    ∃ devices : List SnapshotDeviceRecord, devices.Perm snapshot.devices ∧
      filteredDevices casefold query devices = answer := by
  refine ⟨answer ++ snapshot.devices.filter fun d => !Matches casefold query d, ?_, ?_⟩
  · exact (h.perm.append_right _).trans (List.filter_append_perm _ _)
  · have hkeep : answer.filter (Matches casefold query) = answer :=
      List.filter_eq_self.2 fun d hd => (List.mem_filter.1 (h.perm.mem_iff.1 hd)).2
    rw [filteredDevices, List.filter_append, List.filter_filter, hkeep]
    simp only [Bool.and_not_self, List.filter_false, List.append_nil]
    exact List.mergeSort_of_pairwise h.sorted

/-- A client reads every matching device once, whatever the orders in which they are selected,
exactly when no devices whose columns have equal casefolded texts are on two pages. -/
theorem pages_once_iff (casefold : String → String) (query : InventoryQuery)
    (snapshot : StoredSnapshot) :
    PagesOnce casefold query snapshot ↔
      ∀ d ∈ matching casefold query snapshot,
        firstPlace casefold query snapshot d / query.pageSize =
          lastPlace casefold query snapshot d / query.pageSize := by
  have hiff : Exact (fun _ => sortOrder casefold query) (matching casefold query snapshot)
      query.pageSize (pageCount (matching casefold query snapshot).length query.pageSize) ↔
        ∀ d ∈ matching casefold query snapshot, firstPlace casefold query snapshot d /
          query.pageSize = lastPlace casefold query snapshot d / query.pageSize := by
    rw [exact_iff matching_nodup]
    exact forall₂_congr fun d hd => settled_iff_of_const (le_pageCount _ query.pageSize_pos) hd
  rw [← hiff]
  constructor
  · intro honce answers hanswers
    have hselected : ∀ page, ∃ devices : List SnapshotDeviceRecord,
        devices.Perm snapshot.devices ∧ (page - 1 < pageCount
          (matching casefold query snapshot).length query.pageSize →
          filteredDevices casefold query devices = answers (page - 1)) := by
      intro page
      by_cases hpage : page - 1 <
          pageCount (matching casefold query snapshot).length query.pageSize
      · obtain ⟨devices, hperm, hsorted⟩ := exists_selected (hanswers (page - 1) hpage)
        exact ⟨devices, hperm, fun _ => hsorted⟩
      · exact ⟨snapshot.devices, .refl _, fun h => absurd h hpage⟩
    choose selected hperm hsorted using hselected
    obtain ⟨fuel, read, hread, hmatching⟩ := honce selected hperm
    have hall := readAll_mono hread (Nat.le_max_left fuel
      (pageCount (matching casefold query snapshot).length query.pageSize))
    rw [readAll_eq hperm (Nat.le_max_right _ _), Option.some.injEq] at hall
    have hsame : listing query.pageSize (pageCount (matching casefold query snapshot).length
        query.pageSize) answers = read := by
      rw [← hall]
      refine List.flatMap_congr fun k hk => ?_
      exact congrArg (page query.pageSize k) (hsorted (k + 1) (List.mem_range.1 hk)).symm
    exact hsame ▸ hmatching
  · intro hexact answers hanswers
    refine ⟨_, _, readAll_eq hanswers (Nat.le_refl _), hexact _ fun k _ => ?_⟩
    exact answer_filteredDevices (hanswers (k + 1))

/-- Two switches of one model. -/
def switches : StoredSnapshot where
  id := 1
  source := "netbox"
  capturedAt := 0
  devices := [⟨2, "2", "sw1", none, "c9300", none, none, none, none⟩,
    ⟨3, "3", "sw2", none, "c9300", none, none, none, none⟩]
  devices_nodup := by decide

-- By the model, and one on a page, either switch may be on either page.
example : ∀ d ∈ switches.devices,
    firstPlace id { pageSize := 1, sortBy := .model } switches d = 0 ∧
      lastPlace id { pageSize := 1, sortBy := .model } switches d = 1 := by decide

end Pages
end Inventory
end NetOps
