import Mathlib.Data.List.Dedup
import NetOps.Discovery.Samples
import NetOps.Variance.Report

/-!
# Variance.Partition

What the report of a CIDR job does with the devices that NetBox expects inside the CIDR and with
the addresses that were discovered.

The report partitions both, and compares them as addresses, if and only if no management IP of the
NetBox snapshot is malformed while a device is inside, no two devices inside are under one text, and
a device inside and a discovered address that are one host are under texts of both sides
(`partition_iff`). Then the verdict on a device is a matter of its own address alone
(`variance_partition_iff`).
-/

namespace NetOps
namespace Variance

open Conc Discovery

/-! ## Devices and addresses -/

/-- The text a device is looked up by. -/
def ipText (d : SnapshotDeviceRecord) : String := (snapshotIp d.managementIp).getD ""

/-- What an item says of its device. -/
def place (d : SnapshotDeviceRecord) : String × Option String := (ipText d, some d.name)

/-- A management IP that is given and denotes no address. -/
def Malformed (d : SnapshotDeviceRecord) : Prop :=
  truthy d.managementIp ≠ none ∧ denoted d.managementIp = none

/-- The management IP denotes a host inside the CIDR of the target. -/
def isInside (target : DiscoveryTargetRecord) (d : SnapshotDeviceRecord) : Bool :=
  match Net.ipNetwork (cidrText target), denoted d.managementIp with
  | some cidr, some address => cidr.contains address
  | _, _ => false

/-- Two texts of one address. -/
def SameHost (a b : String) : Prop :=
  ∃ address, Net.ipAddress a = some address ∧ Net.ipAddress b = some address

namespace VarianceDb

def inside (db : VarianceDb) (tenantId : String) (scope : Scope) : List SnapshotDeviceRecord :=
  (db.netboxDevices tenantId scope).filter (isInside scope.target)

def discoveredAddresses (db : VarianceDb) (tenantId : String) (scope : Scope) : List String :=
  (((db.resultsOf tenantId scope.job.id).filter isDiscovered).map (·.address)).dedup

end VarianceDb

/-! ## The lists of a report -/

/-- Where an expected device can be. -/
inductive Verdict where
  | netboxOnly
  | matched
  | identityMismatch
  deriving DecidableEq

namespace CidrVarianceData

/-- The expected devices of the lists, by address and name. -/
def verdicts (data : CidrVarianceData) : List (Verdict × String × Option String) :=
  data.netboxOnly.map (fun i => (.netboxOnly, i.address, i.name)) ++
    data.matched.map (fun i => (.matched, i.address, i.netboxName)) ++
    data.identityMismatch.map (fun i => (.identityMismatch, i.address, i.expectedName))

/-- The discovered addresses of the lists. -/
def discovered (data : CidrVarianceData) : List String :=
  data.matched.map (·.address) ++ data.discoveredOnly.map (·.address) ++
    data.identityMismatch.map (·.address)

end CidrVarianceData

/-- Every device inside the CIDR and every discovered address is in one of its lists, and none is
alone in a list when its host is on the other side. -/
structure Partition (db : VarianceDb) (tenantId : String) (scope : Scope)
    (r : CidrVarianceSummaryResponse) : Prop where
  devices : (r.variances.verdicts.map Prod.snd).Perm ((db.inside tenantId scope).map place)
  counted : r.summary.netbox =
    r.summary.matched + r.summary.netboxOnly + r.summary.identityMismatch
  addresses : r.variances.discovered.Perm (db.discoveredAddresses tenantId scope)
  netboxOnly : ∀ item ∈ r.variances.netboxOnly, ∀ address ∈ db.discoveredAddresses tenantId scope,
    ¬SameHost item.address address
  discoveredOnly : ∀ item ∈ r.variances.discoveredOnly, ∀ d ∈ db.inside tenantId scope,
    ¬SameHost (ipText d) item.address

/-- What the report needs of the management IPs. -/
structure Clear (db : VarianceDb) (tenantId : String) (scope : Scope) : Prop where
  parsed : db.inside tenantId scope ≠ [] → ∀ d ∈ db.netboxDevices tenantId scope, ¬Malformed d
  distinct : ((db.inside tenantId scope).map ipText).Nodup
  spelled : ∀ d ∈ db.inside tenantId scope, ∀ address ∈ db.discoveredAddresses tenantId scope,
    SameHost (ipText d) address → ipText d ∈ db.discoveredAddresses tenantId scope ∧
      address ∈ (db.inside tenantId scope).map ipText

variable {casefold : String → String} {db db' : VarianceDb} {tenantId : String} {scope : Scope}
  {target : DiscoveryTargetRecord} {devices : List SnapshotDeviceRecord}

/-! ## The expected devices -/

theorem denoted_some {d : SnapshotDeviceRecord} {address : Net.IpAddress}
    (h : denoted d.managementIp = some address) :
    snapshotIp d.managementIp = some (ipText d) ∧ Net.ipAddress (ipText d) = some address := by
  obtain ⟨text, htext, haddress⟩ := Option.bind_eq_some_iff.1 h
  have hip : ipText d = text := by rw [ipText, htext, Option.getD_some]
  exact ⟨by rw [hip, htext], by rw [hip, haddress]⟩

theorem isInside_some {d : SnapshotDeviceRecord} (h : isInside target d = true) :
    ∃ address, denoted d.managementIp = some address := by
  unfold isInside at h
  split at h
  · rename_i address _ haddress
    exact ⟨_, haddress⟩
  · cases h

/-- A text that is missing denotes nothing. -/
theorem denoted_none {d : SnapshotDeviceRecord} (h : truthy d.managementIp = none) :
    denoted d.managementIp = none := by
  rw [denoted, snapshotIp, h]
  rfl

theorem insideOf_parsed {cidr : Net.IpNetwork} (hcidr : Net.ipNetwork (cidrText target) = some cidr)
    (h : ∀ d ∈ devices, ¬Malformed d) :
    insideOf cidr devices = some (devices.filter (isInside target)) := by
  induction devices with
  | nil => rfl
  | cons d ds ih =>
    have hrest := ih fun e he => h e (List.mem_cons_of_mem _ he)
    have hd := h d List.mem_cons_self
    rw [insideOf]
    split
    · rename_i hnone
      rw [hrest, List.filter_cons, isInside, hcidr, denoted_none hnone]
      rfl
    · rename_i text htext
      cases haddress : denoted d.managementIp with
      | none => exact absurd ⟨by rw [htext]; exact Option.some_ne_none _, haddress⟩ hd
      | some address =>
        rw [hrest, List.filter_cons]
        have hsame : isInside target d = cidr.contains address := by
          rw [isInside, hcidr, haddress]
        rw [hsame]
        rfl

theorem insideOf_malformed {cidr : Net.IpNetwork} {d : SnapshotDeviceRecord} (hd : d ∈ devices)
    (h : Malformed d) : insideOf cidr devices = none := by
  induction devices with
  | nil => cases hd
  | cons e es ih =>
    rw [insideOf]
    rcases List.mem_cons.1 hd with rfl | hrest
    · split
      · rename_i hnone
        exact absurd hnone h.1
      · rw [h.2]
        rfl
    · rw [ih hrest]
      split
      · rfl
      · cases denoted e.managementIp <;> rfl

theorem expectedDevices_parsed (h : ∀ d ∈ devices, ¬Malformed d) :
    expectedDevices target devices = devices.filter (isInside target) := by
  unfold expectedDevices
  cases hcidr : Net.ipNetwork (cidrText target) with
  | some cidr => rw [Option.bind_some, insideOf_parsed hcidr h, Option.getD_some]
  | none =>
    symm
    rw [Option.bind_none, Option.getD_none, List.filter_eq_nil_iff]
    intro d _
    rw [isInside, hcidr]
    exact Bool.false_ne_true

theorem expectedDevices_malformed {d : SnapshotDeviceRecord} (hd : d ∈ devices)
    (h : Malformed d) : expectedDevices target devices = [] := by
  unfold expectedDevices
  cases Net.ipNetwork (cidrText target) with
  | none => rfl
  | some cidr => rw [Option.bind_some, insideOf_malformed hd h, Option.getD_none]

/-- The devices inside are the expected ones, unless a malformed text hides them. -/
theorem expected_eq_iff : db.expected tenantId scope = db.inside tenantId scope ↔
    (db.inside tenantId scope ≠ [] → ∀ d ∈ db.netboxDevices tenantId scope, ¬Malformed d) := by
  constructor
  · intro h hne d hd hmalformed
    rw [VarianceDb.expected, expectedDevices_malformed hd hmalformed] at h
    exact hne h.symm
  · intro h
    by_cases hparsed : ∀ d ∈ db.netboxDevices tenantId scope, ¬Malformed d
    · exact expectedDevices_parsed hparsed
    · have hnil : db.inside tenantId scope = [] := by
        by_contra hne
        exact hparsed (h hne)
      push Not at hparsed
      obtain ⟨d, hd, hmalformed⟩ := hparsed
      rw [hnil, VarianceDb.expected, expectedDevices_malformed hd hmalformed]

/-! ## The entries of the report -/

/-- What is said of the device under an address. -/
def verdictAt (casefold : String → String) (sides : Sides) (ip : String)
    (expected : SnapshotDeviceRecord) : Verdict :=
  match sides.discoveredByIp.get? ip with
  | none => .netboxOnly
  | some observed =>
    if Comparison.InventoryMatcher.identitiesMatch casefold (some expected.name)
        expected.serialNumber (sides.observedName ip observed) (sides.observedSerial ip) then
      .matched
    else .identityMismatch

namespace Entry

def verdict : Entry → Option (Verdict × String × Option String)
  | .netboxOnly i => some (.netboxOnly, i.address, i.name)
  | .discoveredOnly _ => none
  | .matched i => some (.matched, i.address, i.netboxName)
  | .identityMismatch i => some (.identityMismatch, i.address, i.expectedName)

def discovered : Entry → Option String
  | .netboxOnly _ => none
  | .discoveredOnly i => some i.address
  | .matched i => some i.address
  | .identityMismatch i => some i.address

end Entry

variable {sides : Sides} {results : List DiscoveryDeviceResultRecord} {ip : String}

theorem classify_verdict (casefold : String → String) (sides : Sides) (ip : String) :
    (classify casefold sides ip).bind Entry.verdict = (sides.netboxByIp.get? ip).map fun e =>
      (verdictAt casefold sides ip e, ip, some e.name) := by
  unfold classify verdictAt
  cases sides.netboxByIp.get? ip with
  | none => cases sides.discoveredByIp.get? ip <;> rfl
  | some expected =>
    cases sides.discoveredByIp.get? ip with
    | none => rfl
    | some observed =>
      simp only [Option.map_some]
      split <;> rfl

theorem classify_discovered (casefold : String → String) (sides : Sides) (ip : String) :
    (classify casefold sides ip).bind Entry.discovered =
      (sides.discoveredByIp.get? ip).map fun _ => ip := by
  unfold classify
  cases sides.netboxByIp.get? ip with
  | none => cases sides.discoveredByIp.get? ip <;> rfl
  | some expected =>
    cases sides.discoveredByIp.get? ip with
    | none => rfl
    | some observed =>
      simp only [Option.map_some]
      split <;> rfl

/-- The verdicts of the lists, whatever the order of the entries. -/
theorem verdicts_perm (casefold : String → String) (sides : Sides)
    (results : List DiscoveryDeviceResultRecord) :
    (varianceData casefold sides results).verdicts.Perm
      (sides.allIps.filterMap fun ip => (classify casefold sides ip).bind Entry.verdict) := by
  rw [← List.filterMap_filterMap]
  unfold varianceData CidrVarianceData.verdicts
  dsimp only
  induction sides.allIps.filterMap (classify casefold sides) with
  | nil => exact List.Perm.nil
  | cons e es ih =>
    cases e with
    | netboxOnly i => exact ih.cons _
    | discoveredOnly i => exact ih
    | matched i => exact (List.perm_middle.append_right _).trans (ih.cons _)
    | identityMismatch i => exact List.perm_middle.trans (ih.cons _)

theorem discovered_perm (casefold : String → String) (sides : Sides)
    (results : List DiscoveryDeviceResultRecord) :
    (varianceData casefold sides results).discovered.Perm
      (sides.allIps.filterMap fun ip => (classify casefold sides ip).bind Entry.discovered) := by
  rw [← List.filterMap_filterMap]
  unfold varianceData CidrVarianceData.discovered
  dsimp only
  induction sides.allIps.filterMap (classify casefold sides) with
  | nil => exact List.Perm.nil
  | cons e es ih =>
    cases e with
    | netboxOnly i => exact ih
    | discoveredOnly i => exact (List.perm_middle.append_right _).trans (ih.cons _)
    | matched i => exact ih.cons _
    | identityMismatch i => exact List.perm_middle.trans (ih.cons _)

/-- The verdicts are those of the devices in the NetBox dictionary. -/
theorem verdicts_eq (casefold : String → String) (sides : Sides)
    (results : List DiscoveryDeviceResultRecord) :
    (varianceData casefold sides results).verdicts.Perm (sides.netboxByIp.items.map fun e =>
      (verdictAt casefold sides e.1 e.2, e.1, some e.2.name)) := by
  refine (verdicts_perm casefold sides results).trans (List.Perm.of_eq ?_)
  simp only [classify_verdict]
  unfold Sides.allIps
  rw [List.filterMap_append, List.filterMap_map]
  have hrest : ((sides.discoveredByIp.items.map Prod.fst).filter fun ip =>
      (sides.netboxByIp.get? ip).isNone).filterMap (fun ip => (sides.netboxByIp.get? ip).map
        fun e => (verdictAt casefold sides ip e, ip, some e.name)) = [] := by
    rw [List.filterMap_eq_nil_iff]
    intro ip hip
    rw [Option.isNone_iff_eq_none.1 (List.mem_filter.1 hip).2]
    rfl
  rw [hrest, List.append_nil, ← List.filterMap_eq_map]
  refine List.filterMap_congr fun e he => ?_
  rw [Function.comp_apply, Dict.mem_items.1 he]
  rfl

theorem nodup_allIps (sides : Sides) : sides.allIps.Nodup := by
  unfold Sides.allIps
  rw [List.nodup_append]
  refine ⟨sides.netboxByIp.nodup, sides.discoveredByIp.nodup.filter _, ?_⟩
  rintro ip hnetbox _ hnew rfl
  obtain ⟨e, he, rfl⟩ := List.mem_map.1 hnetbox
  have hnone := (List.mem_filter.1 hnew).2
  rw [Dict.mem_items.1 he] at hnone
  cases hnone

theorem mem_keys {V : Type} {dict : Dict String V} :
    ip ∈ dict.items.map Prod.fst ↔ (dict.get? ip).isSome = true := by
  rw [List.mem_map, Option.isSome_iff_exists]
  constructor
  · rintro ⟨e, he, rfl⟩
    exact ⟨e.2, Dict.mem_items.1 he⟩
  · rintro ⟨v, hv⟩
    exact ⟨(ip, v), Dict.mem_items.2 hv, rfl⟩

theorem mem_allIps : ip ∈ sides.allIps ↔
    (sides.netboxByIp.get? ip).isSome = true ∨ (sides.discoveredByIp.get? ip).isSome = true := by
  unfold Sides.allIps
  rw [List.mem_append, List.mem_filter, mem_keys, mem_keys]
  cases sides.netboxByIp.get? ip <;> simp

/-- The discovered addresses of the lists are the keys of the dictionary. -/
theorem discovered_eq (casefold : String → String) (sides : Sides)
    (results : List DiscoveryDeviceResultRecord) :
    (varianceData casefold sides results).discovered.Perm
      (sides.discoveredByIp.items.map Prod.fst) := by
  refine (discovered_perm casefold sides results).trans ?_
  simp only [classify_discovered]
  have hfilter : (sides.allIps.filterMap fun ip => (sides.discoveredByIp.get? ip).map fun _ => ip) =
      sides.allIps.filter fun ip => (sides.discoveredByIp.get? ip).isSome := by
    rw [← List.filterMap_eq_filter]
    refine List.filterMap_congr fun ip _ => ?_
    cases h : sides.discoveredByIp.get? ip <;> simp [h, Option.guard]
  rw [hfilter]
  refine (List.perm_ext_iff_of_nodup ((nodup_allIps sides).filter _) sides.discoveredByIp.nodup).2
    fun ip => ?_
  rw [List.mem_filter, mem_allIps, mem_keys]
  exact ⟨fun h => h.2, fun h => ⟨.inr h, h⟩⟩

/-- The addresses that are alone on the NetBox side. -/
theorem netboxOnly_addresses (casefold : String → String) (sides : Sides)
    (results : List DiscoveryDeviceResultRecord) :
    (varianceData casefold sides results).netboxOnly.map (·.address) = sides.allIps.filter fun ip =>
      (sides.netboxByIp.get? ip).isSome && (sides.discoveredByIp.get? ip).isNone := by
  unfold varianceData
  dsimp only
  rw [List.map_filterMap, List.filterMap_filterMap, ← List.filterMap_eq_filter]
  refine List.filterMap_congr fun ip _ => ?_
  unfold classify
  cases h : sides.netboxByIp.get? ip with
  | none => cases h' : sides.discoveredByIp.get? ip <;> simp [h, Option.guard, Entry.asNetboxOnly]
  | some expected =>
    cases h' : sides.discoveredByIp.get? ip with
    | none => simp [h, h', Option.guard, Entry.asNetboxOnly]
    | some observed =>
      dsimp only
      split <;> simp [h', Option.guard, Entry.asNetboxOnly]

theorem discoveredOnly_addresses (casefold : String → String) (sides : Sides)
    (results : List DiscoveryDeviceResultRecord) :
    (varianceData casefold sides results).discoveredOnly.map (·.address) =
      sides.allIps.filter fun ip =>
        (sides.netboxByIp.get? ip).isNone && (sides.discoveredByIp.get? ip).isSome := by
  unfold varianceData
  dsimp only
  rw [List.map_filterMap, List.filterMap_filterMap, ← List.filterMap_eq_filter]
  refine List.filterMap_congr fun ip _ => ?_
  unfold classify
  cases h : sides.netboxByIp.get? ip with
  | none =>
    cases h' : sides.discoveredByIp.get? ip <;> simp [h, h', Option.guard, Entry.asDiscoveredOnly]
  | some expected =>
    cases h' : sides.discoveredByIp.get? ip with
    | none => simp [h, Option.guard, Entry.asDiscoveredOnly]
    | some observed =>
      dsimp only
      split <;> simp [h, Option.guard, Entry.asDiscoveredOnly]

/-! ## The partition -/

variable {r : CidrVarianceSummaryResponse}

theorem getCidrVariance_ok {jobId : UUID} (hscope : db.scope tenantId jobId = .ok scope)
    (h : getCidrVariance casefold db tenantId jobId = .ok r) :
    r = report casefold db tenantId scope := by
  rw [getCidrVariance, hscope] at h
  cases h
  rfl

/-- The keys of the NetBox dictionary are texts of expected devices. -/
theorem netbox_some {d : SnapshotDeviceRecord}
    (h : (db.sides tenantId scope).netboxByIp.get? ip = some d) :
    d ∈ db.expected tenantId scope ∧ ipText d = ip := by
  obtain ⟨e, he, hip⟩ := List.mem_filterMap.1 (Dict.get?_ofList h)
  obtain ⟨text, htext, hpair⟩ := Option.map_eq_some_iff.1 hip
  cases hpair
  exact ⟨he, by rw [ipText, htext, Option.getD_some]⟩

theorem byIp_inside (h : ∀ d ∈ devices, isInside target d = true) :
    byIp devices = Dict.ofList (devices.map fun d => (ipText d, d)) := by
  unfold byIp
  rw [← List.filterMap_eq_map]
  congr 1
  refine List.filterMap_congr fun d hd => ?_
  obtain ⟨address, haddress⟩ := isInside_some (h d hd)
  rw [(denoted_some haddress).1]
  rfl

theorem discovered_isSome :
    ((db.sides tenantId scope).discoveredByIp.get? ip).isSome = true ↔
      ip ∈ db.discoveredAddresses tenantId scope := by
  unfold VarianceDb.sides VarianceDb.discoveredAddresses
  dsimp only
  rw [List.mem_dedup, List.mem_map, Option.isSome_iff_exists]
  constructor
  · rintro ⟨r, hr⟩
    exact ⟨r, Dict.get?_byKey hr⟩
  · rintro ⟨r, hr, rfl⟩
    exact Dict.get?_byKey_isSome (·.address) hr

/-- The devices of the lists, in the NetBox dictionary. -/
theorem places_eq (casefold : String → String) (db : VarianceDb) (tenantId : String)
    (scope : Scope) :
    ((report casefold db tenantId scope).variances.verdicts.map Prod.snd).Perm
      ((db.sides tenantId scope).netboxByIp.items.map fun e => place e.2) := by
  refine ((verdicts_eq casefold (db.sides tenantId scope) _).map Prod.snd).trans
    (List.Perm.of_eq ?_)
  rw [List.map_map]
  refine List.map_congr_left fun e he => ?_
  rw [Function.comp_apply, place, (netbox_some (Dict.mem_items.1 he)).2]

theorem keys_eq (db : VarianceDb) (tenantId : String) (scope : Scope) :
    (db.sides tenantId scope).netboxByIp.items.map Prod.fst =
      ((db.sides tenantId scope).netboxByIp.items.map fun e => place e.2).map Prod.fst := by
  rw [List.map_map]
  refine List.map_congr_left fun e he => ?_
  exact (netbox_some (Dict.mem_items.1 he)).2.symm

theorem Partition.parsed (h : Partition db tenantId scope (report casefold db tenantId scope))
    (hne : db.inside tenantId scope ≠ []) :
    ∀ d ∈ db.netboxDevices tenantId scope, ¬Malformed d := by
  intro d hd hmalformed
  have hdevices := (places_eq casefold db tenantId scope).symm.trans h.devices
  have hnone : (db.sides tenantId scope).netboxByIp.items = [] := by
    unfold VarianceDb.sides VarianceDb.expected
    rw [expectedDevices_malformed hd hmalformed]
    rfl
  rw [hnone, List.map_nil, List.nil_perm, List.map_eq_nil_iff] at hdevices
  exact hne hdevices

theorem Partition.keys_perm (h : Partition db tenantId scope (report casefold db tenantId scope)) :
    ((db.sides tenantId scope).netboxByIp.items.map Prod.fst).Perm
      ((db.inside tenantId scope).map ipText) := by
  have hdevices := (places_eq casefold db tenantId scope).symm.trans h.devices
  rw [keys_eq]
  refine (hdevices.map Prod.fst).trans (List.Perm.of_eq ?_)
  rw [List.map_map]
  rfl

theorem Partition.clear (h : Partition db tenantId scope (report casefold db tenantId scope)) :
    Clear db tenantId scope := by
  have hkeys := h.keys_perm
  refine ⟨h.parsed, hkeys.nodup (db.sides tenantId scope).netboxByIp.nodup, ?_⟩
  intro d hd address haddress hsame
  have hnetbox : ((db.sides tenantId scope).netboxByIp.get? (ipText d)).isSome = true :=
    mem_keys.1 (hkeys.mem_iff.2 (List.mem_map_of_mem hd))
  constructor
  · -- otherwise the device is alone on its side
    by_contra hnot
    rw [← discovered_isSome, Bool.not_eq_true, Option.isSome_eq_false_iff] at hnot
    have hitem : ipText d ∈ (report casefold db tenantId scope).variances.netboxOnly.map
        (·.address) := by
      refine (netboxOnly_addresses casefold (db.sides tenantId scope) _).symm ▸ ?_
      rw [List.mem_filter, mem_allIps, hnetbox, hnot]
      exact ⟨.inl rfl, rfl⟩
    obtain ⟨item, hitem, heq⟩ := List.mem_map.1 hitem
    exact h.netboxOnly item hitem address haddress (heq ▸ hsame)
  · -- otherwise the address is
    by_contra hnot
    have hkey : address ∉ (db.sides tenantId scope).netboxByIp.items.map Prod.fst :=
      fun hmem => hnot (hkeys.mem_iff.1 hmem)
    rw [mem_keys, Bool.not_eq_true, Option.isSome_eq_false_iff] at hkey
    have hitem : address ∈ (report casefold db tenantId scope).variances.discoveredOnly.map
        (·.address) := by
      refine (discoveredOnly_addresses casefold (db.sides tenantId scope) _).symm ▸ ?_
      rw [List.mem_filter, mem_allIps, discovered_isSome.2 haddress, hkey]
      exact ⟨.inr rfl, rfl⟩
    obtain ⟨item, hitem, heq⟩ := List.mem_map.1 hitem
    exact h.discoveredOnly item hitem d hd (heq ▸ hsame)

theorem mem_inside {d : SnapshotDeviceRecord} (h : d ∈ db.inside tenantId scope) :
    isInside scope.target d = true := (List.mem_filter.1 h).2

/-- The NetBox dictionary has the devices inside under their texts. -/
theorem Clear.items (h : Clear db tenantId scope) :
    (db.sides tenantId scope).netboxByIp.items =
      (db.inside tenantId scope).map fun d => (ipText d, d) := by
  unfold VarianceDb.sides
  dsimp only
  rw [expected_eq_iff.2 h.parsed, byIp_inside fun d hd => mem_inside hd, Dict.items_ofList]
  rw [List.map_map]
  exact h.distinct

theorem Clear.partition (h : Clear db tenantId scope) :
    Partition db tenantId scope (report casefold db tenantId scope) := by
  have hitems := h.items
  have hdevices : ((report casefold db tenantId scope).variances.verdicts.map Prod.snd).Perm
      ((db.inside tenantId scope).map place) := by
    refine (places_eq casefold db tenantId scope).trans (List.Perm.of_eq ?_)
    rw [hitems, List.map_map]
    rfl
  have hkeys : ∀ ip, ((db.sides tenantId scope).netboxByIp.get? ip).isSome = true ↔
      ip ∈ (db.inside tenantId scope).map ipText := by
    intro ip
    rw [← mem_keys, hitems, List.map_map]
    rfl
  refine ⟨hdevices, ?_, ?_, ?_, ?_⟩
  · have hlength := hdevices.length_eq
    rw [List.length_map, List.length_map, ← expected_eq_iff.2 h.parsed] at hlength
    simp only [CidrVarianceData.verdicts, List.length_append, List.length_map] at hlength
    simp only [report, counts]
    simp only [report] at hlength
    omega
  · refine (discovered_eq casefold (db.sides tenantId scope) _).trans ?_
    refine (List.perm_ext_iff_of_nodup (db.sides tenantId scope).discoveredByIp.nodup
      (List.nodup_dedup _)).2 fun ip => ?_
    rw [mem_keys]
    exact discovered_isSome
  · intro item hitem address haddress hsame
    have hmem := List.mem_map_of_mem (f := fun i : VarianceItem => i.address) hitem
    rw [show (report casefold db tenantId scope).variances.netboxOnly.map (·.address) = _ from
      netboxOnly_addresses casefold (db.sides tenantId scope) _, List.mem_filter,
      Bool.and_eq_true, hkeys, Option.isNone_iff_eq_none] at hmem
    obtain ⟨d, hd, hip⟩ := List.mem_map.1 hmem.2.1
    have hdiscovered := discovered_isSome.2 (h.spelled d hd address haddress (hip ▸ hsame)).1
    rw [hip, hmem.2.2] at hdiscovered
    cases hdiscovered
  · intro item hitem d hd hsame
    have hmem := List.mem_map_of_mem (f := fun i : VarianceItem => i.address) hitem
    rw [show (report casefold db tenantId scope).variances.discoveredOnly.map (·.address) = _ from
      discoveredOnly_addresses casefold (db.sides tenantId scope) _, List.mem_filter,
      Bool.and_eq_true, Option.isNone_iff_eq_none, discovered_isSome] at hmem
    have hinside := (hkeys _).2 (h.spelled d hd item.address hmem.2.2 hsame).2
    rw [hmem.2.1] at hinside
    cases hinside

/-! ## Other devices -/

/-- The tables with other management IPs. -/
def VarianceDb.rewrite (db : VarianceDb) (ip : SnapshotDeviceRecord → Option String) :
    VarianceDb :=
  { db with devices := db.devices.map (fun d => { d with managementIp := ip d }) fun _ => rfl }

/-- The management IPs that are written differently have to do with other addresses, before and
after. -/
def Unrelated (db : VarianceDb) (ip : SnapshotDeviceRecord → Option String)
    (d : SnapshotDeviceRecord) : Prop :=
  ∀ e ∈ db.devices.rows, ip e = e.managementIp ∨
    denoted e.managementIp ≠ denoted d.managementIp ∧ denoted (ip e) ≠ denoted d.managementIp

def SameVerdict (r r' : CidrVarianceSummaryResponse) (d : SnapshotDeviceRecord) : Prop :=
  ∀ v, (v, place d) ∈ r.variances.verdicts ↔ (v, place d) ∈ r'.variances.verdicts

variable {newIp : SnapshotDeviceRecord → Option String} {d : SnapshotDeviceRecord}

theorem devicesOf_rewrite (db : VarianceDb) (newIp : SnapshotDeviceRecord → Option String)
    (snapshot : Option SnapshotRecord) : (db.rewrite newIp).devicesOf snapshot =
      (db.devicesOf snapshot).map fun d => { d with managementIp := newIp d } := by
  cases snapshot with
  | none => rfl
  | some s =>
    unfold VarianceDb.devicesOf VarianceDb.rewrite
    dsimp only
    rw [Tbl.rows_map, List.filter_map]
    rfl

theorem devicesOf_rows {snapshot : Option SnapshotRecord} (h : d ∈ db.devicesOf snapshot) :
    d ∈ db.devices.rows := by
  cases snapshot with
  | none => cases h
  | some s => exact (List.mem_filter.1 h).1

/-- A device inside stays when the others are rewritten. -/
theorem Unrelated.mem_inside (h : Unrelated db newIp d) (hd : d ∈ db.inside tenantId scope) :
    d ∈ (db.rewrite newIp).inside tenantId scope := by
  obtain ⟨hdevice, hinside⟩ := List.mem_filter.1 hd
  refine List.mem_filter.2 ⟨?_, hinside⟩
  have hkept : newIp d = d.managementIp := by
    rcases h d (devicesOf_rows hdevice) with hsame | ⟨hne, _⟩
    · exact hsame
    · exact absurd rfl hne
  unfold VarianceDb.netboxDevices
  rw [devicesOf_rewrite]
  refine List.mem_map.2 ⟨d, hdevice, ?_⟩
  rw [hkept]

theorem denoted_of_snapshotIp {a b : Option String} (h : snapshotIp a = snapshotIp b) :
    denoted a = denoted b := by
  rw [denoted, denoted, h]

/-- The live device under the text of a device does not depend on the others. -/
theorem Unrelated.live (h : Unrelated db newIp d) (hd : isInside scope.target d = true) :
    ((db.rewrite newIp).sides tenantId scope).liveDevicesByIp.get? (ipText d) =
      (db.sides tenantId scope).liveDevicesByIp.get? (ipText d) := by
  obtain ⟨address, haddress⟩ := isInside_some hd
  have htext := (denoted_some haddress).1
  unfold VarianceDb.sides liveByIp
  dsimp only
  rw [devicesOf_rewrite, List.filterMap_map, Dict.get?_ofList_eq_getLast?,
    Dict.get?_ofList_eq_getLast?, List.filter_filterMap, List.filter_filterMap]
  congr 2
  refine List.filterMap_congr fun e he => ?_
  rcases h e (devicesOf_rows he) with hsame | ⟨hbefore, hafter⟩
  · rw [Function.comp_apply, hsame]
  · -- neither text leads to the device
    have hnot : ∀ {value : Option String} {f : String → String × SnapshotDeviceRecord},
        (∀ text, (f text).1 = text) → denoted value ≠ denoted d.managementIp →
        ((truthy (snapshotIp value)).map f).filter (fun e => decide (e.1 = ipText d)) = none := by
      intro value f hf hne
      rw [Option.filter_eq_none_iff]
      intro entry hentry hkey
      obtain ⟨text, hvalue, rfl⟩ := Option.map_eq_some_iff.1 hentry
      rw [hf, decide_eq_true_eq] at hkey
      refine hne (denoted_of_snapshotIp ?_)
      rw [htext, ← hkey]
      exact (Option.filter_eq_some_iff.1 hvalue).1
    rw [Function.comp_apply, hnot (fun _ => rfl) hbefore, hnot (fun _ => rfl) hafter]

/-- The verdict on a device inside, when the texts are clear. -/
theorem Clear.mem_verdicts (h : Clear db tenantId scope) (hd : d ∈ db.inside tenantId scope)
    (v : Verdict) : (v, place d) ∈ (report casefold db tenantId scope).variances.verdicts ↔
      v = verdictAt casefold (db.sides tenantId scope) (ipText d) d := by
  refine (verdicts_eq casefold (db.sides tenantId scope) _).mem_iff.trans ?_
  rw [h.items, List.map_map, List.mem_map]
  constructor
  · rintro ⟨e, he, heq⟩
    have hip : ipText e = ipText d := congrArg (fun x => x.2.1) heq
    have hsame : e = d := List.inj_on_of_nodup_map h.distinct he hd hip
    subst hsame
    exact (congrArg Prod.fst heq).symm
  · rintro rfl
    exact ⟨d, hd, rfl⟩

theorem Clear.same_verdict (h : Clear db tenantId scope)
    (h' : Clear (db.rewrite newIp) tenantId scope) (hd : d ∈ db.inside tenantId scope)
    (hunrelated : Unrelated db newIp d) :
    SameVerdict (report casefold db tenantId scope)
      (report casefold (db.rewrite newIp) tenantId scope) d := by
  intro v
  rw [h.mem_verdicts hd, h'.mem_verdicts (hunrelated.mem_inside hd)]
  have hlive : ((db.rewrite newIp).sides tenantId scope).liveDevicesByIp.get? (ipText d) =
      (db.sides tenantId scope).liveDevicesByIp.get? (ipText d) := hunrelated.live (mem_inside hd)
  have hverdict : verdictAt casefold ((db.rewrite newIp).sides tenantId scope) (ipText d) d =
      verdictAt casefold (db.sides tenantId scope) (ipText d) d := by
    unfold verdictAt Sides.observedName Sides.observedSerial
    rw [hlive]
    rfl
  rw [hverdict]

/-- NetBox knows the one address of the scope, and a spare device elsewhere. -/
def edge : SnapshotDeviceRecord where
  id := 51
  snapshotId := 41
  name := "edge-1"
  model := none
  serialNumber := some "FTX1"
  managementIp := some "10.0.0.1/32"

def spare : SnapshotDeviceRecord where
  id := 52
  snapshotId := 41
  name := "spare-7"
  model := none
  serialNumber := none
  managementIp := some "192.0.2.7"

/-- The scope job has discovered the device. -/
def officeDb : VarianceDb where
  targets := Tbl.empty.set Samples.scopeTarget
  jobs := Tbl.empty.set Samples.scopeJob
  runs := Tbl.empty.set Samples.scopeRun
  startedAt _ := 10
  results := Tbl.empty.set
    { Samples.deviceResult with resultState := some .discovered, hostname := some "edge-1" }
  snapshots := Tbl.empty.set ⟨41, .netbox, Samples.tenant, 5, none⟩
  devices := (Tbl.empty.set edge).set spare

def officeScope : Scope := ⟨Samples.scopeJob, Samples.scopeTarget, Samples.scopeRun⟩

/-- The spare device gets another management IP. -/
def spareAt (text : String) (d : SnapshotDeviceRecord) : Option String :=
  if d.id = 52 then some text else d.managementIp

theorem office_scope : officeDb.scope Samples.tenant 21 = .ok officeScope := by rfl

theorem office_verdicts : (report id officeDb Samples.tenant officeScope).variances.verdicts =
    [(.matched, "10.0.0.1", some "edge-1")] := by
  decide

theorem office_verdicts_malformed :
    (report id (officeDb.rewrite (spareAt "unknown")) Samples.tenant
      officeScope).variances.verdicts = [] := by
  decide

theorem office_inside : officeDb.inside Samples.tenant officeScope = [edge] := by rfl

theorem spare_unrelated {text : String} (h : denoted (some text) ≠ denoted edge.managementIp) :
    Unrelated officeDb (spareAt text) edge := by
  intro e he
  have hrows : officeDb.devices.rows = [edge, spare] := rfl
  rw [hrows, List.mem_cons, List.mem_singleton] at he
  rcases he with rfl | rfl
  · exact .inl rfl
  · exact .inr ⟨by decide, h⟩

end Variance
end NetOps
