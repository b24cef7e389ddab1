import Mathlib.Data.List.Pairwise
import Mathlib.Data.List.Perm.Basic
import NetOps.Comparison.Engine

/-!
# Comparison.Matching

Which live device the matcher takes for which NetBox device.

A live device is an entry of its snapshot, a record with its place (`Entry`): two entries may be
equal in all fields. The matcher partitions the devices of both sides if and only if no two NetBox
devices ask for one entry, none asks by serial for an entry that another has the name of, and the
entries that share an id are all taken or all left (`match_partitions_iff`).
-/

namespace NetOps
namespace Comparison

open Inventory (Device)
open Snapshot (DeviceSnapshot)

/-- A live device and its place in the snapshot. -/
abbrev Entry := DeviceSnapshot × Nat

def entries (live : Snapshot.InventorySnapshot) : List Entry := live.devices.zipIdx

variable (casefold : String → String) (netbox : Inventory.InventorySnapshot)
  (live : Snapshot.InventorySnapshot)

/-! ## What the matcher takes -/

/-- The entry of a name: of several, the last. -/
def entryByName (name : String) : Option Entry :=
  (Dict.byKey (fun e : Entry => normalize casefold e.1.name) (entries live)).get? name

/-- The serial number a device is looked up by. -/
def serialKey (device : Device) : Option String :=
  (device.serial.filter (· ≠ "")).map (normalize casefold)

/-- The entry of a serial number: of several, the first. -/
def entryBySerial (serial : String) : Option Entry :=
  (entries live).find? fun e => normalizeOption casefold e.1.serialNumber = serial

/-- No live device has the name of the NetBox device, so that its serial number decides. -/
def Nameless (device : Device) : Prop :=
  ∀ l ∈ live.devices, normalize casefold l.name ≠ normalize casefold device.name

/-- The entry of a NetBox device. -/
def findEntry (device : Device) : Option Entry :=
  match entryByName casefold live (normalize casefold device.name) with
  | some e => some e
  | none => (serialKey casefold device).bind (entryBySerial casefold live)

/-- `match`, with the places of the live devices. -/
def matchedEntries : List (Device × Entry) :=
  netbox.devices.filterMap fun device => (findEntry casefold live device).map fun e => (device, e)

def unexpectedEntries : List Entry :=
  (entries live).filter fun e =>
    (matchedEntries casefold netbox live).all fun m => m.2.1.deviceId ≠ e.1.deviceId

/-! ## Partitions -/

/-- Every device of both sides is matched with one of the other side or left, and no device is
taken by its serial number from a device of its name. -/
structure Partitions : Prop where
  expected : (((InventoryMatcher.«match» casefold netbox live).matchedDevices.map Prod.fst) ++
    (InventoryMatcher.«match» casefold netbox live).missingDevices).Perm netbox.devices
  apart : ∀ m ∈ (InventoryMatcher.«match» casefold netbox live).matchedDevices,
    m.1 ∉ (InventoryMatcher.«match» casefold netbox live).missingDevices
  observed : ((matchedEntries casefold netbox live).map Prod.snd ++
    unexpectedEntries casefold netbox live).Perm (entries live)
  named : ∀ m ∈ matchedEntries casefold netbox live, Nameless casefold live m.1 →
    ∀ n ∈ netbox.devices, normalize casefold n.name ≠ normalize casefold m.2.1.name

/-- Names, serial numbers and ids lead every NetBox device to an entry of its own. -/
structure Unambiguous : Prop where
  names : netbox.devices.Pairwise fun d d' =>
    normalize casefold d.name = normalize casefold d'.name → Nameless casefold live d
  serials : netbox.devices.Pairwise fun d d' => Nameless casefold live d →
    Nameless casefold live d' → serialKey casefold d = serialKey casefold d' →
    ∀ k ∈ serialKey casefold d, ∀ l ∈ live.devices, normalizeOption casefold l.serialNumber ≠ k
  crossed : ∀ d ∈ netbox.devices, Nameless casefold live d → ∀ k ∈ serialKey casefold d,
    ∀ e ∈ entryBySerial casefold live k, ∀ n ∈ netbox.devices,
      normalize casefold n.name ≠ normalize casefold e.1.name
  ids : ∀ e ∈ entries live, ∀ e' ∈ entries live, e.1.deviceId = e'.1.deviceId →
    ((∃ d ∈ netbox.devices, findEntry casefold live d = some e) ↔
      ∃ d ∈ netbox.devices, findEntry casefold live d = some e')

variable {casefold netbox live}

/-! ## Entries -/

theorem mem_entries {l : DeviceSnapshot} (h : l ∈ live.devices) : ∃ e ∈ entries live, e.1 = l := by
  obtain ⟨i, hi, rfl⟩ := List.getElem_of_mem h
  exact ⟨(live.devices[i], i), List.mem_zipIdx_iff_getElem?.2 (List.getElem?_eq_getElem hi), rfl⟩

theorem entry_device {e : Entry} (h : e ∈ entries live) : e.1 ∈ live.devices :=
  List.mem_of_getElem? (List.mem_zipIdx_iff_getElem?.1 h)

theorem entries_nodup : (entries live).Nodup := by
  refine List.Nodup.of_map Prod.snd ?_
  rw [entries, List.zipIdx_map_snd]
  exact List.nodup_range'

theorem entries_map_fst : (entries live).map Prod.fst = live.devices := List.zipIdx_map_fst ..

theorem nameless_iff {d : Device} :
    Nameless casefold live d ↔ entryByName casefold live (normalize casefold d.name) = none := by
  unfold entryByName
  rw [Dict.get?_byKey_eq_none]
  constructor
  · intro h e he
    exact h e.1 (entry_device he)
  · intro h l hl
    obtain ⟨e, he, rfl⟩ := mem_entries hl
    exact h e he

/-- Without a name the serial number decides. -/
theorem findEntry_nameless {d : Device} (h : Nameless casefold live d) :
    findEntry casefold live d = (serialKey casefold d).bind (entryBySerial casefold live) := by
  unfold findEntry
  rw [nameless_iff.1 h]

/-- What is found has the name, or the name is not there and it has the serial number. -/
theorem findEntry_some {d : Device} {e : Entry} (h : findEntry casefold live d = some e) :
    e ∈ entries live ∧ (normalize casefold e.1.name = normalize casefold d.name ∨
      Nameless casefold live d ∧ ∃ k ∈ serialKey casefold d,
        entryBySerial casefold live k = some e ∧
          normalizeOption casefold e.1.serialNumber = k) := by
  by_cases hname : Nameless casefold live d
  · rw [findEntry_nameless hname] at h
    obtain ⟨k, hk, hfound⟩ := Option.bind_eq_some_iff.1 h
    have hserial := List.find?_some hfound
    exact ⟨List.mem_of_find?_eq_some hfound,
      .inr ⟨hname, k, hk, hfound, of_decide_eq_true hserial⟩⟩
  · unfold findEntry at h
    rw [nameless_iff] at hname
    cases hget : entryByName casefold live (normalize casefold d.name) with
    | none => exact absurd hget hname
    | some e' =>
      rw [hget] at h
      cases h
      obtain ⟨hmem, hkey⟩ := Dict.get?_byKey hget
      exact ⟨hmem, .inl hkey⟩

/-- The matcher is `match`, on entries. -/
theorem findEntry_fst (d : Device) :
    (findEntry casefold live d).map Prod.fst =
      InventoryMatcher.findLive casefold live.devices d := by
  have hname : (entryByName casefold live (normalize casefold d.name)).map Prod.fst =
      (InventoryMatcher.liveByName casefold live.devices).get? (normalize casefold d.name) := by
    unfold entryByName InventoryMatcher.liveByName
    rw [Dict.get?_byKey_eq_getLast?, Dict.get?_byKey_eq_getLast?, ← entries_map_fst,
      List.filter_map, List.getLast?_map]
    rfl
  have hserial : ∀ serial, (entryBySerial casefold live (normalize casefold serial)).map Prod.fst =
      InventoryMatcher.liveBySerial casefold live.devices serial := by
    intro serial
    unfold entryBySerial InventoryMatcher.liveBySerial
    rw [← entries_map_fst, List.find?_map]
    rfl
  unfold findEntry InventoryMatcher.findLive
  rw [← hname]
  cases entryByName casefold live (normalize casefold d.name) with
  | some e => rfl
  | none =>
    unfold serialKey
    cases d.serial with
    | none => rfl
    | some serial =>
      by_cases hempty : serial = ""
      · simp [hempty, Option.filter]
      · simp [hempty, Option.filter, hserial]

theorem matchedDevices_eq :
    (InventoryMatcher.«match» casefold netbox live).matchedDevices =
      (matchedEntries casefold netbox live).map fun m => (m.1, m.2.1) := by
  unfold matchedEntries InventoryMatcher.«match»
  rw [List.map_filterMap]
  refine List.filterMap_congr fun d _ => ?_
  rw [← findEntry_fst]
  cases findEntry casefold live d <;> rfl

theorem unexpectedDevices_eq :
    (InventoryMatcher.«match» casefold netbox live).unexpectedDevices =
      (unexpectedEntries casefold netbox live).map Prod.fst := by
  have hunexpected : (InventoryMatcher.«match» casefold netbox live).unexpectedDevices =
      live.devices.filter fun d =>
        (InventoryMatcher.«match» casefold netbox live).matchedDevices.all
          fun m => m.2.deviceId ≠ d.deviceId := rfl
  rw [hunexpected, matchedDevices_eq, ← entries_map_fst, List.filter_map]
  unfold unexpectedEntries
  simp [Function.comp_def]

/-! ## The condition -/

theorem mem_matchedEntries {m : Device × Entry} :
    m ∈ matchedEntries casefold netbox live ↔
      m.1 ∈ netbox.devices ∧ findEntry casefold live m.1 = some m.2 := by
  unfold matchedEntries
  rw [List.mem_filterMap]
  constructor
  · rintro ⟨d, hd, h⟩
    obtain ⟨e, he, rfl⟩ := Option.map_eq_some_iff.1 h
    exact ⟨hd, he⟩
  · rintro ⟨hd, he⟩
    exact ⟨m.1, hd, by rw [he]; rfl⟩

theorem mem_taken {e : Entry} :
    e ∈ (matchedEntries casefold netbox live).map Prod.snd ↔
      ∃ d ∈ netbox.devices, findEntry casefold live d = some e := by
  rw [List.mem_map]
  constructor
  · rintro ⟨m, hm, rfl⟩
    exact ⟨m.1, mem_matchedEntries.1 hm⟩
  · rintro ⟨d, hd, he⟩
    exact ⟨(d, e), mem_matchedEntries.2 ⟨hd, he⟩, rfl⟩

theorem mem_unexpectedEntries {e : Entry} :
    e ∈ unexpectedEntries casefold netbox live ↔ e ∈ entries live ∧
      ∀ d ∈ netbox.devices, ∀ e', findEntry casefold live d = some e' →
        e'.1.deviceId ≠ e.1.deviceId := by
  unfold unexpectedEntries
  rw [List.mem_filter, List.all_eq_true]
  refine and_congr_right fun _ => ?_
  constructor
  · intro h d hd e' he'
    exact of_decide_eq_true (h (d, e') (mem_matchedEntries.2 ⟨hd, he'⟩))
  · intro h m hm
    obtain ⟨hd, he⟩ := mem_matchedEntries.1 hm
    exact decide_eq_true (h m.1 hd m.2 he)

/-- Every NetBox device is matched or missing. -/
theorem netbox_partition :
    (((InventoryMatcher.«match» casefold netbox live).matchedDevices.map Prod.fst) ++
      (InventoryMatcher.«match» casefold netbox live).missingDevices).Perm netbox.devices ∧
    ∀ m ∈ (InventoryMatcher.«match» casefold netbox live).matchedDevices,
      m.1 ∉ (InventoryMatcher.«match» casefold netbox live).missingDevices := by
  have hmatched : (InventoryMatcher.«match» casefold netbox live).matchedDevices.map Prod.fst =
      netbox.devices.filter fun d =>
        (InventoryMatcher.findLive casefold live.devices d).isSome := by
    unfold InventoryMatcher.«match»
    dsimp only
    induction netbox.devices with
    | nil => rfl
    | cons d ds ih =>
      cases hfind : InventoryMatcher.findLive casefold live.devices d with
      | none => simp [hfind, ih]
      | some l => simp [hfind, ih]
  have hmissing : (InventoryMatcher.«match» casefold netbox live).missingDevices =
      netbox.devices.filter fun d =>
        !(InventoryMatcher.findLive casefold live.devices d).isSome := by
    unfold InventoryMatcher.«match»
    simp
  rw [hmatched, hmissing]
  refine ⟨List.filter_append_perm _ _, fun m hm hmiss => ?_⟩
  have hfound := List.mem_map_of_mem (f := Prod.fst) hm
  rw [hmatched, List.mem_filter] at hfound
  rw [List.mem_filter, hfound.2] at hmiss
  exact absurd hmiss.2 (by simp)

/-- The entries are partitioned if and only if none is taken twice, and taken entries share their
id with taken ones only. -/
theorem observed_iff :
    ((matchedEntries casefold netbox live).map Prod.snd ++
        unexpectedEntries casefold netbox live).Perm (entries live) ↔
      ((matchedEntries casefold netbox live).map Prod.snd).Nodup ∧
      ∀ e ∈ entries live, ∀ e' ∈ entries live, e.1.deviceId = e'.1.deviceId →
        ((∃ d ∈ netbox.devices, findEntry casefold live d = some e) ↔
          ∃ d ∈ netbox.devices, findEntry casefold live d = some e') := by
  have hdisjoint : ∀ e ∈ (matchedEntries casefold netbox live).map Prod.snd,
      e ∉ unexpectedEntries casefold netbox live := by
    intro e he hunexpected
    obtain ⟨d, hd, hfound⟩ := mem_taken.1 he
    exact (mem_unexpectedEntries.1 hunexpected).2 d hd e hfound rfl
  constructor
  · intro hperm
    refine ⟨(List.nodup_append.1 (hperm.nodup_iff.2 entries_nodup)).1, ?_⟩
    have htaken : ∀ e ∈ entries live, ∀ e' ∈ entries live, e.1.deviceId = e'.1.deviceId →
        (∃ d ∈ netbox.devices, findEntry casefold live d = some e) →
        ∃ d ∈ netbox.devices, findEntry casefold live d = some e' := by
      rintro e _ e' he' hid ⟨d, hd, hfound⟩
      rcases List.mem_append.1 (hperm.mem_iff.2 he') with hmatched | hunexpected
      · exact mem_taken.1 hmatched
      · exact absurd hid ((mem_unexpectedEntries.1 hunexpected).2 d hd e hfound)
    exact fun e he e' he' hid => ⟨htaken e he e' he' hid, htaken e' he' e he hid.symm⟩
  · rintro ⟨hnodup, hids⟩
    have hall : ((matchedEntries casefold netbox live).map Prod.snd ++
        unexpectedEntries casefold netbox live).Nodup := by
      refine List.nodup_append.2 ⟨hnodup, entries_nodup.filter _, ?_⟩
      rintro e he e' he' rfl
      exact hdisjoint e he he'
    refine (List.perm_ext_iff_of_nodup hall entries_nodup).2 fun e => ?_
    rw [List.mem_append]
    constructor
    · rintro (hmatched | hunexpected)
      · obtain ⟨d, _, hfound⟩ := mem_taken.1 hmatched
        exact (findEntry_some hfound).1
      · exact (mem_unexpectedEntries.1 hunexpected).1
    · intro he
      by_cases htaken : ∃ d ∈ netbox.devices, findEntry casefold live d = some e
      · exact .inl (mem_taken.2 htaken)
      · refine .inr (mem_unexpectedEntries.2 ⟨he, fun d hd e' hfound hid => htaken ?_⟩)
        exact (hids e' (findEntry_some hfound).1 e he hid).1 ⟨d, hd, hfound⟩

/-- No entry is taken twice if no two NetBox devices find the same. -/
theorem taken_nodup_iff :
    ((matchedEntries casefold netbox live).map Prod.snd).Nodup ↔
      netbox.devices.Pairwise fun d d' => ∀ e, findEntry casefold live d = some e →
        findEntry casefold live d' ≠ some e := by
  have htaken : (matchedEntries casefold netbox live).map Prod.snd =
      netbox.devices.filterMap (findEntry casefold live) := by
    unfold matchedEntries
    rw [List.map_filterMap]
    refine List.filterMap_congr fun d _ => ?_
    cases findEntry casefold live d <;> rfl
  rw [htaken, List.Nodup, List.pairwise_filterMap]
  refine List.Pairwise.iff fun d d' => ?_
  constructor
  · rintro h e he he'
    exact h e he e he' rfl
  · rintro h e he e' he' rfl
    exact h e he he'

theorem crossed_iff :
    (∀ m ∈ matchedEntries casefold netbox live, Nameless casefold live m.1 →
      ∀ n ∈ netbox.devices, normalize casefold n.name ≠ normalize casefold m.2.1.name) ↔
    ∀ d ∈ netbox.devices, Nameless casefold live d → ∀ k ∈ serialKey casefold d,
      ∀ e ∈ entryBySerial casefold live k, ∀ n ∈ netbox.devices,
        normalize casefold n.name ≠ normalize casefold e.1.name := by
  constructor
  · intro h d hd hname k hk e he
    refine h (d, e) (mem_matchedEntries.2 ⟨hd, ?_⟩) hname
    rw [findEntry_nameless hname]
    exact Option.bind_eq_some_iff.2 ⟨k, hk, he⟩
  · intro h m hm hname
    obtain ⟨hd, hfound⟩ := mem_matchedEntries.1 hm
    rw [findEntry_nameless hname] at hfound
    obtain ⟨k, hk, he⟩ := Option.bind_eq_some_iff.1 hfound
    exact h m.1 hd hname k hk m.2 he

/-- Two devices that find the same entry share a name that is live, or their serial number. -/
theorem same_entry {d d' : Device} {e : Entry}
    (hcrossed : ∀ d ∈ netbox.devices, Nameless casefold live d → ∀ k ∈ serialKey casefold d,
      ∀ e ∈ entryBySerial casefold live k, ∀ n ∈ netbox.devices,
        normalize casefold n.name ≠ normalize casefold e.1.name)
    (hd : d ∈ netbox.devices) (hd' : d' ∈ netbox.devices)
    (h : findEntry casefold live d = some e) (h' : findEntry casefold live d' = some e) :
    normalize casefold d.name = normalize casefold d'.name ∧ ¬ Nameless casefold live d ∨
      Nameless casefold live d ∧ Nameless casefold live d' ∧
        serialKey casefold d = serialKey casefold d' ∧
        ∃ k ∈ serialKey casefold d, normalizeOption casefold e.1.serialNumber = k := by
  obtain ⟨hmem, hcases⟩ := findEntry_some h
  obtain ⟨_, hcases'⟩ := findEntry_some h'
  rcases hcases with hname | ⟨hless, k, hk, hfound, hserial⟩
  · rcases hcases' with hname' | ⟨hless', k', hk', hfound', _⟩
    · exact .inl ⟨hname.symm.trans hname', fun hless => hless e.1 (entry_device hmem) hname⟩
    · exact absurd hname.symm (hcrossed d' hd' hless' k' hk' e hfound' d hd)
  · rcases hcases' with hname' | ⟨hless', k', hk', _, hserial'⟩
    · exact absurd hname'.symm (hcrossed d hd hless k hk e hfound d' hd')
    · have hsame : serialKey casefold d = serialKey casefold d' := by
        rw [Option.mem_def.1 hk, Option.mem_def.1 hk', ← hserial, ← hserial']
      exact .inr ⟨hless, hless', hsame, k, hk, hserial⟩

theorem finds_name {d : Device} (h : ¬ Nameless casefold live d) :
    ∃ e, findEntry casefold live d = some e ∧
      entryByName casefold live (normalize casefold d.name) = some e := by
  rw [nameless_iff] at h
  obtain ⟨e, he⟩ := Option.ne_none_iff_exists'.1 h
  refine ⟨e, ?_, he⟩
  unfold findEntry
  rw [he]

theorem finds_serial {d : Device} {k : String} {l : DeviceSnapshot}
    (h : Nameless casefold live d) (hk : k ∈ serialKey casefold d) (hl : l ∈ live.devices)
    (hserial : normalizeOption casefold l.serialNumber = k) :
    ∃ e, entryBySerial casefold live k = some e ∧ findEntry casefold live d = some e := by
  obtain ⟨e, he, rfl⟩ := mem_entries hl
  cases hfound : entryBySerial casefold live k with
  | none => exact absurd (decide_eq_true hserial) (List.find?_eq_none.1 hfound e he)
  | some e' =>
    refine ⟨e', rfl, ?_⟩
    rw [findEntry_nameless h, Option.mem_def.1 hk, Option.bind_some, hfound]

/-- The matcher partitions the devices of both sides, and keeps a device for those of its name, if
and only if names, serial numbers and ids are not ambiguous. -/
theorem match_partitions_iff (casefold : String → String) (netbox : Inventory.InventorySnapshot)
    (live : Snapshot.InventorySnapshot) :
    Partitions casefold netbox live ↔ Unambiguous casefold netbox live := by
  constructor
  · rintro ⟨_, _, hobserved, hnamed⟩
    obtain ⟨hnodup, hids⟩ := observed_iff.1 hobserved
    rw [taken_nodup_iff] at hnodup
    refine ⟨?_, ?_, crossed_iff.1 hnamed, hids⟩
    · refine hnodup.imp fun {d d'} hne hname => ?_
      by_contra hthere
      obtain ⟨e, he, hlookup⟩ := finds_name hthere
      refine hne e he ?_
      unfold findEntry
      rw [← hname, hlookup]
    · refine hnodup.imp fun {d d'} hne hless hless' hserial k hk l hl hkey => ?_
      obtain ⟨e, hlookup, he⟩ := finds_serial hless hk hl hkey
      refine hne e he ?_
      rw [findEntry_nameless hless', ← hserial, Option.mem_def.1 hk, Option.bind_some, hlookup]
  · rintro ⟨hnames, hserials, hcrossed, hids⟩
    refine ⟨netbox_partition.1, netbox_partition.2, observed_iff.2 ⟨?_, hids⟩,
      crossed_iff.2 hcrossed⟩
    rw [taken_nodup_iff]
    refine List.Pairwise.imp_of_mem (fun {d d'} hd hd' h e he he' => ?_) (hnames.and hserials)
    rcases same_entry hcrossed hd hd' he he' with
      ⟨hname, hthere⟩ | ⟨hless, hless', hsame, k, hk, hkey⟩
    · exact hthere (h.1 hname)
    · exact h.2 hless hless' hsame k hk e.1 (entry_device (findEntry_some he).1) hkey

/-- The switch of a site. -/
def switch (siteName : String) : Device where
  name := "sw1"
  siteName := some siteName
  deviceType := ⟨⟨"Cisco", "cisco"⟩, "C9300", "c9300"⟩

/-- Two sites have a switch of one name, one of them is live: it is matched with both. -/
theorem match_takes_twice :
    ¬ Partitions Text.lower { devices := [switch "a", switch "b"] }
      { devices := [{ deviceId := "1", name := "sw1" }] } := by
  rintro ⟨_, _, hobserved, _⟩
  exact absurd hobserved.length_eq (by decide)

end Comparison
end NetOps
