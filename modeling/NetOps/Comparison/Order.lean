import Mathlib.Data.List.Perm.Basic
import NetOps.Comparison.Drift
import NetOps.Comparison.Matching
import NetOps.OuterJoin

/-!
# Comparison.Order

What a comparison reports when the lists of the two snapshots come in another order.

`Possible` is what can be found for some order, and does not depend on it. Three things do: which of
the live devices of a name or a serial number is matched, which of the interfaces or VLANs of a
name or an id is compared, and which of the differences of a key is kept. If it does not matter
which (`OneChoice`), a comparison reports the same and counts the same in every order
(`compare_reordered`).
-/

namespace NetOps
namespace Comparison

open Inventory (Device Interface VLAN)
open Snapshot (DeviceSnapshot InterfaceSnapshot VLANSnapshot)

/-! ## Another order -/

/-- A NetBox device, and the same with its interfaces in another order. -/
structure LikeDevice (d d' : Device) : Prop where
  interfaces : d.interfaces.Perm d'.interfaces
  rest : { d with interfaces := [] } = { d' with interfaces := [] }

/-- A live device, and the same with its interfaces and VLANs in another order. -/
structure LikeSnapshot (l l' : DeviceSnapshot) : Prop where
  interfaces : l.interfaces.Perm l'.interfaces
  vlans : l.vlans.Perm l'.vlans
  rest : { l with interfaces := [], vlans := [] } = { l' with interfaces := [], vlans := [] }

/-- The lists of two snapshots, and the same in another order. -/
structure Reordered (netbox netbox' : Inventory.InventorySnapshot)
    (live live' : Snapshot.InventorySnapshot) : Prop where
  devices : Relation.Comp (List.Forall₂ LikeDevice) List.Perm netbox.devices netbox'.devices
  vlans : netbox.vlans.Perm netbox'.vlans
  live : Relation.Comp (List.Forall₂ LikeSnapshot) List.Perm live.devices live'.devices

/-- What a difference says, but for its description. -/
def Difference.report (d : Difference) :
    DifferenceType × String × String × Option String × Value × Value :=
  (d.differenceType, d.subjectType, d.subjectId, d.fieldName, d.expected, d.observed)

/-- Two results report the same and count the same. -/
def SameResult (r r' : InventoryComparisonResult) : Prop :=
  (∀ t, t ∈ r.differences.map Difference.report ↔ t ∈ r'.differences.map Difference.report) ∧
    r.metrics = r'.metrics

/-! ## What can be found -/

variable (casefold : String → String) (netbox : Inventory.InventorySnapshot)
  (live : Snapshot.InventorySnapshot)

/-- The live devices that the matcher may take for a NetBox device. -/
def Candidate (d : Device) (l : DeviceSnapshot) : Prop :=
  l ∈ live.devices ∧ (normalize casefold l.name = normalize casefold d.name ∨
    Nameless casefold live d ∧
      serialKey casefold d = some (normalizeOption casefold l.serialNumber))

/-- No NetBox device can be matched with a live device of this id. -/
def Free (l : DeviceSnapshot) : Prop :=
  ∀ d ∈ netbox.devices, ∀ c, Candidate casefold live d c → c.deviceId ≠ l.deviceId

/-- Some NetBox device can be matched, and only with live devices of this id. -/
def Taken (l : DeviceSnapshot) : Prop :=
  ∃ d ∈ netbox.devices, (∃ c, Candidate casefold live d c) ∧
    ∀ c, Candidate casefold live d c → c.deviceId = l.deviceId

/-- The interfaces of a pair of devices, joined by name. -/
def interfaceJoin (m : Device × DeviceSnapshot) :
    OuterJoin.Spec Interface InterfaceSnapshot String Difference where
  left i := normalize casefold i.name
  right j := normalize casefold j.name
  onlyLeft _ i := InterfaceComparator.missingInterface m.1 i
  both i j := InterfaceComparator.compareInterface casefold m.1 i j
  onlyRight _ j := InterfaceComparator.unexpectedInterface m.1 j

/-- The VLANs of both sides, joined by id. -/
def vlanJoin : OuterJoin.Spec VLAN VLANSnapshot Int Difference where
  left n := n.vid
  right v := v.vlanId
  onlyLeft vid n := VLANComparator.missingVlan vid n
  both n v := VLANComparator.compareVlan casefold n v
  onlyRight vid v := VLANComparator.unexpectedVlan vid v

def InterfacesJoined (m : Device × DeviceSnapshot) (x : Difference) : Prop :=
  OuterJoin.Joined (interfaceJoin casefold m) m.1.interfaces m.2.interfaces x

/-- What can be said of a NetBox device and the live device taken for it. -/
def PairPossible (m : Device × DeviceSnapshot) (x : Difference) : Prop :=
  x ∈ DeviceComparator.compareMatchedDevice casefold m ∨ InterfacesJoined casefold m x ∨
    x ∈ PlatformComparator.comparePlatform casefold m

/-- The neighbors of one live device, one of every key. -/
def neighborsOf (l : DeviceSnapshot) : List Difference :=
  registered (l.neighbors.map (NeighborComparator.unsupportedNeighbor l.name))

/-- The differences that can be found, in some order of the lists. -/
inductive Possible : Difference → Prop where
  | identity {x : Difference} (h : x ∈ identityDrift casefold netbox live) : Possible x
  | missing {d : Device} (hd : d ∈ netbox.devices) (h : ∀ l, ¬Candidate casefold live d l) :
      Possible (DeviceComparator.missingDevice d)
  | unexpected {l : DeviceSnapshot} (hl : l ∈ live.devices) (h : Free casefold netbox live l) :
      Possible (DeviceComparator.unexpectedDevice l)
  | pair {d : Device} {l : DeviceSnapshot} {x : Difference} (hd : d ∈ netbox.devices)
      (hl : Candidate casefold live d l) (h : PairPossible casefold (d, l) x) : Possible x
  | vlan {x : Difference} (h : OuterJoin.Joined (vlanJoin casefold) netbox.vlans
      (live.devices.flatMap (·.vlans)) x) : Possible x
  | neighbor {l : DeviceSnapshot} {x : Difference} (hl : l ∈ live.devices)
      (h : x ∈ neighborsOf l) : Possible x

/-- It does not matter which device is matched, which interface or VLAN is compared and which
difference is kept, where there are several. -/
structure OneChoice : Prop where
  interfaces : ∀ d ∈ netbox.devices, ∀ l, Candidate casefold live d l →
    OuterJoin.Functional (interfaceJoin casefold (d, l)) d.interfaces l.interfaces
  pairs : ∀ d ∈ netbox.devices, ∀ l l', Candidate casefold live d l →
    Candidate casefold live d l' → ∀ x, PairPossible casefold (d, l) x →
      PairPossible casefold (d, l') x
  ids : ∀ l ∈ live.devices, Taken casefold netbox live l ∨
    ∃ l' ∈ live.devices, l'.name = l.name ∧ Free casefold netbox live l'
  vlans : OuterJoin.Functional (vlanJoin casefold) netbox.vlans
    (live.devices.flatMap (·.vlans))
  keys : ∀ x y, Possible casefold netbox live x → Possible casefold netbox live y →
    x.key = y.key → x.report = y.report

variable {casefold netbox live} {netbox' : Inventory.InventorySnapshot}
  {live' : Snapshot.InventorySnapshot}

/-! ## The comparators as joins -/

theorem compareDevice_eq (m : Device × DeviceSnapshot) :
    InterfaceComparator.compareDevice casefold m =
      OuterJoin.join (interfaceJoin casefold m) m.1.interfaces m.2.interfaces := by
  unfold InterfaceComparator.compareDevice OuterJoin.join
  congr 1
  refine List.flatMap_congr fun e _ => ?_
  unfold InterfaceComparator.compareEntry OuterJoin.joinRow InterfaceComparator.liveInterfaces
  dsimp only [interfaceJoin]
  cases (Dict.byKey (fun j : InterfaceSnapshot => normalize casefold j.name)
    m.2.interfaces).get? e.1 <;> rfl

theorem compareVlans_eq :
    VLANComparator.compare casefold netbox live =
      OuterJoin.join (vlanJoin casefold) netbox.vlans (live.devices.flatMap (·.vlans)) := by
  unfold VLANComparator.compare OuterJoin.join
  congr 1
  refine List.flatMap_congr fun e _ => ?_
  unfold VLANComparator.compareEntry OuterJoin.joinRow VLANComparator.liveVlans
  dsimp only [vlanJoin]
  cases (Dict.byKey (fun v : VLANSnapshot => v.vlanId)
    (live.devices.flatMap (·.vlans))).get? e.1 <;> rfl

/-! ## What the matcher takes -/

theorem candidate_of_findLive {d : Device} {l : DeviceSnapshot}
    (h : InventoryMatcher.findLive casefold live.devices d = some l) :
    Candidate casefold live d l := by
  rw [← findEntry_fst] at h
  obtain ⟨e, he, rfl⟩ := Option.map_eq_some_iff.1 h
  obtain ⟨hmem, hcases⟩ := findEntry_some he
  refine ⟨entry_device hmem, ?_⟩
  rcases hcases with hname | ⟨hless, k, hk, _, hserial⟩
  · exact .inl hname
  · rw [hserial]
    exact .inr ⟨hless, hk⟩

theorem findLive_of_candidate {d : Device} {l : DeviceSnapshot}
    (h : Candidate casefold live d l) :
    ∃ l', InventoryMatcher.findLive casefold live.devices d = some l' := by
  have hentry : ∃ e, findEntry casefold live d = some e := by
    rcases h with ⟨hl, hname | ⟨hless, hserial⟩⟩
    · have hnamed : ¬Nameless casefold live d := fun hless => hless l hl hname
      obtain ⟨e, he, _⟩ := finds_name hnamed
      exact ⟨e, he⟩
    · obtain ⟨e, _, he⟩ := finds_serial hless hserial hl rfl
      exact ⟨e, he⟩
  obtain ⟨e, he⟩ := hentry
  refine ⟨e.1, ?_⟩
  rw [← findEntry_fst, he]
  rfl

theorem mem_matched_iff {m : Device × DeviceSnapshot} :
    m ∈ matched casefold netbox live ↔
      m.1 ∈ netbox.devices ∧ InventoryMatcher.findLive casefold live.devices m.1 = some m.2 := by
  unfold matched InventoryMatcher.«match»
  dsimp only
  rw [List.mem_filterMap]
  constructor
  · rintro ⟨d, hd, h⟩
    obtain ⟨l, hl, rfl⟩ := Option.map_eq_some_iff.1 h
    exact ⟨hd, hl⟩
  · rintro ⟨hd, hl⟩
    exact ⟨m.1, hd, by rw [hl]; rfl⟩

theorem mem_missingDevices {d : Device} :
    d ∈ (InventoryMatcher.«match» casefold netbox live).missingDevices ↔
      d ∈ netbox.devices ∧ ∀ l, ¬Candidate casefold live d l := by
  unfold InventoryMatcher.«match»
  dsimp only
  rw [List.mem_filter, Option.isNone_iff_eq_none]
  refine and_congr_right fun _ => ?_
  constructor
  · intro hnone l hl
    obtain ⟨l', hfound⟩ := findLive_of_candidate hl
    rw [hnone] at hfound
    cases hfound
  · intro hnone
    cases hfound : InventoryMatcher.findLive casefold live.devices d with
    | none => rfl
    | some l => exact absurd (candidate_of_findLive hfound) (hnone l)

/-- An unexpected device has the name of one that no NetBox device can be matched with. -/
theorem unexpected_free (hids : ∀ l ∈ live.devices, Taken casefold netbox live l ∨
      ∃ l' ∈ live.devices, l'.name = l.name ∧ Free casefold netbox live l')
    {l : DeviceSnapshot}
    (h : l ∈ (InventoryMatcher.«match» casefold netbox live).unexpectedDevices) :
    ∃ l' ∈ live.devices, l'.name = l.name ∧ Free casefold netbox live l' := by
  obtain ⟨hl, hnone⟩ := mem_unexpectedDevices.1 h
  rcases hids l hl with ⟨d, hd, ⟨c, hc⟩, hsame⟩ | hfree
  · obtain ⟨c', hfound⟩ := findLive_of_candidate hc
    have hid := hsame c' (candidate_of_findLive hfound)
    exact absurd hid (hnone (d, c') (mem_matched_iff.2 ⟨hd, hfound⟩))
  · exact hfree

theorem free_unexpected {l : DeviceSnapshot} (hl : l ∈ live.devices)
    (h : Free casefold netbox live l) :
    l ∈ (InventoryMatcher.«match» casefold netbox live).unexpectedDevices := by
  refine mem_unexpectedDevices.2 ⟨hl, fun m hm => ?_⟩
  obtain ⟨hd, hfound⟩ := mem_matched_iff.1 hm
  exact h m.1 hd m.2 (candidate_of_findLive hfound)

/-! ## What the registry keeps -/

/-- Of the differences of a key, the last is registered. -/
theorem mem_registered {ds : List Difference} {x : Difference} :
    x ∈ registered ds ↔ (ds.filter fun d => d.key = x.key).getLast? = some x := by
  unfold registered registry
  rw [Dict.mem_values]
  constructor
  · rintro ⟨k, hk⟩
    obtain ⟨_, rfl⟩ := Dict.get?_byKey hk
    rw [← Dict.get?_byKey_eq_getLast?]
    exact hk
  · intro h
    exact ⟨x.key, by rw [Dict.get?_byKey_eq_getLast?]; exact h⟩

theorem registered_append {ds es : List Difference} {x : Difference}
    (h : x ∈ registered (ds ++ es)) : x ∈ registered ds ∨ x ∈ registered es := by
  rw [mem_registered, List.filter_append, List.getLast?_append, Option.or_eq_some_iff] at h
  rw [mem_registered, mem_registered]
  rcases h with h | ⟨_, h⟩
  · exact .inr h
  · exact .inl h

theorem registered_flatMap {α : Type} {f : α → List Difference} {as : List α} {x : Difference}
    (h : x ∈ registered (as.flatMap f)) : ∃ a ∈ as, x ∈ registered (f a) := by
  induction as with
  | nil => cases h
  | cons a as ih =>
    rw [List.flatMap_cons] at h
    rcases registered_append h with h | h
    · exact ⟨a, List.mem_cons_self, h⟩
    · obtain ⟨b, hb, hx⟩ := ih h
      exact ⟨b, List.mem_cons_of_mem _ hb, hx⟩

/-! ## What is found -/

theorem possible_of_matched {m : Device × DeviceSnapshot} {x : Difference}
    (hm : m ∈ matched casefold netbox live) (h : PairPossible casefold m x) :
    Possible casefold netbox live x := by
  obtain ⟨hd, hfound⟩ := mem_matched_iff.1 hm
  exact .pair hd (candidate_of_findLive hfound) h

/-- What is registered is possible. -/
theorem possible_of_registered (hone : OneChoice casefold netbox live) {x : Difference}
    (h : x ∈ registered (ComparisonEngine.found casefold netbox live)) :
    Possible casefold netbox live x := by
  unfold ComparisonEngine.found at h
  dsimp only at h
  rcases registered_append h with h | h
  · rcases registered_append h with h | h
    · have hx := mem_of_mem_registered h
      simp only [List.mem_append] at hx
      rcases hx with ((hx | hx) | hx) | hx
      · exact .identity (mem_identityDrift.1 hx)
      · rcases mem_compareDevices.1 hx with ⟨d, hd, rfl⟩ | ⟨l, hl, rfl⟩ | ⟨m, hm, hx⟩
        · obtain ⟨hmem, hnone⟩ := mem_missingDevices.1 hd
          exact .missing hmem hnone
        · obtain ⟨l', hl', hname, hfree⟩ := unexpected_free hone.ids hl
          have hsame : DeviceComparator.unexpectedDevice l' =
              DeviceComparator.unexpectedDevice l := by
            unfold DeviceComparator.unexpectedDevice
            rw [hname]
          rw [← hsame]
          exact .unexpected hl' hfree
        · exact possible_of_matched hm (.inl hx)
      · obtain ⟨m, hm, hx⟩ := List.mem_flatMap.1 hx
        rw [compareDevice_eq] at hx
        exact possible_of_matched hm (.inr (.inl (OuterJoin.joined_of_mem hx)))
      · rw [compareVlans_eq] at hx
        exact .vlan (OuterJoin.joined_of_mem hx)
    · obtain ⟨l, hl, hx⟩ := registered_flatMap h
      exact .neighbor hl hx
  · obtain ⟨m, hm, hx⟩ := List.mem_flatMap.1 (mem_of_mem_registered h)
    exact possible_of_matched hm (.inr (.inr hx))

/-- What is possible is found, if it does not matter what is matched and compared. -/
theorem found_of_possible (hone : OneChoice casefold netbox live) {x : Difference}
    (h : Possible casefold netbox live x) : x ∈ ComparisonEngine.found casefold netbox live := by
  rw [mem_found]
  cases h with
  | identity h => exact .inl h
  | missing hd h =>
    exact .inr (.inl (mem_compareDevices.2 (.inl ⟨_, mem_missingDevices.2 ⟨hd, h⟩, rfl⟩)))
  | unexpected hl h =>
    exact .inr (.inl (mem_compareDevices.2 (.inr (.inl ⟨_, free_unexpected hl h, rfl⟩))))
  | @pair d l _ hd hl h =>
    obtain ⟨l', hfound⟩ := findLive_of_candidate hl
    have hl' := candidate_of_findLive hfound
    have hm : (d, l') ∈ matched casefold netbox live := mem_matched_iff.2 ⟨hd, hfound⟩
    rcases hone.pairs d hd l l' hl hl' _ h with hx | hx | hx
    · exact .inr (.inl (mem_compareDevices.2 (.inr (.inr ⟨_, hm, hx⟩))))
    · refine .inr (.inr (.inl ⟨_, hm, ?_⟩))
      rw [compareDevice_eq]
      exact OuterJoin.mem_of_joined (hone.interfaces d hd l' hl') hx
    · exact .inr (.inr (.inr (.inr (.inr ⟨_, hm, hx⟩))))
  | vlan h =>
    refine .inr (.inr (.inr (.inl ?_)))
    rw [compareVlans_eq]
    exact OuterJoin.mem_of_joined hone.vlans h
  | @neighbor l _ hl h =>
    refine .inr (.inr (.inr (.inr (.inl ?_))))
    exact List.mem_flatMap.2 ⟨l, hl, mem_of_mem_registered h⟩

/-! ## Lists in another order -/

section Lists

variable {α β : Type} {R : α → α → Prop} {as bs : List α}

theorem symm_of_reordered (hR : ∀ {a b}, R a b → R b a)
    (h : Relation.Comp (List.Forall₂ R) List.Perm as bs) :
    Relation.Comp (List.Forall₂ R) List.Perm bs as := by
  obtain ⟨cs, hlike, hperm⟩ := h
  exact List.perm_comp_forall₂ hperm.symm (hlike.flip.imp fun _ _ => hR)

theorem exists_of_reordered (h : Relation.Comp (List.Forall₂ R) List.Perm as bs) {a : α}
    (ha : a ∈ as) : ∃ b ∈ bs, R a b := by
  obtain ⟨cs, hlike, hperm⟩ := h
  have hmem : ∃ b ∈ cs, R a b := by
    clear hperm
    induction hlike with
    | nil => cases ha
    | @cons a' b _ _ hab _ ih =>
      rcases List.mem_cons.1 ha with rfl | ha
      · exact ⟨b, List.mem_cons_self, hab⟩
      · obtain ⟨b', hb', hR⟩ := ih ha
        exact ⟨b', List.mem_cons_of_mem _ hb', hR⟩
  obtain ⟨b, hb, hab⟩ := hmem
  exact ⟨b, hperm.mem_iff.1 hb, hab⟩

theorem map_perm_of_reordered {f : α → β} (hR : ∀ {a b}, R a b → f a = f b)
    (h : Relation.Comp (List.Forall₂ R) List.Perm as bs) : (as.map f).Perm (bs.map f) := by
  obtain ⟨cs, hlike, hperm⟩ := h
  have hsame : as.map f = cs.map f := by
    clear hperm
    induction hlike with
    | nil => rfl
    | cons hab _ ih => rw [List.map_cons, List.map_cons, hR hab, ih]
  rw [hsame]
  exact hperm.map f

theorem mem_duplicatedNames_perm {names names' : List String} (h : names.Perm names')
    {name : String} : name ∈ duplicatedNames names ↔ name ∈ duplicatedNames names' := by
  unfold duplicatedNames
  rw [List.mem_filter, List.mem_filter, List.mem_dedup, List.mem_dedup, h.mem_iff, h.count_eq]

end Lists

/-! ## Snapshots in another order -/

theorem LikeDevice.symm {d d' : Device} (h : LikeDevice d d') : LikeDevice d' d :=
  ⟨h.interfaces.symm, h.rest.symm⟩

theorem LikeSnapshot.symm {l l' : DeviceSnapshot} (h : LikeSnapshot l l') : LikeSnapshot l' l :=
  ⟨h.interfaces.symm, h.vlans.symm, h.rest.symm⟩

/-- What does not look at the interfaces says the same of the two. -/
theorem LikeDevice.congr {α : Type} {d d' : Device} (h : LikeDevice d d') (f : Device → α)
    (hf : ∀ d, f { d with interfaces := [] } = f d) : f d = f d' := by
  rw [← hf d, h.rest, hf d']

theorem LikeSnapshot.congr {α : Type} {l l' : DeviceSnapshot} (h : LikeSnapshot l l')
    (f : DeviceSnapshot → α) (hf : ∀ l, f { l with interfaces := [], vlans := [] } = f l) :
    f l = f l' := by
  rw [← hf l, h.rest, hf l']

theorem LikeDevice.name {d d' : Device} (h : LikeDevice d d') : d.name = d'.name :=
  h.congr Device.name fun _ => rfl

theorem LikeSnapshot.name {l l' : DeviceSnapshot} (h : LikeSnapshot l l') : l.name = l'.name :=
  h.congr DeviceSnapshot.name fun _ => rfl

theorem LikeSnapshot.deviceId {l l' : DeviceSnapshot} (h : LikeSnapshot l l') :
    l.deviceId = l'.deviceId :=
  h.congr DeviceSnapshot.deviceId fun _ => rfl

theorem Reordered.symm (h : Reordered netbox netbox' live live') :
    Reordered netbox' netbox live' live :=
  ⟨symm_of_reordered LikeDevice.symm h.devices, h.vlans.symm,
    symm_of_reordered LikeSnapshot.symm h.live⟩

section Reordered

variable (h : Reordered netbox netbox' live live')

include h

theorem nameless_reordered {d d' : Device} (hd : LikeDevice d d')
    (hless : Nameless casefold live d) : Nameless casefold live' d' := by
  intro l' hl'
  obtain ⟨l, hl, hlike⟩ := exists_of_reordered h.symm.live hl'
  rw [hlike.name, ← hd.name]
  exact hless l hl

theorem candidate_like {d d' : Device} {l l' : DeviceSnapshot} (hd : LikeDevice d d')
    (hl : LikeSnapshot l l') (hmem : l' ∈ live'.devices) (hc : Candidate casefold live d l) :
    Candidate casefold live' d' l' := by
  have hserial : serialKey casefold d' = serialKey casefold d :=
    hd.symm.congr (serialKey casefold) fun _ => rfl
  have hnumber : l'.serialNumber = l.serialNumber :=
    hl.symm.congr DeviceSnapshot.serialNumber fun _ => rfl
  refine ⟨hmem, ?_⟩
  rw [← hl.name, ← hd.name, hserial, hnumber]
  exact hc.2.imp_right fun hs => ⟨nameless_reordered h hd hs.1, hs.2⟩

theorem candidate_reordered {d d' : Device} {l : DeviceSnapshot} (hd : LikeDevice d d')
    (hc : Candidate casefold live d l) :
    ∃ l', LikeSnapshot l l' ∧ Candidate casefold live' d' l' := by
  obtain ⟨l', hmem, hl⟩ := exists_of_reordered h.live hc.1
  exact ⟨l', hl, candidate_like h hd hl hmem hc⟩

theorem free_reordered {l l' : DeviceSnapshot} (hl : LikeSnapshot l l')
    (hfree : Free casefold netbox live l) : Free casefold netbox' live' l' := by
  intro d' hd' c' hc'
  obtain ⟨d, hd, hlike⟩ := exists_of_reordered h.symm.devices hd'
  obtain ⟨c, hsame, hc⟩ := candidate_reordered h.symm hlike hc'
  rw [hsame.deviceId, ← hl.deviceId]
  exact hfree d hd c hc

theorem taken_reordered {l l' : DeviceSnapshot} (hl : LikeSnapshot l l')
    (htaken : Taken casefold netbox live l) : Taken casefold netbox' live' l' := by
  obtain ⟨d, hd, ⟨c, hc⟩, hall⟩ := htaken
  obtain ⟨d', hd', hlike⟩ := exists_of_reordered h.devices hd
  obtain ⟨c', _, hc'⟩ := candidate_reordered h hlike hc
  refine ⟨d', hd', ⟨c', hc'⟩, fun b' hb' => ?_⟩
  obtain ⟨b, hsame, hb⟩ := candidate_reordered h.symm hlike.symm hb'
  rw [hsame.deviceId, hall b hb, hl.deviceId]

theorem mem_vlans_reordered (v : VLANSnapshot) :
    v ∈ live.devices.flatMap (·.vlans) → v ∈ live'.devices.flatMap (·.vlans) := by
  intro hv
  obtain ⟨l, hl, hmem⟩ := List.mem_flatMap.1 hv
  obtain ⟨l', hl', hlike⟩ := exists_of_reordered h.live hl
  exact List.mem_flatMap.2 ⟨l', hl', hlike.vlans.mem_iff.1 hmem⟩

theorem vlans_reordered (v : VLANSnapshot) :
    v ∈ live.devices.flatMap (·.vlans) ↔ v ∈ live'.devices.flatMap (·.vlans) :=
  ⟨mem_vlans_reordered h v, mem_vlans_reordered h.symm v⟩

theorem identityDrift_reordered {x : Difference} (hx : x ∈ identityDrift casefold netbox live) :
    x ∈ identityDrift casefold netbox' live' := by
  have hnetbox : (netbox.devices.map fun d => normalize casefold d.name).Perm
      (netbox'.devices.map fun d => normalize casefold d.name) :=
    map_perm_of_reordered (fun hlike => by rw [hlike.name]) h.devices
  have hlive : (live.devices.map fun l => normalize casefold l.name).Perm
      (live'.devices.map fun l => normalize casefold l.name) :=
    map_perm_of_reordered (fun hlike => by rw [hlike.name]) h.live
  unfold identityDrift at hx ⊢
  simp only [List.mem_append, List.mem_map, mem_duplicatedNames_perm hnetbox,
    mem_duplicatedNames_perm hlive] at hx ⊢
  exact hx

end Reordered

theorem interfaceJoin_like {d d' : Device} (hd : LikeDevice d d') (l l' : DeviceSnapshot) :
    interfaceJoin casefold (d, l) = interfaceJoin casefold (d', l') :=
  hd.congr (fun d => interfaceJoin casefold (d, l)) fun _ => rfl

theorem pairPossible_like {d d' : Device} {l l' : DeviceSnapshot} (hd : LikeDevice d d')
    (hl : LikeSnapshot l l') {x : Difference} (hx : PairPossible casefold (d, l) x) :
    PairPossible casefold (d', l') x := by
  have hmatched : DeviceComparator.compareMatchedDevice casefold (d, l) =
      DeviceComparator.compareMatchedDevice casefold (d', l') :=
    (hd.congr (fun d => DeviceComparator.compareMatchedDevice casefold (d, l)) fun _ => rfl).trans
      (hl.congr (fun l => DeviceComparator.compareMatchedDevice casefold (d', l)) fun _ => rfl)
  have hplatform : PlatformComparator.comparePlatform casefold (d, l) =
      PlatformComparator.comparePlatform casefold (d', l') :=
    (hd.congr (fun d => PlatformComparator.comparePlatform casefold (d, l)) fun _ => rfl).trans
      (hl.congr (fun l => PlatformComparator.comparePlatform casefold (d', l)) fun _ => rfl)
  rcases hx with hx | hx | hx
  · exact .inl (hmatched ▸ hx)
  · refine .inr (.inl ?_)
    unfold InterfacesJoined at hx ⊢
    rw [← interfaceJoin_like hd l l']
    exact hx.congr (fun _ => hd.interfaces.mem_iff) fun _ => hl.interfaces.mem_iff
  · exact .inr (.inr (hplatform ▸ hx))

/-! ## What can be found does not depend on the order -/

theorem possible_reordered (h : Reordered netbox netbox' live live') {x : Difference}
    (hx : Possible casefold netbox live x) : Possible casefold netbox' live' x := by
  cases hx with
  | identity hx => exact .identity (identityDrift_reordered h hx)
  | @missing d hd hnone =>
    obtain ⟨d', hd', hlike⟩ := exists_of_reordered h.devices hd
    have hsame : DeviceComparator.missingDevice d = DeviceComparator.missingDevice d' :=
      hlike.congr DeviceComparator.missingDevice fun _ => rfl
    rw [hsame]
    refine .missing hd' fun l' hl' => ?_
    obtain ⟨l, _, hl⟩ := candidate_reordered h.symm hlike.symm hl'
    exact hnone l hl
  | @unexpected l hl hfree =>
    obtain ⟨l', hl', hlike⟩ := exists_of_reordered h.live hl
    have hsame : DeviceComparator.unexpectedDevice l = DeviceComparator.unexpectedDevice l' :=
      hlike.congr DeviceComparator.unexpectedDevice fun _ => rfl
    rw [hsame]
    exact .unexpected hl' (free_reordered h hlike hfree)
  | @pair d l _ hd hl hx =>
    obtain ⟨d', hd', hlike⟩ := exists_of_reordered h.devices hd
    obtain ⟨l', hsame, hl'⟩ := candidate_reordered h hlike hl
    exact .pair hd' hl' (pairPossible_like hlike hsame hx)
  | vlan hx => exact .vlan (hx.congr (fun _ => h.vlans.mem_iff) (vlans_reordered h))
  | @neighbor l _ hl hx =>
    obtain ⟨l', hl', hlike⟩ := exists_of_reordered h.live hl
    have hsame : neighborsOf l = neighborsOf l' := hlike.congr neighborsOf fun _ => rfl
    exact .neighbor hl' (hsame ▸ hx)

theorem oneChoice_reordered (h : Reordered netbox netbox' live live')
    (hone : OneChoice casefold netbox live) : OneChoice casefold netbox' live' := by
  constructor
  · intro d' hd' l' hl'
    obtain ⟨d, hd, hlike⟩ := exists_of_reordered h.symm.devices hd'
    obtain ⟨l, hsame, hl⟩ := candidate_reordered h.symm hlike hl'
    rw [interfaceJoin_like hlike l' l]
    exact (hone.interfaces d hd l hl).congr (fun _ => hlike.interfaces.symm.mem_iff)
      fun _ => hsame.interfaces.symm.mem_iff
  · intro d' hd' l' m' hl' hm' x hx
    obtain ⟨d, hd, hlike⟩ := exists_of_reordered h.symm.devices hd'
    obtain ⟨l, hsame, hl⟩ := candidate_reordered h.symm hlike hl'
    obtain ⟨m, hsame', hm⟩ := candidate_reordered h.symm hlike hm'
    have hx' := hone.pairs d hd l m hl hm x (pairPossible_like hlike hsame hx)
    exact pairPossible_like hlike.symm hsame'.symm hx'
  · intro l' hl'
    obtain ⟨l, hl, hlike⟩ := exists_of_reordered h.symm.live hl'
    rcases hone.ids l hl with htaken | ⟨m, hm, hname, hfree⟩
    · exact .inl (taken_reordered h hlike.symm htaken)
    · obtain ⟨m', hm', hsame⟩ := exists_of_reordered h.live hm
      refine .inr ⟨m', hm', ?_, free_reordered h hsame hfree⟩
      rw [← hsame.name, hname, hlike.name]
  · exact hone.vlans.congr (fun _ => h.vlans.mem_iff) (vlans_reordered h)
  · intro x y hx hy
    exact hone.keys x y (possible_reordered h.symm hx) (possible_reordered h.symm hy)

/-! ## What is reported -/

section Reports

variable {filter : Option DifferenceFilter}

/-- The reports of what is registered are those of what is possible. -/
theorem mem_reports (hone : OneChoice casefold netbox live)
    {t : DifferenceType × String × String × Option String × Value × Value} :
    t ∈ (registered (ComparisonEngine.found casefold netbox live)).map Difference.report ↔
      ∃ x, Possible casefold netbox live x ∧ x.report = t := by
  rw [List.mem_map]
  constructor
  · rintro ⟨x, hx, rfl⟩
    exact ⟨x, possible_of_registered hone hx, rfl⟩
  · rintro ⟨x, hx, rfl⟩
    obtain ⟨y, hy, _, hkey⟩ := registered_of_mem (found_of_possible hone hx)
    exact ⟨y, hy, hone.keys y x (possible_of_registered hone hy) hx hkey⟩

/-- What is registered differs in its reports, since they contain the key. -/
theorem nodup_reports (ds : List Difference) : ((registered ds).map Difference.report).Nodup := by
  have hkeys := nodup_registered ds
  have hkey : Difference.key =
      (fun t => t.1.value ++ ":" ++ t.2.1 ++ ":" ++ t.2.2.1 ++ ":" ++ t.2.2.2.1.getD "") ∘
        Difference.report := rfl
  rw [hkey, ← List.map_map] at hkeys
  exact hkeys.of_map

theorem metrics_of_perm {ds es : List Difference}
    (h : (ds.map Difference.report).Perm (es.map Difference.report)) :
    ComparisonMetrics.fromDifferences ds = ComparisonMetrics.fromDifferences es := by
  have hlength : ds.length = es.length := by simpa using h.length_eq
  have hcount : ∀ t : DifferenceType, ds.countP (fun d => d.differenceType = t) =
      es.countP fun d => d.differenceType = t := by
    intro t
    have hperm := h.countP_eq fun r => r.1 = t
    rw [List.countP_map, List.countP_map] at hperm
    exact hperm
  unfold ComparisonMetrics.fromDifferences
  rw [hlength]
  congr 1
  exact funext hcount

/-- If it does not matter which of several entries is taken, a comparison reports and counts the
same in every order of the lists. -/
theorem compare_reordered (casefold : String → String) (filter : Option DifferenceFilter)
    {netbox netbox' : Inventory.InventorySnapshot} {live live' : Snapshot.InventorySnapshot}
    (hone : OneChoice casefold netbox live) (h : Reordered netbox netbox' live live') :
    SameResult (ComparisonEngine.compare casefold filter netbox live)
      (ComparisonEngine.compare casefold filter netbox' live') := by
  have hp := fun netbox live => differences_admitted casefold netbox live filter
  have hfiltered : ∀ ds : List Difference,
      (ds.filter fun x => admits filter x.differenceType x.subjectType).map Difference.report =
        (ds.map Difference.report).filter fun t => admits filter t.1 t.2.1 := by
    intro ds
    rw [List.filter_map]
    rfl
  have hregistered : ∀ t,
      t ∈ (registered (ComparisonEngine.found casefold netbox live)).map Difference.report ↔
      t ∈ (registered (ComparisonEngine.found casefold netbox' live')).map Difference.report := by
    intro t
    rw [mem_reports hone, mem_reports (oneChoice_reordered h hone)]
    exact exists_congr fun x =>
      and_congr_left fun _ => ⟨possible_reordered h, possible_reordered h.symm⟩
  have hperm := ((List.perm_ext_iff_of_nodup (nodup_reports _) (nodup_reports _)).2
    hregistered).filter fun t => admits filter t.1 t.2.1
  rw [← hfiltered, ← hfiltered, ← hp, ← hp] at hperm
  exact ⟨fun t => hperm.mem_iff, metrics_of_perm hperm⟩

/-- Two VLANs, and a switch that has both. -/
def floorNetbox : Inventory.InventorySnapshot where
  vlans := [{ vid := 10, name := "office" }, { vid := 20, name := "guests" }]

def floorLive : Snapshot.InventorySnapshot where
  devices := [{ deviceId := "1", name := "sw1"
                vlans := [{ vlanId := 10, name := "office" }, { vlanId := 20, name := "guests" }] }]

/-- Of the two only the switch is to be reported. -/
theorem floor_possible {x : Difference} (h : Possible Text.lower floorNetbox floorLive x) :
    ∃ l ∈ floorLive.devices, x = DeviceComparator.unexpectedDevice l := by
  cases h with
  | identity h =>
    have hnone : identityDrift Text.lower floorNetbox floorLive = [] := by decide
    rw [hnone] at h
    cases h
  | missing hd => cases hd
  | unexpected hl => exact ⟨_, hl, rfl⟩
  | pair hd => cases hd
  | vlan h =>
    have hnone : OuterJoin.join (vlanJoin Text.lower) floorNetbox.vlans
        (floorLive.devices.flatMap (·.vlans)) = [] := by
      decide
    have hmem := OuterJoin.mem_of_joined
      (OuterJoin.functional_of_nodup (by decide) (by decide)) h
    rw [hnone] at hmem
    cases hmem
  | neighbor hl h =>
    rw [List.mem_singleton.1 hl] at h
    cases h

theorem floor_oneChoice : OneChoice Text.lower floorNetbox floorLive where
  interfaces := fun _ hd => nomatch hd
  pairs := fun _ hd => nomatch hd
  ids := fun l hl => .inr ⟨l, hl, rfl, fun _ hd => nomatch hd⟩
  vlans := OuterJoin.functional_of_nodup (by decide) (by decide)
  keys := by
    intro x y hx hy _
    obtain ⟨l, hl, rfl⟩ := floor_possible hx
    obtain ⟨l', hl', rfl⟩ := floor_possible hy
    rw [List.mem_singleton.1 hl, List.mem_singleton.1 hl']

/-- The VLANs of NetBox may come the other way. -/
theorem compare_reordered_floor :
    SameResult (ComparisonEngine.compare Text.lower none floorNetbox floorLive)
      (ComparisonEngine.compare Text.lower none
        { floorNetbox with vlans := floorNetbox.vlans.reverse } floorLive) := by
  refine compare_reordered Text.lower none floor_oneChoice ⟨?_, ?_, ?_⟩
  · exact ⟨[], .nil, List.Perm.refl _⟩
  · exact (List.reverse_perm _).symm
  · exact ⟨floorLive.devices, List.forall₂_same.2 fun l _ => ⟨.refl _, .refl _, rfl⟩, .refl _⟩

/-- Two switches with names of their own for one VLAN: the last of the two is believed. -/
theorem order_matters :
    ¬∀ (casefold : String → String) (filter : Option DifferenceFilter)
      (netbox netbox' : Inventory.InventorySnapshot) (live live' : Snapshot.InventorySnapshot),
      Reordered netbox netbox' live live' →
        SameResult (ComparisonEngine.compare casefold filter netbox live)
          (ComparisonEngine.compare casefold filter netbox' live') := by
  intro hall
  have hsame := hall Text.lower none officeNetbox officeNetbox officeLive
    { devices := officeLive.devices.reverse } ⟨⟨[], .nil, List.Perm.refl _⟩, List.Perm.refl _,
      officeLive.devices, List.forall₂_same.2 fun l _ => ⟨.refl _, .refl _, rfl⟩,
      (List.reverse_perm _).symm⟩
  have hreported : (DifferenceBuilder.modified "vlan" "10" "name" (.text "office")
      (.text "guests")).report ∈
      (ComparisonEngine.compare Text.lower none officeNetbox
        { devices := officeLive.devices.reverse }).differences.map Difference.report := by
    decide
  have hlost : (DifferenceBuilder.modified "vlan" "10" "name" (.text "office")
      (.text "guests")).report ∉
      (ComparisonEngine.compare Text.lower none officeNetbox officeLive).differences.map
        Difference.report := by
    decide
  exact hlost ((hsame.1 _).2 hreported)

end Reports

end Comparison
end NetOps
