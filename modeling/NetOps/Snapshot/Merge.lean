import NetOps.Clock.Datetimes
import NetOps.Folds
import NetOps.Snapshot.Entities
import NetOps.Updates

/-!
# Snapshot.Merge

`InventorySnapshot.merge`. The loop over the snapshots is a fold of an associative operation
(`Merged.join`), which raises where a naive and an aware capture time meet.
-/

namespace NetOps
namespace Snapshot
namespace Merge

open Clock (CompareError Datetime)

variable {F : Type}

/-- What the default factories of a new snapshot give. -/
structure Defaults where
  snapshotId : Nat
  capturedAt : Datetime

def InventorySnapshot.empty (defaults : Defaults) : Entities.InventorySnapshot Datetime F where
  snapshotId := defaults.snapshotId
  capturedAt := defaults.capturedAt

/-- The variables of the loop. -/
structure Merged (F : Type) where
  devices : Dict String (Entities.DeviceSnapshot Datetime F)
  keyed : ∀ e ∈ devices.items, e.2.deviceId = e.1
  capturedAt : Datetime
  version : String
  source : Option String

namespace Merged

theorem ext {m m' : Merged F} (hdevices : m.devices = m'.devices)
    (hcaptured : m.capturedAt = m'.capturedAt) (hversion : m.version = m'.version)
    (hsource : m.source = m'.source) : m = m' := by
  cases m
  cases m'
  subst hdevices hcaptured hversion hsource
  rfl

/-- Before the first snapshot is taken in. -/
def start (s : Entities.InventorySnapshot Datetime F) : Merged F where
  devices := Dict.empty
  keyed := by
    intro e he
    cases he
  capturedAt := s.capturedAt
  version := s.version
  source := s.source

/-- The body of the loop, of which the devices of one snapshot are a list. -/
def add (m : Merged F) (devices : List (Entities.DeviceSnapshot Datetime F)) (capturedAt : Datetime)
    (version : String) (source : Option String) : Except CompareError (Merged F) :=
  (m.capturedAt.latest capturedAt).map fun latest =>
    { devices := Dict.insertAll Entities.DeviceSnapshot.deviceId m.devices devices
      keyed := Dict.insertAll_keyed m.keyed devices
      capturedAt := latest
      version := version
      source := source.or m.source }

def addSnapshot (m : Merged F) (s : Entities.InventorySnapshot Datetime F) :
    Except CompareError (Merged F) :=
  m.add s.devices s.capturedAt s.version s.source

def snapshot (defaults : Defaults) (m : Merged F) : Entities.InventorySnapshot Datetime F where
  devices := m.devices.values
  snapshotId := defaults.snapshotId
  capturedAt := m.capturedAt
  version := m.version
  source := m.source

end Merged

def InventorySnapshot.merge (defaults : Defaults) :
    List (Entities.InventorySnapshot Datetime F) →
      Except CompareError (Entities.InventorySnapshot Datetime F)
  | [] => .ok (InventorySnapshot.empty defaults)
  | s :: ss => ((s :: ss).foldlM Merged.addSnapshot (Merged.start s)).map (Merged.snapshot defaults)

/-! ## An associative operation -/

namespace Merged

/-- One snapshot alone. -/
def single (s : Entities.InventorySnapshot Datetime F) : Merged F where
  devices := Dict.byKey Entities.DeviceSnapshot.deviceId s.devices
  keyed := by
    intro e he
    exact (Dict.mem_items_byKey he).2.1
  capturedAt := s.capturedAt
  version := s.version
  source := s.source

/-- What one list of snapshots leads to, and what another does. -/
def join (m m' : Merged F) : Except CompareError (Merged F) :=
  m.add m'.devices.values m'.capturedAt m'.version m'.source

theorem add_values (m : Merged F) (devices : List (Entities.DeviceSnapshot Datetime F))
    (capturedAt : Datetime) (version : String) (source : Option String) :
    m.add (Dict.byKey Entities.DeviceSnapshot.deviceId devices).values capturedAt version source =
      m.add devices capturedAt version source := by
  unfold add
  congr 1
  funext latest
  exact ext (Dict.insertAll_values _ _ _) rfl rfl rfl

theorem join_single (m : Merged F) (s : Entities.InventorySnapshot Datetime F) :
    m.join (single s) = m.addSnapshot s := add_values m _ _ _ _

theorem start_addSnapshot (s : Entities.InventorySnapshot Datetime F) :
    (start s).addSnapshot s = .ok (single s) := by
  have hlatest : s.capturedAt.latest s.capturedAt = .ok s.capturedAt := by
    simp [Datetime.latest, Datetime.gt_self, Except.map]
  simp only [addSnapshot, add, start, hlatest, Except.map, Except.ok.injEq]
  exact ext (Dict.insertAll_empty _ _) rfl rfl Option.or_self

/-- A merged snapshot is taken in as what it was made of. -/
theorem single_snapshot (defaults : Defaults) (m : Merged F) : single (m.snapshot defaults) = m :=
  ext (Dict.byKey_values m.keyed) rfl rfl rfl

theorem values_insertAll (m m' : Merged F) (vs : List (Entities.DeviceSnapshot Datetime F)) :
    Dict.insertAll Entities.DeviceSnapshot.deviceId m.devices
        (Dict.insertAll Entities.DeviceSnapshot.deviceId m'.devices vs).values =
      Dict.insertAll Entities.DeviceSnapshot.deviceId
        (Dict.insertAll Entities.DeviceSnapshot.deviceId m.devices m'.devices.values) vs := by
  have hall : Dict.insertAll Entities.DeviceSnapshot.deviceId m'.devices vs =
      Dict.byKey Entities.DeviceSnapshot.deviceId (m'.devices.values ++ vs) := by
    rw [← Dict.insertAll_empty, Dict.insertAll_append, Dict.insertAll_empty,
      Dict.byKey_values m'.keyed]
  rw [hall, Dict.insertAll_values, Dict.insertAll_append]

theorem join_associative : Folds.Associative (join (F := F)) := by
  intro a b c
  have hassoc := Datetime.latest_assoc a.capturedAt b.capturedAt c.capturedAt
  cases hab : a.capturedAt.latest b.capturedAt with
  | error e =>
    rw [hab] at hassoc
    cases hbc : b.capturedAt.latest c.capturedAt with
    | error e' =>
      cases e
      cases e'
      simp [join, add, hab, hbc, Except.map, bind, Except.bind]
    | ok latest =>
      rw [hbc] at hassoc
      simp only [bind, Except.bind] at hassoc
      simp [join, add, hab, hbc, ← hassoc, Except.map, bind, Except.bind]
  | ok latest =>
    rw [hab] at hassoc
    cases hbc : b.capturedAt.latest c.capturedAt with
    | error e =>
      rw [hbc] at hassoc
      simp only [bind, Except.bind] at hassoc
      simp [join, add, hab, hbc, hassoc, Except.map, bind, Except.bind]
    | ok latest' =>
      rw [hbc] at hassoc
      simp only [bind, Except.bind] at hassoc
      simp only [join, add, hab, hbc, hassoc, Except.map, bind, Except.bind]
      cases a.capturedAt.latest latest' with
      | error e => rfl
      | ok last =>
        simp only [Except.ok.injEq]
        exact ext (values_insertAll a b c.devices.values).symm rfl rfl (Option.or_assoc ..).symm

end Merged

theorem foldlM_single (m : Merged F) (ss : List (Entities.InventorySnapshot Datetime F)) :
    (ss.map Merged.single).foldlM Merged.join m = ss.foldlM Merged.addSnapshot m := by
  rw [List.foldlM_map]
  congr 1
  funext m s
  exact Merged.join_single m s

theorem merge_cons (defaults : Defaults) (s : Entities.InventorySnapshot Datetime F)
    (ss : List (Entities.InventorySnapshot Datetime F)) :
    InventorySnapshot.merge defaults (s :: ss) =
      (Folds.fold Merged.join (Merged.single s, ss.map Merged.single)).map
        (Merged.snapshot defaults) := by
  rw [InventorySnapshot.merge, List.foldlM_cons, Merged.start_addSnapshot]
  exact congrArg (Except.map (Merged.snapshot defaults)) (foldlM_single (Merged.single s) ss).symm

/-- A non-empty list of snapshots, by its first. -/
abbrev Part (F : Type) : Type :=
  Entities.InventorySnapshot Datetime F × List (Entities.InventorySnapshot Datetime F)

def Part.snapshots (part : Part F) : List (Entities.InventorySnapshot Datetime F) :=
  part.1 :: part.2

def Part.singles (part : Part F) : Merged F × List (Merged F) :=
  (Merged.single part.1, part.2.map Merged.single)

theorem merge_snapshots (defaults : Defaults) (part : Part F) :
    InventorySnapshot.merge defaults part.snapshots =
      Merged.snapshot defaults <$> Folds.fold Merged.join part.singles := merge_cons ..

theorem merge_parts (defaults : Defaults) (parts : List (Defaults × Part F)) :
    InventorySnapshot.merge defaults (parts.flatMap fun part => part.2.snapshots) =
      (parts.mapM fun part => InventorySnapshot.merge part.1 part.2.snapshots) >>=
        InventorySnapshot.merge defaults := by
  cases parts with
  | nil => rfl
  | cons first parts =>
    have hall : (first.2.2 ++ parts.flatMap fun part => part.2.snapshots).map Merged.single =
        first.2.singles.2 ++
          (parts.map fun part => part.2.singles).flatMap fun p => p.1 :: p.2 := by
      simp [Part.singles, Part.snapshots, List.map_flatMap, List.flatMap_map]
    have hfold := Folds.fold_flatMap Merged.join_associative first.2.singles
      (parts.map fun part => part.2.singles)
    have hmerge : InventorySnapshot.merge defaults
        ((first :: parts).flatMap fun part => part.2.snapshots) =
          Merged.snapshot defaults <$> Folds.fold Merged.join (first.2.singles.1,
            first.2.singles.2 ++
              (parts.map fun part => part.2.singles).flatMap fun p => p.1 :: p.2) := by
      rw [List.flatMap_cons, Part.snapshots, List.cons_append, merge_cons, hall]
      rfl
    rw [hmerge, hfold]
    simp only [merge_snapshots, List.mapM_cons, bind_assoc, bind_map_left, map_bind, pure_bind,
      merge_cons, Merged.single_snapshot]
    rw [List.mapM_map]
    refine bind_congr fun a => ?_
    exact (Folds.mapM_map_bind (fun part => Folds.fold Merged.join part.2.singles)
      (fun part => Merged.snapshot part.1) (fun part m => Merged.single_snapshot part.1 m) parts
      fun as => Merged.snapshot defaults <$> Folds.fold Merged.join (a, as)).symm

/-- Merging the merges of parts is merging the parts' snapshots. -/
theorem merge_flatMap (defaults : Defaults)
    {parts : List (Defaults × List (Entities.InventorySnapshot Datetime F))}
    (hparts : ∀ part ∈ parts, part.2 ≠ []) :
    InventorySnapshot.merge defaults (parts.flatMap Prod.snd) =
      parts.mapM (fun part => InventorySnapshot.merge part.1 part.2) >>=
        InventorySnapshot.merge defaults := by
  obtain ⟨firsts, rfl⟩ : ∃ firsts : List (Defaults × Part F),
      firsts.map (fun part => (part.1, part.2.snapshots)) = parts := by
    induction parts with
    | nil => exact ⟨[], rfl⟩
    | cons part parts ih =>
      obtain ⟨firsts, hfirsts⟩ := ih fun p hp => hparts p (List.mem_cons_of_mem _ hp)
      obtain ⟨s, ss, hss⟩ := List.exists_cons_of_ne_nil (hparts part List.mem_cons_self)
      refine ⟨(part.1, s, ss) :: firsts, ?_⟩
      rw [List.map_cons, hfirsts]
      exact congrArg (fun p => p :: parts) (Prod.ext rfl hss.symm)
  rw [List.flatMap_map, List.mapM_map]
  exact merge_parts defaults firsts

/-! ## What a merge holds -/

/-- What the loop has found of the snapshots it took in. -/
structure Merged.Summary (m : Merged F) (ss : List (Entities.InventorySnapshot Datetime F)) :
    Prop where
  devices : m.devices = Dict.byKey Entities.DeviceSnapshot.deviceId (ss.flatMap fun s => s.devices)
  captured : ∃ s ∈ ss, s.capturedAt = m.capturedAt
  latest : ∀ s ∈ ss, s.capturedAt.gt m.capturedAt = .ok false
  version : ss.getLast?.map (fun s => s.version) = some m.version
  source : m.source = (ss.filterMap fun s => s.source).getLast?

theorem summary_single (s : Entities.InventorySnapshot Datetime F) :
    (Merged.single s).Summary [s] where
  devices := by simp [Merged.single]
  captured := ⟨s, by simp, rfl⟩
  latest := by
    intro t ht
    rw [List.mem_singleton.1 ht]
    exact s.capturedAt.gt_self
  version := rfl
  source := by cases h : s.source <;> simp [Merged.single, h]

theorem addSnapshot_summary {m m' : Merged F} {ss : List (Entities.InventorySnapshot Datetime F)}
    {s : Entities.InventorySnapshot Datetime F} (hm : m.Summary ss) (h : m.addSnapshot s = .ok m') :
    m'.Summary (ss ++ [s]) := by
  unfold Merged.addSnapshot Merged.add at h
  cases hlatest : m.capturedAt.latest s.capturedAt with
  | error e =>
    rw [hlatest] at h
    cases h
  | ok t =>
    obtain ⟨hkind, hwhich, hm_le, hs_le⟩ := Datetime.latest_eq_ok hlatest
    have ht : t.aware = m.capturedAt.aware := by
      rcases hwhich with rfl | rfl
      · rfl
      · exact hkind
    rw [hlatest] at h
    cases h
    constructor
    · have hdevices := hm.devices
      simp only [hdevices, List.flatMap_append, List.flatMap_singleton]
      rw [← Dict.insertAll_empty, ← Dict.insertAll_empty, Dict.insertAll_append]
    · rcases hwhich with rfl | rfl
      · obtain ⟨u, hu, hcaptured⟩ := hm.captured
        exact ⟨u, List.mem_append_left _ hu, hcaptured⟩
      · exact ⟨s, by simp, rfl⟩
    · intro u hu
      rw [Datetime.gt_eq_false]
      rcases List.mem_append.1 hu with hu | hu
      · have hle := Datetime.gt_eq_false.1 (hm.latest u hu)
        exact ⟨hle.1.trans ht.symm, Int.le_trans hle.2 hm_le⟩
      · rw [List.mem_singleton.1 hu]
        exact ⟨hkind.trans ht.symm, hs_le⟩
    · simp
    · have hsource := hm.source
      cases h : s.source with
      | none => simp [hsource, h]
      | some text => simp [h]

theorem foldlM_summary {m m' : Merged F} {before ss : List (Entities.InventorySnapshot Datetime F)}
    (hm : m.Summary before) (h : ss.foldlM Merged.addSnapshot m = .ok m') :
    m'.Summary (before ++ ss) := by
  induction ss generalizing m before with
  | nil =>
    cases h
    rwa [List.append_nil]
  | cons s ss ih =>
    rw [List.foldlM_cons] at h
    cases hadd : m.addSnapshot s with
    | error e =>
      rw [hadd] at h
      cases h
    | ok next =>
      rw [hadd] at h
      have hrest := ih (addSnapshot_summary hm hadd) h
      rwa [List.append_assoc] at hrest

/-- A merge that does not raise is of a summary of the snapshots. -/
theorem merge_summary {defaults : Defaults} {ss : List (Entities.InventorySnapshot Datetime F)}
    {r : Entities.InventorySnapshot Datetime F} (hss : ss ≠ [])
    (h : InventorySnapshot.merge defaults ss = .ok r) :
    ∃ m : Merged F, m.Summary ss ∧ r = m.snapshot defaults := by
  obtain ⟨s, rest, rfl⟩ := List.exists_cons_of_ne_nil hss
  rw [InventorySnapshot.merge, List.foldlM_cons, Merged.start_addSnapshot] at h
  simp only [bind, Except.bind] at h
  cases hrest : rest.foldlM Merged.addSnapshot (Merged.single s) with
  | error e =>
    rw [hrest] at h
    cases h
  | ok m =>
    rw [hrest] at h
    cases h
    exact ⟨m, foldlM_summary (summary_single s) hrest, rfl⟩

theorem getLast?_flatMap {A B : Type} {f : A → List B} {as : List A} {b : B} :
    (as.flatMap f).getLast? = some b ↔
      ∃ before a after, as = before ++ a :: after ∧ (f a).getLast? = some b ∧
        ∀ c ∈ after, f c = [] := by
  induction as with
  | nil => simp
  | cons a as ih =>
    rw [List.flatMap_cons, List.getLast?_append, Option.or_eq_some_iff, ih]
    constructor
    · rintro (⟨before, c, after, rfl, hc, hafter⟩ | ⟨hnone, ha⟩)
      · exact ⟨a :: before, c, after, rfl, hc, hafter⟩
      · rw [List.getLast?_eq_none_iff, List.flatMap_eq_nil_iff] at hnone
        exact ⟨[], a, as, rfl, ha, hnone⟩
    · rintro ⟨before, c, after, hsplit, hc, hafter⟩
      cases before with
      | nil =>
        cases hsplit
        refine .inr ⟨?_, hc⟩
        rw [List.getLast?_eq_none_iff, List.flatMap_eq_nil_iff]
        exact hafter
      | cons b before =>
        cases hsplit
        exact .inl ⟨before, c, after, rfl, hc, hafter⟩

/-- A device is kept that is the last of its id in the last snapshot that has the id. -/
theorem mem_devices {m : Merged F} {ss : List (Entities.InventorySnapshot Datetime F)}
    (hm : m.Summary ss) (device : Entities.DeviceSnapshot Datetime F) :
    device ∈ m.devices.values ↔ ∃ before s after, ss = before ++ s :: after ∧
      (s.devices.filter fun e => e.deviceId = device.deviceId).getLast? = some device ∧
      ∀ t ∈ after, ∀ e ∈ t.devices, e.deviceId ≠ device.deviceId := by
  have hkept : device ∈ m.devices.values ↔
      (Dict.byKey Entities.DeviceSnapshot.deviceId
        (ss.flatMap fun s => s.devices)).get? device.deviceId = some device := by
    rw [hm.devices, Dict.mem_values]
    constructor
    · rintro ⟨k, hk⟩
      rwa [← (Dict.get?_byKey hk).2] at hk
    · intro h
      exact ⟨_, h⟩
  rw [hkept, Dict.get?_byKey_eq_getLast?, List.filter_flatMap, getLast?_flatMap]
  simp only [List.filter_eq_nil_iff, decide_eq_true_eq]

theorem mem_deviceIds {m : Merged F} {ss : List (Entities.InventorySnapshot Datetime F)}
    (hm : m.Summary ss) (deviceId : String) :
    deviceId ∈ m.devices.values.map Entities.DeviceSnapshot.deviceId ↔
      ∃ s ∈ ss, deviceId ∈ s.devices.map Entities.DeviceSnapshot.deviceId := by
  rw [hm.devices, List.mem_map]
  constructor
  · rintro ⟨device, hdevice, rfl⟩
    obtain ⟨k, hk⟩ := Dict.mem_values.1 hdevice
    obtain ⟨s, hs, hmem⟩ := List.mem_flatMap.1 (Dict.get?_byKey hk).1
    exact ⟨s, hs, List.mem_map_of_mem hmem⟩
  · rintro ⟨s, hs, hid⟩
    obtain ⟨device, hdevice, rfl⟩ := List.mem_map.1 hid
    have hmem : device ∈ ss.flatMap fun s => s.devices := List.mem_flatMap.2 ⟨s, hs, hdevice⟩
    obtain ⟨kept, hkept⟩ := Dict.get?_byKey_isSome Entities.DeviceSnapshot.deviceId hmem
    exact ⟨kept, Dict.mem_values.2 ⟨_, hkept⟩, (Dict.get?_byKey hkept).2⟩

/-! ## Where a merge raises -/

theorem foldlM_error (m : Merged F) (ss : List (Entities.InventorySnapshot Datetime F)) :
    (∃ e, ss.foldlM Merged.addSnapshot m = .error e) ↔
      ∃ s ∈ ss, s.capturedAt.aware ≠ m.capturedAt.aware := by
  induction ss generalizing m with
  | nil => simp [pure, Except.pure]
  | cons s ss ih =>
    rw [List.foldlM_cons]
    by_cases hkind : s.capturedAt.aware = m.capturedAt.aware
    · have hadd : ∃ next, m.addSnapshot s = .ok next ∧
          next.capturedAt.aware = m.capturedAt.aware := by
        simp only [Merged.addSnapshot, Merged.add, Datetime.latest_ok hkind, Except.map]
        refine ⟨_, rfl, ?_⟩
        split
        · exact hkind
        · rfl
      obtain ⟨next, hnext, hsame⟩ := hadd
      rw [hnext]
      simp only [bind, Except.bind, ih, hsame, List.mem_cons]
      constructor
      · rintro ⟨t, ht, hother⟩
        exact ⟨t, .inr ht, hother⟩
      · rintro ⟨t, rfl | ht, hother⟩
        · exact absurd hkind hother
        · exact ⟨t, ht, hother⟩
    · have hadd : m.addSnapshot s = .error .typeError := by
        simp [Merged.addSnapshot, Merged.add, Datetime.latest_error hkind, Except.map]
      rw [hadd]
      exact ⟨fun _ => ⟨s, List.mem_cons_self, hkind⟩, fun _ => ⟨_, rfl⟩⟩

/-- Naive and aware capture times cannot be compared. -/
theorem merge_error (defaults : Defaults) (ss : List (Entities.InventorySnapshot Datetime F)) :
    InventorySnapshot.merge defaults ss = .error .typeError ↔
      ∃ s ∈ ss, ∃ t ∈ ss, s.capturedAt.aware ≠ t.capturedAt.aware := by
  cases ss with
  | nil => simp [InventorySnapshot.merge]
  | cons s ss =>
    have hfold := foldlM_error (Merged.start s) (s :: ss)
    have hraise : InventorySnapshot.merge defaults (s :: ss) = .error .typeError ↔
        ∃ e, (s :: ss).foldlM Merged.addSnapshot (Merged.start s) = .error e := by
      rw [InventorySnapshot.merge]
      cases (s :: ss).foldlM Merged.addSnapshot (Merged.start s) with
      | error e =>
        cases e
        exact ⟨fun _ => ⟨_, rfl⟩, fun _ => rfl⟩
      | ok m => simp [Except.map]
    rw [hraise, hfold]
    constructor
    · rintro ⟨t, ht, hother⟩
      exact ⟨t, ht, s, List.mem_cons_self, hother⟩
    · rintro ⟨t, ht, u, hu, hother⟩
      by_cases hkind : t.capturedAt.aware = s.capturedAt.aware
      · exact ⟨u, hu, fun h => hother (hkind.trans h.symm)⟩
      · exact ⟨t, ht, hkind⟩

/-- However a list is cut into parts, merging the merges of the parts is merging the list; and
what a merge that does not raise holds of the list. -/
theorem merge_lawful (defaults : Defaults) {ss : List (Entities.InventorySnapshot Datetime F)}
    (hss : ss ≠ []) :
    (∀ parts : List (Defaults × List (Entities.InventorySnapshot Datetime F)),
      (∀ part ∈ parts, part.2 ≠ []) → parts.flatMap Prod.snd = ss →
      InventorySnapshot.merge defaults ss =
        parts.mapM (fun part => InventorySnapshot.merge part.1 part.2) >>=
          InventorySnapshot.merge defaults) ∧
    (InventorySnapshot.merge defaults ss = .error .typeError ↔
      ∃ s ∈ ss, ∃ t ∈ ss, s.capturedAt.aware ≠ t.capturedAt.aware) ∧
    ∀ r, InventorySnapshot.merge defaults ss = .ok r →
      (r.devices.map Entities.DeviceSnapshot.deviceId).Nodup ∧
      (∀ deviceId, deviceId ∈ r.devices.map Entities.DeviceSnapshot.deviceId ↔
        ∃ s ∈ ss, deviceId ∈ s.devices.map Entities.DeviceSnapshot.deviceId) ∧
      (∀ device, device ∈ r.devices ↔ ∃ before s after, ss = before ++ s :: after ∧
        (s.devices.filter fun e => e.deviceId = device.deviceId).getLast? = some device ∧
        ∀ t ∈ after, ∀ e ∈ t.devices, e.deviceId ≠ device.deviceId) ∧
      (∃ s ∈ ss, s.capturedAt = r.capturedAt) ∧
      (∀ s ∈ ss, s.capturedAt.gt r.capturedAt = .ok false) ∧
      ss.getLast?.map Entities.InventorySnapshot.version = some r.version ∧
      r.source = (ss.filterMap Entities.InventorySnapshot.source).getLast? := by
  refine ⟨?_, merge_error defaults ss, ?_⟩
  · intro parts hparts hflat
    rw [← hflat]
    exact merge_flatMap defaults hparts
  · intro r hr
    obtain ⟨m, hm, rfl⟩ := merge_summary hss hr
    have hnodup : (m.devices.values.map Entities.DeviceSnapshot.deviceId).Nodup := by
      rw [hm.devices]
      exact Dict.nodup_values_byKey _ _
    exact ⟨hnodup, mem_deviceIds hm, mem_devices hm, hm.captured, hm.latest, hm.version, hm.source⟩

def nightly (hour : Nat) (deviceIds : List String) : Entities.InventorySnapshot Datetime Unit :=
  let capturedAt : Datetime :=
    { wall := { date := ⟨2026, 5, 1, Clock.year_2026, Clock.month_may, Clock.first_of_may⟩
                micros := hour % 24 * 3600000000
                micros_lt := by unfold Clock.microsPerDay; omega }
      offset := some 0 }
  { devices := deviceIds.map fun deviceId => { deviceId, name := deviceId, capturedAt }
    snapshotId := hour
    capturedAt }

/-- Two nights, of which the later one was given first. -/
def nights : List (Entities.InventorySnapshot Datetime Unit) :=
  [nightly 2 ["core", "edge"], nightly 1 ["core"]]

/-- What a merge that makes new ids and times up starts from. -/
def midnight (snapshotId : Nat) : Defaults := ⟨snapshotId, (nightly 0 []).capturedAt⟩

theorem merge_lawful_nightly :
    InventorySnapshot.merge (midnight 7) nights =
        [(midnight 8, [nightly 2 ["core", "edge"]]), (midnight 9, [nightly 1 ["core"]])].mapM
          (fun part => InventorySnapshot.merge part.1 part.2) >>=
        InventorySnapshot.merge (midnight 7) ∧
      InventorySnapshot.merge (midnight 7) nights ≠ .error .typeError ∧
      ∃ r, InventorySnapshot.merge (midnight 7) nights = .ok r ∧
        (r.devices.map Entities.DeviceSnapshot.deviceId).Nodup ∧
        (∀ deviceId, deviceId ∈ r.devices.map Entities.DeviceSnapshot.deviceId ↔
          deviceId = "core" ∨ deviceId = "edge") ∧
        (∀ device ∈ (nightly 1 ["core"]).devices, device ∈ r.devices) ∧
        r.capturedAt = (nightly 2 []).capturedAt ∧ r.version = Entities.schemaVersion ∧
        r.source = none := by
  have hnights : nights ≠ [] := List.cons_ne_nil _ _
  obtain ⟨hcuts, herror, hmerged⟩ := merge_lawful (midnight 7) hnights
  have hkept : InventorySnapshot.merge (midnight 7) nights ≠ .error .typeError := by
    rw [Ne, herror]
    simp [nights, nightly, Datetime.aware]
  refine ⟨hcuts _ (by simp) rfl, hkept, ?_⟩
  cases hmerge : InventorySnapshot.merge (midnight 7) nights with
  | error e =>
    cases e
    exact absurd hmerge hkept
  | ok r =>
    obtain ⟨hnodup, hids, hdevices, hcaptured, hlatest, hversion, hsource⟩ := hmerged r hmerge
    refine ⟨r, rfl, hnodup, fun deviceId => ?_, fun device hdevice => ?_, ?_, ?_, ?_⟩
    · rw [hids]
      simp only [nights, nightly, List.map_cons, List.map_nil, List.mem_cons, List.not_mem_nil,
        or_false, exists_eq_or_imp, exists_eq_left]
      tauto
    · rw [hdevices]
      refine ⟨[nightly 2 ["core", "edge"]], nightly 1 ["core"], [], rfl, ?_, by simp⟩
      rw [List.mem_singleton.1 hdevice]
      rfl
    · obtain ⟨s, hs, hs'⟩ := hcaptured
      rcases List.mem_cons.1 hs with rfl | hs
      · exact hs'.symm
      · rw [List.mem_singleton.1 hs] at hs'
        have hgt := hlatest (nightly 2 ["core", "edge"]) List.mem_cons_self
        rw [← hs'] at hgt
        exact absurd hgt (by decide)
    · exact (Option.some.inj hversion).symm
    · exact hsource

end Merge
end Snapshot
end NetOps
