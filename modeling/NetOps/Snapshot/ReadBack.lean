import NetOps.Snapshot.Models

/-!
# Snapshot.ReadBack

Validation undoes a dump, also after the datetimes and ids in it became texts
(`InventorySnapshotModel.validate_dump`), and the dict of an entity is the dump of a model that the
mapper makes the entity of again (`asdict_eq_dump`, `toEntity_ofEntity`).
-/

namespace NetOps
namespace Snapshot
namespace Models

open Clock Entities
open Discovery (UUID textOfUuid uuidOfText uuidOfText_textOfUuid)
open Json (Scalar Doc)

variable {F α : Type} (lax : Lax F) {enc : Atom F → Atom F}

/-- What may happen to a leaf between a dump and its validation: a datetime or an id becomes a
text of it. -/
structure Keeps (enc : Atom F → Atom F) : Prop where
  json : ∀ a, enc (.json a) = .json a
  datetime : ∀ t, enc (.datetime t) = .datetime t ∨
    ∃ form : Form, separates form.separator = true ∧
      enc (.datetime t) = .json (.str (String.ofList (t.text form)))
  uuid : ∀ id, enc (.uuid id) = .uuid id ∨ enc (.uuid id) = .json (.str (textOfUuid id))

/-- A value, written and encoded, is no `None` and read as the value. -/
def Reads (enc : Atom F → Atom F) (write : α → Value F) (read : Value F → Option α) (a : α) :
    Prop :=
  (write a).map enc ≠ null ∧ read ((write a).map enc) = some a

/-! ## Fields -/

section fields

variable (henc : Keeps enc)
include henc

theorem reads_str (s : String) : Reads enc str lax.readStr s := by
  simp only [Reads, str, null, Doc.map, henc.json]
  exact ⟨nofun, rfl⟩

theorem reads_int (n : Int) : Reads enc int lax.readInt n := by
  simp only [Reads, int, null, Doc.map, henc.json]
  exact ⟨nofun, rfl⟩

theorem reads_float (x : F) : Reads enc float lax.readFloat x := by
  simp only [Reads, float, null, Doc.map, henc.json]
  exact ⟨nofun, rfl⟩

theorem reads_bool (b : Bool) : Reads enc bool lax.readBool b := by
  simp only [Reads, bool, null, Doc.map, henc.json]
  exact ⟨nofun, rfl⟩

theorem reads_datetime (t : Stamp) : Reads enc datetime lax.readDatetime t := by
  simp only [Reads, datetime, null, Doc.map]
  rcases henc.datetime t with h | ⟨form, hform, h⟩
  · rw [h]
    exact ⟨nofun, rfl⟩
  · rw [h]
    refine ⟨nofun, ?_⟩
    rw [Lax.readDatetime, String.toList_ofList, Stamp.ofText_text hform, Option.some_or]

theorem reads_uuid {id : UUID} (hid : id < 16 ^ 32) : Reads enc uuid lax.readUuid id := by
  simp only [Reads, uuid, null, Doc.map]
  rcases henc.uuid id with h | h
  · rw [h]
    exact ⟨nofun, rfl⟩
  · rw [h]
    refine ⟨nofun, ?_⟩
    rw [Lax.readUuid, uuidOfText_textOfUuid hid, Option.some_or]

theorem reads_optional {write : α → Value F} {read : Value F → Option α}
    (h : ∀ a, Reads enc write read a) (a : Option α) :
    Lax.readOptional read ((optional write a).map enc) = some a := by
  cases a with
  | none =>
    simp only [optional, null, Doc.map, henc.json]
    rfl
  | some a =>
    obtain ⟨hnull, hread⟩ := h a
    rw [optional]
    unfold Lax.readOptional
    split
    · rename_i heq
      exact absurd heq hnull
    · rw [hread, Option.map_some]

omit henc

theorem mapM_read {write : α → Value F} {read : Value F → Option α} {items : List α}
    (h : ∀ a ∈ items, Reads enc write read a) :
    (items.map fun a => (write a).map enc).mapM read = some items := by
  induction items with
  | nil => rfl
  | cons a items ih =>
    have hitems := ih fun b hb => h b (List.mem_cons_of_mem a hb)
    have ha := (h a List.mem_cons_self).2
    rw [List.map_cons, List.mapM_cons, ha, hitems]
    rfl

theorem reads_tuple {write : α → Value F} {read : Value F → Option α} {items : List α}
    (h : ∀ a ∈ items, Reads enc write read a) :
    lax.readTuple read ((tuple write items).map enc) = some items := by
  have hmap : (tuple write items).map enc = .arr (items.map fun a => (write a).map enc) := by
    rw [tuple, Doc.map, Doc.mapItems_eq, List.map_map]
    rfl
  rw [hmap, Lax.readTuple, mapM_read h]

theorem readMembers_obj {keys : List String} {members : Members F}
    (h : members.map (·.1) = keys) : lax.readMembers keys (.obj members) = some members := by
  have hall : members.all (fun member => keys.contains member.1) = true := by
    rw [List.all_eq_true]
    intro member hmember
    rw [List.contains_iff_mem, ← h]
    exact List.mem_map_of_mem hmember
  simp only [Lax.readMembers, Option.filter_some, hall, if_true]

/-- Of members with different keys, each is found under its key. -/
theorem get?_of_mem {members : Members F} (hkeys : (members.map (·.1)).Nodup) {key : String}
    {v : Value F} (h : (key, v) ∈ members) : Doc.get? key members = some v := by
  induction members with
  | nil => cases h
  | cons member members ih =>
    obtain ⟨k, w⟩ := member
    simp only [List.map_cons, List.nodup_cons] at hkeys
    rcases List.mem_cons.1 h with heq | hmem
    · cases heq
      have hnone : ∀ ms : Members F, key ∉ ms.map (·.1) → Doc.get? key ms = none := by
        intro ms hms
        induction ms with
        | nil => rfl
        | cons m ms ihms =>
          simp only [List.map_cons, List.mem_cons, not_or] at hms
          rw [Doc.get?, ihms hms.2, Option.none_or, if_neg (Ne.symm hms.1)]
      rw [Doc.get?, hnone members hkeys.1, Option.none_or, if_pos rfl]
    · rw [Doc.get?, ih hkeys.2 hmem, Option.some_or]

section lookup

variable {β : Type} {members : Members F} {read : Value F → Option α} {key : String} {v : Value F}
  {a : α} {k : α → Option β} {r : Option β}

theorem bind_required (i : Nat) (hkeys : (members.map (·.1)).Nodup)
    (hat : members[i]? = some (key, v)) (hread : read v = some a) (h : k a = r) :
    (required read key members >>= k) = r := by
  rw [required, get?_of_mem hkeys (List.mem_of_getElem? hat), Option.bind_some, hread]
  exact h

theorem bind_defaulted {default : α} (i : Nat) (hkeys : (members.map (·.1)).Nodup)
    (hat : members[i]? = some (key, v)) (hread : read v = some a) (h : k a = r) :
    (defaulted read key default members >>= k) = r := by
  rw [defaulted, get?_of_mem hkeys (List.mem_of_getElem? hat)]
  simp only [hread]
  exact h

end lookup

end fields

/-! ## Models -/

theorem dump_ne_null {members : Members F} : (Doc.obj members).map enc ≠ null := by
  rw [Doc.map]
  exact nofun

section models

variable (henc : Keeps enc)
include henc

theorem read_str (s : String) : lax.readStr ((str s).map enc) = some s := (reads_str lax henc s).2

theorem read_int (n : Int) : lax.readInt ((int n).map enc) = some n := (reads_int lax henc n).2

theorem read_datetime (t : Stamp) : lax.readDatetime ((datetime t).map enc) = some t :=
  (reads_datetime lax henc t).2

theorem read_strs (items : List String) :
    lax.readTuple lax.readStr ((tuple str items).map enc) = some items :=
  reads_tuple lax fun s _ => reads_str lax henc s

theorem read_optionalStr (s : Option String) :
    Lax.readOptional lax.readStr ((optional str s).map enc) = some s :=
  reads_optional henc (reads_str lax henc) s

theorem read_optionalInt (n : Option Int) :
    Lax.readOptional lax.readInt ((optional int n).map enc) = some n :=
  reads_optional henc (reads_int lax henc) n

theorem read_optionalDatetime (t : Option Stamp) :
    Lax.readOptional lax.readDatetime ((optional datetime t).map enc) = some t :=
  reads_optional henc (reads_datetime lax henc) t

theorem InterfaceSnapshotModel.reads (m : InterfaceSnapshotModel) :
    Reads enc dump (validate lax) m := by
  refine ⟨dump_ne_null, ?_⟩
  simp [validate, dump, keys, Doc.map, Doc.mapMembers, Doc.get?, readMembers_obj, required,
    defaulted, read_str lax henc, read_datetime lax henc, read_optionalStr lax henc,
    read_optionalInt lax henc]

theorem VLANSnapshotModel.reads (m : VLANSnapshotModel) : Reads enc dump (validate lax) m := by
  refine ⟨dump_ne_null, ?_⟩
  simp [validate, dump, keys, Doc.map, Doc.mapMembers, Doc.get?, readMembers_obj, required,
    defaulted, read_str lax henc, read_int lax henc, read_datetime lax henc,
    read_optionalStr lax henc]

theorem MACTableSnapshotModel.reads (m : MACTableSnapshotModel) :
    Reads enc dump (validate lax) m := by
  refine ⟨dump_ne_null, ?_⟩
  simp [validate, dump, keys, Doc.map, Doc.mapMembers, Doc.get?, readMembers_obj, required,
    defaulted, read_str lax henc, read_datetime lax henc, read_optionalInt lax henc,
    read_optionalDatetime lax henc]

theorem NeighborSnapshotModel.reads (m : NeighborSnapshotModel) :
    Reads enc dump (validate lax) m := by
  refine ⟨dump_ne_null, ?_⟩
  simp [validate, dump, keys, Doc.map, Doc.mapMembers, Doc.get?, readMembers_obj, required,
    defaulted, read_str lax henc, read_datetime lax henc, read_optionalStr lax henc]

theorem PowerSnapshotModel.reads (m : PowerSnapshotModel F) : Reads enc dump (validate lax) m := by
  have hfloat := reads_optional henc (reads_float lax henc)
  have hbool := reads_optional henc (reads_bool lax henc)
  refine ⟨dump_ne_null, ?_⟩
  simp [validate, dump, keys, Doc.map, Doc.mapMembers, Doc.get?, readMembers_obj, required,
    defaulted, read_str lax henc, read_datetime lax henc, read_optionalStr lax henc, hfloat, hbool]

theorem DeviceSnapshotModel.reads (m : DeviceSnapshotModel F) :
    Reads enc dump (validate lax) m := by
  have hinterfaces := reads_tuple lax fun i (_ : i ∈ m.interfaces) => i.reads lax henc
  have hvlans := reads_tuple lax fun v (_ : v ∈ m.vlans) => v.reads lax henc
  have hmacTable := reads_tuple lax fun e (_ : e ∈ m.macTable) => e.reads lax henc
  have hneighbors := reads_tuple lax fun n (_ : n ∈ m.neighbors) => n.reads lax henc
  have hpower := reads_optional henc (fun p => p.reads lax henc) m.power
  have hstr := read_optionalStr lax henc
  have hkeys : keys.Nodup := by decide
  refine ⟨dump_ne_null, ?_⟩
  simp only [validate, dump, Doc.map, Doc.mapMembers]
  rw [readMembers_obj lax (by rfl), Option.bind_eq_bind, Option.bind_some]
  refine bind_required 0 hkeys rfl (read_str lax henc m.deviceId) ?_
  refine bind_required 1 hkeys rfl (read_str lax henc m.name) ?_
  refine bind_required 2 hkeys rfl (read_datetime lax henc m.capturedAt) ?_
  refine bind_defaulted 3 hkeys rfl (read_str lax henc m.version) ?_
  refine bind_defaulted 4 hkeys rfl (hstr m.manufacturer) ?_
  refine bind_defaulted 5 hkeys rfl (hstr m.model) ?_
  refine bind_defaulted 6 hkeys rfl (hstr m.serialNumber) ?_
  refine bind_defaulted 7 hkeys rfl (hstr m.productId) ?_
  refine bind_defaulted 8 hkeys rfl (hstr m.managementIp) ?_
  refine bind_defaulted 9 hkeys rfl (hstr m.baseMac) ?_
  refine bind_defaulted 10 hkeys rfl (hstr m.softwareVersion) ?_
  refine bind_defaulted 11 hkeys rfl (hstr m.uptime) ?_
  refine bind_defaulted 12 hkeys rfl (hstr m.hardwareRevision) ?_
  refine bind_defaulted 13 hkeys rfl (hstr m.platform) ?_
  refine bind_defaulted 14 hkeys rfl (read_strs lax henc m.stackMembers) ?_
  refine bind_defaulted 15 hkeys rfl hinterfaces ?_
  refine bind_defaulted 16 hkeys rfl hvlans ?_
  refine bind_defaulted 17 hkeys rfl hmacTable ?_
  refine bind_defaulted 18 hkeys rfl hneighbors ?_
  refine bind_defaulted 19 hkeys rfl hpower ?_
  rfl

/-- Validation undoes a dump. -/
theorem InventorySnapshotModel.validate_dump (fresh : UUID) {m : InventorySnapshotModel F}
    (hid : m.snapshotId < 16 ^ 32) : validate lax fresh (m.dump.map enc) = some m := by
  have hdevices := reads_tuple lax fun d (_ : d ∈ m.devices) => d.reads lax henc
  have hid := (reads_uuid lax henc hid).2
  simp [validate, dump, keys, Doc.map, Doc.mapMembers, Doc.get?, readMembers_obj, required,
    defaulted, read_str lax henc, read_datetime lax henc, read_optionalStr lax henc, hdevices, hid]

end models

/-! ## Entities -/

/-- The model with the fields of an entity. -/
def InterfaceSnapshotModel.ofEntity (s : Entities.InterfaceSnapshot Stamp) :
    InterfaceSnapshotModel :=
  { deviceId := s.deviceId, name := s.name, capturedAt := s.capturedAt, version := s.version,
    adminStatus := s.adminStatus, operStatus := s.operStatus, description := s.description,
    macAddress := s.macAddress, speedMbps := s.speedMbps, poeStatus := s.poeStatus }

def VLANSnapshotModel.ofEntity (s : Entities.VLANSnapshot Stamp) : VLANSnapshotModel :=
  { vlanId := s.vlanId, name := s.name, capturedAt := s.capturedAt, version := s.version,
    deviceId := s.deviceId, status := s.status }

def MACTableSnapshotModel.ofEntity (s : Entities.MACTableSnapshot Stamp) : MACTableSnapshotModel :=
  { macAddress := s.macAddress, deviceId := s.deviceId, interfaceName := s.interfaceName,
    capturedAt := s.capturedAt, version := s.version, vlanId := s.vlanId, lastSeen := s.lastSeen }

def NeighborSnapshotModel.ofEntity (s : Entities.NeighborSnapshot Stamp) : NeighborSnapshotModel :=
  { localDeviceId := s.localDeviceId, localInterface := s.localInterface,
    remoteDeviceId := s.remoteDeviceId, remoteInterface := s.remoteInterface,
    protocol := s.protocol, capturedAt := s.capturedAt, version := s.version }

def PowerSnapshotModel.ofEntity (s : Entities.PowerSnapshot Stamp F) : PowerSnapshotModel F :=
  { deviceId := s.deviceId, source := s.source, capturedAt := s.capturedAt, version := s.version,
    status := s.status, availableWatts := s.availableWatts, consumedWatts := s.consumedWatts,
    poeEnabled := s.poeEnabled }

def DeviceSnapshotModel.ofEntity (s : Entities.DeviceSnapshot Stamp F) : DeviceSnapshotModel F :=
  { deviceId := s.deviceId, name := s.name, capturedAt := s.capturedAt, version := s.version,
    manufacturer := s.manufacturer, model := s.model, serialNumber := s.serialNumber,
    productId := s.productId, managementIp := s.managementIp, baseMac := s.baseMac,
    softwareVersion := s.softwareVersion, uptime := s.uptime,
    hardwareRevision := s.hardwareRevision, platform := s.platform,
    stackMembers := s.stackMembers,
    interfaces := s.interfaces.map InterfaceSnapshotModel.ofEntity,
    vlans := s.vlans.map VLANSnapshotModel.ofEntity,
    macTable := s.macTable.map MACTableSnapshotModel.ofEntity,
    neighbors := s.neighbors.map NeighborSnapshotModel.ofEntity,
    power := s.power.map PowerSnapshotModel.ofEntity }

def InventorySnapshotModel.ofEntity (s : Entities.InventorySnapshot Stamp F) :
    InventorySnapshotModel F :=
  { devices := s.devices.map DeviceSnapshotModel.ofEntity, snapshotId := s.snapshotId,
    capturedAt := s.capturedAt, version := s.version, source := s.source }

theorem tuple_map {E : Type} (write : α → Value F) (f : E → α) (items : List E) :
    tuple write (items.map f) = tuple (fun s => write (f s)) items := by
  rw [tuple, tuple, List.map_map]
  rfl

theorem optional_map {E : Type} (write : α → Value F) (f : E → α) (s : Option E) :
    optional write (s.map f) = optional (fun s => write (f s)) s := by
  cases s <;> rfl

/-- The dict of an entity is the dump of its model. -/
theorem DeviceSnapshot.asdict_eq_dump (s : Entities.DeviceSnapshot Stamp F) :
    DeviceSnapshot.asdict s = (DeviceSnapshotModel.ofEntity s).dump := by
  simp only [DeviceSnapshotModel.ofEntity, DeviceSnapshotModel.dump, tuple_map, optional_map]
  rfl

theorem InventorySnapshot.asdict_eq_dump (s : Entities.InventorySnapshot Stamp F) :
    InventorySnapshot.asdict s = (InventorySnapshotModel.ofEntity s).dump := by
  have hdevices : DeviceSnapshot.asdict = fun d : Entities.DeviceSnapshot Stamp F =>
      (DeviceSnapshotModel.ofEntity d).dump := funext DeviceSnapshot.asdict_eq_dump
  simp only [InventorySnapshotModel.ofEntity, InventorySnapshotModel.dump, tuple_map,
    InventorySnapshot.asdict, hdevices]

namespace SnapshotMapper

theorem map_map_id {E : Type} {f : E → α} {g : α → E} (h : ∀ s, g (f s) = s) (items : List E) :
    (items.map f).map g = items := by
  rw [List.map_map]
  exact List.map_id'' h items

theorem deviceEntity_ofEntity (s : Entities.DeviceSnapshot Stamp F) :
    deviceEntity (DeviceSnapshotModel.ofEntity s) = s := by
  have hpower : (s.power.map PowerSnapshotModel.ofEntity).map powerEntity = s.power := by
    cases s.power <;> rfl
  simp only [DeviceSnapshotModel.ofEntity, deviceEntity, hpower,
    map_map_id (fun i => (rfl : interfaceEntity (InterfaceSnapshotModel.ofEntity i) = i)),
    map_map_id (fun v => (rfl : vlanEntity (VLANSnapshotModel.ofEntity v) = v)),
    map_map_id (fun e => (rfl : macTableEntity (MACTableSnapshotModel.ofEntity e) = e)),
    map_map_id (fun n => (rfl : neighborEntity (NeighborSnapshotModel.ofEntity n) = n))]

/-- The mapper makes the entity of a model again. -/
theorem toEntity_ofEntity (s : Entities.InventorySnapshot Stamp F) :
    toEntity (InventorySnapshotModel.ofEntity s) = s := by
  simp only [InventorySnapshotModel.ofEntity, toEntity, map_map_id deviceEntity_ofEntity]

end SnapshotMapper

end Models
end Snapshot
end NetOps
