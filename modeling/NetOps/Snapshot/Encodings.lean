import NetOps.Json.RoundTrip
import NetOps.Snapshot.ReadBack

/-!
# Snapshot.Encodings

The encodings of a live inventory snapshot: the model, its JSON text (`snapshot/serializer.py`) and
the payload of a stored snapshot (`add_live_snapshot`, read back by the comparison service).

The model is undone by the mapper for every snapshot. The two JSON texts are undone when no integer
of the snapshot has more digits than CPython writes and reads (`encodings_kept`).
-/

namespace NetOps
namespace Snapshot
namespace Encodings

open Clock Entities Models
open Discovery (UUID textOfUuid uuidOfText uuidOfText_textOfUuid)
open Json (Scalar Doc)

/-! ## Floats -/

/-- A way to write floats that `read` undoes. -/
structure FloatText {F : Type} (read : List Char → Option F) where
  text : F → List Char
  chars : ∀ x, ∀ c ∈ text x, Json.numberChar c = true
  marked : ∀ x, (text x).any Json.floatMark = true
  read_text : ∀ x, read (text x) = some x

/-- The finite floats, with the texts of `repr` and of `pydantic`. -/
structure Floats (F : Type) where
  read : List Char → Option F
  repr : FloatText read
  compact : FloatText read

variable {F : Type} (floats : Floats F) (lax : Lax F) (fresh : UUID)

/-- How many digits CPython converts between an integer and its text. -/
def maxDigits : Nat := 4300

def numbers : Json.Numbers F where
  maxDigits := maxDigits
  float := floats.read

/-! ## JSON texts -/

theorem ascii_printable (c : Char) (h : (32 ≤ c.toNat && c.toNat < 127) = true) : 32 ≤ c.toNat := by
  rw [Bool.and_eq_true, decide_eq_true_eq] at h
  exact h.1

/-- The style of `json.dumps`: ASCII only, a blank after every separator. -/
def python : Json.Style (numbers floats) where
  blanks := [' ']
  plain c := 32 ≤ c.toNat && c.toNat < 127
  float := floats.repr.text
  blanks_blank := List.all_eq_true.1 (by decide)
  plain_printable := ascii_printable
  float_chars := floats.repr.chars
  float_marked := floats.repr.marked
  float_read := floats.repr.read_text

/-- The style of `model_dump_json`: only what has to be is escaped, and nothing is blank. -/
def compact : Json.Style (numbers floats) where
  blanks := []
  plain c := 32 ≤ c.toNat
  float := floats.compact.text
  blanks_blank := Json.blank_nil
  plain_printable := by
    intro c h
    exact of_decide_eq_true h
  float_chars := floats.compact.chars
  float_marked := floats.compact.marked
  float_read := floats.compact.read_text

/-- `json.dumps`, which raises for an integer of too many digits. -/
def dumps (t : Doc (Scalar F)) : Option (List Char) :=
  if t.all (·.within maxDigits) then some ((python floats).write t) else none

def loads (text : List Char) : Option (Doc (Scalar F)) := Json.read (numbers floats) text

/-- A leaf in JSON: datetimes and ids become texts. -/
def jsonLeaf (form : Form) : Atom F → Scalar F
  | .json a => a
  | .datetime t => .str (String.ofList (t.text form))
  | .uuid id => .str (textOfUuid id)

namespace SnapshotSerializer

def serialize (m : InventorySnapshotModel F) : ByteArray :=
  (String.ofList ((compact floats).write (m.dump.map (jsonLeaf .iso)))).toUTF8

def deserialize (payload : ByteArray) : Option (InventorySnapshotModel F) := do
  let text ← String.fromUTF8? payload
  let t ← Json.read (numbers floats) text.toList
  InventorySnapshotModel.validate lax fresh (t.map .json)

end SnapshotSerializer

/-! ## Stored snapshots -/

/-- `_json_safe`: `json.loads(json.dumps(value, default=str))`. -/
def jsonSafe (v : Value F) : Option (Doc (Scalar F)) :=
  (dumps floats (v.map (jsonLeaf .spaced))).bind (loads floats)

/-- The text in the JSON column that `add_live_snapshot` fills. -/
def storedPayload (s : Entities.InventorySnapshot Stamp F) : Option (List Char) :=
  (jsonSafe floats (InventorySnapshot.asdict s)).bind (dumps floats)

/-- The entity `SnapshotComparisonService.compare` makes of the column. -/
def observedInventory (payload : List Char) : Option (Entities.InventorySnapshot Stamp F) := do
  let t ← loads floats payload
  let m ← InventorySnapshotModel.validate lax fresh (t.map .json)
  return SnapshotMapper.toEntity m

/-- A snapshot stored and read back. -/
def storedAndRead (s : Entities.InventorySnapshot Stamp F) :
    Option (Entities.InventorySnapshot Stamp F) :=
  (storedPayload floats s).bind (observedInventory floats lax fresh)

/-! ## Numbers of digits -/

/-- No integer of a snapshot has more digits than CPython converts. -/
structure Short (s : Entities.InventorySnapshot Stamp F) : Prop where
  interfaces : ∀ d ∈ s.devices, ∀ i ∈ d.interfaces, ∀ n ∈ i.speedMbps, n.natAbs < 10 ^ maxDigits
  vlans : ∀ d ∈ s.devices, ∀ v ∈ d.vlans, v.vlanId.natAbs < 10 ^ maxDigits
  macTable : ∀ d ∈ s.devices, ∀ e ∈ d.macTable, ∀ n ∈ e.vlanId, n.natAbs < 10 ^ maxDigits

/-- The integers of a value can be written. -/
def Fits (form : Form) (v : Value F) : Prop :=
  (v.map (jsonLeaf form)).all (·.within maxDigits) = true

section fits

variable {form : Form}

theorem fits_str (s : String) : Fits (F := F) form (str s) := rfl

theorem fits_datetime (t : Stamp) : Fits (F := F) form (datetime t) := rfl

theorem fits_uuid (id : UUID) : Fits (F := F) form (uuid id) := rfl

theorem fits_float (x : F) : Fits form (float x) := rfl

theorem fits_bool (b : Bool) : Fits (F := F) form (bool b) := rfl

theorem fits_int {n : Int} : Fits (F := F) form (int n) ↔ n.natAbs < 10 ^ maxDigits := by
  have hlength := Nat.length_toDigits_le_iff (n := n.natAbs) (k := maxDigits)
    (show 1 < 10 by decide) (by decide)
  rw [← hlength]
  exact decide_eq_true_iff

theorem fits_optional {α : Type} {write : α → Value F} {a : Option α} :
    Fits form (optional write a) ↔ ∀ b ∈ a, Fits form (write b) := by
  cases a with
  | none =>
    refine ⟨fun _ b hb => ?_, fun _ => rfl⟩
    cases hb
  | some a => simp [Models.optional]

theorem fits_tuple {α : Type} {write : α → Value F} {items : List α} :
    Fits form (tuple write items) ↔ ∀ a ∈ items, Fits form (write a) := by
  simp only [Fits, tuple, Doc.map, Doc.all, Doc.mapItems_eq, Doc.allItems_eq, List.all_map,
    List.all_eq_true]
  rfl

theorem fits_obj {members : Members F} :
    Fits form (.obj members) ↔ ∀ member ∈ members, Fits form member.2 := by
  induction members with
  | nil =>
    refine ⟨fun _ member h => ?_, fun _ => rfl⟩
    cases h
  | cons member members ih =>
    simp only [Fits, Doc.map, Doc.all] at ih
    simp only [Fits, Doc.map, Doc.all, Doc.mapMembers, Doc.allMembers, Bool.and_eq_true, ih,
      List.forall_mem_cons]

theorem fits_interface {s : Entities.InterfaceSnapshot Stamp} :
    Fits (F := F) form (InterfaceSnapshot.asdict s) ↔
      ∀ n ∈ s.speedMbps, n.natAbs < 10 ^ maxDigits := by
  simp [InterfaceSnapshot.asdict, fits_obj, fits_str, fits_datetime, fits_optional, fits_int]

theorem fits_vlan {s : Entities.VLANSnapshot Stamp} :
    Fits (F := F) form (VLANSnapshot.asdict s) ↔ s.vlanId.natAbs < 10 ^ maxDigits := by
  simp [VLANSnapshot.asdict, fits_obj, fits_str, fits_datetime, fits_optional, fits_int]

theorem fits_macTable {s : Entities.MACTableSnapshot Stamp} :
    Fits (F := F) form (MACTableSnapshot.asdict s) ↔
      ∀ n ∈ s.vlanId, n.natAbs < 10 ^ maxDigits := by
  simp [MACTableSnapshot.asdict, fits_obj, fits_str, fits_datetime, fits_optional, fits_int]

theorem fits_neighbor (s : Entities.NeighborSnapshot Stamp) :
    Fits (F := F) form (NeighborSnapshot.asdict s) := by
  simp [NeighborSnapshot.asdict, fits_obj, fits_str, fits_datetime, fits_optional]

theorem fits_power (s : Entities.PowerSnapshot Stamp F) : Fits form (PowerSnapshot.asdict s) := by
  simp [PowerSnapshot.asdict, fits_obj, fits_str, fits_datetime, fits_optional, fits_float,
    fits_bool]

theorem fits_device {s : Entities.DeviceSnapshot Stamp F} :
    Fits form (DeviceSnapshot.asdict s) ↔
      (∀ i ∈ s.interfaces, ∀ n ∈ i.speedMbps, n.natAbs < 10 ^ maxDigits) ∧
      (∀ v ∈ s.vlans, v.vlanId.natAbs < 10 ^ maxDigits) ∧
      (∀ e ∈ s.macTable, ∀ n ∈ e.vlanId, n.natAbs < 10 ^ maxDigits) := by
  simp [DeviceSnapshot.asdict, fits_obj, fits_str, fits_datetime, fits_optional, fits_tuple,
    fits_interface, fits_vlan, fits_macTable, fits_neighbor, fits_power]

/-- The dict of a snapshot can be written when its integers are short, and only then. -/
theorem fits_asdict {s : Entities.InventorySnapshot Stamp F} :
    Fits form (InventorySnapshot.asdict s) ↔ Short s := by
  have hdevices : Fits form (InventorySnapshot.asdict s) ↔
      ∀ d ∈ s.devices, Fits form (DeviceSnapshot.asdict d) := by
    simp [InventorySnapshot.asdict, fits_obj, fits_str, fits_datetime, fits_uuid, fits_optional,
      fits_tuple]
  rw [hdevices]
  constructor
  · intro h
    exact ⟨fun d hd => (fits_device.1 (h d hd)).1, fun d hd => (fits_device.1 (h d hd)).2.1,
      fun d hd => (fits_device.1 (h d hd)).2.2⟩
  · intro h d hd
    exact fits_device.2 ⟨h.interfaces d hd, h.vlans d hd, h.macTable d hd⟩

end fits

/-! ## Round trips -/

theorem keeps_id : Keeps (id : Atom F → Atom F) where
  json _ := rfl
  datetime _ := .inl rfl
  uuid _ := .inl rfl

theorem keeps_jsonLeaf {form : Form} (hform : separates form.separator = true) :
    Keeps (fun a : Atom F => .json (jsonLeaf form a)) where
  json _ := rfl
  datetime _ := .inr ⟨form, hform, rfl⟩
  uuid _ := .inr rfl

variable {floats lax fresh}

theorem toModel_eq {s : Entities.InventorySnapshot Stamp F} (hid : s.snapshotId < 16 ^ 32) :
    SnapshotMapper.toModel lax fresh s = some (InventorySnapshotModel.ofEntity s) := by
  have hread := InventorySnapshotModel.validate_dump lax keeps_id fresh
    (m := InventorySnapshotModel.ofEntity s) hid
  rw [Doc.map_id] at hread
  rw [SnapshotMapper.toModel, InventorySnapshot.asdict_eq_dump, hread]

/-- A dump that became JSON is validated as the model. -/
theorem validate_json (lax : Lax F) (fresh : UUID) {form : Form}
    (hform : separates form.separator = true) {m : InventorySnapshotModel F}
    (hid : m.snapshotId < 16 ^ 32) :
    InventorySnapshotModel.validate lax fresh ((m.dump.map (jsonLeaf form)).map .json) =
      some m := by
  rw [Doc.map_map]
  exact InventorySnapshotModel.validate_dump lax (keeps_jsonLeaf hform) fresh hid

theorem dumps_of_fits {v : Value F} {form : Form} (h : Fits form v) :
    dumps floats (v.map (jsonLeaf form)) =
      some ((python floats).write (v.map (jsonLeaf form))) := by
  exact if_pos h

theorem loads_write {t : Doc (Scalar F)} (h : t.all (·.within maxDigits) = true) :
    loads floats ((python floats).write t) = some t :=
  (python floats).read_write h

theorem jsonSafe_of_fits {v : Value F} (h : Fits .spaced v) :
    jsonSafe floats v = some (v.map (jsonLeaf .spaced)) := by
  rw [jsonSafe, dumps_of_fits h, Option.bind_some, loads_write h]

theorem storedAndRead_eq {s : Entities.InventorySnapshot Stamp F} (hid : s.snapshotId < 16 ^ 32)
    (h : Short s) : storedAndRead floats lax fresh s = some s := by
  have hfits : Fits .spaced (InventorySnapshot.asdict s) := fits_asdict.2 h
  have hvalid := validate_json lax fresh (show separates Form.spaced.separator = true by decide)
    (m := InventorySnapshotModel.ofEntity s) hid
  rw [storedAndRead, storedPayload, jsonSafe_of_fits hfits, Option.bind_some, dumps_of_fits hfits,
    Option.bind_some, observedInventory, loads_write hfits, InventorySnapshot.asdict_eq_dump,
    Option.bind_eq_bind, Option.bind_some, hvalid, Option.bind_eq_bind, Option.bind_some,
    SnapshotMapper.toEntity_ofEntity]
  rfl

theorem fromUTF8?_toUTF8 (text : String) : String.fromUTF8? text.toUTF8 = some text := by
  rw [String.fromUTF8?]
  exact dif_pos text.isValidUTF8

theorem deserialize_serialize {s : Entities.InventorySnapshot Stamp F}
    (hid : s.snapshotId < 16 ^ 32) (h : Short s) :
    SnapshotSerializer.deserialize floats lax fresh
      (SnapshotSerializer.serialize floats (InventorySnapshotModel.ofEntity s)) =
        some (InventorySnapshotModel.ofEntity s) := by
  have hfits : Fits .iso (InventorySnapshot.asdict s) := fits_asdict.2 h
  rw [InventorySnapshot.asdict_eq_dump] at hfits
  have hread := (compact floats).read_write hfits
  have hvalid := validate_json lax fresh (show separates Form.iso.separator = true by decide)
    (m := InventorySnapshotModel.ofEntity s) hid
  rw [SnapshotSerializer.deserialize, SnapshotSerializer.serialize, fromUTF8?_toUTF8,
    Option.bind_eq_bind, Option.bind_some, String.toList_ofList, hread, Option.bind_eq_bind,
    Option.bind_some, hvalid]

/-- The mapper undoes the model of a snapshot. What is read from either JSON text of it is the
snapshot again when its integers are short. -/
theorem encodings_kept (floats : Floats F) (lax : Lax F) (fresh : UUID)
    (s : Entities.InventorySnapshot Stamp F) (hid : s.snapshotId < 2 ^ 128) :
    ∃ m, SnapshotMapper.toModel lax fresh s = some m ∧ SnapshotMapper.toEntity m = s ∧
      (Short s →
        SnapshotSerializer.deserialize floats lax fresh
          (SnapshotSerializer.serialize floats m) = some m ∧
        storedAndRead floats lax fresh s = some s) := by
  have hid : s.snapshotId < 16 ^ 32 := by
    have hpow : (16 : Nat) ^ 32 = 2 ^ 128 := by decide
    rw [hpow]
    exact hid
  refine ⟨InventorySnapshotModel.ofEntity s, toModel_eq hid, SnapshotMapper.toEntity_ofEntity s,
    fun h => ⟨deserialize_serialize hid h, storedAndRead_eq hid h⟩⟩

/-! ## A snapshot with every part -/

/-- The whole floats below `2 ^ 53`, whose texts are integers with `.0` after them. -/
def Whole : Type := { n : Int // n.natAbs < 2 ^ 53 }

namespace Whole

def text (x : Whole) : List Char := Json.writeInt x.val ++ ['.', '0']

def integers : Json.Numbers Whole where
  maxDigits := 16
  float _ := none

def read (text : List Char) : Option Whole :=
  if text.drop (text.length - 2) = ['.', '0'] then
    (Json.readInt integers (text.take (text.length - 2))).bind fun n =>
      if h : n.natAbs < 2 ^ 53 then some ⟨n, h⟩ else none
  else none

theorem read_text (x : Whole) : read x.text = some x := by
  have hshort : (Json.digits x.val.natAbs).length ≤ 16 := by
    have hlt : x.val.natAbs < 10 ^ 16 := Nat.lt_trans x.property (by decide)
    exact (Nat.length_toDigits_le_iff (by decide) (by decide)).2 hlt
  have hread : Json.readInt integers (Json.writeInt x.val) = some x.val :=
    Json.readInt_writeInt hshort
  have hlength : (Json.writeInt x.val ++ ['.', '0']).length - 2 = (Json.writeInt x.val).length := by
    simp
  rw [read, text, hlength, List.drop_left, if_pos rfl, List.take_left, hread,
    Option.bind_some, dif_pos x.property]
  rfl

def floatText : FloatText read where
  text := text
  chars := by
    intro x c hc
    rcases List.mem_append.1 hc with hc | hc
    · exact (Json.mem_writeInt hc).1
    · have hpoint : ['.', '0'].all Json.numberChar = true := by decide
      exact List.all_eq_true.1 hpoint c hc
  marked := by
    intro x
    rw [text, List.any_append]
    exact Bool.or_eq_true_iff.2 (.inr (by decide))
  read_text := read_text

def texts : Floats Whole where
  read := read
  repr := floatText
  compact := floatText

end Whole

example : (dumps Whole.texts (.arr [.leaf (.int (-12)), .leaf (.str "Zü"), .leaf .null])).map
    String.ofList = some "[-12, \"Z\\u00fc\", null]" := by decide

/-- A validation without conversions. -/
def strict : Lax F where
  str _ := none
  int _ := none
  float _ := none
  bool _ := none
  datetime _ := none
  uuid _ := none
  items _ := none
  members _ := none

def leapDay : Stamp :=
  ⟨{ year := 2024, month := 2, day := 29, hour := 23, minute := 59, second := 58, microsecond := 7,
     offset := -210 }, by decide⟩

example : String.ofList (leapDay.text .iso) = "2024-02-29T23:59:58.000007-03:30" := by decide

def sample : Entities.InventorySnapshot Stamp Whole where
  snapshotId := 1
  capturedAt := leapDay
  devices := [
    { deviceId := "sw1"
      name := "Zürich \"1\""
      capturedAt := leapDay
      stackMembers := ["a", "b"]
      interfaces := [
        { deviceId := "sw1", name := "Gi0/1", capturedAt := leapDay, speedMbps := some 1000 }]
      vlans := [{ vlanId := 10, name := "users", capturedAt := leapDay }]
      macTable := [
        { macAddress := "00:11:22:33:44:55", deviceId := "sw1", interfaceName := "Gi0/1",
          capturedAt := leapDay, vlanId := some 10, lastSeen := some leapDay }]
      neighbors := [
        { localDeviceId := "sw1", localInterface := "Gi0/1", remoteDeviceId := "sw2",
          capturedAt := leapDay }]
      power := some
        { deviceId := "sw1", source := "PSU", capturedAt := leapDay,
          availableWatts := some ⟨370, by decide⟩ } }]

/-- A snapshot with a VLAN id of 4301 digits. -/
def long : Entities.InventorySnapshot Stamp Whole where
  snapshotId := 1
  capturedAt := leapDay
  devices := [
    { deviceId := "sw1"
      name := "sw1"
      capturedAt := leapDay
      vlans := [{ vlanId := (10 ^ maxDigits : Nat), name := "users", capturedAt := leapDay }] }]

theorem short_sample : Short sample := by
  have hten : ∀ n, n < 10 ^ 4 → n < 10 ^ maxDigits := by
    intro n hn
    exact Nat.lt_of_lt_of_le hn (Nat.pow_le_pow_right (by decide) (by decide))
  constructor
  · simpa [sample] using hten 1000 (by decide)
  · simpa [sample] using hten 10 (by decide)
  · simpa [sample] using hten 10 (by decide)

theorem encodings_sample : ∃ m, SnapshotMapper.toModel strict 0 sample = some m ∧
    SnapshotMapper.toEntity m = sample ∧
    SnapshotSerializer.deserialize Whole.texts strict 0
      (SnapshotSerializer.serialize Whole.texts m) = some m ∧
    storedAndRead Whole.texts strict 0 sample = some sample := by
  obtain ⟨m, hmodel, hentity, hshort⟩ :=
    encodings_kept Whole.texts strict 0 sample (by decide)
  obtain ⟨hserial, hstored⟩ := hshort short_sample
  exact ⟨m, hmodel, hentity, hserial, hstored⟩

theorem long_not_stored : long.snapshotId < 2 ^ 128 ∧
    storedAndRead Whole.texts strict 0 long ≠ some long := by
  refine ⟨by decide, ?_⟩
  have hlong : ¬Short long := by
    intro h
    have hlt := h.vlans _ List.mem_cons_self _ List.mem_cons_self
    exact Nat.lt_irrefl _ hlt
  have hfits : ¬Fits .spaced (InventorySnapshot.asdict long) := fun h => hlong (fits_asdict.1 h)
  have hnone : jsonSafe Whole.texts (InventorySnapshot.asdict long) = none := by
    have hdumps : dumps Whole.texts ((InventorySnapshot.asdict long).map (jsonLeaf .spaced)) =
        none := if_neg hfits
    rw [jsonSafe, hdumps]
    rfl
  rw [storedAndRead, storedPayload, hnone]
  exact nofun

end Encodings
end Snapshot
end NetOps
