import NetOps.Lines
import NetOps.Collectors.CiscoInventory

/-!
# Collectors.NeighborBlocks

The blocks of the neighbor listings (`_parse_neighbor_detail`).

* `parseNeighborDetail_eq`: the loop reads the stripped lines block by block.
* `block_eq`: a block gives the record of its last entries.
-/

namespace NetOps
namespace Collectors
namespace Cisco
namespace CiscoInventoryParser

/-! ## The loop -/

theorem neighborLoop_eq (deviceId protocol : String) (current : Current) (lines : List String) :
    neighborLoop deviceId protocol current (lines ++ [""]) =
      Lines.readLines {} Current.read (·.record deviceId protocol) current lines := by
  induction lines generalizing current with
  | nil => exact List.append_nil _
  | cons line lines ih =>
    rw [List.cons_append, neighborLoop, Lines.readLines_cons]
    split
    · rw [ih]
    · exact ih _

theorem parseNeighborDetail_eq (deviceId output protocol : String) :
    parseNeighborDetail deviceId output protocol =
      Lines.readText {} Current.read (·.record deviceId protocol) output :=
  neighborLoop_eq deviceId protocol {} (Text.splitLines output)

/-! ## Entries -/

/-- What one line says of a neighbor. -/
inductive Entry where
  | remoteDeviceId (value : String)
  | localInterface (value : String)
  | remoteInterface (value : String)

namespace Entry

def remoteDeviceId? : Entry → Option String
  | .remoteDeviceId value => some value
  | _ => none

def localInterface? : Entry → Option String
  | .localInterface value => some value
  | _ => none

def remoteInterface? : Entry → Option String
  | .remoteInterface value => some value
  | _ => none

end Entry

/-- The entry of a stripped line. -/
def entryOf (line : String) : Option Entry :=
  let lower := Text.lower line
  if Text.hasPrefix "device id:" lower || Text.hasPrefix "system name:" lower then
    some (.remoteDeviceId (Text.strip (Text.after ':' line)))
  else if Text.hasPrefix "interface:" lower then
    some (.localInterface (Text.strip (Text.before ',' (Text.after ':' line))))
  else if Text.hasPrefix "port id" lower || Text.hasPrefix "port description" lower then
    if Text.strip (Text.after ':' line) = "" then none
    else some (.remoteInterface (Text.strip (Text.after ':' line)))
  else none

/-- A line changes the field of its entry. -/
theorem read_eq (current : Current) (line : String) :
    current.read line = {
      remoteDeviceId := ((entryOf line).bind Entry.remoteDeviceId?).or current.remoteDeviceId
      localInterface := ((entryOf line).bind Entry.localInterface?).or current.localInterface
      remoteInterface := ((entryOf line).bind Entry.remoteInterface?).or
        current.remoteInterface } := by
  unfold Current.read entryOf
  dsimp only
  split
  · rfl
  · split
    · rfl
    · split
      · split <;> rfl
      · rfl

/-! ## Blocks -/

/-- The runs of lines between blank ones. -/
def neighborBlocks (output : String) : List (List String) :=
  (Text.splitLines output).splitOnP fun line => decide (Text.strip line = "")

def blockEntries (block : List String) : List Entry :=
  block.filterMap fun line => entryOf (Text.strip line)

/-- The record of a block, from the last entry for each field. -/
def blockRecord (deviceId protocol : String) (block : List String) : List ParsedRecord :=
  Current.record {
    remoteDeviceId := ((blockEntries block).filterMap Entry.remoteDeviceId?).getLast?
    localInterface := ((blockEntries block).filterMap Entry.localInterface?).getLast?
    remoteInterface := ((blockEntries block).filterMap Entry.remoteInterface?).getLast? }
    deviceId protocol

theorem block_eq (deviceId protocol : String) (block : List String) :
    Blocks.block {} (fun current line => Current.read current (Text.strip line))
      (·.record deviceId protocol) block = blockRecord deviceId protocol block := by
  have hfield (field : Current → Option String) (get : Entry → Option String)
      (hread : ∀ current line, field (Current.read current line) =
        ((entryOf line).bind get).or (field current)) (hempty : field {} = none) :
      field (block.foldl (fun current line => current.read (Text.strip line)) {}) =
        ((blockEntries block).filterMap get).getLast? := by
    rw [blockEntries, List.filterMap_filterMap, Blocks.field_foldl fun current line =>
      hread current (Text.strip line), hempty, Option.or_none]
  have hdevice := hfield Current.remoteDeviceId Entry.remoteDeviceId?
    (fun current line => by rw [read_eq]) rfl
  have hinterface := hfield Current.localInterface Entry.localInterface?
    (fun current line => by rw [read_eq]) rfl
  have hport := hfield Current.remoteInterface Entry.remoteInterface?
    (fun current line => by rw [read_eq]) rfl
  rw [Blocks.block, blockRecord, ← hdevice, ← hinterface, ← hport]

/-- The record has the device and the interfaces that lines of the block give. -/
def FromBlock (deviceId protocol : String) (block : List String) (r : ParsedRecord) : Prop :=
  ∃ remoteDeviceId localInterface remoteInterface,
    .remoteDeviceId remoteDeviceId ∈ blockEntries block ∧
    .localInterface localInterface ∈ blockEntries block ∧
    (∀ value ∈ remoteInterface, .remoteInterface value ∈ blockEntries block) ∧
    r = ⟨"neighbor", [("local_device_id", .str deviceId),
      ("local_interface", .str localInterface),
      ("remote_device_id", .str remoteDeviceId),
      ("remote_interface", .ofOption remoteInterface),
      ("protocol", .str protocol)]⟩

theorem either_none {value : Option String} {text : String} (h : either value none = some text) :
    value = some text := by
  unfold either at h
  split at h
  · split at h
    · cases h
    · exact h
  · cases h

theorem fromBlock_of_mem {deviceId protocol : String} {block : List String} {r : ParsedRecord}
    (h : r ∈ blockRecord deviceId protocol block) : FromBlock deviceId protocol block r := by
  have hlast {get : Entry → Option String} {wrap : String → Entry}
      (hget : ∀ e value, get e = some value → e = wrap value) {value : String}
      (hvalue : ((blockEntries block).filterMap get).getLast? = some value) :
      wrap value ∈ blockEntries block := by
    obtain ⟨e, he, heq⟩ := List.mem_filterMap.1 (List.mem_of_getLast? hvalue)
    rw [← hget e value heq]
    exact he
  unfold blockRecord Current.record at h
  split at h
  · rename_i remote localInterface hremote hlocal
    rw [List.mem_singleton] at h
    refine ⟨remote, localInterface, _, hlast ?_ (either_none hremote),
      hlast ?_ (either_none hlocal), fun value hvalue => hlast ?_ hvalue, h⟩
    · intro e value he
      cases e <;> cases he
      rfl
    · intro e value he
      cases e <;> cases he
      rfl
    · intro e value he
      cases e <;> cases he
      rfl
  · cases h

theorem parseNeighborDetail_flatMap (deviceId output protocol : String) :
    parseNeighborDetail deviceId output protocol =
      (neighborBlocks output).flatMap (blockRecord deviceId protocol) := by
  rw [parseNeighborDetail_eq, Lines.readText, Lines.readLines, Blocks.run_start]
  exact List.flatMap_congr fun block _ => block_eq deviceId protocol block

theorem parseNeighborDetail_append {a gap : String} (hgap : Lines.BlankLine a gap)
    (deviceId b protocol : String) :
    parseNeighborDetail deviceId (a ++ gap ++ b) protocol =
      parseNeighborDetail deviceId a protocol ++ parseNeighborDetail deviceId b protocol := by
  rw [parseNeighborDetail_eq, parseNeighborDetail_eq, parseNeighborDetail_eq]
  exact Lines.readText_append rfl hgap b

/-- Texts with a blank line between them are parsed alone, and a record comes from one block. -/
theorem neighbors_parsed_by_block (deviceId protocol : String) :
    (∀ a gap b, Lines.BlankLine a gap →
      parseNeighborDetail deviceId (a ++ gap ++ b) protocol =
        parseNeighborDetail deviceId a protocol ++ parseNeighborDetail deviceId b protocol) ∧
    (∀ a b, parseNeighborDetail deviceId (a ++ "\n\n" ++ b) protocol =
      parseNeighborDetail deviceId a protocol ++ parseNeighborDetail deviceId b protocol) ∧
    (∀ output, parseNeighborDetail deviceId output protocol =
      (neighborBlocks output).flatMap (blockRecord deviceId protocol)) ∧
    (∀ output, ∀ r ∈ parseNeighborDetail deviceId output protocol,
      ∃ block ∈ neighborBlocks output, FromBlock deviceId protocol block r ∧
        block <:+: Text.splitLines output ∧ ∀ line ∈ block, Text.strip line ≠ "") := by
  refine ⟨fun a gap b hgap => parseNeighborDetail_append hgap deviceId b protocol,
    fun a b => parseNeighborDetail_append (Lines.blankLine_two a) deviceId b protocol,
    fun output => parseNeighborDetail_flatMap deviceId output protocol, fun output r hr => ?_⟩
  rw [parseNeighborDetail_flatMap] at hr
  obtain ⟨block, hblock, hmem⟩ := List.mem_flatMap.1 hr
  obtain ⟨hpart, hlines⟩ := Blocks.infix_of_mem_splitOnP hblock
  exact ⟨block, hblock, fromBlock_of_mem hmem, hpart, fun line hline =>
    of_decide_eq_false (hlines line hline)⟩

/-- A neighbor as `show cdp neighbors detail` lists it. -/
def listedNeighbor : String :=
  "Device ID: sw2\nInterface: Gi0/1,  Port ID (outgoing port): Gi0/2"

theorem neighbors_parsed_by_block_listed :
    (parseNeighborDetail "sw1" (listedNeighbor ++ "\r\n \r\n" ++ listedNeighbor) "CDP").length =
      2 := by
  rw [(neighbors_parsed_by_block "sw1" "CDP").1 _ _ _ ⟨by decide, by decide⟩]
  decide

end CiscoInventoryParser
end Cisco
end Collectors
end NetOps
