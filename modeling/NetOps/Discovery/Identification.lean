import NetOps.Discovery.Fallback
import NetOps.Discovery.Identity

/-!
# Discovery.Identification

When an attempt of the chain counts as a discovery. `validate_payload` asks for one of seven
fields of the normalized device, and the parser takes three of them from the metadata of the
target before it looks at what the device says.

* `ofDict_toDict`: what the parser reads of a payload is what the collector has put there.
* `attempt_result`: an attempt whose collector returns is decided by `useful`.
* `succeeds_iff`: it succeeds if the output is parsed, and the device shows its identity or the
  metadata names it.
* `device_says_iff`: the metadata does not matter if and only if one of these always decides.
-/

namespace NetOps
namespace Collectors
namespace Cisco

open Discovery (PyVal PyDict TransportCapability)

/-! ## Payloads as dictionaries -/

/-- A dictionary inside a payload, as the list of its entries. -/
def dictValue (entries : PyDict) : PyVal := .list (entries.map fun e => .list [.str e.1, e.2] "") ""

/-- The rows of an SNMP group. -/
def rowsValue (rows : List (String × String)) : PyVal :=
  .list (rows.map fun row => .list [.str row.1, .str row.2] "") ""

/-- The section of the payload with what the device said. -/
def Facts.section : Facts → String × PyVal
  | .commands outputs => ("commands", dictValue (outputs.map fun e => (e.1, .str e.2)))
  | .http responses => ("http", dictValue (responses.map fun e => (e.1, .str e.2)))
  | .snmp groups => ("snmp", dictValue (groups.map fun e => (e.1, rowsValue e.2)))

/-- The payload as `collect` returns it. -/
def RawPayload.toDict (raw : RawPayload) : PyDict :=
  [("target", dictValue [("identifier", .str raw.identifier), ("address", .str raw.address),
      ("metadata", dictValue raw.metadata)]),
    ("platform_family", .str raw.platformFamily), ("parser_family", .str raw.parserFamily),
    ("transport", .str raw.transport),
    ("transport_capability", .str raw.transportCapability.value), raw.facts.section]

namespace CiscoInventoryParser

/-- `_mapping`. -/
def mapping : PyVal → PyDict
  | .list items _ => items.filterMap fun
    | .list [.str key, value] _ => some (key, value)
    | _ => none
  | _ => []

/-- `_string_mapping`. -/
def stringMapping (value : PyVal) : List (String × String) :=
  (mapping value).map fun e => (e.1, e.2.text)

/-- The rows that are pairs. -/
def rows : PyVal → List (String × String)
  | .list items _ => items.filterMap fun
    | .list [oid, value] _ => some (oid.text, value.text)
    | _ => none
  | _ => []

/-- `_snmp_mapping`. -/
def snmpMapping (value : PyVal) : List (String × List (String × String)) :=
  (mapping value).map fun e => (e.1, rows e.2)

/-- The sections of a payload. A collector writes one of them. -/
def factsOf (payload : PyDict) : Facts :=
  match payload.get? "commands", payload.get? "http" with
  | some value, _ => .commands (stringMapping value)
  | none, some value => .http (stringMapping value)
  | none, none => .snmp (snmpMapping (payload.getD "snmp"))

@[simp] theorem mapping_dictValue (entries : PyDict) : mapping (dictValue entries) = entries := by
  simp only [mapping, dictValue]
  induction entries with
  | nil => rfl
  | cons e entries ih => simp [ih]

@[simp] theorem rows_rowsValue (entries : List (String × String)) :
    rows (rowsValue entries) = entries := by
  simp only [rows, rowsValue]
  induction entries with
  | nil => rfl
  | cons e entries ih => simp [PyVal.text]

@[simp] theorem stringMapping_dictValue (entries : List (String × String)) :
    stringMapping (dictValue (entries.map fun e => (e.1, .str e.2))) = entries := by
  rw [stringMapping, mapping_dictValue, List.map_map]
  exact List.map_id entries

@[simp] theorem snmpMapping_dictValue (groups : List (String × List (String × String))) :
    snmpMapping (dictValue (groups.map fun e => (e.1, rowsValue e.2))) = groups := by
  have hrows : ((fun e => (e.1, rows e.2)) ∘ fun e => (e.1, rowsValue e.2)) =
      (id : String × List (String × String) → _) := by
    funext e
    simp
  rw [snmpMapping, mapping_dictValue, List.map_map, hrows, List.map_id]

end CiscoInventoryParser

open CiscoInventoryParser

/-- What the parser reads of a payload. The transport and its capability are written by `collect`
only. -/
def RawPayload.ofDict (payload : PyDict) : RawPayload :=
  let target := mapping (payload.getD "target")
  { identifier := (target.getD "identifier").text
    address := (target.getD "address").text
    metadata := mapping (target.getD "metadata")
    platformFamily := (payload.getD "platform_family").text
    parserFamily := (payload.getD "parser_family").text
    transport := (payload.getD "transport").text
    transportCapability :=
      (TransportCapability.ofValue (payload.getD "transport_capability").text).getD .ssh
    facts := factsOf payload }

theorem ofValue_value (c : TransportCapability) : TransportCapability.ofValue c.value = some c := by
  cases c <;> decide

/-- What the parser reads is what the collector wrote. -/
theorem ofDict_toDict (raw : RawPayload) : RawPayload.ofDict raw.toDict = raw := by
  obtain ⟨identifier, address, metadata, platformFamily, parserFamily, transport, capability,
    facts⟩ := raw
  cases facts <;>
    simp [RawPayload.ofDict, RawPayload.toDict, PyDict.getD, PyDict.get?, Facts.section, factsOf,
      PyVal.text, ofValue_value]

end Cisco
end Collectors

namespace Discovery

open Collectors.Cisco Vendors.Cisco Snapshot.Entities Normalization
open CiscoInventoryParser (text either group httpValue snmpValue flattenSnmp lookup)
open DiscoveryExecutionService (buildContext chainTarget httpxJob httpxTarget noMatch noFloat)
open Outcomes (isOk_map isOk_mapError isOk_iff isOk_mapM)

variable {T F : Type}

/-! ## `validate_payload` -/

/-- The identity fields of a device, by name. -/
def identityFields (d : DeviceSnapshot T F) : List (String × Option String) :=
  [("model", d.model), ("serial_number", d.serialNumber), ("software_version", d.softwareVersion),
    ("product_id", d.productId), ("base_mac", d.baseMac), ("uptime", d.uptime),
    ("hardware_revision", d.hardwareRevision)]

/-- The fields with a value. -/
def identityOf (d : DeviceSnapshot T F) : PyDict :=
  (identityFields d).filterMap fun field =>
    match field.2 with
    | some value => if value = "" then none else some (field.1, .str value)
    | none => none

/-- `validate_payload`, of a collector whose target has this identifier. -/
def validatePayload (search : Search) (float : String → Option F) (clock : ParsedRecord → T)
    (capturedAt : T) (snapshotId : Nat) (source : String) (raw : RawPayload) :
    Except Exn (Option PyDict) := do
  let result ← CiscoInventoryParser.parse search source raw
  let snapshot ← Normalization.normalize float clock capturedAt snapshotId result
  match snapshot.devices with
  | [] => pure none
  | device :: _ => pure (if identityOf device = [] then none else some (identityOf device))

/-! ## Attempts that get a payload -/

/-- An attempt of the chain: all but what the device says. -/
structure Execution (T : Type) where
  job : DiscoveryJobRecord
  target : DiscoveryTargetRecordView
  transportName : String
  platform : CiscoPlatformDefinition
  selection : CiscoTransportSelection
  clock : ParsedRecord → T
  capturedAt : T
  snapshotId : Nat

namespace Execution

def context (e : Execution T) : CollectorContext :=
  buildContext e.job (chainTarget e.target e.transportName)

/-- The payload when the device says this. -/
def raw (e : Execution T) (facts : Facts) : RawPayload :=
  rawPayload e.context e.platform e.selection facts

variable (search : Search) (float : String → Option F) (e : Execution T)

def validate (raw : RawPayload) : Except Exn (Option PyDict) :=
  validatePayload search float e.clock e.capturedAt e.snapshotId e.context.target.identifier raw

/-- What `_execute_transport_attempt` makes of the payload. -/
def useful (facts : Facts) : Except Exn (Option (PyDict × Option Fallback.DeviceInfo)) := do
  let payload := (e.raw facts).toDict
  match ← e.validate search float (e.raw facts) with
  | some info => pure (some (payload, some (.fields info)))
  | none => pure (if MultiTransportDiscoveryOrchestrator.identifies payload then
      some (payload, Fallback.deviceInfoOf payload) else none)

/-- The attempt counts as a discovery. -/
def Succeeds (facts : Facts) : Prop := ∃ found, e.useful search float facts = .ok (some found)

/-- Its configuration, for a collector that checks its health and gets the facts so. -/
def config (healthCheck : M Unit) (gathered : M Facts) : Fallback.TransportAttemptConfig where
  transportName := e.transportName
  capability := e.selection.capability
  healthCheck := healthCheck
  collect := (fun facts => some (e.raw facts).toDict) <$> gathered
  validatePayload := some fun payload => unwrap (e.validate search float (.ofDict payload))

variable {search float e}

theorem usefulPayload_config (healthCheck : M Unit) (gathered : M Facts) :
    Fallback.usefulPayload (e.config search float healthCheck gathered) = (do
      healthCheck
      let facts ← gathered
      unwrap (e.useful search float facts)) := by
  unfold Fallback.usefulPayload
  refine bind_congr fun _ => ?_
  change (fun facts => some (e.raw facts).toDict) <$> gathered >>= _ = _
  rw [bind_map_left]
  refine bind_congr fun facts => ?_
  change (do
    let normalized ← unwrap (e.validate search float (.ofDict (e.raw facts).toDict))
    _) = _
  rw [ofDict_toDict]
  unfold useful
  cases e.validate search float (e.raw facts) with
  | error err => rfl
  | ok identity => cases identity <;> rfl

/-- An attempt succeeds if what became of its payload is useful. -/
@[simp] theorem success_resultOf (redact : String → String) (c : Fallback.TransportAttemptConfig)
    (n : Nat) (outcome : Except Exn (Option (PyDict × Option Fallback.DeviceInfo))) :
    (Fallback.resultOf redact c n outcome).success = true ↔
      ∃ found, outcome = .ok (some found) := by
  rcases outcome with _ | _ | _ <;>
    simp [Fallback.resultOf, MultiTransportDiscoveryOrchestrator.TransportAttemptResult.success]

/-- Whatever the collector does to get the facts: once it has them, they decide. -/
theorem attempt_result (redact : String → String) (healthCheck : M Unit) (gathered : M Facts)
    (n : Nat) :
    Fallback.executeTransportAttempt redact (e.config search float healthCheck gathered) n = (do
      let outcome ← catching (do
        healthCheck
        let facts ← gathered
        unwrap (e.useful search float facts))
      pure (Fallback.resultOf redact (e.config search float healthCheck gathered) n outcome)) := by
  unfold Fallback.executeTransportAttempt
  rw [usefulPayload_config]

end Execution

/-! ## What is parsed -/

/-- No number in the tables of interfaces and VLANs is one that `int` refuses. -/
def Parses (facts : Facts) : Prop :=
  (∃ records, CiscoInventoryParser.readInterfaceStatus ""
    (lookup facts.commandOutputs "show interfaces status") = .ok records) ∧
  ∃ records, CiscoInventoryParser.readVlans ""
    (lookup facts.commandOutputs "show vlan brief") = .ok records

theorem readInterfaceStatus_isOk (deviceId output : String) :
    (CiscoInventoryParser.readInterfaceStatus deviceId output).isOk =
      (CiscoInventoryParser.readInterfaceStatus "" output).isOk := by
  have hline : ∀ line, (CiscoInventoryParser.readInterfaceLine deviceId line).isOk =
      (CiscoInventoryParser.readInterfaceLine "" line).isOk := by
    intro line
    unfold CiscoInventoryParser.readInterfaceLine
    dsimp only
    split
    · rfl
    · split
      · rfl
      · rw [isOk_map, isOk_map]
  have hread : ∀ id, (CiscoInventoryParser.readInterfaceStatus id output).isOk =
      ((Text.splitLines output).mapM (CiscoInventoryParser.readInterfaceLine id)).isOk := by
    intro id
    unfold CiscoInventoryParser.readInterfaceStatus
    cases (Text.splitLines output).mapM (CiscoInventoryParser.readInterfaceLine id) <;> rfl
  rw [hread, hread, isOk_mapM hline]

theorem readVlans_isOk (deviceId output : String) :
    (CiscoInventoryParser.readVlans deviceId output).isOk =
      (CiscoInventoryParser.readVlans "" output).isOk := by
  have hline : ∀ line, (CiscoInventoryParser.readVlanLine deviceId line).isOk =
      (CiscoInventoryParser.readVlanLine "" line).isOk := by
    intro line
    unfold CiscoInventoryParser.readVlanLine
    split
    · split
      · rw [isOk_map, isOk_map]
      · rfl
    · rfl
  unfold CiscoInventoryParser.readVlans
  rw [isOk_map, isOk_map, isOk_mapM hline]

/-- The device that the records name is of no account. -/
theorem parse_succeeds_iff (search : Search) (source : String) (raw : RawPayload) :
    (∃ result, CiscoInventoryParser.parse search source raw = .ok result) ↔ Parses raw.facts := by
  unfold Parses
  rw [← isOk_iff, ← isOk_iff, ← isOk_iff,
    ← readInterfaceStatus_isOk ((text (.str raw.identifier)).getD source),
    ← readVlans_isOk ((text (.str raw.identifier)).getD source),
    ← isOk_map (CiscoInventoryParser.readInterfaceStatus _ _),
    ← isOk_map (CiscoInventoryParser.readVlans _ _),
    ← isOk_mapError _ CiscoInventoryParser.raised, ← isOk_mapError _ CiscoInventoryParser.raised]
  unfold CiscoInventoryParser.parse CiscoInventoryParser.readInterfaceRecords
    CiscoInventoryParser.readVlanRecords
  dsimp only
  generalize (Except.map _ (CiscoInventoryParser.readInterfaceStatus _ _)).mapError _ = interfaces
  generalize (Except.map _ (CiscoInventoryParser.readVlans _ _)).mapError _ = vlans
  cases interfaces <;> cases vlans <;>
    simp [bind, Except.bind, pure, Except.pure, Except.isOk, Except.toBool]

/-! ## What a device shows -/

/-- A text that was read. -/
def Shows (value : Option String) : Prop := ∃ s, value = some s ∧ s ≠ ""

/-- Without blanks around it. -/
def Stripped (value : Option String) : Prop := ∀ s, value = some s → Text.strip s = s

@[simp] theorem shows_none : ¬ Shows none := by
  rintro ⟨s, hs, _⟩
  cases hs

theorem shows_either (a b : Option String) : Shows (either a b) ↔ Shows a ∨ Shows b := by
  cases a with
  | none => simp [either]
  | some s =>
    by_cases hs : s = ""
    · simp [either, Shows, hs]
    · simp [either, Shows, hs]

theorem Stripped.either {a b : Option String} (ha : Stripped a) (hb : Stripped b) :
    Stripped (either a b) := by
  cases a with
  | none => exact hb
  | some s =>
    unfold CiscoInventoryParser.either
    dsimp only
    split
    · exact hb
    · exact ha

theorem stripped_text (value : PyVal) : Stripped (text value) := by
  intro s hs
  cases value <;> simp [text] at hs <;> rw [← hs.2, strip_strip]

theorem stripped_group (m : Option (String → String)) (name : String) :
    Stripped (group m name) := by
  intro s hs
  cases m with
  | none => cases hs
  | some groups =>
    simp only [group] at hs
    split at hs
    · cases hs
    · cases hs
      exact strip_strip _

theorem stripped_httpValue (search : Search) (output label : String) :
    Stripped (httpValue search output label) := by
  intro s hs
  obtain ⟨groups, _, rfl⟩ := Option.map_eq_some_iff.1 hs
  exact strip_strip _

theorem stripped_snmpValue (output token : String) : Stripped (snmpValue output token) := by
  intro s hs
  simp only [snmpValue] at hs
  split at hs
  · obtain ⟨line, _, rfl⟩ := Option.map_eq_some_iff.1 hs
    exact strip_strip _
  · cases hs

/-- A field with a text that was read keeps it. -/
theorem shows_optionalText {value : Option String} (h : Stripped value) :
    Shows (NormalizationMapper.optionalText (.ofOption value)) ↔ Shows value := by
  cases value with
  | none => rfl
  | some s =>
    have hs := h s rfl
    simp only [PyVal.ofOption, NormalizationMapper.optionalText, PyVal.text, hs]
    split
    · rename_i hempty
      simp [Shows, hempty]
    · rfl

/-- What the parser reads of a device to identify it, wherever it finds it. -/
def readings (search : Search) (facts : Facts) : List (Option String) :=
  let showVersion := lookup facts.commandOutputs "show version"
  let inventoryMatch := search .inventory (lookup facts.commandOutputs "show inventory")
  let httpText := "\n".intercalate (facts.httpPayloads.map (·.2))
  let systemSnmp := flattenSnmp
    (((facts.snmpPayloads.find? fun e => e.1 == "system").map (·.2)).getD [])
  [group (search .model showVersion) "model", group (search .systemSerial showVersion) "serial",
    group (search .version showVersion) "version", group (search .baseMac showVersion) "mac",
    group (search .hostnameUptime showVersion) "uptime",
    group (search .hardware showVersion) "hardware",
    group inventoryMatch "pid", group inventoryMatch "serial", group inventoryMatch "vid",
    httpValue search httpText "product id", httpValue search httpText "model",
    httpValue search httpText "serial", httpValue search httpText "version",
    httpValue search httpText "base mac",
    snmpValue systemSnmp "sysDescr", snmpValue systemSnmp "sysUpTime"]

/-- What the device says identifies it. -/
def Identified (search : Search) (facts : Facts) : Prop := ∃ r ∈ readings search facts, Shows r

/-- The metadata of a target names a device. -/
def NamesDevice (metadata : PyDict) : Prop :=
  ∃ key ∈ ["product_id", "model", "serial_number"], Shows (text (metadata.getD key))

/-! ## What an attempt finds -/

theorem identityOf_nonempty (d : DeviceSnapshot T F) :
    identityOf d ≠ [] ↔ ∃ field ∈ identityFields d, Shows field.2 := by
  rw [identityOf, ne_eq, List.filterMap_eq_nil_iff, not_forall]
  refine exists_congr fun field => ?_
  rw [Classical.not_imp]
  refine and_congr_right fun _ => ?_
  obtain ⟨name, value⟩ := field
  cases value <;> simp [Shows]

/-- The identity fields as the parser reads them, each from its places in their order. -/
def readFields (search : Search) (raw : RawPayload) : List (String × Option String) :=
  let showVersion := lookup raw.facts.commandOutputs "show version"
  let inventoryMatch := search .inventory (lookup raw.facts.commandOutputs "show inventory")
  let httpText := "\n".intercalate (raw.facts.httpPayloads.map (·.2))
  let systemSnmp := flattenSnmp
    (((raw.facts.snmpPayloads.find? fun e => e.1 == "system").map (·.2)).getD [])
  let productId := either (text (raw.metadata.getD "product_id"))
    (either (group inventoryMatch "pid") (httpValue search httpText "product id"))
  [("model", either (text (raw.metadata.getD "model"))
      (either (group (search .model showVersion) "model")
        (either productId (httpValue search httpText "model")))),
    ("serial_number", either (text (raw.metadata.getD "serial_number"))
      (either (group (search .systemSerial showVersion) "serial")
        (either (group inventoryMatch "serial") (httpValue search httpText "serial")))),
    ("software_version", either (group (search .version showVersion) "version")
      (either (httpValue search httpText "version") (snmpValue systemSnmp "sysDescr"))),
    ("product_id", productId),
    ("base_mac", either (group (search .baseMac showVersion) "mac")
      (httpValue search httpText "base mac")),
    ("uptime", either (group (search .hostnameUptime showVersion) "uptime")
      (snmpValue systemSnmp "sysUpTime")),
    ("hardware_revision", either (group inventoryMatch "vid")
      (group (search .hardware showVersion) "hardware"))]

theorem identityFields_device (search : Search) (float : String → Option F)
    (clock : ParsedRecord → T) (deviceId : String) (address : Option String) (raw : RawPayload)
    (records : List ParsedRecord) :
    identityFields (NormalizationMapper.device float clock records
        ⟨"device", CiscoInventoryParser.devicePayload search deviceId address raw⟩) =
      (readFields search raw).map fun field =>
        (field.1, NormalizationMapper.optionalText (.ofOption field.2)) := rfl

theorem stripped_readFields (search : Search) (raw : RawPayload) :
    ∀ field ∈ readFields search raw, Stripped field.2 := by
  have htext := fun key => stripped_text (raw.metadata.getD key)
  have hgroup := stripped_group
  have hhttp := stripped_httpValue search
  have hsnmp := stripped_snmpValue
  simp only [readFields, List.forall_mem_cons]
  refine ⟨?_, ?_, ?_, ?_, ?_, ?_, ?_, by simp⟩
  · exact (htext _).either ((hgroup _ _).either
      (((htext _).either ((hgroup _ _).either (hhttp _ _))).either (hhttp _ _)))
  · exact (htext _).either ((hgroup _ _).either ((hgroup _ _).either (hhttp _ _)))
  · exact (hgroup _ _).either ((hhttp _ _).either (hsnmp _ _))
  · exact (htext _).either ((hgroup _ _).either (hhttp _ _))
  · exact (hgroup _ _).either (hhttp _ _)
  · exact (hgroup _ _).either (hsnmp _ _)
  · exact (hgroup _ _).either (hgroup _ _)

/-- Some field is read exactly if the device shows something or the metadata names it. -/
theorem readFields_iff (search : Search) (raw : RawPayload) :
    (∃ field ∈ readFields search raw, Shows field.2) ↔
      Identified search raw.facts ∨ NamesDevice raw.metadata := by
  simp only [readFields, Identified, readings, NamesDevice, List.exists_mem_cons_iff,
    List.not_mem_nil, false_and, exists_false, or_false, shows_either]
  grind

/-- The identity of the device that the parser makes of a payload. -/
theorem identityOf_device (search : Search) (float : String → Option F)
    (clock : ParsedRecord → T) (deviceId : String) (address : Option String) (raw : RawPayload)
    (records : List ParsedRecord) :
    identityOf (NormalizationMapper.device float clock records
        ⟨"device", CiscoInventoryParser.devicePayload search deviceId address raw⟩) ≠ [] ↔
      Identified search raw.facts ∨ NamesDevice raw.metadata := by
  rw [identityOf_nonempty, identityFields_device, ← readFields_iff]
  simp only [List.mem_map]
  constructor
  · rintro ⟨_, ⟨field, hmem, rfl⟩, hshows⟩
    exact ⟨field, hmem, (shows_optionalText (stripped_readFields search raw field hmem)).1 hshows⟩
  · rintro ⟨field, hmem, hshows⟩
    exact ⟨_, ⟨field, hmem, rfl⟩,
      (shows_optionalText (stripped_readFields search raw field hmem)).2 hshows⟩

namespace Execution

variable {search : Search} {float : String → Option F} {e : Execution T} {facts : Facts}

/-- The name of a transport makes the identifier visible. -/
theorem strip_identifier (e : Execution T) (facts : Facts) :
    Text.strip (e.raw facts).identifier ≠ "" := by
  intro hblank
  have htext : (e.raw facts).identifier = e.target.identifier ++ ":" ++ e.transportName := rfl
  have hspace : Text.isSpace ':' = true := Text.isSpace_of_strip_eq_empty hblank (by
    rw [htext, String.toList_append, String.toList_append]
    exact List.mem_append_left _ (List.mem_append_right _ (by decide)))
  exact absurd hspace (by decide)

variable (float) in
/-- The validation finds the identity of the one device of the payload. -/
theorem validate_raw {result : ParserResult} (hparsed : CiscoInventoryParser.parse search
      e.context.target.identifier (e.raw facts) = .ok result) :
    ∃ d : DeviceSnapshot T F, e.validate search float (e.raw facts) =
      .ok (if identityOf d = [] then none else some (identityOf d)) ∧
      (identityOf d ≠ [] ↔ Identified search facts ∨ NamesDevice e.context.target.metadata) := by
  obtain ⟨deviceId, rest, hid, hrecords, hnames⟩ := parse_names hparsed
  have hrest : rest.filter (fun r => r.kind = "device") = [] := by
    rw [List.filter_eq_nil_iff]
    intro r hr
    simpa using (hnames r hr).1
  have hvisible : Text.strip deviceId ≠ "" := by
    have hidentifier := strip_identifier e facts
    rw [hid]
    unfold CiscoInventoryParser.text PyVal.text
    dsimp only
    rw [if_neg hidentifier, Option.getD_some, strip_strip]
    exact hidentifier
  have hdevices : (NormalizationMapper.toSnapshot float e.clock e.capturedAt e.snapshotId
      result).devices = [NormalizationMapper.device float e.clock result.records
        ⟨"device", CiscoInventoryParser.devicePayload search deviceId
          (text (.str (e.raw facts).address)) (e.raw facts)⟩] := by
    unfold NormalizationMapper.toSnapshot
    dsimp only
    rw [hrecords, List.filter_cons_of_pos (by simp), hrest]
    rfl
  refine ⟨_, ?_, identityOf_device search float e.clock deviceId
    (text (.str (e.raw facts).address)) (e.raw facts) result.records⟩
  have hnormalize : Normalization.normalize float e.clock e.capturedAt e.snapshotId result =
      .ok (NormalizationMapper.toSnapshot float e.clock e.capturedAt e.snapshotId result) := by
    unfold Normalization.normalize
    dsimp only
    rw [if_neg (by rw [hrecords]; exact List.cons_ne_nil _ _), hdevices]
    have hdeviceId : (NormalizationMapper.device float e.clock result.records
        ⟨"device", CiscoInventoryParser.devicePayload search deviceId
          (text (.str (e.raw facts).address)) (e.raw facts)⟩).deviceId = Text.strip deviceId := rfl
    simp [NormalizationValidator.validateDevices, hdeviceId, strip_strip, hvisible]
  unfold validate validatePayload
  rw [hparsed]
  simp only [bind, Except.bind, hnormalize, hdevices]
  rfl

/-- A payload with one of the sections of `collect` has no key that identifies a device. -/
theorem identifies_toDict (raw : RawPayload) :
    MultiTransportDiscoveryOrchestrator.identifies raw.toDict = false := by
  cases hfacts : raw.facts <;>
    simp [MultiTransportDiscoveryOrchestrator.identifies,
      MultiTransportDiscoveryOrchestrator.deviceKeys, RawPayload.toDict, hfacts, Facts.section,
      PyDict.get?, PyDict.getD, PyVal.truthy]

/-- The transport that the chain puts into the metadata of a target does not name a device. -/
theorem namesDevice_context (e : Execution T) :
    NamesDevice e.context.target.metadata ↔ NamesDevice e.target.metadata := by
  have hget : ∀ key, key ≠ "transport_name" →
      e.context.target.metadata.getD key = e.target.metadata.getD key := by
    intro key hkey
    have hmetadata : e.context.target.metadata =
      e.target.metadata.set "transport_name" (.str e.transportName) := rfl
    rw [hmetadata, PyDict.getD, PyDict.getD, PyDict.get?_set, if_neg hkey]
  simp [NamesDevice, hget]

/-- An attempt succeeds if its output is parsed, and the device shows its identity or the metadata
of its target names it. -/
theorem succeeds_iff : e.Succeeds search float facts ↔
    Parses facts ∧ (Identified search facts ∨ NamesDevice e.target.metadata) := by
  unfold Succeeds useful
  cases hparse : CiscoInventoryParser.parse search e.context.target.identifier (e.raw facts) with
  | error err =>
    have hraised : e.validate search float (e.raw facts) = .error err := by
      unfold validate validatePayload
      rw [hparse]
      rfl
    have hunread : ¬Parses facts := by
      intro h
      obtain ⟨result, hresult⟩ := (parse_succeeds_iff search _ (e.raw facts)).2 h
      rw [hparse] at hresult
      cases hresult
    rw [hraised]
    simp [hunread, bind, Except.bind]
  | ok result =>
    have hread : Parses facts := (parse_succeeds_iff search _ (e.raw facts)).1 ⟨result, hparse⟩
    obtain ⟨d, hvalid, hidentity⟩ := validate_raw float hparse
    rw [← namesDevice_context, ← hidentity, hvalid]
    by_cases hempty : identityOf d = []
    · simp [hempty, bind, Except.bind, pure, Except.pure, identifies_toDict]
    · simp [hempty, hread, bind, Except.bind, pure, Except.pure]

/-! ## What decides -/

/-- Two executions for which the device says the same have one verdict, and neither is a discovery
when the device shows no identity. -/
structure DeviceSays (search : Search) (float : String → Option F) (e e' : Execution T)
    (facts : Facts) : Prop where
  agree : e.Succeeds search float facts ↔ e'.Succeeds search float facts
  silent : ¬ Identified search facts →
    ¬ e.Succeeds search float facts ∧ ¬ e'.Succeeds search float facts

/-- What the device says decides if and only if it cannot be parsed, or it shows its identity, or
neither metadata names a device. -/
theorem device_says_iff (search : Search) (float : String → Option F) (e e' : Execution T)
    (facts : Facts) : DeviceSays search float e e' facts ↔
      ¬ Parses facts ∨ Identified search facts ∨
        ¬ NamesDevice e.target.metadata ∧ ¬ NamesDevice e'.target.metadata := by
  constructor
  · intro h
    by_cases hidentified : Identified search facts
    · exact .inr (.inl hidentified)
    · have hsilent := h.silent hidentified
      rw [succeeds_iff, succeeds_iff] at hsilent
      tauto
  · intro h
    constructor
    · rw [succeeds_iff, succeeds_iff]
      tauto
    · intro hidentified
      rw [succeeds_iff, succeeds_iff]
      tauto

/-! ### A switch that does not answer -/

/-- An execution for the switch, with this metadata. -/
def forMetadata (metadata : PyDict) : Execution Nat where
  job := httpxJob
  target := { httpxTarget.view with metadata := metadata }
  transportName := "ssh"
  platform := catalyst2960x
  selection := ⟨.ssh, "netmiko"⟩
  clock _ := 0
  capturedAt := 0
  snapshotId := 0

/-- Command outputs in which no pattern is found show nothing. -/
theorem not_identified_commands (outputs : List (String × String)) :
    ¬ Identified noMatch (.commands outputs) := by
  have hsnmp : ∀ token ∈ ["sysDescr", "sysUpTime"], snmpValue (flattenSnmp []) token = none := by
    decide
  have hdescr := hsnmp "sysDescr" (by simp)
  have hupTime := hsnmp "sysUpTime" (by simp)
  simp [Identified, readings, noMatch, group, httpValue, Facts.snmpPayloads, hdescr, hupTime]

/-- Its commands have no output. With its model in the metadata it is discovered. -/
theorem model_discovers : ¬ DeviceSays noMatch noFloat (forMetadata [("model", .str "C9300")])
    (forMetadata []) (.commands [("show version", ""), ("show inventory", "")]) := by
  intro h
  refine (h.silent (not_identified_commands _)).1 (succeeds_iff.2 ⟨⟨⟨[], rfl⟩, [], rfl⟩, .inr ?_⟩)
  exact ⟨"model", by decide, "C9300", by decide, by decide⟩

end Execution

end Discovery
end NetOps
