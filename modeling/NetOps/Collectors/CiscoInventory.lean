import NetOps.Collectors.Cisco
import NetOps.Digits

/-!
# Collectors.CiscoInventory

The parser of the payloads that the Cisco collectors make (`collectors/cisco/inventory.py`). What
it reads from the output of a device goes into records, and each record names the device by the
identifier in the payload. The matches of regular expressions are a parameter. What `int` refuses in
the tables of interfaces and VLANs is raised.
-/

namespace NetOps
namespace Collectors
namespace Cisco

open Digits (IntError)
open Discovery (PyVal PyDict TransportCapability CollectorContext)

/-! ## Payloads -/

/-- What a collector got from the device, by the kind of its session. -/
inductive Facts where
  | commands (outputs : List (String × String))
  | http (responses : List (String × String))
  | snmp (groups : List (String × List (String × String)))

def Facts.commandOutputs : Facts → List (String × String)
  | .commands outputs => outputs
  | _ => []

def Facts.httpPayloads : Facts → List (String × String)
  | .http responses => responses
  | _ => []

def Facts.snmpPayloads : Facts → List (String × List (String × String))
  | .snmp groups => groups
  | _ => []

/-- The payload of `collect`. -/
structure RawPayload where
  identifier : String
  address : String
  metadata : PyDict
  platformFamily : String
  parserFamily : String
  transport : String
  transportCapability : TransportCapability
  facts : Facts

/-- The payload that `collect` makes of what the device gave. -/
def rawPayload (context : CollectorContext) (platform : Vendors.Cisco.CiscoPlatformDefinition)
    (selection : CiscoTransportSelection) (facts : Facts) : RawPayload where
  identifier := context.target.identifier
  address := context.target.address
  metadata := context.target.metadata
  platformFamily := platform.family
  parserFamily := platform.parserFamily
  transport := selection.transportName
  transportCapability := selection.capability
  facts := facts

/-! ## Records -/

structure ParsedRecord where
  kind : String
  payload : PyDict

structure ParserResult where
  source : String
  records : List ParsedRecord

/-- The regular expressions of the parser. -/
inductive Pattern where
  | version
  | hostnameUptime
  | model
  | baseMac
  | systemSerial
  | hardware
  | inventory
  | power
  | http (label : String)

/-- `pattern.search(text)`, as the groups of the match. -/
abbrev Search := Pattern → String → Option (String → String)

namespace CiscoInventoryParser

variable (search : Search)

/-- The value of a key, `""` without one. -/
def lookup (entries : List (String × String)) (key : String) : String :=
  ((entries.find? fun e => e.1 == key).map (·.2)).getD ""

/-- `_text`. -/
def text : PyVal → Option String
  | .none => none
  | value => if Text.strip value.text = "" then none else some (Text.strip value.text)

/-- `a or b`. -/
def either (a b : Option String) : Option String :=
  match a with
  | some value => if value = "" then b else some value
  | none => b

/-- `_group`. -/
def group (m : Option (String → String)) (name : String) : Option String :=
  match m with
  | some groups => if Text.strip (groups name) = "" then none else some (Text.strip (groups name))
  | none => none

/-- `_flatten_snmp`. -/
def flattenSnmp (rows : List (String × String)) : String :=
  "\n".intercalate (rows.map fun row => row.1 ++ "=" ++ row.2)

/-- `_snmp_value`: the value on the first line that has the token. -/
def snmpValue (output token : String) : Option String :=
  let hasToken (line : String) : Bool := Text.hasPart (Text.lower token) (Text.lower line)
  if hasToken output then
    ((Text.splitLines output).find? hasToken).map fun line =>
      Text.strip (if line.toList.contains '=' then Text.after '=' line else line)
  else none

/-- `_http_value`. -/
def httpValue (output label : String) : Option String :=
  (search (.http label) output).map fun groups => Text.strip (groups "value")

/-- `_stack_members`. -/
def stackMembers (output : String) : List String :=
  ((Text.splitLines output).filter fun line =>
    Text.hasPrefix "*" (Text.strip line) && Text.hasPart "switch" (Text.lower line)).map Text.strip

/-- The name of a device: what its target or the device says, else its identifier. -/
def hostname (deviceId : String) (raw : RawPayload) : Option String :=
  let showVersion := lookup raw.facts.commandOutputs "show version"
  let systemSnmp := flattenSnmp
    (((raw.facts.snmpPayloads.find? fun e => e.1 == "system").map (·.2)).getD [])
  either (text (raw.metadata.getD "hostname"))
    (either (group (search .hostnameUptime showVersion) "hostname")
      (either (snmpValue systemSnmp "sysName") (some deviceId)))

def tupleOf (items : List String) : PyVal := .list (items.map .str) ""

/-- `_device_payload`. -/
def devicePayload (deviceId : String) (managementIp : Option String) (raw : RawPayload) : PyDict :=
  let showVersion := lookup raw.facts.commandOutputs "show version"
  let showInventory := lookup raw.facts.commandOutputs "show inventory"
  let httpText := "\n".intercalate (raw.facts.httpPayloads.map (·.2))
  let systemSnmp := flattenSnmp
    (((raw.facts.snmpPayloads.find? fun e => e.1 == "system").map (·.2)).getD [])
  let inventoryMatch := search .inventory showInventory
  let productId := either (text (raw.metadata.getD "product_id"))
    (either (group inventoryMatch "pid") (httpValue search httpText "product id"))
  let model := either (text (raw.metadata.getD "model"))
    (either (group (search .model showVersion) "model")
      (either productId (httpValue search httpText "model")))
  let serialNumber := either (text (raw.metadata.getD "serial_number"))
    (either (group (search .systemSerial showVersion) "serial")
      (either (group inventoryMatch "serial") (httpValue search httpText "serial")))
  let softwareVersion := either (group (search .version showVersion) "version")
    (either (httpValue search httpText "version") (snmpValue systemSnmp "sysDescr"))
  [("device_id", .str deviceId),
    ("name", .ofOption (hostname search deviceId raw)),
    ("manufacturer", .str "Cisco"),
    ("model", .ofOption model),
    ("serial_number", .ofOption serialNumber),
    ("product_id", .ofOption productId),
    ("management_ip", .ofOption managementIp),
    ("base_mac", .ofOption (either (group (search .baseMac showVersion) "mac")
      (httpValue search httpText "base mac"))),
    ("software_version", .ofOption softwareVersion),
    ("uptime", .ofOption (either (group (search .hostnameUptime showVersion) "uptime")
      (snmpValue systemSnmp "sysUpTime"))),
    ("hardware_revision", .ofOption (either (group inventoryMatch "vid")
      (group (search .hardware showVersion) "hardware"))),
    ("platform", .str raw.parserFamily),
    ("stack_members", tupleOf (stackMembers showVersion))]

/-- The states of the interface table. -/
def portStates : List String := ["connected", "notconnect", "disabled", "err-disabled", "inactive"]

/-- `_speed_to_mbps`, with the `ValueError` of `int`. -/
def readSpeed (value : String) : Except IntError (Option Nat) :=
  let normalized := Text.lower (Text.strip value)
  let withoutUnit := String.ofList normalized.toList.dropLast
  if ["auto", "a-100", "100"].contains normalized then .ok (some 100)
  else if ["a-1000", "1000", "1g"].contains normalized then .ok (some 1000)
  else if normalized.toList.getLast? = some 'g' && Digits.isDigit withoutUnit then
    (Digits.readInt withoutUnit).map fun n => some (n * 1000)
  else if Digits.isDigit normalized then (Digits.readInt normalized).map some
  else .ok none

/-- `part.lower() in {"connected", ...}`. -/
def isState (part : String) : Bool := portStates.contains (Text.lower part)

/-- The lines that are not of a port. -/
def headerLine (line : String) : Bool :=
  Text.hasPrefix "port " (Text.lower line) || Text.hasPrefix "---" (Text.lower line)

def adminStatus (status : String) : String := if status = "connected" then "up" else "down"

def speedValue : Option Nat → PyVal
  | some mbps => .int mbps
  | none => .none

/-- The record of a line whose word at the index is the status. -/
def interfaceRecord (deviceId : String) (parts : List String) (i : Nat) (speed : Option Nat) :
    ParsedRecord :=
  let description := " ".intercalate ((parts.take i).drop 1)
  let status := (parts[i]?).getD ""
  ⟨"interface", [("device_id", .str deviceId),
    ("name", .str (parts.head?.getD "")),
    ("description", if description = "" then .none else .str description),
    ("oper_status", .str status),
    ("admin_status", .str (adminStatus status)),
    ("speed_mbps", speedValue speed)]⟩

/-- One turn of the loop of `_parse_interface_status`, with what `_speed_to_mbps` raises. -/
def readInterfaceLine (deviceId line : String) : Except IntError (Option ParsedRecord) :=
  let line := Text.rstrip line
  let parts := Text.words line
  if line = "" || headerLine line || parts.length < 4 then .ok none
  else match parts.findIdx? isState with
    | none => .ok none
    | some i => (readSpeed ((parts[parts.length - 2]?).getD "")).map fun speed =>
      some (interfaceRecord deviceId parts i speed)

/-- `_parse_interface_status`. -/
def readInterfaceStatus (deviceId output : String) : Except IntError (List ParsedRecord) :=
  return ((← (Text.splitLines output).mapM (readInterfaceLine deviceId)).filterMap id)

/-- The rows of an SNMP group. -/
def snmpRows (raw : RawPayload) (group : String) : List (String × String) :=
  ((raw.facts.snmpPayloads.find? fun e => e.1 == group).map (·.2)).getD []

/-- The rows of the SNMP group, when the output has no interface. -/
def snmpInterfaces (deviceId : String) (rows : List (String × String)) : List ParsedRecord :=
  ((rows.take 128).filter fun row => Text.strip row.2 ≠ "").map fun row =>
    ⟨"interface", [("device_id", .str deviceId), ("name", .str (Text.afterLast '.' row.1)),
      ("description", .str row.2)]⟩

/-- `_interface_records`. -/
def readInterfaceRecords (deviceId : String) (raw : RawPayload) :
    Except IntError (List ParsedRecord) :=
  (readInterfaceStatus deviceId (lookup raw.facts.commandOutputs "show interfaces status")).map
    fun records => if records = [] then snmpInterfaces deviceId (snmpRows raw "interfaces")
      else records

def vlanRecord (deviceId : String) (vlanId : Nat) (name status : String) : ParsedRecord :=
  ⟨"vlan", [("device_id", .str deviceId), ("vlan_id", .int vlanId), ("name", .str name),
    ("status", .str status)]⟩

/-- One turn of the loop of `_vlan_records`. -/
def readVlanLine (deviceId line : String) : Except IntError (Option ParsedRecord) :=
  match Text.words line with
  | vlanId :: name :: status :: _ =>
    if Digits.isDigit vlanId then
      (Digits.readInt vlanId).map fun n => some (vlanRecord deviceId n name status)
    else .ok none
  | _ => .ok none

/-- The loop over the output of `show vlan brief`. -/
def readVlans (deviceId output : String) : Except IntError (List ParsedRecord) :=
  ((Text.splitLines output).mapM (readVlanLine deviceId)).map fun records => records.filterMap id

/-- The record of a row of the SNMP table. -/
def snmpVlan (deviceId : String) (index : Nat) (row : String × String) : Option ParsedRecord :=
  if Text.strip row.2 = "" then none
  else some ⟨"vlan", [("device_id", .str deviceId), ("vlan_id", .int (index + 1)),
    ("name", .str row.2)]⟩

def snmpVlans (deviceId : String) (rows : List (String × String)) : List ParsedRecord :=
  rows.zipIdx.filterMap fun row => snmpVlan deviceId row.2 row.1

/-- `_vlan_records`. -/
def readVlanRecords (deviceId : String) (raw : RawPayload) :
    Except IntError (List ParsedRecord) :=
  (readVlans deviceId (lookup raw.facts.commandOutputs "show vlan brief")).map fun records =>
    if records = [] then snmpVlans deviceId (snmpRows raw "vlans") else records

/-- What has been read of one neighbor. -/
structure Current where
  remoteDeviceId : Option String := none
  localInterface : Option String := none
  remoteInterface : Option String := none

/-- The record of a neighbor, if it has a device and an interface. -/
def Current.record (current : Current) (deviceId protocol : String) : List ParsedRecord :=
  match either current.remoteDeviceId none, either current.localInterface none with
  | some remote, some localInterface =>
    [⟨"neighbor", [("local_device_id", .str deviceId),
      ("local_interface", .str localInterface),
      ("remote_device_id", .str remote),
      ("remote_interface", .ofOption current.remoteInterface),
      ("protocol", .str protocol)]⟩]
  | _, _ => []

/-- One line of a neighbor, stripped and not empty. -/
def Current.read (current : Current) (line : String) : Current :=
  let lower := Text.lower line
  if Text.hasPrefix "device id:" lower || Text.hasPrefix "system name:" lower then
    { current with remoteDeviceId := some (Text.strip (Text.after ':' line)) }
  else if Text.hasPrefix "interface:" lower then
    { current with
      localInterface := some (Text.strip (Text.before ',' (Text.after ':' line))) }
  else if Text.hasPrefix "port id" lower || Text.hasPrefix "port description" lower then
    if Text.strip (Text.after ':' line) = "" then current
    else { current with remoteInterface := some (Text.strip (Text.after ':' line)) }
  else current

/-- The loop of `_parse_neighbor_detail`: an empty line ends a neighbor. -/
def neighborLoop (deviceId protocol : String) (current : Current) :
    List String → List ParsedRecord
  | [] => []
  | line :: lines =>
    if Text.strip line = "" then
      current.record deviceId protocol ++ neighborLoop deviceId protocol {} lines
    else neighborLoop deviceId protocol (current.read (Text.strip line)) lines

/-- `_parse_neighbor_detail`. -/
def parseNeighborDetail (deviceId output protocol : String) : List ParsedRecord :=
  neighborLoop deviceId protocol {} (Text.splitLines output ++ [""])

/-- `_neighbor_records`. -/
def neighborRecords (deviceId : String) (raw : RawPayload) : List ParsedRecord :=
  parseNeighborDetail deviceId (lookup raw.facts.commandOutputs "show cdp neighbors detail")
    "CDP" ++
    parseNeighborDetail deviceId (lookup raw.facts.commandOutputs "show lldp neighbors detail")
      "LLDP"

/-- `_power_record`. -/
def powerRecord (deviceId : String) (raw : RawPayload) : Option ParsedRecord :=
  let output := lookup raw.facts.commandOutputs "show power inline"
  if output ≠ "" then
    let m := search .power output
    let poeEnabled := !Text.hasPart "off" (Text.lower output) &&
      !Text.hasPart "disabled" (Text.lower output)
    some ⟨"power", [("device_id", .str deviceId), ("source", .str "poe"),
      ("status", .str (if poeEnabled then "available" else "disabled")),
      ("available_watts", .ofOption (group m "available")),
      ("consumed_watts", .ofOption (group m "used")),
      ("poe_enabled", .bool poeEnabled)]⟩
  else if snmpRows raw "poe" = [] then none
  else some ⟨"power", [("device_id", .str deviceId), ("source", .str "poe"),
    ("status", .str "observed"), ("poe_enabled", .bool true)]⟩

/-- What `int` raises. Its text, which goes on with the literal, is not kept. -/
def raised : IntError → Discovery.Exn
  | .valueError => .valueError "invalid literal for int() with base 10"

/-- `parse`, for a source that names the payload when its target has no identifier. -/
def parse (source : String) (raw : RawPayload) : Except Discovery.Exn ParserResult := do
  let deviceId := (text (.str raw.identifier)).getD source
  let interfaces ← (readInterfaceRecords deviceId raw).mapError raised
  let vlans ← (readVlanRecords deviceId raw).mapError raised
  return {
    source := source
    records := ⟨"device", devicePayload search deviceId (text (.str raw.address)) raw⟩ ::
      (interfaces ++ vlans ++ neighborRecords deviceId raw ++
        (powerRecord search deviceId raw).toList) }

end CiscoInventoryParser
end Cisco
end Collectors
end NetOps
