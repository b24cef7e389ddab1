import NetOps.Discovery.Collectors
import NetOps.Transports.Manager
import NetOps.Vendors.Cisco

/-!
# Collectors.Cisco

The Cisco inventory collectors (`collectors/cisco`): how they resolve a platform from their
context, select a transport for it, and collect over one session of that transport.

* `select_telnet_iff`, `select_http_iff`: when the selector picks an insecure transport, over the
  transports the application registers.
* `collect_asks`: the one session a collector asks for.
-/

namespace NetOps
namespace Collectors
namespace Cisco

open Discovery (Exn PyVal PyDict TransportCapability CollectorCapability CollectorContext
  Conversation CredentialReference NetworkRequest Collector CollectorRegistry)
open Transports (ApplicationManager BaseTransport TransportManager applicationCapabilities)
open Vendors.Cisco

variable {W : Type}

/-- `_optional_string`. -/
def optionalString (value : PyVal) : Option String :=
  match value with
  | .none => none
  | value => if Text.strip value.text = "" then none else some (Text.strip value.text)

/-! ## Transport selection -/

/-- `TRANSPORT_PRIORITY`. -/
def transportPriority : List TransportCapability := [.ssh, .telnet, .https, .http, .snmp]

/-- `DEFAULT_TRANSPORT_NAMES`. -/
def defaultTransportNames : TransportCapability → List String
  | .ssh => ["netmiko", "paramiko"]
  | .telnet => ["telnetlib"]
  | .https => ["httpx"]
  | .http => ["httpx"]
  | .snmp => ["pysnmp"]
  | .icmp => []

structure CiscoTransportSelection where
  capability : TransportCapability
  transportName : String
  deriving DecidableEq

namespace CiscoTransportSelector

/-- The preferred transport, with the first capability in priority order that the platform
supports too. -/
def selectPreferred (m : TransportManager W) (platform : CiscoPlatformDefinition)
    (preferred : String) : Except Exn CiscoTransportSelection := do
  let transport ← m.resolve preferred
  let capabilities := platform.transportSupport.filter transport.capabilities.contains
  if capabilities = [] then
    .error (.raised
      s!"Transport '{preferred}' is not supported by '{platform.family}'.")
  else match transportPriority.find? capabilities.contains with
    | some capability => .ok ⟨capability, transport.name⟩
    | none => .error (.raised "No supported transport capability found.")

/-- The first of the names whose transport has the capability. An unknown name raises: what
`resolve` raises is not the `KeyError` the loop skips. -/
def selectName (m : TransportManager W) (capability : TransportCapability) :
    List String → Except Exn (Option CiscoTransportSelection)
  | [] => .ok none
  | name :: names =>
    match m.resolve name with
    | .error e => .error e
    | .ok transport =>
      if transport.capabilities.contains capability then .ok (some ⟨capability, transport.name⟩)
      else selectName m capability names

def selectDefault (m : TransportManager W) (platform : CiscoPlatformDefinition) :
    List TransportCapability → Except Exn CiscoTransportSelection
  | [] => .error (.raised s!"No registered transport is available for '{platform.family}'.")
  | capability :: rest =>
    if platform.transportSupport.contains capability then
      match selectName m capability (defaultTransportNames capability) with
      | .error e => .error e
      | .ok (some selection) => .ok selection
      | .ok none => selectDefault m platform rest
    else selectDefault m platform rest

def select (m : TransportManager W) (platform : CiscoPlatformDefinition)
    (preferred : Option String) : Except Exn CiscoTransportSelection :=
  match preferred with
  | some name => selectPreferred m platform name
  | none => selectDefault m platform transportPriority

end CiscoTransportSelector

/-! ## Collectors -/

/-- `parse` is what parsing and normalizing a payload gives: whether it names a device. -/
structure CiscoInventoryCollector where
  name : String
  capabilities : List CollectorCapability
  platformFamily : String
  platformRegistry : CiscoPlatformRegistry := defaultRegistry
  parse : CollectorContext → PyDict → Except Exn Bool

/-- Raise what a plain function raised. -/
def lift {α : Type} (r : Except Exn α) : Conversation α := .done r

@[simp] theorem lift_ok_bind {α β : Type} (a : α) (f : α → Conversation β) :
    lift (.ok a) >>= f = f a := rfl

@[simp] theorem lift_error_bind {α β : Type} (e : Exn) (f : α → Conversation β) :
    lift (.error e) >>= f = .done (.error e) := rfl

namespace CiscoInventoryCollector

/-- The family of the target, else of the context, else the collector's own. -/
def requestedFamily (c : CiscoInventoryCollector) (context : CollectorContext) : String :=
  (optionalString (context.target.metadata.getD "platform_family") <|>
    optionalString (context.metadata.getD "platform_family")).getD c.platformFamily

def detectionSignals (metadata : PyDict) : CiscoDetectionSignals where
  model := optionalString (metadata.getD "model")
  productId := optionalString (metadata.getD "product_id")
  platformString := optionalString (metadata.getD "platform_string")
  sysObjectId := optionalString (metadata.getD "sys_object_id")
  httpBanner := optionalString (metadata.getD "http_banner")

/-- The platform of the requested family, if there is one. -/
def familyPlatform (c : CiscoInventoryCollector) (family : String) :
    Option CiscoPlatformDefinition :=
  if family = "" then none else c.platformRegistry.get (canonicalizeFamily family)

def resolvePlatform (c : CiscoInventoryCollector) (context : CollectorContext) :
    Except Exn CiscoPlatformDefinition :=
  match c.familyPlatform (c.requestedFamily context) <|>
      c.platformRegistry.detect (detectionSignals context.target.metadata) with
  | some platform => .ok platform
  | none => .error (.raised "Unable to resolve supported Cisco platform.")

/-- The transport the metadata of a context asks for. -/
def preferredTransport (context : CollectorContext) : Option String :=
  optionalString (context.metadata.getD "transport_name")

def selectTransport (m : TransportManager W) (context : CollectorContext)
    (platform : CiscoPlatformDefinition) : Except Exn CiscoTransportSelection :=
  CiscoTransportSelector.select m platform (preferredTransport context)

/-- `_credential_reference`. A discovery target always has a tenant. -/
def credentialReference (context : CollectorContext) (transport : String) :
    Option CredentialReference :=
  match context.target.metadata.getD "credential_profile_id",
      context.target.metadata.getD "credential_reference" with
  | .none, .none => none
  | .none, reference => some ⟨reference.text, transport, context.target.tenantId⟩
  | reference, _ => some ⟨reference.text, transport, context.target.tenantId⟩

/-! ### Collecting -/

/-- `SSH_COMMAND_CATEGORIES`. -/
def sshCommandCategories : List CommandCategory :=
  [.inventory, .system, .interfaces, .vlans, .power, .poe, .neighbors]

/-- `SNMP_GROUPS`. -/
def snmpGroups : List SnmpGroup := [.system, .inventory, .interfaces, .vlans, .poe, .neighbors]

def inventoryCommands (platform : CiscoPlatformDefinition) : List String :=
  (sshCommandCategories.filter fun category =>
    !(category == .power || category == .poe) || platform.capabilities.contains .poe).flatMap
      (fun category => (catalogEntries commonCommandCatalog category).filter fun command =>
        !Text.hasPart "running-config" command && !Text.hasPart "startup-config" command)
    |>.eraseDups

def snmpGroupSupported (platform : CiscoPlatformDefinition) : SnmpGroup → Bool
  | .poe => platform.capabilities.contains .poe
  | .vlans => platform.capabilities.contains .vlan
  | .neighbors => platform.capabilities.contains .neighborDiscovery
  | _ => true

/-- Ask each of a list of things over the session, with a cancellation check before each. -/
def askAll : List String → Conversation (List (String × String))
  | [] => pure []
  | text :: texts => do
    Conversation.check
    let answer ← Conversation.send (.exchange text)
    let answers ← askAll texts
    pure ((text, answer) :: answers)

/-- The SNMP walks, by group; groups without rows are left out. -/
def walkGroups (platform : CiscoPlatformDefinition) :
    List SnmpGroup → Conversation (List (String × String))
  | [] => pure []
  | group :: groups => do
    Conversation.check
    if snmpGroupSupported platform group then do
      let answers ← askAll (catalogEntries commonSnmpCatalog group)
      let rest ← walkGroups platform groups
      let rows := String.join (answers.map (·.2))
      pure (if rows = "" then rest else (group.value, rows) :: rest)
    else walkGroups platform groups

/-- A dictionary of a payload, as the list of its entries. -/
def payloadDict (entries : List (String × String)) : PyVal :=
  .list (entries.map fun e => .list [.str e.1, .str e.2] "") ""

/-- What is asked over a session of the selected capability. -/
def exchange (platform : CiscoPlatformDefinition) :
    TransportCapability → Conversation (String × PyVal)
  | .ssh | .telnet => do
    let commands ← askAll (inventoryCommands platform)
    pure ("commands", payloadDict commands)
  | .snmp => do
    let groups ← walkGroups platform snmpGroups
    pure ("snmp", payloadDict groups)
  | .http | .https => do
    let responses ← askAll commonHttpPaths
    pure ("http", payloadDict responses)
  | .icmp => Conversation.raise (.raised "Unsupported transport capability: ICMP")

/-- `collect`. Sessions of every transport have the methods their capability calls for. -/
def collect (m : TransportManager W) (c : CiscoInventoryCollector) (context : CollectorContext) :
    Conversation PyDict := do
  let platform ← lift (c.resolvePlatform context)
  let selection ← lift (selectTransport m context platform)
  let _ ← Conversation.send (.openSession selection.transportName context.target.identifier
    context.target.address selection.capability
    (credentialReference context selection.transportName))
  let data ← exchange platform selection.capability
  pure [("target", payloadDict [("identifier", context.target.identifier),
      ("address", context.target.address)]),
    ("platform_family", .str platform.family), ("parser_family", .str platform.parserFamily),
    ("transport", .str selection.transportName),
    ("transport_capability", .str selection.capability.value), data]

def toCollector (m : TransportManager W) (c : CiscoInventoryCollector) : Collector where
  name := c.name
  capabilities := c.capabilities
  parser := some "cisco-inventory-parser"
  healthCheck context := do
    let _ ← lift (c.resolvePlatform context)
    pure ()
  collect := c.collect m
  normalize := c.parse

@[simp] theorem toCollector_collect (m : TransportManager W) (c : CiscoInventoryCollector) :
    (c.toCollector m).collect = c.collect m := rfl

end CiscoInventoryCollector

/-- A registry that holds Cisco collectors only. -/
def ciscoRegistry (m : TransportManager W)
    (collectors : List (String × CiscoInventoryCollector)) : CollectorRegistry :=
  ⟨collectors.map fun e => (e.1, e.2.toCollector m)⟩

/-- `build_cisco_inventory_registry`, in registration order, the alias last. -/
def inventoryCollectors (parse : CollectorContext → PyDict → Except Exn Bool) :
    List (String × CiscoInventoryCollector) :=
  let ios (name family : String) : CiscoInventoryCollector :=
    ⟨name, [.interfaces, .vlans, .cdp, .lldp, .poe], family, defaultRegistry, parse⟩
  let ce500 : CiscoInventoryCollector := ⟨"cisco-ce500-inventory", [.interfaces, .vlans, .poe],
    "catalyst-express-500", defaultRegistry, parse⟩
  let aironet : CiscoInventoryCollector := ⟨"cisco-aironet-inventory", [.interfaces, .vlans],
    "aironet-1131", defaultRegistry, parse⟩
  let catalyst2960x := ios "cisco-catalyst-2960x-inventory" "catalyst-2960x"
  [("cisco-catalyst-2960-inventory", ios "cisco-catalyst-2960-inventory" "catalyst-2960"),
    ("cisco-catalyst-2960x-inventory", catalyst2960x),
    ("cisco-catalyst-3560-inventory", ios "cisco-catalyst-3560-inventory" "catalyst-3560"),
    ("cisco-ce500-inventory", ce500),
    ("cisco-aironet-inventory", aironet),
    ("cisco-ios-inventory", catalyst2960x)]

/-! ## What is selected -/

namespace CiscoTransportSelector

variable (m : ApplicationManager W) (platform : CiscoPlatformDefinition)

/-- A preferred transport of one capability is used for that capability, or not at all. -/
theorem selectPreferred_of_single {m : TransportManager W} (platform : CiscoPlatformDefinition)
    {name : String} {transport : BaseTransport W} {capability : TransportCapability}
    (hres : m.resolve name = .ok transport) (hcap : transport.capabilities = [capability])
    (hprio : capability ∈ transportPriority) :
    (capability ∈ platform.transportSupport →
      selectPreferred m platform name = .ok ⟨capability, transport.name⟩) ∧
    (capability ∉ platform.transportSupport →
      ∃ e, selectPreferred m platform name = .error e) := by
  have hmem : ∀ c, c ∈ platform.transportSupport.filter transport.capabilities.contains ↔
      c ∈ platform.transportSupport ∧ c = capability := by
    intro c
    rw [hcap, List.mem_filter]
    simp
  constructor
  · intro hsupport
    have hne : platform.transportSupport.filter transport.capabilities.contains ≠ [] :=
      List.ne_nil_of_mem ((hmem capability).2 ⟨hsupport, rfl⟩)
    have hfind : transportPriority.find?
        (platform.transportSupport.filter transport.capabilities.contains).contains =
          some capability := by
      have hpred : (platform.transportSupport.filter transport.capabilities.contains).contains =
          fun c => c == capability := by
        funext c
        rw [Bool.eq_iff_iff, List.contains_iff_mem, hmem, beq_iff_eq]
        exact and_iff_right_of_imp fun h => h ▸ hsupport
      rw [hpred]
      cases capability <;> first | rfl | exact absurd hprio (by decide)
    simp only [selectPreferred, hres, bind, Except.bind, hne, if_false, hfind]
  · intro hsupport
    have hnil : platform.transportSupport.filter transport.capabilities.contains = [] :=
      List.eq_nil_iff_forall_not_mem.2 fun c hc => hsupport (((hmem c).1 hc).2 ▸ ((hmem c).1 hc).1)
    simp only [selectPreferred, hres, bind, Except.bind, hnil, if_true]
    exact ⟨_, rfl⟩

theorem single_of_mem {e : String × List TransportCapability}
    (h : e ∈ applicationCapabilities) : ∃ c ∈ transportPriority, e.2 = [c] := by
  simp only [applicationCapabilities, List.mem_cons, List.not_mem_nil, or_false] at h
  rcases h with rfl | rfl | rfl | rfl | rfl <;> exact ⟨_, by decide, rfl⟩

theorem find_of_mem {e : String × List TransportCapability} (h : e ∈ applicationCapabilities) :
    (applicationCapabilities.find? fun e' => e'.1 == e.1) = some e := by
  simp only [applicationCapabilities, List.mem_cons, List.not_mem_nil, or_false] at h
  rcases h with rfl | rfl | rfl | rfl | rfl <;> decide

/-- What a preferred transport selects: the capability of that transport, if the platform
supports it. -/
theorem selectPreferred_ok_iff {name : String} {selection : CiscoTransportSelection} :
    selectPreferred m.toTransportManager platform name = .ok selection ↔
      selection.transportName = name ∧ (name, [selection.capability]) ∈ applicationCapabilities ∧
        selection.capability ∈ platform.transportSupport := by
  constructor
  · intro h
    cases hres : m.resolve name with
    | error e => simp [selectPreferred, hres, bind, Except.bind] at h
    | ok transport =>
      obtain ⟨hname, hmem⟩ := m.resolve_ok hres
      obtain ⟨c, hprio, hcap⟩ := single_of_mem hmem
      have hsingle := selectPreferred_of_single platform hres hcap hprio
      by_cases hsupport : c ∈ platform.transportSupport
      · rw [hsingle.1 hsupport, Except.ok.injEq] at h
        subst h
        exact ⟨hname, hcap ▸ hmem, hsupport⟩
      · obtain ⟨e, he⟩ := hsingle.2 hsupport
        rw [he] at h
        cases h
  · rintro ⟨hname, hmem, hsupport⟩
    obtain ⟨transport, hres, hname', hcap⟩ := m.resolve_of_find (find_of_mem hmem)
    obtain ⟨c, hprio, hc⟩ := single_of_mem hmem
    cases hc
    rw [(selectPreferred_of_single platform hres hcap hprio).1 hsupport, hname', ← hname]

/-- Without a preferred transport: SSH if the platform supports it. A platform with Telnet and no
SSH gets nothing, since `telnetlib` is not registered. Then come HTTP and SNMP. -/
theorem selectDefault_ok_iff {selection : CiscoTransportSelection} :
    selectDefault m.toTransportManager platform transportPriority = .ok selection ↔
      .ssh ∈ platform.transportSupport ∧ selection = ⟨.ssh, "netmiko"⟩ ∨
        .ssh ∉ platform.transportSupport ∧ .telnet ∉ platform.transportSupport ∧
          (.http ∈ platform.transportSupport ∧ selection = ⟨.http, "httpx"⟩ ∨
            .http ∉ platform.transportSupport ∧ .snmp ∈ platform.transportSupport ∧
              selection = ⟨.snmp, "pysnmp"⟩) := by
  obtain ⟨netmiko, hnetmiko, hnetmikoName, hnetmikoCap⟩ :=
    m.resolve_of_find (find_of_mem (e := ("netmiko", [.ssh])) (by decide))
  obtain ⟨httpx, hhttpx, hhttpxName, hhttpxCap⟩ :=
    m.resolve_of_find (find_of_mem (e := ("httpx", [.http])) (by decide))
  obtain ⟨pysnmp, hpysnmp, hpysnmpName, hpysnmpCap⟩ :=
    m.resolve_of_find (find_of_mem (e := ("pysnmp", [.snmp])) (by decide))
  have htelnetlib : ∃ e, m.resolve "telnetlib" = .error e := by
    cases hres : m.resolve "telnetlib" with
    | error e => exact ⟨e, rfl⟩
    | ok transport =>
      exact absurd (m.resolve_ok hres).2 (by simp [applicationCapabilities])
  obtain ⟨e, htelnetlib⟩ := htelnetlib
  by_cases hssh : TransportCapability.ssh ∈ platform.transportSupport
  · simp [transportPriority, selectDefault, defaultTransportNames, selectName, hssh, hnetmiko,
      hnetmikoName, hnetmikoCap, eq_comm]
  by_cases htelnet : TransportCapability.telnet ∈ platform.transportSupport
  · simp [transportPriority, selectDefault, defaultTransportNames, selectName, hssh, htelnet,
      htelnetlib]
  by_cases hhttp : TransportCapability.http ∈ platform.transportSupport
  · by_cases hhttps : TransportCapability.https ∈ platform.transportSupport <;>
      simp [transportPriority, selectDefault, defaultTransportNames, selectName, hssh, htelnet,
        hhttps, hhttp, hhttpx, hhttpxName, hhttpxCap, eq_comm]
  · by_cases hhttps : TransportCapability.https ∈ platform.transportSupport <;>
      by_cases hsnmp : TransportCapability.snmp ∈ platform.transportSupport <;>
        simp [transportPriority, selectDefault, defaultTransportNames, selectName, hssh, htelnet,
          hhttps, hhttp, hsnmp, hhttpx, hhttpxCap, hpysnmp, hpysnmpName, hpysnmpCap, eq_comm]

/-- Telnet is selected exactly if `telnet` is asked for and the platform supports it. -/
theorem select_telnet_iff (preferred : Option String) :
    (∃ name, select m.toTransportManager platform preferred = .ok ⟨.telnet, name⟩) ↔
      preferred = some "telnet" ∧ .telnet ∈ platform.transportSupport := by
  cases preferred with
  | none => simp [select, selectDefault_ok_iff]
  | some name =>
    simp only [select, selectPreferred_ok_iff, applicationCapabilities]
    simp

/-- HTTP is selected exactly if the platform supports it and either `httpx` is asked for, or
nothing is and the platform supports neither SSH nor Telnet. -/
theorem select_http_iff (preferred : Option String) :
    (∃ name, select m.toTransportManager platform preferred = .ok ⟨.http, name⟩) ↔
      .http ∈ platform.transportSupport ∧ (preferred = some "httpx" ∨ preferred = none ∧
        .ssh ∉ platform.transportSupport ∧ .telnet ∉ platform.transportSupport) := by
  cases preferred with
  | none =>
    simp [select, selectDefault_ok_iff]
    tauto
  | some name =>
    simp only [select, selectPreferred_ok_iff, applicationCapabilities]
    simp [and_comm]

end CiscoTransportSelector

/-! ## What is asked of the network -/

namespace CiscoInventoryCollector

variable {P : NetworkRequest → Prop} (hP : ∀ text, P (.exchange text))

include hP

theorem askAll_asks (texts : List String) : (askAll texts).Asks P := by
  induction texts with
  | nil => trivial
  | cons text texts ih =>
    have hcheck : Conversation.check.Asks P := fun _ => trivial
    have hsend : (Conversation.send (.exchange text)).Asks P := ⟨hP text, fun _ => trivial⟩
    exact hcheck.bind fun _ => hsend.bind fun _ => ih.bind fun _ => trivial

theorem walkGroups_asks (platform : CiscoPlatformDefinition) (groups : List SnmpGroup) :
    (walkGroups platform groups).Asks P := by
  induction groups with
  | nil => trivial
  | cons group groups ih =>
    have hcheck : Conversation.check.Asks P := fun _ => trivial
    refine hcheck.bind fun _ => ?_
    split
    · exact (askAll_asks hP _).bind fun _ => ih.bind fun _ => trivial
    · exact ih

theorem exchange_asks (platform : CiscoPlatformDefinition) (capability : TransportCapability) :
    (exchange platform capability).Asks P := by
  cases capability with
  | ssh | telnet => exact (askAll_asks hP _).bind fun _ => trivial
  | snmp => exact (walkGroups_asks hP _ _).bind fun _ => trivial
  | http | https => exact (askAll_asks hP _).bind fun _ => trivial
  | icmp => trivial

/-- A collector asks for one session: that of the transport it selects for its platform. -/
theorem collect_asks_iff {m : TransportManager W} {c : CiscoInventoryCollector}
    {context : CollectorContext} :
    (c.collect m context).Asks P ↔ ∀ platform, c.resolvePlatform context = .ok platform →
      ∀ selection, selectTransport m context platform = .ok selection →
        P (.openSession selection.transportName context.target.identifier context.target.address
          selection.capability (credentialReference context selection.transportName)) := by
  cases hplatform : c.resolvePlatform context with
  | error e => simp [collect, hplatform, Conversation.Asks]
  | ok platform =>
    cases hselection : selectTransport m context platform with
    | error e => simp [collect, hplatform, hselection, Conversation.Asks]
    | ok selection =>
      simp only [Except.ok.injEq, forall_eq', hselection, collect, hplatform, lift_ok_bind]
      constructor
      · intro h
        exact h.1
      · intro h
        have hsend : (Conversation.send (.openSession selection.transportName
            context.target.identifier context.target.address selection.capability
            (credentialReference context selection.transportName))).Asks P :=
          ⟨h, fun _ => trivial⟩
        exact hsend.bind fun _ =>
          (exchange_asks hP platform selection.capability).bind fun _ => trivial

end CiscoInventoryCollector

end Cisco
end Collectors
end NetOps
