import NetOps.Discovery.Records
import NetOps.Digits
import NetOps.Net.IpAddress

/-!
# Discovery.Policy

Transport policies (`discovery/transport_policy.py`, and `_resolve_target` and
`_resolve_transport_policy` of `discovery/execution.py`): what a target and its credential
profile allow, as an ordered list of transports.

A `MultiTransportPolicy` carries what its `__post_init__` checks: an insecure transport is in it
only with the opt-in for it.
-/

namespace NetOps
namespace Discovery

open Text

/-! ## Transports -/

inductive TransportService where
  | ssh
  | telnet
  | http
  | https
  | snmp
  deriving DecidableEq

/-- `CAPABILITY_TO_SERVICE.get`. -/
def capabilityToService : TransportCapability → Option TransportService
  | .ssh => some .ssh
  | .telnet => some .telnet
  | .http => some .http
  | .https => some .https
  | .snmp => some .snmp
  | .icmp => none

/-- `INSECURE_TRANSPORTS`. -/
def insecureTransports : List TransportCapability := [.telnet, .http]

/-- `CREDENTIAL_TYPE_COMPATIBILITY.get(credential_type, [])`. -/
def credentialTypeCompatibility (credentialType : String) : List String :=
  match credentialType with
  | "ssh_password" => ["ssh", "telnet", "http", "https"]
  | "ssh_key" => ["ssh"]
  | "telnet_password" => ["telnet"]
  | "snmp_v2c" => ["snmp"]
  | "snmp_v3" => ["snmp"]
  | "http_basic" => ["http", "https"]
  | "http_token" => ["http", "https"]
  | _ => []

/-- A profile without a credential type is compatible with every transport. -/
def credentialCompatible (credentialType : Option String) (transportName : String) : Bool :=
  match credentialType with
  | none => true
  | some t => t = "" || transportName ∈ credentialTypeCompatibility t

structure TransportPolicyEntry where
  capability : TransportCapability
  transportName : String
  service : TransportService
  isInsecure : Bool := false
  credentialCompatible : Bool := true

/-- The entry is allowed under the two opt-ins. -/
def TransportPolicyEntry.Allowed (allowInsecure allowInsecureHttp : Bool)
    (t : TransportPolicyEntry) : Prop :=
  t.isInsecure = true →
    (t.capability = .telnet → allowInsecure = true) ∧
      (t.capability = .http → allowInsecureHttp = true)

instance (a h : Bool) (t : TransportPolicyEntry) : Decidable (t.Allowed a h) :=
  inferInstanceAs (Decidable (_ → _ ∧ _))

structure MultiTransportPolicy where
  transports : List TransportPolicyEntry
  allowInsecure : Bool := false
  allowInsecureHttp : Bool := false
  credentialProfileId : Option UUID := none
  allowed : ∀ t ∈ transports, t.Allowed allowInsecure allowInsecureHttp

/-- The constructor, with the check of `__post_init__`. -/
def MultiTransportPolicy.new (transports : List TransportPolicyEntry)
    (allowInsecure allowInsecureHttp : Bool) (credentialProfileId : Option UUID) :
    Except Exn MultiTransportPolicy :=
  if h : ∀ t ∈ transports, t.Allowed allowInsecure allowInsecureHttp then
    .ok ⟨transports, allowInsecure, allowInsecureHttp, credentialProfileId, h⟩
  else
    .error (.valueError "Insecure transports require explicit allow_insecure=True")

/-- Keep the first entry of every name. -/
def dedupeBy {α : Type} (name : α → String) : List α → List α
  | [] => []
  | a :: as => a :: (dedupeBy name as).filter fun b => name b != name a

theorem nodup_dedupeBy {α : Type} (name : α → String) (as : List α) :
    ((dedupeBy name as).map name).Nodup := by
  induction as with
  | nil => exact .nil
  | cons a as ih =>
    rw [dedupeBy, List.map_cons, List.nodup_cons]
    refine ⟨fun hmem => ?_, ih.sublist (List.filter_sublist.map name)⟩
    obtain ⟨b, hb, hname⟩ := List.mem_map.1 hmem
    have hne := (List.mem_filter.1 hb).2
    rw [hname] at hne
    simp at hne

theorem mem_of_mem_dedupeBy {α : Type} {name : α → String} {as : List α} {a : α}
    (h : a ∈ dedupeBy name as) : a ∈ as := by
  induction as with
  | nil => exact h
  | cons b bs ih =>
    rw [dedupeBy, List.mem_cons] at h
    obtain rfl | h := h
    · exact List.mem_cons_self
    · exact List.mem_cons_of_mem b (ih (List.mem_filter.1 h).1)

/-- The entry of one transport type of a profile, unless it is unknown or lacks its opt-in. -/
def profileEntry (credentialType : Option String) (allowInsecure allowInsecureHttp : Bool)
    (transportName : String) : Option TransportPolicyEntry :=
  match TransportCapability.ofValue (upper transportName) with
  | none => none
  | some capability =>
    match capabilityToService capability with
    | none => none
    | some service =>
      if (capability = .telnet ∧ allowInsecure = false) ∨
          (capability = .http ∧ allowInsecureHttp = false) then none
      else some {
        capability := capability
        transportName := lower transportName
        service := service
        isInsecure := insecureTransports.contains capability
        credentialCompatible := credentialCompatible credentialType (lower transportName) }

/-- `MultiTransportPolicy.from_credential_profile`. -/
def MultiTransportPolicy.fromCredentialProfile (profile : CredentialProfileRecord)
    (allowInsecure allowInsecureHttp : Bool) : Except Exn MultiTransportPolicy :=
  let transportTypes := if profile.transportTypes = [] then ["ssh"] else profile.transportTypes
  let entries := transportTypes.filterMap
    (profileEntry profile.credentialType allowInsecure allowInsecureHttp)
  MultiTransportPolicy.new (dedupeBy (·.transportName) entries) allowInsecure allowInsecureHttp
    (some profile.id)

/-! ## Targets as the execution sees them -/

/-- `DiscoveryTargetRecordView`. -/
structure DiscoveryTargetRecordView where
  id : UUID
  tenantId : String
  identifier : String
  address : String
  enabled : Bool
  metadata : PyDict

def setDefaultOf (metadata : PyDict) (key : String) : Option String → PyDict
  | some value => metadata.setDefault key (.str value)
  | none => metadata

/-- The metadata of `_resolve_target`: the target's own, with its columns laid over or under. -/
def resolvedMetadata (target : DiscoveryTargetRecord) : PyDict :=
  let metadata := setDefaultOf target.metadataJson "platform_family" target.platformHint
  let metadata := setDefaultOf metadata "transport_name" target.preferredTransport
  let metadata := metadata.set "credential_reference" (.str target.credentialReference)
  let metadata := metadata.set "credential_profile_id" (.ofOption target.credentialProfileId)
  let metadata := metadata.set "allow_insecure_telnet" (.bool target.allowInsecureTelnet)
  let metadata := metadata.set "allow_insecure_http"
    (.bool ((metadata.getD "allow_insecure_http").truthy || target.allowInsecureHttp))
  metadata.setDefault "allowed_fallback_transports"
    (.list (target.allowedFallbackTransports.map .str) "")

def DiscoveryTargetRecord.view (target : DiscoveryTargetRecord) : DiscoveryTargetRecordView where
  id := target.id
  tenantId := target.tenantId
  identifier := target.identifier
  address := target.address
  enabled := target.enabled
  metadata := resolvedMetadata target

/-! ## The policy of a target -/

/-- The names a credential profile brings in, in order. -/
def profileNames (profile : Option CredentialProfileRecord)
    (allowInsecure allowInsecureHttp : Bool) : Except Exn (List String) :=
  match profile with
  | none => .ok ["ssh"]
  | some profile => do
    let policy ← MultiTransportPolicy.fromCredentialProfile profile allowInsecure allowInsecureHttp
    let names := (policy.transports.filter fun t =>
      !t.isInsecure || (t.capability == .telnet && allowInsecure) ||
        (t.capability == .http && allowInsecureHttp)).map (·.transportName)
    pure (if names = [] then ["ssh"] else names)

/-- The transport types of a profile; `none` without a profile. -/
def supportedTransports (profile : Option CredentialProfileRecord) : Option (List String) :=
  profile.map fun p => p.transportTypes.map lower

/-- Add one fallback of the target, if the profile supports it and it has its opt-in. -/
def addFallback (supported : Option (List String)) (allowInsecure allowInsecureHttp : Bool)
    (names : List String) (name : String) : List String :=
  if (supported.any fun s => !s.contains name) || names.contains name ||
      (name == "telnet" && !allowInsecure) || (name == "http" && !allowInsecureHttp) then names
  else names ++ [name]

/-- `list(raw) if isinstance(raw, list) else []`, as names. -/
def fallbackNames (metadata : PyDict) : List String :=
  match metadata.getD "allowed_fallback_transports" with
  | .list items _ => items.map fun t => lower t.text
  | _ => []

/-- Move the preferred transport to the front. -/
def preferFirst (metadata : PyDict) (ordered : List String) : List String :=
  match metadata.getD "transport_name" with
  | .str preferred =>
    if ordered.contains (lower preferred) then lower preferred :: ordered.erase (lower preferred)
    else ordered
  | _ => ordered

/-- The entry of one name of the chain. Every insecure transport asks for the Telnet opt-in. -/
def chainEntry (credentialType : Option String) (allowInsecure : Bool) (name : String) :
    Option TransportPolicyEntry :=
  match TransportCapability.ofValue (upper name) with
  | none => none
  | some capability =>
    match capabilityToService capability with
    | none => none
    | some service =>
      if insecureTransports.contains capability && !allowInsecure then none
      else some {
        capability := capability
        transportName := lower name
        service := service
        isInsecure := insecureTransports.contains capability
        credentialCompatible := credentialCompatible credentialType (lower name) }

/-- `_resolve_transport_policy`, given the profile the target names. -/
def transportPolicy (metadata : PyDict) (profile : Option CredentialProfileRecord) :
    Except Exn MultiTransportPolicy := do
  let allowInsecure := (metadata.getD "allow_insecure_telnet").truthy
  let allowInsecureHttp := (metadata.getD "allow_insecure_http").truthy
  let names ← profileNames profile allowInsecure allowInsecureHttp
  let names := (fallbackNames metadata).foldl
    (addFallback (supportedTransports profile) allowInsecure allowInsecureHttp) names
  let ordered := preferFirst metadata (dedupeBy id names)
  let entries := ordered.filterMap (chainEntry (profile.bind (·.credentialType)) allowInsecure)
  MultiTransportPolicy.new entries allowInsecure allowInsecureHttp (profile.map (·.id))

/-! ## The profile of a target -/

/-- `text.replace(part, "")`, over at most `fuel` characters. -/
def removeParts (part : List Char) : Nat → List Char → List Char
  | 0, cs => cs
  | _ + 1, [] => []
  | fuel + 1, c :: cs =>
    if part.isPrefixOf (c :: cs) then removeParts part fuel ((c :: cs).drop part.length)
    else c :: removeParts part fuel cs

/-- What follows the prefix of a hexadecimal numeral. -/
def afterPrefix : List Char → List Char
  | '0' :: x :: cs =>
    if x = 'x' ∨ x = 'X' then (if cs.head? = some '_' then cs.tail else cs) else '0' :: x :: cs
  | cs => cs

/-- `int(text, 16)` of a text without `-`: blanks at either end, a sign, a prefix, underscores
between two digits and the decimal digits of every script are read too. -/
def hexInt (cs : List Char) : Option Nat :=
  let cs := (Digits.trim cs).map Digits.asciiDigit
  let cs := if cs.head? = some '+' then cs.tail else cs
  (Digits.ungroup (fun c => (Net.hexValue c).isSome) (afterPrefix cs)).bind
    (Net.numeral 16 Net.hexValue)

/-- `UUID(text)`; `none` is a `ValueError`. -/
def uuidOfText (text : String) : Option UUID :=
  let cs := text.toList
  let cs := removeParts "urn:".toList cs.length cs
  let cs := removeParts "uuid:".toList cs.length cs
  let brace := fun c : Char => c == '{' || c == '}'
  let cs := ((cs.dropWhile brace).rdropWhile brace).filter (· != '-')
  if cs.length = 32 then hexInt cs else none

/-- The id of the credential profile a target's metadata names. -/
def profileId (metadata : PyDict) : Option UUID :=
  let raw := metadata.getD "credential_profile_id"
  if raw.truthy then uuidOfText raw.text else none

def resolveTransportPolicy (target : DiscoveryTargetRecordView) : M MultiTransportPolicy := do
  match profileId target.metadata with
  | none => unwrap (transportPolicy target.metadata none)
  | some id => do
    let rows ← select .profiles fun p => p.id == id && p.tenantId == target.tenantId
    unwrap (transportPolicy target.metadata rows.head?)

end Discovery
end NetOps
