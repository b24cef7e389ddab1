import NetOps.Discovery.Scopes
import NetOps.Discovery.Uuids

/-!
# Discovery.TargetRequests

The requests that create and change discovery targets: their validation
(`DiscoveryTargetRequest` and `DiscoveryTargetUpdateRequest` of `schemas/discovery.py`) and the
routes `create_target` and `update_target` (`api/v1/discovery.py`) over the tables of targets and
credential profiles. The id of a new target comes with the request that draws it.
-/

namespace NetOps
namespace Discovery

open Conc Text

/-! ## Errors -/

/-- One entry of the detail of a 422 response. -/
structure FieldError where
  loc : List String
  msg : String
  deriving DecidableEq

/-- Why a request is not accepted: its body is not valid, or the route raises. -/
inductive RequestError where
  | validation (errors : List FieldError)
  | http (status : Nat) (detail : String)
  deriving DecidableEq

/-! ## Field validators -/

def fieldError (field message : String) : List FieldError := [⟨["body", field], message⟩]

/-- `Field(max_length=..)`. -/
def maxLength (field : String) (max : Nat) (value : String) : List FieldError :=
  if max < value.length then fieldError field s!"String should have at most {max} characters"
  else []

/-- The checks of a field that may be `None`. -/
def optional (check : String → List FieldError) (value : Option String) : List FieldError :=
  (value.map check).getD []

/-- `identifier` and `tenant_id`. -/
def nonBlank (field : String) (max : Nat) (value : String) : List FieldError :=
  if value.length < 1 then fieldError field "String should have at least 1 character"
  else match maxLength field max value with
    | [] => if strip value = "" then fieldError field "Value cannot be blank." else []
    | errors => errors

/-- The loop of `re.sub(r"[^a-z0-9]+", "-", text)`; `inRun` says whether the last character was
of the class. -/
def dashRuns (inRun : Bool) : List Char → List Char
  | [] => []
  | c :: cs =>
    if c.isLower || c.isDigit then c :: dashRuns false cs
    else if inRun then dashRuns true cs else '-' :: dashRuns true cs

def supportedPlatforms : List String :=
  ["cisco-ios", "cisco-iosxe", "ios", "iosxe", "cisco-ios-xe", "cisco-ios-x"]

/-- `validate_platform_hint`. -/
def platformHintErrors (value : String) : List FieldError :=
  match maxLength "platform_hint" 128 value with
  | [] =>
    if stripChar '-' (String.ofList (dashRuns false (lower (strip value)).toList)) ∈
        supportedPlatforms then []
    else fieldError "platform_hint" "Unsupported discovery platform."
  | errors => errors

def supportedTransportNames : List String :=
  ["ssh", "snmp", "telnet", "icmp", "http", "https", "cisco-api", "netmiko", "paramiko", "pysnmp",
    "httpx"]

/-- `validate_transport`. -/
def transportErrors (value : String) : List FieldError :=
  match maxLength "preferred_transport" 64 value with
  | [] =>
    if value ∈ supportedTransportNames then []
    else fieldError "preferred_transport" "Unsupported discovery transport."
  | errors => errors

def supportedFallbacks : List String :=
  ["ssh", "snmp", "telnet", "icmp", "http", "https", "cisco-api"]

/-- `validate_fallback_transports`. -/
def fallbackErrors (value : List String) : List FieldError :=
  if value.any fun transport => transport ∉ supportedFallbacks then
    fieldError "allowed_fallback_transports" "Unsupported discovery fallback transport."
  else []

/-! ## Creating -/

structure DiscoveryTargetRequest where
  identifier : String
  address : Option String := none
  scopeType : DiscoveryScopeType := .singleDevice
  scopeEnd : Option String := none
  scopeCidr : Option String := none
  hostname : Option String := none
  vendor : Option String := none
  tenantId : String
  platformHint : Option String := none
  preferredTransport : Option String := none
  enabled : Bool := true
  credentialReference : Option String := none
  credentialProfileId : Option String := none
  credentialReferences : PyDict := []
  allowedFallbackTransports : List String := []
  allowInsecureTelnet : Bool := false
  allowInsecureHttp : Bool := false
  metadata : PyDict := []

/-- A text that is not `None` or empty. -/
def truthy (value : Option String) : Option String := value.filter (· ≠ "")

/-- `validate_scope`. -/
def validateScope (scopeType : DiscoveryScopeType) (address scopeEnd scopeCidr : Option String) :
    Except Exn Unit :=
  match scopeType with
  | .singleDevice => match truthy address with
    | none => .error (.valueError "A single-device scope requires an address.")
    | some address => (parseAddress address).map fun _ => ()
  | .ipRange => match truthy address, truthy scopeEnd with
    | some address, some scopeEnd => do
      let start ← parseAddress address
      let last ← parseAddress scopeEnd
      if start.version ≠ last.version ∨ start.value > last.value then
        .error (.valueError "IP range boundaries are invalid.")
      else .ok ()
    | _, _ => .error (.valueError "An IP range requires start and end addresses.")
  | .cidrNetwork => match truthy scopeCidr with
    | none => .error (.valueError "A CIDR scope requires a network.")
    | some cidr => match Net.ipNetwork cidr with
      | some _ => .ok ()
      | none => .error (.valueError s!"'{cidr}' does not appear to be an IPv4 or IPv6 network")
  | .deviceGroup | .netboxScope =>
    .error (.valueError "This discovery scope is reserved for a future phase.")

/-- A transport is the preferred one or a fallback. -/
def Uses (name : String) (preferred : Option String) (fallbacks : List String) : Prop :=
  preferred.map lower = some name ∨ name ∈ fallbacks.map lower

instance (name : String) (preferred : Option String) (fallbacks : List String) :
    Decidable (Uses name preferred fallbacks) :=
  inferInstanceAs (Decidable (_ ∨ _))

namespace DiscoveryTargetRequest

def fieldErrors (r : DiscoveryTargetRequest) : List FieldError :=
  nonBlank "identifier" 255 r.identifier ++ optional (maxLength "address" 512) r.address ++
    optional (maxLength "scope_end" 512) r.scopeEnd ++
    optional (maxLength "scope_cidr" 512) r.scopeCidr ++
    optional (maxLength "hostname" 255) r.hostname ++ optional (maxLength "vendor" 128) r.vendor ++
    nonBlank "tenant_id" 255 r.tenantId ++ optional platformHintErrors r.platformHint ++
    optional transportErrors r.preferredTransport ++
    optional (maxLength "credential_reference" 255) r.credentialReference ++
    optional (maxLength "credential_profile_id" 255) r.credentialProfileId ++
    fallbackErrors r.allowedFallbackTransports

/-- `validate_scope_definition`. -/
def validateScopeDefinition (r : DiscoveryTargetRequest) : Except String Unit :=
  match validateScope r.scopeType r.address r.scopeEnd r.scopeCidr with
  | .error e => .error e.text
  | .ok () =>
    if r.credentialProfileId = none ∧ r.credentialReference = none then
      .error "A credential profile is required."
    else if Uses "telnet" r.preferredTransport r.allowedFallbackTransports ∧
        r.allowInsecureTelnet = false then
      .error "Telnet is insecure. Set allow_insecure_telnet=true to explicitly enable."
    else if Uses "http" r.preferredTransport r.allowedFallbackTransports ∧
        r.allowInsecureHttp = false then
      .error "HTTP is insecure. Set allow_insecure_http=true to explicitly enable."
    else .ok ()

/-- The validated request: every fallback once. -/
def validate (r : DiscoveryTargetRequest) : Except RequestError DiscoveryTargetRequest :=
  match r.fieldErrors with
  | [] =>
    let r := { r with allowedFallbackTransports := dedupeBy id r.allowedFallbackTransports }
    match r.validateScopeDefinition with
    | .ok () => .ok r
    | .error message => .error (.validation [⟨["body"], message⟩])
  | errors => .error (.validation errors)

end DiscoveryTargetRequest

/-! ## The tables -/

structure TargetDb where
  targets : Tbl DiscoveryTargetRecord (·.id)
  profiles : Tbl CredentialProfileRecord (·.id)

namespace TargetDb

/-- `DiscoveryTargetRepository.get`. -/
def getTarget (db : TargetDb) (tenantId : String) (targetId : UUID) :
    Option DiscoveryTargetRecord :=
  (db.targets.get targetId).filter fun target => target.tenantId = tenantId

/-- The profile of a tenant that a text names: `UUID(text)`, then
`CredentialProfileRepository.get`. -/
def findProfile (db : TargetDb) (tenantId text : String) : Option CredentialProfileRecord :=
  (uuidOfText text).bind fun id =>
    (db.profiles.get id).filter fun profile => profile.tenantId = tenantId

/-- A row that the unique constraints do not let in. -/
def clashes (db : TargetDb) (record : DiscoveryTargetRecord) : Bool :=
  (db.targets.get record.id).isSome ||
    db.targets.rows.any fun row =>
      row.tenantId = record.tenantId && row.identifier = record.identifier

end TargetDb

/-- The transport a transport library stands for. -/
def canonicalTransport (name : String) : String :=
  if name ∈ ["netmiko", "paramiko"] then "ssh"
  else if name = "pysnmp" then "snmp"
  else if name = "httpx" then "http"
  else name

/-- `{item.lower() for item in transport_types}`. -/
def profileTransports (profile : CredentialProfileRecord) : List String :=
  profile.transportTypes.map lower

/-- `", ".join(sorted({str(item).lower() for item in items}))`. -/
def joinSorted (items : List String) : String :=
  ", ".intercalate (((items.map lower).dedup).mergeSort (· ≤ ·))

/-! ## The routes -/

/-- The credential reference of a new target. -/
def createReference (db : TargetDb) (tenantId : String) (r : DiscoveryTargetRequest) :
    Except RequestError String :=
  match r.credentialProfileId with
  | none => .ok (r.credentialReference.getD "")
  | some text =>
    match db.findProfile tenantId text with
    | none => .error (.http 404 "Credential profile was not found.")
    | some profile =>
      let preferred := (truthy r.preferredTransport).getD "ssh"
      let unsupported := r.allowedFallbackTransports.filter fun fallback =>
        lower fallback ∉ profileTransports profile
      if canonicalTransport (lower preferred) ∉ profileTransports profile then
        .error (.http 422
          s!"Credential profile does not support target transport '{preferred}'.")
      else if unsupported ≠ [] then
        .error (.http 422 ("Credential profile does not support fallback transports: " ++
          joinSorted unsupported ++ "."))
      else .ok profile.providerReference

/-- The row of a new target. -/
def newTarget (tenantId : String) (r : DiscoveryTargetRequest) (id : UUID) (reference : String) :
    DiscoveryTargetRecord where
  id := id
  tenantId := tenantId
  identifier := r.identifier
  address := (truthy r.address).getD (r.scopeCidr.getD "")
  scopeType := r.scopeType
  scopeEnd := r.scopeEnd
  scopeCidr := r.scopeCidr
  vendor := r.vendor
  hostname := r.hostname
  platformHint := r.platformHint
  preferredTransport := r.preferredTransport
  enabled := r.enabled
  credentialReference := reference
  credentialProfileId := r.credentialProfileId
  credentialReferences := r.credentialReferences
  allowedFallbackTransports := r.allowedFallbackTransports
  allowInsecureTelnet := r.allowInsecureTelnet
  allowInsecureHttp := r.allowInsecureHttp
  metadataJson := r.metadata

/-- `POST /targets`: the stored row. -/
def createTarget (db : TargetDb) (tenantId : String) (request : DiscoveryTargetRequest)
    (id : UUID) : Except RequestError DiscoveryTargetRecord := do
  let r ← request.validate
  if r.tenantId ≠ tenantId then .error (.http 403 "Tenant scope mismatch.")
  else
    let reference ← createReference db tenantId r
    let record := newTarget tenantId r id reference
    if db.clashes record then
      .error (.http 409 "A target with this identifier already exists for the tenant.")
    else .ok record

/-- The fields of a patch; of `credential_profile_id`, also whether it is given at all. -/
structure DiscoveryTargetUpdateRequest where
  credentialProfileId : Option (Option String) := none
  preferredTransport : Option String := none
  platformHint : Option String := none
  enabled : Option Bool := none
  allowedFallbackTransports : Option (List String) := none
  allowInsecureTelnet : Option Bool := none
  allowInsecureHttp : Option Bool := none

/-- The patch validates the preferred transport and the platform, and no fallback. -/
def DiscoveryTargetUpdateRequest.fieldErrors (r : DiscoveryTargetUpdateRequest) :
    List FieldError :=
  optional (maxLength "credential_profile_id" 255) (r.credentialProfileId.getD none) ++
    optional transportErrors r.preferredTransport ++ optional platformHintErrors r.platformHint

/-- The changes of a patch to the fields other than the credential profile. -/
def patched (target : DiscoveryTargetRecord) (r : DiscoveryTargetUpdateRequest) :
    DiscoveryTargetRecord :=
  { target with
    enabled := r.enabled.getD target.enabled
    platformHint := r.platformHint <|> target.platformHint
    preferredTransport := r.preferredTransport <|> target.preferredTransport
    allowedFallbackTransports := r.allowedFallbackTransports.getD target.allowedFallbackTransports
    allowInsecureTelnet := r.allowInsecureTelnet.getD target.allowInsecureTelnet
    allowInsecureHttp := r.allowInsecureHttp.getD target.allowInsecureHttp }

/-- The changes of a patch to the credential profile. -/
def patchProfile (db : TargetDb) (tenantId : String) (existing : DiscoveryTargetRecord)
    (r : DiscoveryTargetUpdateRequest) (target : DiscoveryTargetRecord) :
    Except RequestError DiscoveryTargetRecord :=
  match r.credentialProfileId with
  | none => .ok target
  | some none => .ok { target with credentialProfileId := none, credentialReference := "" }
  | some (some text) =>
    match db.findProfile tenantId text with
    | none => .error (.http 404 "Credential profile was not found.")
    | some profile =>
      let effective := (truthy r.preferredTransport).getD
        ((truthy existing.preferredTransport).getD "ssh")
      if canonicalTransport (lower effective) ∉ profileTransports profile ∧
          lower effective ∉ profileTransports profile then
        .error (.http 422
          s!"Credential profile does not support target transport '{effective}'.")
      else .ok { target with
        credentialProfileId := some (textOfUuid profile.id)
        credentialReference :=
          if profile.providerReference = "" then textOfUuid profile.id
          else profile.providerReference }

/-- `PATCH /targets/{target_id}`: the stored row. -/
def updateTarget (db : TargetDb) (tenantId : String) (targetId : UUID)
    (r : DiscoveryTargetUpdateRequest) : Except RequestError DiscoveryTargetRecord :=
  match r.fieldErrors with
  | [] =>
    match db.getTarget tenantId targetId with
    | none => .error (.http 404 "Discovery target was not found.")
    | some target => patchProfile db tenantId target r (patched target r)
  | errors => .error (.validation errors)

/-- A request to the routes, with the tenant of its header. -/
inductive TargetRequest where
  | create (tenantId : String) (request : DiscoveryTargetRequest) (id : UUID)
  | update (tenantId : String) (targetId : UUID) (request : DiscoveryTargetUpdateRequest)

/-- The row an accepted request stores. -/
def handle (db : TargetDb) : TargetRequest → Except RequestError DiscoveryTargetRecord
  | .create tenantId request id => createTarget db tenantId request id
  | .update tenantId targetId request => updateTarget db tenantId targetId request

/-- The tables after a request; one that is not accepted leaves them. -/
def serve (db : TargetDb) (request : TargetRequest) : TargetDb :=
  match handle db request with
  | .ok record => { db with targets := db.targets.set record }
  | .error _ => db

end Discovery
end NetOps
