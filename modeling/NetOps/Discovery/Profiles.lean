import NetOps.Discovery.Reconcile
import NetOps.Discovery.TargetRequests

/-!
# Discovery.Profiles

The routes that create, change and delete credential profiles (`api/v1/credentials.py`), with the
validation of their requests, and a target's way to a profile: the routes of targets, and the
fan-out, which copies the profile of a scope to its children. `perform` is one such operation on
the tables of targets and profiles.
-/

namespace NetOps
namespace Discovery

open Conc Text

/-! ## Requests -/

/-- `Field(min_length=1, max_length=..)`. -/
def sized (field : String) (max : Nat) (value : String) : List FieldError :=
  if value.length < 1 then fieldError field "String should have at least 1 character"
  else maxLength field max value

def supportedProfileTransports : List String :=
  ["ssh", "snmp", "snmpv2c", "snmpv3", "telnet", "https", "http", "icmp"]

structure CredentialProfileRequest where
  name : String
  description : Option String := none
  vendor : Option String := none
  platform : Option String := none
  credentialType : Option String := none
  username : Option String := none
  transportTypes : Option (List String) := none
  providerReference : String

namespace CredentialProfileRequest

/-- `reject_blank_name`. -/
def nameErrors (value : String) : List FieldError :=
  match sized "name" 255 value with
  | [] => if strip value = "" then fieldError "name" "Name cannot be blank." else []
  | errors => errors

def cleaned (value : List String) : List String := value.map fun item => lower (strip item)

/-- `validate_transport_types`, of a list that is given. -/
def transportTypesErrors (value : List String) : List FieldError :=
  if cleaned value = [] then
    fieldError "transport_types" "At least one transport type is required."
  else if (cleaned value).any fun item => item ∉ supportedProfileTransports then
    fieldError "transport_types" "Unsupported transport type."
  else []

def fieldErrors (r : CredentialProfileRequest) : List FieldError :=
  nameErrors r.name ++ optional (maxLength "description" 1024) r.description ++
    optional (maxLength "vendor" 128) r.vendor ++ optional (maxLength "platform" 128) r.platform ++
    optional (maxLength "credential_type" 64) r.credentialType ++
    optional (maxLength "username" 255) r.username ++
    (r.transportTypes.map transportTypesErrors).getD [] ++
    sized "provider_reference" 255 r.providerReference

/-- The validated request: its transports clean, and every one once. -/
def validate (r : CredentialProfileRequest) : Except RequestError CredentialProfileRequest :=
  match r.fieldErrors with
  | [] => .ok { r with transportTypes := r.transportTypes.map fun v => dedupeBy id (cleaned v) }
  | errors => .error (.validation errors)

end CredentialProfileRequest

structure CredentialProfileUpdateRequest where
  name : Option String := none
  description : Option String := none
  vendor : Option String := none
  platform : Option String := none
  credentialType : Option String := none
  username : Option String := none
  transportTypes : Option (List String) := none
  providerReference : Option String := none
  enabled : Option Bool := none

/-- The patch takes any transports. -/
def CredentialProfileUpdateRequest.fieldErrors (r : CredentialProfileUpdateRequest) :
    List FieldError :=
  optional (sized "name" 255) r.name ++ optional (maxLength "description" 1024) r.description ++
    optional (maxLength "vendor" 128) r.vendor ++ optional (maxLength "platform" 128) r.platform ++
    optional (maxLength "credential_type" 64) r.credentialType ++
    optional (maxLength "username" 255) r.username ++
    optional (sized "provider_reference" 512) r.providerReference

/-! ## The routes -/

namespace TargetDb

/-- `CredentialProfileRepository.get`. -/
def getProfile (db : TargetDb) (tenantId : String) (profileId : UUID) :
    Option CredentialProfileRecord :=
  (db.profiles.get profileId).filter fun profile => profile.tenantId = tenantId

def setProfile (db : TargetDb) (record : CredentialProfileRecord) : TargetDb :=
  { db with profiles := db.profiles.set record }

def setTarget (db : TargetDb) (record : DiscoveryTargetRecord) : TargetDb :=
  { db with targets := db.targets.set record }

end TargetDb

/-- What an exception that no handler knows is answered with. -/
def internalError : RequestError := .http 500 "Internal server error"

/-- The row of a new profile. -/
def newProfile (tenantId : String) (r : CredentialProfileRequest) (id : UUID) :
    CredentialProfileRecord where
  id := id
  tenantId := tenantId
  name := r.name
  description := r.description
  vendor := r.vendor
  platform := r.platform
  credentialType := r.credentialType
  username := r.username
  transportTypes := r.transportTypes.getD []
  providerReference := r.providerReference
  secretStatus := "configured"
  enabled := true

/-- `POST /profiles`: the stored row. -/
def createProfile (db : TargetDb) (tenantId : String) (request : CredentialProfileRequest)
    (id : UUID) : Except RequestError CredentialProfileRecord := do
  let r ← request.validate
  if (db.profiles.get id).isSome then .error internalError
  else .ok (newProfile tenantId r id)

/-- `PATCH /profiles/{profile_id}`: the stored row. Every column is set, to `NULL` where the patch
does not give it, and three of them may not be `NULL`. Transports that are not given are stored as
a JSON `null`, with which no target is accepted. -/
def updateProfile (db : TargetDb) (tenantId : String) (profileId : UUID)
    (r : CredentialProfileUpdateRequest) : Except RequestError CredentialProfileRecord :=
  match r.fieldErrors with
  | [] =>
    match db.getProfile tenantId profileId with
    | none => .error internalError
    | some record =>
      match r.name, r.providerReference, r.enabled with
      | some name, some providerReference, some enabled => .ok { record with
          name := name
          description := r.description
          vendor := r.vendor
          platform := r.platform
          credentialType := r.credentialType
          username := r.username
          transportTypes := r.transportTypes.getD []
          providerReference := providerReference
          enabled := enabled }
      | _, _, _ => .error internalError
  | errors => .error (.validation errors)

/-- The target no longer has a profile. -/
def unassigned (target : DiscoveryTargetRecord) : DiscoveryTargetRecord :=
  { target with credentialProfileId := none, credentialReference := "" }

/-- The loop of `delete_profile` over the targets of the tenant. -/
def unassignProfile (db : TargetDb) (tenantId : String) (profileId : UUID) : TargetDb :=
  ((db.targets.rows.filter fun target => target.tenantId = tenantId).filter fun target =>
    target.credentialProfileId = some (textOfUuid profileId)).foldl
      (fun db target => db.setTarget (unassigned target)) db

/-- `DELETE /profiles/{profile_id}`: the tables it commits. -/
def deleteProfile (db : TargetDb) (tenantId : String) (profileId : UUID) :
    Except RequestError TargetDb :=
  let db := unassignProfile db tenantId profileId
  match db.getProfile tenantId profileId with
  | none => .error (.http 404 "Credential profile was not found.")
  | some _ => .ok { db with profiles := db.profiles.filter fun profile => profile.id ≠ profileId }

/-- The target that `_create_child` stores for an address of a scope: the one of its identifier,
or a new one. -/
def placeChild (db : TargetDb) (tenantId : String) (scope : DiscoveryTargetRecord)
    (address : String) (id : UUID) : Except RequestError DiscoveryTargetRecord :=
  let identifier := s!"{scope.identifier}:{address}"
  match db.targets.rows.find? fun target =>
    target.tenantId == tenantId && target.identifier == identifier with
  | some target => .ok (DiscoveryFanoutService.inheritScope scope target)
  | none =>
    let record := DiscoveryFanoutService.newChildTarget tenantId scope identifier address id
    if db.clashes record then .error internalError else .ok record

/-! ## Operations -/

/-- What writes targets or profiles. -/
inductive ProfileOperation where
  | createProfile (tenantId : String) (request : CredentialProfileRequest) (id : UUID)
  | updateProfile (tenantId : String) (profileId : UUID) (request : CredentialProfileUpdateRequest)
  | deleteProfile (tenantId : String) (profileId : UUID)
  | target (request : TargetRequest)
  | createChild (tenantId : String) (scopeId : UUID) (address : String) (id : UUID)

/-- The tables an operation commits. -/
def attempt (db : TargetDb) : ProfileOperation → Except RequestError TargetDb
  | .createProfile tenantId request id => db.setProfile <$> createProfile db tenantId request id
  | .updateProfile tenantId profileId request =>
    db.setProfile <$> updateProfile db tenantId profileId request
  | .deleteProfile tenantId profileId => deleteProfile db tenantId profileId
  | .target request => db.setTarget <$> handle db request
  | .createChild tenantId scopeId address id =>
    match db.getTarget tenantId scopeId with
    | none => .error internalError
    | some scope => db.setTarget <$> placeChild db tenantId scope address id

/-- The tables after an operation; one that fails leaves them. -/
def perform (db : TargetDb) (operation : ProfileOperation) : TargetDb :=
  match attempt db operation with
  | .ok db' => db'
  | .error _ => db

end Discovery
end NetOps
