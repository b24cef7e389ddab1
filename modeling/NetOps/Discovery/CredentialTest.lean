import NetOps.Discovery.Profiles
import NetOps.Transports.Credentials

/-!
# Discovery.CredentialTest

The route that tests a credential profile against a transport (`test_profile` of
`api/v1/credentials.py`), beside the provider that resolves the same profile at run time.

* `testProfile_success`: when the route reports success.
* `resolveReference_ok`: when the provider returns credentials.
* `test_agrees_iff`: the two agree on a profile and a transport if and only if the secret cannot be
  read, or none of the differences between their tables and checks applies (`Differences`).
-/

namespace NetOps
namespace Discovery

open Text (lower strip)
open Transports

/-! ## Secrets -/

/-- The `code` of a `SecretProviderError`. -/
inductive SecretErrorCode where
  | secretNotFound
  | providerUnavailable
  | providerPermissionDenied
  | invalidReference
  | providerConfigurationError
  deriving DecidableEq

def SecretErrorCode.value : SecretErrorCode → String
  | .secretNotFound => "secret_not_found"
  | .providerUnavailable => "provider_unavailable"
  | .providerPermissionDenied => "provider_permission_denied"
  | .invalidReference => "invalid_reference"
  | .providerConfigurationError => "provider_configuration_error"

/-- What `resolve_secret` raises: an error of its own kind, or any other. -/
inductive SecretFailure where
  | provider (code : SecretErrorCode) (message : String)
  | other (exc : Exn)

def SecretFailure.exn : SecretFailure → Exn
  | .provider _ message => .secretProvider message
  | .other exc => exc

abbrev SecretStore := String → Except SecretFailure String

abbrev ProfileLoader := String → UUID → Option CredentialProfileRecord

/-- The provider of the application over a store of secrets. -/
def SecretStore.provider (secrets : SecretStore) (loader : ProfileLoader) :
    ProfileSecretCredentialProvider where
  secretProvider reference := (secrets reference).mapError SecretFailure.exn
  profileLoader := loader

/-! ## The route -/

structure CredentialProfileTestRequest where
  transport : String
  target : String

namespace CredentialProfileTestRequest

def supported : List String := ["ssh", "snmp", "telnet", "http", "https", "icmp"]

/-- `validate_transport`, after the length. -/
def transportErrors (value : String) : List FieldError :=
  match sized "transport" 64 value with
  | [] =>
    if lower (strip value) ∈ supported then []
    else fieldError "transport" "Unsupported transport for credential validation."
  | errors => errors

def validate (r : CredentialProfileTestRequest) :
    Except RequestError CredentialProfileTestRequest :=
  match transportErrors r.transport ++ sized "target" 512 r.target with
  | [] => .ok { r with transport := lower (strip r.transport) }
  | errors => .error (.validation errors)

end CredentialProfileTestRequest

structure CredentialProfileTestResponse where
  status : String
  transport : String
  target : String
  credentialType : Option String
  message : String
  providerReference : String

/-- `valid_transport_to_types.get`. -/
def validTransportToTypes (transport : String) : Option (List String) :=
  match transport with
  | "ssh" => some ["ssh_password", "ssh_key"]
  | "snmp" => some ["snmp_v2c", "snmp_v3"]
  | "telnet" => some ["telnet_password"]
  | "http" | "https" => some ["http_basic", "http_token"]
  | "icmp" => some ["icmp"]
  | _ => none

/-- `_validate_profile_for_transport`. -/
def validateProfileForTransport (record : CredentialProfileRecord) (transport : String) :
    String × String :=
  match validTransportToTypes transport with
  | none => ("unsupported_transport",
      "The requested transport is not supported by the credential execution boundary.")
  | some expected =>
    let credentialType := record.credentialType.getD ""
    if credentialType ∉ expected then
      ("invalid_credential_profile", "Credential type '" ++ Text.orElse credentialType "unknown" ++
        "' is not compatible with transport '" ++ transport ++ "'.")
    else if transport ∉ record.transportTypes then
      ("invalid_credential_profile",
        "Credential profile does not allow transport '" ++ transport ++ "'.")
    else ("success", "Credential profile is compatible with the requested transport.")

/-- `test_profile`. -/
def testProfile (secrets : SecretStore) (loader : ProfileLoader) (tenantId : String)
    (profileId : UUID) (request : CredentialProfileTestRequest) :
    Except RequestError CredentialProfileTestResponse := do
  let payload ← request.validate
  match loader tenantId profileId with
  | none => .error (.http 404 "Credential profile was not found.")
  | some record =>
    let respond (status message : String) : CredentialProfileTestResponse :=
      { status := status, transport := payload.transport, target := payload.target,
        credentialType := record.credentialType, message := message,
        providerReference := record.providerReference }
    let compatibility := validateProfileForTransport record payload.transport
    if compatibility.1 ≠ "success" then .ok (respond compatibility.1 compatibility.2)
    else match secrets record.providerReference with
      | .error (.provider code message) => .ok (respond code.value message)
      | .error (.other _) => .error internalError
      | .ok _ => .ok (respond "success"
          "Credential profile resolved successfully for the selected transport.")

/-- The route answers with the status `success`. -/
def Succeeds (answer : Except RequestError CredentialProfileTestResponse) : Prop :=
  ∃ response, answer = .ok response ∧ response.status = "success"

/-! ## When the route reports success -/

variable {secrets : SecretStore} {loader : ProfileLoader} {tenantId : String} {profileId : UUID}
  {request : CredentialProfileTestRequest} {record : CredentialProfileRecord}

/-- The checks of the route that precede the secret. -/
structure Tested (record : CredentialProfileRecord) (transport : String) : Prop where
  length : sized "transport" 64 transport = []
  type : ∃ expected, validTransportToTypes (lower (strip transport)) = some expected ∧
    record.credentialType.getD "" ∈ expected
  listed : lower (strip transport) ∈ record.transportTypes

theorem code_ne_success (code : SecretErrorCode) : code.value ≠ "success" := by
  cases code <;> decide

theorem supported_iff {transport : String} :
    transport ∈ CredentialProfileTestRequest.supported ↔
      ∃ expected, validTransportToTypes transport = some expected := by
  unfold validTransportToTypes CredentialProfileTestRequest.supported
  split <;> simp_all

theorem validateProfile_success {transport : String} :
    (validateProfileForTransport record transport).1 = "success" ↔
      (∃ expected, validTransportToTypes transport = some expected ∧
        record.credentialType.getD "" ∈ expected) ∧ transport ∈ record.transportTypes := by
  unfold validateProfileForTransport
  cases validTransportToTypes transport with
  | none => simp
  | some expected =>
    dsimp only
    split
    · simp_all
    · split <;> simp_all

/-- A request passes its validation with the transport cleaned. -/
theorem testRequest_ok {payload : CredentialProfileTestRequest} :
    request.validate = .ok payload ↔
      sized "transport" 64 request.transport = [] ∧
        lower (strip request.transport) ∈ CredentialProfileTestRequest.supported ∧
        sized "target" 512 request.target = [] ∧
        payload = { request with transport := lower (strip request.transport) } := by
  have htransport : CredentialProfileTestRequest.transportErrors request.transport = [] ↔
      sized "transport" 64 request.transport = [] ∧
        lower (strip request.transport) ∈ CredentialProfileTestRequest.supported := by
    unfold CredentialProfileTestRequest.transportErrors
    cases sized "transport" 64 request.transport with
    | nil =>
      by_cases hs : lower (strip request.transport) ∈ CredentialProfileTestRequest.supported <;>
        simp [hs, fieldError]
    | cons error errors => simp
  unfold CredentialProfileTestRequest.validate
  split
  · rename_i hnil
    obtain ⟨hleft, hright⟩ := List.append_eq_nil_iff.1 hnil
    rw [htransport] at hleft
    simp only [Except.ok.injEq]
    exact ⟨fun h => ⟨hleft.1, hleft.2, hright, h.symm⟩, fun h => h.2.2.2.symm⟩
  · rename_i hne
    constructor
    · intro h
      cases h
    · rintro ⟨hlength, hsupported, htarget, _⟩
      refine absurd ?_ hne
      rw [htransport.2 ⟨hlength, hsupported⟩, htarget, List.append_nil]

theorem testProfile_success (htarget : sized "target" 512 request.target = [])
    (hload : loader tenantId profileId = some record) :
    Succeeds (testProfile secrets loader tenantId profileId request) ↔
      Tested record request.transport ∧
        ∃ secret, secrets record.providerReference = .ok secret := by
  unfold testProfile Succeeds
  cases hvalidate : request.validate with
  | error e =>
    simp only [bind, Except.bind, reduceCtorEq, false_and, exists_false, false_iff, not_and]
    intro htested
    obtain ⟨expected, hexpected, _⟩ := htested.type
    have hok := testRequest_ok.2
      ⟨htested.length, supported_iff.2 ⟨expected, hexpected⟩, htarget, rfl⟩
    rw [hvalidate] at hok
    cases hok
  | ok payload =>
    obtain ⟨hlength, _, _, hpayload⟩ := testRequest_ok.1 hvalidate
    have htransport : payload.transport = lower (strip request.transport) := by rw [hpayload]
    have htested : (validateProfileForTransport record payload.transport).1 = "success" ↔
        Tested record request.transport := by
      rw [htransport, validateProfile_success]
      exact ⟨fun h => ⟨hlength, h.1, h.2⟩, fun h => ⟨h.type, h.listed⟩⟩
    simp only [bind, Except.bind, hload]
    by_cases hcompatible : (validateProfileForTransport record payload.transport).1 = "success"
    · rw [if_neg (not_not.2 hcompatible)]
      cases hsecret : secrets record.providerReference with
      | ok secret => simp [htested.1 hcompatible]
      | error failure =>
        cases failure with
        | provider code message => simp [code_ne_success]
        | other exc => simp
    · rw [if_pos hcompatible]
      simp [hcompatible, ← htested]

/-! ## When the provider returns credentials -/

open ProfileSecretCredentialProvider (acceptedTypes usernameFor credentialsFor Serves
  passwordCredentials tokenCredentials incompatible)

/-- The credential types whose credentials carry a username. -/
def namedTypes : List String := ["ssh_password", "telnet_password", "snmp_v3", "http_basic"]

def HasUsername (record : CredentialProfileRecord) : Prop :=
  ∃ username, record.username = some username ∧ username ≠ ""

/-- The checks of the provider that precede the secret. -/
structure Served (record : CredentialProfileRecord) (transport : String) : Prop where
  enabled : record.enabled = true
  serves : Serves record transport
  username : normalizedType record ∈ namedTypes → HasUsername record

variable {p : ProfileSecretCredentialProvider}

theorem usernameFor_ok (use : String) :
    (∃ username, usernameFor record use = .ok username) ↔ HasUsername record := by
  unfold usernameFor HasUsername
  cases record.username with
  | none => simp
  | some username => by_cases hempty : username = "" <;> simp [hempty]

theorem passwordCredentials_ok {use : String} :
    (∃ credentials, p.passwordCredentials record use = .ok credentials) ↔
      HasUsername record ∧ ∃ secret, p.secretProvider record.providerReference = .ok secret := by
  rw [← usernameFor_ok use]
  unfold passwordCredentials
  cases usernameFor record use <;>
    cases p.secretProvider record.providerReference <;>
      simp [bind, Except.bind, pure, Except.pure]

theorem tokenCredentials_ok {scheme : String} :
    (∃ credentials, p.tokenCredentials record scheme = .ok credentials) ↔
      ∃ secret, p.secretProvider record.providerReference = .ok secret := by
  unfold tokenCredentials
  cases p.secretProvider record.providerReference <;> simp [bind, Except.bind, pure, Except.pure]

theorem incompatible_ne {use : String} :
    ¬ ∃ credentials, incompatible use = .ok credentials := by
  simp [incompatible]

theorem credentialsFor_ok {kind : TransportKind} :
    (∃ credentials, p.credentialsFor record kind = .ok credentials) ↔
      normalizedType record ∈ acceptedTypes kind ∧
        (normalizedType record ∈ namedTypes → HasUsername record) ∧
        ∃ secret, p.secretProvider record.providerReference = .ok secret := by
  by_cases haccepts : normalizedType record ∈ acceptedTypes kind
  · cases kind with
    | ssh =>
      have hmem : normalizedType record ∈ ["ssh_password", "telnet_password", "ssh_key"] := haccepts
      simp only [credentialsFor, hmem, not_true_eq_false, if_false]
      simp only [acceptedTypes, List.mem_cons, List.not_mem_nil, or_false] at haccepts
      rcases haccepts with htype | htype | htype
      · simp [htype, namedTypes, acceptedTypes, passwordCredentials_ok]
      · simp [htype, namedTypes, acceptedTypes, passwordCredentials_ok]
      · simp [htype, namedTypes, acceptedTypes, tokenCredentials_ok]
    | telnet =>
      have hmem : normalizedType record ∈ ["ssh_password", "telnet_password"] := haccepts
      simp only [credentialsFor, hmem, not_true_eq_false, if_false, passwordCredentials_ok]
      simp only [acceptedTypes, List.mem_cons, List.not_mem_nil, or_false] at haccepts
      rcases haccepts with htype | htype <;> simp [htype, namedTypes, acceptedTypes]
    | snmp =>
      simp only [acceptedTypes, List.mem_cons, List.not_mem_nil, or_false] at haccepts
      rcases haccepts with htype | htype
      · cases hsecret : p.secretProvider record.providerReference <;>
          simp [credentialsFor, htype, hsecret, namedTypes, acceptedTypes, bind, Except.bind, pure,
            Except.pure]
      · have husername : (∃ username, usernameFor record "SNMPv3" = .ok username) ↔
            HasUsername record := usernameFor_ok "SNMPv3"
        cases hname : usernameFor record "SNMPv3" <;>
          cases hsecret : p.secretProvider record.providerReference <;>
            simp [credentialsFor, htype, hsecret, hname, namedTypes, acceptedTypes, bind,
              Except.bind, pure, Except.pure, ← husername]
    | http =>
      simp only [acceptedTypes, List.mem_cons, List.not_mem_nil, or_false] at haccepts
      rcases haccepts with htype | htype
      · simp [credentialsFor, htype, namedTypes, acceptedTypes, passwordCredentials_ok]
      · simp [credentialsFor, htype, namedTypes, acceptedTypes, tokenCredentials_ok]
  · obtain ⟨use, huse⟩ := ProfileSecretCredentialProvider.credentialsFor_refused (p := p) haccepts
    rw [huse]
    exact ⟨fun h => absurd h incompatible_ne, fun h => absurd h.1 haccepts⟩

theorem resolveReference_ok {reference : CredentialReference} {id : UUID}
    (hid : uuidOfText reference.credentialId = some id)
    (hload : p.profileLoader reference.tenantId id = some record) :
    (∃ credentials, p.resolveReference reference = .ok credentials) ↔
      Served record reference.transport ∧
        ∃ secret, p.secretProvider record.providerReference = .ok secret := by
  simp only [ProfileSecretCredentialProvider.resolveReference, profileIdOf, hid, bind, Except.bind,
    hload]
  by_cases henabled : record.enabled = false
  · rw [if_pos henabled]
    simp only [reduceCtorEq, exists_false, false_iff, not_and]
    intro hserved
    rw [hserved.enabled] at henabled
    cases henabled
  rw [if_neg henabled]
  unfold transportKind
  cases hkind : kindOfAlias (lower (strip reference.transport)) with
  | none =>
    simp only [reduceCtorEq, exists_false, false_iff, not_and]
    intro hserved
    obtain ⟨kind, hsome, _⟩ := hserved.serves
    rw [hkind] at hsome
    cases hsome
  | some kind =>
    have hserves : Serves record reference.transport ↔ kind.value ∈ listedTypes record ∧
        normalizedType record ∈ acceptedTypes kind := by
      unfold Serves
      rw [hkind]
      constructor
      · rintro ⟨kind', hsome, hlisted, haccepts⟩
        cases hsome
        exact ⟨hlisted, haccepts⟩
      · rintro ⟨hlisted, haccepts⟩
        exact ⟨kind, rfl, hlisted, haccepts⟩
    dsimp only
    by_cases hlisted : kind.value ∈ listedTypes record
    · rw [if_neg (not_not.2 hlisted), credentialsFor_ok]
      constructor
      · rintro ⟨haccepts, hname, hsecret⟩
        exact ⟨⟨by simpa using henabled, hserves.2 ⟨hlisted, haccepts⟩, hname⟩, hsecret⟩
      · rintro ⟨hserved, hsecret⟩
        exact ⟨(hserves.1 hserved.serves).2, hserved.username, hsecret⟩
    · rw [if_pos hlisted]
      simp only [reduceCtorEq, exists_false, false_iff, not_and]
      intro hserved
      exact absurd (hserves.1 hserved.serves).1 hlisted

/-! ## Where the two agree -/

/-- What the provider asks beyond the route, of a profile the route accepts. -/
structure AlsoServed (record : CredentialProfileRecord) (transport : String) : Prop where
  enabled : record.enabled = true
  not_icmp : lower (strip transport) ≠ "icmp"
  http_listed : lower (strip transport) = "https" → "http" ∈ listedTypes record
  username : normalizedType record ∈ namedTypes → HasUsername record

/-- What the route asks beyond the provider, of a profile the provider serves. -/
structure AlsoTested (record : CredentialProfileRecord) (transport : String) : Prop where
  length : sized "transport" 64 transport = []
  named : lower (strip transport) ∈ ["ssh", "snmp", "telnet", "http", "https"]
  listed : lower (strip transport) ∈ record.transportTypes
  spelled : record.credentialType = some (normalizedType record)
  not_telnet : lower (strip transport) = "ssh" → normalizedType record ≠ "telnet_password"
  not_ssh : lower (strip transport) = "telnet" → normalizedType record ≠ "ssh_password"

/-- None of the differences between the route and the provider applies. -/
def NoDifference (record : CredentialProfileRecord) (transport : String) : Prop :=
  (Tested record transport → AlsoServed record transport) ∧
    (Served record transport → AlsoTested record transport)

/-- The transports and credential types that the route accepts. -/
def testedPairs : List (String × String) :=
  [("ssh", "ssh_password"), ("ssh", "ssh_key"), ("snmp", "snmp_v2c"), ("snmp", "snmp_v3"),
    ("telnet", "telnet_password"), ("http", "http_basic"), ("http", "http_token"),
    ("https", "http_basic"), ("https", "http_token"), ("icmp", "icmp")]

theorem mem_testedPairs {transport type : String} :
    (transport, type) ∈ testedPairs ↔
      ∃ expected, validTransportToTypes transport = some expected ∧ type ∈ expected := by
  unfold validTransportToTypes testedPairs
  split <;> simp_all

/-- The types of the pairs are spelled as the provider reads them. -/
theorem normalized_testedPairs :
    ∀ pair ∈ testedPairs, lower (strip pair.2) = pair.2 ∧ pair.2 ≠ "" := by
  decide

variable {transport : String}

theorem Tested.pair (h : Tested record transport) :
    (lower (strip transport), normalizedType record) ∈ testedPairs ∧
      record.credentialType = some (normalizedType record) := by
  have hpair := mem_testedPairs.2 h.type
  obtain ⟨hnormal, hne⟩ := normalized_testedPairs _ hpair
  have htype : normalizedType record = record.credentialType.getD "" := hnormal
  rw [htype]
  refine ⟨hpair, ?_⟩
  cases hc : record.credentialType with
  | none =>
    rw [hc] at hne
    exact absurd rfl hne
  | some type => rfl

theorem Tested.mem_listedTypes (h : Tested record transport)
    (hclean : lower (strip (lower (strip transport))) = lower (strip transport)) :
    lower (strip transport) ∈ listedTypes record :=
  List.mem_map.2 ⟨_, h.listed, hclean⟩

theorem Tested.served (h : Tested record transport) (halso : AlsoServed record transport) :
    Served record transport := by
  refine ⟨halso.enabled, ?_, halso.username⟩
  have hlisted := h.mem_listedTypes
  have hhttp := halso.http_listed
  have hicmp := halso.not_icmp
  have hpair := h.pair.1
  unfold Serves
  generalize lower (strip transport) = name at hpair hlisted hhttp hicmp
  simp only [testedPairs, List.mem_cons, Prod.mk.injEq, List.not_mem_nil, or_false] at hpair
  rcases hpair with ⟨rfl, ht⟩ | ⟨rfl, ht⟩ | ⟨rfl, ht⟩ | ⟨rfl, ht⟩ | ⟨rfl, ht⟩ | ⟨rfl, ht⟩ |
    ⟨rfl, ht⟩ | ⟨rfl, ht⟩ | ⟨rfl, ht⟩ | ⟨rfl, ht⟩
  · exact ⟨.ssh, rfl, hlisted (by decide), by rw [ht]; decide⟩
  · exact ⟨.ssh, rfl, hlisted (by decide), by rw [ht]; decide⟩
  · exact ⟨.snmp, rfl, hlisted (by decide), by rw [ht]; decide⟩
  · exact ⟨.snmp, rfl, hlisted (by decide), by rw [ht]; decide⟩
  · exact ⟨.telnet, rfl, hlisted (by decide), by rw [ht]; decide⟩
  · exact ⟨.http, rfl, hlisted (by decide), by rw [ht]; decide⟩
  · exact ⟨.http, rfl, hlisted (by decide), by rw [ht]; decide⟩
  · exact ⟨.http, rfl, hhttp rfl, by rw [ht]; decide⟩
  · exact ⟨.http, rfl, hhttp rfl, by rw [ht]; decide⟩
  · exact absurd rfl hicmp

theorem Served.tested (h : Served record transport) (halso : AlsoTested record transport) :
    Tested record transport := by
  refine ⟨halso.length, ?_, halso.listed⟩
  obtain ⟨kind, hkind, _, haccepts⟩ := h.serves
  have hssh := halso.not_telnet
  have htelnet := halso.not_ssh
  have hnamed := halso.named
  rw [halso.spelled, Option.getD_some, ← mem_testedPairs]
  generalize lower (strip transport) = name at hkind hssh htelnet hnamed
  simp only [List.mem_cons, List.not_mem_nil, or_false] at hnamed
  rcases hnamed with rfl | rfl | rfl | rfl | rfl
  all_goals
    cases hkind
    simp only [acceptedTypes, List.mem_cons, List.not_mem_nil, or_false] at haccepts
    simp only [testedPairs, List.mem_cons, Prod.mk.injEq, List.not_mem_nil, or_false]
    simp_all

/-- Whoever passes both has what each asks beyond the other. -/
theorem Tested.noDifference (h : Tested record transport) (hserved : Served record transport) :
    AlsoServed record transport ∧ AlsoTested record transport := by
  obtain ⟨hpair, hspelled⟩ := h.pair
  obtain ⟨kind, hkind, hlisted, haccepts⟩ := hserved.serves
  have hicmp : lower (strip transport) ≠ "icmp" := by
    intro heq
    rw [heq] at hkind
    cases hkind
  refine ⟨⟨hserved.enabled, hicmp, ?_, hserved.username⟩,
    ⟨h.length, ?_, h.listed, hspelled, ?_, ?_⟩⟩
  · intro heq
    rw [heq] at hkind
    cases hkind
    exact hlisted
  all_goals
    simp only [testedPairs, List.mem_cons, Prod.mk.injEq, List.not_mem_nil, or_false] at hpair ⊢
    grind

theorem tested_iff_served_iff : (Tested record transport ↔ Served record transport) ↔
    NoDifference record transport := by
  constructor
  · intro h
    exact ⟨fun ht => (ht.noDifference (h.1 ht)).1, fun hs => ((h.2 hs).noDifference hs).2⟩
  · rintro ⟨hserved, htested⟩
    exact ⟨fun ht => ht.served (hserved ht), fun hs => hs.tested (htested hs)⟩

theorem secret_provider_ok {reference : String} :
    (∃ secret, (secrets.provider loader).secretProvider reference = .ok secret) ↔
      ∃ secret, secrets reference = .ok secret := by
  cases hsecret : secrets reference <;> simp [SecretStore.provider, hsecret, Except.mapError]

/-- The test of a profile succeeds if and only if the provider returns credentials, exactly where
there is no profile, its secret cannot be read, or no difference applies. -/
theorem test_agrees_iff (secrets : SecretStore) (loader : ProfileLoader)
    (reference : CredentialReference) (profileId : UUID) (target : String)
    (hid : uuidOfText reference.credentialId = some profileId)
    (htarget : sized "target" 512 target = []) :
    ((Succeeds (testProfile secrets loader reference.tenantId profileId
        ⟨reference.transport, target⟩) ↔
      ∃ credentials, (secrets.provider loader).resolveReference reference = .ok credentials)) ↔
      ∀ record, loader reference.tenantId profileId = some record →
        (∃ secret, secrets record.providerReference = .ok secret) →
          NoDifference record reference.transport := by
  cases hload : loader reference.tenantId profileId with
  | none =>
    have htest : ¬ Succeeds (testProfile secrets loader reference.tenantId profileId
        ⟨reference.transport, target⟩) := by
      rintro ⟨response, hresponse, _⟩
      unfold testProfile at hresponse
      rw [hload] at hresponse
      cases hvalidate : CredentialProfileTestRequest.validate ⟨reference.transport, target⟩ <;>
        rw [hvalidate] at hresponse <;> cases hresponse
    have hresolve : ¬ ∃ credentials,
        (secrets.provider loader).resolveReference reference = .ok credentials := by
      have hnone : (secrets.provider loader).profileLoader reference.tenantId profileId = none :=
        hload
      simp [ProfileSecretCredentialProvider.resolveReference, profileIdOf, hid, bind, Except.bind,
        hnone]
    simp [htest, hresolve]
  | some record =>
    have htest : Succeeds (testProfile secrets loader reference.tenantId profileId
          ⟨reference.transport, target⟩) ↔
        Tested record reference.transport ∧
          ∃ secret, secrets record.providerReference = .ok secret :=
      testProfile_success htarget hload
    rw [htest, resolveReference_ok hid hload, secret_provider_ok]
    constructor
    · intro h _ hrecord hsecret
      rw [Option.some.inj hrecord] at h
      exact tested_iff_served_iff.1
        ⟨fun ht => (h.1 ⟨ht, hsecret⟩).1, fun hs => (h.2 ⟨hs, hsecret⟩).1⟩
    · intro h
      by_cases hsecret : ∃ secret, secrets record.providerReference = .ok secret
      · have hiff := tested_iff_served_iff.2 (h record rfl hsecret)
        exact and_congr_left fun _ => hiff
      · simp [hsecret]

/-- A profile for SSH without a username. -/
def unnamedProfile : CredentialProfileRecord where
  id := 7
  tenantId := "default"
  name := "core switches"
  credentialType := some "ssh_password"
  username := none
  transportTypes := ["ssh"]
  providerReference := "core"
  enabled := true

/-- It is found under its tenant and id. -/
def unnamedLoader : ProfileLoader := fun tenantId id =>
  if tenantId = "default" ∧ id = 7 then some unnamedProfile else none

def oneSecret : SecretStore := fun reference =>
  if reference = "core" then .ok "s3cret" else .error (.provider .secretNotFound "no such secret")

def sshReference : CredentialReference := ⟨textOfUuid 7, "ssh", "default"⟩

theorem test_agrees_telnet : uuidOfText (textOfUuid 7) = some 7 ∧ sized "target" 512 "sw1" = [] ∧
    ((Succeeds (testProfile oneSecret unnamedLoader "default" 7 ⟨"telnet", "sw1"⟩) ↔
      ∃ credentials, (oneSecret.provider unnamedLoader).resolveReference
        ⟨textOfUuid 7, "telnet", "default"⟩ = .ok credentials) ↔
      ∀ record, unnamedLoader "default" 7 = some record →
        (∃ secret, oneSecret record.providerReference = .ok secret) →
          NoDifference record "telnet") := by
  have hid : uuidOfText (textOfUuid 7) = some 7 := uuidOfText_textOfUuid (by decide)
  have htarget : sized "target" 512 "sw1" = [] := by decide
  exact ⟨hid, htarget, test_agrees_iff oneSecret unnamedLoader ⟨textOfUuid 7, "telnet", "default"⟩ 7
    "sw1" hid htarget⟩

/-- The test of a profile without a username succeeds, and the provider raises. -/
theorem test_disagrees :
    ¬ (Succeeds (testProfile oneSecret unnamedLoader "default" 7 ⟨"ssh", "sw1"⟩) ↔
      ∃ credentials,
        (oneSecret.provider unnamedLoader).resolveReference sshReference = .ok credentials) := by
  intro h
  have hid : uuidOfText sshReference.credentialId = some 7 := uuidOfText_textOfUuid (by decide)
  have hload : (oneSecret.provider unnamedLoader).profileLoader sshReference.tenantId 7 =
      some unnamedProfile := rfl
  have hsuccess := h.1 ⟨_, rfl, rfl⟩
  rw [resolveReference_ok hid hload] at hsuccess
  obtain ⟨username, hname, _⟩ := hsuccess.1.username (by decide)
  cases hname

end Discovery
end NetOps
