import NetOps.Transports.Credentials

/-!
# Transports.Sessions

What the sessions of the application's transports log in with (`create_session` of
`transports/ssh`, `transports/telnet`, `transports/snmp` and `transports/http`, and
`transports/_support.py`). The session of the transport that credentials were resolved for uses
exactly these credentials, unless they are an SSH key or SNMPv3 credentials, which no session can
hold (`session_faithful_iff`).
-/

namespace NetOps
namespace Transports

open Discovery (Exn PyDict PyVal CredentialReference CredentialProfileRecord uuidOfText)

/-! ## Creating sessions -/

/-- `as_dict`, in the order of its keys. -/
def TransportCredentials.asDict : TransportCredentials → List (String × String)
  | .usernamePassword username password => [("username", username), ("password", password)]
  | .token value scheme => [("Authorization", s!"{scheme} {value}")]
  | .snmpV2c community => [("community", community)]
  | .snmpV3 username securityLevel authProtocol authSecret privacyProtocol privacySecret =>
    [("username", some username), ("security_level", some securityLevel),
      ("auth_protocol", authProtocol), ("auth_secret", authSecret),
      ("privacy_protocol", privacyProtocol), ("privacy_secret", privacySecret)].filterMap
        fun e => e.2.map fun value => (e.1, value)

/-- `extract_username_password`. -/
def extractUsernamePassword : Option TransportCredentials → Option String × Option String
  | some (.usernamePassword username password) => (some username, some password)
  | some (.token token _) => (some token, none)
  | _ => (none, none)

/-- `metadata_optional_string`. -/
def metadataOptionalString (metadata : PyDict) (key : String) : Except Exn (Option String) :=
  match metadata.getD key with
  | .none => .ok none
  | .str value => .ok (some value)
  | _ => .error (.raised s!"Metadata value '{key}' must be a string when provided.")

/-- What a session logs in with. A command line session of Netmiko has an enable secret too. -/
inductive Login where
  | cli (username password enableSecret : Option String)
  | snmp (community : String)
  | http (headers : List (String × String)) (auth : Option (String × String))

/-- The transports the application registers. -/
inductive Implementation where
  | netmiko
  | paramiko
  | telnet
  | pysnmp
  | httpx
  deriving DecidableEq

namespace Implementation

def name : Implementation → String
  | .netmiko => "netmiko"
  | .paramiko => "paramiko"
  | .telnet => "telnet"
  | .pysnmp => "pysnmp"
  | .httpx => "httpx"

/-- They are the transports of the application. -/
example : [httpx, pysnmp, telnet, paramiko, netmiko].map name = applicationCapabilities.map (·.1) :=
  rfl

end Implementation

def NetmikoSSHTransport.createSession (credentials : Option TransportCredentials)
    (metadata : PyDict) : Except Exn Login := do
  let (username, password) := extractUsernamePassword credentials
  let secret ← metadataOptionalString metadata "secret"
  return .cli username password secret

def ParamikoSSHTransport.createSession (credentials : Option TransportCredentials) : Login :=
  let (username, password) := extractUsernamePassword credentials
  .cli username password none

def TelnetTransport.createSession (credentials : Option TransportCredentials) : Login :=
  let (username, password) := extractUsernamePassword credentials
  .cli username password none

/-- `default_community`. -/
def defaultCommunity : String := "public"

/-- The community of the credentials, else of the metadata, else the default. -/
def PySnmpTransport.createSession (credentials : Option TransportCredentials)
    (metadata : PyDict) : Except Exn Login :=
  match credentials with
  | some (.snmpV2c community) => .ok (.snmp community)
  | _ => do
    let community ← metadataOptionalString metadata "community"
    return .snmp (community.getD defaultCommunity)

/-- Credentials that are no `Authorization` header become basic authentication. -/
def HttpxTransport.createSession (credentials : Option TransportCredentials) : Login :=
  match credentials with
  | none => .http [] none
  | some credentials =>
    let headers := credentials.asDict
    if headers.any fun h => h.1 == "Authorization" then .http headers none
    else
      let username := headers.lookup "username"
      let password := headers.lookup "password"
      .http (headers.filter fun h => !(h.1 == "username" || h.1 == "password"))
        (if username = none ∧ password = none then none
          else some (username.getD "", password.getD ""))

/-- `create_session`; `metadata` is that of the context. -/
def Implementation.createSession (credentials : Option TransportCredentials) (metadata : PyDict) :
    Implementation → Except Exn Login
  | .netmiko => NetmikoSSHTransport.createSession credentials metadata
  | .paramiko => .ok (ParamikoSSHTransport.createSession credentials)
  | .telnet => .ok (TelnetTransport.createSession credentials)
  | .pysnmp => PySnmpTransport.createSession credentials metadata
  | .httpx => .ok (HttpxTransport.createSession credentials)

/-! ## What the provider issues -/

/-- The credentials the provider issues for a profile and a kind of transport. -/
inductive Issued (profile : CredentialProfileRecord) : TransportKind → TransportCredentials → Prop
  | password {kind : TransportKind} {username password : String} :
      normalizedType profile ≠ "ssh_key" → normalizedType profile ≠ "snmp_v3" → kind ≠ .snmp →
      profile.username = some username → Issued profile kind (.usernamePassword username password)
  | key {token : String} :
      normalizedType profile = "ssh_key" → Issued profile .ssh (.token token "SSH-KEY")
  | community {community : String} :
      normalizedType profile = "snmp_v2c" → Issued profile .snmp (.snmpV2c community)
  | v3 {username secret : String} :
      normalizedType profile = "snmp_v3" → Issued profile .snmp (snmpV3Credentials username secret)
  | bearer {token : String} :
      normalizedType profile = "http_token" → Issued profile .http (.token token "Bearer")

namespace ProfileSecretCredentialProvider

variable {p : ProfileSecretCredentialProvider} {profile : CredentialProfileRecord}

theorem passwordCredentials_ok {use : String} {credentials : TransportCredentials}
    (h : p.passwordCredentials profile use = .ok credentials) :
    ∃ username password, profile.username = some username ∧
      credentials = .usernamePassword username password := by
  unfold passwordCredentials usernameFor at h
  split at h
  · cases h
  · rename_i username husername
    split at h
    · cases h
    · cases hsecret : p.secretProvider profile.providerReference with
      | error e => simp [hsecret, bind, Except.bind] at h
      | ok password =>
        simp only [hsecret, bind, Except.bind, pure, Except.pure, Except.ok.injEq] at h
        exact ⟨username, password, husername, h.symm⟩

theorem tokenCredentials_ok {scheme : String} {credentials : TransportCredentials}
    (h : p.tokenCredentials profile scheme = .ok credentials) :
    ∃ token, credentials = .token token scheme := by
  unfold tokenCredentials at h
  cases hsecret : p.secretProvider profile.providerReference with
  | error e => simp [hsecret, bind, Except.bind] at h
  | ok token =>
    simp only [hsecret, bind, Except.bind, pure, Except.pure, Except.ok.injEq] at h
    exact ⟨token, h.symm⟩

theorem incompatible_ok {use : String} {credentials : TransportCredentials} :
    ¬ incompatible use = .ok credentials := by
  simp [incompatible]

theorem credentialsFor_issued {kind : TransportKind} {credentials : TransportCredentials}
    (h : p.credentialsFor profile kind = .ok credentials) : Issued profile kind credentials := by
  have hother : ∀ text, normalizedType profile = text → text ≠ "ssh_key" ∧ text ≠ "snmp_v3" →
      normalizedType profile ≠ "ssh_key" ∧ normalizedType profile ≠ "snmp_v3" := by
    intro text htext hne
    rwa [htext]
  cases kind with
  | ssh =>
    simp only [credentialsFor] at h
    by_cases htype : normalizedType profile ∈ ["ssh_password", "telnet_password", "ssh_key"]
    · rw [if_neg (not_not.2 htype)] at h
      by_cases hkey : normalizedType profile = "ssh_key"
      · rw [if_pos hkey] at h
        obtain ⟨token, rfl⟩ := tokenCredentials_ok h
        exact .key hkey
      · rw [if_neg hkey] at h
        obtain ⟨username, password, husername, rfl⟩ := passwordCredentials_ok h
        refine .password hkey (fun hv3 => ?_) (by decide) husername
        rw [hv3] at htype
        exact absurd htype (by decide)
    · rw [if_pos htype] at h
      exact absurd h incompatible_ok
  | telnet =>
    simp only [credentialsFor] at h
    by_cases htype : normalizedType profile ∈ ["ssh_password", "telnet_password"]
    · rw [if_neg (not_not.2 htype)] at h
      obtain ⟨username, password, husername, rfl⟩ := passwordCredentials_ok h
      simp only [List.mem_cons, List.not_mem_nil, or_false] at htype
      rcases htype with htype | htype
      · obtain ⟨hkey, hv3⟩ := hother _ htype (by decide)
        exact .password hkey hv3 (by decide) husername
      · obtain ⟨hkey, hv3⟩ := hother _ htype (by decide)
        exact .password hkey hv3 (by decide) husername
    · rw [if_pos htype] at h
      exact absurd h incompatible_ok
  | snmp =>
    simp only [credentialsFor] at h
    by_cases hv2c : normalizedType profile = "snmp_v2c"
    · rw [if_pos hv2c] at h
      cases hsecret : p.secretProvider profile.providerReference with
      | error e => simp [hsecret, bind, Except.bind] at h
      | ok community =>
        simp only [hsecret, bind, Except.bind, pure, Except.pure, Except.ok.injEq] at h
        rw [← h]
        exact .community hv2c
    rw [if_neg hv2c] at h
    by_cases hv3 : normalizedType profile = "snmp_v3"
    · rw [if_pos hv3] at h
      cases husername : usernameFor profile "SNMPv3" with
      | error e => simp [husername, bind, Except.bind] at h
      | ok username =>
        cases hsecret : p.secretProvider profile.providerReference with
        | error e => simp [husername, hsecret, bind, Except.bind] at h
        | ok secret =>
          simp only [husername, hsecret, bind, Except.bind, pure, Except.pure, Except.ok.injEq] at h
          rw [← h]
          exact .v3 hv3
    · rw [if_neg hv3] at h
      exact absurd h incompatible_ok
  | http =>
    simp only [credentialsFor] at h
    by_cases hbasic : normalizedType profile = "http_basic"
    · rw [if_pos hbasic] at h
      obtain ⟨username, password, husername, rfl⟩ := passwordCredentials_ok h
      obtain ⟨hkey, hv3⟩ := hother _ hbasic (by decide)
      exact .password hkey hv3 (by decide) husername
    rw [if_neg hbasic] at h
    by_cases htoken : normalizedType profile = "http_token"
    · rw [if_pos htoken] at h
      obtain ⟨token, rfl⟩ := tokenCredentials_ok h
      exact .bearer htoken
    · rw [if_neg htoken] at h
      exact absurd h incompatible_ok

/-- What `resolve_reference` returns was issued for the profile and the kind of the transport. -/
theorem resolveReference_issued {reference : CredentialReference}
    {credentials : TransportCredentials}
    (hfound : ∃ id, uuidOfText reference.credentialId = some id ∧
      p.profileLoader reference.tenantId id = some profile)
    (h : p.resolveReference reference = .ok credentials) :
    ∃ kind, kindOfAlias (Text.lower (Text.strip reference.transport)) = some kind ∧
      Issued profile kind credentials := by
  obtain ⟨id, hid, hload⟩ := hfound
  simp only [resolveReference, profileIdOf, hid, bind, Except.bind, hload] at h
  split at h
  · cases h
  · unfold transportKind at h
    cases hkind : kindOfAlias (Text.lower (Text.strip reference.transport)) with
    | none => simp [hkind] at h
    | some kind =>
      simp only [hkind] at h
      split at h
      · cases h
      · exact ⟨kind, rfl, credentialsFor_issued h⟩

end ProfileSecretCredentialProvider

/-! ## Faithful sessions -/

/-- The login presents exactly these credentials. -/
def Login.Presents : Login → TransportCredentials → Prop
  | .cli username password _, .usernamePassword username' password' =>
    username = some username' ∧ password = some password'
  | .snmp community, .snmpV2c community' => community = community'
  | .http headers auth, .usernamePassword username password =>
    headers = [] ∧ auth = some (username, password)
  | .http headers auth, .token token scheme =>
    headers = [("Authorization", s!"{scheme} {token}")] ∧ auth = none
  | _, _ => False

def Login.username : Login → Option String
  | .cli username _ _ => username
  | .snmp _ => none
  | .http _ auth => auth.map (·.1)

/-- The login presents exactly these credentials, under no name but the profile's. -/
def Login.Faithful (profile : CredentialProfileRecord) (credentials : TransportCredentials)
    (login : Login) : Prop :=
  login.Presents credentials ∧
    ∀ username, login.username = some username → profile.username = some username

/-- The kind of transport the provider takes an implementation for. -/
def Implementation.kind : Implementation → TransportKind
  | .netmiko => .ssh
  | .paramiko => .ssh
  | .telnet => .telnet
  | .pysnmp => .snmp
  | .httpx => .http

theorem Implementation.kind_eq (implementation : Implementation) :
    kindOfAlias (Text.lower (Text.strip implementation.name)) = some implementation.kind := by
  cases implementation <;> decide

/-- What a session of a username and password logs in with. -/
theorem createSession_password {implementation : Implementation} {username password : String}
    {metadata : PyDict} {login : Login} (hkind : implementation.kind ≠ .snmp)
    (h : implementation.createSession (some (.usernamePassword username password)) metadata =
      .ok login) :
    login.Presents (.usernamePassword username password) ∧ login.username = some username := by
  cases implementation with
  | netmiko =>
    simp only [Implementation.createSession, NetmikoSSHTransport.createSession,
      extractUsernamePassword, bind, Except.bind, pure, Except.pure] at h
    split at h
    · cases h
    · cases h
      exact ⟨⟨rfl, rfl⟩, rfl⟩
  | paramiko | telnet =>
    cases h
    exact ⟨⟨rfl, rfl⟩, rfl⟩
  | pysnmp => exact absurd rfl hkind
  | httpx =>
    have hbasic : HttpxTransport.createSession (some (.usernamePassword username password)) =
        .http [] (some (username, password)) := by
      simp [HttpxTransport.createSession, TransportCredentials.asDict, List.lookup_cons]
    rw [Implementation.createSession, hbasic] at h
    cases h
    exact ⟨⟨rfl, rfl⟩, rfl⟩

/-- A session of an SSH transport has a token for its username and no password. -/
theorem createSession_key {implementation : Implementation} {token scheme : String}
    {metadata : PyDict} {login : Login} (hkind : implementation.kind = .ssh)
    (h : implementation.createSession (some (.token token scheme)) metadata = .ok login) :
    ∃ secret, login = .cli (some token) none secret := by
  cases implementation with
  | netmiko =>
    simp only [Implementation.createSession, NetmikoSSHTransport.createSession,
      extractUsernamePassword, bind, Except.bind, pure, Except.pure] at h
    split at h
    · cases h
    · cases h
      exact ⟨_, rfl⟩
  | paramiko =>
    cases h
    exact ⟨_, rfl⟩
  | telnet | pysnmp | httpx => cases hkind

/-- An SNMP session has a community, whatever the credentials are. -/
theorem createSession_snmp {implementation : Implementation} {credentials : TransportCredentials}
    {metadata : PyDict} {login : Login} (hkind : implementation.kind = .snmp)
    (h : implementation.createSession (some credentials) metadata = .ok login) :
    ∃ community, login = .snmp community ∧
      ∀ community', credentials = .snmpV2c community' → community = community' := by
  cases implementation with
  | netmiko | paramiko | telnet | httpx => cases hkind
  | pysnmp =>
    simp only [Implementation.createSession, PySnmpTransport.createSession] at h
    split at h
    · rename_i community heq
      cases h
      refine ⟨community, rfl, fun community' h' => ?_⟩
      rw [h'] at heq
      cases heq
      rfl
    · rename_i hnot
      cases hmeta : metadataOptionalString metadata "community" with
      | error e => simp [hmeta, bind, Except.bind] at h
      | ok community =>
        simp only [hmeta, bind, Except.bind, pure, Except.pure, Except.ok.injEq] at h
        exact ⟨_, h.symm, fun community' h' => absurd (congrArg some h') (hnot community')⟩

theorem createSession_bearer {token scheme : String} :
    HttpxTransport.createSession (some (.token token scheme)) =
      .http [("Authorization", s!"{scheme} {token}")] none := by
  simp [HttpxTransport.createSession, TransportCredentials.asDict]

theorem Issued.faithful_iff {profile : CredentialProfileRecord} {implementation : Implementation}
    {credentials : TransportCredentials} {metadata : PyDict} {login : Login}
    (h : Issued profile implementation.kind credentials)
    (hlogin : implementation.createSession (some credentials) metadata = .ok login) :
    login.Faithful profile credentials ↔
      normalizedType profile ≠ "ssh_key" ∧ normalizedType profile ≠ "snmp_v3" := by
  generalize hkind : implementation.kind = kind at h
  cases h with
  | password hkey hv3 hsnmp husername =>
    obtain ⟨hpresents, hname⟩ := createSession_password (hkind ▸ hsnmp) hlogin
    refine iff_of_true ⟨hpresents, fun username h => ?_⟩ ⟨hkey, hv3⟩
    rw [hname] at h
    cases h
    exact husername
  | key hkey =>
    obtain ⟨secret, rfl⟩ := createSession_key hkind hlogin
    exact iff_of_false (fun h => h.1) fun h => h.1 hkey
  | community hv2c =>
    obtain ⟨community, rfl, hsame⟩ := createSession_snmp hkind hlogin
    refine iff_of_true ⟨hsame _ rfl, fun username h => ?_⟩ ?_
    · cases h
    · rw [hv2c]
      decide
  | v3 hv3 =>
    obtain ⟨community, rfl, _⟩ := createSession_snmp hkind hlogin
    exact iff_of_false (fun h => h.1) fun h => h.2 hv3
  | @bearer token htoken =>
    cases implementation with
    | netmiko | paramiko | telnet | pysnmp => cases hkind
    | httpx =>
      rw [Implementation.createSession, createSession_bearer] at hlogin
      cases hlogin
      refine iff_of_true ⟨⟨rfl, rfl⟩, fun username h => ?_⟩ ?_
      · cases h
      · rw [htoken]
        decide

/-- A session made from the credentials a profile has for its transport presents exactly these, if
and only if they are neither an SSH key nor SNMPv3 credentials. -/
theorem session_faithful_iff (p : ProfileSecretCredentialProvider)
    (reference : CredentialReference) (profile : CredentialProfileRecord)
    (implementation : Implementation) (metadata : PyDict) (credentials : TransportCredentials)
    (login : Login)
    (hfound : ∃ id, uuidOfText reference.credentialId = some id ∧
      p.profileLoader reference.tenantId id = some profile)
    (htransport : reference.transport = implementation.name)
    (hcredentials : p.resolveReference reference = .ok credentials)
    (hlogin : implementation.createSession (some credentials) metadata = .ok login) :
    login.Faithful profile credentials ↔
      normalizedType profile ≠ "ssh_key" ∧ normalizedType profile ≠ "snmp_v3" := by
  obtain ⟨kind, hkind, hissued⟩ :=
    ProfileSecretCredentialProvider.resolveReference_issued hfound hcredentials
  rw [htransport, implementation.kind_eq, Option.some.injEq] at hkind
  subst hkind
  exact hissued.faithful_iff hlogin

/-! ### A key and a community -/

/-- A profile of an SSH key and one of SNMPv3. -/
def keyProfile : CredentialProfileRecord where
  id := 5
  tenantId := "tenant"
  name := "key"
  credentialType := some "ssh_key"
  username := some "admin"
  transportTypes := ["ssh"]
  providerReference := "SWITCH_KEY"
  enabled := true

def v3Profile : CredentialProfileRecord :=
  { keyProfile with credentialType := some "snmp_v3", transportTypes := ["snmp"] }

/-- A provider that has one profile and one secret. -/
def providerOf (profile : CredentialProfileRecord) (secret : String) :
    ProfileSecretCredentialProvider where
  secretProvider _ := .ok secret
  profileLoader tenantId id := if tenantId = "tenant" ∧ id = 5 then some profile else none

def referenceFor (implementation : Implementation) : CredentialReference where
  credentialId := "00000000-0000-0000-0000-000000000005"
  transport := implementation.name
  tenantId := "tenant"

theorem referenceFor_id : uuidOfText "00000000-0000-0000-0000-000000000005" = some 5 := by
  decide

theorem keyProfile_credentials :
    (providerOf keyProfile "-----BEGIN KEY-----").resolveReference (referenceFor .netmiko) =
      .ok (.token "-----BEGIN KEY-----" "SSH-KEY") := rfl

theorem v3Profile_credentials :
    (providerOf v3Profile "authPriv::SHA::auth::AES::priv").resolveReference
        (referenceFor .pysnmp) =
      .ok (.snmpV3 "admin" "authPriv" (some "SHA") (some "auth") (some "AES") (some "priv")) := rfl

theorem session_faithful_iff_key :
    (Login.cli (some "-----BEGIN KEY-----") none none).Faithful keyProfile
        (.token "-----BEGIN KEY-----" "SSH-KEY") ↔
      normalizedType keyProfile ≠ "ssh_key" ∧ normalizedType keyProfile ≠ "snmp_v3" :=
  session_faithful_iff (providerOf keyProfile "-----BEGIN KEY-----") (referenceFor .netmiko)
    keyProfile .netmiko [] _ _ ⟨5, referenceFor_id, rfl⟩ rfl keyProfile_credentials rfl

/-- A private key becomes a username, and SNMPv3 credentials the default community. -/
theorem session_faithful_fails :
    ¬ ∀ (p : ProfileSecretCredentialProvider) (profile : CredentialProfileRecord)
        (implementation : Implementation) (credentials : TransportCredentials) (login : Login),
      p.profileLoader "tenant" 5 = some profile →
      p.resolveReference (referenceFor implementation) = .ok credentials →
      implementation.createSession (some credentials) [] = .ok login →
      login.Faithful profile credentials := by
  intro h
  have hsession : Implementation.pysnmp.createSession
      (some (.snmpV3 "admin" "authPriv" (some "SHA") (some "auth") (some "AES") (some "priv"))) [] =
        .ok (.snmp "public") := rfl
  exact (h (providerOf v3Profile "authPriv::SHA::auth::AES::priv") v3Profile .pysnmp _ _ rfl
    v3Profile_credentials hsession).1

end Transports
end NetOps
