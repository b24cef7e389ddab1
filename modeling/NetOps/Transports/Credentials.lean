import NetOps.Discovery.Policy
import NetOps.Transports.Manager

/-!
# Transports.Credentials

The credential provider of the application (`transports/credentials.py`): it turns a reference to a
credential profile, and the transport it is for, into ephemeral credentials. The loader of profiles
and the store of secrets are its parameters.

* `acceptedTypes`: the provider's own table of transports and credential types.
* `Usable.resolveReference_ok`, `Usable.resolveReference_refused`: when it returns credentials, for
  a profile with a username and a secret that can be read.
-/

namespace NetOps
namespace Transports

open Discovery (Exn UUID CredentialReference CredentialProfileRecord uuidOfText)
open Text (lower strip)

/-! ## Transport kinds -/

/-- The values of the `aliases` table. -/
inductive TransportKind where
  | ssh
  | telnet
  | snmp
  | http
  deriving DecidableEq

def TransportKind.value : TransportKind → String
  | .ssh => "ssh"
  | .telnet => "telnet"
  | .snmp => "snmp"
  | .http => "http"

/-- `aliases.get`. -/
def kindOfAlias (normalized : String) : Option TransportKind :=
  match normalized with
  | "ssh" | "paramiko" | "netmiko" => some .ssh
  | "telnet" => some .telnet
  | "snmp" | "snmpv2c" | "snmpv3" | "pysnmp" => some .snmp
  | "http" | "https" | "httpx" => some .http
  | _ => none

/-- `_transport_kind`. -/
def transportKind (transport : String) : Except Exn TransportKind :=
  match kindOfAlias (lower (strip transport)) with
  | some kind => .ok kind
  | none => .error (.credentialResolution
      "Credential profile does not support the selected transport.")

/-- `_profile_id`. -/
def profileIdOf (reference : CredentialReference) : Except Exn UUID :=
  match uuidOfText reference.credentialId with
  | some id => .ok id
  | none => .error (.credentialResolution "Credential profile was not found.")

/-- `item.strip().lower()` of every transport type. -/
def listedTypes (profile : CredentialProfileRecord) : List String :=
  profile.transportTypes.map fun item => lower (strip item)

/-- `(credential_type or "").strip().lower()`. -/
def normalizedType (profile : CredentialProfileRecord) : String :=
  lower (strip (profile.credentialType.getD ""))

/-! ## Secrets -/

/-- `secret.split("::")`; `part` is the part being read, backwards. -/
def splitParts (part : List Char) : List Char → List String
  | ':' :: ':' :: cs => String.ofList part.reverse :: splitParts [] cs
  | c :: cs => splitParts (c :: part) cs
  | [] => [String.ofList part.reverse]

/-- The SNMPv3 credentials in a secret `level::protocol::secret::privacy protocol::secret`. -/
def snmpV3Credentials (username secret : String) : TransportCredentials :=
  let parts := if secret = "" then [] else splitParts [] secret.toList
  .snmpV3 username (Text.orElse (parts.getD 0 "") "authNoPriv") parts[1]? parts[2]? parts[3]?
    parts[4]?

/-! ## The provider -/

structure ProfileSecretCredentialProvider where
  secretProvider : String → Except Exn String
  profileLoader : String → UUID → Option CredentialProfileRecord

namespace ProfileSecretCredentialProvider

variable (p : ProfileSecretCredentialProvider)

/-- The profile's username, required for `use`. -/
def usernameFor (profile : CredentialProfileRecord) (use : String) : Except Exn String :=
  match profile.username with
  | none => .error (.credentialResolution s!"Credential profile username is required for {use}.")
  | some username =>
    if username = "" then
      .error (.credentialResolution s!"Credential profile username is required for {use}.")
    else .ok username

def passwordCredentials (profile : CredentialProfileRecord) (use : String) :
    Except Exn TransportCredentials := do
  let username ← usernameFor profile use
  let password ← p.secretProvider profile.providerReference
  return .usernamePassword username password

def tokenCredentials (profile : CredentialProfileRecord) (scheme : String) :
    Except Exn TransportCredentials := do
  let token ← p.secretProvider profile.providerReference
  return .token token scheme

def incompatible (use : String) : Except Exn TransportCredentials :=
  .error (.credentialResolution s!"Credential profile is not compatible with {use}.")

/-- The credentials of a profile for one kind of transport. -/
def credentialsFor (profile : CredentialProfileRecord) :
    TransportKind → Except Exn TransportCredentials
  | .ssh =>
    if normalizedType profile ∉ ["ssh_password", "telnet_password", "ssh_key"] then
      incompatible "SSH"
    else if normalizedType profile = "ssh_key" then p.tokenCredentials profile "SSH-KEY"
    else p.passwordCredentials profile "SSH"
  | .telnet =>
    if normalizedType profile ∉ ["ssh_password", "telnet_password"] then incompatible "Telnet"
    else p.passwordCredentials profile "Telnet"
  | .snmp =>
    if normalizedType profile = "snmp_v2c" then do
      let community ← p.secretProvider profile.providerReference
      return .snmpV2c community
    else if normalizedType profile = "snmp_v3" then do
      let username ← usernameFor profile "SNMPv3"
      let secret ← p.secretProvider profile.providerReference
      return snmpV3Credentials username secret
    else incompatible "SNMP"
  | .http =>
    if normalizedType profile = "http_basic" then
      p.passwordCredentials profile "HTTP/HTTPS basic auth"
    else if normalizedType profile = "http_token" then p.tokenCredentials profile "Bearer"
    else incompatible "HTTP/HTTPS"

/-- `resolve_reference`. -/
def resolveReference (reference : CredentialReference) : Except Exn TransportCredentials := do
  let id ← profileIdOf reference
  match p.profileLoader reference.tenantId id with
  | none => .error (.credentialResolution "Credential profile was not found.")
  | some profile =>
    if profile.enabled = false then
      .error (.credentialResolution "Credential profile was not found.")
    else do
      let kind ← transportKind reference.transport
      if kind.value ∉ listedTypes profile then
        .error (.credentialResolution
          "Credential profile does not support the selected transport.")
      else p.credentialsFor profile kind

/-! ## What it accepts -/

/-- The credential types that serve a kind of transport. -/
def acceptedTypes : TransportKind → List String
  | .ssh => ["ssh_password", "telnet_password", "ssh_key"]
  | .telnet => ["ssh_password", "telnet_password"]
  | .snmp => ["snmp_v2c", "snmp_v3"]
  | .http => ["http_basic", "http_token"]

/-- The profile, found under the reference, is enabled, with a username and a secret. -/
structure Usable (reference : CredentialReference) (profile : CredentialProfileRecord)
    (username secret : String) : Prop where
  found : ∃ id, uuidOfText reference.credentialId = some id ∧
    p.profileLoader reference.tenantId id = some profile
  enabled : profile.enabled = true
  username_some : profile.username = some username
  username_ne : username ≠ ""
  secret_ok : p.secretProvider profile.providerReference = .ok secret

variable {p} {reference : CredentialReference} {profile : CredentialProfileRecord}
  {username secret : String}

theorem Usable.usernameFor (h : p.Usable reference profile username secret) (use : String) :
    ProfileSecretCredentialProvider.usernameFor profile use = .ok username := by
  simp [ProfileSecretCredentialProvider.usernameFor, h.username_some, h.username_ne]

theorem Usable.passwordCredentials (h : p.Usable reference profile username secret)
    (use : String) :
    p.passwordCredentials profile use = .ok (.usernamePassword username secret) := by
  simp only [ProfileSecretCredentialProvider.passwordCredentials, h.usernameFor, h.secret_ok, bind,
    Except.bind, pure, Except.pure]

theorem Usable.tokenCredentials (h : p.Usable reference profile username secret)
    (scheme : String) : p.tokenCredentials profile scheme = .ok (.token secret scheme) := by
  simp only [ProfileSecretCredentialProvider.tokenCredentials, h.secret_ok, bind, Except.bind, pure,
    Except.pure]

/-- A kind of transport that accepts the type of a usable profile gets credentials. -/
theorem Usable.credentialsFor_accepted (h : p.Usable reference profile username secret)
    {kind : TransportKind} (haccepts : normalizedType profile ∈ acceptedTypes kind) :
    ∃ credentials, p.credentialsFor profile kind = .ok credentials := by
  cases kind with
  | ssh =>
    have hmem : normalizedType profile ∈ ["ssh_password", "telnet_password", "ssh_key"] := haccepts
    simp only [credentialsFor, hmem, not_true_eq_false, if_false, h.tokenCredentials,
      h.passwordCredentials]
    split <;> exact ⟨_, rfl⟩
  | telnet =>
    have hmem : normalizedType profile ∈ ["ssh_password", "telnet_password"] := haccepts
    simp only [credentialsFor, hmem, not_true_eq_false, if_false, h.passwordCredentials]
    exact ⟨_, rfl⟩
  | snmp =>
    simp only [acceptedTypes, List.mem_cons, List.not_mem_nil, or_false] at haccepts
    simp only [credentialsFor, h.secret_ok, h.usernameFor, bind, Except.bind, pure, Except.pure]
    rcases haccepts with ht | ht <;> simp [ht]
  | http =>
    simp only [acceptedTypes, List.mem_cons, List.not_mem_nil, or_false] at haccepts
    simp only [credentialsFor, h.passwordCredentials, h.tokenCredentials]
    rcases haccepts with ht | ht <;> simp [ht]

/-- A kind of transport that does not accept a profile's type is incompatible with it. -/
theorem credentialsFor_refused {kind : TransportKind}
    (hrefuses : normalizedType profile ∉ acceptedTypes kind) :
    ∃ use, p.credentialsFor profile kind = incompatible use := by
  cases kind with
  | ssh =>
    have hmem : normalizedType profile ∉ ["ssh_password", "telnet_password", "ssh_key"] := hrefuses
    exact ⟨"SSH", by simp only [credentialsFor, hmem, not_false_eq_true, if_true]⟩
  | telnet =>
    have hmem : normalizedType profile ∉ ["ssh_password", "telnet_password"] := hrefuses
    exact ⟨"Telnet", by simp only [credentialsFor, hmem, not_false_eq_true, if_true]⟩
  | snmp =>
    simp only [acceptedTypes, List.mem_cons, List.not_mem_nil, or_false, not_or] at hrefuses
    exact ⟨"SNMP", by simp only [credentialsFor, hrefuses.1, hrefuses.2, if_false]⟩
  | http =>
    simp only [acceptedTypes, List.mem_cons, List.not_mem_nil, or_false, not_or] at hrefuses
    exact ⟨"HTTP/HTTPS", by simp only [credentialsFor, hrefuses.1, hrefuses.2, if_false]⟩

/-- The transport has a kind that the profile lists and that accepts its type. -/
def Serves (profile : CredentialProfileRecord) (transport : String) : Prop :=
  ∃ kind, kindOfAlias (lower (strip transport)) = some kind ∧ kind.value ∈ listedTypes profile ∧
    normalizedType profile ∈ acceptedTypes kind

theorem Usable.resolveReference_ok (h : p.Usable reference profile username secret)
    (hserves : Serves profile reference.transport) :
    ∃ credentials, p.resolveReference reference = .ok credentials := by
  obtain ⟨kind, hkind, hlisted, haccepts⟩ := hserves
  obtain ⟨id, hid, hload⟩ := h.found
  obtain ⟨credentials, hcredentials⟩ := h.credentialsFor_accepted haccepts
  refine ⟨credentials, ?_⟩
  simp only [resolveReference, profileIdOf, hid, bind, Except.bind, hload, h.enabled,
    Bool.true_eq_false, if_false, transportKind, hkind, hlisted, not_true_eq_false, hcredentials]

theorem Usable.resolveReference_refused (h : p.Usable reference profile username secret)
    (hserves : ¬ Serves profile reference.transport) :
    ∃ message, p.resolveReference reference = .error (.credentialResolution message) := by
  obtain ⟨id, hid, hload⟩ := h.found
  simp only [resolveReference, profileIdOf, hid, bind, Except.bind, hload, h.enabled,
    Bool.true_eq_false, if_false, transportKind]
  cases hkind : kindOfAlias (lower (strip reference.transport)) with
  | none => exact ⟨_, rfl⟩
  | some kind =>
    dsimp only
    by_cases hlisted : kind.value ∈ listedTypes profile
    · rw [if_neg (not_not.2 hlisted)]
      have hrefuses : normalizedType profile ∉ acceptedTypes kind := by
        intro haccepts
        exact hserves ⟨kind, hkind, hlisted, haccepts⟩
      obtain ⟨use, huse⟩ := credentialsFor_refused (p := p) hrefuses
      exact ⟨_, huse⟩
    · rw [if_pos hlisted]
      exact ⟨_, rfl⟩

end ProfileSecretCredentialProvider
end Transports
end NetOps
