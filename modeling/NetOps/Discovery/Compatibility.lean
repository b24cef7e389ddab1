import NetOps.Discovery.Inheritance
import NetOps.Transports.Credentials

/-!
# Discovery.Compatibility

Two tables of credential types: the one `from_credential_profile` marks the entries of a policy
with, and the one the credential provider decides by. They agree on an entry if and only if the
profile has a credential type, spelled as the provider reads it, that is on the same side in both
(`serves_iff_compatible`).
-/

namespace NetOps
namespace Discovery

open Text (lower strip upper)
open Transports (ProfileSecretCredentialProvider TransportKind kindOfAlias listedTypes
  normalizedType)
open Transports.ProfileSecretCredentialProvider (Usable Serves acceptedTypes)
open DiscoveryExecutionService (value_of_ofValue policy_new_ok)
open MultiTransportPolicy (fromCredentialProfile)

/-! ## The names of a policy -/

/-- The name of a capability, in lower case or not, has no spaces to strip. -/
theorem strip_of_ofValue {text : String} {capability : TransportCapability}
    (h : TransportCapability.ofValue (upper text) = some capability) :
    strip text = text ∧ strip (lower text) = lower text := by
  have hvisible : (capability.value.toList.all fun c => !Text.isSpace c) = true := by
    cases capability <;> decide
  refine Text.strip_of_upper_visible fun c hc => ?_
  rw [value_of_ofValue h] at hc
  simpa using List.all_eq_true.1 hvisible c hc

/-- The entries of a profile's policy. -/
theorem fromCredentialProfile_entry {profile : CredentialProfileRecord}
    {allowInsecure allowInsecureHttp : Bool} {policy : MultiTransportPolicy}
    {entry : TransportPolicyEntry}
    (h : fromCredentialProfile profile allowInsecure allowInsecureHttp = .ok policy)
    (hentry : entry ∈ policy.transports) :
    ∃ text, (profile.transportTypes = [] ∧ text = "ssh" ∨ text ∈ profile.transportTypes) ∧
      profileEntry profile.credentialType allowInsecure allowInsecureHttp text = some entry := by
  unfold fromCredentialProfile at h
  rw [(policy_new_ok h).1] at hentry
  obtain ⟨text, htext, hsome⟩ := List.mem_filterMap.1 (mem_of_mem_dedupeBy hentry)
  refine ⟨text, ?_, hsome⟩
  split at htext
  · rename_i hnil
    exact .inl ⟨hnil, List.mem_singleton.1 htext⟩
  · exact .inr htext

theorem profileEntry_compatible {credentialType : Option String}
    {allowInsecure allowInsecureHttp : Bool} {text : String} {entry : TransportPolicyEntry}
    (h : profileEntry credentialType allowInsecure allowInsecureHttp text = some entry) :
    entry.credentialCompatible = credentialCompatible credentialType entry.transportName := by
  unfold profileEntry at h
  split at h
  · cases h
  · split at h
    · cases h
    · split at h
      · cases h
      · cases h
        rfl

/-- The provider knows an entry by the protocol it is named after. -/
theorem kindOfAlias_entry {text : String} {capability : TransportCapability}
    (h : TransportCapability.ofValue (upper text) = some capability) {kind : TransportKind}
    (hkind : kindOfAlias (lower text) = some kind) :
    lower text = kind.value ∨ kind = .http ∧ lower text = "https" := by
  have hletter : ∀ l : Char, 97 ≤ l.toNat ∧ l.toNat ≤ 122 → l ≠ 'k' →
      l ∈ (lower text).toList → l.toUpper ∈ capability.value.toList := by
    intro l hl hk hmem
    rw [← value_of_ofValue h]
    exact Text.mem_upper_of_mem_strip_lower hl hk ((strip_of_ofValue h).2.symm ▸ hmem)
  have hother : ∀ l ∈ ['v', 'x', 'y', 'r'], ∀ word : String, l ∈ word.toList →
      lower text ≠ word := by
    intro l hl word hmem heq
    have hplain : (97 ≤ l.toNat ∧ l.toNat ≤ 122) ∧ l ≠ 'k' ∧
        ∀ c : TransportCapability, l.toUpper ∉ c.value.toList := by
      simp only [List.mem_cons, List.not_mem_nil, or_false] at hl
      rcases hl with rfl | rfl | rfl | rfl <;>
        exact ⟨by decide, by decide, fun c => by cases c <;> decide⟩
    exact hplain.2.2 capability (hletter l hplain.1 hplain.2.1 (heq ▸ hmem))
  have hnetmiko : lower text ≠ "netmiko" := by
    intro heq
    have hm := hletter 'm' (by decide) (by decide) (by rw [heq]; decide)
    have ht := hletter 't' (by decide) (by decide) (by rw [heq]; decide)
    cases capability <;> first | exact absurd hm (by decide) | exact absurd ht (by decide)
  unfold kindOfAlias at hkind
  split at hkind <;> cases hkind
  · exact .inl ‹_›
  · exact absurd ‹_› (hother 'r' (by decide) "paramiko" (by decide))
  · exact absurd ‹_› hnetmiko
  · exact .inl ‹_›
  · exact .inl ‹_›
  · exact absurd ‹_› (hother 'v' (by decide) "snmpv2c" (by decide))
  · exact absurd ‹_› (hother 'v' (by decide) "snmpv3" (by decide))
  · exact absurd ‹_› (hother 'y' (by decide) "pysnmp" (by decide))
  · exact .inl ‹_›
  · exact .inr ⟨rfl, ‹_›⟩
  · exact absurd ‹_› (hother 'x' (by decide) "httpx" (by decide))

/-! ## Two tables -/

/-- The types the policy counts as compatible with a name, in the provider's terms. -/
theorem mem_compatibility_iff {name : String} {kind : TransportKind}
    (hname : name = kind.value ∨ kind = .http ∧ name = "https") (credentialType : String) :
    name ∈ credentialTypeCompatibility credentialType ↔
      (credentialType ∈ acceptedTypes kind ∧ ¬ (kind = .ssh ∧ credentialType = "telnet_password")) ∨
        kind = .http ∧ credentialType = "ssh_password" := by
  rcases hname with rfl | ⟨rfl, rfl⟩
  · cases kind <;> unfold credentialTypeCompatibility <;> split <;>
      simp_all [acceptedTypes, TransportKind.value]
  · unfold credentialTypeCompatibility
    split <;> simp_all [acceptedTypes]

/-- A type of the policy's table is spelled as the provider reads it. -/
theorem normalized_of_compatible {name credentialType : String}
    (h : name ∈ credentialTypeCompatibility credentialType) :
    lower (strip credentialType) = credentialType := by
  unfold credentialTypeCompatibility at h
  split at h
  case h_8 => cases h
  all_goals decide

theorem kindOfAlias_of_compatible {name credentialType : String}
    (h : name ∈ credentialTypeCompatibility credentialType) :
    ∃ kind, kindOfAlias name = some kind := by
  unfold credentialTypeCompatibility at h
  split at h
  case h_1 =>
    simp only [List.mem_cons, List.not_mem_nil, or_false] at h
    rcases h with rfl | rfl | rfl | rfl <;> exact ⟨_, rfl⟩
  case h_6 | h_7 =>
    simp only [List.mem_cons, List.not_mem_nil, or_false] at h
    rcases h with rfl | rfl <;> exact ⟨_, rfl⟩
  case h_8 => cases h
  all_goals exact ⟨_, by rw [List.mem_singleton.1 h]; rfl⟩

/-- The type of a profile as it is written: empty if there is none. -/
def writtenType (profile : CredentialProfileRecord) : String := profile.credentialType.getD ""

/-- Both tables have the same opinion of the profile's type for an entry's name. -/
def TablesAgree (profile : CredentialProfileRecord) (name : String) : Prop :=
  writtenType profile ≠ "" ∧ ∀ kind, kindOfAlias name = some kind →
    (kind.value ∈ listedTypes profile →
      (normalizedType profile ∈ acceptedTypes kind → writtenType profile = normalizedType profile) ∧
      ¬ (kind = .ssh ∧ writtenType profile = "telnet_password") ∧
      ¬ (kind = .http ∧ writtenType profile = "ssh_password")) ∧
    (kind.value ∉ listedTypes profile → name ∉ credentialTypeCompatibility (writtenType profile))

theorem credentialCompatible_iff (profile : CredentialProfileRecord) (name : String) :
    credentialCompatible profile.credentialType name = true ↔
      writtenType profile = "" ∨ name ∈ credentialTypeCompatibility (writtenType profile) := by
  unfold credentialCompatible writtenType
  cases profile.credentialType with
  | none => simp
  | some t => simp

/-- The two tables agree on a type if and only if it is spelled as the provider reads it, and is
neither a Telnet password for SSH nor an SSH password for HTTP. -/
theorem compatible_iff_accepted {profile : CredentialProfileRecord} {name : String}
    {kind : TransportKind} (hname : name = kind.value ∨ kind = .http ∧ name = "https") :
    (name ∈ credentialTypeCompatibility (writtenType profile) ↔
      normalizedType profile ∈ acceptedTypes kind) ↔
    (normalizedType profile ∈ acceptedTypes kind → writtenType profile = normalizedType profile) ∧
      ¬ (kind = .ssh ∧ writtenType profile = "telnet_password") ∧
      ¬ (kind = .http ∧ writtenType profile = "ssh_password") := by
  have hmem := mem_compatibility_iff hname (writtenType profile)
  have hspelled : name ∈ credentialTypeCompatibility (writtenType profile) →
      normalizedType profile = writtenType profile := normalized_of_compatible
  constructor
  · intro h
    refine ⟨fun haccepts => (hspelled (h.2 haccepts)).symm, ?_, ?_⟩
    · rintro ⟨rfl, htype⟩
      have hnormal : normalizedType profile = "telnet_password" := by
        rw [normalizedType, ← writtenType, htype]
        decide
      have hcompatible := h.2 (by rw [hnormal]; decide)
      rcases hmem.1 hcompatible with ⟨_, hnot⟩ | ⟨hhttp, _⟩
      · exact hnot ⟨rfl, htype⟩
      · cases hhttp
    · rintro ⟨rfl, htype⟩
      have hcompatible := hmem.2 (.inr ⟨rfl, htype⟩)
      have haccepts := h.1 hcompatible
      rw [hspelled hcompatible, htype] at haccepts
      exact absurd haccepts (by decide)
  · rintro ⟨hsame, hssh, hhttp⟩
    constructor
    · intro hcompatible
      rcases hmem.1 hcompatible with ⟨haccepts, _⟩ | hnot
      · rwa [hspelled hcompatible]
      · exact absurd hnot hhttp
    · intro haccepts
      refine hmem.2 (.inl ⟨?_, hssh⟩)
      rwa [hsame haccepts]

/-- The policy is right about a name if and only if the tables agree on it. -/
theorem serves_iff_compatible {profile : CredentialProfileRecord} {text : String}
    {capability : TransportCapability}
    (h : TransportCapability.ofValue (upper text) = some capability) :
    (credentialCompatible profile.credentialType (lower text) = true ↔
      Serves profile (lower text)) ↔ TablesAgree profile (lower text) := by
  have hserves : Serves profile (lower text) ↔ ∃ kind, kindOfAlias (lower text) = some kind ∧
      kind.value ∈ listedTypes profile ∧ normalizedType profile ∈ acceptedTypes kind := by
    unfold Serves
    rw [(strip_of_ofValue h).2, Text.lower_lower]
  rw [credentialCompatible_iff, hserves, TablesAgree]
  by_cases hblank : writtenType profile = ""
  · -- every entry of a profile without a type counts as compatible, and none is served
    have hnone : ∀ kind, normalizedType profile ∉ acceptedTypes kind := by
      have hnormal : normalizedType profile = "" := by
        rw [normalizedType, ← writtenType, hblank]
        decide
      intro kind
      rw [hnormal]
      cases kind <;> decide
    simp [hblank, hnone]
  · cases hkind : kindOfAlias (lower text) with
    | none =>
      have hnone : lower text ∉ credentialTypeCompatibility (writtenType profile) := by
        intro hmem
        obtain ⟨kind, hsome⟩ := kindOfAlias_of_compatible hmem
        rw [hkind] at hsome
        cases hsome
      simp [hblank, hnone]
    | some kind =>
      simp only [hblank, false_or, ne_eq, not_false_eq_true, true_and, Option.some.injEq,
        exists_eq_left', forall_eq']
      by_cases hlisted : kind.value ∈ listedTypes profile
      · simp only [hlisted, true_and, forall_const, not_true_eq_false, false_imp_iff, and_true]
        exact compatible_iff_accepted (kindOfAlias_entry h hkind)
      · simp [hlisted]

/-! ## Policy and provider -/

/-- The provider gives credentials for an entry that is marked compatible, and refuses them for one
that is not. -/
def Agrees (p : ProfileSecretCredentialProvider) (reference : CredentialReference)
    (entry : TransportPolicyEntry) : Prop :=
  (entry.credentialCompatible = true →
    ∃ credentials, p.resolveReference reference = .ok credentials) ∧
  (entry.credentialCompatible = false →
    ∃ message, p.resolveReference reference = .error (.credentialResolution message))

theorem agrees_iff {p : ProfileSecretCredentialProvider} {reference : CredentialReference}
    {profile : CredentialProfileRecord} {username secret : String} {entry : TransportPolicyEntry}
    (h : p.Usable reference profile username secret) :
    Agrees p reference entry ↔
      (entry.credentialCompatible = true ↔ Serves profile reference.transport) := by
  unfold Agrees
  by_cases hserves : Serves profile reference.transport
  · obtain ⟨credentials, hok⟩ := h.resolveReference_ok hserves
    simp [hok, hserves]
  · obtain ⟨message, herror⟩ := h.resolveReference_refused hserves
    simp [herror, hserves]

/-- Policy and provider agree on an entry of a profile's policy if and only if their tables do. -/
theorem policy_provider_agree_iff (p : ProfileSecretCredentialProvider)
    (reference : CredentialReference) (profile : CredentialProfileRecord)
    (username secret : String) (allowInsecure allowInsecureHttp : Bool)
    (policy : MultiTransportPolicy) (entry : TransportPolicyEntry)
    (husable : p.Usable reference profile username secret)
    (hpolicy : fromCredentialProfile profile allowInsecure allowInsecureHttp = .ok policy)
    (hentry : entry ∈ policy.transports) (hreference : reference.transport = entry.transportName) :
    Agrees p reference entry ↔ TablesAgree profile entry.transportName := by
  obtain ⟨text, _, hsome⟩ := fromCredentialProfile_entry hpolicy hentry
  obtain ⟨_, hcapability, _, hname⟩ := profileEntry_some hsome
  rw [agrees_iff husable, hreference, profileEntry_compatible hsome, hname]
  exact serves_iff_compatible hcapability

/-! ### A profile for SSH and HTTPS -/

/-- A password for SSH and HTTPS. -/
def webProfile : CredentialProfileRecord where
  id := 5
  tenantId := "tenant"
  name := "web"
  credentialType := some "ssh_password"
  username := some "admin"
  transportTypes := ["ssh", "https"]
  providerReference := "SWITCH_PASSWORD"
  enabled := true

/-- A provider with that profile and its secret. -/
def webProvider : ProfileSecretCredentialProvider where
  secretProvider reference :=
    if reference = "SWITCH_PASSWORD" then .ok "hunter2"
    else .error (.secretProvider "Requested secret was not found.")
  profileLoader tenantId id :=
    if tenantId = "tenant" ∧ id = 5 then some webProfile else none

def webReference (transport : String) : CredentialReference where
  credentialId := "00000000-0000-0000-0000-000000000005"
  transport := transport
  tenantId := "tenant"

theorem webReference_id : uuidOfText "00000000-0000-0000-0000-000000000005" = some 5 := by
  decide

theorem webProfile_usable (transport : String) :
    webProvider.Usable (webReference transport) webProfile "admin" "hunter2" where
  found := ⟨5, webReference_id, rfl⟩
  enabled := rfl
  username_some := rfl
  username_ne := by decide
  secret_ok := rfl

theorem webPolicy_isSome :
    (fromCredentialProfile webProfile false false).toOption.isSome = true := by
  decide

def webPolicy : MultiTransportPolicy :=
  (fromCredentialProfile webProfile false false).toOption.get webPolicy_isSome

def sshWebEntry : TransportPolicyEntry := ⟨.ssh, "ssh", .ssh, false, true⟩

def httpsWebEntry : TransportPolicyEntry := ⟨.https, "https", .https, false, true⟩

theorem policy_provider_agree_iff_ssh :
    Agrees webProvider (webReference "ssh") sshWebEntry ↔ TablesAgree webProfile "ssh" :=
  policy_provider_agree_iff webProvider (webReference "ssh") webProfile "admin" "hunter2"
    false false
    webPolicy sshWebEntry (webProfile_usable "ssh") (ok_of_isSome webPolicy_isSome)
    List.mem_cons_self rfl

/-- The HTTPS entry is marked compatible, and the provider refuses its credentials. -/
theorem policy_provider_agree_fails :
    ¬ ∀ policy, fromCredentialProfile webProfile false false = .ok policy →
      ∀ entry ∈ policy.transports, Agrees webProvider (webReference entry.transportName) entry := by
  intro h
  have hagrees := h webPolicy (ok_of_isSome webPolicy_isSome) httpsWebEntry
    (List.mem_cons_of_mem _ List.mem_cons_self)
  obtain ⟨credentials, hok⟩ := hagrees.1 rfl
  have hrefused :
      (webProvider.resolveReference (webReference "https")).toOption.isSome = false := by
    decide
  rw [show webReference httpsWebEntry.transportName = webReference "https" from rfl] at hok
  rw [hok] at hrefused
  cases hrefused

end Discovery
end NetOps
