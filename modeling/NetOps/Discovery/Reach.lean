import NetOps.Discovery.Inheritance

/-!
# Discovery.Reach

Which transport an entry of the fallback chain leads its collector to. The chain hands a collector
the name of a protocol (`ssh`, `https`, ...) as its preferred transport; the collector resolves it
among the transports the application registers, which are named after their implementations. The
two agree on one name, so the collector opens a session of the entry's capability if and only if
that capability is Telnet (`entry_reaches_iff`).
-/

namespace NetOps
namespace Discovery

open Collectors.Cisco Vendors.Cisco
open Transports (ApplicationManager TransportManager applicationCapabilities)
open MultiTransportDiscoveryOrchestrator (TransportAttemptConfig)

variable {W : Type}

/-- The first thing the conversation does is a network request that satisfies `P`. -/
def Conversation.Opens {α : Type} (P : NetworkRequest → Prop) : Conversation α → Prop
  | .network request _ => P request
  | _ => False

/-- A session of this capability, on a registered transport that has this capability alone. -/
def OnOwnTransport (m : TransportManager W) (capability : TransportCapability) :
    NetworkRequest → Prop
  | .openSession name _ _ selected _ => selected = capability ∧
      ∃ transport, m.resolve name = .ok transport ∧ transport.capabilities = [capability]
  | .exchange _ => False

namespace CiscoReach

open CiscoInventoryCollector

/-- A collector opens with the session it selects. -/
theorem collect_opens_iff {m : TransportManager W} {c : CiscoInventoryCollector}
    {context : CollectorContext} {P : NetworkRequest → Prop} :
    (c.collect m context).Opens P ↔ ∃ platform selection,
      c.resolvePlatform context = .ok platform ∧
      selectTransport m context platform = .ok selection ∧
        P (.openSession selection.transportName context.target.identifier context.target.address
          selection.capability (credentialReference context selection.transportName)) := by
  cases hplatform : c.resolvePlatform context with
  | error e => simp [collect, hplatform, Conversation.Opens]
  | ok platform =>
    cases hselection : selectTransport m context platform with
    | error e => simp [collect, hplatform, hselection, Conversation.Opens]
    | ok selection =>
      have hopens : (c.collect m context).Opens P ↔
          P (.openSession selection.transportName context.target.identifier context.target.address
            selection.capability (credentialReference context selection.transportName)) := by
        rw [collect, hplatform, lift_ok_bind, hselection, lift_ok_bind]
        rfl
      rw [hopens]
      constructor
      · intro hP
        exact ⟨platform, selection, rfl, hselection, hP⟩
      · rintro ⟨_, selection', hplatform', hselection', hP⟩
        cases hplatform'
        rw [hselection, Except.ok.injEq] at hselection'
        rwa [hselection']

end CiscoReach

namespace DiscoveryExecutionService

/-- The names of a policy are in lower case before `chainEntry` reads them. -/
theorem transportPolicy_lower {metadata : PyDict} {profile : Option CredentialProfileRecord}
    {policy : MultiTransportPolicy} (h : transportPolicy metadata profile = .ok policy) :
    ∀ entry ∈ policy.transports, ∃ credentialType allowInsecure text,
      chainEntry credentialType allowInsecure (Text.lower text) = some entry := by
  obtain ⟨names, hnames, hnamed⟩ := profileNames_named profile
    (metadata.getD "allow_insecure_telnet").truthy (metadata.getD "allow_insecure_http").truthy
  unfold transportPolicy at h
  simp only [hnames, bind, Except.bind] at h
  intro entry hentry
  rw [(policy_new_ok h).1, List.mem_filterMap] at hentry
  obtain ⟨name, hname, hchain⟩ := hentry
  have hordered := mem_of_mem_dedupeBy (mem_preferFirst hname)
  obtain ⟨⟨text, rfl⟩, _⟩ := fallbacks_named metadata hnamed name hordered
  exact ⟨_, _, text, hchain⟩

theorem telnet_letters :
    ∀ l ∈ "telnet".toList, (97 ≤ l.toNat ∧ l.toNat ≤ 122) ∧ l ≠ 's' ∧ l ≠ 'i' ∧ l ≠ 'f' := by
  intro l hl
  have hall : ("telnet".toList.all fun l =>
      decide ((97 ≤ l.toNat ∧ l.toNat ≤ 122) ∧ l ≠ 's' ∧ l ≠ 'i' ∧ l ≠ 'f')) = true := by
    decide
  exact of_decide_eq_true (List.all_eq_true.1 hall l hl)

/-- The entry of a Telnet capability is called `telnet`. -/
theorem telnet_entry {credentialType : Option String} {allowInsecure : Bool} {text : String}
    {entry : TransportPolicyEntry}
    (h : chainEntry credentialType allowInsecure (Text.lower text) = some entry)
    (htelnet : entry.capability = .telnet) : entry.transportName = "telnet" := by
  obtain ⟨hcap, hname⟩ := chainEntry_ok h
  have hupper :
      Text.upper (Text.lower text) = String.ofList ("telnet".toList.map Char.toUpper) := by
    rw [value_of_ofValue hcap, htelnet]
    decide
  rw [hname, Text.lower_of_upper telnet_letters hupper]
  decide

theorem strip_of_optionalString {text name : String} (h : optionalString (.str text) = some name) :
    Text.strip text = name := by
  have hif : (if Text.strip text = "" then none else some (Text.strip text)) = some name := h
  split at hif
  · cases hif
  · exact Option.some.inj hif

/-- The transport a collector prefers when it is to use an entry of the chain is a registered one if
and only if the entry is for Telnet. -/
theorem chainEntry_registered_iff {credentialType : Option String} {allowInsecure : Bool}
    {text : String} {entry : TransportPolicyEntry} (capability : TransportCapability)
    (h : chainEntry credentialType allowInsecure (Text.lower text) = some entry) :
    (∃ name, optionalString (.str entry.transportName) = some name ∧
      (name, [capability]) ∈ applicationCapabilities) ↔
        entry.capability = .telnet ∧ capability = .telnet := by
  obtain ⟨hcap, hname⟩ := chainEntry_ok h
  constructor
  · rintro ⟨name, hoptional, hmem⟩
    rw [hname] at hoptional
    have hletter : ∀ l : Char, 97 ≤ l.toNat ∧ l.toNat ≤ 122 → l ≠ 'k' → l ∈ name.toList →
        l.toUpper ∈ entry.capability.value.toList := by
      intro l hl hk hmem
      rw [← value_of_ofValue hcap]
      exact Text.mem_upper_of_mem_strip_lower hl hk (strip_of_optionalString hoptional ▸ hmem)
    simp only [applicationCapabilities, List.mem_cons, Prod.mk.injEq, List.cons.injEq, and_true,
      List.not_mem_nil, or_false] at hmem
    rcases hmem with ⟨rfl, rfl⟩ | ⟨rfl, rfl⟩ | ⟨rfl, rfl⟩ | ⟨rfl, rfl⟩ | ⟨rfl, rfl⟩
    · -- no capability has an `X` in its name
      have hx := hletter 'x' (by decide) (by decide) (by decide)
      cases hvalue : entry.capability <;> rw [hvalue] at hx <;> exact absurd hx (by decide)
    · -- nor a `Y`
      have hy := hletter 'y' (by decide) (by decide) (by decide)
      cases hvalue : entry.capability <;> rw [hvalue] at hy <;> exact absurd hy (by decide)
    · have htelnet := (chain_name hcap).2.2 hoptional
      exact ⟨htelnet, rfl⟩
    · -- nor an `R`
      have hr := hletter 'r' (by decide) (by decide) (by decide)
      cases hvalue : entry.capability <;> rw [hvalue] at hr <;> exact absurd hr (by decide)
    · -- `MIKO` needs an `M` and an `N` and a `T`
      have hm := hletter 'm' (by decide) (by decide) (by decide)
      have ht := hletter 't' (by decide) (by decide) (by decide)
      cases hvalue : entry.capability <;> rw [hvalue] at hm ht <;>
        first | exact absurd hm (by decide) | exact absurd ht (by decide)
  · rintro ⟨htelnet, rfl⟩
    refine ⟨"telnet", ?_, by decide⟩
    rw [telnet_entry h htelnet]
    decide

/-- The session of a collector of the chain is on the entry's own transport if and only if the entry
is for Telnet. -/
theorem collect_reaches_iff (m : ApplicationManager W) {job : DiscoveryJobRecord}
    {target : DiscoveryTargetRecordView} {credentialType : Option String} {allowInsecure : Bool}
    {text : String} {entry : TransportPolicyEntry} {c : CiscoInventoryCollector}
    {platform : CiscoPlatformDefinition}
    (hentry : chainEntry credentialType allowInsecure (Text.lower text) = some entry)
    (hplatform : c.resolvePlatform (buildContext job (chainTarget target entry.transportName)) =
      .ok platform)
    (hsupport : entry.capability ∈ platform.transportSupport) :
    (c.collect m.toTransportManager
      (buildContext job (chainTarget target entry.transportName))).Opens
        (OnOwnTransport m.toTransportManager entry.capability) ↔ entry.capability = .telnet := by
  have hpreferred : CiscoInventoryCollector.preferredTransport
      (buildContext job (chainTarget target entry.transportName)) =
        optionalString (.str entry.transportName) := by
    rw [preferredTransport_buildContext]
    simp [chainTarget, getD_set]
  have hregistered := chainEntry_registered_iff entry.capability hentry
  rw [CiscoReach.collect_opens_iff]
  constructor
  · rintro ⟨platform', selection, hplatform', hselect, hcapability, _⟩
    rw [hplatform, Except.ok.injEq] at hplatform'
    subst hplatform'
    rw [CiscoInventoryCollector.selectTransport, hpreferred] at hselect
    cases hname : optionalString (.str entry.transportName) with
    | none =>
      rw [(chainEntry_ok hentry).2] at hname
      exact absurd hname (chain_name (chainEntry_ok hentry).1).1
    | some name =>
      rw [hname] at hselect
      obtain ⟨_, hmem, _⟩ := (CiscoTransportSelector.selectPreferred_ok_iff m platform).1 hselect
      exact (hregistered.1 ⟨name, hname, hcapability ▸ hmem⟩).1
  · intro htelnet
    obtain ⟨name, hname, hmem⟩ := hregistered.2 ⟨htelnet, htelnet⟩
    obtain ⟨transport, hres, hname', hcap⟩ :=
      m.resolve_of_find (CiscoTransportSelector.find_of_mem hmem)
    refine ⟨platform, ⟨entry.capability, name⟩, hplatform, ?_, rfl, transport, hres, hcap⟩
    rw [CiscoInventoryCollector.selectTransport, hpreferred, hname]
    exact (CiscoTransportSelector.selectPreferred_ok_iff m platform).2 ⟨rfl, hmem, hsupport⟩

/-- An entry of a target's policy that its profile's credentials fit, and that the platform its
collector resolves supports, leads the collector to a session on a transport of the entry's
capability if and only if the entry is for Telnet. -/
theorem entry_reaches_iff (m : ApplicationManager W)
    (collectors : List (String × CiscoInventoryCollector)) (job : DiscoveryJobRecord)
    (target : DiscoveryTargetRecordView) (profile : Option CredentialProfileRecord) (w : Watch)
    (policy : MultiTransportPolicy) (entry : TransportPolicyEntry)
    (config : TransportAttemptConfig) (c : CiscoInventoryCollector)
    (platform : CiscoPlatformDefinition)
    (hpolicy : transportPolicy target.metadata profile = .ok policy)
    (hentry : entry ∈ policy.transports)
    (hconfig : chainConfig (ciscoRegistry m.toTransportManager collectors) job target policy w
      entry = some config)
    (hcollector : config.collector = c.toCollector m.toTransportManager)
    (hplatform : c.resolvePlatform config.context = .ok platform)
    (hsupport : entry.capability ∈ platform.transportSupport) :
    (config.collector.collect config.context).Opens
        (OnOwnTransport m.toTransportManager entry.capability) ↔ entry.capability = .telnet := by
  obtain ⟨credentialType, allowInsecure, text, hchain⟩ := transportPolicy_lower hpolicy entry hentry
  obtain ⟨_, _, hcontext⟩ := chainConfig_some hconfig
  rw [hcontext] at hplatform
  rw [hcollector, hcontext, CiscoInventoryCollector.toCollector_collect]
  exact collect_reaches_iff m hchain hplatform hsupport

/-! ### A switch to be reached over SSH -/

/-- A switch with a credential profile. -/
def profiledTarget : DiscoveryTargetRecord :=
  { httpxTarget with
    preferredTransport := none
    credentialProfileId := some "00000000-0000-0000-0000-000000000005" }

/-- Its profile: a password for SSH. -/
def sshProfile : CredentialProfileRecord where
  id := 5
  tenantId := "tenant"
  name := "switches"
  credentialType := some "ssh_password"
  username := some "admin"
  transportTypes := ["ssh"]
  providerReference := "env:SWITCH_PASSWORD"
  enabled := true

theorem sshPolicy_isSome :
    (transportPolicy profiledTarget.view.metadata (some sshProfile)).toOption.isSome = true := by
  decide

/-- Its policy. -/
def sshPolicy : MultiTransportPolicy :=
  (transportPolicy profiledTarget.view.metadata (some sshProfile)).toOption.get sshPolicy_isSome

def sshEntry : TransportPolicyEntry := ⟨.ssh, "ssh", .ssh, false, true⟩

/-- The attempt the chain makes for its one entry. -/
def sshConfig : TransportAttemptConfig where
  transportName := "ssh"
  capability := .ssh
  collector := httpxCollector.toCollector steadyApplication.toTransportManager
  context := buildContext httpxJob (chainTarget profiledTarget.view "ssh")
  isInsecure := false
  cancellationCheck := raiseIfCancelled httpxWatch

theorem sshConfig_built :
    chainConfig (ciscoRegistry steadyApplication.toTransportManager httpxCollectors) httpxJob
      profiledTarget.view sshPolicy httpxWatch sshEntry = some sshConfig := rfl

theorem sshConfig_platform :
    httpxCollector.resolvePlatform sshConfig.context = .ok catalyst2960x := by
  have hfamily : httpxCollector.requestedFamily sshConfig.context = "cisco-iosxe" := by
    decide
  have hcanonical : canonicalizeFamily "cisco-iosxe" = "catalyst-2960x" := by decide
  have hplatform : httpxCollector.familyPlatform "cisco-iosxe" = some catalyst2960x := by
    rw [CiscoInventoryCollector.familyPlatform, if_neg (by decide), hcanonical]
    rfl
  simp only [CiscoInventoryCollector.resolvePlatform, hfamily, hplatform, Option.orElse_eq_orElse,
    Option.orElse_some]

theorem entry_reaches_iff_ssh :
    (sshConfig.collector.collect sshConfig.context).Opens
        (OnOwnTransport steadyApplication.toTransportManager sshEntry.capability) ↔
      sshEntry.capability = .telnet :=
  entry_reaches_iff steadyApplication httpxCollectors httpxJob profiledTarget.view
    (some sshProfile) httpxWatch sshPolicy sshEntry sshConfig httpxCollector catalyst2960x
    (ok_of_isSome sshPolicy_isSome) List.mem_cons_self sshConfig_built rfl sshConfig_platform
    (by decide)

theorem sshEntry_chained :
    chainEntry (some "ssh_password") false (Text.lower "ssh") = some sshEntry :=
  rfl

/-- The SSH entry is compatible and supported, and its collector does not open an SSH session. -/
theorem entry_reaches_fails :
    ¬ ∀ policy, transportPolicy profiledTarget.view.metadata (some sshProfile) = .ok policy →
      ∀ entry ∈ policy.transports, entry.credentialCompatible = true → ∀ config,
        chainConfig (ciscoRegistry steadyApplication.toTransportManager httpxCollectors) httpxJob
          profiledTarget.view policy httpxWatch entry = some config →
        ∀ (c : CiscoInventoryCollector) platform,
          config.collector = c.toCollector steadyApplication.toTransportManager →
          c.resolvePlatform config.context = .ok platform →
          entry.capability ∈ platform.transportSupport →
          (config.collector.collect config.context).Opens
            (OnOwnTransport steadyApplication.toTransportManager entry.capability) := by
  intro h
  have hopens := h sshPolicy (ok_of_isSome sshPolicy_isSome) sshEntry List.mem_cons_self rfl
    sshConfig sshConfig_built httpxCollector catalyst2960x rfl sshConfig_platform (by decide)
  have htelnet := (collect_reaches_iff steadyApplication sshEntry_chained sshConfig_platform
    (by decide)).1 hopens
  exact absurd htelnet (by decide)

end DiscoveryExecutionService
end Discovery
end NetOps
