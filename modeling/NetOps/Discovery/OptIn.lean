import NetOps.Collectors.Cisco
import NetOps.Discovery.Execution

/-!
# Discovery.OptIn

Insecure transports and their opt-ins: which transport sessions the Cisco collectors ask for when
a job is executed, over the fallback chain or over a single transport.

* `chain_opted_in`: the chain opens Telnet and HTTP only with the opt-in.
* `opted_in_iff`: the single path does exactly if the transport its collector picks is covered.
-/

namespace NetOps
namespace Discovery

open Collectors.Cisco Vendors.Cisco
open Transports (ApplicationManager)
open MultiTransportDiscoveryOrchestrator (TransportAttemptConfig)

variable {W : Type}

/-! ## Opt-ins -/

/-- The HTTP opt-in of a target: its column, or an entry of its metadata. -/
def DiscoveryTargetRecord.httpOptIn (target : DiscoveryTargetRecord) : Bool :=
  (target.metadataJson.getD "allow_insecure_http").truthy || target.allowInsecureHttp

/-- The target allows a session of this capability. -/
def DiscoveryTargetRecord.Allows (target : DiscoveryTargetRecord)
    (capability : TransportCapability) : Prop :=
  (capability = .telnet → target.allowInsecureTelnet = true) ∧
    (capability = .http → target.httpOptIn = true)

/-- The request opens no insecure session the target does not allow. -/
def OptedIn (target : DiscoveryTargetRecord) : NetworkRequest → Prop
  | .openSession _ _ _ capability _ => target.Allows capability
  | .exchange _ => True

theorem getD_set (d : PyDict) (key key' : String) (value : PyVal) :
    (d.set key value).getD key' = if key' = key then value else d.getD key' := by
  unfold PyDict.getD
  rw [PyDict.get?_set]
  split <;> rfl

theorem getD_setDefault_ne (d : PyDict) {key key' : String} (value : PyVal) (h : key' ≠ key) :
    (d.setDefault key value).getD key' = d.getD key' := by
  unfold PyDict.setDefault
  split
  · rfl
  · rw [getD_set, if_neg h]

theorem getD_setDefaultOf_ne (d : PyDict) {key key' : String} (value : Option String)
    (h : key' ≠ key) : (setDefaultOf d key value).getD key' = d.getD key' := by
  cases value with
  | none => rfl
  | some value => exact getD_setDefault_ne d _ h

/-- The opt-ins in the metadata of an execution are those of the target. -/
theorem resolvedMetadata_optIns (target : DiscoveryTargetRecord) :
    (resolvedMetadata target).getD "allow_insecure_telnet" = .bool target.allowInsecureTelnet ∧
      (resolvedMetadata target).getD "allow_insecure_http" = .bool target.httpOptIn := by
  constructor
  · simp [resolvedMetadata, getD_setDefault_ne, getD_set]
  · simp [resolvedMetadata, getD_setDefault_ne, getD_setDefaultOf_ne, getD_set,
      DiscoveryTargetRecord.httpOptIn]

/-! ## The fallback chain -/

namespace DiscoveryExecutionService

/-- Both paths of an execution: the collectors it calls, each with the context it is given. -/
def collectorCalls (registry : CollectorRegistry) (job : DiscoveryJobRecord)
    (target : DiscoveryTargetRecordView) (profile : Option CredentialProfileRecord) (w : Watch) :
    List (Collector × CollectorContext) :=
  if usesChain target then
    match transportPolicy target.metadata profile with
    | .ok policy =>
      (buildTransportConfigs registry job target policy w).map fun c => (c.collector, c.context)
    | .error _ => []
  else match resolveCollector registry job target with
    | .ok call => [call]
    | .error _ => []

theorem preferredTransport_buildContext (job : DiscoveryJobRecord) (target : DiscoveryTarget) :
    CiscoInventoryCollector.preferredTransport (buildContext job target) =
      optionalString (target.metadata.getD "transport_name") := by
  simp [CiscoInventoryCollector.preferredTransport, buildContext, getD_set]

theorem policy_new_ok {transports : List TransportPolicyEntry} {allowInsecure allowHttp : Bool}
    {profileId : Option UUID} {policy : MultiTransportPolicy}
    (h : MultiTransportPolicy.new transports allowInsecure allowHttp profileId = .ok policy) :
    policy.transports = transports ∧ policy.allowInsecure = allowInsecure := by
  unfold MultiTransportPolicy.new at h
  split at h
  · cases h
    exact ⟨rfl, rfl⟩
  · cases h

/-- A policy has the Telnet opt-in of the metadata, and entries `chainEntry` makes. -/
theorem transportPolicy_ok {metadata : PyDict} {profile : Option CredentialProfileRecord}
    {policy : MultiTransportPolicy} (h : transportPolicy metadata profile = .ok policy) :
    policy.allowInsecure = (metadata.getD "allow_insecure_telnet").truthy ∧
      ∀ entry ∈ policy.transports, ∃ credentialType allowInsecure name,
        chainEntry credentialType allowInsecure name = some entry := by
  unfold transportPolicy at h
  cases hnames : profileNames profile (metadata.getD "allow_insecure_telnet").truthy
      (metadata.getD "allow_insecure_http").truthy with
  | error e => simp [hnames, bind, Except.bind] at h
  | ok names =>
    simp only [hnames, bind, Except.bind] at h
    obtain ⟨htransports, hflag⟩ := policy_new_ok h
    refine ⟨hflag, fun entry hentry => ?_⟩
    rw [htransports, List.mem_filterMap] at hentry
    obtain ⟨name, -, hname⟩ := hentry
    exact ⟨_, _, name, hname⟩

theorem chainEntry_ok {credentialType : Option String} {allowInsecure : Bool} {name : String}
    {entry : TransportPolicyEntry} (h : chainEntry credentialType allowInsecure name = some entry) :
    TransportCapability.ofValue (Text.upper name) = some entry.capability ∧
      entry.transportName = Text.lower name := by
  unfold chainEntry at h
  split at h
  · cases h
  · rename_i capability hcap
    split at h
    · cases h
    · split at h
      · cases h
      · cases h
        exact ⟨hcap, rfl⟩

theorem value_of_ofValue {text : String} {capability : TransportCapability}
    (h : TransportCapability.ofValue text = some capability) : text = capability.value := by
  have := List.find?_some h
  simpa using (beq_iff_eq.1 this).symm

/-- What a collector reads from the name of a chain entry: never `httpx`, never nothing, and
`telnet` only for the Telnet capability. -/
theorem chain_name {name : String} {capability : TransportCapability}
    (h : TransportCapability.ofValue (Text.upper name) = some capability) :
    optionalString (.str (Text.lower name)) ≠ none ∧
      optionalString (.str (Text.lower name)) ≠ some "httpx" ∧
      (optionalString (.str (Text.lower name)) = some "telnet" → capability = .telnet) := by
  have hvalue := value_of_ofValue h
  have hletter : ∀ l : Char, 97 ≤ l.toNat ∧ l.toNat ≤ 122 → l ≠ 'k' →
      l ∈ (Text.strip (Text.lower name)).toList → l.toUpper ∈ capability.value.toList := by
    intro l hl hk hmem
    rw [← hvalue]
    exact Text.mem_upper_of_mem_strip_lower hl hk hmem
  have hblank : Text.strip (Text.lower name) ≠ "" := by
    intro hempty
    have hspace := Text.isSpace_upper_of_strip_lower hempty
    rw [hvalue] at hspace
    have hvisible : capability.value.toList.any (fun c => !Text.isSpace c) = true := by
      cases capability <;> decide
    obtain ⟨c, hc, hc'⟩ := List.any_eq_true.1 hvisible
    simp [hspace c hc] at hc'
  have hoptional : optionalString (.str (Text.lower name)) =
      some (Text.strip (Text.lower name)) := by
    simp only [optionalString, PyVal.text, hblank, if_false]
  rw [hoptional]
  refine ⟨by simp, fun heq => ?_, fun heq => ?_⟩
  · -- no capability has an `X` in its name
    rw [Option.some.injEq] at heq
    have hx := hletter 'x' (by decide) (by decide) (by rw [heq]; decide)
    cases capability <;> exact absurd hx (by decide)
  · -- Telnet is the only one with a `T` and an `N`
    rw [Option.some.injEq] at heq
    have ht := hletter 't' (by decide) (by decide) (by rw [heq]; decide)
    have hn := hletter 'n' (by decide) (by decide) (by rw [heq]; decide)
    cases capability <;> first | rfl | exact absurd ht (by decide) | exact absurd hn (by decide)

/-! ## The collectors called -/

theorem mem_of_get {registry : CollectorRegistry} {name : String} {collector : Collector}
    (h : registry.get name = some collector) : collector ∈ registry.collectors.map (·.2) := by
  obtain ⟨e, he, rfl⟩ := Option.map_eq_some_iff.1 h
  exact List.mem_map_of_mem (List.mem_of_find?_eq_some he)

theorem mem_of_select {registry : CollectorRegistry} {capabilities : List CollectorCapability}
    {collector : Collector} (h : (registry.select capabilities).head? = some collector) :
    collector ∈ registry.collectors.map (·.2) :=
  (List.mem_filter.1 (List.mem_of_mem_head? h)).1

theorem resolveCollector_ok {registry : CollectorRegistry} {job : DiscoveryJobRecord}
    {target : DiscoveryTargetRecordView} {collector : Collector} {context : CollectorContext}
    (h : resolveCollector registry job target = .ok (collector, context)) :
    collector ∈ registry.collectors.map (·.2) ∧
      context = buildContext job (collectorTarget target) := by
  unfold resolveCollector at h
  cases hcap : requestedCapabilities job with
  | error e => simp [hcap, bind, Except.bind] at h
  | ok capabilities =>
    simp only [hcap, bind, Except.bind] at h
    split at h
    · split at h
      · rename_i hget
        cases h
        exact ⟨mem_of_get hget, rfl⟩
      · cases h
    · split at h
      · rename_i hselect
        cases h
        exact ⟨mem_of_select hselect, rfl⟩
      · cases h

theorem chainCollector_ok {registry : CollectorRegistry} {job : DiscoveryJobRecord}
    {transportName : String} {collector : Collector}
    (h : chainCollector registry job transportName = .ok (some collector)) :
    collector ∈ registry.collectors.map (·.2) := by
  have hmem : ∀ capabilities, ((requestedCollector job).bind registry.get <|>
      (registry.select capabilities).head? <|> (registry.select []).head?) = some collector →
        collector ∈ registry.collectors.map (·.2) := by
    intro capabilities h
    simp only [Option.orElse_eq_orElse, Option.orElse_eq_or, Option.or_eq_some_iff] at h
    rcases h with h | ⟨-, h | ⟨-, h⟩⟩
    · obtain ⟨name, -, hget⟩ := Option.bind_eq_some_iff.1 h
      exact mem_of_get hget
    · exact mem_of_select h
    · exact mem_of_select h
  unfold chainCollector at h
  cases hcap : transportToCollectorCapability (Text.lower transportName) with
  | some c =>
    simp only [hcap, bind, Except.bind, Except.ok.injEq] at h
    exact hmem _ h
  | none =>
    cases hreq : requestedCapabilities job with
    | error e => simp [hcap, hreq, bind, Except.bind] at h
    | ok capabilities =>
      simp only [hcap, hreq, bind, Except.bind, Except.ok.injEq] at h
      exact hmem _ h

theorem chainConfig_some {registry : CollectorRegistry} {job : DiscoveryJobRecord}
    {target : DiscoveryTargetRecordView} {policy : MultiTransportPolicy} {w : Watch}
    {entry : TransportPolicyEntry} {config : TransportAttemptConfig}
    (h : chainConfig registry job target policy w entry = some config) :
    forbidden policy entry = false ∧ config.collector ∈ registry.collectors.map (·.2) ∧
      config.context = buildContext job (chainTarget target entry.transportName) := by
  unfold chainConfig at h
  split at h
  · cases h
  · rename_i hskip
    rw [Bool.or_eq_true, not_or] at hskip
    split at h
    · rename_i collector hcollector
      cases h
      exact ⟨by simpa using hskip.2, chainCollector_ok hcollector, rfl⟩
    · cases h

theorem cisco_of_mem {m : ApplicationManager W}
    {collectors : List (String × CiscoInventoryCollector)} {collector : Collector}
    (h : collector ∈ (ciscoRegistry m.toTransportManager collectors).collectors.map (·.2)) :
    ∃ c : CiscoInventoryCollector, collector = c.toCollector m.toTransportManager := by
  rw [ciscoRegistry, List.map_map, List.mem_map] at h
  obtain ⟨e, -, rfl⟩ := h
  exact ⟨e.2, rfl⟩

/-! ## The opt-ins of a selection -/

/-- What the selector can pick for this platform and this preferred transport has its opt-in. -/
def Covered (target : DiscoveryTargetRecord) (platform : CiscoPlatformDefinition)
    (preferred : Option String) : Prop :=
  (.telnet ∈ platform.transportSupport → preferred = some "telnet" →
    target.allowInsecureTelnet = true) ∧
  (.http ∈ platform.transportSupport → (preferred = some "httpx" ∨ preferred = none ∧
    .ssh ∉ platform.transportSupport ∧ .telnet ∉ platform.transportSupport) →
    target.httpOptIn = true)

theorem selection_allowed_iff (m : ApplicationManager W) (target : DiscoveryTargetRecord)
    (platform : CiscoPlatformDefinition) (preferred : Option String) :
    (∀ selection, CiscoTransportSelector.select m.toTransportManager platform preferred =
      .ok selection → target.Allows selection.capability) ↔ Covered target platform preferred := by
  have htelnet := CiscoTransportSelector.select_telnet_iff m platform preferred
  have hhttp := CiscoTransportSelector.select_http_iff m platform preferred
  constructor
  · intro h
    refine ⟨fun hsupport hname => ?_, fun hsupport hname => ?_⟩
    · obtain ⟨name, hselect⟩ := htelnet.2 ⟨hname, hsupport⟩
      exact (h _ hselect).1 rfl
    · obtain ⟨name, hselect⟩ := hhttp.2 ⟨hsupport, hname⟩
      exact (h _ hselect).2 rfl
  · rintro ⟨hcoverTelnet, hcoverHttp⟩ ⟨capability, name⟩ hselect
    refine ⟨?_, ?_⟩
    · rintro rfl
      obtain ⟨hname, hsupport⟩ := htelnet.1 ⟨name, hselect⟩
      exact hcoverTelnet hsupport hname
    · rintro rfl
      obtain ⟨hsupport, hname⟩ := hhttp.1 ⟨name, hselect⟩
      exact hcoverHttp hsupport hname

theorem collect_opted_in_iff (m : ApplicationManager W) (target : DiscoveryTargetRecord)
    (c : CiscoInventoryCollector) (context : CollectorContext) :
    (c.collect m.toTransportManager context).Asks (OptedIn target) ↔
      ∀ platform, c.resolvePlatform context = .ok platform →
        Covered target platform (CiscoInventoryCollector.preferredTransport context) := by
  rw [CiscoInventoryCollector.collect_asks_iff fun _ => trivial]
  exact forall_congr' fun platform => imp_congr_right fun _ =>
    selection_allowed_iff m target platform _

/-! ## Both paths -/

/-- The fallback chain never opens an insecure transport without its opt-in. -/
theorem chain_opted_in {m : ApplicationManager W}
    {collectors : List (String × CiscoInventoryCollector)} {job : DiscoveryJobRecord}
    {target : DiscoveryTargetRecord} {profile : Option CredentialProfileRecord}
    {policy : MultiTransportPolicy} {w : Watch} {config : TransportAttemptConfig}
    (hpolicy : transportPolicy target.view.metadata profile = .ok policy)
    (hconfig : config ∈ buildTransportConfigs (ciscoRegistry m.toTransportManager collectors) job
      target.view policy w) :
    (config.collector.collect config.context).Asks (OptedIn target) := by
  obtain ⟨hflag, hentries⟩ := transportPolicy_ok hpolicy
  obtain ⟨entry, hentry, hsome⟩ := List.mem_filterMap.1 hconfig
  obtain ⟨credentialType, allowInsecure, name, hchain⟩ := hentries entry hentry
  obtain ⟨hcapability, hname⟩ := chainEntry_ok hchain
  obtain ⟨hallowed, hmem, hcontext⟩ := chainConfig_some hsome
  obtain ⟨c, hc⟩ := cisco_of_mem hmem
  obtain ⟨hsomeName, hnotHttpx, htelnet⟩ := chain_name hcapability
  rw [hc, hcontext]
  refine (collect_opted_in_iff m target c _).2 fun platform _ => ?_
  rw [preferredTransport_buildContext]
  simp only [chainTarget, getD_set, if_true, hname]
  refine ⟨fun _ heq => ?_, fun _ heq => ?_⟩
  · -- an entry for Telnet is forbidden without the opt-in
    have htelnet := htelnet heq
    have hflag : policy.allowInsecure = target.allowInsecureTelnet := by
      rw [hflag]
      exact congrArg PyVal.truthy (resolvedMetadata_optIns target).1
    simp only [forbidden, htelnet, beq_self_eq_true, Bool.true_and, Bool.or_eq_false_iff,
      Bool.not_eq_false'] at hallowed
    rw [← hflag]
    exact hallowed.1
  · rcases heq with heq | ⟨heq, -⟩
    · exact absurd heq hnotHttpx
    · exact absurd heq hsomeName

/-- The single path: the transport that the collector's platform and the metadata lead to is
covered by the opt-ins of the target. -/
def SingleCovered (m : ApplicationManager W)
    (collectors : List (String × CiscoInventoryCollector)) (job : DiscoveryJobRecord)
    (target : DiscoveryTargetRecord) : Prop :=
  ∀ (c : CiscoInventoryCollector) context,
    resolveCollector (ciscoRegistry m.toTransportManager collectors) job target.view =
      .ok (c.toCollector m.toTransportManager, context) →
    ∀ platform, c.resolvePlatform context = .ok platform →
      Covered target platform
        (optionalString ((resolvedMetadata target).getD "transport_name"))

/-- Every session request of an execution has its opt-in, if and only if the execution takes the
fallback chain, or the single path is covered. -/
theorem opted_in_iff (m : ApplicationManager W)
    (collectors : List (String × CiscoInventoryCollector)) (job : DiscoveryJobRecord)
    (target : DiscoveryTargetRecord) (profile : Option CredentialProfileRecord) (w : Watch) :
    (∀ call ∈ collectorCalls (ciscoRegistry m.toTransportManager collectors) job target.view
        profile w, (call.1.collect call.2).Asks (OptedIn target)) ↔
      (usesChain target.view = true ∨ SingleCovered m collectors job target) := by
  unfold collectorCalls
  cases hchain : usesChain target.view with
  | true =>
    simp only [if_true, true_or, iff_true]
    intro call hcall
    split at hcall
    · rename_i policy hpolicy
      obtain ⟨config, hconfig, rfl⟩ := List.mem_map.1 hcall
      exact chain_opted_in hpolicy hconfig
    · cases hcall
  | false =>
    simp only [Bool.false_eq_true, if_false, false_or]
    have hcollect : ∀ (c : CiscoInventoryCollector) context,
        resolveCollector (ciscoRegistry m.toTransportManager collectors) job target.view =
          .ok (c.toCollector m.toTransportManager, context) →
        ((c.collect m.toTransportManager context).Asks (OptedIn target) ↔
          ∀ platform, c.resolvePlatform context = .ok platform → Covered target platform
            (optionalString ((resolvedMetadata target).getD "transport_name"))) := by
      intro c context hres
      rw [collect_opted_in_iff, (resolveCollector_ok hres).2, preferredTransport_buildContext]
      rfl
    cases hres : resolveCollector (ciscoRegistry m.toTransportManager collectors) job
        target.view with
    | error e =>
      constructor
      · intro _ c context h
        rw [hres] at h
        cases h
      · intro _ call hcall
        cases hcall
    | ok call =>
      obtain ⟨collector, context⟩ := call
      obtain ⟨c, rfl⟩ := cisco_of_mem (resolveCollector_ok hres).1
      constructor
      · intro h c' context' h'
        have hcall := h _ (List.mem_singleton.2 rfl)
        have heq := h'.symm.trans hres
        rw [Except.ok.injEq, Prod.mk.injEq] at heq
        rw [← heq.1, ← heq.2] at hcall
        exact (hcollect c' context' h').1 hcall
      · intro h call hcall
        rw [List.mem_singleton.1 hcall]
        exact (hcollect c context hres).2 (h c context hres)

/-! ### HTTP without an opt-in -/

/-- The application's transports, none of which fails. -/
def steadyApplication : ApplicationManager Unit where
  registry := Transports.applicationCapabilities.map fun e =>
    ⟨e.1, e.2, fun _ _ => .ok (), fun _ _ => none, fun _ _ => none⟩
  registered := rfl

/-- An IOS XE switch that is to be reached over `httpx`, with a credential reference and neither
a profile nor an opt-in. -/
def httpxTarget : DiscoveryTargetRecord where
  id := 1
  tenantId := "tenant"
  identifier := "switch-01"
  address := "10.0.0.1"
  scopeType := .singleDevice
  scopeEnd := none
  scopeCidr := none
  vendor := none
  hostname := none
  platformHint := some "cisco-iosxe"
  preferredTransport := some "httpx"
  enabled := true
  credentialReference := "vault/switch"
  credentialProfileId := none
  credentialReferences := []
  allowedFallbackTransports := []
  allowInsecureTelnet := false
  allowInsecureHttp := false
  metadataJson := []

def httpxJob : DiscoveryJobRecord where
  id := 2
  tenantId := "tenant"
  targetId := 1
  runId := 3

def httpxWatch : Watch := ⟨"tenant", 2, none, false⟩

def httpxCollectors : List (String × CiscoInventoryCollector) :=
  inventoryCollectors fun _ _ => .ok true

def httpxContext : CollectorContext := buildContext httpxJob (collectorTarget httpxTarget.view)

/-- The first collector; the job names none. -/
def httpxCollector : CiscoInventoryCollector :=
  ⟨"cisco-catalyst-2960-inventory", [.interfaces, .vlans, .cdp, .lldp, .poe], "catalyst-2960",
    defaultRegistry, fun _ _ => .ok true⟩

theorem httpxCollector_platform :
    httpxCollector.resolvePlatform httpxContext = .ok catalyst2960x := by
  have hfamily : httpxCollector.requestedFamily httpxContext = "cisco-iosxe" := by decide
  have hcanonical : canonicalizeFamily "cisco-iosxe" = "catalyst-2960x" := by decide
  have hplatform : httpxCollector.familyPlatform "cisco-iosxe" = some catalyst2960x := by
    rw [CiscoInventoryCollector.familyPlatform, if_neg (by decide), hcanonical]
    rfl
  simp only [CiscoInventoryCollector.resolvePlatform, hfamily, hplatform, Option.orElse_eq_orElse,
    Option.orElse_some]

theorem httpxTarget_single : usesChain httpxTarget.view = false := by decide

theorem httpxTarget_collector :
    resolveCollector (ciscoRegistry steadyApplication.toTransportManager httpxCollectors) httpxJob
      httpxTarget.view =
        .ok (httpxCollector.toCollector steadyApplication.toTransportManager, httpxContext) := rfl

theorem httpxTarget_name :
    CiscoInventoryCollector.preferredTransport httpxContext = some "httpx" := by decide

theorem httpxTarget_calls :
    collectorCalls (ciscoRegistry steadyApplication.toTransportManager httpxCollectors) httpxJob
        httpxTarget.view none httpxWatch =
      [(httpxCollector.toCollector steadyApplication.toTransportManager, httpxContext)] := by
  rw [collectorCalls, httpxTarget_single, if_neg Bool.false_ne_true, httpxTarget_collector]

/-- HTTP is opened to a target that opted into nothing. -/
theorem opted_in_fails :
    ¬ ∀ call ∈ collectorCalls (ciscoRegistry steadyApplication.toTransportManager httpxCollectors)
        httpxJob httpxTarget.view none httpxWatch, (call.1.collect call.2).Asks
          (OptedIn httpxTarget) := by
  intro h
  have hcall := h _ (by rw [httpxTarget_calls]; exact List.mem_singleton.2 rfl)
  rw [CiscoInventoryCollector.toCollector_collect, collect_opted_in_iff] at hcall
  have hcovered := hcall catalyst2960x httpxCollector_platform
  exact absurd (hcovered.2 (by decide) (.inl httpxTarget_name)) (by decide)

end DiscoveryExecutionService
end Discovery
end NetOps
