import NetOps.Conc.Store

/-!
# Discovery.Contracts

The discovery domain contracts (`discovery/contracts.py`, `discovery/leases.py`,
`discovery/result_states.py`, `transports/base.py`): job states and their transitions, failure
codes, scope types, result classifications, transport capabilities, and the lease constants.
-/

namespace NetOps
namespace Discovery

/-- UUIDs, by their 128-bit integer. -/
abbrev UUID := Nat

/-- UTC timestamps and intervals, in microseconds. -/
abbrev DateTime := Int

/-! ## Job states -/

inductive DiscoveryJobStatus where
  | queued
  | running
  | succeeded
  | failed
  | timedOut
  | cancelled
  deriving DecidableEq

namespace DiscoveryJobStatus

def value : DiscoveryJobStatus → String
  | queued => "queued"
  | running => "running"
  | succeeded => "succeeded"
  | failed => "failed"
  | timedOut => "timed_out"
  | cancelled => "cancelled"

def isTerminal : DiscoveryJobStatus → Bool
  | succeeded | failed | timedOut | cancelled => true
  | queued | running => false

end DiscoveryJobStatus

open DiscoveryJobStatus in
/-- `_ALLOWED_TRANSITIONS`. -/
def allowedTransitions : DiscoveryJobStatus → List DiscoveryJobStatus
  | queued => [running, cancelled]
  | running => [succeeded, failed, timedOut, cancelled]
  | succeeded => []
  | failed => []
  | timedOut => []
  | cancelled => []

def transitionJob (current target : DiscoveryJobStatus) : Except String DiscoveryJobStatus :=
  if target ∈ allowedTransitions current then .ok target
  else .error s!"Invalid discovery job transition: {current.value} -> {target.value}."

theorem transitionJob_ok {current target s : DiscoveryJobStatus}
    (h : transitionJob current target = .ok s) : s = target ∧ current.isTerminal = false := by
  unfold transitionJob at h
  split at h
  · rename_i hm
    cases h
    refine ⟨rfl, ?_⟩
    cases current <;> first | rfl | simp [allowedTransitions] at hm
  · cases h

/-- No job becomes queued. -/
theorem transitionJob_target {current target s : DiscoveryJobStatus}
    (h : transitionJob current target = .ok s) : target ≠ .queued := by
  rintro rfl
  cases current <;> simp [transitionJob, allowedTransitions] at h

/-! ## Failure codes -/

inductive DiscoveryFailureCode where
  | targetNotFound
  | targetDisabled
  | unsupportedVendor
  | credentialResolutionFailed
  | authenticationFailed
  | unsupportedCredential
  | connectionFailed
  | connectionTimeout
  | hostUnreachable
  | connectionRefused
  | timeout
  | discoveryTimeout
  | discoveryFailed
  | transportUnavailable
  | transportDisabled
  | unsupportedPlatform
  | ambiguousPlatform
  | unsupportedCapability
  | collectorFailed
  | parserFailed
  | normalizationFailed
  | evidencePersistenceFailed
  | snapshotPersistenceFailed
  | cancelled
  deriving DecidableEq

/-! ## Scopes -/

inductive DiscoveryScopeType where
  | singleDevice
  | ipRange
  | cidrNetwork
  | deviceGroup
  | netboxScope
  deriving DecidableEq

/-- `scope_type in {"ip_range", "cidr_network"}`: the scopes that fan out. -/
def DiscoveryScopeType.fansOut : DiscoveryScopeType → Bool
  | ipRange | cidrNetwork => true
  | singleDevice | deviceGroup | netboxScope => false

/-! ## Result classifications -/

inductive DiscoveryResultState where
  | unreachable
  | reachableNoManagement
  | authenticationFailed
  | partialDiscovery
  | discovered
  | unverified
  | cancelled
  | interrupted
  deriving DecidableEq

/-- `DiscoveryResultState.from_failure_and_success`. -/
def DiscoveryResultState.fromFailureAndSuccess (isReachable hasManagementService authFailed
    hasPartialData isFullyDiscovered transportUnavailable : Bool) : DiscoveryResultState :=
  if isFullyDiscovered then .discovered
  else if hasPartialData then .partialDiscovery
  else if authFailed then .authenticationFailed
  else if transportUnavailable then .unverified
  else if !isReachable then .unreachable
  else if !hasManagementService then .reachableNoManagement
  else .reachableNoManagement

/-- What a transport failure says of the device. -/
structure FailureIndicators where
  isReachable : Bool
  authFailed : Bool
  serviceAvailable : Bool
  transportUnavailable : Bool

def classifyTransportFailure : Option DiscoveryFailureCode → FailureIndicators
  | none => ⟨true, false, true, false⟩
  | some .authenticationFailed => ⟨true, true, true, false⟩
  | some .credentialResolutionFailed => ⟨true, false, false, false⟩
  | some .unsupportedCredential => ⟨true, false, true, false⟩
  | some .transportDisabled => ⟨true, false, false, false⟩
  | some .connectionRefused => ⟨true, false, false, false⟩
  | some .hostUnreachable | some .connectionTimeout | some .timeout | some .discoveryTimeout =>
    ⟨false, false, false, false⟩
  | some .transportUnavailable => ⟨false, false, false, true⟩
  | some .discoveryFailed | some .collectorFailed | some .parserFailed | some .normalizationFailed
  | some .evidencePersistenceFailed | some .snapshotPersistenceFailed => ⟨true, false, true, false⟩
  | some .connectionFailed => ⟨false, false, false, false⟩
  | some _ => ⟨true, false, true, false⟩

/-! ## Transports -/

inductive TransportCapability where
  | ssh
  | snmp
  | telnet
  | icmp
  | http
  | https
  deriving DecidableEq

namespace TransportCapability

def value : TransportCapability → String
  | ssh => "SSH"
  | snmp => "SNMP"
  | telnet => "TELNET"
  | icmp => "ICMP"
  | http => "HTTP"
  | https => "HTTPS"

def all : List TransportCapability := [ssh, snmp, telnet, icmp, http, https]

/-- `TransportCapability(value)`; `none` is a `ValueError`. -/
def ofValue (text : String) : Option TransportCapability := all.find? fun c => c.value == text

end TransportCapability

/-! ## Leases -/

/-- `PROTECTED_DISCOVERY_JOB_ID`: d792bcff-fb06-4428-ab53-557e0cd6eeb9. -/
def protectedDiscoveryJobId : UUID := 0xd792bcfffb064428ab53557e0cd6eeb9

/-- `DISCOVERY_JOB_LEASE_SECONDS`. -/
def discoveryJobLeaseSeconds : DateTime := 120000000

def leaseExpiredMessage : String :=
  "Discovery worker lease expired; execution was not resumed."

def heartbeatLostMessage : String :=
  "Discovery worker heartbeat failed; execution was stopped without resume."

end Discovery
end NetOps
