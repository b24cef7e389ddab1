import NetOps.Discovery.Collectors
import NetOps.Discovery.Reconcile

/-!
# Discovery.MultiTransport

The fallback over the transports of a policy (`discovery/multi_transport.py`), and the attempts it
records (`DiscoveryTransportAttemptRepository`).

Every exception of a collector ends its attempt as failed, also the cancellation request and the
lost lease that the collector's cancellation check raises.
-/

namespace NetOps
namespace Discovery

open Text

/-! ## Attempts -/

namespace DiscoveryTransportAttemptRepository

def start (tenantId : String) (deviceResultId : UUID) (transport : String) (attemptOrder : Nat)
    (correlationId : Option String) : M DiscoveryTransportAttemptRecord := do
  let id ← uuid4
  let now ← utcNow
  let record : DiscoveryTransportAttemptRecord := {
    id := id
    tenantId := tenantId
    deviceResultId := deviceResultId
    transport := transport
    attemptOrder := attemptOrder
    result := .running
    startedAt := now
    correlationId := correlationId }
  insert .attempts record
  pure record

/-- `max(0, int((completed_at - started_at).total_seconds() * 1000))`. -/
def durationMs (startedAt completedAt : DateTime) : Int := max 0 ((completedAt - startedAt) / 1000)

def finish (record : DiscoveryTransportAttemptRecord) (result : AttemptResult)
    (failureCode : Option DiscoveryFailureCode) (failureMessage : Option String) : M Unit := do
  let completedAt ← utcNow
  change .attempts record.id fun r => { r with
    result := result
    failureCode := failureCode
    failureMessage := failureMessage
    completedAt := some completedAt
    durationMs := some (durationMs record.startedAt completedAt) }
  flush

end DiscoveryTransportAttemptRepository

/-- What the execution is set up with. `redact` stands for the substitutions that hide secrets in
a message; of them only the result is used. -/
structure Runtime where
  registry : CollectorRegistry
  redact : String → String

namespace MultiTransportDiscoveryOrchestrator

/-! ## Exceptions of an attempt -/

/-- `type(exc).__name__.lower()` is one of the names of a timeout. -/
def isTimeoutError : Exn → Bool
  | .timeout _ => true
  | _ => false

def isConnectionRefused : Exn → Bool
  | .connectionRefused _ => true
  | _ => false

/-- `_classify_exception`. -/
def classifyException (e : Exn) : DiscoveryFailureCode :=
  match e with
  | .credentialResolution _ => .credentialResolutionFailed
  | .transportAuthentication _ => .authenticationFailed
  | .transportUnavailable _ => .transportUnavailable
  | e =>
    let message := lower e.text
    if hasAny ["authentication", "unauthorized", "credential", "login", "auth"] message then
      .authenticationFailed
    else if hasPart "refused" message || isConnectionRefused e then .connectionRefused
    else if hasAny ["timeout", "timed out"] message || isTimeoutError e then .connectionTimeout
    else if hasAny ["connection", "network", "unreachable"] message then .connectionFailed
    else if hasPart "transport" message then .transportUnavailable
    else .discoveryFailed

/-- `_safe_failure_message`; `None` of a blank message. -/
def safeFailureMessage (redact : String → String) (message : String) : Option String :=
  let message := strip message
  if message = "" then none
  else
    let safe := take 500 (redact message)
    if safe = "" then none else some safe

/-! ## One attempt -/

/-- One transport of the chain. `cancellationCheck` is the check in the context's metadata. -/
structure TransportAttemptConfig where
  transportName : String
  capability : TransportCapability
  collector : Collector
  context : CollectorContext
  isInsecure : Bool
  cancellationCheck : M Unit

structure TransportAttemptResult where
  transportName : String
  attemptOrder : Nat
  failureCode : Option DiscoveryFailureCode := none
  failureMessage : Option String := none
  payload : Option PyDict := none

/-- An attempt succeeded if and only if it has a payload. -/
def TransportAttemptResult.success (r : TransportAttemptResult) : Bool := r.payload.isSome

/-- The keys of which one identifies a device. -/
def deviceKeys : List String := ["device_info", "facts", "inventory", "hostname", "platform"]

/-- `has_device_info or payload.get("success")`. -/
def identifies (payload : PyDict) : Bool :=
  deviceKeys.any (fun key => (payload.get? key).isSome) || (payload.getD "success").truthy

/-- `validate_payload`, of a collector with a parser. -/
def validates (config : TransportAttemptConfig) (payload : PyDict) : Except Exn Bool :=
  if config.collector.parser.isSome then config.collector.normalize config.context payload
  else .ok false

/-- The payload of an attempt, if it is useful. -/
def attemptPayload (config : TransportAttemptConfig) : M (Option PyDict) := do
  callCollector config.context config.cancellationCheck
    (config.collector.healthCheck config.context)
  let payload ← callCollector config.context config.cancellationCheck
    (config.collector.collect config.context)
  if payload = [] then pure none
  else do
    let valid ← unwrap (validates config payload)
    pure (if valid || identifies payload then some payload else none)

/-- `_execute_transport_attempt`. -/
def executeTransportAttempt (redact : String → String) (config : TransportAttemptConfig)
    (attemptOrder : Nat) : M TransportAttemptResult := do
  match ← catching (attemptPayload config) with
  | .ok (some payload) => pure {
      transportName := config.transportName
      attemptOrder := attemptOrder
      payload := some payload }
  | .ok none => pure {
      transportName := config.transportName
      attemptOrder := attemptOrder
      failureCode := some .discoveryFailed
      failureMessage := some "Collector did not return device identification data" }
  | .error e => pure {
      transportName := config.transportName
      attemptOrder := attemptOrder
      failureCode := some (classifyException e)
      failureMessage := safeFailureMessage redact e.text }

/-! ## The chain -/

/-- What the attempts so far say, newest attempt first. -/
structure Progress where
  attempts : List TransportAttemptResult := []
  hostIsReachable : Bool := false
  anyAuthFailed : Bool := false
  anyServiceAvailable : Bool := false
  anyTransportUnavailable : Bool := false

/-- Take in the result of one attempt. -/
def Progress.add (p : Progress) (r : TransportAttemptResult) : Progress :=
  if r.success then
    { p with attempts := r :: p.attempts, hostIsReachable := true, anyServiceAvailable := true }
  else
    let i := classifyTransportFailure r.failureCode
    { attempts := r :: p.attempts
      hostIsReachable := p.hostIsReachable || i.isReachable
      anyAuthFailed := p.anyAuthFailed || i.authFailed
      anyServiceAvailable := p.anyServiceAvailable || i.serviceAvailable
      anyTransportUnavailable := p.anyTransportUnavailable || i.transportUnavailable }

structure MultiTransportDiscoveryResult where
  resultState : DiscoveryResultState
  selectedTransport : Option String
  attempts : List TransportAttemptResult
  discoveryPayload : Option PyDict
  completedAt : DateTime

/-- The attempt that succeeded, which is the last one. -/
def Progress.success (p : Progress) : Option TransportAttemptResult :=
  p.attempts.head?.filter (·.success)

def Progress.result (p : Progress) (completedAt : DateTime) : MultiTransportDiscoveryResult where
  resultState := .fromFailureAndSuccess p.hostIsReachable p.anyServiceAvailable p.anyAuthFailed
    false p.success.isSome p.anyTransportUnavailable
  selectedTransport := p.success.map (·.transportName)
  attempts := p.attempts.reverse
  discoveryPayload := p.success.bind (·.payload)
  completedAt := completedAt

/-- Record the start of an attempt; a failure to record it is dropped. -/
def startAttempt (deviceResult : DiscoveryDeviceResultRecord) (transportName : String)
    (attemptOrder : Nat) : M (Option DiscoveryTransportAttemptRecord) :=
  tryCatch (do
    let record ← DiscoveryTransportAttemptRepository.start deviceResult.tenantId deviceResult.id
      transportName attemptOrder deviceResult.correlationId
    pure (some record)) fun _ => pure none

/-- Record the end of an attempt; a failure to record it is dropped. -/
def finishAttempt (redact : String → String) (record : Option DiscoveryTransportAttemptRecord)
    (r : TransportAttemptResult) : M Unit :=
  match record with
  | none => pure ()
  | some record =>
    tryCatch
      (if r.success then DiscoveryTransportAttemptRepository.finish record .success none none
      else DiscoveryTransportAttemptRepository.finish record .failed r.failureCode
        (r.failureMessage.bind (safeFailureMessage redact))) fun _ => pure ()

/-- The attempts from `attemptOrder` on, until one succeeds. -/
def attemptAll (redact : String → String) (deviceResult : DiscoveryDeviceResultRecord) :
    Nat → Progress → List TransportAttemptConfig → M Progress
  | _, p, [] => pure p
  | attemptOrder, p, config :: configs => do
    let record ← startAttempt deviceResult config.transportName attemptOrder
    let r ← executeTransportAttempt redact config attemptOrder
    finishAttempt redact record r
    if r.success then pure (p.add r)
    else attemptAll redact deviceResult (attemptOrder + 1) (p.add r) configs

/-- `discover_with_fallback`, without the probing of services, which its caller turns off. -/
def discoverWithFallback (redact : String → String) (configs : List TransportAttemptConfig)
    (deviceResult : DiscoveryDeviceResultRecord) : M MultiTransportDiscoveryResult := do
  let p ← attemptAll redact deviceResult 1 {} configs
  let completedAt ← utcNow
  pure (p.result completedAt)

/-! ## The result of a chain -/

/-- A chain is classified as discovered if and only if it has a payload. -/
theorem Progress.discovered_iff (p : Progress) (now : DateTime) :
    (p.result now).resultState = .discovered ↔ (p.result now).discoveryPayload.isSome = true := by
  have hs : ∀ r, p.success = some r → r.payload.isSome = true := by
    intro r hr
    exact (Option.filter_eq_some_iff.1 hr).2
  unfold result DiscoveryResultState.fromFailureAndSuccess
  cases h : p.success with
  | none =>
    simp only [Option.isSome_none, Bool.false_eq_true, if_false, Option.bind_none, iff_false]
    split_ifs <;> simp
  | some r => simp [hs r h]

end MultiTransportDiscoveryOrchestrator
end Discovery
end NetOps
